import Monomorph.Proofs.FileSystem.Place

/-!
Making directories. The directories above a file are made from the first one that is missing on, and
nothing else changes. If all goes well, the path of the file leads through directories afterwards.
-/

namespace Monomorph.FileSystem

variable {fs fs' fs'' : FileSystem} {here q : Place} {path : Path} {places more : List Place}

/-- What stands at a place is what stood there, unless nothing did and the place is one of those where a
directory may be made. -/
def Stays (places : List Place) (fs fs' : FileSystem) (q : Place) : Prop :=
  fs'.node? q = fs.node? q ∨ q ∈ places ∧ fs.node? q = none ∧ fs'.node? q = some .directory

theorem Stays.trans (h : Stays places fs fs' q) (h' : Stays places fs' fs'' q) :
    Stays places fs fs'' q := by
  rcases h with hq | ⟨hmem, hnone, hdir⟩
  · rcases h' with hq' | ⟨hmem, hnone, hdir⟩
    · exact .inl (hq'.trans hq)
    · exact .inr ⟨hmem, hq ▸ hnone, hdir⟩
  · rcases h' with hq' | ⟨-, hnone', -⟩
    · exact .inr ⟨hmem, hnone, hq'.trans hdir⟩
    · rw [hdir] at hnone'
      cases hnone'

/-- Directories were made at some of these places, where nothing was, and nothing else has changed. -/
def Grows (places : List Place) (fs fs' : FileSystem) : Prop := ∀ q, Stays places fs fs' q

namespace Grows

theorem refl (fs : FileSystem) : Grows places fs fs := fun _ => .inl rfl

theorem trans (h : Grows places fs fs') (h' : Grows places fs' fs'') : Grows places fs fs'' :=
  fun q => (h q).trans (h' q)

theorem mono (h : Grows places fs fs') (hsub : ∀ q ∈ places, q ∈ more) : Grows more fs fs' := by
  intro q
  rcases h q with hq | ⟨hmem, hnew⟩
  · exact .inl hq
  · exact .inr ⟨hsub q hmem, hnew⟩

/-- What stands at a place stays. -/
theorem node?_eq (h : Grows places fs fs') {node : Node} (hq : fs.node? q = some node) :
    fs'.node? q = some node := by
  rcases h q with hsame | ⟨-, hnone, -⟩
  · exact hsame.trans hq
  · rw [hq] at hnone
    cases hnone

end Grows

/-- The places that a path leads through to what is in its directory. -/
def inside (path : Path) (here : Place) : List Place := path.above here ++ [path.placeFrom here]

theorem above_child (path : Path) (here : Place) (name : String) :
    (path.child name).above here = inside path here :=
  Place.through_append (path.start here) path.parts [name]

theorem start_mem_inside (path : Path) (here : Place) : path.start here ∈ inside path here := by
  obtain ⟨root, parts⟩ := path
  cases parts with
  | nil => exact List.mem_singleton_self _
  | cons part parts => exact List.mem_cons_self

/-- All directories that a path leads through are there, and the one that it leads to. -/
def Opens (fs : FileSystem) (here : Place) (path : Path) : Prop :=
  ∀ q ∈ inside path here, fs.node? q = some .directory

theorem Opens.reaches_child (h : fs.Opens here path) (name : String) :
    fs.Reaches here (path.child name) := by
  rwa [Reaches, above_child]

theorem Opens.of_put {node : Node} (h : fs.Opens here path) (hq : fs.node? q ≠ some .directory) :
    (fs.put q node).Opens here path := by
  intro r hr
  rw [node?_put (by rintro rfl; exact hq rfl), if_neg (by rintro rfl; exact hq (h _ hr))]
  exact h r hr

theorem Opens.of_erase (h : fs.Opens here path) (hq : fs.node? q ≠ some .directory) :
    (fs.erase q).Opens here path := by
  intro r hr
  rw [node?_erase (by rintro rfl; exact hq rfl), if_neg (by rintro rfl; exact hq (h _ hr))]
  exact h r hr

theorem makeDirectory_eq_ok_iff : fs.makeDirectory here path = .ok fs' ↔
    path.IsFit ∧ fs.Reaches here path ∧ fs.node? (path.placeFrom here) = none ∧
      fs' = fs.put (path.placeFrom here) .directory := by
  rw [makeDirectory]
  cases hplace : fs.place? here path with
  | error fault =>
    simp only [bind, Except.bind, reduceCtorEq, false_iff]
    rintro ⟨hfit, hreaches, -⟩
    rw [place?_eq_ok_iff.2 ⟨hfit, hreaches, rfl⟩] at hplace
    cases hplace
  | ok place =>
    obtain ⟨hfit, hreaches, rfl⟩ := place?_eq_ok_iff.1 hplace
    cases hnode : fs.node? (path.placeFrom here) with
    | none => simp [bind, Except.bind, hnode, hfit, hreaches, eq_comm]
    | some n => simp [bind, Except.bind, hnode]

theorem makeDirectory_ne_nameless (hname : path.isNameable = true) :
    fs.makeDirectory here path ≠ .error .nameless := by
  rw [makeDirectory]
  cases hplace : fs.place? here path with
  | error fault =>
    have hother := nameable_of_place? hplace hname
    simpa [bind, Except.bind] using hother
  | ok place =>
    simp only [bind, Except.bind]
    split <;> simp

/-- What making the directories of a path comes to: at most directories on the way are made, and if it
works they are all there. -/
structure MakesWay (fs : FileSystem) (here : Place) (path : Path)
    (made : Except FileFault Unit × FileSystem) : Prop where
  grows : Grows (inside path here) fs made.2
  opens : made.1 = .ok () → made.2.Opens here path
  fault : path.isNameable = true → made.1 ≠ .error .nameless

theorem makesWay_of_makeDirectory (h : fs.makeDirectory here path = .ok fs') :
    MakesWay fs here path (.ok (), fs') := by
  obtain ⟨-, hreaches, hnone, rfl⟩ := makeDirectory_eq_ok_iff.1 h
  have hplace : path.placeFrom here ≠ [] := by
    intro hroot
    rw [hroot, node?_nil] at hnone
    cases hnone
  have hgrows : Grows (inside path here) fs (fs.put (path.placeFrom here) .directory) := by
    intro q
    rw [Stays, node?_put hplace]
    by_cases hq : q = path.placeFrom here
    · subst hq
      exact .inr ⟨List.mem_append_right _ (List.mem_singleton_self _), hnone, if_pos rfl⟩
    · exact .inl (if_neg hq)
  refine ⟨hgrows, fun _ q hq => ?_, fun _ h => by cases h⟩
  rcases List.mem_append.1 hq with hq | hq
  · exact hgrows.node?_eq (hreaches q hq)
  · rw [node?_put hplace, if_pos (List.mem_singleton.1 hq)]

theorem makesWay_of_isDirectory (h : fs.isDirectory here path = true) :
    MakesWay fs here path (.ok (), fs) := by
  refine ⟨.refl fs, fun _ q hq => ?_, fun _ h => by cases h⟩
  unfold isDirectory at h
  split at h
  · next hkind =>
    obtain ⟨hfit, hreaches, -⟩ := exists_of_kind? hkind
    rcases List.mem_append.1 hq with hq | hq
    · exact hreaches q hq
    · rw [List.mem_singleton.1 hq]
      rw [kind?, place?_eq_ok_iff.2 ⟨hfit, hreaches, rfl⟩] at hkind
      cases hnode : fs.node? (path.placeFrom here) with
      | none => simp [hnode] at hkind
      | some n =>
        cases n with
        | directory => rfl
        | file content => simp [hnode, Node.kind] at hkind
  · cases h

/-- Making one directory; what happens if it cannot be made is left open. -/
theorem makesWay_attempt {otherwise : FileFault → Except FileFault Unit × FileSystem}
    (hother : ∀ fault, fs.makeDirectory here path = .error fault → MakesWay fs here path (otherwise fault)) :
    MakesWay fs here path (match fs.makeDirectory here path with
      | .ok fs => (.ok (), fs)
      | .error fault => if fs.isDirectory here path then (.ok (), fs) else otherwise fault) := by
  split
  · next h => exact makesWay_of_makeDirectory h
  · next fault h =>
    split
    · next hdir => exact makesWay_of_isDirectory hdir
    · exact hother fault h

theorem makesWay_failed {fault : FileFault} (hfault : path.isNameable = true → fault ≠ .nameless) :
    MakesWay fs here path (.error fault, fs) :=
  ⟨.refl fs, fun h => absurd h (by simp), fun hname h => hfault hname (Except.error.inj h)⟩

theorem MakesWay.after {made : Except FileFault Unit × FileSystem} (h : MakesWay fs' here path made)
    (hbefore : Grows (inside path here) fs fs') : MakesWay fs here path made :=
  ⟨hbefore.trans h.grows, h.opens, h.fault⟩

/-- Making the directories of a path makes way. -/
theorem makesWay_makeDirectoriesAt (fs : FileSystem) (here : Place) (root : Path.Root)
    (names : List String)
    (hstart : fs.node? ((⟨root, names.reverse⟩ : Path).start here) = some .directory) :
    MakesWay fs here ⟨root, names.reverse⟩ (fs.makeDirectoriesAt here root names) := by
  induction names with
  | nil =>
    refine ⟨.refl fs, fun _ q hq => ?_, fun _ h => by cases h⟩
    obtain rfl : q = (⟨root, [].reverse⟩ : Path).start here := by
      simpa [inside, Path.above, Path.placeFrom, Place.through] using hq
    exact hstart
  | cons name names ih =>
    rw [makeDirectoriesAt]
    refine makesWay_attempt fun fault hfault => ?_
    have hnameless : (⟨root, (name :: names).reverse⟩ : Path).isNameable = true → fault ≠ .nameless := by
      rintro hname rfl
      exact makeDirectory_ne_nameless hname hfault
    have hpath : (⟨root, (name :: names).reverse⟩ : Path) = (⟨root, names.reverse⟩ : Path).child name := by
      rw [Path.child, List.reverse_cons]
    have hinside : ∀ q ∈ inside ⟨root, names.reverse⟩ here,
        q ∈ inside ⟨root, (name :: names).reverse⟩ here := fun q hq => by
      rw [hpath, inside, above_child]
      exact List.mem_append_left _ hq
    split
    · have habove := ih hstart
      split
      · next fs' hmade =>
        rw [hmade] at habove
        refine (makesWay_attempt fun fault hfault => makesWay_failed ?_).after (habove.grows.mono hinside)
        rintro hname rfl
        exact makeDirectory_ne_nameless hname hfault
      · next made hfailed =>
        refine ⟨habove.grows.mono hinside, fun hok => ?_, fun hname => habove.fault ?_⟩
        · exact (hfailed _ (Prod.ext hok rfl)).elim
        · rw [hpath, Path.isNameable, Path.child, List.all_append, Bool.and_eq_true] at hname
          exact hname.1
    · exact makesWay_failed hnameless

/-- Making the directories of a path makes way, if the path starts at a directory. -/
theorem makesWay_makeDirectories (fs : FileSystem) (here : Place) (path : Path)
    (hstart : fs.node? (path.start here) = some .directory) :
    MakesWay fs here path (fs.makeDirectories here path) := by
  have hpath : (⟨path.root, path.parts.reverse.reverse⟩ : Path) = path := by rw [List.reverse_reverse]
  have hway := makesWay_makeDirectoriesAt fs here path.root path.parts.reverse (by rwa [hpath])
  rwa [hpath] at hway

end Monomorph.FileSystem
