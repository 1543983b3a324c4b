import Monomorph.Proofs.FileSystem.Tree

/-!
Directories that cannot be made. Where making the directories of a path fails it fails again, and changes
nothing more. The fault may be another one only if the path leads up out of a directory that was missing at
first: then a later name meets a file that nothing could meet before.
-/

namespace Monomorph

namespace Path

variable {p : Path} {name : String}

theorem start_child (p : Path) (name : String) (here : Place) : (p.child name).start here = p.start here :=
  rfl

/-- The last part of a joined text stands at its end. -/
theorem joinWith_concat (sep : List Char) (ps : List (List Char)) (last : List Char) :
    Text.joinWith sep (ps ++ [last]) = Text.joinWith sep ps ++ (if ps = [] then last else sep ++ last) := by
  induction ps with
  | nil => rfl
  | cons q ps ih =>
    rw [List.cons_append, Text.joinWith_cons sep q (by simp), ih]
    cases ps with
    | nil => simp [Text.joinWith]
    | cons r ps => simp [Text.joinWith_cons sep q (List.cons_ne_nil r ps)]

/-- A path is not longer than one that goes on from it. -/
theorem utf8ByteSize_le_child (p : Path) (name : String) :
    p.toString.utf8ByteSize ≤ (p.child name).toString.utf8ByteSize := by
  obtain ⟨root, parts⟩ := p
  have htext : root.text ++ Text.join "/" (parts ++ [name]) = root.text ++ Text.join "/" parts ++
      (if parts = [] then name else "/" ++ name) := by
    apply String.toList_injective
    simp only [Text.join, String.toList_append, String.toList_ofList, List.map_append, List.map_singleton,
      joinWith_concat, List.map_eq_nil_iff, List.append_assoc]
    split <;> simp
  have hle := utf8ByteSize_dot_le (root.text ++ Text.join "/" parts) (if parts = [] then name else "/" ++ name)
  rwa [← htext] at hle

theorem IsFit.of_child (h : (p.child name).IsFit) : p.IsFit where
  nameable := by
    have hall := h.nameable
    rw [isNameable_child, Bool.and_eq_true] at hall
    exact hall.1
  short := Nat.le_trans (utf8ByteSize_le_child p name) h.short
  names part hpart := h.names part (List.mem_append_left _ hpart)

end Path

namespace FileSystem

variable {fs fs' : FileSystem} {here place : Place} {path : Path} {names more : List String} {name : String}
  {fault fault' : FileFault}

/-! ### Walking -/

theorem walk_append (fs : FileSystem) (here : Place) (names more : List String) :
    fs.walk here (names ++ more) = fs.walk here names >>= fun place => fs.walk place more := by
  induction names generalizing here with
  | nil => rfl
  | cons name names ih =>
    rw [List.cons_append, walk, walk]
    split
    · rfl
    · rfl
    · split
      · exact ih _
      · split
        · rfl
        · exact ih _

/-- Walking fails for one of three reasons. -/
theorem walk_eq_error (h : fs.walk here names = .error fault) :
    fault = .missing ∨ fault = .notDirectory ∨ fault = .nameTooLong := by
  induction names generalizing here with
  | nil => cases h
  | cons name names ih =>
    rw [walk] at h
    split at h
    · cases h
      exact .inl rfl
    · cases h
      exact .inr (.inl rfl)
    · split at h
      · exact ih h
      · split at h
        · cases h
          exact .inr (.inr rfl)
        · exact ih h

/-- Walking comes to a name that is too long through directories. As long as these are there it does. -/
theorem walk_tooLong (h : fs.walk here names = .error .nameTooLong)
    (hkept : ∀ q, fs.node? q = some .directory → fs'.node? q = some .directory) :
    fs'.walk here names = .error .nameTooLong := by
  induction names generalizing here with
  | nil => cases h
  | cons name names ih =>
    rw [walk] at h ⊢
    split at h
    · cases h
    · cases h
    · next hdir =>
      rw [hkept here hdir]
      dsimp only
      split at h
      · next hup =>
        rw [if_pos hup]
        exact ih h
      · next hup =>
        rw [if_neg hup]
        split at h
        · next hlong => rw [if_pos hlong]
        · next hlong =>
          rw [if_neg hlong]
          exact ih h

theorem place?_eq_walk (hname : path.isNameable = true) (hshort : path.toString.utf8ByteSize ≤ longestPath) :
    fs.place? here path = fs.walk (path.start here) path.parts := by
  unfold place?
  rw [hname, Bool.not_true, if_neg Bool.false_ne_true, if_neg (Nat.not_lt_of_le hshort)]
  rfl

theorem short_of_place?_missing (h : fs.place? here path = .error .missing) :
    path.isNameable = true ∧ path.toString.utf8ByteSize ≤ longestPath := by
  unfold place? at h
  split at h
  · cases h
  · next hname =>
    split at h
    · cases h
    · next hlong => exact ⟨by simpa using hname, Nat.le_of_not_lt hlong⟩

/-- A path names no place for one of four reasons. -/
theorem place?_eq_error (h : fs.place? here path = .error fault) :
    fault = .nameless ∨ fault = .missing ∨ fault = .notDirectory ∨ fault = .nameTooLong := by
  unfold place? at h
  split at h
  · cases h
    exact .inl rfl
  · split at h
    · cases h
      exact .inr (.inr (.inr rfl))
    · exact .inr (walk_eq_error h)

theorem place?_tooLong (h : fs.place? here path = .error .nameTooLong)
    (hkept : ∀ q, fs.node? q = some .directory → fs'.node? q = some .directory) :
    fs'.place? here path = .error .nameTooLong := by
  unfold place? at h ⊢
  split at h
  · cases h
  · next hname =>
    rw [if_neg hname]
    split at h
    · next hlong => rw [if_pos hlong]
    · next hlong =>
      rw [if_neg hlong]
      exact walk_tooLong h hkept

/-- If something cannot be told about a path, then because it is too long or holds a name that is. -/
theorem place?_of_kind?_error (h : fs.kind? here path = .error fault) :
    fault = .nameTooLong ∧ fs.place? here path = .error .nameTooLong := by
  unfold kind? at h
  split at h
  · cases h
  · cases h
  · cases h
  · cases h
  · next fault' hmissing hnot hnameless hplace =>
    cases h
    rcases place?_eq_error hplace with rfl | rfl | rfl | rfl
    · exact absurd rfl hnameless
    · exact absurd rfl hmissing
    · exact absurd rfl hnot
    · exact ⟨rfl, hplace⟩

theorem kind?_tooLong (h : fs.place? here path = .error .nameTooLong) :
    fs.kind? here path = .error .nameTooLong := by
  rw [kind?, h]

/-- Walking through directories only a name can be in the way. -/
theorem fault_of_walk (h : ∀ q ∈ Place.through here names, fs.node? q = some .directory)
    (hwalk : fs.walk here names = .error fault) : fault = .nameTooLong := by
  induction names generalizing here with
  | nil => cases hwalk
  | cons name names ih =>
    obtain ⟨hhere, hrest⟩ := List.forall_mem_cons.1 h
    rw [walk, hhere] at hwalk
    dsimp only at hwalk
    split at hwalk
    · next hup =>
      rw [Path.step, if_pos hup] at hrest
      exact ih hrest hwalk
    · next hup =>
      rw [Path.step, if_neg hup] at hrest
      split at hwalk
      · exact (Except.error.inj hwalk).symm
      · exact ih hrest hwalk

/-- On a path through directories nothing but the path itself can be in the way. -/
theorem fault_of_reaches (h : fs.Reaches here path) (hplace : fs.place? here path = .error fault) :
    fault = .nameless ∨ fault = .nameTooLong := by
  unfold place? at hplace
  split at hplace
  · exact .inl (Except.error.inj hplace).symm
  · split at hplace
    · exact .inr (Except.error.inj hplace).symm
    · exact .inr (fault_of_walk h hplace)

theorem place?_ne_missing (h : fs.Reaches here path) : fs.place? here path ≠ .error .missing := by
  intro hplace
  rcases fault_of_reaches h hplace with hfault | hfault
  · cases hfault
  · cases hfault

theorem Climbs.append (h : Climbs fs here names) (more : List String) : Climbs fs here (names ++ more) := by
  induction names generalizing here with
  | nil => exact h.elim
  | cons name names ih => exact Or.imp_right ih h

/-- If the file above a name can be missed, nothing is above the name, unless the path climbs. -/
theorem node?_of_walk_missing (htree : IsTree fs) (h : fs.walk here (names ++ [name]) = .error .missing)
    (hclimbs : ¬ Climbs fs here (names ++ [name])) : fs.node? (names.foldl Path.step here) = none := by
  induction names generalizing here with
  | nil =>
    rw [List.nil_append, walk] at h
    split at h
    · next hnone => exact hnone
    · cases h
    · split at h
      · cases h
      · split at h <;> cases h
  | cons first names ih =>
    obtain ⟨hup, hrest⟩ := not_or.1 hclimbs
    rw [List.cons_append, walk] at h
    rw [List.foldl_cons]
    split at h
    · next hnone =>
      have hfirst : first ≠ ".." := fun heq => hup ⟨heq, hnone⟩
      have hbelow : fs.node? (Path.step here first) = none := by
        rw [Path.step_of_ne hfirst]
        exact htree.node?_append_eq_none hnone [first]
      exact htree.node?_foldl_eq_none (fun hclimb => hrest (hclimb.append [name])) hbelow
    · cases h
    · refine ih ?_ hrest
      split at h
      · next heq => rwa [Path.step, if_pos heq]
      · next hne =>
        split at h
        · cases h
        · rwa [Path.step, if_neg hne]

/-! ### Making directories again -/

theorem makeDirectory_eq_error (h : fs.makeDirectory here path = .error fault) :
    fs.place? here path = .error fault ∨ fault = .alreadyExists ∧ path.IsFit ∧ fs.Reaches here path := by
  rw [makeDirectory] at h
  cases hplace : fs.place? here path with
  | error other =>
    rw [hplace] at h
    exact .inl (congrArg Except.error (Except.error.inj h))
  | ok place =>
    obtain ⟨hfit, hreaches, -⟩ := place?_eq_ok_iff.1 hplace
    simp only [hplace, bind, Except.bind] at h
    split at h
    · cases h
      exact .inr ⟨rfl, hfit, hreaches⟩
    · cases h

theorem makeDirectory_of_place?_error (h : fs.place? here path = .error fault) :
    fs.makeDirectory here path = .error fault := by
  rw [makeDirectory, h]
  rfl

theorem isDirectory_of_opens (hfit : path.IsFit) (h : fs.Opens here path) :
    fs.isDirectory here path = true := by
  have hreaches : fs.Reaches here path := fun q hq => h q (List.mem_append_left _ hq)
  have hnode := h _ (List.mem_append_right _ (List.mem_singleton_self _))
  rw [isDirectory, kind?_of_reaches hfit hreaches, hnode]
  rfl

theorem opens_of_isDirectory (h : fs.isDirectory here path = true) : fs.Opens here path :=
  (makesWay_of_isDirectory h).opens rfl

theorem isFit_of_isDirectory (h : fs.isDirectory here path = true) : path.IsFit := by
  unfold isDirectory at h
  split at h
  · next hkind => exact (exists_of_kind? hkind).1
  · cases h

/-- Directories that are there need not be made. -/
theorem makeDirectories_of_opens (hfit : path.IsFit) (h : fs.Opens here path) :
    fs.makeDirectories here path = (.ok (), fs) := by
  obtain ⟨root, parts⟩ := path
  rw [makeDirectories]
  rcases List.eq_nil_or_concat parts with rfl | ⟨init, last, rfl⟩
  · rfl
  · rw [List.concat_eq_append] at hfit h ⊢
    rw [List.reverse_concat, makeDirectoriesAt]
    have hpath : (⟨root, (last :: init.reverse).reverse⟩ : Path) = ⟨root, init ++ [last]⟩ := by simp
    rw [hpath]
    have hnode := h _ (List.mem_append_right _ (List.mem_singleton_self _))
    cases hmake : fs.makeDirectory here ⟨root, init ++ [last]⟩ with
    | ok fs' =>
      rw [(makeDirectory_eq_ok_iff.1 hmake).2.2.1] at hnode
      cases hnode
    | error fault =>
      dsimp only
      rw [hmake, isDirectory_of_opens hfit h]
      rfl

/-- The ways in which directories cannot be made: there is an obstacle already; or one is met after
directories above have been made; or these cannot be made. -/
inductive Fails (fs : FileSystem) (here : Place) (root : Path.Root) (name : String) (above : List String) :
    FileFault → FileSystem → Prop
  | obstacle {fault : FileFault}
      (made : fs.makeDirectory here ⟨root, (name :: above).reverse⟩ = .error fault)
      (other : fault ≠ .missing) : Fails fs here root name above fault fs
  | later {fault : FileFault} {fs' : FileSystem}
      (missing : fs.makeDirectory here ⟨root, (name :: above).reverse⟩ = .error .missing)
      (open_ : fs.makeDirectoriesAt here root above = (.ok (), fs'))
      (made : fs'.makeDirectory here ⟨root, (name :: above).reverse⟩ = .error fault)
      (notThere : fs'.isDirectory here ⟨root, (name :: above).reverse⟩ = false) :
      Fails fs here root name above fault fs'
  | above {fault : FileFault} {fs' : FileSystem}
      (missing : fs.makeDirectory here ⟨root, (name :: above).reverse⟩ = .error .missing)
      (failed : fs.makeDirectoriesAt here root above = (.error fault, fs')) :
      Fails fs here root name above fault fs'

theorem fails_of_makeDirectoriesAt {root : Path.Root} {above : List String}
    (h : fs.makeDirectoriesAt here root (name :: above) = (.error fault, fs')) :
    Fails fs here root name above fault fs' := by
  rw [makeDirectoriesAt] at h
  dsimp only at h
  split at h
  · cases h
  · next first hfirst =>
    split at h
    · cases h
    · split at h
      · next hmissing =>
        subst hmissing
        split at h
        · next fs₁ habove =>
          split at h
          · cases h
          · next second hsecond =>
            split at h
            · cases h
            · next hnot =>
              cases h
              exact .later hfirst habove hsecond (Bool.eq_false_iff.2 hnot)
        · next habove =>
          exact .above hfirst h
      · next hother =>
        cases h
        exact .obstacle hfirst hother

theorem makeDirectoriesAt_of_obstacle {root : Path.Root} {above : List String}
    (made : fs.makeDirectory here ⟨root, (name :: above).reverse⟩ = .error fault)
    (notThere : fs.isDirectory here ⟨root, (name :: above).reverse⟩ = false) (other : fault ≠ .missing) :
    fs.makeDirectoriesAt here root (name :: above) = (.error fault, fs) := by
  rw [makeDirectoriesAt]
  dsimp only
  rw [made]
  dsimp only
  rw [notThere, if_neg Bool.false_ne_true, if_neg other]

theorem isDirectory_eq_false_of_place? (h : fs.place? here path = .error fault) :
    fs.isDirectory here path = false := by
  by_contra hdir
  rw [Bool.not_eq_false, isDirectory] at hdir
  split at hdir
  · next hkind =>
    obtain ⟨hfit, hreaches, -⟩ := exists_of_kind? hkind
    rw [place?_eq_ok_iff.2 ⟨hfit, hreaches, rfl⟩] at h
    cases h
  · cases hdir

theorem makeDirectory_of_node {node : Node} (hplace : fs.place? here path = .ok place)
    (hnode : fs.node? place = some node) : fs.makeDirectory here path = .error .alreadyExists := by
  rw [makeDirectory, hplace]
  simp [bind, Except.bind, hnode]

theorem isDirectory_eq_false_of_file {content : ByteArray}
    (hfile : fs.node? (path.placeFrom here) = some (.file content)) : fs.isDirectory here path = false := by
  by_contra hdir
  rw [Bool.not_eq_false] at hdir
  have hnode := opens_of_isDirectory hdir _ (List.mem_append_right _ (List.mem_singleton_self _))
  rw [hfile] at hnode
  cases hnode

/-- An obstacle at the end of the path is the reason why directories cannot be made. -/
theorem fault_of_obstacle {root : Path.Root} {names : List String}
    (h : fs.makeDirectoriesAt here root names = (.error fault, fs'))
    (made : fs.makeDirectory here ⟨root, names.reverse⟩ = .error fault')
    (notThere : fs.isDirectory here ⟨root, names.reverse⟩ = false) (other : fault' ≠ .missing) :
    fault = fault' := by
  cases names with
  | nil => cases h
  | cons name above =>
    rw [makeDirectoriesAt_of_obstacle made notThere other] at h
    exact (Except.error.inj (congrArg Prod.fst h)).symm

theorem not_opens_of_makeDirectories (h : fs.makeDirectories here path = (.error fault, fs')) :
    ¬ (path.IsFit ∧ fs.Opens here path) := by
  rintro ⟨hfit, hopens⟩
  rw [makeDirectories_of_opens hfit hopens] at h
  cases h

/-- The faults of two attempts to make the same directories: the same, or a file was met twice, and the
second time already on the way, since the path climbs. -/
def FaultAgain (fs : FileSystem) (here : Place) (path : Path) (fault fault' : FileFault) : Prop :=
  fault' = fault ∨ fault = .alreadyExists ∧ fault' = .notDirectory ∧
    (IsTree fs → Climbs fs (path.start here) path.parts)

theorem FaultAgain.child (h : FaultAgain fs here path fault fault') (name : String) :
    FaultAgain fs here (path.child name) fault fault' :=
  h.imp_right fun ⟨hfault, hfault', hclimbs⟩ => ⟨hfault, hfault', fun htree => (hclimbs htree).append [name]⟩

/-- What an attempt comes to at a path whose directory cannot be made: the fault of the directory, or that
of walking through a file. -/
theorem place?_child_of_shut (hshut : ¬ (path.IsFit ∧ fs.Opens here path))
    (hname : (path.child name).isNameable = true)
    (hshort : (path.child name).toString.utf8ByteSize ≤ longestPath)
    (hplace : fs.place? here (path.child name) = .error fault) (hother : fault ≠ .missing) :
    fs.place? here path = .error fault ∨ fault = .notDirectory ∧
      fs.place? here path = .ok (path.placeFrom here) ∧
      ∃ content, fs.node? (path.placeFrom here) = some (.file content) := by
  have hname' : path.isNameable = true := by
    rw [Path.isNameable_child, Bool.and_eq_true] at hname
    exact hname.1
  have hshort' := Nat.le_trans (path.utf8ByteSize_le_child name) hshort
  rw [place?_eq_walk hname hshort, Path.start_child, Path.child, walk_append] at hplace
  have hpath : fs.place? here path = fs.walk (path.start here) path.parts := place?_eq_walk hname' hshort'
  cases hwalk : fs.walk (path.start here) path.parts with
  | error other =>
    rw [hwalk] at hplace hpath
    cases hplace
    exact .inl hpath
  | ok place =>
    rw [hwalk] at hplace hpath
    obtain ⟨hfit, hreaches, rfl⟩ := place?_eq_ok_iff.1 hpath
    change fs.walk (path.placeFrom here) [name] = .error fault at hplace
    rw [walk] at hplace
    split at hplace
    · cases hplace
      exact absurd rfl hother
    · next content hfile =>
      cases hplace
      exact .inr ⟨rfl, hpath, content, hfile⟩
    · next hdir =>
      refine absurd ⟨hfit, ?_⟩ hshut
      exact List.forall_mem_append.2 ⟨hreaches, List.forall_mem_singleton.2 hdir⟩

/-- Where a file is met on a path on which something was missing before, the path leads up out of it. -/
theorem climbs_of_met {places : List Place} {content : ByteArray} (htree : IsTree fs)
    (hgrows : Grows places fs fs') (hmissing : fs.place? here (path.child name) = .error .missing)
    (hfile : fs'.node? (path.placeFrom here) = some (.file content)) :
    Climbs fs (path.start here) (path.child name).parts := by
  by_contra hclimbs
  obtain ⟨hname, hshort⟩ := short_of_place?_missing hmissing
  rw [place?_eq_walk hname hshort] at hmissing
  have hnone : fs.node? (path.placeFrom here) = none := node?_of_walk_missing htree hmissing hclimbs
  rcases hgrows (path.placeFrom here) with hsame | ⟨-, -, hdir⟩
  · rw [hfile, hnone] at hsame
    cases hsame
  · rw [hfile] at hdir
    cases hdir

/-- If the directory above cannot be made again, the directory cannot be made either. -/
theorem exists_again_of_above {root : Path.Root} {above : List String} {places : List Place}
    (hgrows : Grows places fs fs')
    (hmissing : fs.place? here ((⟨root, above.reverse⟩ : Path).child name) = .error .missing)
    (hagain : fs'.makeDirectoriesAt here root above = (.error fault', fs'))
    (hrel : FaultAgain fs here ⟨root, above.reverse⟩ fault fault') :
    ∃ second, fs'.makeDirectoriesAt here root (name :: above) = (.error second, fs') ∧
      FaultAgain fs here ((⟨root, above.reverse⟩ : Path).child name) fault second := by
  have hpath : (⟨root, (name :: above).reverse⟩ : Path) = (⟨root, above.reverse⟩ : Path).child name := by
    rw [Path.child, List.reverse_cons]
  have hshut : ¬ ((⟨root, above.reverse⟩ : Path).IsFit ∧ fs'.Opens here ⟨root, above.reverse⟩) := by
    have hmade : fs'.makeDirectories here ⟨root, above.reverse⟩ = (.error fault', fs') := by
      rwa [makeDirectories, List.reverse_reverse]
    exact not_opens_of_makeDirectories hmade
  cases hplace : fs'.place? here ((⟨root, above.reverse⟩ : Path).child name) with
  | ok place =>
    obtain ⟨hfit, hreaches, -⟩ := place?_eq_ok_iff.1 hplace
    rw [Reaches, above_child] at hreaches
    exact absurd ⟨hfit.of_child, hreaches⟩ hshut
  | error second =>
    have hmake := makeDirectory_of_place?_error hplace
    have hnot := isDirectory_eq_false_of_place? hplace
    rw [← hpath] at hmake hnot
    by_cases hsecond : second = .missing
    · subst hsecond
      refine ⟨fault', ?_, hrel.child name⟩
      rw [makeDirectoriesAt]
      dsimp only
      rw [hmake]
      dsimp only
      rw [hnot, if_neg Bool.false_ne_true, if_pos rfl, hagain]
    refine ⟨second, makeDirectoriesAt_of_obstacle hmake hnot hsecond, ?_⟩
    obtain ⟨hname, hshort⟩ := short_of_place?_missing hmissing
    rcases place?_child_of_shut hshut hname hshort hplace hsecond with habove | ⟨rfl, hok, content, hfile⟩
    · -- the directory above fails in the same way
      obtain rfl := fault_of_obstacle hagain (makeDirectory_of_place?_error habove)
        (isDirectory_eq_false_of_place? habove) hsecond
      exact hrel.child name
    · -- a file is in the place of the directory above, so it was there before
      obtain rfl := fault_of_obstacle hagain (makeDirectory_of_node hok hfile)
        (isDirectory_eq_false_of_file hfile) (by simp)
      refine .inr ⟨?_, rfl, fun htree => climbs_of_met htree hgrows hmissing hfile⟩
      rcases hrel with hsame | ⟨-, hother, -⟩
      · exact hsame.symm
      · cases hother

/-- Directories that could not be made cannot be made later either, and trying it changes nothing more. -/
theorem makeDirectoriesAt_again {root : Path.Root} (names : List String)
    (hstart : fs.node? ((⟨root, []⟩ : Path).start here) = some .directory)
    (h : fs.makeDirectoriesAt here root names = (.error fault, fs')) :
    ∃ fault', fs'.makeDirectoriesAt here root names = (.error fault', fs') ∧
      FaultAgain fs here ⟨root, names.reverse⟩ fault fault' := by
  induction names generalizing fault fs' with
  | nil => cases h
  | cons name above ih =>
    have hpath : (⟨root, (name :: above).reverse⟩ : Path) = (⟨root, above.reverse⟩ : Path).child name := by
      rw [Path.child, List.reverse_cons]
    have hway := makesWay_makeDirectoriesAt fs here root above hstart
    cases fails_of_makeDirectoriesAt h with
    | obstacle => exact ⟨fault, h, .inl rfl⟩
    | later missing open_ made notThere =>
      rw [open_] at hway
      have hreaches := (hway.opens rfl).reaches_child name
      rw [← hpath] at hreaches
      refine ⟨fault, makeDirectoriesAt_of_obstacle made notThere ?_, .inl rfl⟩
      rintro rfl
      rcases makeDirectory_eq_error made with hplace | ⟨hfault, -⟩
      · exact place?_ne_missing hreaches hplace
      · cases hfault
    | above missing failed =>
      obtain ⟨fault', hagain, hrel⟩ := ih failed
      rw [failed] at hway
      rw [hpath] at missing ⊢
      rcases makeDirectory_eq_error missing with hplace | ⟨hfault, -⟩
      · exact exists_again_of_above hway.grows hplace hagain hrel
      · cases hfault

/-- Making the directories of a path fails again, and changes nothing more. -/
theorem makeDirectories_again (hstart : fs.node? (path.start here) = some .directory)
    (h : fs.makeDirectories here path = (.error fault, fs')) :
    ∃ fault', fs'.makeDirectories here path = (.error fault', fs') ∧
      FaultAgain fs here path fault fault' := by
  have hagain := makeDirectoriesAt_again path.parts.reverse hstart h
  rwa [List.reverse_reverse] at hagain

/-- Where directories cannot be made nothing is found, unless the path is too long, and then they cannot be
made for this reason. -/
theorem kind?_of_shut (hshut : fs.makeDirectories here path = (.error fault, fs)) {kind : Option FileKind}
    (hkind : fs'.kind? here (path.child name) = .ok kind) :
    fs.kind? here (path.child name) = .ok none ∨
      fs.kind? here (path.child name) = .error .nameTooLong ∧ fault = .nameTooLong := by
  have hclosed := not_opens_of_makeDirectories hshut
  cases hplace : fs.place? here (path.child name) with
  | ok place =>
    obtain ⟨hfit, hreaches, -⟩ := place?_eq_ok_iff.1 hplace
    rw [Reaches, above_child] at hreaches
    exact absurd ⟨hfit.of_child, hreaches⟩ hclosed
  | error second =>
    rw [kind?, hplace]
    rcases place?_eq_error hplace with rfl | rfl | rfl | rfl
    · exact .inl rfl
    · exact .inl rfl
    · exact .inl rfl
    · refine .inr ⟨rfl, ?_⟩
      -- neither the path nor its end is too long, so its directory holds a name that is
      have hname : (path.child name).isNameable = true := by
        by_contra hname
        rw [place?, if_pos (by simpa using hname)] at hplace
        cases hplace
      have hshort : (path.child name).toString.utf8ByteSize ≤ longestPath := by
        by_contra hlong
        rw [kind?, place?, if_neg (by simp [hname]), if_pos (Nat.lt_of_not_le hlong)] at hkind
        cases hkind
      rcases place?_child_of_shut hclosed hname hshort hplace (by simp) with hpath | ⟨hother, -⟩
      · have hsame : (⟨path.root, path.parts.reverse.reverse⟩ : Path) = path := by rw [List.reverse_reverse]
        rw [← hsame] at hpath
        exact fault_of_obstacle hshut (makeDirectory_of_place?_error hpath)
          (isDirectory_eq_false_of_place? hpath) (by simp)
      · cases hother

end FileSystem

end Monomorph
