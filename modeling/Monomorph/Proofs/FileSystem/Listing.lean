import Monomorph.Proofs.FileSystem.Extend
import Monomorph.Proofs.FileSystem.Obstacle

/-!
Listings of the files below a directory. A listing that leaves out certain names is the same after changes
under these names. A directory that could not be listed before holds new files only, unless its path goes
on from a missing directory by double dots or by a name that is too long.
-/

namespace Monomorph.FileSystem

variable {β : Type} {fs fs' : FileSystem} {here place q : Place} {path : Path}
  {names init : List String} {name : String} {node : Node} {named : String → Prop} {f : Place × Node → Option β}
  {files : List (List String)} {admits : List String → Bool} {fault : FileFault}

/-! ### Lists of nodes -/

/-- The list has nothing for directories, nor for nodes with certain names. -/
structure Omits (named : String → Prop) (f : Place × Node → Option β) : Prop where
  directory : ∀ q, f (q, .directory) = none
  named : ∀ q name node, named name → f (q ++ [name], node) = none

theorem filterMap_putNode (h : ∀ n, f (q, n) = none) (nodes : List (Place × Node)) :
    (putNode q node nodes).filterMap f = nodes.filterMap f := by
  induction nodes with
  | nil => rw [putNode, List.filterMap_cons_none (h node)]
  | cons entry nodes ih =>
    obtain ⟨p, n⟩ := entry
    rw [putNode]
    split
    · next hp =>
      obtain rfl := beq_iff_eq.1 hp
      rw [List.filterMap_cons_none (h node), List.filterMap_cons_none (h n)]
    · rw [List.filterMap_cons, List.filterMap_cons, ih]

/-- A change under an omitted name is not seen. -/
theorem Change.filterMap_nodes (h : Change named fs fs') (hf : Omits named f) :
    fs'.nodes.filterMap f = fs.nodes.filterMap f := by
  cases h with
  | @made q name _ hnone =>
    rw [put_of_none (append_singleton_ne q name) hnone, extend, List.filterMap_append,
      List.filterMap_cons_none (hf.directory _), List.filterMap_nil, List.append_nil]
  | @wrote q name _ hnamed => exact filterMap_putNode (fun n => hf.named q name n hnamed) _
  | @removed q name _ hnamed =>
    rw [erase, List.filterMap_filter]
    refine List.filterMap_congr fun p _ => ?_
    split
    · rfl
    · next hp =>
      have hplace : p.1 = q ++ [name] := by simpa using hp
      obtain ⟨place, node⟩ := p
      obtain rfl : place = q ++ [name] := hplace
      exact (hf.named q name node hnamed).symm

theorem Reached.filterMap_nodes (h : Reached named fs fs') (hf : Omits named f) :
    fs'.nodes.filterMap f = fs.nodes.filterMap f := by
  induction h with
  | refl => rfl
  | tail _ step ih => exact (step.filterMap_nodes hf).trans ih

theorem node?_ne_none_of_mem {p : Place × Node} (hp : p ∈ fs.nodes) : fs.node? p.1 ≠ none := by
  unfold node?
  split
  · simp
  · intro hnone
    exact (bne_iff_ne.1 (List.lookup_eq_none_iff.1 hnone p hp)) rfl

/-! ### The files below a directory -/

/-- The names that lead from a place to a file below it. -/
def namesBelow? (place : Place) (p : Place × Node) : Option (List String) :=
  match p.2 with
  | .directory => none
  | .file _ => if place.isPrefixOf p.1 && place != p.1 then some (p.1.drop place.length) else none

theorem eq_append_of_namesBelow? {p : Place × Node} (h : namesBelow? place p = some names) :
    p.1 = place ++ names ∧ names ≠ [] := by
  unfold namesBelow? at h
  split at h
  · cases h
  · split at h
    · next hbelow =>
      obtain ⟨hfront, hne⟩ := Bool.and_eq_true_iff.1 hbelow
      obtain ⟨more, hmore⟩ := List.isPrefixOf_iff_prefix.1 hfront
      rw [← hmore, List.drop_left] at h
      obtain rfl := Option.some.inj h
      refine ⟨hmore.symm, ?_⟩
      rintro rfl
      rw [List.append_nil] at hmore
      exact bne_iff_ne.1 hne hmore
    · cases h

/-- Below a place where nothing stands there are no files. -/
theorem filterMap_namesBelow?_eq_nil (htree : IsTree fs) (hnone : fs.node? place = none) :
    fs.nodes.filterMap (namesBelow? place) = [] := by
  refine List.filterMap_eq_nil_iff.2 fun p hp => ?_
  by_contra hsome
  obtain ⟨names, hnames⟩ := Option.ne_none_iff_exists'.1 hsome
  refine node?_ne_none_of_mem hp ?_
  rw [(eq_append_of_namesBelow? hnames).1]
  exact htree.node?_append_eq_none hnone names

/-- A listing answers the files below a directory, unless nobody can tell what is at the path. -/
theorem below_eq_ok_iff : fs.below here path = .ok files ↔ fs.place? here path ≠ .error .nameTooLong ∧
    files = if fs.isDirectory here path = true then
      fs.nodes.filterMap (namesBelow? (path.placeFrom here)) else [] := by
  unfold below isDirectory
  cases hkind : fs.kind? here path with
  | error fault =>
    obtain ⟨rfl, hplace⟩ := place?_of_kind?_error hkind
    simp [bind, Except.bind, hplace]
  | ok kind =>
    have hplace : fs.place? here path ≠ .error .nameTooLong := by
      intro hplace
      rw [kind?_tooLong hplace] at hkind
      cases hkind
    cases kind with
    | none => simp [bind, Except.bind, pure, Except.pure, hplace, eq_comm]
    | some k =>
      cases k with
      | file => simp [bind, Except.bind, pure, Except.pure, hplace, eq_comm]
      | directory =>
        obtain ⟨hfit, hreaches, -⟩ := exists_of_kind? hkind
        have hok := place?_eq_ok_iff.2 ⟨hfit, hreaches, rfl⟩
        simp only [bind, Except.bind, pure, Except.pure, hok, if_true, Except.ok.injEq, ne_eq, reduceCtorEq,
          not_false_eq_true, true_and, eq_comm (a := files)]
        rfl

/-! ### Straying -/

/-- Do the names go on from where nothing stands by double dots, or by a name that is too long? -/
def Strays (fs : FileSystem) (here : Place) : List String → Prop
  | [] => False
  | name :: rest => (fs.node? here = none ∧ ∃ n ∈ name :: rest, n = ".." ∨ longestName < n.utf8ByteSize) ∨
      Strays fs (Path.step here name) rest

theorem Climbs.strays (h : Climbs fs here names) : Strays fs here names := by
  induction names generalizing here with
  | nil => exact h
  | cons name names ih =>
    refine h.imp (fun ⟨hup, hnone⟩ => ⟨hnone, name, List.mem_cons_self, .inl hup⟩) ih

theorem exists_long_of_walk (h : fs.walk here names = .error .nameTooLong) :
    ∃ n ∈ names, longestName < n.utf8ByteSize := by
  induction names generalizing here with
  | nil => cases h
  | cons name names ih =>
    have hlater : ∀ {q}, fs.walk q names = .error .nameTooLong →
        ∃ n ∈ name :: names, longestName < n.utf8ByteSize := fun hwalk =>
      (ih hwalk).imp fun n hn => ⟨List.mem_cons_of_mem _ hn.1, hn.2⟩
    rw [walk] at h
    split at h
    · cases h
    · cases h
    · split at h
      · exact hlater h
      · split at h
        · next hlong => exact ⟨name, List.mem_cons_self, hlong⟩
        · exact hlater h

/-- How a file system has changed, as far as paths are concerned: directories are kept, and no file has
become one. -/
structure Settles (fs fs' : FileSystem) : Prop where
  directory : ∀ q, fs.node? q = some .directory → fs'.node? q = some .directory
  file : ∀ q content, fs.node? q = some (.file content) → fs'.node? q ≠ some .directory

/-- Walking does not come to a name that is too long if it has not before, and does not stray. -/
theorem Settles.walk_ne_tooLong (h : Settles fs fs') (hstrays : ¬ Strays fs here names)
    (hbefore : fs.walk here names ≠ .error .nameTooLong) : fs'.walk here names ≠ .error .nameTooLong := by
  induction names generalizing here with
  | nil => exact hbefore
  | cons name names ih =>
    obtain ⟨hnames, hrest⟩ := not_or.1 hstrays
    intro hafter
    have hdirectory : fs'.node? here = some .directory := by
      rw [walk] at hafter
      split at hafter
      · cases hafter
      · cases hafter
      · assumption
    cases hhere : fs.node? here with
    | none =>
      obtain ⟨n, hn, hlong⟩ := exists_long_of_walk hafter
      exact hnames ⟨hhere, n, hn, .inr hlong⟩
    | some node =>
      cases node with
      | file content => exact h.file here content hhere hdirectory
      | directory =>
        rw [walk, hdirectory] at hafter
        rw [walk, hhere] at hbefore
        dsimp only at hafter hbefore
        by_cases hup : (name == "..") = true
        · rw [if_pos hup] at hafter hbefore
          rw [Path.step, if_pos hup] at hrest
          exact ih hrest hbefore hafter
        · rw [if_neg hup] at hafter hbefore
          rw [Path.step, if_neg hup] at hrest
          split at hafter
          · next hlong => exact hbefore (if_pos hlong)
          · next hlong =>
            rw [if_neg hlong] at hbefore
            exact ih hrest hbefore hafter

theorem Settles.place?_ne_tooLong (h : Settles fs fs') (hstrays : ¬ Strays fs (path.start here) path.parts)
    (hbefore : fs.place? here path ≠ .error .nameTooLong) : fs'.place? here path ≠ .error .nameTooLong := by
  unfold place? at hbefore ⊢
  split at hbefore
  · next hname => simp [hname]
  · next hname =>
    rw [if_neg hname]
    split at hbefore
    · exact absurd rfl hbefore
    · next hlong =>
      rw [if_neg hlong]
      exact h.walk_ne_tooLong hstrays hbefore

/-- Where a directory has come to be that could not be found, nothing stood. -/
theorem Settles.node?_eq_none (h : Settles fs fs') (htree : IsTree fs)
    (hstrays : ¬ Strays fs (path.start here) path.parts) (hafter : fs'.isDirectory here path = true)
    (hbefore : fs.isDirectory here path ≠ true) : fs.node? (path.placeFrom here) = none := by
  have hopens := opens_of_isDirectory hafter
  by_contra hnode
  rcases htree.through_of_node? (mt Climbs.strays hstrays) hnode with hall | ⟨q, hq, content, hfile⟩
  · have hfit := isFit_of_isDirectory hafter
    obtain ⟨node, hsome⟩ := Option.ne_none_iff_exists'.1 hnode
    cases node with
    | directory =>
      exact hbefore (isDirectory_of_opens hfit (List.forall_mem_append.2 ⟨hall, List.forall_mem_singleton.2 hsome⟩))
    | file content =>
      exact h.file _ content hsome (hopens _ (List.mem_append_right _ (List.mem_singleton_self _)))
  · exact h.file q content hfile (hopens q (List.mem_append_left _ hq))

/-- After changes under names that are not admitted a path that does not stray lists the same. -/
theorem Settles.filter_below (h : Settles fs fs') (htree : IsTree fs) (hreached : Reached named fs fs')
    (hstrays : ¬ Strays fs (path.start here) path.parts)
    (hadmits : ∀ names name, named name → admits (names ++ [name]) = false)
    (hbelow : fs.below here path = .ok files) :
    ∃ files', fs'.below here path = .ok files' ∧ files'.filter admits = files.filter admits := by
  obtain ⟨hplace, rfl⟩ := below_eq_ok_iff.1 hbelow
  refine ⟨_, below_eq_ok_iff.2 ⟨h.place?_ne_tooLong hstrays hplace, rfl⟩, ?_⟩
  have hsame : (fs'.nodes.filterMap (namesBelow? (path.placeFrom here))).filter admits =
      (fs.nodes.filterMap (namesBelow? (path.placeFrom here))).filter admits := by
    rw [List.filter_filterMap, List.filter_filterMap]
    refine hreached.filterMap_nodes ⟨fun q => rfl, fun q name node hname => ?_⟩
    cases hnames : namesBelow? (path.placeFrom here) (q ++ [name], node) with
    | none => rfl
    | some names =>
      obtain ⟨heq, hne⟩ := eq_append_of_namesBelow? hnames
      obtain ⟨init, last, rfl⟩ := (List.eq_nil_or_concat names).resolve_left hne
      rw [List.concat_eq_append, ← List.append_assoc] at heq
      obtain rfl : name = last := by simpa using (List.append_inj' heq rfl).2
      rw [Option.filter_some, List.concat_eq_append, hadmits init name hname, if_neg Bool.false_ne_true]
  by_cases hbefore : fs.isDirectory here path = true
  · have hafter : fs'.isDirectory here path = true := isDirectory_of_opens (isFit_of_isDirectory hbefore)
      fun q hq => h.directory q (opens_of_isDirectory hbefore q hq)
    rw [if_pos hbefore, if_pos hafter, hsame]
  · rw [if_neg hbefore]
    split
    · next hafter =>
      rw [hsame, filterMap_namesBelow?_eq_nil htree (h.node?_eq_none htree hstrays hafter hbefore)]
    · rfl

/-! ### What is listed -/

/-- No name in the file system leads up, and none holds a slash. -/
def Named (fs : FileSystem) : Prop := ∀ p ∈ fs.nodes, ∀ name ∈ p.1, name ≠ ".." ∧ '/' ∉ name.toList

instance (fs : FileSystem) : Decidable (Named fs) := List.decidableBAll _ _

theorem foldl_step_of_ne (h : ∀ name ∈ names, name ≠ "..") (place : Place) :
    names.foldl Path.step place = place ++ names := by
  induction names generalizing place with
  | nil => rw [List.foldl_nil, List.append_nil]
  | cons name names ih =>
    obtain ⟨hfirst, hrest⟩ := List.forall_mem_cons.1 h
    rw [List.foldl_cons, Path.step_of_ne hfirst, ih hrest, List.append_assoc, List.singleton_append]

/-- Names that do not lead up lead through directories to where something stands. -/
theorem IsTree.through_of_ne (htree : IsTree fs) (h : ∀ name ∈ names, name ≠ "..")
    (hnode : fs.node? (place ++ names) ≠ none) :
    ∀ q ∈ Place.through place names, fs.node? q = some .directory := by
  induction names generalizing place with
  | nil => simp [Place.through]
  | cons name names ih =>
    obtain ⟨hfirst, hrest⟩ := List.forall_mem_cons.1 h
    refine List.forall_mem_cons.2 ⟨htree.directory_of_append (List.cons_ne_nil name names) hnode, ?_⟩
    rw [List.append_cons] at hnode
    rw [Path.step_of_ne hfirst]
    exact ih hrest hnode

/-- What is listed stands below the directory, under names that do not lead up. -/
theorem exists_of_mem_below (hnamed : Named fs) (hbelow : fs.below here path = .ok files)
    (hnames : names ∈ files) : fs.Opens here path ∧ names ≠ [] ∧
      (∀ name ∈ names, name ≠ ".." ∧ '/' ∉ name.toList) ∧
      fs.node? (path.placeFrom here ++ names) ≠ none := by
  obtain ⟨-, rfl⟩ := below_eq_ok_iff.1 hbelow
  split at hnames
  · next hdirectory =>
    obtain ⟨p, hp, hbelow⟩ := List.mem_filterMap.1 hnames
    obtain ⟨hplace, hne⟩ := eq_append_of_namesBelow? hbelow
    refine ⟨opens_of_isDirectory hdirectory, hne, fun name hname => ?_, hplace ▸ node?_ne_none_of_mem hp⟩
    exact hnamed p hp name (hplace ▸ List.mem_append_right _ hname)
  · cases hnames

theorem read_of_place?_error (h : fs.place? here path = .error fault) :
    fs.read here path = .error fault := by
  rw [read, h]
  rfl

theorem place?_nameless (h : fs.place? here path = .error .nameless) (fs' : FileSystem) :
    fs'.place? here path = .error .nameless := by
  have hname : path.isNameable = false := Bool.eq_false_iff.2 fun hname => nameable_of_place? h hname rfl
  rw [place?, hname]
  rfl

/-- What is listed reads the same after changes under other names. -/
theorem Reached.read_listed (hreached : Reached named fs fs') (htree : IsTree fs) (hnamed : Named fs)
    (hbelow : fs.below here path = .ok files) (hnames : names ∈ files)
    (hother : ∀ init name, names = init ++ [name] → ¬ named name) :
    fs'.read here ⟨path.root, path.parts ++ names⟩ = fs.read here ⟨path.root, path.parts ++ names⟩ := by
  obtain ⟨hopens, hne, hproper, hnode⟩ := exists_of_mem_below hnamed hbelow hnames
  obtain ⟨below, hpath⟩ : ∃ below : Path, below = ⟨path.root, path.parts ++ names⟩ := ⟨_, rfl⟩
  rw [← hpath]
  have hplace : below.placeFrom here = path.placeFrom here ++ names := by
    rw [Path.placeFrom, hpath, List.foldl_append, foldl_step_of_ne fun name hname => (hproper name hname).1]
    rfl
  have hreaches : fs.Reaches here below := by
    rw [Reaches, Path.above, hpath, Place.through_append]
    refine List.forall_mem_append.2 ⟨fun q hq => hopens q (List.mem_append_left _ hq), ?_⟩
    exact htree.through_of_ne (fun name hname => (hproper name hname).1) hnode
  cases hbefore : fs.place? here below with
  | error fault =>
    rw [read_of_place?_error hbefore]
    rcases fault_of_reaches hreaches hbefore with rfl | rfl
    · exact read_of_place?_error (place?_nameless hbefore fs')
    · exact read_of_place?_error (place?_tooLong hbefore fun q => hreached.node?_of_directory)
  | ok place =>
    obtain ⟨hfit, -, rfl⟩ := place?_eq_ok_iff.1 hbefore
    have hafter : fs'.place? here below = .ok (below.placeFrom here) :=
      place?_eq_ok_iff.2 ⟨hfit, fun q hq => hreached.node?_of_directory (hreaches q hq), rfl⟩
    have hsame : fs'.node? (below.placeFrom here) = fs.node? (below.placeFrom here) := by
      rw [← hplace] at hnode
      cases hold : fs.node? (below.placeFrom here) with
      | none => exact absurd hold hnode
      | some node =>
        cases node with
        | directory => exact hreached.node?_of_directory hold
        | file content =>
          obtain ⟨init, last, hlast⟩ := (List.eq_nil_or_concat names).resolve_left hne
          rw [List.concat_eq_append] at hlast
          rw [hplace, hlast, ← List.append_assoc] at hold ⊢
          exact hreached.node?_of_file (hother init last hlast) hold
    rw [read, read, hbefore, hafter]
    simp only [bind, Except.bind, hsame]

end Monomorph.FileSystem
