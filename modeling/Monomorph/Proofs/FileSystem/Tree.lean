import Mathlib.Logic.Relation
import Monomorph.Proofs.FileSystem.Directories

/-!
File systems are trees: above everything there is a directory. Every operation on files is made of single
changes, each of which leaves the tree a tree and its directories directories: a directory is made where
nothing is, a file is written where no directory is, or a file is removed.
-/

namespace Monomorph.FileSystem

/-- Whatever stands in the file system stands in a directory. -/
def IsTree (fs : FileSystem) : Prop :=
  ∀ q name, fs.node? (q ++ [name]) ≠ none → fs.node? q = some .directory

variable {fs fs' : FileSystem} {here place q : Place} {path : Path} {names : List String} {name : String}

/-- Of a tree that is given by its nodes only these need to be looked at. -/
theorem isTree_of_nodes (h : ∀ p ∈ fs.nodes, fs.node? p.1.dropLast = some .directory) : IsTree fs := by
  intro q name hnode
  unfold node? at hnode
  rw [if_neg (by simp)] at hnode
  obtain ⟨node, hnode⟩ := Option.ne_none_iff_exists'.1 hnode
  obtain ⟨before, after, hnodes, -⟩ := List.lookup_eq_some_iff.1 hnode
  have hdir := h (q ++ [name], node) (by rw [hnodes]; simp)
  rwa [List.dropLast_concat] at hdir

namespace IsTree

theorem directory_of_append (h : IsTree fs) {more : List String} (hmore : more ≠ [])
    (hnode : fs.node? (q ++ more) ≠ none) : fs.node? q = some .directory := by
  induction more generalizing q with
  | nil => exact absurd rfl hmore
  | cons name more ih =>
    rw [List.append_cons] at hnode
    cases more with
    | nil => exact h q name (by rwa [List.append_nil] at hnode)
    | cons next more =>
      have hbelow := ih (List.cons_ne_nil _ _) hnode
      exact h q name (by rw [hbelow]; simp)

/-- Below a place where nothing stands there is nothing. -/
theorem node?_append_eq_none (h : IsTree fs) (hnone : fs.node? q = none) (more : List String) :
    fs.node? (q ++ more) = none := by
  by_contra hnode
  cases more with
  | nil => exact hnode (by rwa [List.append_nil])
  | cons name more =>
    rw [h.directory_of_append (List.cons_ne_nil _ _) hnode] at hnone
    cases hnone

/-- The way up from a directory leads to a directory. -/
theorem node?_dropLast (h : IsTree fs) (hdir : fs.node? q = some .directory) :
    fs.node? q.dropLast = some .directory := by
  rcases List.eq_nil_or_concat q with rfl | ⟨init, last, rfl⟩
  · exact node?_nil
  · rw [List.concat_eq_append] at hdir ⊢
    rw [List.dropLast_concat]
    exact h init last (by rw [hdir]; simp)

end IsTree

/-- Do the names lead up out of a place where nothing stands? -/
def Climbs (fs : FileSystem) (here : Place) : List String → Prop
  | [] => False
  | name :: rest => name = ".." ∧ fs.node? here = none ∨ Climbs fs (Path.step here name) rest

namespace IsTree

/-- From where nothing stands names lead to where nothing stands, unless they lead up. -/
theorem node?_foldl_eq_none (h : IsTree fs) (hclimbs : ¬ Climbs fs here names)
    (hnone : fs.node? here = none) : fs.node? (names.foldl Path.step here) = none := by
  induction names generalizing here with
  | nil => exact hnone
  | cons name names ih =>
    obtain ⟨hup, hrest⟩ := not_or.1 hclimbs
    have hname : name ≠ ".." := fun heq => hup ⟨heq, hnone⟩
    refine ih hrest ?_
    rw [Path.step_of_ne hname]
    exact h.node?_append_eq_none hnone [name]

/-- Where something stands at the end of a path that leads up out of nowhere, it leads through directories,
or through a file. -/
theorem through_of_node? (h : IsTree fs) (hclimbs : ¬ Climbs fs here names)
    (hnode : fs.node? (names.foldl Path.step here) ≠ none) :
    (∀ q ∈ Place.through here names, fs.node? q = some .directory) ∨
      ∃ q ∈ Place.through here names, ∃ content, fs.node? q = some (.file content) := by
  induction names generalizing here with
  | nil => exact .inl (by simp [Place.through])
  | cons name names ih =>
    cases hhere : fs.node? here with
    | none => exact absurd (h.node?_foldl_eq_none hclimbs hhere) hnode
    | some n =>
      cases n with
      | file content => exact .inr ⟨here, List.mem_cons_self, content, hhere⟩
      | directory =>
        rcases ih (not_or.1 hclimbs).2 hnode with hall | ⟨q, hq, hfile⟩
        · exact .inl (List.forall_mem_cons.2 ⟨hhere, hall⟩)
        · exact .inr ⟨q, List.mem_cons_of_mem _ hq, hfile⟩

end IsTree

/-! ### What a path finds -/

/-- Something stands at the place that the path names. -/
def Finds (fs : FileSystem) (here : Place) (path : Path) : Prop :=
  ∃ kind, fs.kind? here path = .ok (some kind)

theorem kind?_of_reaches (hfit : path.IsFit) (hreaches : fs.Reaches here path) :
    fs.kind? here path = .ok ((fs.node? (path.placeFrom here)).map (·.kind)) := by
  rw [kind?, place?_eq_ok_iff.2 ⟨hfit, hreaches, rfl⟩]

theorem finds_iff : fs.Finds here path ↔
    path.IsFit ∧ fs.Reaches here path ∧ fs.node? (path.placeFrom here) ≠ none := by
  constructor
  · rintro ⟨kind, hkind⟩
    obtain ⟨hfit, hreaches, hsome⟩ := exists_of_kind? hkind
    exact ⟨hfit, hreaches, Option.isSome_iff_ne_none.1 hsome⟩
  · rintro ⟨hfit, hreaches, hnode⟩
    obtain ⟨node, hnode⟩ := Option.ne_none_iff_exists'.1 hnode
    exact ⟨node.kind, by rw [kind?_of_reaches hfit hreaches, hnode, Option.map_some]⟩

theorem read_eq_ok_iff {content : ByteArray} : fs.read here path = .ok content ↔
    path.IsFit ∧ fs.Reaches here path ∧ fs.node? (path.placeFrom here) = some (.file content) := by
  rw [read]
  cases hplace : fs.place? here path with
  | error fault =>
    simp only [bind, Except.bind, reduceCtorEq, false_iff]
    rintro ⟨hfit, hreaches, -⟩
    rw [place?_eq_ok_iff.2 ⟨hfit, hreaches, rfl⟩] at hplace
    cases hplace
  | ok place =>
    obtain ⟨hfit, hreaches, rfl⟩ := place?_eq_ok_iff.1 hplace
    cases hnode : fs.node? (path.placeFrom here) with
    | none => simp [bind, Except.bind, hnode]
    | some n => cases n <;> simp [bind, Except.bind, hnode, hfit, hreaches]

/-- Nothing is lost between the two file systems: directories stay directories, and where something stands
something stands later. -/
structure Covers (fs fs' : FileSystem) : Prop where
  directory : ∀ q, fs.node? q = some .directory → fs'.node? q = some .directory
  node : ∀ q, fs.node? q ≠ none → fs'.node? q ≠ none

namespace Covers

theorem refl (fs : FileSystem) : Covers fs fs := ⟨fun _ h => h, fun _ h => h⟩

theorem trans {fs'' : FileSystem} (h : Covers fs fs') (h' : Covers fs' fs'') : Covers fs fs'' :=
  ⟨fun q hq => h'.directory q (h.directory q hq), fun q hq => h'.node q (h.node q hq)⟩

theorem finds (h : Covers fs fs') (hfinds : fs.Finds here path) : fs'.Finds here path := by
  obtain ⟨hfit, hreaches, hnode⟩ := finds_iff.1 hfinds
  exact finds_iff.2 ⟨hfit, fun q hq => h.directory q (hreaches q hq), h.node _ hnode⟩

theorem opens (h : Covers fs fs') (hopens : fs.Opens here path) : fs'.Opens here path :=
  fun q hq => h.directory q (hopens q hq)

theorem of_grows {places : List Place} (h : Grows places fs fs') : Covers fs fs' where
  directory q hq := h.node?_eq hq
  node q hq := by
    obtain ⟨node, hnode⟩ := Option.ne_none_iff_exists'.1 hq
    rw [h.node?_eq hnode]
    simp

theorem of_put {content : ByteArray} (hfile : fs.node? q ≠ some .directory) :
    Covers fs (fs.put q (.file content)) := by
  have hq : q ≠ [] := by
    rintro rfl
    exact hfile rfl
  constructor
  · intro r hr
    rw [node?_put hq, if_neg, hr]
    rintro rfl
    exact hfile hr
  · intro r hr
    rw [node?_put hq]
    split
    · simp
    · exact hr

end Covers

/-! ### Changes -/

theorem append_singleton_ne (q : Place) (name : String) : q ++ [name] ≠ [] :=
  List.append_ne_nil_of_right_ne_nil _ (List.cons_ne_nil _ _)

/-- A single change. Files are written and removed under certain names only. -/
inductive Change (named : String → Prop) (fs : FileSystem) : FileSystem → Prop
  | made {q : Place} {name : String} (hdir : fs.node? q = some .directory)
      (hnone : fs.node? (q ++ [name]) = none) : Change named fs (fs.put (q ++ [name]) .directory)
  | wrote {q : Place} {name : String} {content : ByteArray} (hnamed : named name)
      (hdir : fs.node? q = some .directory) (hfile : fs.node? (q ++ [name]) ≠ some .directory) :
      Change named fs (fs.put (q ++ [name]) (.file content))
  | removed {q : Place} {name : String} {content : ByteArray} (hnamed : named name)
      (hfile : fs.node? (q ++ [name]) = some (.file content)) : Change named fs (fs.erase (q ++ [name]))

/-- The second file system comes from the first by changes of this kind. -/
abbrev Reached (named : String → Prop) : FileSystem → FileSystem → Prop :=
  Relation.ReflTransGen (Change named)

variable {named : String → Prop}

/-- No change removes a directory. -/
theorem Change.node?_of_directory (h : Change named fs fs') (hdir : fs.node? q = some .directory) :
    fs'.node? q = some .directory := by
  cases h with
  | @made p name _ hnone =>
    rw [node?_put (append_singleton_ne p name), if_neg, hdir]
    rintro rfl
    rw [hdir] at hnone
    cases hnone
  | @wrote p name _ _ _ hfile =>
    rw [node?_put (append_singleton_ne p name), if_neg, hdir]
    rintro rfl
    exact hfile hdir
  | @removed p name _ _ hfile =>
    rw [node?_erase (append_singleton_ne p name), if_neg, hdir]
    rintro rfl
    rw [hdir] at hfile
    cases hfile

/-- A file keeps its content under a name under which nothing is written. -/
theorem Change.node?_of_file (h : Change named fs fs') {content : ByteArray} (hname : ¬ named name)
    (hfile : fs.node? (q ++ [name]) = some (.file content)) :
    fs'.node? (q ++ [name]) = some (.file content) := by
  have hother : ∀ p n, named n → q ++ [name] ≠ p ++ [n] := by
    rintro p n hn heq
    obtain ⟨-, hsame⟩ := List.append_inj' heq rfl
    obtain rfl : name = n := by simpa using hsame
    exact hname hn
  cases h with
  | @made p n _ hnone =>
    rw [node?_put (append_singleton_ne p n), if_neg, hfile]
    intro heq
    rw [heq, hnone] at hfile
    cases hfile
  | @wrote p n _ hn => rw [node?_put (append_singleton_ne p n), if_neg (hother p n hn), hfile]
  | @removed p n _ hn => rw [node?_erase (append_singleton_ne p n), if_neg (hother p n hn), hfile]

theorem Change.isTree (h : Change named fs fs') (htree : IsTree fs) : IsTree fs' := by
  -- what is new stands in a directory; everything else stood in one, which is still there
  suffices hold : ∀ q name, fs'.node? (q ++ [name]) ≠ none → fs.node? q = some .directory from
    fun q name hnode => h.node?_of_directory (hold q name hnode)
  intro q name hnode
  cases h with
  | @made p n hdir hnone =>
    rw [node?_put (append_singleton_ne p n)] at hnode
    split at hnode
    · next heq => rwa [(List.append_inj' heq rfl).1]
    · exact htree q name hnode
  | @wrote p n _ _ hdir =>
    rw [node?_put (append_singleton_ne p n)] at hnode
    split at hnode
    · next heq => rwa [(List.append_inj' heq rfl).1]
    · exact htree q name hnode
  | @removed p n =>
    rw [node?_erase (append_singleton_ne p n)] at hnode
    split at hnode
    · exact absurd rfl hnode
    · exact htree q name hnode

namespace Reached

theorem node?_of_directory (h : Reached named fs fs') (hdir : fs.node? q = some .directory) :
    fs'.node? q = some .directory := by
  induction h with
  | refl => exact hdir
  | tail _ step ih => exact step.node?_of_directory ih

theorem node?_of_file (h : Reached named fs fs') {content : ByteArray} (hname : ¬ named name)
    (hfile : fs.node? (q ++ [name]) = some (.file content)) :
    fs'.node? (q ++ [name]) = some (.file content) := by
  induction h with
  | refl => exact hfile
  | tail _ step ih => exact step.node?_of_file hname ih

theorem isTree (h : Reached named fs fs') (htree : IsTree fs) : IsTree fs' := by
  induction h with
  | refl => exact htree
  | tail _ step ih => exact step.isTree ih

end Reached

/-! ### Operations as changes -/

theorem change_of_makeDirectory (htree : IsTree fs)
    (hmake : fs.makeDirectory here (path.child name) = .ok fs') : Change named fs fs' := by
  obtain ⟨-, hreaches, hnone, rfl⟩ := makeDirectory_eq_ok_iff.1 hmake
  have hdir : fs.node? (path.placeFrom here) = some .directory := by
    rw [Reaches, above_child] at hreaches
    exact hreaches _ (List.mem_append_right _ (List.mem_singleton_self _))
  by_cases hup : name = ".."
  · have hplace : (path.child name).placeFrom here = (path.placeFrom here).dropLast := by
      rw [Path.placeFrom, Path.child, List.foldl_concat, hup]
      rfl
    rw [hplace, htree.node?_dropLast hdir] at hnone
    cases hnone
  · rw [Path.placeFrom_child hup] at hnone ⊢
    exact .made hdir hnone

/-- Making the directories of a path is a row of changes. -/
theorem reached_makeDirectoriesAt (htree : IsTree fs) (here : Place) (root : Path.Root)
    (names : List String) : Reached named fs (fs.makeDirectoriesAt here root names).2 := by
  induction names with
  | nil => exact .refl
  | cons name names ih =>
    have hpath : (⟨root, (name :: names).reverse⟩ : Path) =
        (⟨root, names.reverse⟩ : Path).child name := by rw [Path.child, List.reverse_cons]
    rw [makeDirectoriesAt, hpath]
    dsimp only
    split
    · next hmake => exact .single (change_of_makeDirectory htree hmake)
    · split
      · exact .refl
      · split
        · split
          · next fs₁ hrest =>
            rw [hrest] at ih
            split
            · next hmake => exact ih.tail (change_of_makeDirectory (ih.isTree htree) hmake)
            · split <;> exact ih
          · exact ih
        · exact .refl

theorem reached_makeDirectories (htree : IsTree fs) (here : Place) (path : Path) :
    Reached named fs (fs.makeDirectories here path).2 :=
  reached_makeDirectoriesAt htree here path.root path.parts.reverse

section Child

variable {dir : Path} {content : ByteArray}

theorem change_of_write (hup : name ≠ "..") (hnamed : named name)
    (hwrite : fs.write here (dir.child name) content = .ok fs') : Change named fs fs' := by
  obtain ⟨-, hreaches, hfile, rfl⟩ := write_eq_ok_iff.1 hwrite
  rw [Reaches, above_child] at hreaches
  rw [Path.placeFrom_child hup] at hfile ⊢
  exact .wrote hnamed (hreaches _ (List.mem_append_right _ (List.mem_singleton_self _))) hfile

theorem change_of_remove (hup : name ≠ "..") (hnamed : named name)
    (hremove : fs.remove here (dir.child name) = .ok fs') : Change named fs fs' := by
  rw [remove] at hremove
  cases hplace : fs.place? here (dir.child name) with
  | error fault =>
    rw [hplace] at hremove
    cases hremove
  | ok place =>
    obtain ⟨-, -, rfl⟩ := place?_eq_ok_iff.1 hplace
    rw [Path.placeFrom_child hup] at hplace
    rw [hplace] at hremove
    simp only [bind, Except.bind] at hremove
    split at hremove
    · cases hremove
    · cases hremove
    · next hfile =>
      cases hremove
      exact .removed hnamed hfile

/-- Moving a file removes it, and then writes it at its target. -/
theorem reached_of_rename {name' : String} (hup : name ≠ "..") (hup' : name' ≠ "..")
    (hnamed : named name) (hnamed' : named name')
    (hrename : fs.rename here (dir.child name) (dir.child name') = .ok fs') : Reached named fs fs' := by
  rw [rename] at hrename
  cases hplace : fs.place? here (dir.child name) with
  | error fault =>
    rw [hplace] at hrename
    cases hrename
  | ok place =>
    cases hplace' : fs.place? here (dir.child name') with
    | error fault =>
      rw [hplace, hplace'] at hrename
      cases hrename
    | ok place' =>
      obtain ⟨-, hreaches, rfl⟩ := place?_eq_ok_iff.1 hplace
      obtain ⟨-, -, rfl⟩ := place?_eq_ok_iff.1 hplace'
      rw [Reaches, above_child] at hreaches
      rw [hplace, hplace', Path.placeFrom_child hup, Path.placeFrom_child hup'] at hrename
      simp only [bind, Except.bind] at hrename
      split at hrename
      · cases hrename
      · cases hrename
      · cases hrename
      · next content hfile hfree =>
        cases hrename
        have hremoved : Change named fs (fs.erase (dir.placeFrom here ++ [name])) := .removed hnamed hfile
        refine .tail (.single hremoved) (.wrote hnamed' (hremoved.node?_of_directory
          (hreaches _ (List.mem_append_right _ (List.mem_singleton_self _)))) ?_)
        rw [node?_erase (append_singleton_ne _ _)]
        split
        · simp
        · exact hfree

end Child

end Monomorph.FileSystem
