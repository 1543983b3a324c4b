import Mathlib.Data.List.Basic
import Monomorph.FileSystem
import Monomorph.Proofs.Text.Words

/-!
Places that paths name. A path leads from directory to directory, and it names a place exactly if all
these are there and no name in it is too long; which place it is does not depend on the files. So an
operation is described by the directories above a path and by what stands at its place, and it changes
that place only.
-/

namespace Monomorph

/-- The places that a list of names leads through, without the one that it leads to. -/
def Place.through (here : Place) : List String → List Place
  | [] => []
  | name :: rest => here :: Place.through (Path.step here name) rest

namespace Path

/-- Where the names of a path start. -/
def start (p : Path) (here : Place) : Place := if p.isAbsolute then [] else here

/-- The place that a path names, if it names any. -/
def placeFrom (p : Path) (here : Place) : Place := p.parts.foldl Path.step (p.start here)

/-- The places of the directories that a path leads through. -/
def above (p : Path) (here : Place) : List Place := Place.through (p.start here) p.parts

/-- No name in the path is too long, nor is the path, and it can name something. -/
structure IsFit (p : Path) : Prop where
  nameable : p.isNameable = true
  short : p.toString.utf8ByteSize ≤ FileSystem.longestPath
  names : ∀ name ∈ p.parts, name = ".." ∨ name.utf8ByteSize ≤ FileSystem.longestName

variable {p : Path} {here : Place} {init : List String} {name : String}

theorem step_of_ne (h : name ≠ "..") (place : Place) : Path.step place name = place ++ [name] := by
  rw [Path.step, if_neg (by simpa using h)]

/-! ### Paths in a directory -/

theorem parent_child (p : Path) (name : String) : (p.child name).parent = p := by
  rw [parent, child, List.dropLast_concat]

theorem name_child (p : Path) (name : String) : (p.child name).name = name := by
  rw [Path.name, child, List.getLast?_concat, Option.getD_some]

theorem placeFrom_child (h : name ≠ "..") (p : Path) (here : Place) :
    (p.child name).placeFrom here = p.placeFrom here ++ [name] := by
  rw [placeFrom, child, List.foldl_concat, step_of_ne h]
  rfl

theorem isNameable_child (p : Path) (name : String) :
    (p.child name).isNameable = (p.isNameable && !name.toList.contains (Char.ofNat 0)) := by
  simp [isNameable, child]

/-- An ending of the last component is an ending of the whole text. -/
theorem joinWith_append (sep : List Char) (ps : List (List Char)) (last ending : List Char) :
    Text.joinWith sep (ps ++ [last ++ ending]) = Text.joinWith sep (ps ++ [last]) ++ ending := by
  induction ps with
  | nil => rfl
  | cons q ps ih =>
    rw [List.cons_append, List.cons_append, Text.joinWith_cons sep q (by simp),
      Text.joinWith_cons sep q (by simp), ih, List.append_assoc (q ++ sep)]

/-- The dot for an empty path is not longer than any other text. -/
theorem utf8ByteSize_dot_le (s ending : String) : (if s == "" then "." else s).utf8ByteSize ≤
    (if s ++ ending == "" then "." else s ++ ending).utf8ByteSize := by
  have hdot : ".".utf8ByteSize = 1 := by decide
  have hsize : (s ++ ending).utf8ByteSize = s.utf8ByteSize + ending.utf8ByteSize :=
    String.utf8ByteSize_append
  by_cases hmore : s ++ ending = ""
  · obtain ⟨rfl, rfl⟩ := String.append_eq_empty_iff.1 hmore
    simp
  · have hpos : (s ++ ending).utf8ByteSize ≠ 0 := String.utf8ByteSize_eq_zero_iff.not.2 hmore
    have hlong : (s ++ ending == "") ≠ true := by rwa [ne_eq, beq_iff_eq]
    rw [if_neg hlong]
    split <;> omega

/-- A longer name in the same directory makes a longer path. -/
theorem utf8ByteSize_child_le (p : Path) (name ending : String) :
    (p.child name).toString.utf8ByteSize ≤ (p.child (name ++ ending)).toString.utf8ByteSize := by
  have htext : p.root.text ++ Text.join "/" (p.child (name ++ ending)).parts =
      p.root.text ++ Text.join "/" (p.child name).parts ++ ending := by
    apply String.toList_injective
    simp [child, Text.join, joinWith_append]
  have hle := utf8ByteSize_dot_le (p.root.text ++ Text.join "/" (p.child name).parts) ending
  rwa [← htext] at hle

/-- A name stays short enough without its ending. -/
theorem IsFit.of_child_append {ending : String} (hname : name ≠ "..") (hending : name ++ ending ≠ "..")
    (h : (p.child (name ++ ending)).IsFit) : (p.child name).IsFit where
  nameable := by
    have hall := h.nameable
    rw [isNameable_child, Bool.and_eq_true] at hall ⊢
    refine ⟨hall.1, ?_⟩
    have hboth := hall.2
    simp only [String.toList_append, Bool.not_eq_eq_eq_not, Bool.not_true, List.contains_eq_mem,
      List.mem_append, decide_eq_false_iff_not, not_or] at hboth ⊢
    exact hboth.1
  short := Nat.le_trans (utf8ByteSize_child_le p name ending) h.short
  names := by
    intro part hpart
    rcases List.mem_append.1 hpart with hpart | hpart
    · exact h.names part (List.mem_append_left _ hpart)
    · obtain rfl := List.mem_singleton.1 hpart
      have hlong := (h.names (part ++ ending) (by simp [child])).resolve_left hending
      rw [String.utf8ByteSize_append] at hlong
      exact .inr (Nat.le_trans (Nat.le_add_right _ _) hlong)

end Path

theorem Place.through_append (here : Place) (names more : List String) :
    Place.through here (names ++ more) =
      Place.through here names ++ Place.through (names.foldl Path.step here) more := by
  induction names generalizing here with
  | nil => rfl
  | cons name names ih => rw [List.cons_append, through, ih, List.foldl_cons]; rfl

namespace FileSystem

variable {fs fs' : FileSystem} {here place q : Place} {path : Path} {names : List String} {node : Node}

/-! ### Nodes -/

theorem lookup_putNode (nodes : List (Place × Node)) (q : Place) :
    (putNode place node nodes).lookup q = if q = place then some node else nodes.lookup q := by
  induction nodes with
  | nil =>
    rw [putNode, List.lookup_cons, List.lookup_nil]
    by_cases h : q = place
    · simp [h]
    · simp [h, beq_eq_false_iff_ne.2 h]
  | cons entry nodes ih =>
    obtain ⟨p, n⟩ := entry
    rw [putNode]
    split
    · next h =>
      obtain rfl := beq_iff_eq.1 h
      by_cases hq : q = p
      · simp [hq]
      · simp [List.lookup_cons, hq, beq_eq_false_iff_ne.2 hq]
    · next h =>
      rw [List.lookup_cons, ih, List.lookup_cons]
      by_cases hq : q = p
      · have hne : p ≠ place := by simpa using h
        simp [hq, hne]
      · simp [beq_eq_false_iff_ne.2 hq]

/-- Putting a node changes its place only. The root directory stays. -/
theorem node?_put (hplace : place ≠ []) (q : Place) :
    (fs.put place node).node? q = if q = place then some node else fs.node? q := by
  unfold node? put
  by_cases hq : q = []
  · simp [hq, hplace.symm]
  · simp [hq, lookup_putNode]

theorem node?_nil : fs.node? [] = some .directory := rfl

/-- Erasing a node changes its place only. -/
theorem node?_erase (hplace : place ≠ []) (q : Place) :
    (fs.erase place).node? q = if q = place then none else fs.node? q := by
  unfold node? erase
  by_cases hq : q = []
  · simp [hq, hplace.symm]
  · simp only [List.isEmpty_iff, hq, if_false]
    induction fs.nodes with
    | nil => simp
    | cons entry nodes ih =>
      obtain ⟨p, n⟩ := entry
      by_cases hp : p = place
      · by_cases hqp : q = place
        · simpa [hp, hqp] using ih
        · simpa [hp, hqp, List.lookup_cons, beq_eq_false_iff_ne.2 hqp] using ih
      · by_cases hqp : q = p
        · simp [hqp, hp]
        · simpa [hp, List.lookup_cons, beq_eq_false_iff_ne.2 hqp] using ih

/-! ### Paths -/

/-- All directories that a path leads through are there. -/
def Reaches (fs : FileSystem) (here : Place) (path : Path) : Prop :=
  ∀ q ∈ path.above here, fs.node? q = some .directory

/-- Walking succeeds through directories and along names that are not too long. -/
theorem walk_eq_ok_iff : fs.walk here names = .ok place ↔
    (∀ q ∈ Place.through here names, fs.node? q = some .directory) ∧
      (∀ name ∈ names, name = ".." ∨ name.utf8ByteSize ≤ longestName) ∧
      place = names.foldl Path.step here := by
  induction names generalizing here with
  | nil => simp [walk, Place.through, eq_comm]
  | cons name names ih =>
    rw [walk, Place.through, List.foldl_cons]
    cases hnode : fs.node? here with
    | none => simp [hnode]
    | some n =>
      cases n with
      | file content => simp [hnode]
      | directory =>
        by_cases hup : name = ".."
        · subst hup
          simp [ih, hnode, Path.step]
        · rw [Path.step_of_ne hup]
          by_cases hlong : longestName < name.utf8ByteSize
          · simp [hnode, hup, hlong, Nat.not_le_of_lt hlong]
          · simp [hnode, hup, hlong, ih, Nat.le_of_not_lt hlong]

/-- A path names a place if it is fit and the directories that it leads through are there. -/
theorem place?_eq_ok_iff : fs.place? here path = .ok place ↔
    path.IsFit ∧ fs.Reaches here path ∧ place = path.placeFrom here := by
  unfold place?
  by_cases hname : path.isNameable = true
  · by_cases hlong : longestPath < path.toString.utf8ByteSize
    · simp only [hname, hlong, Bool.not_true, Bool.false_eq_true, if_false, if_true, reduceCtorEq,
        false_iff]
      rintro ⟨hfit, -⟩
      exact absurd hfit.short (Nat.not_le_of_lt hlong)
    · simp only [hname, hlong, Bool.not_true, Bool.false_eq_true, if_false]
      rw [walk_eq_ok_iff]
      constructor
      · rintro ⟨hreaches, hnames, hplace⟩
        exact ⟨⟨hname, Nat.le_of_not_lt hlong, hnames⟩, hreaches, hplace⟩
      · rintro ⟨hfit, hreaches, hplace⟩
        exact ⟨hreaches, hfit.names, hplace⟩
  · simp only [hname, Bool.not_false, if_true, reduceCtorEq, false_iff]
    rintro ⟨hfit, -⟩
    exact absurd hfit.nameable hname

theorem walk_ne_nameless : fs.walk here names ≠ .error .nameless := by
  induction names generalizing here with
  | nil => simp [walk]
  | cons name names ih =>
    rw [walk]
    split
    · simp
    · simp
    · split
      · exact ih
      · split
        · simp
        · exact ih

theorem nameable_of_place? {fault : FileFault} (h : fs.place? here path = .error fault)
    (hname : path.isNameable = true) : fault ≠ .nameless := by
  rintro rfl
  unfold place? at h
  rw [hname, Bool.not_true, if_neg Bool.false_ne_true] at h
  split at h
  · cases h
  · exact walk_ne_nameless h

/-! ### Operations -/

/-- Something is found only where a path names a place. -/
theorem exists_of_kind? {kind : FileKind} (h : fs.kind? here path = .ok (some kind)) :
    path.IsFit ∧ fs.Reaches here path ∧ (fs.node? (path.placeFrom here)).isSome = true := by
  unfold kind? at h
  split at h
  · next place hplace =>
    obtain ⟨hfit, hreaches, rfl⟩ := place?_eq_ok_iff.1 hplace
    refine ⟨hfit, hreaches, ?_⟩
    cases hnode : fs.node? (path.placeFrom here) with
    | none => simp [hnode] at h
    | some n => rfl
  · cases h
  · cases h
  · cases h
  · cases h

theorem kind?_ne_nameless : fs.kind? here path ≠ .error .nameless := by
  unfold kind?
  intro h
  split at h
  · cases h
  · cases h
  · cases h
  · cases h
  · next fault _ _ hnameless _ =>
    cases h
    exact hnameless rfl

theorem write_eq_ok_iff {content : ByteArray} : fs.write here path content = .ok fs' ↔
    path.IsFit ∧ fs.Reaches here path ∧ fs.node? (path.placeFrom here) ≠ some .directory ∧
      fs' = fs.put (path.placeFrom here) (.file content) := by
  rw [write]
  cases hplace : fs.place? here path with
  | error fault =>
    simp only [bind, Except.bind, reduceCtorEq, false_iff]
    rintro ⟨hfit, hreaches, -⟩
    rw [place?_eq_ok_iff.2 ⟨hfit, hreaches, rfl⟩] at hplace
    cases hplace
  | ok place =>
    obtain ⟨hfit, hreaches, rfl⟩ := place?_eq_ok_iff.1 hplace
    by_cases hdir : fs.node? (path.placeFrom here) = some .directory
    · simp [bind, Except.bind, hdir]
    · simp [bind, Except.bind, hdir, hfit, hreaches, eq_comm]

/-- A file is written unless its path names no place, or there is a directory. -/
theorem write_eq_error {content : ByteArray} {fault : FileFault}
    (h : fs.write here path content = .error fault) : fs.place? here path = .error fault ∨
      fault = .isDirectory ∧ fs.node? (path.placeFrom here) = some .directory := by
  rw [write] at h
  cases hplace : fs.place? here path with
  | error fault' =>
    simp only [hplace, bind, Except.bind] at h
    cases h
    exact .inl rfl
  | ok place =>
    obtain ⟨-, -, rfl⟩ := place?_eq_ok_iff.1 hplace
    simp only [hplace, bind, Except.bind] at h
    split at h
    · next hdir =>
      cases h
      exact .inr ⟨rfl, hdir⟩
    · cases h

/-- A file that a path names can be removed. -/
theorem remove_of_file {content : ByteArray} (hfit : path.IsFit) (hreaches : fs.Reaches here path)
    (hfile : fs.node? (path.placeFrom here) = some (.file content)) :
    fs.remove here path = .ok (fs.erase (path.placeFrom here)) := by
  rw [remove, place?_eq_ok_iff.2 ⟨hfit, hreaches, rfl⟩]
  simp only [bind, Except.bind, hfile]

/-- Only a file can be removed. -/
theorem remove_eq_ok_iff : fs.remove here path = .ok fs' ↔ path.IsFit ∧ fs.Reaches here path ∧
    (∃ content, fs.node? (path.placeFrom here) = some (.file content)) ∧
      fs' = fs.erase (path.placeFrom here) := by
  rw [remove]
  cases hplace : fs.place? here path with
  | error fault =>
    simp only [bind, Except.bind, reduceCtorEq, false_iff]
    rintro ⟨hfit, hreaches, -⟩
    rw [place?_eq_ok_iff.2 ⟨hfit, hreaches, rfl⟩] at hplace
    cases hplace
  | ok place =>
    obtain ⟨hfit, hreaches, rfl⟩ := place?_eq_ok_iff.1 hplace
    cases hnode : fs.node? (path.placeFrom here) with
    | none => simp [bind, Except.bind, hnode]
    | some n => cases n <;> simp [bind, Except.bind, hnode, hfit, hreaches, eq_comm]

/-- What is missing when it is to be removed is not there, or the path leads through something missing. -/
theorem remove_eq_missing (h : fs.remove here path = .error .missing) :
    fs.place? here path = .error .missing ∨ path.IsFit ∧ fs.node? (path.placeFrom here) = none := by
  rw [remove] at h
  cases hplace : fs.place? here path with
  | error fault =>
    rw [hplace] at h
    cases h
    exact .inl rfl
  | ok place =>
    obtain ⟨hfit, -, rfl⟩ := place?_eq_ok_iff.1 hplace
    simp only [hplace, bind, Except.bind] at h
    split at h
    · next hnone => exact .inr ⟨hfit, hnone⟩
    · cases h
    · cases h

/-- A file is moved unless its target is a directory. -/
theorem rename_of_file {target : Path} {content : ByteArray} (hfit : path.IsFit) (htarget : target.IsFit)
    (hreaches : fs.Reaches here path) (hreaches' : fs.Reaches here target)
    (hfile : fs.node? (path.placeFrom here) = some (.file content)) :
    (fs.node? (target.placeFrom here) ≠ some .directory ∧ fs.rename here path target =
      .ok ((fs.erase (path.placeFrom here)).put (target.placeFrom here) (.file content))) ∨
    fs.node? (target.placeFrom here) = some .directory ∧
      fs.rename here path target = .error .isDirectory := by
  rw [rename, place?_eq_ok_iff.2 ⟨hfit, hreaches, rfl⟩, place?_eq_ok_iff.2 ⟨htarget, hreaches', rfl⟩]
  simp only [bind, Except.bind, hfile]
  cases htargetNode : fs.node? (target.placeFrom here) with
  | none => exact .inl ⟨by simp, rfl⟩
  | some n =>
    cases n with
    | directory => exact .inr ⟨rfl, rfl⟩
    | file old => exact .inl ⟨by simp, rfl⟩

end FileSystem

end Monomorph
