import Mathlib.Data.List.Dedup
import Mathlib.Logic.Relation
import Monomorph.Proofs.Forest.Walk

/-!
Histories of a forest. A history is any sequence of look-ups and merges of known names. Every step of
it answers, keeps the forest in order, and joins classes exactly as the merges so far say. A look-up
moves no root, and what later steps answer depends on the roots only.
-/

namespace Monomorph.Forest

/-- A step of a history: a name is looked up, or the classes of two names are merged. -/
inductive Step where
  | find (name : String)
  | union (a b : String)
  deriving DecidableEq, Repr

/-- The names that a step mentions. -/
def Step.names : Step → List String
  | find n => [n]
  | union a b => [a, b]

/-- The answer of a step and the forest after it; nothing for an unknown name. -/
def Step.take? (f : Forest) : Step → Option (String × Forest)
  | find n => f.find? n
  | union a b => f.union? a b

/-- The answers of steps that are taken one after the other, and the forest after them. -/
def run? (f : Forest) : List Step → Option (List String × Forest)
  | [] => some ([], f)
  | s :: rest => do
    let (answer, g) ← s.take? f
    let (answers, g) ← g.run? rest
    return (answer :: answers, g)

/-- Are two names in one class, as the merges among some steps say? -/
def Joined (steps : List Step) : String → String → Prop :=
  Relation.EqvGen fun a b => Step.union a b ∈ steps

variable {names : List String} {steps before : List Step} {f g : Forest} {s : Step}
  {a b n : String} {i j k : Nat}

theorem Joined.mono {more : List Step} (h : Joined steps a b) : Joined (steps ++ more) a b :=
  Relation.EqvGen.mono (fun _ _ hmem => List.mem_append_left more hmem) a b h

/-! ### Names and their numbers -/

theorem lastOccurrences_eq_dedup (names : List String) : lastOccurrences names = names.dedup := by
  induction names with
  | nil => rfl
  | cons n rest ih =>
    rw [lastOccurrences]
    by_cases hn : n ∈ rest
    · rw [if_pos (by simpa using hn), ih, List.dedup_cons_of_mem hn]
    · rw [if_neg (by simpa using hn), ih, List.dedup_cons_of_notMem hn]

theorem getElem?_of_index? (h : f.index? n = some i) : f.names[i]? = some n := by
  obtain ⟨hlt, rfl, -⟩ := List.idxOf?_eq_some_iff.1 h
  exact List.getElem?_eq_getElem hlt

theorem nameAt_of_index? (h : f.index? n = some i) : f.nameAt i = n := by
  rw [nameAt, List.getD_eq_getElem?_getD, getElem?_of_index? h, Option.getD_some]

/-- The number of the root of a name's class. -/
def rootOf? (f : Forest) (name : String) : Option Nat := (f.index? name).map f.root

/-- A forest over some names that is in order: every distinct name is there, with a parent that is no
later. -/
structure Sound (names : List String) (f : Forest) : Prop where
  names : f.names = names.dedup
  full : f.parents.length = f.names.length
  descends : f.Descends

namespace Sound

theorem nodup (hf : Sound names f) : f.names.Nodup := by
  rw [hf.names]
  exact List.nodup_dedup names

theorem exists_index? (hf : Sound names f) (hn : n ∈ names) : ∃ i, f.index? n = some i := by
  rw [← Option.isSome_iff_exists, index?, List.isSome_idxOf?, hf.names, List.mem_dedup]
  exact hn

theorem index?_nameAt (hf : Sound names f) (hi : i < f.names.length) :
    f.index? (f.nameAt i) = some i := by
  apply index?_eq_some hf.nodup
  rw [nameAt, List.getD_eq_getElem?_getD, List.getElem?_eq_getElem hi, Option.getD_some]

theorem lt_of_index? (h : f.index? n = some i) : i < f.names.length :=
  (List.getElem?_eq_some_iff.1 (getElem?_of_index? h)).1

theorem singletons (names : List String) : Sound names (singletons names) where
  names := lastOccurrences_eq_dedup names
  full := length_parents_singletons names
  descends := by
    intro i
    rw [parent, Forest.singletons, List.getD_eq_getElem?_getD]
    by_cases h : i < (lastOccurrences names).length
    · simp [List.getElem?_range h]
    · have hnone : (List.range (lastOccurrences names).length)[i]? = none := by simpa using h
      simp [hnone]

end Sound

/-! ### One step -/

theorem Descends.union? (hf : f.Descends) (h : f.union? a b = some (n, g)) : g.Descends := by
  unfold Forest.union? at h
  simp only [bind, Option.bind_eq_some_iff, pure, Option.some.injEq, Prod.mk.injEq] at h
  obtain ⟨i, -, j, -, -, rfl⟩ := h
  have hshort := (hf.shorten (i := i) rfl).shorten (i := j) rfl
  split
  · exact hshort
  · exact hshort.set min_le_max

theorem Sound.find? (hf : Sound names f) (hi : f.index? n = some i) :
    f.find? n = some (f.nameAt (f.root i), f.shorten (f.root i) i) ∧
      Sound names (f.shorten (f.root i) i) := by
  refine ⟨by rw [Forest.find?, hi, Option.map_some], ?_, ?_, hf.descends.shorten rfl⟩
  · rw [names_shorten, hf.names]
  · rw [length_parents_shorten, names_shorten, hf.full]

/-- What a merge does: the later of the two roots moves to the earlier one, with all of its class. -/
theorem Sound.exists_union? (hf : Sound names f) (hi : f.index? a = some i)
    (hj : f.index? b = some j) :
    ∃ g, f.union? a b = some (f.nameAt (min (f.root i) (f.root j)), g) ∧ Sound names g ∧
      ∀ k, g.root k = if f.root k = max (f.root i) (f.root j) then min (f.root i) (f.root j)
        else f.root k := by
  obtain ⟨g, hg, hnames, hlen, hroot⟩ := Forest.exists_union? hf.full hi hj
  refine ⟨g, hg, ⟨?_, ?_, hf.descends.union? hg⟩, hroot⟩
  · rw [hnames, hf.names]
  · rw [hlen, hnames, hf.full]

/-! ### What a history says about the roots -/

/-- The forest after some steps: it is in order, and two names have one root exactly if the merges
among the steps join them. -/
structure After (names : List String) (steps : List Step) (f : Forest) : Prop extends
    Sound names f where
  met : ∀ a b, Step.union a b ∈ steps → f.rootOf? a = f.rootOf? b
  joined : ∀ a b i j, f.index? a = some i → f.index? b = some j → f.root i = f.root j →
    Joined steps a b

namespace After

theorem singletons (names : List String) : After names [] (singletons names) where
  toSound := Sound.singletons names
  met := by simp
  joined := by
    intro a b i j hi hj hroot
    rw [root_singletons, root_singletons] at hroot
    subst hroot
    obtain rfl : a = b := (nameAt_of_index? hi).symm.trans (nameAt_of_index? hj)
    exact .refl a

/-- Joined names have one root, whatever chain of merges joins them. -/
theorem rootOf?_eq (hf : After names steps f) (h : Joined steps a b) :
    f.rootOf? a = f.rootOf? b := by
  induction h with
  | rel a b hmem => exact hf.met a b hmem
  | refl a => rfl
  | symm a b _ ih => exact ih.symm
  | trans a b c _ _ ih ih' => exact ih.trans ih'

theorem joined_iff (hf : After names steps f) (hi : f.index? a = some i)
    (hj : f.index? b = some j) : Joined steps a b ↔ f.root i = f.root j := by
  constructor
  · intro h
    simpa [rootOf?, hi, hj] using hf.rootOf?_eq h
  · exact hf.joined a b i j hi hj

/-- What is joined to a known name is known. -/
theorem exists_index?_of_joined (hf : After names steps f) (hi : f.index? a = some i)
    (h : Joined steps a b) : ∃ j, f.index? b = some j ∧ f.root i = f.root j := by
  have hroot := hf.rootOf?_eq h
  cases hj : f.index? b with
  | none => simp [rootOf?, hi, hj] at hroot
  | some j => exact ⟨j, rfl, (hf.joined_iff hi hj).1 h⟩

theorem find (hf : After names steps f) (hi : f.index? n = some i) :
    After names (steps ++ [.find n]) (f.shorten (f.root i) i) where
  toSound := (hf.toSound.find? hi).2
  met := by
    intro a b hmem
    have hroots : (f.shorten (f.root i) i).root = f.root := funext (root_shorten f i)
    rw [rootOf?, rootOf?, index?, index?, hroots, names_shorten]
    exact hf.met a b (by simpa using hmem)
  joined := by
    intro a b k l hk hl hroot
    rw [root_shorten, root_shorten] at hroot
    rw [index?, names_shorten] at hk hl
    exact (hf.joined a b k l hk hl hroot).mono

theorem union (hf : After names steps f) (hi : f.index? a = some i) (hj : f.index? b = some j)
    (hg : Sound names g) (hroot : ∀ k, g.root k =
      if f.root k = max (f.root i) (f.root j) then min (f.root i) (f.root j) else f.root k) :
    After names (steps ++ [.union a b]) g where
  toSound := hg
  met := by
    have hindex : ∀ n, g.index? n = f.index? n := fun n => by
      rw [index?, index?, hg.names, hf.names]
    intro c d hmem
    rcases List.mem_append.1 hmem with hmem | hmem
    · have hold := hf.met c d hmem
      simp only [rootOf?, hindex, funext hroot] at hold ⊢
      cases hc : f.index? c <;> cases hd : f.index? d <;> simp_all
    · obtain ⟨rfl, rfl⟩ : c = a ∧ d = b := by simpa using hmem
      simp only [rootOf?, hindex, hi, hj, Option.map_some, hroot, Option.some.injEq]
      rcases le_total (f.root i) (f.root j) with h | h
      · simp [h]
      · simp [h]
  joined := by
    have hindex : ∀ n, g.index? n = f.index? n := fun n => by
      rw [index?, index?, hg.names, hf.names]
    -- whatever has one of the two roots is joined to `a` by now
    have hto : ∀ {n k}, f.index? n = some k → f.root k = f.root i ∨ f.root k = f.root j →
        Joined (steps ++ [.union a b]) n a := by
      intro n k hk hor
      rcases hor with h | h
      · exact (hf.joined n a k i hk hi h).mono
      · have hb : Joined (steps ++ [.union a b]) a b := .rel a b (by simp)
        exact .trans n b a (hf.joined n b k j hk hj h).mono (.symm a b hb)
    have hmax := max_choice (f.root i) (f.root j)
    have hmin := min_choice (f.root i) (f.root j)
    intro c d k l hk hl hsame
    rw [hindex] at hk hl
    rw [hroot, hroot] at hsame
    by_cases hold : f.root k = f.root l
    · exact (hf.joined c d k l hk hl hold).mono
    · have hboth : (f.root k = f.root i ∨ f.root k = f.root j) ∧
          (f.root l = f.root i ∨ f.root l = f.root j) := by
        split at hsame <;> split at hsame <;> omega
      exact .trans c a d (hto hk hboth.1) (.symm d a (hto hl hboth.2))

/-- A step that mentions known names only answers, and the forest after it is that after all steps so
far. -/
theorem take? (hf : After names steps f) (hs : s.names ⊆ names) :
    ∃ answer g, s.take? f = some (answer, g) ∧ After names (steps ++ [s]) g := by
  cases s with
  | find n =>
    obtain ⟨i, hi⟩ := hf.exists_index? (n := n) (hs (by simp [Step.names]))
    exact ⟨_, _, (hf.toSound.find? hi).1, hf.find hi⟩
  | union a b =>
    obtain ⟨i, hi⟩ := hf.exists_index? (n := a) (hs (by simp [Step.names]))
    obtain ⟨j, hj⟩ := hf.exists_index? (n := b) (hs (by simp [Step.names]))
    obtain ⟨g, hg, hsound, hroot⟩ := hf.toSound.exists_union? hi hj
    exact ⟨_, g, hg, hf.union hi hj hsound hroot⟩

/-- A whole history of known names answers. -/
theorem run? (hf : After names before f) (hs : ∀ s ∈ steps, s.names ⊆ names) :
    ∃ answers g, f.run? steps = some (answers, g) ∧ After names (before ++ steps) g := by
  induction steps generalizing before f with
  | nil => exact ⟨[], f, rfl, by simpa using hf⟩
  | cons s rest ih =>
    obtain ⟨hhead, hrest⟩ := List.forall_mem_cons.1 hs
    obtain ⟨answer, g, hg, hafter⟩ := hf.take? hhead
    obtain ⟨answers, last, hlast, hend⟩ := ih hafter hrest
    refine ⟨answer :: answers, last, ?_, by simpa using hend⟩
    simp [Forest.run?, hg, hlast]

end After

/-! ### Later answers -/

/-- Two forests over the same names with the same roots. -/
def SameRoots (f g : Forest) : Prop := f.names = g.names ∧ ∀ i, f.root i = g.root i

theorem sameRoots_shorten (f : Forest) (i : Nat) : SameRoots f (f.shorten (f.root i) i) :=
  ⟨(names_shorten f (f.root i) i).symm, fun j => (root_shorten f i j).symm⟩

theorem SameRoots.trans {e : Forest} (h : SameRoots e f) (h' : SameRoots f g) : SameRoots e g :=
  ⟨h.1.trans h'.1, fun i => (h.2 i).trans (h'.2 i)⟩

theorem SameRoots.nameAt (h : SameRoots f g) (i : Nat) : f.nameAt i = g.nameAt i := by
  rw [Forest.nameAt, Forest.nameAt, h.1]

theorem SameRoots.index? (h : SameRoots f g) (n : String) : f.index? n = g.index? n := by
  rw [Forest.index?, Forest.index?, h.1]

theorem SameRoots.groups (h : SameRoots f g) : f.groups = g.groups := by
  have hnames : f.nameAt = g.nameAt := funext h.nameAt
  simp only [Forest.groups, h.1, h.2, hnames]

/-- A step answers the same in forests with the same roots, and leaves forests with the same roots.
-/
theorem SameRoots.take? (h : SameRoots f g) (hf : Sound names f) (hg : Sound names g)
    (hs : s.names ⊆ names) :
    ∃ answer f' g', s.take? f = some (answer, f') ∧ s.take? g = some (answer, g') ∧
      Sound names f' ∧ Sound names g' ∧ SameRoots f' g' := by
  cases s with
  | find n =>
    obtain ⟨i, hi⟩ := hf.exists_index? (n := n) (hs (by simp [Step.names]))
    have hi' : g.index? n = some i := h.index? n ▸ hi
    obtain ⟨hfind, hsound⟩ := hf.find? hi
    obtain ⟨hfind', hsound'⟩ := hg.find? hi'
    refine ⟨_, _, _, hfind, ?_, hsound, hsound', ?_, fun k => ?_⟩
    · rw [h.nameAt, h.2]
      exact hfind'
    · rw [names_shorten, names_shorten, h.1]
    · rw [root_shorten, root_shorten, h.2]
  | union a b =>
    obtain ⟨i, hi⟩ := hf.exists_index? (n := a) (hs (by simp [Step.names]))
    obtain ⟨j, hj⟩ := hf.exists_index? (n := b) (hs (by simp [Step.names]))
    obtain ⟨f', hunion, hsound, hroot⟩ := hf.exists_union? hi hj
    obtain ⟨g', hunion', hsound', hroot'⟩ :=
      hg.exists_union? (h.index? a ▸ hi) (h.index? b ▸ hj)
    refine ⟨_, f', g', hunion, ?_, hsound, hsound', ?_, fun k => ?_⟩
    · rw [h.nameAt, h.2, h.2]
      exact hunion'
    · rw [hsound.names, hsound'.names]
    · rw [hroot, hroot', h.2, h.2, h.2]

/-- A whole history answers the same in forests with the same roots. -/
theorem SameRoots.run? (h : SameRoots f g) (hf : Sound names f) (hg : Sound names g)
    (hs : ∀ s ∈ steps, s.names ⊆ names) :
    ∃ answers f' g', f.run? steps = some (answers, f') ∧ g.run? steps = some (answers, g') ∧
      SameRoots f' g' := by
  induction steps generalizing f g with
  | nil => exact ⟨[], f, g, rfl, rfl, h⟩
  | cons s rest ih =>
    obtain ⟨hhead, hrest⟩ := List.forall_mem_cons.1 hs
    obtain ⟨answer, f', g', hf', hg', hsound, hsound', hsame⟩ := h.take? hf hg hhead
    obtain ⟨answers, f'', g'', hrun, hrun', hend⟩ := ih hsame hsound hsound' hrest
    exact ⟨answer :: answers, f'', g'', by simp [Forest.run?, hf', hrun],
      by simp [Forest.run?, hg', hrun'], hend⟩

end Monomorph.Forest
