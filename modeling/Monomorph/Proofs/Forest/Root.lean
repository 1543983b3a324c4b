import Mathlib.Data.List.Nodup
import Mathlib.Order.MinMax
import Monomorph.Forest

/-!
Roots of a forest. Looking a name up shortens ways but moves no root, and merging two classes moves
the roots of exactly the class with the later root. Everything is said through `root`; the parents
behind it are opened here only.
-/

namespace Monomorph.Forest

variable {f : Forest} {i j r s : Nat}

theorem root_of_lt (h : f.parent i < i) : f.root i = f.root (f.parent i) := by
  rw [root, if_pos h]

theorem root_of_not_lt (h : ¬f.parent i < i) : f.root i = i := by
  rw [root, if_neg h]

theorem root_le (f : Forest) (i : Nat) : f.root i ≤ i := by
  induction i using Nat.strongRecOn with
  | ind i ih =>
    by_cases h : f.parent i < i
    · rw [root_of_lt h]
      exact (ih _ h).trans h.le
    · exact (root_of_not_lt h).le

@[simp]
theorem root_root (f : Forest) (i : Nat) : f.root (f.root i) = f.root i := by
  induction i using Nat.strongRecOn with
  | ind i ih =>
    by_cases h : f.parent i < i
    · rw [root_of_lt h, ih _ h]
    · rw [root_of_not_lt h, root_of_not_lt h]

/-- The forest with one parent exchanged. -/
theorem parent_set (ps : List Nat) (h : f.parents = ps.set i r) (hj : j ≠ i) :
    f.parent j = ps.getD j j := by
  rw [parent, h, List.getD_eq_getElem?_getD, List.getElem?_set_ne hj.symm,
    List.getD_eq_getElem?_getD]

/-! ### Shorter ways -/

/-- Pointing a number at its own root moves no root. -/
theorem root_set_own (hr : f.root i = r) (hlt : r < i) (j : Nat) :
    ({ f with parents := f.parents.set i r } : Forest).root j = f.root j := by
  set g : Forest := { f with parents := f.parents.set i r } with hg
  have hroot : f.root r = r := hr ▸ root_root f i
  induction j using Nat.strongRecOn with
  | ind j ih =>
    by_cases hj : j = i
    · subst hj
      rcases Nat.lt_or_ge j f.parents.length with hlen | hlen
      · have hp : g.parent j = r := by simp [hg, parent, List.getD_eq_getElem?_getD, hlen]
        rw [root_of_lt (hp ▸ hlt), hp, ih r hlt, hroot, hr]
      · rw [hg, List.set_eq_of_length_le hlen]
    · have hp : g.parent j = f.parent j := parent_set f.parents rfl hj
      by_cases hlt' : f.parent j < j
      · rw [root_of_lt (hp.symm ▸ hlt'), hp, ih _ hlt', ← root_of_lt hlt']
      · rw [root_of_not_lt (hp.symm ▸ hlt'), root_of_not_lt hlt']

@[simp]
theorem names_shorten (f : Forest) (r i : Nat) : (f.shorten r i).names = f.names := by
  fun_induction shorten f r i with
  | case1 i h g ih => exact ih
  | case2 i h => rfl

@[simp]
theorem length_parents_shorten (f : Forest) (r i : Nat) :
    (f.shorten r i).parents.length = f.parents.length := by
  fun_induction shorten f r i with
  | case1 i h g ih => simpa using ih
  | case2 i h => rfl

@[simp]
theorem root_shorten (f : Forest) (i j : Nat) : (f.shorten (f.root i) i).root j = f.root j := by
  suffices h : ∀ r, f.root i = r → ∀ j, (f.shorten r i).root j = f.root j from h _ rfl j
  intro r
  fun_induction shorten f r i with
  | case1 i hlt g ih =>
    intro hr j
    have hparent : f.root (f.parent i) = r := root_of_lt hlt ▸ hr
    have hg : ∀ j, g.root j = f.root j := ih hparent
    have hri : r < i := (hparent ▸ root_le f (f.parent i)).trans_lt hlt
    rw [root_set_own ((hg i).trans hr) hri, hg]
  | case2 i hlt => exact fun _ _ => rfl

/-! ### Merged classes -/

/-- Pointing a root at an earlier root takes its class along. -/
theorem root_set_root (hr : f.root r = r) (hs : f.root s = s) (hlt : r < s)
    (hlen : s < f.parents.length) (j : Nat) :
    ({ f with parents := f.parents.set s r } : Forest).root j =
      if f.root j = s then r else f.root j := by
  set g : Forest := { f with parents := f.parents.set s r } with hg
  have hps : g.parent s = r := by simp [hg, parent, List.getD_eq_getElem?_getD, hlen]
  induction j using Nat.strongRecOn with
  | ind j ih =>
    by_cases hj : j = s
    · subst hj
      rw [root_of_lt (hps ▸ hlt), hps, ih r hlt, hr, if_neg hlt.ne, hs, if_pos rfl]
    · have hp : g.parent j = f.parent j := parent_set f.parents rfl hj
      by_cases hlt' : f.parent j < j
      · rw [root_of_lt (hp.symm ▸ hlt'), hp, ih _ hlt', ← root_of_lt hlt']
      · rw [root_of_not_lt (hp.symm ▸ hlt'), root_of_not_lt hlt', if_neg hj]

/-- What a merge does to the roots: the later root and everything below it move to the earlier one.
-/
theorem exists_union? {a b : String} (hlen : f.parents.length = f.names.length)
    (hi : f.index? a = some i) (hj : f.index? b = some j) :
    ∃ g, f.union? a b = some (f.nameAt (min (f.root i) (f.root j)), g) ∧ g.names = f.names ∧
      g.parents.length = f.parents.length ∧
      ∀ k, g.root k = if f.root k = max (f.root i) (f.root j) then min (f.root i) (f.root j)
        else f.root k := by
  set f₁ := f.shorten (f.root i) i with hf₁
  have hr₁ : ∀ k, f₁.root k = f.root k := root_shorten f i
  set f₂ := f₁.shorten (f₁.root j) j with hf₂
  have hr₂ : ∀ k, f₂.root k = f.root k := fun k => (root_shorten f₁ j k).trans (hr₁ k)
  have hnames : f₂.names = f.names := by simp [hf₂, hf₁]
  have hlen₂ : f₂.parents.length = f.parents.length := by simp [hf₂, hf₁]
  have hname : ∀ k, f₂.nameAt k = f.nameAt k := fun k => by rw [nameAt, nameAt, hnames]
  -- the roots of known names are below the number of names
  have hbound : ∀ {k : Nat} {n : String}, f.index? n = some k → f.root k < f.parents.length :=
    fun {k n} hk => by
      rw [index?, List.idxOf?_eq_some_iff] at hk
      obtain ⟨hlt, -⟩ := hk
      exact (root_le f k).trans_lt (hlen ▸ hlt)
  have hself : ∀ k, f.root k = k → f₂.root k = k := fun k hk => (hr₂ k).trans hk
  unfold union?
  simp only [hi, hj, ← hf₁, Option.bind_eq_bind, Option.bind_some, Option.pure_def]
  rw [← hf₂, hr₂, hr₂, hname]
  by_cases heq : min (f.root i) (f.root j) = max (f.root i) (f.root j)
  · refine ⟨f₂, by rw [if_pos heq], hnames, hlen₂, fun k => ?_⟩
    rw [hr₂, ← heq]
    split
    · assumption
    · rfl
  · simp only [if_neg heq]
    refine ⟨_, rfl, hnames, by simp [hlen₂], fun k => ?_⟩
    have hmin : f₂.root (min (f.root i) (f.root j)) = min (f.root i) (f.root j) := by
      rcases min_choice (f.root i) (f.root j) with h | h <;> rw [h] <;> exact hself _ (root_root f _)
    have hmax : f₂.root (max (f.root i) (f.root j)) = max (f.root i) (f.root j) := by
      rcases max_choice (f.root i) (f.root j) with h | h <;> rw [h] <;> exact hself _ (root_root f _)
    have hlt : max (f.root i) (f.root j) < f₂.parents.length := by
      rw [hlen₂]
      exact max_lt (hbound hi) (hbound hj)
    rw [root_set_root hmin hmax (lt_of_le_of_ne min_le_max heq) hlt k, hr₂]

/-! ### Forests of distinct names -/

theorem lastOccurrences_of_nodup {names : List String} (h : names.Nodup) :
    lastOccurrences names = names := by
  induction names with
  | nil => rfl
  | cons n rest ih =>
    obtain ⟨hn, hrest⟩ := List.nodup_cons.1 h
    rw [lastOccurrences, if_neg (by simpa using hn), ih hrest]

theorem names_singletons {names : List String} (h : names.Nodup) :
    (singletons names).names = names :=
  lastOccurrences_of_nodup h

theorem length_parents_singletons (names : List String) :
    (singletons names).parents.length = (singletons names).names.length :=
  List.length_range

@[simp]
theorem root_singletons (names : List String) (i : Nat) : (singletons names).root i = i := by
  apply root_of_not_lt
  rw [parent, singletons, List.getD_eq_getElem?_getD]
  by_cases h : i < (lastOccurrences names).length
  · simp [List.getElem?_range h]
  · have hnone : (List.range (lastOccurrences names).length)[i]? = none := by simpa using h
    simp [hnone]

theorem index?_eq_some (hn : f.names.Nodup) {name : String} (h : f.names[i]? = some name) :
    f.index? name = some i := by
  obtain ⟨hlt, rfl⟩ := List.getElem?_eq_some_iff.1 h
  refine List.idxOf?_eq_some_iff.2 ⟨hlt, rfl, fun k hk heq => ?_⟩
  exact absurd ((List.Nodup.getElem_inj_iff hn).1 heq) hk.ne

end Monomorph.Forest
