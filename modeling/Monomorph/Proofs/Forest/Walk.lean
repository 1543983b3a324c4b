import Monomorph.Proofs.Forest.Root

/-!
The two walks of a look-up. The first goes up from a number until one points at itself; the second
goes up again and makes every number on the way point at the root that was found, until one does. As
long as every number points at itself or at a smaller one, both walks end, at the root and with the
shortened forest.
-/

namespace Monomorph.Forest

variable {f : Forest} {i j r : Nat}

/-- Every number points at itself or at a smaller one. -/
def Descends (f : Forest) : Prop := ∀ i, f.parent i ≤ i

/-- The first walk: up from a number, until a number points at itself. -/
inductive WalksTo (f : Forest) : Nat → Nat → Prop
  | stop {i : Nat} (here : f.parent i = i) : WalksTo f i i
  | up {i r : Nat} (on : f.parent i ≠ i) (rest : WalksTo f (f.parent i) r) : WalksTo f i r

/-- The second walk: up from a number, until a number points at `r`. Before it goes on from a number,
that number is made to point at `r`. -/
inductive ShortensTo (r : Nat) : Forest → Nat → Forest → Prop
  | stop {f : Forest} {i : Nat} (here : f.parent i = r) : ShortensTo r f i f
  | up {f g : Forest} {i : Nat} (on : f.parent i ≠ r)
      (rest : ShortensTo r { f with parents := f.parents.set i r } (f.parent i) g) :
      ShortensTo r f i g

/-! ### One parent exchanged -/

theorem parent_set_ne (hj : j ≠ i) :
    ({ f with parents := f.parents.set i r } : Forest).parent j = f.parent j :=
  parent_set f.parents rfl hj

theorem length_of_parent_lt (h : f.parent i < i) : i < f.parents.length := by
  by_contra hlen
  have hself : f.parent i = i := by
    rw [parent, List.getD_eq_getElem?_getD, List.getElem?_eq_none (by omega), Option.getD_none]
  omega

theorem Descends.set (hf : f.Descends) (hr : r ≤ i) :
    ({ f with parents := f.parents.set i r } : Forest).Descends := by
  intro j
  by_cases hj : j = i
  · subst hj
    rcases Nat.lt_or_ge j f.parents.length with hlen | hlen
    · simpa [parent, List.getD_eq_getElem?_getD, hlen] using hr
    · rw [List.set_eq_of_length_le hlen]
      exact hf j
  · rw [parent_set_ne hj]
    exact hf j

theorem Descends.shorten (hf : f.Descends) (hr : f.root i = r) : (f.shorten r i).Descends := by
  fun_induction Forest.shorten f r i with
  | case1 i hlt g ih =>
    have hparent : f.root (f.parent i) = r := root_of_lt hlt ▸ hr
    have hle : r ≤ f.parent i := hparent ▸ root_le f (f.parent i)
    exact (ih hparent).set (by omega)
  | case2 i hlt => exact hf

/-! ### The first walk -/

theorem parent_root (hf : f.Descends) (i : Nat) : f.parent (f.root i) = f.root i := by
  by_contra hne
  have hlt : f.parent (f.root i) < f.root i := lt_of_le_of_ne (hf _) hne
  have hless := root_le f (f.parent (f.root i))
  rw [← root_of_lt hlt, root_root] at hless
  omega

theorem walksTo_root (hf : f.Descends) (i : Nat) : f.WalksTo i (f.root i) := by
  induction i using Nat.strongRecOn with
  | ind i ih =>
    by_cases hlt : f.parent i < i
    · rw [root_of_lt hlt]
      exact .up hlt.ne (ih _ hlt)
    · have hself : f.parent i = i := le_antisymm (hf i) (not_lt.1 hlt)
      rw [root_of_not_lt hlt]
      exact .stop hself

/-! ### The second walk -/

/-- A number above does not matter to the walk up from a number below it. -/
theorem shorten_set (hji : j < i) :
    ({ f with parents := f.parents.set i r } : Forest).shorten r j =
      { f.shorten r j with parents := (f.shorten r j).parents.set i r } := by
  induction j using Nat.strongRecOn with
  | ind j ih =>
    have hp : ({ f with parents := f.parents.set i r } : Forest).parent j = f.parent j :=
      parent_set_ne hji.ne
    by_cases hlt : f.parent j < j
    · have hbelow := ih (f.parent j) hlt (by omega)
      rw [Forest.shorten, hp, if_pos hlt, hbelow]
      conv_rhs => rw [Forest.shorten, if_pos hlt]
      simp only [List.set_comm _ _ hji.ne]
    · rw [Forest.shorten, hp, if_neg hlt]
      conv_rhs => rw [Forest.shorten, if_neg hlt]

theorem shorten_of_lt (h : f.parent i < i) :
    f.shorten r i =
      { f.shorten r (f.parent i) with parents := (f.shorten r (f.parent i)).parents.set i r } := by
  rw [Forest.shorten, if_pos h]

theorem shorten_of_parent (hf : f.Descends) (hr : f.parent i = f.root i) :
    f.shorten (f.root i) i = f := by
  have hstay : f.shorten (f.root i) (f.root i) = f := by
    rw [Forest.shorten, if_neg (parent_root hf i).not_lt]
  by_cases hlt : f.parent i < i
  · have hlen := length_of_parent_lt hlt
    have hat : f.parents[i] = f.root i := by
      rw [← hr, parent, List.getD_eq_getElem?_getD, List.getElem?_eq_getElem hlen, Option.getD_some]
    rw [shorten_of_lt hlt, hr, hstay, ← hat, List.set_getElem_self]
  · rw [Forest.shorten, if_neg hlt]

theorem shortensTo_shorten (hf : f.Descends) (i : Nat) :
    ShortensTo (f.root i) f i (f.shorten (f.root i) i) := by
  induction i using Nat.strongRecOn generalizing f with
  | ind i ih =>
    by_cases hr : f.parent i = f.root i
    · rw [shorten_of_parent hf hr]
      exact .stop hr
    · have hlt : f.parent i < i := by
        by_contra hnot
        rw [root_of_not_lt hnot] at hr
        exact hr (le_antisymm (hf i) (not_lt.1 hnot))
      have hroot : f.root (f.parent i) = f.root i := (root_of_lt hlt).symm
      have hless : f.root i < i := hroot ▸ (root_le f (f.parent i)).trans_lt hlt
      -- what is left of the walk, after `i` has been made to point at the root
      have hrest := ih (f.parent i) hlt (hf.set hless.le)
      rw [root_set_own rfl hless, hroot, shorten_set hlt, ← shorten_of_lt hlt] at hrest
      exact .up hr hrest

end Monomorph.Forest
