import Monomorph.Proofs.Expansion.Reference
import Monomorph.Proofs.Expansion.Separated

/-!
The types that an argument takes in the rows of a table are all of its types. No row has another type,
and every type is in some row: that of a free argument can be chosen, and that of a derived argument is
the image of a type of its referent, which some row has by induction on the place.
-/

namespace Monomorph.Expansion

variable {args before rest : List Argument} {a : Argument} {known : Assignment} {d : Declaration}
  {i : Nat} {t : ConcreteType}

/-- Arguments that have types have a choice. -/
theorem exists_chosen (h : ∀ a ∈ rest, a.typeList ≠ []) : ∃ choice, Chosen rest choice := by
  have hne : choices ((freeArguments rest).map (·.typeList)) ≠ [] := by
    refine choices_ne_nil fun ts hts => ?_
    obtain ⟨a, ha, rfl⟩ := List.mem_map.1 hts
    exact h a (List.mem_of_mem_filter ha)
  obtain ⟨choice, hmem⟩ := List.exists_mem_of_ne_nil _ hne
  exact ⟨choice, mem_choices_typeList.1 hmem⟩

/-- The type of a free argument can be chosen. -/
theorem exists_complete_of_free (hset : Settled args) (hsplit : args = before ++ rest)
    (hknown : Assigned before known) (hi : rest[i]? = some a) (hfree : a.constraint? = none)
    (ht : t ∈ a.typeList) :
    ∃ choice, Chosen rest choice ∧ (complete known rest choice)[i]? = some t := by
  induction rest generalizing before known i with
  | nil => cases hi
  | cons b rest ih =>
    have hsplit' : args = (before ++ [b]) ++ rest := by simp [hsplit]
    have htyped : ∀ b ∈ args, b.typeList ≠ [] := fun b hb =>
      (hset.of_mem hb).choose_spec.typed.nonempty
    have hb : b ∈ args := hsplit ▸ List.mem_append_right _ List.mem_cons_self
    -- a choice for the rest, with a type for `b` in front if `b` is free
    have hfront : ∀ {u : ConcreteType} {choice : List ConcreteType}, b.constraint? = none →
        u ∈ b.typeList → Chosen rest choice → Chosen (b :: rest) (u :: choice) := by
      intro u choice hc hu hchoice
      rw [Chosen, freeArguments_cons, if_pos (by simp [Argument.isFree, hc])]
      exact .cons hu hchoice
    cases i with
    | zero =>
      obtain rfl : b = a := by simpa using hi
      have hothers : ∀ c ∈ rest, c.typeList ≠ [] := fun c hc =>
        htyped c (hsplit ▸ List.mem_append_right _ (List.mem_cons_of_mem _ hc))
      obtain ⟨choice, hchoice⟩ := exists_chosen hothers
      exact ⟨t :: choice, hfront hfree ht hchoice, by simp [complete, hfree]⟩
    | succ i =>
      rw [List.getElem?_cons_succ] at hi
      cases hc : b.constraint? with
      | none =>
        obtain ⟨u, hu⟩ := List.exists_mem_of_ne_nil _ (htyped b hb)
        obtain ⟨choice, hchoice, hrow⟩ := ih hsplit' (hknown.snoc hu) hi
        exact ⟨u :: choice, hfront hc hu hchoice, by simpa [complete, hc] using hrow⟩
      | some c =>
        obtain ⟨u, hlook, -, himage⟩ := exists_image hset hsplit hknown hc
        obtain ⟨choice, hchoice, hrow⟩ := ih hsplit' (hknown.snoc himage) hi
        refine ⟨choice, ?_, by simpa [complete, hc, hlook] using hrow⟩
        rwa [Chosen, freeArguments_cons, if_neg (by simp [Argument.isFree, hc])]

/-- The types of a row stand under the names of the arguments. -/
theorem lookup_names (hset : Settled d.arguments) {types : List ConcreteType}
    (hlength : types.length = d.arguments.length) (hi : d.arguments[i]? = some a) :
    (d.names.zip types).lookup a.name = types[i]? := by
  have hnames : d.names.Nodup := hset.names_nodup
  have hall := lookup_zip hnames (by rw [hlength, Declaration.names, List.length_map])
  have hplace := congrArg (·[i]?) hall
  obtain ⟨hlt, rfl⟩ := List.getElem?_eq_some_iff.1 hi
  simpa [Declaration.names, hlength, hlt] using hplace

/-- In a row, a derived argument has the image of its referent's type. -/
theorem getElem?_of_mem_reference (hset : Settled d.arguments) {types : List ConcreteType}
    (htypes : types ∈ reference d) {j : Nat} {r : Argument} {c : Constraint}
    (hi : d.arguments[i]? = some a) (hc : a.constraint? = some c) (hj : d.arguments[j]? = some r)
    (hr : r.name = c.reference) (ht : types[j]? = some t)
    (hproject : c.relation.project t = .ok (c.relation.image t)) :
    types[i]? = some (c.relation.image t) := by
  obtain ⟨hrow, hfits⟩ := List.mem_filter.1 htypes
  have hlength := (mem_choices_typeList.1 hrow).length_eq.symm
  have hfit := List.all_eq_true.1 hfits a (List.mem_of_getElem? hi)
  rw [Argument.fits, hc] at hfit
  dsimp only at hfit
  rw [← hr, lookup_names hset hlength hj, lookup_names hset hlength hi, ht, Option.bind_some,
    hproject, beq_iff_eq] at hfit
  exact hfit.symm

/-- Every type of an argument is in some row. -/
theorem exists_row_of_mem (hset : Settled d.arguments) (hi : d.arguments[i]? = some a)
    (ht : t ∈ a.typeList) : ∃ types ∈ reference d, types[i]? = some t := by
  induction i using Nat.strong_induction_on generalizing a t with
  | _ i ih =>
    cases hc : a.constraint? with
    | none =>
      obtain ⟨choice, hchoice, hrow⟩ :=
        exists_complete_of_free hset (List.nil_append _).symm .nil hi hc ht
      rw [reference_eq hset]
      exact ⟨_, List.mem_map_of_mem (mem_choices_typeList.2 hchoice), hrow⟩
    | some c =>
      obtain ⟨hlt, hget⟩ := List.getElem?_eq_some_iff.1 hi
      have hsplit : d.arguments = d.arguments.take i ++ a :: d.arguments.drop (i + 1) := by
        simp [← hget]
      obtain ⟨r, hr, hname, hder⟩ := (hset _ _ _ hsplit).referent c hc
      obtain ⟨j, hj⟩ := List.getElem?_of_mem hr
      obtain ⟨hji, hj⟩ : j < i ∧ d.arguments[j]? = some r := by
        rw [List.getElem?_take] at hj
        split at hj
        · next hlt => exact ⟨hlt, hj⟩
        · cases hj
      rw [hder.images, Resolution.mem_distinct] at ht
      obtain ⟨u, hu, rfl⟩ := List.mem_map.1 ht
      obtain ⟨types, htypes, hrow⟩ := ih j hji hj hu
      exact ⟨types, htypes,
        getElem?_of_mem_reference hset htypes hi hc hj hname hrow (hder.project hu)⟩

/-- The types that the combinations of a table assign to an argument are the types of the argument. -/
theorem exists_combination_iff (hset : Settled d.arguments) (hi : d.arguments[i]? = some a) :
    (∃ c ∈ (table d).combinations, c.types[i]? = some t) ↔ t ∈ a.typeList := by
  constructor
  · rintro ⟨c, hc, ht⟩
    obtain ⟨hlt, rfl⟩ := List.getElem?_eq_some_iff.1 hi
    obtain ⟨hlt', rfl⟩ := List.getElem?_eq_some_iff.1 ht
    exact (forall₂_types hset hc).get hlt hlt'
  · intro ht
    obtain ⟨types, htypes, hrow⟩ := exists_row_of_mem hset hi ht
    rw [reference_eq hset, ← types_table] at htypes
    obtain ⟨c, hc, rfl⟩ := List.mem_map.1 htypes
    exact ⟨c, hc, hrow⟩

end Monomorph.Expansion
