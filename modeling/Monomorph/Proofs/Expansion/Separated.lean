import Monomorph.Proofs.DispatchTable.Lookup
import Monomorph.Proofs.Expansion.Table

/-!
The dispatch table of a settled declaration can be looked up in. Its positions are the places of the
arguments with numeric types, and the tags there decide the whole combination: numeric types have
different tags, a host argument has one type, and the types of a row give its choice back.
-/

namespace Monomorph

theorem ConcreteType.mem_numeric {t : ConcreteType} (h : t.isHost = false) : t ∈ numeric := by
  cases t with
  | dense e => cases e <;> decide
  | sparse e l => cases e <;> cases l <;> decide
  | host text => cases h

/-- Numeric types have different tags. -/
theorem ConcreteType.eq_of_tag {t t' : ConcreteType} (h : t.isHost = false) (h' : t'.isHost = false)
    (htag : t.tag = t'.tag) : t = t' := by
  have hall : ∀ t ∈ numeric, ∀ t' ∈ numeric, t.tag = t'.tag → t = t' := by decide
  exact hall t (mem_numeric h) t' (mem_numeric h') htag

theorem Argument.isPassedThrough_eq_true_iff {a : Argument} (h : TypeSet a.typeList) :
    a.isPassedThrough = true ↔ ∃ text, a.typeList = [.host text] := by
  rcases h.uniform with hnum | ⟨text, htext⟩
  · obtain ⟨t, ht⟩ := List.exists_mem_of_ne_nil _ h.nonempty
    constructor
    · intro hpassed
      simp only [isPassedThrough, Bool.and_eq_true, List.all_eq_true] at hpassed
      exact absurd (hpassed.2 t ht) (by simp [hnum t ht])
    · rintro ⟨text, htext⟩
      exact absurd (hnum (.host text) (by simp [htext])) (by simp [ConcreteType.isHost])
  · simp [isPassedThrough, htext, ConcreteType.isHost]

theorem Argument.isHost_of_isPassedThrough {a : Argument} (h : TypeSet a.typeList) {t : ConcreteType}
    (ht : t ∈ a.typeList) : t.isHost = a.isPassedThrough := by
  rcases h.uniform with hnum | ⟨text, htext⟩
  · rw [hnum t ht, eq_comm, Bool.eq_false_iff]
    intro hpassed
    obtain ⟨text, htext⟩ := (isPassedThrough_eq_true_iff h).1 hpassed
    exact absurd (hnum (.host text) (by simp [htext])) (by simp [ConcreteType.isHost])
  · obtain rfl : t = .host text := by simpa [htext] using ht
    simp [isPassedThrough, htext, ConcreteType.isHost]

namespace Expansion

variable {args before rest : List Argument} {known : Assignment} {d : Declaration}

/-- The types of a row at the free arguments are the choice that the row is made from. -/
theorem filter_zip_complete (hset : Settled args) (hsplit : args = before ++ rest)
    (hknown : Assigned before known) {choice : List ConcreteType} (hchoice : Chosen rest choice) :
    ((rest.zip (complete known rest choice)).filter (·.1.isFree)).map (·.2) = choice := by
  induction rest generalizing before known choice with
  | nil =>
    cases hchoice
    rfl
  | cons a rest ih =>
    have hsplit' : args = (before ++ [a]) ++ rest := by simp [hsplit]
    cases hc : a.constraint? with
    | some c =>
      have hfree : a.isFree = false := by simp [Argument.isFree, hc]
      obtain ⟨t, hlook, -, himage⟩ := exists_image hset hsplit hknown hc
      simp only [complete, hc, hlook, List.zip_cons_cons, List.filter_cons, hfree]
      exact ih hsplit' (hknown.snoc himage) (hchoice.of_derived hc)
    | none =>
      have hfree : a.isFree = true := by simp [Argument.isFree, hc]
      obtain ⟨t, choice, rfl, ht, hchoice⟩ := hchoice.of_free hc
      simp only [complete, hc, List.zip_cons_cons, List.filter_cons, hfree, if_true, List.map_cons]
      rw [ih hsplit' (hknown.snoc ht) hchoice]

theorem mem_table {c : Combination} :
    c ∈ (table d).combinations ↔ ∃ i choice, (rowChoices d)[i]? = some choice ∧ c = row d i choice := by
  simp only [table, List.mem_mapIdx, List.getElem?_eq_some_iff]
  constructor
  · rintro ⟨i, hi, rfl⟩
    exact ⟨i, _, ⟨hi, rfl⟩, rfl⟩
  · rintro ⟨i, choice, ⟨hi, rfl⟩, rfl⟩
    exact ⟨i, hi, rfl⟩

theorem chosen_of_getElem? {i : Nat} {choice : List ConcreteType}
    (h : (rowChoices d)[i]? = some choice) : Chosen d.arguments choice :=
  mem_choices_typeList.1 (List.mem_of_getElem? h)

/-- A combination of the table gives every argument one of its types. -/
theorem forall₂_types (hset : Settled d.arguments) {c : Combination}
    (hc : c ∈ (table d).combinations) :
    List.Forall₂ (fun a t => t ∈ a.typeList) d.arguments c.types := by
  obtain ⟨i, choice, hi, rfl⟩ := mem_table.1 hc
  exact forall₂_complete hset (List.nil_append _).symm .nil (chosen_of_getElem? hi)

/-- A table dispatches on the places of the arguments that are not passed through. -/
theorem mem_positions (hset : Settled d.arguments) {p : Position} :
    p ∈ (table d).positions ↔
      ∃ (i : Nat) (a : Argument), d.arguments[i]? = some a ∧ a.isPassedThrough = false ∧
        p = .index i := by
  simp only [table, List.mem_map, List.mem_filter, Bool.not_eq_true']
  constructor
  · rintro ⟨a, ⟨ha, hnum⟩, rfl⟩
    obtain ⟨i, hi⟩ := List.mem_iff_getElem?.1 ha
    exact ⟨i, a, hi, hnum, by rw [hset.position_eq hi]⟩
  · rintro ⟨i, a, hi, hnum, rfl⟩
    exact ⟨a, ⟨List.mem_of_getElem? hi, hnum⟩, by rw [hset.position_eq hi]⟩

theorem regular_table (hset : Settled d.arguments) : (table d).Regular where
  inRange p hp := by
    obtain ⟨i, a, hi, -, rfl⟩ := (mem_positions hset).1 hp
    exact ⟨i, by simpa [table, Declaration.names] using (List.getElem?_eq_some_iff.1 hi).1, rfl⟩
  full c hc := by
    simpa [table, Declaration.names, Combination.tags] using (forall₂_types hset hc).length_eq.symm

/-- Lists for all arguments have the same restriction exactly if they agree at the arguments that
are not passed through. -/
theorem restrict_eq_iff_places {α : Type} {xs ys : List α} (hset : Settled d.arguments)
    (hx : xs.length = (table d).names.length) (hy : ys.length = (table d).names.length) :
    Position.restrict (table d).positions xs = Position.restrict (table d).positions ys ↔
      ∀ (i : Nat) (a : Argument), d.arguments[i]? = some a → a.isPassedThrough = false →
        xs[i]? = ys[i]? := by
  have hreg := regular_table hset
  rw [Position.restrict_eq_iff (hreg.within hx) (hreg.within hy)]
  constructor
  · intro h i a hi ha
    exact Position.elementIn_index_eq_iff.1 (h _ ((mem_positions hset).2 ⟨i, a, hi, ha, rfl⟩))
  · intro h p hp
    obtain ⟨i, a, hi, ha, rfl⟩ := (mem_positions hset).1 hp
    exact Position.elementIn_index_eq_iff.2 (h i a hi ha)

/-- Combinations with the same tags at the dispatched positions have the same types. -/
theorem types_eq_of_restrict (hset : Settled d.arguments) {c c' : Combination}
    (hc : c ∈ (table d).combinations) (hc' : c' ∈ (table d).combinations)
    (h : Position.restrict (table d).positions c.tags =
      Position.restrict (table d).positions c'.tags) : c.types = c'.types := by
  have hreg := regular_table hset
  have hsame := (restrict_eq_iff_places hset (hreg.full c hc) (hreg.full c' hc')).1 h
  have htypes := forall₂_types hset hc
  have htypes' := forall₂_types hset hc'
  apply List.ext_getElem (htypes.length_eq.symm.trans htypes'.length_eq)
  intro i hi hi'
  have hlt : i < d.arguments.length := htypes.length_eq ▸ hi
  have ht : c.types[i] ∈ d.arguments[i].typeList := htypes.get hlt hi
  have ht' : c'.types[i] ∈ d.arguments[i].typeList := htypes'.get hlt hi'
  obtain ⟨_, hfollows⟩ := hset.of_mem (List.getElem_mem hlt)
  cases hnum : d.arguments[i].isPassedThrough with
  | true =>
    obtain ⟨text, htext⟩ := (Argument.isPassedThrough_eq_true_iff hfollows.typed).1 hnum
    rw [htext, List.mem_singleton] at ht ht'
    rw [ht, ht']
  | false =>
    have htag := hsame i _ (List.getElem?_eq_getElem hlt) hnum
    apply ConcreteType.eq_of_tag
    · rw [Argument.isHost_of_isPassedThrough hfollows.typed ht, hnum]
    · rw [Argument.isHost_of_isPassedThrough hfollows.typed ht', hnum]
    · simpa [Combination.tags, hi, hi'] using htag

theorem nodup_rowChoices (hset : Settled d.arguments) : (rowChoices d).Nodup := by
  apply nodup_choices
  intro ts hts
  obtain ⟨a, ha, rfl⟩ := List.mem_map.1 hts
  obtain ⟨_, hfollows⟩ := hset.of_mem (List.mem_of_mem_filter ha)
  exact hfollows.typed.nodup

/-- The tags at the dispatched positions decide the combination. -/
theorem separated_table (hset : Settled d.arguments) : (table d).Separated := by
  intro c hc c' hc' h
  have htypes := types_eq_of_restrict hset hc hc' h
  obtain ⟨i, choice, hi, rfl⟩ := mem_table.1 hc
  obtain ⟨j, choice', hj, rfl⟩ := mem_table.1 hc'
  have hchoice : choice = choice' := by
    rw [← filter_zip_complete hset (List.nil_append _).symm .nil (chosen_of_getElem? hi),
      ← filter_zip_complete hset (List.nil_append _).symm .nil (chosen_of_getElem? hj)]
    exact congrArg (fun ts => ((d.arguments.zip ts).filter (·.1.isFree)).map (·.2)) htypes
  have hindex : i = j :=
    (List.getElem?_inj (List.getElem?_eq_some_iff.1 hi).1 (nodup_rowChoices hset)).1
      (by rw [hi, hj, hchoice])
  rw [hindex, hchoice]

end Expansion

end Monomorph
