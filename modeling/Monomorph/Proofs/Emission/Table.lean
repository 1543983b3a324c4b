import Monomorph.Emission.Dispatcher
import Monomorph.Emission.Stub
import Monomorph.Proofs.Expansion.Separated

/-!
What is emitted for a dispatch table, in closed form. The names, tags and tests that a dispatcher
writes are restrictions to the dispatched positions, and so are the rows that it lists as accepted.
Nothing fails for the table of a settled declaration, since its dispatched arguments have numeric
types only.
-/

namespace Monomorph.Emission

open Text Position

/-- A run over a list that never fails answers an image of the list. -/
theorem mapM_eq_ok {α β ε : Type} {f : α → Except ε β} {g : α → β} {xs : List α}
    (h : ∀ x ∈ xs, f x = .ok (g x)) : xs.mapM f = .ok (xs.map g) := by
  induction xs with
  | nil => rfl
  | cons x xs ih =>
    obtain ⟨hx, hxs⟩ := List.forall_mem_cons.1 h
    rw [List.mapM_cons, hx, ih hxs]
    rfl

/-! ### Regular tables -/

section Regular

variable {t : DispatchTable} {c : Combination}

theorem exists_require {α : Type} {xs : List α} (h : InRange t.positions xs.length) {p : Position}
    (hp : p ∈ t.positions) : ∃ x, p.elementIn xs = .ok x ∧ require xs p = .ok x := by
  obtain ⟨x, hx⟩ := exists_elementIn h.within hp
  exact ⟨x, hx, by simp [require, hx, Except.mapError]⟩

theorem dispatched_eq (h : t.Regular) : dispatched t = .ok (restrict t.positions t.names) :=
  mapM_eq_restrict fun _ hp => exists_require h.inRange hp

theorem inRange_types (h : t.Regular) (hc : c ∈ t.combinations) :
    InRange t.positions c.types.length := by
  have hfull := h.full c hc
  rw [Combination.tags, List.length_map] at hfull
  exact hfull.symm ▸ h.inRange

theorem dispatchedTags_eq (h : t.Regular) (hc : c ∈ t.combinations) :
    dispatchedTags t c = .ok (restrict t.positions c.tags) := by
  refine mapM_eq_restrict fun p hp => ?_
  obtain ⟨type, helem, htype⟩ := exists_require (inRange_types h hc) hp
  exact ⟨type.tag, elementIn_map ConcreteType.tag helem, by rw [htype, Except.map]⟩

/-- The listed rows are the restrictions of the combinations. -/
theorem acceptedRows_eq (h : t.Regular) :
    acceptedRows t = .ok (t.combinations.map fun c => restrict t.positions c.tags) :=
  mapM_eq_ok fun _ hc => dispatchedTags_eq h hc

theorem mapM_text_eq_some (names : List String) :
    (names.map Label.text).mapM Label.text? = some names := by
  induction names with
  | nil => rfl
  | cons n names ih => rw [List.map_cons, List.mapM_cons, ih]; rfl

theorem requireTexts_text (fault : EmissionError) (names : List String) :
    requireTexts fault (names.map Label.text) = .ok names := by
  rw [requireTexts, mapM_text_eq_some]

end Regular

/-! ### Tables of settled declarations -/

section Settled

open Expansion

variable {d : Declaration} {c : Combination}

/-- The names of the dispatched arguments. -/
def dispatchedNames (d : Declaration) : List String := restrict (table d).positions d.names

/-- A test for every argument; only those at dispatched positions are written. -/
def tagTests (d : Declaration) (c : Combination) : List TagTest :=
  (d.names.zip c.types).map fun a => ⟨a.1, "npe::type_tag::" ++ a.2.tag⟩

/-- The branch for a combination. -/
def branch (d : Declaration) (c : Combination) : Entry :=
  ⟨c.identifier.shown, restrict (table d).positions (tagTests d c), callArguments c⟩

/-- The dispatcher of a declaration, if every dispatched argument is numeric. -/
def dispatcher (d : Declaration) : Dispatcher where
  function := d.name
  symbol := "npe_dispatch_" ++ d.name
  parameters := Dispatcher.parametersOf d
  dispatched := dispatchedNames d
  entries := (table d).combinations.map (branch d)
  accepted := (table d).combinations.map fun c => restrict (table d).positions c.tags

theorem names_of_mem_table (hc : c ∈ (table d).combinations) : c.names = d.names.map Label.text := by
  obtain ⟨i, choice, -, rfl⟩ := mem_table.1 hc
  rfl

/-- The type at a dispatched place is numeric. -/
theorem isHost_of_place (hset : Settled d.arguments) (hc : c ∈ (table d).combinations) {i : Nat}
    {a : Argument} (hi : d.arguments[i]? = some a) (ha : a.isPassedThrough = false) :
    ∃ type, c.types[i]? = some type ∧ type.isHost = false := by
  obtain ⟨hlt, rfl⟩ := List.getElem?_eq_some_iff.1 hi
  have htypes := forall₂_types hset hc
  have hlt' : i < c.types.length := htypes.length_eq ▸ hlt
  obtain ⟨_, hfollows⟩ := hset.of_mem (List.getElem_mem hlt)
  have hmem : c.types[i] ∈ d.arguments[i].typeList := htypes.get hlt hlt'
  refine ⟨c.types[i], List.getElem?_eq_getElem hlt', ?_⟩
  rw [Argument.isHost_of_isPassedThrough hfollows.typed hmem, ha]

theorem runtimeTag?_eq {type : ConcreteType} (h : type.isHost = false) :
    type.runtimeTag? = some ("npe::type_tag::" ++ type.tag) := by
  cases type with
  | dense _ => rfl
  | sparse _ _ => rfl
  | host text => cases h

theorem entry_eq (hset : Settled d.arguments) (hc : c ∈ (table d).combinations) :
    entry (table d) c = .ok (branch d c) := by
  have htests : (table d).positions.mapM (tagTest c) =
      .ok (restrict (table d).positions (tagTests d c)) := by
    refine mapM_eq_restrict fun p hp => ?_
    obtain ⟨i, a, hi, ha, rfl⟩ := (mem_positions hset).1 hp
    obtain ⟨type, htype, hnum⟩ := isHost_of_place hset hc hi ha
    have hname : d.names[i]? = some a.name := by simp [Declaration.names, hi]
    have hzip : (d.names.zip c.types)[i]? = some (a.name, type) :=
      List.getElem?_zip_eq_some.2 ⟨hname, htype⟩
    refine ⟨⟨a.name, "npe::type_tag::" ++ type.tag⟩, ?_, ?_⟩
    · simp [elementIn_index, tagTests, hzip]
    · simp [tagTest, require, elementIn_index, names_of_mem_table hc, hname, htype,
        runtimeTag?_eq hnum, Except.mapError, bind, Except.bind, Label.shown]
  rw [entry, htests]
  rfl

theorem dispatchedNames_eq_map (hset : Settled d.arguments) :
    dispatchedNames d = (d.arguments.filter fun a => !a.isPassedThrough).map (·.name) := by
  rw [dispatchedNames, restrict, table, List.filterMap_map, ← List.filterMap_eq_map]
  refine List.filterMap_congr fun a ha => ?_
  obtain ⟨i, hi⟩ := List.mem_iff_getElem?.1 (List.mem_of_mem_filter ha)
  simp [Position.elementIn_index, Declaration.names, hset.position_eq hi, hi, Except.toOption]

theorem dispatchedNames_eq (hset : Settled d.arguments) :
    dispatched (table d) = .ok ((dispatchedNames d).map Label.text) := by
  have hrange : InRange (table d).positions d.names.length := by
    simpa [table] using (regular_table hset).inRange
  rw [dispatched_eq (regular_table hset), dispatchedNames, ← restrict_map Label.text hrange.within]
  rfl

/-- The dispatcher that is emitted for a settled declaration. -/
theorem dispatcher_eq (hset : Settled d.arguments) :
    Dispatcher.of ⟨d, table d⟩ = .ok (dispatcher d) := by
  have hentries : entries (table d) = .ok ((table d).combinations.map (branch d)) :=
    mapM_eq_ok fun _ hc => entry_eq hset hc
  unfold Dispatcher.of
  simp only [dispatchedNames_eq hset, hentries, acceptedRows_eq (regular_table hset),
    requireTexts_text, bind, Except.bind, pure, Except.pure]
  rfl

end Settled

end Monomorph.Emission
