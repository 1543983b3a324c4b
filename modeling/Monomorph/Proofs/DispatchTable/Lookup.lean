import Mathlib.Data.List.Basic
import Monomorph.DispatchTable

/-!
Look-up in tables whose positions are places of their arguments. A look-up compares two restrictions
to the dispatched positions: that of the tags it is given and that of a combination's tags. On tags
for all arguments it never fails. If no two combinations have the same restriction, what it finds
does not depend on their order.
-/

namespace Monomorph

/-! ### Restriction to positions -/

namespace Position

variable {α β ε : Type} {ps : List Position} {xs ys : List α}

/-- The elements at those of some positions that are inside a list. -/
def restrict (ps : List Position) (xs : List α) : List α :=
  ps.filterMap fun p => (p.elementIn xs).toOption

/-- Positions that are places of a list of some length. -/
def InRange (ps : List Position) (length : Nat) : Prop :=
  ∀ p ∈ ps, ∃ i : Nat, i < length ∧ p = .index i

/-- Positions that stand for places of a list of some length, counted from its front. A truth value
stands for a place as well. -/
def Within (ps : List Position) (length : Nat) : Prop :=
  ∀ p ∈ ps, ∃ i : Nat, i < length ∧ p.int? = some (i : Int)

theorem InRange.tail {p : Position} {n : Nat} (h : InRange (p :: ps) n) : InRange ps n :=
  fun q hq => h q (List.mem_cons_of_mem p hq)

theorem InRange.within {n : Nat} (h : InRange ps n) : Within ps n := by
  intro p hp
  obtain ⟨i, hi, rfl⟩ := h p hp
  exact ⟨i, hi, rfl⟩

theorem Within.tail {p : Position} {n : Nat} (h : Within (p :: ps) n) : Within ps n :=
  fun q hq => h q (List.mem_cons_of_mem p hq)

theorem Within.of_subset {qs : List Position} {n : Nat} (h : Within ps n) (hsub : qs ⊆ ps) :
    Within qs n :=
  fun q hq => h q (hsub hq)

theorem elementIn_index (xs : List α) (i : Nat) :
    (Position.index i).elementIn xs = (xs[i]?.map Except.ok).getD (.error .outOfRange) := by
  by_cases h : i < xs.length
  · simp [elementIn, int?, atPosition?, placeIn?, h]
  · simp [elementIn, int?, atPosition?, placeIn?, h]

theorem elementIn_index_eq_iff {i : Nat} :
    (Position.index i).elementIn xs = (Position.index i).elementIn ys ↔ xs[i]? = ys[i]? := by
  rw [elementIn_index, elementIn_index]
  cases xs[i]? <;> cases ys[i]? <;> simp

/-- What stands at a position is decided by the number that the position stands for. -/
theorem elementIn_eq_of_int? {p : Position} {i : Nat} (h : p.int? = some (i : Int)) :
    p.elementIn xs = (Position.index i).elementIn xs := by
  unfold elementIn
  rw [h]
  rfl

theorem exists_elementIn (h : Within ps xs.length) {p : Position} (hp : p ∈ ps) :
    ∃ x, p.elementIn xs = .ok x := by
  obtain ⟨i, hi, hint⟩ := h p hp
  exact ⟨xs[i], by simp [elementIn_eq_of_int? hint, elementIn_index, hi]⟩

theorem elementIn_map (f : α → β) {p : Position} {x : α} (h : p.elementIn xs = .ok x) :
    p.elementIn (xs.map f) = .ok (f x) := by
  unfold elementIn atPosition? at h ⊢
  rw [List.length_map]
  cases hint : p.int? with
  | none => simp [hint] at h
  | some i =>
    rw [hint] at h
    cases hplace : placeIn? xs.length i with
    | none => simp [hplace] at h
    | some n =>
      cases hx : xs[n]? with
      | none => simp [hplace, hx] at h
      | some y =>
        simp only [hplace, hx, Option.bind_some, Except.ok.injEq] at h
        simp [hplace, hx, h]

theorem restrict_cons {p : Position} {x : α} (h : p.elementIn xs = .ok x) :
    restrict (p :: ps) xs = x :: restrict ps xs := by
  have hx : (p.elementIn xs).toOption = some x := by rw [h, Except.toOption]
  exact List.filterMap_cons_some hx

theorem mem_restrict {x : α} : x ∈ restrict ps xs ↔ ∃ p ∈ ps, p.elementIn xs = .ok x := by
  rw [restrict, List.mem_filterMap]
  refine exists_congr fun p => and_congr_right fun _ => ?_
  cases p.elementIn xs <;> simp [Except.toOption]

/-- A run over positions that answers the elements of a list answers its restriction. -/
theorem mapM_eq_restrict {f : Position → Except ε α}
    (h : ∀ p ∈ ps, ∃ x, p.elementIn xs = .ok x ∧ f p = .ok x) : ps.mapM f = .ok (restrict ps xs) := by
  induction ps with
  | nil => rfl
  | cons p ps ih =>
    obtain ⟨⟨x, hx, hf⟩, hps⟩ := List.forall_mem_cons.1 h
    rw [List.mapM_cons, hf, ih hps, restrict_cons hx]
    simp [bind, Except.bind, pure, Except.pure]

theorem mapM_elementIn (h : Within ps xs.length) :
    ps.mapM (·.elementIn xs) = .ok (restrict ps xs) :=
  mapM_eq_restrict fun _ hp => (exists_elementIn h hp).imp fun _ hx => ⟨hx, hx⟩

theorem restrict_map (f : α → β) (h : Within ps xs.length) :
    restrict ps (xs.map f) = (restrict ps xs).map f := by
  induction ps with
  | nil => rfl
  | cons p ps ih =>
    obtain ⟨x, hx⟩ := exists_elementIn h List.mem_cons_self
    rw [restrict_cons (elementIn_map f hx), restrict_cons hx, ih h.tail, List.map_cons]

/-- Two restrictions are equal exactly if the lists agree at every position. -/
theorem restrict_eq_iff (hx : Within ps xs.length) (hy : Within ps ys.length) :
    restrict ps xs = restrict ps ys ↔ ∀ p ∈ ps, p.elementIn xs = p.elementIn ys := by
  induction ps with
  | nil => simp [restrict]
  | cons p ps ih =>
    obtain ⟨x, hpx⟩ := exists_elementIn hx List.mem_cons_self
    obtain ⟨y, hpy⟩ := exists_elementIn hy List.mem_cons_self
    rw [restrict_cons hpx, restrict_cons hpy, List.cons.injEq, ih hx.tail hy.tail,
      List.forall_mem_cons, hpx, hpy, Except.ok.injEq]

end Position

open Position

/-! ### Look-up -/

/-- Comparing tags at places inside both lists compares two restrictions. -/
theorem Combination.agrees_eq_ok {c : Combination} {tags : List (Option String)} {ps : List Position}
    (hc : Within ps c.tags.length) (ht : Within ps tags.length) :
    c.agrees tags ps = .ok (decide (restrict ps (c.tags.map some) = restrict ps tags)) := by
  induction ps with
  | nil => rfl
  | cons p ps ih =>
    obtain ⟨tag, htag⟩ := exists_elementIn ht List.mem_cons_self
    have htypes : Within (p :: ps) c.types.length := by simpa [Combination.tags] using hc
    obtain ⟨type, htype⟩ := exists_elementIn htypes List.mem_cons_self
    have hown : p.elementIn (c.tags.map some) = .ok (some type.tag) :=
      elementIn_map some (elementIn_map ConcreteType.tag htype)
    rw [Combination.agrees, htype, htag, restrict_cons hown, restrict_cons htag]
    simp only [bind, Except.bind, pure, Except.pure, beq_iff_eq, List.cons.injEq]
    by_cases hsame : some type.tag = tag
    · simp only [hsame, if_true, true_and, ih hc.tail ht.tail]
    · simp only [hsame, if_false, false_and, decide_false]

namespace DispatchTable

variable {t : DispatchTable} {tags : List (Option String)} {c c' : Combination}

/-- A table that dispatches on places of its arguments, and gives every argument a type in every
combination. -/
structure Regular (t : DispatchTable) : Prop where
  inRange : InRange t.positions t.names.length
  full : ∀ c ∈ t.combinations, c.tags.length = t.names.length

theorem Regular.within (h : t.Regular) {n : Nat} (hn : n = t.names.length) :
    Within t.positions n :=
  hn.symm ▸ h.inRange.within

/-- Has the combination the given tags at all dispatched positions? -/
def Fits (t : DispatchTable) (tags : List (Option String)) (c : Combination) : Prop :=
  restrict t.positions (c.tags.map some) = restrict t.positions tags

instance (t : DispatchTable) (tags : List (Option String)) (c : Combination) :
    Decidable (t.Fits tags c) :=
  inferInstanceAs (Decidable (_ = _))

/-- No two combinations have the same tags at all dispatched positions. -/
def Separated (t : DispatchTable) : Prop :=
  ∀ c ∈ t.combinations, ∀ c' ∈ t.combinations,
    restrict t.positions c.tags = restrict t.positions c'.tags → c = c'

theorem Regular.agrees_eq_ok (h : t.Regular) (hc : c ∈ t.combinations)
    (htags : tags.length = t.names.length) :
    c.agrees tags t.positions = .ok (decide (t.Fits tags c)) :=
  Combination.agrees_eq_ok (h.within (h.full c hc)) (h.within htags)

theorem Regular.agrees_iff (h : t.Regular) (hc : c ∈ t.combinations)
    (htags : tags.length = t.names.length) :
    c.agrees tags t.positions = .ok true ↔ t.Fits tags c := by
  rw [h.agrees_eq_ok hc htags, Except.ok.injEq, decide_eq_true_iff]

theorem firstAgreeing_eq_ok {cs : List Combination}
    (h : ∀ c ∈ cs, c.agrees tags t.positions = .ok (decide (t.Fits tags c))) :
    firstAgreeing tags t.positions cs = .ok (cs.find? fun c => decide (t.Fits tags c)) := by
  induction cs with
  | nil => rfl
  | cons c cs ih =>
    obtain ⟨hc, hcs⟩ := List.forall_mem_cons.1 h
    rw [firstAgreeing, hc, List.find?_cons]
    by_cases hfit : t.Fits tags c
    · simp only [decide_eq_true hfit, bind, Except.bind, pure, Except.pure, if_true]
    · simp only [decide_eq_false hfit, bind, Except.bind, Bool.false_eq_true, if_false, ih hcs]

/-- A look-up finds the first combination that fits. -/
theorem Regular.lookup_eq_ok (h : t.Regular) (htags : tags.length = t.names.length) :
    t.lookup tags = .ok (t.combinations.find? fun c => decide (t.Fits tags c)) :=
  firstAgreeing_eq_ok fun _ hc => h.agrees_eq_ok hc htags

theorem Regular.exists_lookup_iff (h : t.Regular) (htags : tags.length = t.names.length) :
    (∃ c, t.lookup tags = .ok (some c)) ↔ ∃ c ∈ t.combinations, t.Fits tags c := by
  simp only [h.lookup_eq_ok htags, Except.ok.injEq, ← Option.isSome_iff_exists,
    List.find?_isSome, decide_eq_true_iff]

theorem Separated.eq_of_fits (hsep : t.Separated) (h : t.Regular) (hc : c ∈ t.combinations)
    (hc' : c' ∈ t.combinations) (hfit : t.Fits tags c) (hfit' : t.Fits tags c') : c = c' := by
  apply hsep c hc c' hc'
  have hsame := hfit.trans hfit'.symm
  rw [restrict_map some (h.within (h.full c hc)),
    restrict_map some (h.within (h.full c' hc'))] at hsame
  exact List.map_injective_iff.2 (fun _ _ => Option.some.inj) hsame

/-- In a separated table a look-up finds a combination exactly if it is there and fits. -/
theorem Regular.lookup_eq_some_iff (h : t.Regular) (hsep : t.Separated)
    (htags : tags.length = t.names.length) :
    t.lookup tags = .ok (some c) ↔ c ∈ t.combinations ∧ t.Fits tags c := by
  rw [h.lookup_eq_ok htags, Except.ok.injEq]
  constructor
  · intro hfind
    exact ⟨List.mem_of_find?_eq_some hfind, by simpa using List.find?_some hfind⟩
  · rintro ⟨hc, hfit⟩
    cases hfind : t.combinations.find? fun c => decide (t.Fits tags c) with
    | none => exact absurd (decide_eq_true hfit) (List.find?_eq_none.1 hfind c hc)
    | some c' =>
      have hfit' : t.Fits tags c' := by simpa using List.find?_some hfind
      rw [hsep.eq_of_fits h hc (List.mem_of_find?_eq_some hfind) hfit hfit']

/-- The order of the combinations does not matter to a look-up in a separated table. -/
theorem Regular.lookup_perm (h : t.Regular) (hsep : t.Separated)
    (htags : tags.length = t.names.length) {cs : List Combination} (hperm : cs.Perm t.combinations) :
    ({ t with combinations := cs } : DispatchTable).lookup tags = t.lookup tags := by
  have h' : ({ t with combinations := cs } : DispatchTable).Regular :=
    ⟨h.inRange, fun c hc => h.full c (hperm.mem_iff.1 hc)⟩
  have hsep' : ({ t with combinations := cs } : DispatchTable).Separated :=
    fun c hc c' hc' => hsep c (hperm.mem_iff.1 hc) c' (hperm.mem_iff.1 hc')
  have hsame : ∀ c, ({ t with combinations := cs } : DispatchTable).lookup tags = .ok (some c) ↔
      t.lookup tags = .ok (some c) := fun c => by
    rw [h'.lookup_eq_some_iff hsep' htags, h.lookup_eq_some_iff hsep htags]
    exact and_congr_left' hperm.mem_iff
  rw [h'.lookup_eq_ok htags, h.lookup_eq_ok htags] at hsame ⊢
  rw [Except.ok.injEq]
  exact Option.ext fun c => by simpa using hsame c

end DispatchTable

end Monomorph
