import Monomorph.Dispatcher
import Monomorph.Proofs.DispatchTable.Mismatch

/-!
Look-up and mismatch agree. A look-up goes through the combinations and compares every position; the
search for a mismatch goes through the positions and keeps the combinations that agree so far. Both
answer for every table whose positions stand for places, in any order and as often as they like, and
the mismatch ends the longest stretch of positions that some combination agrees with.
-/

namespace Monomorph

open Position

/-- Has a combination the given tag at a position? -/
def Combination.AgreesAt (c : Combination) (tags : List (Option String)) (p : Position) : Prop :=
  ∃ tag, p.elementIn c.tags = .ok tag ∧ p.elementIn tags = .ok (some tag)

namespace DispatchTable

variable {t : DispatchTable} {tags : List (Option String)} {ps : List Position}
  {cs : List Combination} {c : Combination} {p q : Position}

theorem agreesAt_iff (hc : Within ps c.tags.length) (hp : p ∈ ps) :
    c.AgreesAt tags p ↔ p.elementIn (c.tags.map some) = p.elementIn tags := by
  obtain ⟨tag, htag⟩ := exists_elementIn hc hp
  rw [elementIn_map some htag]
  constructor
  · rintro ⟨tag', htag', hgiven⟩
    obtain rfl : tag = tag' := by simpa [htag] using htag'
    exact hgiven.symm
  · intro h
    exact ⟨tag, htag, h.symm⟩

/-- A combination has some tags exactly if it agrees with them at every position. -/
theorem hasTags_iff_agreesAt (hc : Within ps c.tags.length) (ht : Within ps tags.length) :
    HasTags tags ps c ↔ ∀ p ∈ ps, c.AgreesAt tags p := by
  have hc' : Within ps (c.tags.map some).length := by rwa [List.length_map]
  rw [HasTags, restrict_eq_iff hc' ht]
  exact forall₂_congr fun p hp => (agreesAt_iff hc hp).symm

/-- Agreement at a position is agreement at the place that it stands for. -/
theorem agreesAt_congr {i : Nat} (hp : p.int? = some (i : Int)) (hq : q.int? = some (i : Int)) :
    c.AgreesAt tags p ↔ c.AgreesAt tags q := by
  simp only [Combination.AgreesAt, elementIn_eq_of_int? hp, elementIn_eq_of_int? hq]

/-- A combination that has all tags is never narrowed away. -/
theorem firstMismatchAmong_eq_none (hcs : ∀ c ∈ cs, Within ps c.tags.length)
    (ht : Within ps tags.length) (hc : c ∈ cs) (hall : HasTags tags ps c) :
    firstMismatchAmong tags cs ps = .ok none := by
  induction ps generalizing cs with
  | nil => rfl
  | cons p ps ih =>
    have hhead : [p] ⊆ p :: ps := by simp
    have hkeep := keepAt_eq_ok (fun c hc => (hcs c hc).of_subset hhead) (ht.of_subset hhead)
    obtain ⟨hp, hrest⟩ := (hasTags_cons_iff (hcs c hc) ht).1 hall
    rw [firstMismatchAmong, hkeep]
    have hkept : c ∈ cs.filter fun c => decide (HasTags tags [p] c) :=
      List.mem_filter.2 ⟨hc, decide_eq_true hp⟩
    cases hleft : cs.filter fun c => decide (HasTags tags [p] c) with
    | nil => simp [hleft] at hkept
    | cons k kept =>
      rw [hleft] at hkept
      refine ih (fun c' hc' => ?_) ht.tail hkept hrest
      rw [← hleft] at hc'
      exact (hcs c' (List.mem_of_mem_filter hc')).tail

/-- A look-up finds a combination that has all tags, if there is one. -/
theorem exists_lookup (hcs : ∀ c ∈ t.combinations, Within t.positions c.tags.length)
    (ht : Within t.positions tags.length) :
    ∃ found, t.lookup tags = .ok found ∧
      ((∃ c, found = some c) ↔ ∃ c ∈ t.combinations, HasTags tags t.positions c) := by
  refine ⟨_, firstAgreeing_eq_ok fun c hc => Combination.agrees_eq_ok (hcs c hc) ht, ?_⟩
  rw [← Option.isSome_iff_exists, List.find?_isSome]
  exact exists_congr fun c => and_congr_right fun _ => decide_eq_true_iff

/-- A dispatcher reports the mismatch of its table, by the name that stands at its position. -/
theorem argument_of_resolve {disp : Dispatcher} {values : List Value} {report : Mismatch}
    {found : Option Combination} {missed : Option Position} (htable : disp.table = t)
    (htags : disp.tags values = .ok tags) (hlookup : t.lookup tags = .ok found)
    (hmissed : t.firstMismatch tags = .ok missed)
    (hreport : disp.resolve values = .error (.mismatch report)) :
    found = none ∧ ∀ p, missed = some p → p.elementIn t.names = .ok report.argument := by
  subst htable
  rw [Dispatcher.resolve, htags] at hreport
  cases found with
  | some c => simp [Except.mapError, bind, Except.bind, hlookup, pure, Except.pure] at hreport
  | none =>
    refine ⟨rfl, fun p hp => ?_⟩
    subst hp
    simp only [Except.mapError, bind, Except.bind, hlookup, hmissed, throw, throwThe,
      MonadExceptOf.throw, Except.error.injEq] at hreport
    unfold Dispatcher.mismatchAt at hreport
    cases hname : p.elementIn disp.table.names with
    | error fault => simp [hname, bind, Except.bind] at hreport
    | ok name =>
      cases htag : p.elementIn tags with
      | error fault => simp [hname, htag, bind, Except.bind] at hreport
      | ok tag =>
        cases htexts : disp.table.names.mapM Label.text? with
        | none => simp [hname, htag, htexts, bind, Except.bind, pure, Except.pure] at hreport
        | some names =>
          simp only [hname, htag, htexts, bind, Except.bind, pure, Except.pure,
            Failure.mismatch.injEq] at hreport
          rw [← hreport]

/-- For every table with a combination, whose positions stand for places of its arguments and whose
combinations have a type for every argument, and for every list of tags for all arguments: look-up
and the search for a mismatch answer, and there is no mismatch exactly if the look-up finds a
combination. A mismatch is a dispatched position; some combination agrees with the tags at all
positions before it, which are none for the same place, and no combination agrees at these and at the
mismatch. The argument that a dispatcher reports is the one at this position. -/
theorem firstMismatch_ends_longest_stretch {t : DispatchTable} {tags : List (Option String)}
    (hpos : Within t.positions t.names.length)
    (hfull : ∀ c ∈ t.combinations, c.types.length = t.names.length)
    (hsome : t.combinations ≠ []) (htags : tags.length = t.names.length) :
    ∃ found missed, t.lookup tags = .ok found ∧ t.firstMismatch tags = .ok missed ∧
      (missed = none ↔ ∃ c, found = some c) ∧
      (∀ p, missed = some p → ∃ before after, t.positions = before ++ p :: after ∧
        (∀ q ∈ before, q.int? ≠ p.int?) ∧
        (∃ c ∈ t.combinations, ∀ q ∈ before, c.AgreesAt tags q) ∧
        ∀ c ∈ t.combinations, ¬ ∀ q ∈ before ++ [p], c.AgreesAt tags q) ∧
      ∀ (disp : Dispatcher) (values : List Value) (report : Mismatch), disp.table = t →
        disp.tags values = .ok tags → disp.resolve values = .error (.mismatch report) →
        ∃ p, missed = some p ∧ p.elementIn t.names = .ok report.argument := by
  have hcs : ∀ c ∈ t.combinations, Within t.positions c.tags.length := fun c hc => by
    rwa [Combination.tags, List.length_map, hfull c hc]
  have ht : Within t.positions tags.length := by rwa [htags]
  obtain ⟨found, hlookup, hfound⟩ := exists_lookup hcs ht
  by_cases hfit : ∃ c ∈ t.combinations, HasTags tags t.positions c
  · obtain ⟨c, hc, hall⟩ := hfit
    obtain ⟨c', rfl⟩ := hfound.2 ⟨c, hc, hall⟩
    have hmissed : t.firstMismatch tags = .ok none := firstMismatchAmong_eq_none hcs ht hc hall
    refine ⟨some c', none, hlookup, hmissed, by simp, by simp, ?_⟩
    intro disp values report htable hgiven hreport
    have hnone := (argument_of_resolve htable hgiven hlookup hmissed hreport).1
    simp at hnone
  · have hnone : found = none := by
      cases found with
      | none => rfl
      | some c => exact absurd (hfound.1 ⟨c, rfl⟩) hfit
    subst hnone
    obtain ⟨before, p, after, hsplit, hfirst, ⟨c, hc, hbefore⟩, hleft⟩ :=
      exists_firstMismatchAmong hcs ht hsome fun c hc hall => hfit ⟨c, hc, hall⟩
    have hmissed : t.firstMismatch tags = .ok (some p) := hfirst
    have hinit : before ⊆ t.positions := by simp [hsplit]
    have hstop : before ++ [p] ⊆ t.positions := by simp [hsplit]
    have hagree : ∀ {c ps}, c ∈ t.combinations → ps ⊆ t.positions →
        (HasTags tags ps c ↔ ∀ q ∈ ps, c.AgreesAt tags q) := fun hc hps =>
      hasTags_iff_agreesAt ((hcs _ hc).of_subset hps) (ht.of_subset hps)
    have hagrees : ∀ q ∈ before, c.AgreesAt tags q := (hagree hc hinit).1 hbefore
    have hstops : ∀ c ∈ t.combinations, ¬ ∀ q ∈ before ++ [p], c.AgreesAt tags q :=
      fun c hc hall => hleft c hc ((hagree hc hstop).2 hall)
    refine ⟨none, some p, hlookup, hmissed, by simp, ?_, ?_⟩
    · rintro _ ⟨⟩
      refine ⟨before, after, hsplit, fun q hq hsame => hstops c hc ?_, ⟨c, hc, hagrees⟩, hstops⟩
      -- a position for the same place would make the combination agree at the mismatch too
      obtain ⟨i, -, hi⟩ := hpos p (hstop (by simp))
      intro q' hq'
      rcases List.mem_append.1 hq' with hq' | hq'
      · exact hagrees q' hq'
      · rw [List.mem_singleton.1 hq']
        exact (agreesAt_congr (hsame.trans hi) hi).1 (hagrees q hq)
    · intro disp values report htable hgiven hreport
      exact ⟨p, rfl, (argument_of_resolve htable hgiven hlookup hmissed hreport).2 p rfl⟩

/-- A table that dispatches on its third argument, then its second, then its third again, then its
first. -/
def reordered : DispatchTable where
  function := "f"
  names := ["a", "b", "c"]
  combinations := [
    ⟨0, ["a", "b", "c"], [.dense .float32, .dense .float32, .sparse .float64 .csr], "npe_f__first"⟩,
    ⟨1, ["a", "b", "c"], [.dense .int32, .dense .float64, .sparse .float64 .csr], "npe_f__second"⟩]
  positions := [.index 2, .truth true, .index 2, .index 0]
  defaults := [none, none, none]

/-- The second combination agrees in `c` and in `b`, and none agrees in `a` as well. -/
theorem firstMismatch_of_reordered :
    ∃ missed, reordered.firstMismatch [some "dense_f32", some "dense_f64", some "csr_f64"] =
        .ok missed ∧
      missed = some (.index 0) ∧ ∃ before after, reordered.positions = before ++ .index 0 :: after ∧
        (∀ q ∈ before, q.int? ≠ some 0) ∧
        (∃ c ∈ reordered.combinations, ∀ q ∈ before,
          c.AgreesAt [some "dense_f32", some "dense_f64", some "csr_f64"] q) ∧
        ∀ c ∈ reordered.combinations, ¬ ∀ q ∈ before ++ [.index 0],
          c.AgreesAt [some "dense_f32", some "dense_f64", some "csr_f64"] q := by
  have hpos : Within reordered.positions reordered.names.length := by
    intro p hp
    simp only [reordered, List.mem_cons, List.not_mem_nil, or_false] at hp
    rcases hp with rfl | rfl | rfl | rfl
    · exact ⟨2, by decide, rfl⟩
    · exact ⟨1, by decide, rfl⟩
    · exact ⟨2, by decide, rfl⟩
    · exact ⟨0, by decide, rfl⟩
  obtain ⟨found, missed, -, hmissed, -, hspec, -⟩ :=
    firstMismatch_ends_longest_stretch hpos (by decide) (by decide)
      (rfl : [some "dense_f32", some "dense_f64", some "csr_f64"].length = _)
  have hfirst : reordered.firstMismatch [some "dense_f32", some "dense_f64", some "csr_f64"] =
      .ok (some (.index 0)) := by decide
  obtain rfl : some (.index 0) = missed := by simpa [hfirst] using hmissed
  exact ⟨_, hmissed, rfl, hspec _ rfl⟩

end DispatchTable

end Monomorph
