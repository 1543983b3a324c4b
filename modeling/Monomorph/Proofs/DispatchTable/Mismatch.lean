import Monomorph.Proofs.DispatchTable.Lookup

/-!
The first mismatch. The positions of a table narrow its combinations down one by one. If no
combination has the given tags everywhere, there is a first position that leaves none.
-/

namespace Monomorph

open Position

namespace DispatchTable

variable {tags : List (Option String)} {ps : List Position} {cs : List Combination}

/-- Has a combination the given tags at some positions? -/
def HasTags (tags : List (Option String)) (ps : List Position) (c : Combination) : Prop :=
  restrict ps (c.tags.map some) = restrict ps tags

instance (tags : List (Option String)) (ps : List Position) (c : Combination) :
    Decidable (HasTags tags ps c) :=
  inferInstanceAs (Decidable (_ = _))

theorem hasTags_nil (tags : List (Option String)) (c : Combination) : HasTags tags [] c := rfl

theorem hasTags_cons_iff {p : Position} {c : Combination} (hc : Within (p :: ps) c.tags.length)
    (ht : Within (p :: ps) tags.length) :
    HasTags tags (p :: ps) c ↔ HasTags tags [p] c ∧ HasTags tags ps c := by
  have hc' : Within (p :: ps) (c.tags.map some).length := by rwa [List.length_map]
  obtain ⟨x, hx⟩ := exists_elementIn hc' List.mem_cons_self
  obtain ⟨y, hy⟩ := exists_elementIn ht List.mem_cons_self
  simp only [HasTags, restrict_cons hx, restrict_cons hy, List.cons.injEq]
  simp [restrict]

/-- Narrowing down at one position keeps the combinations that have the tag there. -/
theorem keepAt_eq_ok {p : Position} (hcs : ∀ c ∈ cs, Within [p] c.tags.length)
    (ht : Within [p] tags.length) :
    keepAt tags p cs = .ok (cs.filter fun c => decide (HasTags tags [p] c)) := by
  induction cs with
  | nil => rfl
  | cons c cs ih =>
    obtain ⟨hc, hcs⟩ := List.forall_mem_cons.1 hcs
    rw [keepAt, Combination.agrees_eq_ok hc ht, ih hcs, List.filter_cons]
    rfl

/-- If some combinations are left and none of them has all tags, narrowing down stops at the first
position that leaves none. -/
theorem exists_firstMismatchAmong (hcs : ∀ c ∈ cs, Within ps c.tags.length)
    (ht : Within ps tags.length) (hsome : cs ≠ []) (hnone : ∀ c ∈ cs, ¬ HasTags tags ps c) :
    ∃ before p after, ps = before ++ p :: after ∧ firstMismatchAmong tags cs ps = .ok (some p) ∧
      (∃ c ∈ cs, HasTags tags before c) ∧ ∀ c ∈ cs, ¬ HasTags tags (before ++ [p]) c := by
  induction ps generalizing cs with
  | nil =>
    obtain ⟨c, hc⟩ := List.exists_mem_of_ne_nil cs hsome
    exact absurd (hasTags_nil tags c) (hnone c hc)
  | cons p ps ih =>
    have hhead : [p] ⊆ p :: ps := by simp
    have hkeep := keepAt_eq_ok (fun c hc => (hcs c hc).of_subset hhead) (ht.of_subset hhead)
    rw [firstMismatchAmong, hkeep]
    cases hkept : cs.filter fun c => decide (HasTags tags [p] c) with
    | nil =>
      obtain ⟨c, hc⟩ := List.exists_mem_of_ne_nil cs hsome
      refine ⟨[], p, ps, rfl, rfl, ⟨c, hc, hasTags_nil tags c⟩, fun c hc => ?_⟩
      simpa using List.filter_eq_nil_iff.1 hkept c hc
    | cons k kept =>
      have hmem : ∀ {c}, c ∈ k :: kept ↔ c ∈ cs ∧ HasTags tags [p] c := by
        intro c
        rw [← hkept, List.mem_filter, decide_eq_true_iff]
      have hnone' : ∀ c ∈ k :: kept, ¬ HasTags tags ps c := fun c hc hrest =>
        hnone c (hmem.1 hc).1 ((hasTags_cons_iff (hcs c (hmem.1 hc).1) ht).2 ⟨(hmem.1 hc).2, hrest⟩)
      obtain ⟨before, q, after, hsplit, hfirst, ⟨c, hc, hbefore⟩, hleft⟩ :=
        ih (fun c hc => (hcs c (hmem.1 hc).1).tail) ht.tail (List.cons_ne_nil k kept) hnone'
      have hinit : p :: before ⊆ p :: ps := by simp [hsplit]
      have hstop : p :: (before ++ [q]) ⊆ p :: ps := by simp [hsplit]
      refine ⟨p :: before, q, after, by rw [hsplit, List.cons_append], hfirst, ?_, ?_⟩
      · obtain ⟨hc, hp⟩ := hmem.1 hc
        have hcons := hasTags_cons_iff ((hcs c hc).of_subset hinit) (ht.of_subset hinit)
        exact ⟨c, hc, hcons.2 ⟨hp, hbefore⟩⟩
      · intro c hc hall
        have hcons := hasTags_cons_iff ((hcs c hc).of_subset hstop) (ht.of_subset hstop)
        obtain ⟨hp, hrest⟩ := hcons.1 hall
        exact hleft c (hmem.2 ⟨hc, hp⟩) hrest

end DispatchTable

end Monomorph
