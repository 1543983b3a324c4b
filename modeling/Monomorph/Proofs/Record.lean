import Mathlib.Data.List.Basic
import Mathlib.Data.List.Induction
import Monomorph.Record

/-!
Values under names. Pairs have a value under a name exactly if the name is one of theirs, and a record
that is made of pairs has all their names, and no other pairs.
-/

namespace Monomorph.Record

variable {κ α : Type} [BEq κ] [LawfulBEq κ] {pairs : List (κ × α)}

theorem lookup_eq_none_iff {n : κ} : pairs.lookup n = none ↔ n ∉ pairs.map (·.1) := by
  rw [List.lookup_eq_none_iff, List.mem_map]
  constructor
  · rintro h ⟨p, hp, rfl⟩
    simpa using h p hp
  · intro h p hp
    rw [bne_iff_ne]
    rintro rfl
    exact h ⟨p, hp, rfl⟩

/-- A record holds no other pairs than those it was made from. -/
theorem mem_of_mem_ofPairs {p : κ × α} (h : p ∈ ofPairs pairs) : p ∈ pairs := by
  have hput : ∀ (q : κ × α) (r : List (κ × α)), p ∈ put q.1 q.2 r → p = q ∨ p ∈ r := by
    intro q r hmem
    induction r with
    | nil => exact .inl (by simpa [put] using hmem)
    | cons e r ih =>
      rw [put] at hmem
      split at hmem
      · next hname =>
        rcases List.mem_cons.1 hmem with rfl | hmem
        · exact .inl (Prod.ext (beq_iff_eq.1 hname) rfl)
        · exact .inr (List.mem_cons_of_mem e hmem)
      · rcases List.mem_cons.1 hmem with rfl | hmem
        · exact .inr List.mem_cons_self
        · exact (ih hmem).imp_right (List.mem_cons_of_mem e)
  have hfold : ∀ (ps r : List (κ × α)), p ∈ ps.foldl (fun r q => put q.1 q.2 r) r →
      p ∈ ps ∨ p ∈ r := by
    intro ps
    induction ps with
    | nil => exact fun r hmem => .inr hmem
    | cons q ps ih =>
      intro r hmem
      rcases ih _ hmem with hmem | hmem
      · exact .inl (List.mem_cons_of_mem q hmem)
      · refine (hput q r hmem).imp_left fun heq => ?_
        rw [heq]
        exact List.mem_cons_self
  exact (hfold pairs [] h).resolve_right List.not_mem_nil

theorem mem_map_put {n k : κ} {v : α} {r : List (κ × α)} :
    n ∈ (put k v r).map (·.1) ↔ n = k ∨ n ∈ r.map (·.1) := by
  induction r with
  | nil => simp [put]
  | cons e r ih =>
    rw [put]
    split
    · next hname =>
      obtain rfl := beq_iff_eq.1 hname
      simp
    · rw [List.map_cons, List.map_cons, List.mem_cons, List.mem_cons, ih]
      exact or_left_comm

theorem lookup_put {n k : κ} {v : α} {r : List (κ × α)} :
    (put k v r).lookup n = if n == k then some v else r.lookup n := by
  induction r with
  | nil =>
    rw [put, List.lookup_cons, List.lookup_nil]
    cases n == k <;> rfl
  | cons e r ih =>
    rw [put]
    split
    · next hname =>
      obtain rfl := beq_iff_eq.1 hname
      rw [List.lookup_cons, List.lookup_cons]
      cases n == e.1 <;> rfl
    · next hname =>
      rw [List.lookup_cons, ih, List.lookup_cons]
      by_cases hn : n = e.1
      · have hne : (n == k) = false := by simpa [hn] using hname
        simp [hn ▸ hne, hn]
      · simp [beq_eq_false_iff_ne.2 hn]

/-- Of the values under one name, the record that is made of the pairs has the last. -/
theorem lookup_ofPairs {n : κ} : (ofPairs pairs).lookup n = pairs.reverse.lookup n := by
  induction pairs using List.reverseRecOn with
  | nil => rfl
  | append_singleton pairs p ih =>
    have hlast : ofPairs (pairs ++ [p]) = put p.1 p.2 (ofPairs pairs) := by
      rw [ofPairs, List.foldl_append]
      rfl
    rw [hlast, lookup_put, ih, List.reverse_append, List.reverse_singleton, List.singleton_append,
      List.lookup_cons]
    cases n == p.1 <;> rfl

/-- Under different names, the value under one is the one it stands with. -/
theorem lookup_eq_some_iff {n : κ} {v : α} (hnames : (pairs.map (·.1)).Nodup) :
    pairs.lookup n = some v ↔ (n, v) ∈ pairs := by
  induction pairs with
  | nil => simp
  | cons e pairs ih =>
    rw [List.map_cons, List.nodup_cons] at hnames
    obtain ⟨m, w⟩ := e
    rw [List.lookup_cons, List.mem_cons, Prod.mk.injEq]
    by_cases h : n = m
    · subst h
      have hnot : (n, v) ∉ pairs := fun hmem => hnames.1 (List.mem_map.2 ⟨_, hmem, rfl⟩)
      simp [hnot, eq_comm]
    · simp [beq_eq_false_iff_ne.2 h, h, ih hnames.2]

/-- Under different names, the order of the pairs does not matter to a look-up. -/
theorem lookup_eq_of_perm {others : List (κ × α)} (h : pairs.Perm others)
    (hnames : (pairs.map (·.1)).Nodup) (n : κ) : pairs.lookup n = others.lookup n := by
  ext v
  rw [lookup_eq_some_iff hnames, lookup_eq_some_iff ((h.map _).nodup_iff.1 hnames), h.mem_iff]

/-- A record has a value under every name of the pairs it was made from, and under no other. -/
theorem mem_map_ofPairs {n : κ} : n ∈ (ofPairs pairs).map (·.1) ↔ n ∈ pairs.map (·.1) := by
  have hfold : ∀ (ps r : List (κ × α)),
      n ∈ (ps.foldl (fun r q => put q.1 q.2 r) r).map (·.1) ↔ n ∈ ps.map (·.1) ∨ n ∈ r.map (·.1) := by
    intro ps
    induction ps with
    | nil => simp
    | cons q ps ih =>
      intro r
      rw [List.foldl_cons, ih, mem_map_put, List.map_cons, List.mem_cons]
      exact or_left_comm.trans or_assoc.symm
  exact (hfold pairs []).trans (or_iff_left List.not_mem_nil)

end Monomorph.Record
