import Monomorph.Proofs.FileSystem.Tree
import Monomorph.Proofs.Record

/-!
Nodes that come last. What is put where nothing stands comes after all other nodes, and taking it away
leaves the file system as it was, node by node; and putting what stands at a place there again changes
nothing.
-/

namespace Monomorph

namespace FileSystem

variable {fs : FileSystem} {q : Place} {node : Node} {entries : List (Place × Node)}

/-- The file system with more nodes at the end. -/
def extend (fs : FileSystem) (entries : List (Place × Node)) : FileSystem := ⟨fs.nodes ++ entries⟩

theorem extend_nil (fs : FileSystem) : fs.extend [] = fs := by
  rw [extend, List.append_nil]

/-- What stands in the file system hides what comes later. -/
theorem node?_extend (fs : FileSystem) (entries : List (Place × Node)) (q : Place) :
    (fs.extend entries).node? q = (fs.node? q).or (entries.lookup q) := by
  unfold node? extend
  by_cases hq : q = []
  · simp [hq]
  · simp [hq, List.lookup_append]

theorem node?_extend_of_not_mem (h : q ∉ entries.map (·.1)) : (fs.extend entries).node? q = fs.node? q := by
  rw [node?_extend, Record.lookup_eq_none_iff.2 h, Option.or_none]

theorem covers_extend (fs : FileSystem) (entries : List (Place × Node)) : Covers fs (fs.extend entries) where
  directory q hq := by rw [node?_extend, hq, Option.some_or]
  node q hq := by
    obtain ⟨node, hnode⟩ := Option.ne_none_iff_exists'.1 hq
    rw [node?_extend, hnode, Option.some_or]
    simp

theorem putNode_of_lookup_eq_none {nodes : List (Place × Node)} (h : nodes.lookup q = none) :
    putNode q node nodes = nodes ++ [(q, node)] := by
  induction nodes with
  | nil => rfl
  | cons entry nodes ih =>
    obtain ⟨p, n⟩ := entry
    rw [List.lookup_cons] at h
    split at h
    · cases h
    · next hp =>
      have hne : (p == q) = false := by
        rw [beq_eq_false_iff_ne] at hp ⊢
        exact hp.symm
      rw [putNode, hne, ih h]
      rfl

theorem putNode_of_lookup_eq_some {nodes : List (Place × Node)} (h : nodes.lookup q = some node) :
    putNode q node nodes = nodes := by
  induction nodes with
  | nil => cases h
  | cons entry nodes ih =>
    obtain ⟨p, n⟩ := entry
    rw [List.lookup_cons] at h
    rw [putNode]
    split at h
    · next hp =>
      obtain rfl := beq_iff_eq.1 hp
      cases h
      rw [if_pos (beq_self_eq_true q)]
    · next hp =>
      have hne : (p == q) = false := by
        rw [beq_eq_false_iff_ne] at hp ⊢
        exact hp.symm
      rw [hne, ih h]
      rfl

/-- What is new comes last. -/
theorem put_of_none (hq : q ≠ []) (h : fs.node? q = none) : fs.put q node = fs.extend [(q, node)] := by
  unfold node? at h
  rw [if_neg (by simpa using hq)] at h
  rw [put, putNode_of_lookup_eq_none h, extend]

/-- What stands at a place may be put there. -/
theorem put_of_some (hq : q ≠ []) (h : fs.node? q = some node) : fs.put q node = fs := by
  unfold node? at h
  rw [if_neg (by simpa using hq)] at h
  rw [put, putNode_of_lookup_eq_some h]

theorem extend_extend (fs : FileSystem) (entries more : List (Place × Node)) :
    (fs.extend entries).extend more = fs.extend (entries ++ more) := by
  rw [extend, extend, extend, List.append_assoc]

/-- A new node can be taken away again. -/
theorem erase_extend_cons (hq : q ≠ []) (h : fs.node? q = none) (hentries : q ∉ entries.map (·.1)) :
    (fs.extend ((q, node) :: entries)).erase q = fs.extend entries := by
  unfold node? at h
  rw [if_neg (by simpa using hq), List.lookup_eq_none_iff] at h
  have hnodes : fs.nodes.filter (fun p => p.1 != q) = fs.nodes := by
    refine List.filter_eq_self.2 fun p hp => ?_
    have hne := bne_iff_ne.1 (h p hp)
    exact bne_iff_ne.2 hne.symm
  have hrest : entries.filter (fun p => p.1 != q) = entries := by
    refine List.filter_eq_self.2 fun p hp => bne_iff_ne.2 ?_
    rintro rfl
    exact hentries (List.mem_map_of_mem hp)
  rw [erase, extend, extend, List.filter_append, hnodes, List.filter_cons_of_neg (by simp), hrest]

end FileSystem

end Monomorph
