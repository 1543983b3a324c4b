import Mathlib.Data.List.Perm.Basic
import Monomorph.Proofs.Forest.History

/-!
The classes after a history. A look-up finds the first declared name of a class, and the groups are
the classes themselves: by their roots, in the order of the declarations, each root in front.
-/

namespace Monomorph.Forest

variable {names : List String} {steps : List Step} {f g : Forest} {n m : String} {i j k r : Nat}

/-! ### The order of the declarations -/

/-- The place of a name among the declarations. Of a name that is declared again, the last
declaration counts. -/
def order : List String → String → Nat
  | [], _ => 0
  | _ :: rest, m => if m ∈ rest then order rest m + 1 else 0

/-- Distinct names stand in the order of their declarations. -/
theorem pairwise_order (names : List String) :
    names.dedup.Pairwise (order names · < order names ·) := by
  induction names with
  | nil => exact .nil
  | cons n rest ih =>
    have hlater : ∀ a ∈ rest, order (n :: rest) a = order rest a + 1 := fun a ha => by
      rw [order, if_pos ha]
    have hrest : rest.dedup.Pairwise (order (n :: rest) · < order (n :: rest) ·) := by
      refine ih.imp_of_mem fun {a b} ha hb hlt => ?_
      rw [hlater a (List.mem_dedup.1 ha), hlater b (List.mem_dedup.1 hb)]
      omega
    by_cases hn : n ∈ rest
    · rwa [List.dedup_cons_of_mem hn]
    · rw [List.dedup_cons_of_notMem hn]
      refine List.pairwise_cons.2 ⟨fun b hb => ?_, hrest⟩
      rw [hlater b (List.mem_dedup.1 hb), order, if_neg hn]
      omega

namespace Sound

theorem order_nameAt_lt (hf : Sound names f) (hij : i < j) (hj : j < f.names.length) :
    order names (f.nameAt i) < order names (f.nameAt j) := by
  have hpair := pairwise_order names
  rw [← hf.names, List.pairwise_iff_getElem] at hpair
  have hi : i < f.names.length := by omega
  simpa [nameAt, List.getD_eq_getElem?_getD, hi, hj] using hpair i j hi hj hij

theorem nameAt_inj (hf : Sound names f) (hi : i < f.names.length) (hj : j < f.names.length)
    (h : f.nameAt i = f.nameAt j) : i = j := by
  have hindex := hf.index?_nameAt hi
  rw [h, hf.index?_nameAt hj, Option.some.injEq] at hindex
  exact hindex.symm

/-- Numbers in order are names in order. -/
theorem pairwise_map_nameAt (hf : Sound names f) {l : List Nat} (hl : l.Pairwise (· < ·))
    (hlen : ∀ i ∈ l, i < f.names.length) :
    (l.map f.nameAt).Pairwise (order names · < order names ·) := by
  rw [List.pairwise_map]
  exact hl.imp_of_mem fun _ hj hij => hf.order_nameAt_lt hij (hlen _ hj)

end Sound

/-! ### Roots and members -/

/-- The roots among the first numbers, in order. -/
def rootsBelow (f : Forest) (k : Nat) : List Nat := (List.range k).filter fun i => f.root i == i

/-- The numbers with a root among the first numbers, in order. -/
def membersBelow (f : Forest) (k r : Nat) : List Nat := (List.range k).filter fun j => f.root j == r

/-- The groups among the names with the first numbers. -/
def groupsBelow (f : Forest) (k : Nat) : List (String × List String) :=
  (f.rootsBelow k).map fun r => (f.nameAt r, (f.membersBelow k r).map f.nameAt)

theorem groups_eq (f : Forest) : f.groups = f.groupsBelow f.names.length := rfl

theorem mem_rootsBelow : i ∈ f.rootsBelow k ↔ i < k ∧ f.root i = i := by
  simp [rootsBelow]

theorem mem_membersBelow : i ∈ f.membersBelow k r ↔ i < k ∧ f.root i = r := by
  simp [membersBelow]

theorem mem_groupsBelow {c : String × List String} : c ∈ f.groupsBelow k ↔
    ∃ r, (r < k ∧ f.root r = r) ∧ (f.nameAt r, (f.membersBelow k r).map f.nameAt) = c := by
  simp only [groupsBelow, List.mem_map, mem_rootsBelow]

theorem pairwise_rootsBelow (f : Forest) (k : Nat) : (f.rootsBelow k).Pairwise (· < ·) :=
  List.pairwise_lt_range.filter _

theorem pairwise_membersBelow (f : Forest) (k r : Nat) : (f.membersBelow k r).Pairwise (· < ·) :=
  List.pairwise_lt_range.filter _

/-- A root is the first of its members, because roots are below what they are the root of. -/
theorem head?_membersBelow (hlt : r < k) (hr : f.root r = r) :
    (f.membersBelow k r).head? = some r := by
  have hmem : r ∈ f.membersBelow k r := mem_membersBelow.2 ⟨hlt, hr⟩
  have hpair := pairwise_membersBelow f k r
  cases hlist : f.membersBelow k r with
  | nil => simp [hlist] at hmem
  | cons i rest =>
    have hi : f.root i = r := (mem_membersBelow.1 (hlist ▸ List.mem_cons_self)).2
    have hle : r ≤ i := hi ▸ root_le f i
    rw [hlist] at hmem hpair
    rcases List.mem_cons.1 hmem with rfl | hlater
    · rfl
    · have hlt := (List.pairwise_cons.1 hpair).1 r hlater
      omega

/-- Every number is a member of exactly one root. -/
theorem flatMap_membersBelow_perm (f : Forest) (k : Nat) :
    ((f.rootsBelow k).flatMap (f.membersBelow k)).Perm (List.range k) := by
  have hnodup : ((f.rootsBelow k).flatMap (f.membersBelow k)).Nodup := by
    refine List.nodup_flatMap.2 ⟨fun r _ => (pairwise_membersBelow f k r).imp ne_of_lt, ?_⟩
    refine (pairwise_rootsBelow f k).imp fun {r s} hrs i hi hi' => ?_
    have hr := (mem_membersBelow.1 hi).2
    have hs := (mem_membersBelow.1 hi').2
    omega
  rw [List.perm_ext_iff_of_nodup hnodup List.nodup_range]
  intro i
  simp only [List.mem_flatMap, mem_rootsBelow, mem_membersBelow, List.mem_range]
  constructor
  · rintro ⟨r, -, hi, -⟩
    exact hi
  · intro hi
    exact ⟨f.root i, ⟨(root_le f i).trans_lt hi, root_root f i⟩, hi, rfl⟩

theorem map_nameAt_range (f : Forest) : (List.range f.names.length).map f.nameAt = f.names := by
  apply List.ext_getElem
  · simp
  · intro i hi hi'
    simp [nameAt, List.getD_eq_getElem?_getD, hi']

/-! ### Groups are classes -/

/-- The groups partition the distinct names into the classes that the merges among some steps make.
-/
structure Classes (names : List String) (steps : List Step)
    (groups : List (String × List String)) : Prop where
  distinct : (groups.flatMap (·.2)).Perm names.dedup
  keys : (groups.map (·.1)).Pairwise (order names · < order names ·)
  ordered : ∀ c ∈ groups, c.2.Pairwise (order names · < order names ·)
  root_first : ∀ c ∈ groups, c.2.head? = some c.1
  joined : ∀ c ∈ groups, ∀ m, m ∈ c.2 ↔ Joined steps c.1 m

theorem After.groups (hf : After names steps f) : Classes names steps f.groups := by
  rw [groups_eq]
  constructor
  case distinct =>
    have hperm := (flatMap_membersBelow_perm f f.names.length).map f.nameAt
    rw [map_nameAt_range, List.map_flatMap, hf.names] at hperm
    rwa [groupsBelow, List.flatMap_map, hf.names]
  case keys =>
    rw [groupsBelow, List.map_map]
    exact hf.pairwise_map_nameAt (pairwise_rootsBelow f _) fun r hr => (mem_rootsBelow.1 hr).1
  case ordered =>
    intro c hc
    obtain ⟨r, -, rfl⟩ := mem_groupsBelow.1 hc
    exact hf.pairwise_map_nameAt (pairwise_membersBelow f _ r) fun i hi => (mem_membersBelow.1 hi).1
  case root_first =>
    intro c hc
    obtain ⟨r, ⟨hlt, hself⟩, rfl⟩ := mem_groupsBelow.1 hc
    rw [List.head?_map, head?_membersBelow hlt hself, Option.map_some]
  case joined =>
    intro c hc m
    obtain ⟨r, ⟨hlt, hself⟩, rfl⟩ := mem_groupsBelow.1 hc
    have hindex := hf.index?_nameAt hlt
    constructor
    · intro hm
      obtain ⟨i, hi, rfl⟩ := List.mem_map.1 hm
      obtain ⟨hi, hroot⟩ := mem_membersBelow.1 hi
      exact (hf.joined_iff hindex (hf.index?_nameAt hi)).2 (hself.trans hroot.symm)
    · intro hm
      obtain ⟨i, hi, hroot⟩ := hf.exists_index?_of_joined hindex hm
      have hmember : i ∈ f.membersBelow f.names.length r :=
        mem_membersBelow.2 ⟨Sound.lt_of_index? hi, hroot.symm.trans hself⟩
      exact List.mem_map.2 ⟨i, hmember, nameAt_of_index? hi⟩

/-- The key of a group is what a look-up finds for each of its members. -/
theorem Sound.find?_of_mem_groups (hf : Sound names f) {c : String × List String}
    (hc : c ∈ f.groups) (hm : m ∈ c.2) : (f.find? m).map (·.1) = some c.1 := by
  rw [groups_eq] at hc
  obtain ⟨r, -, rfl⟩ := mem_groupsBelow.1 hc
  obtain ⟨i, hi, rfl⟩ := List.mem_map.1 hm
  obtain ⟨hi, hroot⟩ := mem_membersBelow.1 hi
  rw [(hf.find? (hf.index?_nameAt hi)).1, hroot, Option.map_some]

/-! ### Groups that are collected by look-ups -/

/-- A member at the end of the group with a key, or in a new group behind all others. -/
def put (key member : String) : List (String × List String) → List (String × List String)
  | [] => [(key, [member])]
  | (k, ms) :: rest =>
    if k = key then (k, ms ++ [member]) :: rest else (k, ms) :: put key member rest

/-- Every name is looked up, in the forest that the look-up before has left, and put in the group
with the root as its key. -/
def gather (f : Forest) (found : List (String × List String)) :
    List String → Option (List (String × List String))
  | [] => some found
  | n :: rest => do
    let (root, g) ← f.find? n
    g.gather (put root n found) rest

theorem put_of_new {key member : String} {found : List (String × List String)}
    (h : ∀ c ∈ found, c.1 ≠ key) : put key member found = found ++ [(key, [member])] := by
  induction found with
  | nil => rfl
  | cons c rest ih =>
    obtain ⟨hc, hrest⟩ := List.forall_mem_cons.1 h
    rw [put, if_neg hc, ih hrest, List.cons_append]

theorem put_map (name : Nat → String) (content : Nat → List String) {l : List Nat}
    (hl : l.Nodup) (hname : ∀ i ∈ l, name i = name r → i = r) (hr : r ∈ l) :
    put (name r) m (l.map fun i => (name i, content i)) =
      l.map fun i => (name i, content i ++ if i = r then [m] else []) := by
  induction l with
  | nil => simp at hr
  | cons i rest ih =>
    obtain ⟨hi, hrest⟩ := List.nodup_cons.1 hl
    obtain ⟨hhead, hnames⟩ := List.forall_mem_cons.1 hname
    by_cases heq : i = r
    · subst heq
      have hkeep : ∀ j ∈ rest, ((name j, content j) : String × List String) =
          (name j, content j ++ if j = i then [m] else []) := by
        intro j hj
        rw [if_neg (by rintro rfl; exact hi hj), List.append_nil]
      simp [put, List.map_congr_left hkeep]
    · have hne : name i ≠ name r := fun h => heq (hhead h)
      have hmem : r ∈ rest := (List.mem_cons.1 hr).resolve_left (Ne.symm heq)
      simp [put, hne, heq, ih hrest hnames hmem]

theorem rootsBelow_succ (f : Forest) (k : Nat) :
    f.rootsBelow (k + 1) = f.rootsBelow k ++ if f.root k = k then [k] else [] := by
  rw [rootsBelow, List.range_succ, List.filter_append, ← rootsBelow]
  by_cases h : f.root k = k
  · simp [h]
  · simp [h]

theorem membersBelow_succ (f : Forest) (k r : Nat) :
    f.membersBelow (k + 1) r = f.membersBelow k r ++ if r = f.root k then [k] else [] := by
  rw [membersBelow, List.range_succ, List.filter_append, ← membersBelow]
  by_cases h : r = f.root k
  · simp [h]
  · simp [h, Ne.symm h]

/-- Nothing below a number has it as its root. -/
theorem membersBelow_self (f : Forest) (k : Nat) : f.membersBelow k k = [] := by
  rw [List.eq_nil_iff_forall_not_mem]
  intro i hi
  have hlt := mem_membersBelow.1 hi
  have hle := root_le f i
  omega

/-- A name that is a root makes a new group. -/
theorem Sound.put_groupsBelow_root (hf : Sound names f) (hk : k < f.names.length)
    (hroot : f.root k = k) :
    put (f.nameAt k) (f.nameAt k) (f.groupsBelow k) = f.groupsBelow (k + 1) := by
  have hnew : ∀ c ∈ f.groupsBelow k, c.1 ≠ f.nameAt k := by
    intro c hc heq
    obtain ⟨r, ⟨hrk, -⟩, rfl⟩ := mem_groupsBelow.1 hc
    have hsame := hf.nameAt_inj (hrk.trans hk) hk heq
    omega
  have hold : ∀ r ∈ f.rootsBelow k, f.membersBelow (k + 1) r = f.membersBelow k r := by
    intro r hr
    have hrk := (mem_rootsBelow.1 hr).1
    rw [membersBelow_succ, if_neg (by omega), List.append_nil]
  rw [put_of_new hnew, groupsBelow, groupsBelow, rootsBelow_succ, if_pos hroot, List.map_append]
  congr 1
  · exact List.map_congr_left fun r hr => by rw [hold r hr]
  · simp [membersBelow_succ, membersBelow_self, hroot]

/-- Every other name joins the group of its root. -/
theorem Sound.put_groupsBelow_member (hf : Sound names f) (hk : k < f.names.length)
    (hroot : f.root k ≠ k) :
    put (f.nameAt (f.root k)) (f.nameAt k) (f.groupsBelow k) = f.groupsBelow (k + 1) := by
  have hlt : f.root k < k := lt_of_le_of_ne (root_le f k) hroot
  have hname : ∀ i ∈ f.rootsBelow k, f.nameAt i = f.nameAt (f.root k) → i = f.root k := by
    intro i hi heq
    have hik := (mem_rootsBelow.1 hi).1
    exact hf.nameAt_inj (hik.trans hk) (hlt.trans hk) heq
  have hput := put_map (m := f.nameAt k) f.nameAt (fun r => (f.membersBelow k r).map f.nameAt)
    ((pairwise_rootsBelow f k).imp ne_of_lt) hname (mem_rootsBelow.2 ⟨hlt, root_root f k⟩)
  rw [groupsBelow, hput, groupsBelow, rootsBelow_succ, if_neg hroot, List.append_nil]
  refine List.map_congr_left fun r _ => ?_
  rw [membersBelow_succ, List.map_append]
  by_cases hr : r = f.root k
  · simp [hr]
  · simp [hr]

theorem Sound.put_groupsBelow (hf : Sound names f) (hk : k < f.names.length) :
    put (f.nameAt (f.root k)) (f.nameAt k) (f.groupsBelow k) = f.groupsBelow (k + 1) := by
  by_cases hroot : f.root k = k
  · rw [hroot]
    exact hf.put_groupsBelow_root hk hroot
  · exact hf.put_groupsBelow_member hk hroot

/-- Looking all names up in their order collects the groups: each look-up moves no root, so that the
rest is collected as in the forest at the start. -/
theorem Sound.gather_eq (hf : Sound names f) (hg : Sound names g) (h : SameRoots f g)
    {done rest : List String} (hnames : f.names = done ++ rest) :
    g.gather (f.groupsBelow done.length) rest = some f.groups := by
  induction rest generalizing done g with
  | nil =>
    have hlen : done.length = f.names.length := by rw [hnames, List.append_nil]
    rw [gather, hlen]
    rfl
  | cons n rest ih =>
    have hat : f.names[done.length]? = some n := by simp [hnames]
    have hindex : f.index? n = some done.length := index?_eq_some hf.nodup hat
    obtain ⟨hfind, hsound⟩ := hg.find? (h.index? n ▸ hindex)
    have hk := Sound.lt_of_index? hindex
    have hput := hf.put_groupsBelow hk
    rw [nameAt_of_index? hindex] at hput
    have hsplit : f.names = (done ++ [n]) ++ rest := by simpa using hnames
    have hrest := ih hsound (h.trans (sameRoots_shorten g done.length)) hsplit
    have hroot : g.nameAt (g.root done.length) = f.nameAt (f.root done.length) := by
      rw [← h.nameAt, ← h.2]
    simpa [gather, hfind, hroot, hput] using hrest

/-! ### Histories -/

/-- A look-up of `n` after some steps: both walks end, the answer `r` is the first declared name that
the steps join with `n`, and the forest that is left is `g`. -/
structure Finds (names : List String) (steps : List Step) (f : Forest) (n r : String) (g : Forest) :
    Prop where
  walks : ∃ i j, f.index? n = some i ∧ f.index? r = some j ∧ f.WalksTo i j ∧ ShortensTo j f i g
  answers : f.find? n = some (r, g)
  joined : Joined steps n r
  first : ∀ m, Joined steps n m → order names r ≤ order names m

theorem After.finds (hf : After names steps f) (hi : f.index? n = some i) :
    Finds names steps f n (f.nameAt (f.root i)) (f.shorten (f.root i) i) := by
  have hlt : f.root i < f.names.length := (root_le f i).trans_lt (Sound.lt_of_index? hi)
  have hindex := hf.index?_nameAt hlt
  refine ⟨⟨i, f.root i, hi, hindex, walksTo_root hf.descends i, shortensTo_shorten hf.descends i⟩,
    (hf.toSound.find? hi).1, (hf.joined_iff hi hindex).2 (root_root f i).symm, fun m hm => ?_⟩
  obtain ⟨j, hj, hroot⟩ := hf.exists_index?_of_joined hi hm
  rw [← nameAt_of_index? hj, hroot]
  rcases (root_le f j).eq_or_lt with h | h
  · rw [h]
  · exact (hf.order_nameAt_lt h (Sound.lt_of_index? hj)).le

/-- Look-ups and merges of known names, in any order, all answer. After them, a look-up of a known
name ends, finds the first declared name of its class, and makes no difference to whatever comes
later. Looking up all names collects the groups, and these are the classes, each with the name that
is found for all of its members as its key. -/
theorem classes_of_history (names : List String) (steps : List Step)
    (hknown : ∀ s ∈ steps, s.names ⊆ names) :
    ∃ answers f, (Forest.singletons names).run? steps = some (answers, f) ∧
      (∀ n ∈ names, ∃ r g, Finds names steps f n r g ∧
        ∀ later : List Step, (∀ s ∈ later, s.names ⊆ names) →
          ∃ answers f' g', f.run? later = some (answers, f') ∧ g.run? later = some (answers, g') ∧
            f'.groups = g'.groups) ∧
      f.gather [] names.dedup = some f.groups ∧ Classes names steps f.groups ∧
      ∀ c ∈ f.groups, ∀ m ∈ c.2, (f.find? m).map (·.1) = some c.1 := by
  obtain ⟨answers, f, hrun, hafter⟩ := (After.singletons names).run? hknown
  rw [List.nil_append] at hafter
  refine ⟨answers, f, hrun, fun n hn => ?_, ?_, hafter.groups, fun c hc m hm =>
    hafter.find?_of_mem_groups hc hm⟩
  · obtain ⟨i, hi⟩ := hafter.exists_index? hn
    refine ⟨_, _, hafter.finds hi, fun later hlater => ?_⟩
    obtain ⟨answers, f', g', hf', hg', hsame⟩ :=
      (sameRoots_shorten f i).run? hafter.toSound (hafter.toSound.find? hi).2 hlater
    exact ⟨answers, f', g', hf', hg', hsame.groups⟩
  · have hsplit : f.names = [] ++ names.dedup := hafter.names
    exact hafter.toSound.gather_eq hafter.toSound ⟨rfl, fun _ => rfl⟩ hsplit

/-- A name that is declared again counts where it is declared last, so `b` stands before `a`. Two
merges put three names into one class, and the look-up between them shortens a way. -/
theorem classes_of_history_redeclared :
    ∃ names steps answers f, (∀ s ∈ steps, s.names ⊆ names) ∧
      names = ["a", "b", "a", "c", "d"] ∧
      steps = [.union "d" "c", .find "d", .union "c" "b"] ∧
      (Forest.singletons names).run? steps = some (answers, f) ∧ answers = ["c", "c", "b"] ∧
      Classes names steps [("b", ["b", "c", "d"]), ("a", ["a"])] ∧
      ∃ g, Finds names steps f "d" "b" g := by
  obtain ⟨names, hnames⟩ : ∃ names, names = ["a", "b", "a", "c", "d"] := ⟨_, rfl⟩
  obtain ⟨steps, hsteps⟩ :
    ∃ steps, steps = [Step.union "d" "c", .find "d", .union "c" "b"] := ⟨_, rfl⟩
  have hknown : ∀ s ∈ steps, s.names ⊆ names := by rw [hsteps, hnames]; decide
  obtain ⟨answers, f, hrun, hfinds, -, hclasses, -⟩ := classes_of_history names steps hknown
  have hvalue : ((Forest.singletons names).run? steps).map
      (fun r => (r.1, r.2.groups, (r.2.find? "d").map (·.1))) =
      some (["c", "c", "b"], [("b", ["b", "c", "d"]), ("a", ["a"])], some "b") := by
    rw [hsteps, hnames]
    decide +kernel
  obtain ⟨hanswers, hgroups, hfind⟩ : answers = ["c", "c", "b"] ∧
      f.groups = [("b", ["b", "c", "d"]), ("a", ["a"])] ∧ (f.find? "d").map (·.1) = some "b" := by
    simpa [hrun] using hvalue
  obtain ⟨r, g, hfound, -⟩ := hfinds "d" (by simp [hnames])
  obtain rfl : r = "b" := by simpa [hfound.answers] using hfind
  exact ⟨names, steps, answers, f, hknown, hnames, hsteps, hrun, hanswers, hgroups ▸ hclasses,
    g, hfound⟩

end Monomorph.Forest
