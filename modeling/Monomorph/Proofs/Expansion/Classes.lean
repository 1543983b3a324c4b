import Monomorph.Expansion
import Monomorph.Proofs.Forest.Root
import Monomorph.Proofs.Resolution.Settled

/-!
The type classes of a settled declaration. Linking a constrained argument moves its own root and no
other, because arguments are linked in order and refer backwards. So each class has exactly one free
argument, its root, and the representatives are the free arguments in declaration order.
-/

namespace Monomorph

/-- Is the type of the argument chosen freely, not derived from another argument? -/
def Argument.isFree (a : Argument) : Bool := a.constraint?.isNone

/-- The arguments whose types are chosen. -/
def freeArguments (args : List Argument) : List Argument := args.filter (·.isFree)

namespace Expansion

/-- The kept elements of a list, read off place by place. -/
theorem filter_eq_filterMap_range {α : Type} (p : α → Bool) (xs : List α) :
    xs.filter p = (List.range xs.length).filterMap fun i => xs[i]?.filter p := by
  induction xs using List.reverseRecOn with
  | nil => rfl
  | append_singleton xs x ih =>
    have hinit : ((List.range xs.length).filterMap fun i => (xs ++ [x])[i]?.filter p) =
        (List.range xs.length).filterMap fun i => xs[i]?.filter p := by
      apply List.filterMap_congr
      intro i hi
      rw [List.getElem?_append_left (List.mem_range.1 hi)]
    rw [List.length_append, List.length_singleton, List.range_succ, List.filterMap_append, hinit,
      List.filter_append, ← ih]
    cases hp : p x <;> simp [hp, Option.filter]

variable {args before rest : List Argument} {a : Argument} {f : Forest}

/-- Linking one argument to the one it refers to makes it no root any more, and changes nothing else
about what is a root. -/
theorem exists_union?_referent (hset : Settled args) (hsplit : args = before ++ a :: rest)
    (hnames : f.names = args.map (·.name)) (hlen : f.parents.length = f.names.length)
    (hraise : f.root before.length = before.length) {c : Constraint} (hc : a.constraint? = some c) :
    ∃ n g, f.union? c.reference a.name = some (n, g) ∧ g.names = f.names ∧
      g.parents.length = f.parents.length ∧
      ∀ j, g.root j = j ↔ f.root j = j ∧ j ≠ before.length := by
  obtain ⟨r, hr, hrname, -⟩ := (hset before a rest hsplit).referent c hc
  obtain ⟨i, hi⟩ := List.mem_iff_getElem?.1 hr
  have hilt : i < before.length := (List.getElem?_eq_some_iff.1 hi).1
  have hindex : ∀ {k : Nat} {b : Argument}, args[k]? = some b → f.index? b.name = some k :=
    fun {k b} hk =>
      Forest.index?_eq_some (hnames ▸ hset.names_nodup) (by rw [hnames, List.getElem?_map, hk]; rfl)
  have hfi : f.index? c.reference = some i := by
    rw [← hrname]
    exact hindex (by rw [hsplit, List.getElem?_append_left hilt, hi])
  have hfa : f.index? a.name = some before.length := hindex (by simp [hsplit])
  have hless : f.root i < before.length := (f.root_le i).trans_lt hilt
  obtain ⟨g, hg, hgnames, hglen, hgroot⟩ := Forest.exists_union? hlen hfi hfa
  rw [hraise, max_eq_right hless.le, min_eq_left hless.le] at hgroot
  refine ⟨_, g, hg, hgnames, hglen, fun j => ?_⟩
  rw [hgroot]
  split
  · next hto =>
    -- a number below the linked argument is no root before and none afterwards
    have hbelow : f.root j = j → j = before.length := fun hj => hj.symm.trans hto
    refine iff_of_false (fun h => ?_) (fun h => h.2 (hbelow h.1))
    rw [← h, Forest.root_root] at hto
    exact hless.ne hto
  · next hnot =>
    refine (and_iff_left_of_imp fun hj => ?_).symm
    rintro rfl
    exact hnot hraise

/-- Linking the arguments `rest` after those before them leaves exactly the free arguments as roots. -/
theorem exists_link (hset : Settled args) (hsplit : args = before ++ rest)
    (hnames : f.names = args.map (·.name)) (hlen : f.parents.length = f.names.length)
    (hroot : ∀ j a, args[j]? = some a → (f.root j = j ↔ before.length ≤ j ∨ a.isFree = true)) :
    ∃ g, link f rest = .ok g ∧ g.names = args.map (·.name) ∧
      ∀ j a, args[j]? = some a → (g.root j = j ↔ a.isFree = true) := by
  induction rest generalizing before f with
  | nil =>
    refine ⟨f, rfl, hnames, fun j a hj => (hroot j a hj).trans ?_⟩
    have hlt : j < args.length := (List.getElem?_eq_some_iff.1 hj).1
    rw [hsplit, List.append_nil] at hlt
    exact ⟨fun h => h.resolve_left (by omega), .inr⟩
  | cons a rest ih =>
    have hsplit' : args = (before ++ [a]) ++ rest := by simp [hsplit]
    have hhere : args[before.length]? = some a := by simp [hsplit]
    rw [link]
    cases hc : a.constraint? with
    | none =>
      have hfree : a.isFree = true := by simp [Argument.isFree, hc]
      refine ih hsplit' hnames hlen fun j b hj => (hroot j b hj).trans ?_
      rw [List.length_append, List.length_singleton]
      rcases Nat.lt_trichotomy j before.length with h | rfl | h
      · constructor <;> rintro (h' | h') <;> first | omega | exact .inr h'
      · obtain rfl : a = b := by simpa using hhere.symm.trans hj
        simp [hfree]
      · exact iff_of_true (.inl h.le) (.inl h)
    | some c =>
      have hbound : a.isFree = false := by simp [Argument.isFree, hc]
      have hraise : f.root before.length = before.length := (hroot _ a hhere).2 (.inl le_rfl)
      obtain ⟨n, g, hg, hgnames, hglen, hgroot⟩ :=
        exists_union?_referent hset hsplit hnames hlen hraise hc
      simp only [hg]
      refine ih hsplit' (hgnames.trans hnames) (by rw [hglen, hgnames, hlen]) fun j b hj => ?_
      rw [hgroot, hroot j b hj, List.length_append, List.length_singleton]
      by_cases hj' : j = before.length
      · subst hj'
        obtain rfl : a = b := by simpa using hhere.symm.trans hj
        simp [hbound]
      · rw [and_iff_left hj']
        constructor <;> rintro (h | h) <;> first | exact .inr h | exact .inl (by omega)

/-- All arguments of a settled declaration can be linked, which leaves the free ones as roots. -/
theorem exists_link_singletons {d : Declaration} (hset : Settled d.arguments) :
    ∃ g, link (Forest.singletons d.names) d.arguments = .ok g ∧
      g.names = d.arguments.map (·.name) ∧
      ∀ j a, d.arguments[j]? = some a → (g.root j = j ↔ a.isFree = true) := by
  have hnodup : d.names.Nodup := hset.names_nodup
  exact exists_link hset (List.nil_append _).symm (Forest.names_singletons hnodup)
    (Forest.length_parents_singletons d.names) (fun j a _ => by simp)

/-- Every root of a forest over the names of all arguments is the name of an argument. -/
theorem isSome_argument?_of_mem_groups {d : Declaration} (hset : Settled d.arguments)
    (hnames : f.names = d.arguments.map (·.name)) {g : String × List String} (hg : g ∈ f.groups) :
    (d.argument? g.1).isSome = true := by
  obtain ⟨r, hr, rfl⟩ := List.mem_map.1 hg
  have hlt : r < d.arguments.length := by
    simpa [hnames] using List.mem_range.1 (List.mem_of_mem_filter hr)
  have hname : f.nameAt r = d.arguments[r].name := by
    rw [Forest.nameAt, hnames, List.getD_eq_getElem?_getD, List.getElem?_map,
      List.getElem?_eq_getElem hlt]
    rfl
  rw [Declaration.argument?, hname, hset.find?_name (List.getElem_mem hlt)]
  rfl

theorem isResolved_of_settled {d : Declaration} (hset : Settled d.arguments) :
    d.isResolved = true := by
  refine List.all_eq_true.2 fun a ha => ?_
  obtain ⟨_, hfollows⟩ := hset.of_mem ha
  exact hfollows.resolved

/-- The classes of a settled declaration have the free arguments as representatives. -/
theorem exists_classes {d : Declaration} (hset : Settled d.arguments) :
    ∃ cs, classes d = .ok cs ∧ cs.map (·.representative) = freeArguments d.arguments := by
  obtain ⟨f, hf, hfnames, hfroot⟩ := exists_link_singletons hset
  unfold classes
  simp only [isResolved_of_settled hset, hf, Bool.not_true, Bool.false_eq_true, if_false, Except.map]
  refine ⟨_, rfl, ?_⟩
  have hlen : f.names.length = d.arguments.length := by rw [hfnames, List.length_map]
  rw [freeArguments, filter_eq_filterMap_range, List.map_filterMap, Forest.groups,
    List.filterMap_map, List.filterMap_filter, hlen]
  apply List.filterMap_congr
  intro i hi
  have hi' : i < d.arguments.length := List.mem_range.1 hi
  have hat : d.arguments[i]? = some d.arguments[i] := List.getElem?_eq_getElem hi'
  have hname : f.nameAt i = d.arguments[i].name := by
    rw [Forest.nameAt, hfnames, List.getD_eq_getElem?_getD, List.getElem?_map, hat]
    rfl
  have hfind : d.argument? d.arguments[i].name = some d.arguments[i] :=
    hset.find?_name (List.getElem_mem hi')
  by_cases hfree : d.arguments[i].isFree = true
  · have hself : f.root i = i := (hfroot i _ hat).2 hfree
    simp [hself, hname, hfind, hat, hfree, Option.filter]
  · have hself : f.root i ≠ i := fun h => hfree ((hfroot i _ hat).1 h)
    simp [hself, hat, hfree, Option.filter]

end Expansion

end Monomorph
