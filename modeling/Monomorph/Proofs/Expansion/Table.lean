import Monomorph.Proofs.Expansion.Row

/-!
The dispatch table of a settled declaration in closed form: one row for each choice of types for the
free arguments, numbered in order. Expansion answers this table and nothing else, unless the limit
is lower than the number of choices.
-/

namespace Monomorph.Expansion

/-- The symbol fragments of a choice: those of the numeric free arguments. -/
def fragments (args : List Argument) (choice : List ConcreteType) : List String :=
  (((freeArguments args).zip choice).filter fun p => !p.1.isPassedThrough).map (·.2.fragment)

/-- The combination of one choice. -/
def row (d : Declaration) (index : Nat) (choice : List ConcreteType) : Combination where
  index := index
  names := d.names.map Label.text
  types := complete [] d.arguments choice
  identifier := identifier d.name (fragments d.arguments choice)

/-- Every choice of types for the free arguments of a declaration. -/
def rowChoices (d : Declaration) : List (List ConcreteType) :=
  choices ((freeArguments d.arguments).map (·.typeList))

/-- The dispatch table that a declaration expands to. -/
def table (d : Declaration) : DispatchTable where
  function := d.name
  names := d.names.map Label.text
  combinations := (rowChoices d).mapIdx (row d)
  positions := (d.arguments.filter fun a => !a.isPassedThrough).map fun a => .index a.position
  defaults := d.arguments.map fun a => a.default.map Label.text

variable {d : Declaration} {cs : List TypeClass} {k : Assignment}

theorem typesOf_eq_ok {ns : List String} {ts : List ConcreteType}
    (h : ns.map (fun n => k.lookup n) = ts.map some) : typesOf k ns = .ok ts := by
  induction ns generalizing ts with
  | nil =>
    obtain rfl : ts = [] := by simpa using h.symm
    rfl
  | cons n ns ih =>
    obtain ⟨t, ts, rfl⟩ : ∃ t ts', ts = t :: ts' := by cases ts <;> simp_all
    rw [List.map_cons, List.map_cons, List.cons.injEq] at h
    simp [typesOf, h.1, ih h.2, Except.map]

/-- Names and types that belong together do so after the same arguments are left out of both. -/
theorem lookup_filter (p : Argument → Bool) {as : List Argument} {ts : List ConcreteType}
    (h : as.map (fun a => k.lookup a.name) = ts.map some) :
    ((as.filter p).map (·.name)).map (fun n => k.lookup n) =
      (((as.zip ts).filter fun q => p q.1).map (·.2)).map some := by
  induction as generalizing ts with
  | nil => rfl
  | cons a as ih =>
    obtain ⟨t, ts, rfl⟩ : ∃ t ts', ts = t :: ts' := by cases ts <;> simp_all
    rw [List.map_cons, List.map_cons, List.cons.injEq] at h
    rw [List.zip_cons_cons, List.filter_cons, List.filter_cons]
    split
    · rw [List.map_cons, List.map_cons, List.map_cons, List.map_cons, h.1, ih h.2]
    · exact ih h.2

theorem lookup_zip {ns : List String} {ts : List ConcreteType} (hn : ns.Nodup)
    (hlen : ns.length = ts.length) : ns.map (fun n => (ns.zip ts).lookup n) = ts.map some := by
  induction ns generalizing ts with
  | nil => cases ts <;> simp_all
  | cons n ns ih =>
    obtain ⟨t, ts, rfl⟩ : ∃ t ts', ts = t :: ts' := by cases ts <;> simp_all
    obtain ⟨hfresh, hn⟩ := List.nodup_cons.1 hn
    rw [List.map_cons, List.map_cons, List.zip_cons_cons, List.lookup_cons_self,
      ← ih hn (by simpa using hlen), List.cons.injEq]
    refine ⟨rfl, List.map_congr_left fun m hm => ?_⟩
    exact lookup_cons_of_ne fun h => hfresh (h ▸ hm)

theorem combination_eq_row (hset : Settled d.arguments)
    (hcs : cs.map (·.representative) = freeArguments d.arguments) (index : Nat)
    {choice : List ConcreteType} (hchoice : Chosen d.arguments choice) :
    combination d cs index choice = .ok (row d index choice) := by
  have hroots : cs.map (·.representative.name) = (freeArguments d.arguments).map (·.name) := by
    rw [← hcs, List.map_map]
    rfl
  have hnumeric : (cs.filter (·.isNumeric)).map (·.representative.name) =
      ((freeArguments d.arguments).filter fun a => !a.isPassedThrough).map (·.name) := by
    rw [← hcs, List.filter_map, List.map_map]
    rfl
  have hfresh : ((freeArguments d.arguments).map (·.name)).Nodup :=
    hset.names_nodup.sublist (List.filter_sublist.map _)
  have hzip : (freeArguments d.arguments).map (fun a =>
      (((freeArguments d.arguments).map (·.name)).zip choice).lookup a.name) = choice.map some := by
    rw [← lookup_zip hfresh (by simpa using hchoice.length_eq), List.map_map]
    rfl
  obtain ⟨k, hk, hrow, hother⟩ := exists_derive hset (List.nil_append _).symm .nil hchoice
    (fun r hr => absurd hr (List.not_mem_nil)) hzip
  have hchosen : (freeArguments d.arguments).map (fun a => k.lookup a.name) = choice.map some := by
    rw [← hzip]
    apply List.map_congr_left
    intro a ha
    refine hother _ fun b hb hbound h => ?_
    have hab := hset.eq_of_name hb (List.mem_of_mem_filter ha) h
    rw [hab, (List.mem_filter.1 ha).2] at hbound
    cases hbound
  have htypes : typesOf k d.names = .ok (complete [] d.arguments choice) :=
    typesOf_eq_ok (by rw [← hrow, Declaration.names, List.map_map]; rfl)
  unfold combination
  simp only [hroots, hnumeric, hk, typesOf_eq_ok (lookup_filter _ hchosen), htypes, bind, Except.bind,
    pure, Except.pure, row, fragments, List.map_map]
  rfl

theorem combinations_eq_mapIdx (hset : Settled d.arguments)
    (hcs : cs.map (·.representative) = freeArguments d.arguments) (index : Nat)
    {rows : List (List ConcreteType)} (hrows : ∀ r ∈ rows, Chosen d.arguments r) :
    combinations d cs index rows = .ok (rows.mapIdx fun i r => row d (index + i) r) := by
  induction rows generalizing index with
  | nil => rfl
  | cons r rows ih =>
    obtain ⟨hr, hrows⟩ := List.forall_mem_cons.1 hrows
    rw [combinations, combination_eq_row hset hcs index hr, ih (index + 1) hrows, List.mapIdx_cons]
    simp only [bind, Except.bind, pure, Except.pure, Nat.add_zero, Nat.add_assoc, Nat.add_comm 1]

theorem total_eq (hcs : cs.map (·.representative) = freeArguments d.arguments) :
    total cs = (rowChoices d).length := by
  have hsizes : cs.map (·.size) = (freeArguments d.arguments).map (·.typeList.length) := by
    rw [← hcs, List.map_map]
    rfl
  rw [total, hsizes, rowChoices, length_choices, List.map_map, List.prod_eq_foldl]
  rfl

/-- Expansion of a settled declaration checks the limit, and nothing after that fails. -/
theorem exists_expand_eq (hset : Settled d.arguments) (limit : Option Int) :
    ∃ cs, classes d = .ok cs ∧ cs.map (·.representative) = freeArguments d.arguments ∧
      d.expand limit = (checkLimit d cs limit).map fun _ => table d := by
  obtain ⟨cs, hclasses, hcs⟩ := exists_classes hset
  have hlists : cs.map (·.representative.typeList) = (freeArguments d.arguments).map (·.typeList) := by
    rw [← hcs, List.map_map]
    rfl
  have hrows : combinations d cs 0 (choices (cs.map (·.representative.typeList))) =
      .ok (table d).combinations := by
    have hchosen : ∀ r ∈ rowChoices d, Chosen d.arguments r := fun r hr => mem_choices_typeList.1 hr
    rw [hlists, ← rowChoices, combinations_eq_mapIdx hset hcs 0 hchosen]
    simp [table]
  refine ⟨cs, hclasses, hcs, ?_⟩
  unfold Declaration.expand
  simp only [hclasses, hrows, bind, Except.bind, pure, Except.pure]
  cases checkLimit d cs limit <;> rfl

/-- Every table of a settled declaration has a combination. -/
theorem combinations_ne_nil (hset : Settled d.arguments) : (table d).combinations ≠ [] := by
  have hchoices : rowChoices d ≠ [] := by
    refine choices_ne_nil fun ts hts => ?_
    obtain ⟨a, ha, rfl⟩ := List.mem_map.1 hts
    obtain ⟨_, hfollows⟩ := hset.of_mem (List.mem_of_mem_filter ha)
    exact hfollows.typed.nonempty
  simpa [table] using hchoices

/-- Expansion of a settled declaration answers its table, if the limit allows for the number of
rows. -/
theorem expand_eq_ok_iff (hset : Settled d.arguments) {limit : Option Int} {t : DispatchTable} :
    d.expand limit = .ok t ↔
      (∀ n, limit = some n → ((rowChoices d).length : Int) ≤ n) ∧ t = table d := by
  obtain ⟨cs, -, hcs, hexpand⟩ := exists_expand_eq hset limit
  have htotal := total_eq hcs
  rw [hexpand]
  cases limit with
  | none => simpa [checkLimit, Except.map] using eq_comm
  | some n =>
    by_cases h : n < ((rowChoices d).length : Int)
    · simp [checkLimit, htotal, h, Except.map]
    · simpa [checkLimit, htotal, h, Except.map, not_lt.1 h] using eq_comm

/-- Expansion of a settled declaration fails because of the limit only. -/
theorem exists_of_expand_eq_error (hset : Settled d.arguments) {limit : Option Int}
    {e : ExpansionError} (h : d.expand limit = .error e) :
    ∃ n sizes, limit = some n ∧ n < ((rowChoices d).length : Int) ∧
      e = .tooMany d.name (rowChoices d).length sizes n := by
  obtain ⟨cs, -, hcs, hexpand⟩ := exists_expand_eq hset limit
  have htotal := total_eq hcs
  rw [hexpand] at h
  cases limit with
  | none => simp [checkLimit, Except.map] at h
  | some n =>
    by_cases hn : n < ((rowChoices d).length : Int)
    · simp only [checkLimit, htotal, hn, if_true, Except.map, Except.error.injEq] at h
      exact ⟨n, _, rfl, hn, h.symm⟩
    · simp [checkLimit, htotal, hn, Except.map] at h

end Monomorph.Expansion
