import Monomorph.Proofs.Expansion.Table

/-!
The number of combinations. The representatives of the classes are the free arguments, so the sizes
of the classes multiply to the number of choices, and the table has one row for each choice. The
limit is compared with this product before a row is made, so a table is never cut short.
-/

namespace Monomorph.Expansion

/-- In how many ways the types of the free arguments can be chosen: the product of the sizes of their
type sets, one if there is no free argument. -/
def choiceCount (args : List Argument) : Nat :=
  ((freeArguments args).map (·.typeList.length)).prod

/-- The free arguments with more than one type, and how many types they have. -/
def variedSizes (args : List Argument) : List (String × Nat) :=
  ((freeArguments args).filter fun a => 1 < a.typeList.length).map fun a =>
    (a.name, a.typeList.length)

variable {d : Declaration} {cs : List TypeClass}

theorem length_rowChoices (d : Declaration) :
    (rowChoices d).length = choiceCount d.arguments := by
  rw [rowChoices, length_choices, List.map_map, choiceCount]
  rfl

theorem length_combinations_table (d : Declaration) :
    (table d).combinations.length = choiceCount d.arguments := by
  rw [table, List.length_mapIdx, length_rowChoices]

/-- The rows of a table are numbered in order. -/
theorem map_index_table (d : Declaration) :
    (table d).combinations.map (·.index) = List.range (table d).combinations.length := by
  apply List.ext_getElem
  · simp
  · intro i hi hi'
    simp [table, row]

/-- The sizes that a refusal shows are those of the free arguments with more than one type. -/
theorem shown_sizes_eq (hcs : cs.map (·.representative) = freeArguments d.arguments) :
    ((cs.filter fun c => 1 < c.size).map fun c => (c.representative.name, c.size)) =
      variedSizes d.arguments := by
  rw [variedSizes, ← hcs, List.filter_map, List.map_map]
  rfl

theorem checkLimit_eq (hcs : cs.map (·.representative) = freeArguments d.arguments) (n : Int) :
    checkLimit d cs (some n) =
      if n < (choiceCount d.arguments : Int) then
        .error (.tooMany d.name (choiceCount d.arguments) (variedSizes d.arguments) n)
      else .ok () := by
  simp only [checkLimit, total_eq hcs, length_rowChoices, shown_sizes_eq hcs]

/-- Expansion of a settled declaration within a limit: its whole table, or a refusal that says how
many combinations there would be. -/
theorem expand_some_eq (hset : Settled d.arguments) (n : Int) :
    d.expand (some n) =
      if n < (choiceCount d.arguments : Int) then
        .error (.tooMany d.name (choiceCount d.arguments) (variedSizes d.arguments) n)
      else .ok (table d) := by
  obtain ⟨cs, -, hcs, hexpand⟩ := exists_expand_eq hset (some n)
  rw [hexpand, checkLimit_eq hcs]
  split
  · rfl
  · rfl

/-- The count that is computed from the classes, without making a row, is the length of the table that
expansion without a limit answers, and the product of the sizes of the free arguments' type sets. With
a limit, expansion is refused exactly if this product exceeds it; otherwise it answers the same table.
The rows are numbered in order. -/
theorem expand_counts {text : String} {path : Option Path} {s : Scanned} {d : Declaration}
    (hscan : scan text path = .ok s) (hres : s.declaration.resolve = .ok d) (limit : Option Int) :
    ∃ cs t, classes d = .ok cs ∧ d.expand none = .ok t ∧
      total cs = t.combinations.length ∧
      t.combinations.length =
        ((d.arguments.filter (·.constraint?.isNone)).map (·.typeList.length)).prod ∧
      t.combinations.map (·.index) = List.range t.combinations.length ∧
      ((∃ e, d.expand limit = .error e) ↔
        ∃ n, limit = some n ∧ n < (t.combinations.length : Int)) ∧
      (∀ e, d.expand limit = .error e → ∃ n, limit = some n ∧
        e = .tooMany d.name t.combinations.length (variedSizes d.arguments) n) ∧
      ∀ t', d.expand limit = .ok t' → t' = t := by
  have hset : Settled d.arguments :=
    settled_of_scan_resolve Registry.standard_isNumeric hscan hres
  obtain ⟨cs, hclasses, hcs, hexpand⟩ := exists_expand_eq hset none
  have hlength := length_combinations_table d
  refine ⟨cs, table d, hclasses, hexpand, ?_, hlength, map_index_table d, ?_⟩
  · rw [total_eq hcs, length_rowChoices, hlength]
  · cases limit with
    | none =>
      have hnone : d.expand none = .ok (table d) := hexpand
      simp [hnone]
    | some n =>
      rw [expand_some_eq hset, hlength]
      by_cases hn : n < (choiceCount d.arguments : Int)
      · simp [hn]
      · simp [hn]

/-- Two types of `a` and three of `c` make six combinations, whatever is derived from them. A limit of
five refuses them, a limit of six does not. -/
theorem expand_counts_of_classes :
    ∃ s d cs t, scan ("npe_function(f) npe_arg(a, dense_f32, csr_f32) npe_arg(k, int) " ++
        "npe_arg(b, dense_like(a)) npe_arg(c, dense_f32, dense_f64, dense_i32) " ++
        "npe_arg(e, matches(c)) npe_begin_code()") = .ok s ∧
      s.declaration.resolve = .ok d ∧ classes d = .ok cs ∧ d.expand none = .ok t ∧
      total cs = 6 ∧ t.combinations.map (·.index) = [0, 1, 2, 3, 4, 5] ∧
      d.expand (some 5) = .error (.tooMany "f" 6 [("a", 2), ("c", 3)] 5) ∧
      d.expand (some 6) = .ok t := by
  obtain ⟨s, d, hscan, hres, hfacts⟩ := exists_scan_resolve
    ("npe_function(f) npe_arg(a, dense_f32, csr_f32) npe_arg(k, int) " ++
      "npe_arg(b, dense_like(a)) npe_arg(c, dense_f32, dense_f64, dense_i32) " ++
      "npe_arg(e, matches(c)) npe_begin_code()")
    (fun d => (d.name, (d.arguments.filter (·.constraint?.isNone)).map (·.typeList.length),
      variedSizes d.arguments))
    ("f", [2, 1, 3], [("a", 2), ("c", 3)]) (by decide +kernel)
  obtain ⟨hname, hsizes, hvaried⟩ : d.name = "f" ∧
      (d.arguments.filter (·.constraint?.isNone)).map (·.typeList.length) = [2, 1, 3] ∧
      variedSizes d.arguments = [("a", 2), ("c", 3)] := by simpa using hfacts
  obtain ⟨cs, t, hclasses, hnone, htotal, hlength, hindex, hiff, herror, -⟩ :=
    expand_counts hscan hres (some 5)
  obtain ⟨_, t', _, hnone', -, -, -, hiff', -, hsame⟩ := expand_counts hscan hres (some 6)
  have hsix : t.combinations.length = 6 := by rw [hlength, hsizes]; rfl
  obtain rfl : t = t' := by simpa [hnone] using hnone'
  refine ⟨s, d, cs, t, hscan, hres, hclasses, hnone, htotal.trans hsix, ?_, ?_, ?_⟩
  · rw [hindex, hsix]
    rfl
  · obtain ⟨e, he⟩ := hiff.2 ⟨5, rfl, by omega⟩
    obtain ⟨n, hn, rfl⟩ := herror e he
    obtain rfl : 5 = n := by simpa using hn
    rw [he, hname, hsix, hvaried]
  · cases hexp : d.expand (some 6) with
    | error e =>
      obtain ⟨n, hn, hless⟩ := hiff'.1 ⟨e, hexp⟩
      obtain rfl : 6 = n := by simpa using hn
      omega
    | ok t' => rw [hsame t' hexp]

end Monomorph.Expansion
