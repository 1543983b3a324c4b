import Monomorph.Proofs.Emission.Accepted
import Monomorph.Proofs.Expansion.Reached

/-!
Annotations. A stub annotates an argument with the types that its values can have. They are written from
the types of the argument alone, but these are the types that it takes in the combinations of the table,
so nothing is annotated that no combination accepts, and nothing is left out.
-/

namespace Monomorph

/-- The words for types in a stub. -/
def ConcreteType.stubWords : List String :=
  ["numpy.ndarray", "scipy.sparse.csr_matrix", "scipy.sparse.csc_matrix", "Any"] ++
    stubHosts.map (·.2)

theorem ConcreteType.stub_mem (t : ConcreteType) : t.stub ∈ stubWords := by
  cases t with
  | dense e => exact List.mem_cons_self
  | sparse e l =>
    rw [stub]
    cases l <;> decide
  | host text =>
    rw [stub]
    cases hlookup : stubHosts.lookup text with
    | none => decide
    | some word =>
      obtain ⟨before, after, heq, -⟩ := List.lookup_eq_some_iff.1 hlookup
      exact List.mem_append_right _ (List.mem_map.2 ⟨(text, word), by simp [heq], rfl⟩)

namespace Emission

open Text Expansion

variable {d : Declaration} {t : DispatchTable} {a : Argument} {i : Nat}

namespace Stub

/-- The annotation for some types: the one, or the union of several. -/
def typeHint : List String → String
  | [one] => one
  | several => "Union[" ++ join ", " several ++ "]"

theorem typeText_eq (a : Argument) : typeText a = typeHint (distinct (a.typeList.map (·.stub))) := by
  rw [typeText]
  generalize distinct (a.typeList.map (·.stub)) = words
  match words with
  | [] | [_] | _ :: _ :: _ => rfl

theorem mem_distinct {x : String} {xs : List String} : x ∈ distinct xs ↔ x ∈ xs := by
  simpa [distinct] using mem_foldl_new [] xs x

theorem nodup_distinct (xs : List String) : (distinct xs).Nodup :=
  nodup_foldl_new [] xs List.nodup_nil

/-- Of words for types, more than one are written as a union, and one is not. -/
theorem isUnion_typeHint_iff {words : List String} (hne : words ≠ [])
    (hwords : ∀ w ∈ words, w ∈ ConcreteType.stubWords) :
    "Union[".toList <+: (typeHint words).toList ↔ 1 < words.length := by
  have hone : ∀ w ∈ ConcreteType.stubWords, ¬ "Union[".toList <+: w.toList := by decide
  match words, hne with
  | [one], _ =>
    exact iff_of_false (hone one (hwords one List.mem_cons_self)) (by simp)
  | first :: second :: rest, _ =>
    refine iff_of_true ?_ (by simp)
    rw [typeHint, String.append_assoc, String.toList_append]
    · exact List.prefix_append _ _
    · simp

end Stub

/-- The annotations of a stub. Whatever constraints an argument depends on, the types that the
combinations of its table assign to it are the types that it is resolved to. So its annotation in the
stub lists, without repetition, the words for the types that some combination accepts at its place, and
is a union exactly if these are more than one. -/
theorem annotation_lists_accepted {text : String} {path : Option Path} {s : Scanned}
    {limit : Option Int} (hscan : scan text path = .ok s) (hres : s.declaration.resolve = .ok d)
    (hexp : d.expand limit = .ok t) (ha : d.arguments[i]? = some a) :
    (∀ type, (∃ c ∈ t.combinations, c.types[i]? = some type) ↔ type ∈ a.typeList) ∧
    ∃ stub words, Stub.of ⟨d, t⟩ = .ok stub ∧
      stub.parameters[i]? = some (a.name ++ ": " ++ Stub.typeHint words ++
        if a.default.isSome then " = ..." else "") ∧
      words.Nodup ∧
      (∀ word, word ∈ words ↔
        ∃ c ∈ t.combinations, ∃ type, c.types[i]? = some type ∧ type.stub = word) ∧
      ("Union[".toList <+: (Stub.typeHint words).toList ↔ 1 < words.length) := by
  have hset : Settled d.arguments :=
    settled_of_scan_resolve Registry.standard_isNumeric hscan hres
  obtain ⟨-, rfl⟩ := (expand_eq_ok_iff hset).1 hexp
  have htaken : ∀ type, (∃ c ∈ (table d).combinations, c.types[i]? = some type) ↔
      type ∈ a.typeList := fun _ => exists_combination_iff hset ha
  refine ⟨htaken, stub d, Stub.distinct (a.typeList.map (·.stub)), stub_eq hset, ?_,
    Stub.nodup_distinct _, fun word => ?_, Stub.isUnion_typeHint_iff ?_ ?_⟩
  · rw [stub, List.getElem?_map, ha, Option.map_some, Stub.parameterText, Stub.typeText_eq]
  · rw [Stub.mem_distinct, List.mem_map]
    constructor
    · rintro ⟨type, htype, hword⟩
      obtain ⟨c, hc, hi⟩ := (htaken type).2 htype
      exact ⟨c, hc, type, hi, hword⟩
    · rintro ⟨c, hc, type, hi, hword⟩
      exact ⟨type, (htaken type).1 ⟨c, hc, hi⟩, hword⟩
  · obtain ⟨_, hfollows⟩ := hset.of_mem (List.mem_of_getElem? ha)
    obtain ⟨type, htype⟩ := List.exists_mem_of_ne_nil _ hfollows.typed.nonempty
    exact List.ne_nil_of_mem (Stub.mem_distinct.2 (List.mem_map_of_mem htype))
  · intro word hword
    obtain ⟨type, -, rfl⟩ := List.mem_map.1 (Stub.mem_distinct.1 hword)
    exact type.stub_mem

/-- A derived argument with two types, whose values are all of one type in the stub. -/
theorem annotation_of_dense_like :
    ∃ s d t a stub words, scan ("npe_function(f) npe_arg(a, dense_f32, csr_f32, csc_i64) " ++
        "npe_arg(k, int) npe_arg(b, dense_like(a)) npe_begin_code()") = .ok s ∧
      s.declaration.resolve = .ok d ∧ d.expand none = .ok t ∧ d.arguments[2]? = some a ∧
      a.typeList = [.dense .float32, .dense .int64] ∧
      (∃ c ∈ t.combinations, c.types[2]? = some (.dense .int64)) ∧
      Stub.of ⟨d, t⟩ = .ok stub ∧ stub.parameters[2]? = some ("b: " ++ Stub.typeHint words) ∧
      words = ["numpy.ndarray"] := by
  obtain ⟨s, d, hscan, hres, hvalue⟩ := exists_scan_resolve
    ("npe_function(f) npe_arg(a, dense_f32, csr_f32, csc_i64) " ++
      "npe_arg(k, int) npe_arg(b, dense_like(a)) npe_begin_code()")
    (fun d => ((d.expand none).toOption.isSome,
      d.arguments[2]?.map fun a => (a.name, a.typeList, a.default)))
    (true, some ("b", [.dense .float32, .dense .int64], none)) (by decide +kernel)
  obtain ⟨hexpands, hthird⟩ := Prod.mk.inj hvalue
  obtain ⟨a, ha, hargument⟩ := Option.map_eq_some_iff.1 hthird
  obtain ⟨hname, htypes, hdefault⟩ : a.name = "b" ∧
      a.typeList = [.dense .float32, .dense .int64] ∧ a.default = none := by
    simpa using hargument
  cases hexp : d.expand none with
  | error e => simp [hexp, Except.toOption] at hexpands
  | ok t =>
    obtain ⟨htaken, stub, words, hstub, hparameter, hnodup, hwords, -⟩ :=
      annotation_lists_accepted hscan hres hexp ha
    have hone : ∀ word, word ∈ words ↔ word = "numpy.ndarray" := by
      intro word
      rw [hwords]
      constructor
      · rintro ⟨c, hc, type, htype, rfl⟩
        have hmem := (htaken type).1 ⟨c, hc, htype⟩
        rw [htypes] at hmem
        rcases List.mem_cons.1 hmem with rfl | hmem
        · rfl
        · rw [List.mem_singleton.1 hmem]
          rfl
      · rintro rfl
        obtain ⟨c, hc, htype⟩ := (htaken (.dense .int64)).2 (by simp [htypes])
        exact ⟨c, hc, _, htype, rfl⟩
    refine ⟨s, d, t, a, stub, words, hscan, hres, hexp, ha, htypes,
      (htaken _).2 (by simp [htypes]), hstub, ?_, ?_⟩
    · simpa [hname, hdefault] using hparameter
    · exact List.perm_singleton.1 ((List.perm_ext_iff_of_nodup hnodup (by simp)).2 (by simpa using hone))

end Emission

end Monomorph
