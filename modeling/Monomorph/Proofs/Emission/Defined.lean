import Monomorph.Proofs.Emission.Symbols

/-!
The symbols that a native source defines: one for each specialisation, one for the dispatcher and one
for the registration. They differ, whatever the function is called. Those of specialisations differ
because they decide the types at the numeric roots; and the name of a function is followed by two
underscores in a specialisation, while only one stands before it in the other two symbols.
-/

namespace Monomorph

open Text

namespace Expansion

variable {d : Declaration} {c : Combination} {cs : List TypeClass}

/-! ### Underscores -/

theorem count_underscore_identifier (function : String) (fragments : List String) :
    function.toList.count '_' + 3 ≤ (identifier function fragments).toList.count '_' := by
  have hstart : symbolStart.toList.count '_' = 1 := by decide
  have hgap : "__".toList.count '_' = 2 := by decide
  have hgeneric : "__generic".toList.count '_' = 2 := by decide
  unfold identifier
  split
  · simp only [String.toList_append, List.count_append, hstart, hgeneric]
    omega
  · simp only [String.toList_append, List.count_append, hstart, hgap]
    omega

theorem count_underscore_dispatch (function : String) :
    ("npe_dispatch_" ++ function).toList.count '_' = function.toList.count '_' + 2 := by
  have hstart : "npe_dispatch_".toList.count '_' = 2 := by decide
  rw [String.toList_append, List.count_append, hstart, Nat.add_comm]

theorem count_underscore_register (function : String) :
    ("npe_register_" ++ function).toList.count '_' = function.toList.count '_' + 2 := by
  have hstart : "npe_register_".toList.count '_' = 2 := by decide
  rw [String.toList_append, List.count_append, hstart, Nat.add_comm]

/-- No specialisation has the symbol of its own dispatcher or registration. -/
theorem identifier_ne (function : String) (fragments : List String) :
    identifier function fragments ≠ "npe_dispatch_" ++ function ∧
      identifier function fragments ≠ "npe_register_" ++ function := by
  have hlong := count_underscore_identifier function fragments
  constructor
  · intro heq
    rw [heq, count_underscore_dispatch] at hlong
    omega
  · intro heq
    rw [heq, count_underscore_register] at hlong
    omega

/-! ### Numeric roots -/

/-- The types of some arguments that are free and numeric, in order. -/
def rootTypes (args : List Argument) (types : List ConcreteType) : List ConcreteType :=
  ((args.zip types).filter fun a => a.1.isFree && !a.1.isPassedThrough).map (·.2)

/-- The choice of a combination and its types at the numeric roots have the same fragments. -/
theorem fragments_of_filter_zip {args : List Argument} {types choice : List ConcreteType}
    (hlen : args.length = types.length)
    (hchoice : ((args.zip types).filter (·.1.isFree)).map (·.2) = choice) :
    fragments args choice = (rootTypes args types).map (·.fragment) := by
  have hfree : freeArguments args = ((args.zip types).filter (·.1.isFree)).map (·.1) := by
    conv_lhs => rw [freeArguments, ← List.map_fst_zip hlen.le, List.filter_map]
    rfl
  have hzip : (freeArguments args).zip choice = (args.zip types).filter (·.1.isFree) := by
    rw [hfree, ← hchoice]
    exact (List.zip_of_prod rfl rfl).symm
  rw [fragments, hzip, rootTypes, List.filter_filter, List.map_map]
  simp only [Bool.and_comm]
  rfl

/-- The symbol of a combination is made from its types at the numeric roots. -/
theorem identifier_of_mem_table (hset : Settled d.arguments) (hc : c ∈ (table d).combinations) :
    c.identifier = .text (identifier d.name ((rootTypes d.arguments c.types).map (·.fragment))) := by
  have hlen := (forall₂_types hset hc).length_eq
  obtain ⟨i, choice, hi, rfl⟩ := mem_table.1 hc
  have hchoice := filter_zip_complete hset (List.nil_append _).symm .nil (chosen_of_getElem? hi)
  rw [← fragments_of_filter_zip hlen hchoice]
  rfl

/-- What a combination has at the numeric roots, looked up by name. -/
theorem lookup_roots (hset : Settled d.arguments)
    (hcs : cs.map (·.representative) = freeArguments d.arguments)
    (hc : c ∈ (table d).combinations) :
    (cs.filter (·.isNumeric)).map (fun k => (d.names.zip c.types).lookup k.representative.name) =
      (rootTypes d.arguments c.types).map some := by
  have hlen : d.names.length = c.types.length := by
    rw [Declaration.names, List.length_map, (forall₂_types hset hc).length_eq]
  have hall : d.arguments.map (fun a => (d.names.zip c.types).lookup a.name) = c.types.map some := by
    have hzip := lookup_zip hset.names_nodup hlen
    rwa [List.map_map] at hzip
  have hroots : (cs.filter (·.isNumeric)).map (·.representative.name) =
      (d.arguments.filter fun a => a.isFree && !a.isPassedThrough).map (·.name) := by
    have hnumeric : (cs.filter (·.isNumeric)).map (·.representative) =
        (freeArguments d.arguments).filter fun a => !a.isPassedThrough := by
      rw [← hcs, List.filter_map]
      rfl
    have hnames := congrArg (List.map (·.name)) hnumeric
    rw [List.map_map, freeArguments, List.filter_filter] at hnames
    simp only [Bool.and_comm] at hnames
    exact hnames
  rw [rootTypes, ← lookup_filter (fun a => a.isFree && !a.isPassedThrough) hall, ← hroots,
    List.map_map]
  rfl

end Expansion

namespace Emission

open Expansion

/-- The symbols that a native source defines, in the order of their definitions. -/
def Native.symbols (n : Native) : List String :=
  n.specializations.map (·.identifier) ++ [n.dispatcher.symbol, n.registration.symbol]

variable {d : Declaration}

theorem exists_native_symbols (hset : Settled d.arguments) :
    ∃ native, Native.of ⟨d, table d⟩ = .ok native ∧
      native.symbols = (table d).combinations.map (·.identifier.shown) ++
        ["npe_dispatch_" ++ d.name, "npe_register_" ++ d.name] := by
  unfold Native.of
  simp only [specializations_eq hset, dispatcher_eq hset, bind, Except.bind, pure, Except.pure,
    Except.ok.injEq, exists_eq_left', Native.symbols, List.map_map]
  rfl

/-- Different combinations of a table have different symbols. -/
theorem nodup_identifiers (hset : Settled d.arguments) :
    ((table d).combinations.map (·.identifier.shown)).Nodup := by
  obtain ⟨symbols, hnodup, hsymbols⟩ := exists_identifiers_table hset
  have hshown : (table d).combinations.map (·.identifier.shown) = symbols := by
    have hmap := congrArg (List.map Label.shown) hsymbols
    rw [DispatchTable.identifiers, List.map_map, List.map_map] at hmap
    rw [← List.map_id symbols]
    exact hmap
  rwa [hshown]

theorem nodup_symbols (hset : Settled d.arguments) :
    ((table d).combinations.map (·.identifier.shown) ++
      ["npe_dispatch_" ++ d.name, "npe_register_" ++ d.name]).Nodup := by
  refine List.nodup_append.2 ⟨nodup_identifiers hset, ?_, ?_⟩
  · simp
  · intro symbol hsymbol other hother heq
    subst heq
    obtain ⟨c, hc, rfl⟩ := List.mem_map.1 hsymbol
    obtain ⟨hdispatch, hregister⟩ := identifier_ne d.name
      ((rootTypes d.arguments c.types).map (·.fragment))
    rw [identifier_of_mem_table hset hc] at hother
    simp only [List.mem_cons, List.not_mem_nil, or_false] at hother
    rcases hother with heq | heq
    · exact hdispatch heq
    · exact hregister heq

/-- The symbols that the native source of a text defines are pairwise distinct. The symbol of a
combination is made from its types at the numeric roots of the classes only, and decides the
combination all the same. For no name of a function, and no fragments, is it the symbol of that
function's dispatcher or registration. -/
theorem native_symbols_distinct {text : String} {path : Option Path} {s : Scanned} {d : Declaration}
    {limit : Option Int} {t : DispatchTable} (hscan : scan text path = .ok s)
    (hres : s.declaration.resolve = .ok d) (hexp : d.expand limit = .ok t) :
    (∃ native, Native.of ⟨d, t⟩ = .ok native ∧ native.symbols.Nodup ∧
      native.symbols = t.combinations.map (·.identifier.shown) ++
        ["npe_dispatch_" ++ d.name, "npe_register_" ++ d.name]) ∧
    (∀ c ∈ t.combinations, ∀ c' ∈ t.combinations, c.identifier = c'.identifier → c = c') ∧
    (∃ cs, classes d = .ok cs ∧ ∀ c ∈ t.combinations, ∃ chosen : List ConcreteType,
      (cs.filter (·.isNumeric)).map (fun k => (d.names.zip c.types).lookup k.representative.name) =
        chosen.map some ∧
      c.identifier = .text (identifier d.name (chosen.map (·.fragment)))) ∧
    ∀ function fragments, identifier function fragments ≠ "npe_dispatch_" ++ function ∧
      identifier function fragments ≠ "npe_register_" ++ function := by
  have hset : Settled d.arguments :=
    settled_of_scan_resolve Registry.standard_isNumeric hscan hres
  obtain ⟨-, rfl⟩ := (expand_eq_ok_iff hset).1 hexp
  refine ⟨?_, ?_, ?_, identifier_ne⟩
  · obtain ⟨native, hnative, hsymbols⟩ := exists_native_symbols hset
    exact ⟨native, hnative, hsymbols ▸ nodup_symbols hset, hsymbols⟩
  · intro c hc c' hc' heq
    exact List.inj_on_of_nodup_map (nodup_identifiers hset) hc hc' (by rw [heq])
  · obtain ⟨cs, hclasses, hcs⟩ := exists_classes hset
    refine ⟨cs, hclasses, fun c hc => ⟨rootTypes d.arguments c.types, ?_, ?_⟩⟩
    · exact lookup_roots hset hcs hc
    · exact identifier_of_mem_table hset hc

/-- A name that begins as a dispatcher's symbol does and ends in the gap before the fragments. -/
theorem native_symbols_of_dispatch_name :
    ∃ s d t native, scan ("npe_function(dispatch_) npe_arg(a, dense_f32, csr_f32) " ++
        "npe_arg(k, int) npe_arg(b, dense_like(a)) npe_begin_code()") = .ok s ∧
      s.declaration.resolve = .ok d ∧ d.expand none = .ok t ∧ Native.of ⟨d, t⟩ = .ok native ∧
      native.symbols = ["npe_dispatch___dense_f32", "npe_dispatch___csr_f32",
        "npe_dispatch_dispatch_", "npe_register_dispatch_"] ∧ native.symbols.Nodup := by
  obtain ⟨s, d, hscan, hres, hvalue⟩ := exists_scan_resolve
    ("npe_function(dispatch_) npe_arg(a, dense_f32, csr_f32) " ++
      "npe_arg(k, int) npe_arg(b, dense_like(a)) npe_begin_code()")
    (fun d => (d.name, (d.expand none).toOption.map fun t => t.combinations.map (·.identifier.shown)))
    ("dispatch_", some ["npe_dispatch___dense_f32", "npe_dispatch___csr_f32"]) (by decide +kernel)
  rw [Prod.mk.injEq] at hvalue
  obtain ⟨hname, hidentifiers⟩ := hvalue
  cases hexp : d.expand none with
  | error e => simp [hexp, Except.toOption] at hidentifiers
  | ok t =>
    obtain ⟨⟨native, hnative, hnodup, hsymbols⟩, -⟩ := native_symbols_distinct hscan hres hexp
    refine ⟨s, d, t, native, hscan, hres, hexp, hnative, ?_, hnodup⟩
    rw [hsymbols, hname]
    simp only [hexp, Except.toOption, Option.map_some, Option.some.injEq] at hidentifiers
    rw [hidentifiers]
    rfl

end Emission

end Monomorph
