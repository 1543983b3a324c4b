import Monomorph.Proofs.Emission.Branch
import Monomorph.Proofs.Emission.Substitution

/-!
Names that are introduced next to the declared ones. Every one of them starts with a word of its own and
goes on with a name of the declaration, and nothing checks whether an argument has such a name. So a
dispatcher declares two things under one name exactly if an argument is named like the tag variable of
a dispatched argument, and a body loses a reference to a parameter only if the parameter is named like
an alias.
-/

namespace Monomorph.Emission

open Expansion Lexer Position

variable {d : Declaration} {t : DispatchTable} {c : Combination} {disp : Dispatcher}

/-! ### The dispatcher -/

theorem names_parametersOf (d : Declaration) :
    (Dispatcher.parametersOf d).map (·.name) = d.names := by
  rw [Dispatcher.parametersOf, List.map_map]
  refine List.map_congr_left fun a _ => ?_
  dsimp only [Function.comp]
  split <;> rfl

theorem tagVariable_injective : Function.Injective tagVariable :=
  fun _ _ h => (String.append_right_inj _).1 h

/-- Everything that a dispatcher declares has a name of its own exactly if no argument is named like a
tag variable. -/
theorem nodup_locals_iff (hset : Settled d.arguments) :
    (d.names ++ (dispatchedNames d).map tagVariable).Nodup ↔
      ∀ a ∈ d.arguments, a.isPassedThrough = false → tagVariable a.name ∉ d.names := by
  have hdispatched : (dispatchedNames d).Nodup := by
    rw [dispatchedNames_eq_map hset]
    exact hset.names_nodup.sublist (List.filter_sublist.map _)
  rw [List.nodup_append]
  constructor
  · rintro ⟨-, -, hdisjoint⟩ a ha hnum hmem
    obtain ⟨i, hi⟩ := List.mem_iff_getElem?.1 ha
    exact hdisjoint _ hmem _ (List.mem_map_of_mem (mem_dispatchedNames hset hi hnum)) rfl
  · refine fun h => ⟨hset.names_nodup, hdispatched.map tagVariable_injective, ?_⟩
    rintro n hn _ hvariable rfl
    obtain ⟨m, hm, rfl⟩ := List.mem_map.1 hvariable
    rw [dispatchedNames_eq_map hset] at hm
    obtain ⟨a, ha, rfl⟩ := List.mem_map.1 hm
    obtain ⟨ha, hnum⟩ := List.mem_filter.1 ha
    exact h a ha (by simpa using hnum) hn

/-! ### Specialisations -/

theorem length_names_of_mem_table (hset : Settled d.arguments) (hc : c ∈ (table d).combinations) :
    c.names.length = c.types.length := by
  rw [names_of_mem_table hc, ← (forall₂_types hset hc).length_eq, List.length_map, Declaration.names,
    List.length_map]

theorem names_specialization (hset : Settled d.arguments) (hc : c ∈ (table d).combinations) :
    (Specialization.parametersOf c).map (·.name) = d.names := by
  have hfst : (c.names.zip c.types).map (fun a => a.1.shown) = c.names.map Label.shown := by
    conv_rhs => rw [← List.map_fst_zip (length_names_of_mem_table hset hc).le, List.map_map]
    rfl
  rw [Specialization.parametersOf, List.map_map]
  refine hfst.trans ?_
  rw [names_of_mem_table hc, List.map_map]
  exact List.map_id _

/-- The aliases of a combination are those of its arguments. -/
theorem mem_map_aliases (hset : Settled d.arguments) (hc : c ∈ (table d).combinations) {n : String} :
    n ∈ (aliases c).map (·.1) ↔ ∃ m ∈ d.names, n ∈ aliasNames (.text m) := by
  have hpairs : (c.names.zip c.types).flatMap (fun a => aliasNames a.1) =
      d.names.flatMap fun m => aliasNames (.text m) := by
    have hfst := congrArg (List.flatMap aliasNames)
      (List.map_fst_zip (length_names_of_mem_table hset hc).le)
    rw [List.flatMap_map] at hfst
    rw [hfst, names_of_mem_table hc, List.flatMap_map]
  rw [aliases, Record.mem_map_ofPairs, List.map_flatMap, ← List.mem_flatMap, ← hpairs]
  rfl

/-- No parameter is named like an alias exactly if no argument is named like the alias of one. -/
theorem parameters_iff_aliases (hset : Settled d.arguments) (hc : c ∈ (table d).combinations) :
    (∀ p ∈ Specialization.parametersOf c, p.name ∉ (aliases c).map (·.1)) ↔
      ∀ m ∈ d.names, ∀ n ∈ aliasNames (.text m), n ∉ d.names := by
  have hforall : (∀ p ∈ Specialization.parametersOf c, p.name ∉ (aliases c).map (·.1)) ↔
      ∀ n ∈ d.names, n ∉ (aliases c).map (·.1) := by
    rw [← names_specialization hset hc, List.forall_mem_map]
  rw [hforall]
  simp only [mem_map_aliases hset hc, not_exists, not_and]
  exact ⟨fun h m hm n hn hmem => h n hmem m hm hn, fun h n hmem m hm hn => h m hm n hn hmem⟩

/-- An identifier is kept unless it is an alias. -/
theorem substitutePiece_of_not_mem {as : List (String × String)} {w : List Char}
    (h : String.ofList w ∉ as.map (·.1)) : substitutePiece as (.token .ident, w) = w := by
  rw [substitutePiece, Record.lookup_eq_none_iff.2 h]

/-! ### Both -/

/-- No argument is named like something that is introduced next to the arguments. -/
structure IsUnambiguous (d : Declaration) (t : DispatchTable) : Prop where
  tags : ∀ a ∈ d.arguments, a.isPassedThrough = false → tagVariable a.name ∉ d.names
  symbols : ∀ c ∈ t.combinations, c.identifier.shown ∉ d.names
  aliases : ∀ m ∈ d.names, ∀ n ∈ aliasNames (.text m), n ∉ d.names

/-- What a function declares and calls is told apart: in its dispatcher the parameters and the tag
variables, and the parameters and the specialisations, and in a specialisation the parameters and the
aliases. -/
structure IsUncaptured (t : DispatchTable) (disp : Dispatcher) : Prop where
  locals : (disp.parameters.map (·.name) ++ disp.dispatched.map tagVariable).Nodup
  calls : ∀ e ∈ disp.entries, e.identifier ∉ disp.parameters.map (·.name)
  references : ∀ c ∈ t.combinations, ∀ p ∈ Specialization.parametersOf c,
    p.name ∉ (aliases c).map (·.1)

theorem isUncaptured_table_iff (hset : Settled d.arguments) :
    IsUncaptured (table d) (dispatcher d) ↔ IsUnambiguous d (table d) := by
  have hlocals := nodup_locals_iff hset
  have hcalls : (∀ e ∈ (dispatcher d).entries, e.identifier ∉ d.names) ↔
      ∀ c ∈ (table d).combinations, c.identifier.shown ∉ d.names := List.forall_mem_map
  constructor
  · rintro ⟨hnodup, hfree, hkept⟩
    rw [dispatcher, names_parametersOf] at hnodup hfree
    -- a table has a combination, in which the aliases can be looked at
    obtain ⟨c, hc⟩ := List.exists_mem_of_ne_nil _ (combinations_ne_nil hset)
    exact ⟨hlocals.1 hnodup, hcalls.1 hfree, (parameters_iff_aliases hset hc).1 (hkept c hc)⟩
  · rintro ⟨htags, hsymbols, haliases⟩
    refine ⟨?_, ?_, fun c hc => (parameters_iff_aliases hset hc).2 haliases⟩
    · rw [dispatcher, names_parametersOf]
      exact hlocals.2 htags
    · rw [dispatcher, names_parametersOf]
      exact hcalls.2 hsymbols

/-- Everything that is introduced starts with the same word. -/
theorem isUnambiguous_of_symbolStart (h : ∀ n ∈ d.names, ¬ symbolStart.toList <+: n.toList) :
    IsUnambiguous d (table d) where
  tags a _ _ hmem := h _ hmem (by
    rw [tagVariable, String.toList_append]
    exact List.IsPrefix.trans (by decide) (List.prefix_append _ _))
  symbols c hc hmem := by
    obtain ⟨i, choice, -, rfl⟩ := mem_table.1 hc
    refine h _ hmem ?_
    dsimp only [row, Label.shown]
    unfold identifier
    split <;> simp [String.toList_append]
  aliases m _ n hn hmem := by
    obtain ⟨start, hstart, rfl⟩ := List.mem_map.1 hn
    have hstarts : ∀ start ∈ aliasStarts, symbolStart.toList <+: start.toList := by decide
    refine h _ hmem ?_
    rw [String.toList_append]
    exact (hstarts start hstart).trans (List.prefix_append _ _)

/-- The names of a scanned, resolved and expanded function. In its dispatcher all parameters and tag
variables have different names and no parameter hides a specialisation, and in its specialisations no
parameter has the name of an alias, exactly if no argument is named like the tag variable of a dispatched
argument, like one of the specialisations, or like an alias of an argument. Then substitution keeps every
reference to a parameter. No argument is named so if none starts with the word that starts all generated
names. -/
theorem isUncaptured_iff {text : String} {path : Option Path} {s : Scanned} {registry : Registry}
    {limit : Option Int} (hreg : registry.IsNumeric) (hscan : scan text path = .ok s)
    (hres : s.declaration.resolve registry = .ok d) (hexp : d.expand limit = .ok t) :
    ∃ disp, Dispatcher.of ⟨d, t⟩ = .ok disp ∧
      (IsUncaptured t disp ↔ IsUnambiguous d t) ∧
      (IsUnambiguous d t → ∀ c ∈ t.combinations, ∀ piece ∈ pieces d.body.toList,
        piece.1 = .token .ident →
        String.ofList piece.2 ∈ (Specialization.parametersOf c).map (·.name) →
        substitutePiece (aliases c) piece = piece.2) ∧
      ((∀ n ∈ d.names, ¬ symbolStart.toList <+: n.toList) → IsUnambiguous d t) := by
  have hset := settled_of_scan_resolve hreg hscan hres
  obtain ⟨-, rfl⟩ := (expand_eq_ok_iff hset).1 hexp
  refine ⟨_, dispatcher_eq hset, isUncaptured_table_iff hset, ?_, isUnambiguous_of_symbolStart⟩
  rintro h c hc ⟨_, w⟩ - rfl hparameter
  obtain ⟨p, hp, hname⟩ := List.mem_map.1 hparameter
  refine substitutePiece_of_not_mem ?_
  rw [← hname]
  exact (parameters_iff_aliases hset hc).2 h.aliases p hp

/-- An argument with the word of the generated names in it, though not in front. -/
theorem isUncaptured_of_inner_word :
    ∃ s d t disp, scan ("npe_function(f) npe_arg(x, dense_f32, csr_f32) npe_arg(my_npe_tag_x, int) " ++
        "npe_begin_code() return npe_Matrix_x(x * my_npe_tag_x); npe_end_code()") = .ok s ∧
      s.declaration.resolve = .ok d ∧ d.expand none = .ok t ∧ Dispatcher.of ⟨d, t⟩ = .ok disp ∧
      d.names = ["x", "my_npe_tag_x"] ∧ disp.dispatched.map tagVariable = ["npe_tag_x"] ∧
      IsUncaptured t disp := by
  obtain ⟨s, d, hscan, hres, hvalue⟩ := exists_scan_resolve
    ("npe_function(f) npe_arg(x, dense_f32, csr_f32) npe_arg(my_npe_tag_x, int) " ++
      "npe_begin_code() return npe_Matrix_x(x * my_npe_tag_x); npe_end_code()")
    (fun d => (d.names, (dispatchedNames d).map tagVariable))
    (["x", "my_npe_tag_x"], ["npe_tag_x"]) (by decide +kernel)
  obtain ⟨hnames, htags⟩ := Prod.mk.inj hvalue
  have hset := settled_of_scan_resolve Registry.standard_isNumeric hscan hres
  have hexp : d.expand none = .ok (table d) := (expand_eq_ok_iff hset).2 ⟨by simp, rfl⟩
  obtain ⟨disp, hdisp, hiff, -, hplain⟩ :=
    isUncaptured_iff Registry.standard_isNumeric hscan hres hexp
  obtain rfl : dispatcher d = disp := Except.ok.inj ((dispatcher_eq hset).symm.trans hdisp)
  refine ⟨s, d, _, _, hscan, hres, hexp, hdisp, hnames, htags, hiff.2 (hplain ?_)⟩
  rw [hnames]
  decide

/-- An argument that is named like the tag variable of the argument in front of it, and one like an
alias of it. The dispatcher declares the tag variable a second time, and a body that refers to the
other parameter refers to a type instead. -/
theorem captured_of_generated_names :
    ∃ s d t disp, scan ("npe_function(f) npe_arg(x, dense_float) npe_arg(npe_tag_x, int) " ++
        "npe_arg(npe_Scalar_x, int) npe_begin_code() return npe_Scalar_x; npe_end_code()") = .ok s ∧
      s.declaration.resolve = .ok d ∧ d.expand none = .ok t ∧ Dispatcher.of ⟨d, t⟩ = .ok disp ∧
      disp.parameters.map (·.name) = ["x", "npe_tag_x", "npe_Scalar_x"] ∧
      disp.dispatched.map tagVariable = ["npe_tag_x"] ∧
      t.combinations.map (fun c => ((Specialization.parametersOf c).map (·.name),
        (Specialization.of ⟨d, t⟩ c).body)) =
        [(["x", "npe_tag_x", "npe_Scalar_x"], " return float; ")] ∧
      ¬ IsUncaptured t disp := by
  obtain ⟨s, d, hscan, hres, hvalue⟩ := exists_scan_resolve
    ("npe_function(f) npe_arg(x, dense_float) npe_arg(npe_tag_x, int) " ++
      "npe_arg(npe_Scalar_x, int) npe_begin_code() return npe_Scalar_x; npe_end_code()")
    (fun d => ((dispatcher d).parameters.map (·.name), (dispatcher d).dispatched.map tagVariable,
      (table d).combinations.map fun c => ((Specialization.parametersOf c).map (·.name),
        (Specialization.of ⟨d, table d⟩ c).body)))
    (["x", "npe_tag_x", "npe_Scalar_x"], ["npe_tag_x"],
      [(["x", "npe_tag_x", "npe_Scalar_x"], " return float; ")]) (by decide +kernel)
  rw [Prod.mk.injEq, Prod.mk.injEq] at hvalue
  obtain ⟨hparameters, hlocals, hbodies⟩ := hvalue
  have hset := settled_of_scan_resolve Registry.standard_isNumeric hscan hres
  refine ⟨s, d, _, _, hscan, hres, (expand_eq_ok_iff hset).2 ⟨by simp, rfl⟩, dispatcher_eq hset,
    hparameters, hlocals, hbodies, fun h => ?_⟩
  have hnodup := h.locals
  rw [hparameters, hlocals] at hnodup
  exact absurd hnodup (by decide)

end Monomorph.Emission
