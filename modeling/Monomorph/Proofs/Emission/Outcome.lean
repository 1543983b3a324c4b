import Monomorph.Artifact
import Monomorph.Proofs.Emission.Symbols
import Monomorph.Proofs.MarkerCall.Shape
import Monomorph.Proofs.Resolution.Faults
import Monomorph.Proofs.Token.Literal

/-!
What becomes of a text. Either its author is told about a fault in the declaration, in a reference or
in the number of combinations, or everything is generated. Each stage relies on what the stages before
it have established, and nothing that a stage takes for granted fails on any text.
-/

namespace Monomorph

open Emission Expansion

/-- What becomes of a text: a fault of a kind that is reported, or everything that is generated. -/
inductive Ending (text : String) (path : Option Path) (limit : Option Int) (config : Config) : Prop
  /-- The text is no annotated source. -/
  | unscanned (e : DeclarationError) (scanned : scan text path = .error e)
  /-- The types of an argument are declared wrongly. -/
  | undeclared (s : Scanned) (e : DeclarationError) (scanned : scan text path = .ok s)
      (resolved : s.declaration.resolve = .error (.declaration e))
  /-- A constraint refers to a wrong argument. -/
  | unreferenced (s : Scanned) (e : ReferenceError) (scanned : scan text path = .ok s)
      (resolved : s.declaration.resolve = .error (.reference e))
  /-- There are more combinations than the limit allows. -/
  | tooMany (s : Scanned) (d : Declaration) (n : Int) (total : Nat) (sizes : List (String × Nat))
      (scanned : scan text path = .ok s) (resolved : s.declaration.resolve = .ok d)
      (given : limit = some n) (exceeded : n < total)
      (expanded : d.expand limit = .error (.tooMany d.name total sizes n))
  /-- Every artifact is generated. -/
  | generated (s : Scanned) (d : Declaration) (t : DispatchTable) (native : Native) (stub : Stub)
      (files : List Artifact) (scanned : scan text path = .ok s)
      (resolved : s.declaration.resolve = .ok d) (expanded : d.expand limit = .ok t)
      (emitted : Native.of ⟨d, t⟩ = .ok native) (stubbed : Stub.of ⟨d, t⟩ = .ok stub)
      (rendered : Artifact.all config ⟨d, t⟩ = .ok files)

/-- All artifacts of a settled declaration are generated, whichever are asked for. -/
theorem Artifact.exists_all {d : Declaration} (hset : Settled d.arguments) (config : Config) :
    ∃ files, Artifact.all config ⟨d, table d⟩ = .ok files := by
  obtain ⟨native, hnative, -⟩ := exists_native hset
  obtain ⟨stub, hstub, -⟩ := stub_docLines hset
  have hstubs : ∃ file, Artifact.stub config ⟨d, table d⟩ = .ok file := by
    simp only [Artifact.stub, hstub, bind, Except.bind, pure, Except.pure, Except.ok.injEq,
      exists_eq']
  obtain ⟨file, hfile⟩ := hstubs
  unfold Artifact.all Artifact.native
  cases config.emitStubs.isTrue with
  | true =>
    simp only [hnative, hfile, bind, Except.bind, pure, Except.pure, if_true,
      Except.ok.injEq, exists_eq']
  | false =>
    simp only [hnative, bind, Except.bind, pure, Except.pure, Bool.false_eq_true, if_false,
      Except.ok.injEq, exists_eq']

theorem ending_of_text (text : String) (path : Option Path) (limit : Option Int) (config : Config) :
    Ending text path limit config := by
  cases hscan : scan text path with
  | error e => exact .unscanned e hscan
  | ok s =>
    cases hres : s.declaration.resolve with
    | error e =>
      rcases isReported_of_resolve Registry.standard_isNumeric hres with ⟨e, rfl⟩ | ⟨e, rfl⟩
      · exact .undeclared s e hscan hres
      · exact .unreferenced s e hscan hres
    | ok d =>
      have hset := settled_of_scan_resolve Registry.standard_isNumeric hscan hres
      cases hexp : d.expand limit with
      | error e =>
        obtain ⟨n, sizes, hlimit, hexceeded, rfl⟩ := exists_of_expand_eq_error hset hexp
        exact .tooMany s d n _ sizes hscan hres hlimit hexceeded hexp
      | ok t =>
        obtain ⟨-, rfl⟩ := (expand_eq_ok_iff hset).1 hexp
        obtain ⟨native, hnative, -⟩ := exists_native hset
        obtain ⟨stub, hstub, -⟩ := stub_docLines hset
        obtain ⟨files, hfiles⟩ := Artifact.exists_all hset config
        exact .generated s d _ native stub files hscan hres hexp hnative hstub hfiles

/-- No item of a call that is read is empty. -/
theorem ne_nil_of_read {marker : Token} {ts rest : List Token} {call : MarkerCall}
    (h : MarkerCall.read marker ts = .ok (call, rest)) : ∀ item ∈ call.items, item ≠ [] := by
  obtain ⟨-, -, -, -, -, -, -, -, hitems⟩ := MarkerCall.read_eq_ok_iff.1 h
  exact hitems

/-- No text makes any stage fail internally: scanning, resolution, expansion and emission end with a
reported fault or with everything that is generated. Nor does a stage ever fall back on what it does
where something it takes for granted is missing. A call that is read has no empty item, whatever the
tokens are. A literal token of the text holds the marks that decoding looks for. In a resolved
declaration every argument has types, every constraint refers to a name that can be linked, and every
root is the name of an argument. -/
theorem outcome_of_text (text : String) (path : Option Path) (limit : Option Int)
    (config : Config) :
    Ending text path limit config ∧
    (∀ marker ts call rest, MarkerCall.read marker ts = .ok (call, rest) →
      ∀ item ∈ call.items, item ≠ []) ∧
    (∀ t ∈ Lexer.tokens text.toList, t.isString = true →
      (StringLiteral.decodeToken? t).isSome = true ∧ (t.kind = .rawString →
        ∃ n, Text.through? ['R', '"'] t.text.toList = some n ∧ '(' ∈ t.text.toList.drop n)) ∧
    ∀ s d, scan text path = .ok s → s.declaration.resolve = .ok d →
      d.isResolved = true ∧ (∀ a ∈ d.arguments, a.typeList ≠ []) ∧
      ∃ f, link (Forest.singletons d.names) d.arguments = .ok f ∧
        ∀ g ∈ f.groups, (d.argument? g.1).isSome = true := by
  refine ⟨ending_of_text text path limit config, fun _ _ _ _ h => ne_nil_of_read h, ?_, ?_⟩
  · intro t ht hstring
    exact ⟨StringLiteral.isSome_decodeToken? ht hstring,
      fun hraw => Lexer.exists_mem_drop_of_mem_tokens ht hraw⟩
  · intro s d hscan hres
    have hset := settled_of_scan_resolve Registry.standard_isNumeric hscan hres
    obtain ⟨f, hlink, hnames, -⟩ := exists_link_singletons hset
    refine ⟨isResolved_of_settled hset, fun a ha => ?_, f, hlink, fun g hg => ?_⟩
    · obtain ⟨_, hfollows⟩ := hset.of_mem ha
      exact hfollows.typed.nonempty
    · exact isSome_argument?_of_mem_groups hset hnames hg

end Monomorph
