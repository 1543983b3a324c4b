import Monomorph.Emission.Registration
import Monomorph.Emission.Stub
import Monomorph.Proofs.Emission.Accepted
import Monomorph.Proofs.Scan.Recorded
import Monomorph.Proofs.Scan.Slices

/-!
What later stages rely on in a scanned declaration. Names can be bound, every argument says in one way
what its types are, and arguments with a default come last; each declaring call keeps this. Types and
defaults are words joined by single spaces. The body was cut out between two calls, and cut into tokens
by itself it has the tokens that were read there, so no marker is among them.
-/

namespace Monomorph

namespace Text

/-- A text that is not empty, has no blank at either end, and no blanks but single spaces inside. -/
structure IsTight (s : List Char) : Prop where
  ne_nil : s ≠ []
  head : ∀ c ∈ s.head?, isBlank c = false
  last : ∀ c ∈ s.getLast?, isBlank c = false
  spaces : ∀ c ∈ s, isBlank c = true → c = ' '
  single : ¬ [' ', ' '] <:+: s

variable {s : List Char}

theorem eq_space_of_mem_tighten : ∀ c ∈ tighten s, isBlank c = true → c = ' ' := by
  induction s with
  | nil => simp
  | cons c s ih =>
    rw [tighten]
    split
    · split
      · exact ih
      · exact List.forall_mem_cons.2 ⟨fun _ => rfl, ih⟩
    · next hc => exact List.forall_mem_cons.2 ⟨fun hblank => absurd hblank hc, ih⟩

theorem not_isInfix_tighten : ¬ [' ', ' '] <:+: tighten s := by
  induction s with
  | nil => simp
  | cons c s ih =>
    rw [tighten]
    split
    · split
      · exact ih
      · next hnext =>
        -- what follows the run of blanks is no space
        rw [List.infix_cons_iff, List.cons_prefix_cons]
        rintro (⟨-, hhead⟩ | hstretch)
        · obtain ⟨r, hr⟩ := hhead
          have hhead := head?_tighten s
          rw [← hr] at hhead
          cases s with
          | nil => simp at hhead
          | cons d s =>
            have hd : isBlank d = false := by simpa using hnext
            obtain rfl : ' ' = d := by simpa [hd] using hhead
            simp [isBlank_space] at hd
        · exact ih hstretch
    · next hc =>
      rw [List.infix_cons_iff, List.cons_prefix_cons]
      rintro (⟨rfl, -⟩ | hstretch)
      · exact hc isBlank_space
      · exact ih hstretch

theorem not_isBlank_getLast?_tighten (h : ∀ c ∈ s.getLast?, isBlank c = false) :
    ∀ c ∈ (tighten s).getLast?, isBlank c = false := by
  induction s with
  | nil => simp
  | cons c s ih =>
    rcases eq_or_ne s [] with rfl | hne
    · have hc : isBlank c = false := h c (by simp)
      rwa [tighten_solid hc]
    · have hlast : ∀ x, (x :: tighten s).getLast? = (tighten s).getLast? := fun x =>
        List.getLast?_cons_of_ne_nil (mt tighten_eq_nil.1 hne)
      have hrest := ih (by rwa [List.getLast?_cons_of_ne_nil hne] at h)
      rw [tighten]
      split
      · split
        · exact hrest
        · rwa [hlast]
      · rwa [hlast]

/-- Tightening a text without blanks at its ends makes it tight. -/
theorem isTight_tighten (hne : s ≠ []) (hhead : ∀ c ∈ s.head?, isBlank c = false)
    (hlast : ∀ c ∈ s.getLast?, isBlank c = false) : IsTight (tighten s) where
  ne_nil := mt tighten_eq_nil.1 hne
  head := by
    cases s with
    | nil => simp
    | cons c s =>
      have hc : isBlank c = false := hhead c (by simp)
      simp [tighten_solid hc, hc]
  last := not_isBlank_getLast?_tighten hlast
  spaces := eq_space_of_mem_tighten
  single := not_isInfix_tighten

end Text

/-- What later stages rely on in one argument: a name that can be bound, types that are either listed
or derived, and tight texts. -/
structure Argument.IsSound (a : Argument) : Prop where
  name : Text.isBindingName a.name = true
  types : a.tokens ≠ [] ↔ a.constraint? = none
  tight : ∀ text ∈ a.tokens ++ a.default.toList, Text.IsTight text.toList

/-- Arguments without a default, and arguments with one behind them. -/
structure DefaultsLast (required optional : List Argument) : Prop where
  required : ∀ a ∈ required, a.default = none
  optional : ∀ a ∈ optional, a.default.isSome = true

/-- What later stages rely on in a declaration. -/
structure Declaration.WellFormed (d : Declaration) : Prop where
  function : Text.isBindingName d.name = true
  arguments : ∀ a ∈ d.arguments, a.IsSound
  distinct : d.names.Nodup
  positions : d.arguments.map (·.position) = List.range d.arguments.length
  defaults : ∃ required optional, d.arguments = required ++ optional ∧ DefaultsLast required optional
  body : ∀ t ∈ Lexer.allTokens d.body.toList, Marker.ofToken? t = none

namespace Scan

open Lexer Text

variable {source : List Char} {d d' : Draft} {m : Marker} {call : MarkerCall} {ts item : List Token}
  {r : Draft × Nat × List Token}

/-! ### Arguments -/

/-- What is recorded of an item is tight. -/
theorem isTight_span (hitem : item <:+: tokens source) (hne : item ≠ []) :
    IsTight (span source item).toList := by
  obtain ⟨hvisible, -, hhead, hlast⟩ := visible_spanned hitem hne
  have hspanned : spanned source item ≠ [] := by
    intro hnil
    rw [hnil, lexemes_nil] at hvisible
    exact hne (List.map_eq_nil_iff.1 hvisible.symm)
  rw [span_eq hne, squeeze_ofList hhead hlast, String.toList_ofList]
  exact isTight_tighten hspanned hhead hlast

/-- Every argument of the draft is sound, and no argument has a default before the first one is
remembered. -/
structure Draft.Sound (d : Draft) : Prop where
  arguments : ∀ a ∈ d.arguments, a.IsSound
  defaults : ∃ required optional, d.arguments = required ++ optional ∧
    DefaultsLast required optional ∧ (d.hasDefault = false → optional = [])

theorem Draft.Sound.keepGap (hd : d.Sound) (n : Nat) : (d.keepGap source n).Sound := by
  obtain ⟨p, hp⟩ := d.keepGap_eq source n
  rw [hp]
  exact ⟨hd.arguments, hd.defaults⟩

theorem Draft.isSound_typed {nameItem first : List Token} {more : List (List Token)} {name : String}
    {declared : TypeSource} (hitems : ∀ item ∈ call.items, item <:+: tokens source ∧ item ≠ [])
    (heq : call.items = nameItem :: first :: more)
    (hname : readName source call "argument name" nameItem = .ok name)
    (htypes : readTypes source name more.isEmpty (first :: more) = .ok declared) :
    (d.typed call name declared).IsSound := by
  obtain ⟨t, rfl, -, hbound, rfl⟩ := readName_eq_ok_iff.1 hname
  rw [heq] at hitems
  rcases readTypes_ok_cases htypes with rfl | ⟨c, rfl⟩
  · refine ⟨hbound, by simp [Draft.typed, Argument.tokens, Argument.constraint?], ?_⟩
    intro text htext
    have hmem : text ∈ (first :: more).map (span source) := by
      simpa only [Draft.typed, Argument.tokens, Option.toList_none, List.append_nil] using htext
    obtain ⟨item, hitem, rfl⟩ := List.mem_map.1 hmem
    obtain ⟨hstretch, hne⟩ := hitems item (List.mem_cons_of_mem _ hitem)
    exact isTight_span hstretch hne
  · exact ⟨hbound, by simp [Draft.typed, Argument.tokens, Argument.constraint?],
      by simp [Draft.typed, Argument.tokens]⟩

theorem Draft.isSound_defaulted {nameItem type value : List Token} {name : String}
    (hitems : ∀ item ∈ call.items, item <:+: tokens source ∧ item ≠ [])
    (heq : call.items = [nameItem, type, value])
    (hname : readName source call "argument name" nameItem = .ok name) :
    (d.defaulted source call name type value).IsSound := by
  obtain ⟨t, rfl, -, hbound, rfl⟩ := readName_eq_ok_iff.1 hname
  have htight : ∀ item ∈ call.items, IsTight (span source item).toList := fun item hitem =>
    isTight_span (hitems item hitem).1 (hitems item hitem).2
  refine ⟨hbound, by simp [Draft.defaulted, Argument.tokens, Argument.constraint?], ?_⟩
  simp only [Draft.defaulted, Argument.tokens, Option.toList_some, List.singleton_append,
    List.forall_mem_cons]
  exact ⟨htight type (by simp [heq]), htight value (by simp [heq]), by simp⟩

theorem Draft.Sound.declares (hd : d.Sound)
    (hitems : ∀ item ∈ call.items, item <:+: tokens source ∧ item ≠ [])
    (h : d.Declares source m call d') : d'.Sound := by
  obtain ⟨required, optional, hsplit, hlast, hnone⟩ := hd.defaults
  cases h with
  | argument h =>
    obtain ⟨hdefault, _, _, _, name, declared, heq, hname, htypes, -, rfl⟩ :=
      Draft.argument_eq_ok_iff.1 h
    obtain rfl := hnone hdefault
    refine ⟨List.forall_mem_append.2 ⟨hd.arguments, List.forall_mem_singleton.2
      (isSound_typed hitems heq hname htypes)⟩, required ++ [d.typed call name declared], [],
      by simp [hsplit], ⟨?_, by simp⟩, fun _ => rfl⟩
    exact List.forall_mem_append.2 ⟨hlast.required, List.forall_mem_singleton.2 rfl⟩
  | defaultArgument h =>
    obtain ⟨_, type, value, name, heq, hname, -, rfl⟩ := Draft.defaultArgument_eq_ok_iff.1 h
    refine ⟨List.forall_mem_append.2 ⟨hd.arguments, List.forall_mem_singleton.2
      (isSound_defaulted hitems heq hname)⟩, required,
      optional ++ [d.defaulted source call name type value], by simp [hsplit],
      ⟨hlast.required, ?_⟩, by simp⟩
    exact List.forall_mem_append.2 ⟨hlast.optional, List.forall_mem_singleton.2 rfl⟩
  | doc h =>
    obtain ⟨-, _, -, -, rfl⟩ := Draft.document_eq_ok_iff.1 h
    exact ⟨hd.arguments, hd.defaults⟩

/-- The items of the calls of a run are stretches of the tokens of the text. -/
theorem Draft.Sound.run (hrun : DeclarationRun source d ts r) (hts : ts <:+ tokens source)
    (hd : d.Sound) : r.1.Sound := by
  induction hrun with
  | host _ _ ih => exact ih ((List.suffix_cons _ _).trans hts) hd
  | @declare d d' t after rest m call r _ read step _ ih =>
    have hshape := (MarkerCall.read_eq_ok_iff.1 read).2
    have hafter : after <:+ tokens source := (List.suffix_cons t after).trans hts
    obtain ⟨hstretch, hsuffix⟩ := hshape.isInfix
    have hnext := (hd.keepGap t.start).declares (fun item hitem =>
      ⟨(hstretch item hitem).trans hafter.isInfix, hshape.ne_nil item hitem⟩) step
    exact ih (hsuffix.trans hafter) ⟨hnext.arguments, hnext.defaults⟩
  | begin => exact hd.keepGap _

end Scan

/-! ### Resolution -/

/-- The argument as it was before resolution. -/
def Argument.unresolved (a : Argument) : Argument := { a with types := none }

/-- Resolution fills in the types of the arguments, and nothing else. -/
theorem Resolution.unresolved_of_arguments {registry : Registry} {declared : List String}
    {resolved args out : List Argument} (h : arguments registry declared resolved args = .ok out) :
    out.map Argument.unresolved = (resolved ++ args).map Argument.unresolved := by
  induction args generalizing resolved with
  | nil =>
    rw [arguments] at h
    cases h
    rw [List.append_nil]
  | cons a rest ih =>
    rw [arguments] at h
    split at h
    · cases h
    · rw [ih h]
      simp [Argument.unresolved]

variable {args args' : List Argument} {d d' : Declaration} {registry : Registry}

theorem forall_of_unresolved {P : Argument → Prop} (hP : ∀ a : Argument, P a.unresolved ↔ P a)
    (hsame : args'.map Argument.unresolved = args.map Argument.unresolved)
    (hall : ∀ a ∈ args, P a) : ∀ a ∈ args', P a := by
  intro a ha
  have hmem : a.unresolved ∈ args.map Argument.unresolved := hsame ▸ List.mem_map_of_mem ha
  obtain ⟨b, hb, heq⟩ := List.mem_map.1 hmem
  exact (hP a).1 (heq ▸ (hP b).2 (hall b hb))

theorem map_of_unresolved {β : Type} {f : Argument → β} (hf : ∀ a : Argument, f a.unresolved = f a)
    (hsame : args'.map Argument.unresolved = args.map Argument.unresolved) :
    args'.map f = args.map f := by
  have hcomp : f ∘ Argument.unresolved = f := funext hf
  have hmap := congrArg (List.map f) hsame
  rwa [List.map_map, List.map_map, hcomp] at hmap

namespace Declaration

theorem exists_unresolved_of_resolve (h : d.resolve registry = .ok d') :
    ∃ args, d' = { d with arguments := args } ∧
      args.map Argument.unresolved = d.arguments.map Argument.unresolved := by
  unfold resolve at h
  cases hargs : Resolution.arguments registry d.names [] d.arguments with
  | error e => simp [hargs, Except.map] at h
  | ok args =>
    simp only [hargs, Except.map, Except.ok.injEq] at h
    exact ⟨args, h.symm, Resolution.unresolved_of_arguments hargs⟩

/-- Resolution keeps what later stages rely on. -/
theorem WellFormed.resolve (hd : d.WellFormed) (h : d.resolve registry = .ok d') : d'.WellFormed := by
  obtain ⟨args, rfl, hsame⟩ := exists_unresolved_of_resolve h
  refine ⟨hd.function, ?_, ?_, ?_, ?_, hd.body⟩
  · exact forall_of_unresolved (fun a => ⟨fun ⟨hname, htypes, htight⟩ => ⟨hname, htypes, htight⟩,
      fun ⟨hname, htypes, htight⟩ => ⟨hname, htypes, htight⟩⟩) hsame hd.arguments
  · have hnames := map_of_unresolved (f := (·.name)) (fun _ => rfl) hsame
    rw [names, hnames]
    exact hd.distinct
  · have hlength := congrArg List.length hsame
    rw [List.length_map, List.length_map] at hlength
    rw [map_of_unresolved (f := (·.position)) (fun _ => rfl) hsame, hlength]
    exact hd.positions
  · obtain ⟨required, optional, hsplit, hlast⟩ := hd.defaults
    rw [hsplit, List.map_append] at hsame
    obtain ⟨required', optional', rfl, hrequired, hoptional⟩ := List.map_eq_append_iff.1 hsame
    exact ⟨required', optional', rfl, forall_of_unresolved (fun _ => Iff.rfl) hrequired hlast.required,
      forall_of_unresolved (fun _ => Iff.rfl) hoptional hlast.optional⟩

end Declaration

/-- A stub that is made has a parameter for every argument. -/
theorem Emission.Stub.parameters_of {f : ExpandedFunction} {stub : Emission.Stub}
    (h : Emission.Stub.of f = .ok stub) :
    stub.parameters = f.declaration.arguments.map Emission.Stub.parameterText := by
  unfold Emission.Stub.of at h
  cases hlines : Emission.Stub.combinationLines f.table with
  | error e => simp [hlines, bind, Except.bind] at h
  | ok lines =>
    simp only [hlines, bind, Except.bind, pure, Except.pure, Except.ok.injEq] at h
    rw [← h]

open Emission in
/-- What is emitted for the parameters: the ones without a default come first. -/
theorem DefaultsLast.emitted {required optional : List Argument}
    (h : DefaultsLast required optional) :
    (required ++ optional).map Stub.parameterText =
      required.map (fun a => a.name ++ ": " ++ Stub.typeText a) ++
        optional.map (fun a => a.name ++ ": " ++ Stub.typeText a ++ " = ...") ∧
    (required ++ optional).map (fun a => (a.name, a.default)) =
      required.map (fun a => (a.name, none)) ++ optional.map fun a => (a.name, a.default) := by
  rw [List.map_append, List.map_append]
  refine ⟨congrArg₂ _ (List.map_congr_left fun a ha => ?_) (List.map_congr_left fun a ha => ?_),
    congrArg₂ _ (List.map_congr_left fun a ha => ?_) rfl⟩
  · rw [Stub.parameterText, h.required a ha]
    simp
  · rw [Stub.parameterText, h.optional a ha]
    simp
  · rw [h.required a ha]

namespace Scan

open Text Emission

/-- The draft that the declaring calls leave is sound, and the body has the host tokens of the text. -/
theorem wellFormed_of_scan {text : String} {path : Option Path} {s : Scanned}
    (h : scan text path = .ok s) : s.declaration.WellFormed := by
  obtain ⟨draft, hordered, harguments⟩ := exists_ordered_of_scan h
  have hname := isBindingName_function_of_scan h
  obtain ⟨d₀, ts₁, d, start, ts₂, e, moves, hpre, hrun, -, -, hdecl⟩ := exists_of_scan_ok h
  obtain ⟨gap, t, after, call, item, name, htokens, -, -, read, -, -, rfl⟩ :=
    exists_of_preamble_ok hpre
  have hshape := (MarkerCall.read_eq_ok_iff.1 read).2
  have hsuffix : ts₁ <:+ Lexer.tokens text.toList := by
    refine hshape.isInfix.2.trans ((List.suffix_cons t after).trans ?_)
    rw [htokens]
    exact List.suffix_append gap (t :: after)
  have hsound : d.Sound :=
    Draft.Sound.run hrun hsuffix ⟨by simp, [], [], rfl, ⟨by simp, by simp⟩, fun _ => rfl⟩
  obtain ⟨_, _, _, _, _, _, _, _, _, -, -, -, -, -, -, hcut⟩ := exists_cuts_of_scan h
  obtain ⟨_, _, _, -, hinner⟩ := hcut true
  have hsame : s.declaration.arguments = d.arguments := by rw [hdecl]; rfl
  refine ⟨hname, hsame ▸ hsound.arguments, ?_, ?_, ?_, ?_⟩
  · rw [Declaration.names, harguments]
    exact hordered.distinct
  · rw [harguments]
    exact hordered.positions
  · obtain ⟨required, optional, hsplit, hlast, -⟩ := hsound.defaults
    exact ⟨required, optional, hsame.trans hsplit, hlast⟩
  · rw [← Lexer.tokensWith_true]
    exact hinner.hostTokens

/-- Every declaration that is scanned from a text, and every declaration that it resolves to, is well
formed: its names can be bound and are distinct, positions count its arguments, every argument either
lists types or derives them, what is kept of types and defaults is tight, arguments with a default come
last, and no token of the body by itself is a marker. So in a stub and in a registration the parameters
without a default come before those with one. -/
theorem scan_wellFormed {text : String} {path : Option Path} {s : Scanned}
    (h : scan text path = .ok s) :
    s.declaration.WellFormed ∧
      ∀ registry d t, s.declaration.resolve registry = .ok d →
        d.WellFormed ∧ ∃ required optional, d.arguments = required ++ optional ∧
          DefaultsLast required optional ∧
          (∀ stub, Stub.of ⟨d, t⟩ = .ok stub →
            stub.parameters = required.map (fun a => a.name ++ ": " ++ Stub.typeText a) ++
              optional.map fun a => a.name ++ ": " ++ Stub.typeText a ++ " = ...") ∧
          (Registration.of ⟨d, t⟩).arguments =
            required.map (fun a => (a.name, none)) ++ optional.map fun a => (a.name, a.default) := by
  have hscanned := wellFormed_of_scan h
  refine ⟨hscanned, fun registry d t hres => ?_⟩
  have hd := hscanned.resolve hres
  obtain ⟨required, optional, hsplit, hlast⟩ := hd.defaults
  obtain ⟨hparameters, harguments⟩ := hlast.emitted
  refine ⟨hd, required, optional, hsplit, hlast, fun stub hstub => ?_, ?_⟩
  · rw [Stub.parameters_of hstub, hsplit]
    exact hparameters
  · rw [Registration.of, hsplit]
    exact harguments

/-- Types over two lines, a derived type, a default, and a marker in a comment and in a literal of the
body. -/
theorem scan_wellFormed_of_markers :
    ∃ text s d, scan text = .ok s ∧ s.declaration.resolve = .ok d ∧
      d.arguments.map (fun a => (a.name, a.tokens, a.default)) =
        [("x", ["csr_f32", "dense_f32"], none), ("y", [], none),
          ("n", ["unsigned int"], some "1 + 2")] ∧
      d.body = " \"npe_arg\" /* npe_doc */ " ∧ d.WellFormed := by
  obtain ⟨text, htext⟩ : ∃ text, text = "npe_function(f)npe_arg(x, csr_f32,\n dense_f32)" ++
      "npe_arg(y, dense_like(x))npe_default_arg(n, unsigned\n  int, 1 +  2)" ++
      "npe_begin_code() \"npe_arg\" /* npe_doc */ npe_end_code()" := ⟨_, rfl⟩
  obtain ⟨s, d, hscan, hres, hvalue⟩ := exists_scan_resolve text
    (fun d => (d.arguments.map (fun a => (a.name, a.tokens, a.default)), d.body))
    ([("x", ["csr_f32", "dense_f32"], none), ("y", [], none),
      ("n", ["unsigned int"], some "1 + 2")], " \"npe_arg\" /* npe_doc */ ")
    (by rw [htext]; decide +kernel)
  obtain ⟨harguments, hbody⟩ := Prod.mk.inj hvalue
  exact ⟨text, s, d, hscan, hres, harguments, hbody,
    ((scan_wellFormed hscan).2 .standard d ⟨"f", [], [], [], []⟩ hres).1⟩

end Scan

end Monomorph
