import Monomorph.Proofs.Scan.Accepted
import Monomorph.Proofs.Token.Kept

/-!
What a scan records of the items that declare types and defaults. It is the source text from the first
to the last token of the item, tightened. So it has the tokens of the item exactly if the item can do
without its line ends: not if there is a line comment in it, or a literal with blanks to lose.
-/

namespace Monomorph.Scan

open Lexer Text

/-- The source text from the first to the last of some tokens. -/
def spanned (source : List Char) (item : List Token) : List Char :=
  match item.head?, item.getLast? with
  | some first, some last => slice source first.start last.stop
  | _, _ => []

/-- What is recorded of an item is the text that it spans, tightened, and has the tokens of the item
exactly if tightening keeps them. -/
structure RecordsItem (source : List Char) (item : List Token) (recorded : String) : Prop where
  text : recorded = String.ofList (tighten (spanned source item))
  tokens : (Lexer.tokens recorded.toList).map Token.content = item.map Token.content ↔
    keepsTokens (pieces (spanned source item)) = true

/-- The items of a call that declare types. -/
def typeItems : Call → List (List Token)
  | (.argument, _ :: types) => types
  | (.defaultArgument, [_, type, _]) => [type]
  | _ => []

/-- The item of a call that declares a default. -/
def defaultItem? : Call → Option (List Token)
  | (.defaultArgument, [_, _, value]) => some value
  | _ => none

/-- What an argument keeps of the call that declares it: every type that it lists, and its default. -/
structure RecordsCall (source : List Char) (c : Call) (a : Argument) : Prop where
  name : declaredName? c = some a.name
  types : a.constraint? = none → List.Forall₂ (RecordsItem source) (typeItems c) a.tokens
  default : List.Forall₂ (RecordsItem source) (defaultItem? c).toList a.default.toList

variable {source : List Char} {path : Option Path} {d d' : Draft} {ts item : List Token} {m : Marker}
  {call : MarkerCall}

theorem span_eq (hne : item ≠ []) :
    span source item = squeeze (String.ofList (spanned source item)) := by
  rw [span, spanned, List.head?_eq_some_head hne, List.getLast?_eq_some_getLast hne]

/-- In isolation the text that an item spans has the tokens of the item, and ends in the last one. -/
theorem visible_spanned (hitem : item <:+: Lexer.tokens source) (hne : item ≠ []) :
    visible (lexemes (spanned source item)) = item.map Token.content ∧
      EndsInToken (spanned source item) ∧
      (∀ c ∈ (spanned source item).head?, isBlank c = false) ∧
      ∀ c ∈ (spanned source item).getLast?, isBlank c = false := by
  obtain ⟨before, after, hsplit⟩ := hitem
  have hfirst := List.head?_eq_some_head hne
  have hlast := List.getLast?_eq_some_getLast hne
  generalize item.head hne = first at hfirst
  generalize item.getLast hne = last at hlast
  have hfrom : tokensFrom ⟨0, 1, 1⟩ source = before ++ (item ++ after) := by
    rw [← List.append_assoc, hsplit]
    rfl
  obtain ⟨v, -, rest, here, hv, -, -, hhere, htokens⟩ := exists_of_tokensFrom_append hfrom
  obtain ⟨u, x, ls, r, hu, hstart, hstop, hpass, hvisible, hcut, hkind, hhead⟩ :=
    exists_of_tokensFrom_item htokens.symm hfirst hlast
  have hspan : spanned source item = x ++ last.text.toList := by
    have hfront : first.start = (v ++ u).length := by
      rw [hstart, hhere, List.length_append]
      exact congrArg (· + u.length) (Nat.zero_add v.length)
    have hsource : source = (v ++ u) ++ ((x ++ last.text.toList) ++ r) := by
      rw [hv, hu]
      simp
    rw [spanned, hfirst, hlast]
    dsimp only
    rw [slice, hstop, Nat.add_sub_cancel_left, hfront, hsource, List.drop_left, List.take_left]
  have hdone : Clip r [] [] := .done r
  have hcut' := hdone.cuts hcut (by simp)
  have hclip := (Passes.token hcut).clip hdone
  have hpass' := hpass.congr hclip
  have hlexemes := (hpass.clip hclip).lexemes_eq
  rw [List.append_nil] at hpass' hlexemes
  rw [hspan]
  refine ⟨?_, hpass'.endsInToken hcut' hkind, hhead, fun c hc => ?_⟩
  · rw [hlexemes, List.append_nil, hvisible]
  · rw [List.getLast?_append_of_ne_nil _ hcut.1] at hc
    exact hcut.not_isBlank_end hkind c hc

theorem recordsItem_span (hitem : item <:+: Lexer.tokens source) (hne : item ≠ []) :
    RecordsItem source item (span source item) := by
  obtain ⟨hvisible, hend, hhead, hlast⟩ := visible_spanned hitem hne
  have htext : span source item = String.ofList (tighten (spanned source item)) := by
    rw [span_eq hne, squeeze_ofList hhead hlast]
  refine ⟨htext, ?_⟩
  rw [htext, String.toList_ofList, map_content_tokens, ← hvisible]
  exact visible_tighten_iff hend

/-! ### Calls -/

theorem forall₂_recordsItem {items : List (List Token)}
    (h : ∀ item ∈ items, item <:+: Lexer.tokens source ∧ item ≠ []) :
    List.Forall₂ (RecordsItem source) items (items.map (span source)) := by
  induction items with
  | nil => exact .nil
  | cons item items ih =>
    obtain ⟨⟨hitem, hne⟩, hitems⟩ := List.forall_mem_cons.1 h
    exact .cons (recordsItem_span hitem hne) (ih hitems)

/-- Types are listed as the texts of their items, or there is one constraint. -/
theorem readTypes_ok_cases {name : String} {first : List Token} {more : List (List Token)}
    {declared : TypeSource}
    (h : readTypes source name more.isEmpty (first :: more) = .ok declared) :
    declared = .listed ((first :: more).map (span source)) ∨ ∃ c, declared = .derived c := by
  have hlisted : (∀ item ∈ first :: more, constraintHead? item = none) →
      declared = .listed ((first :: more).map (span source)) := fun hall => by
    rw [readTypes_listed hall] at h
    exact (Except.ok.inj h).symm
  cases more with
  | cons second more => exact .inl (hlisted (constraintHead?_of_readTypes h))
  | nil =>
    cases hhead : constraintHead? first with
    | none => exact .inl (hlisted (List.forall_mem_singleton.2 hhead))
    | some p =>
      obtain ⟨head, relation⟩ := p
      simp only [readTypes, hhead, List.isEmpty_nil, if_true] at h
      cases hread : readConstraint source name relation first head with
      | error b => simp [hread, Except.map] at h
      | ok c => exact .inr ⟨c, by simpa [hread, Except.map] using h.symm⟩

/-- A call that declares an argument adds one that keeps what the call says; documentation adds none. -/
theorem Draft.Declares.recordsCall (h : d.Declares source m call d')
    (hitems : ∀ item ∈ call.items, item <:+: Lexer.tokens source ∧ item ≠ []) :
    ∃ new, d'.arguments = d.arguments ++ new ∧
      List.Forall₂ (RecordsCall source) ([(m, call.items)].filter (·.1 != .doc)) new := by
  cases h with
  | argument h =>
    obtain ⟨-, nameItem, first, more, name, declared, heq, hname, htypes, -, rfl⟩ :=
      Draft.argument_eq_ok_iff.1 h
    obtain ⟨t, rfl, -, -, rfl⟩ := readName_eq_ok_iff.1 hname
    rw [heq] at hitems ⊢
    refine ⟨[_], rfl, .cons ⟨rfl, fun hlisted => ?_, .nil⟩ .nil⟩
    rcases readTypes_ok_cases htypes with rfl | ⟨c, rfl⟩
    · exact forall₂_recordsItem (List.forall_mem_cons.1 hitems).2
    · cases hlisted
  | defaultArgument h =>
    obtain ⟨nameItem, type, value, name, heq, hname, -, rfl⟩ := Draft.defaultArgument_eq_ok_iff.1 h
    obtain ⟨t, rfl, -, -, rfl⟩ := readName_eq_ok_iff.1 hname
    rw [heq] at hitems ⊢
    have hspans : List.Forall₂ (RecordsItem source) [type, value]
        [span source type, span source value] :=
      forall₂_recordsItem (List.forall_mem_cons.1 hitems).2
    obtain ⟨htype, hvalue⟩ := List.forall₂_cons.1 hspans
    exact ⟨[_], rfl, .cons ⟨rfl, fun _ => .cons htype .nil, hvalue⟩ .nil⟩
  | doc h =>
    obtain ⟨-, item, -, -, rfl⟩ := Draft.document_eq_ok_iff.1 h
    exact ⟨[], by simp, .nil⟩

/-- The calls of a run, and what its arguments keep of them. -/
theorem DeclarationRun.exists_recordsCall {r : Draft × Nat × List Token}
    (hrun : DeclarationRun source d ts r) (hts : ts <:+ Lexer.tokens source) :
    ∃ decls new, (∀ tail, Interleaved tail r.2.2 →
        Interleaved (decls ++ (.beginCode, []) :: tail) ts) ∧
      r.1.arguments = d.arguments ++ new ∧
      List.Forall₂ (RecordsCall source) (decls.filter (·.1 != .doc)) new := by
  induction hrun with
  | host plain _ ih =>
    obtain ⟨decls, new, hcalls, hnew⟩ := ih ((List.suffix_cons _ _).trans hts)
    exact ⟨decls, new, fun tail htail => .host plain (hcalls tail htail), hnew⟩
  | @declare d d' t after rest m call r marker read step _ ih =>
    have hshape := (MarkerCall.read_eq_ok_iff.1 read).2
    have hafter : after <:+ Lexer.tokens source := (List.suffix_cons t after).trans hts
    obtain ⟨hstretch, hsuffix⟩ := hshape.isInfix
    have hitems : ∀ item ∈ call.items, item <:+: Lexer.tokens source ∧ item ≠ [] :=
      fun item hitem => ⟨(hstretch item hitem).trans hafter.isInfix, hshape.ne_nil item hitem⟩
    obtain ⟨one, hone, hrecords⟩ := step.recordsCall hitems
    obtain ⟨decls, new, hcalls, hnew, hall⟩ := ih (hsuffix.trans hafter)
    refine ⟨(m, call.items) :: decls, one ++ new,
      fun tail htail => .call marker hshape (hcalls tail htail), ?_, ?_⟩
    · obtain ⟨p, hp⟩ := d.keepGap_eq source t.start
      rw [hnew]
      dsimp only
      rw [hone, hp, List.append_assoc]
    · rw [← List.singleton_append, List.filter_append]
      exact List.rel_append hrecords hall
  | @begin d t after rest call marker read empty =>
    have hshape := (MarkerCall.read_eq_ok_iff.1 read).2
    rw [empty] at hshape
    obtain ⟨p, hp⟩ := d.keepGap_eq source t.start
    exact ⟨[], [], fun tail htail => .call marker hshape htail, by simp [hp], .nil⟩

/-- What is recorded of a type or default item is the source text from its first to its last token with
every run of blanks made one space. It has the tokens of the item, comments aside, exactly if no line
comment stands inside it, no literal in it holds other blanks than single spaces, and no quote in it
that closes nowhere in its line closes in a later one. -/
theorem scan_records {text : String} {s : Scanned} (h : scan text path = .ok s) :
    ∃ name decls tail,
      Interleaved ((.function, [name]) :: (decls ++ (.beginCode, []) :: tail))
        (Lexer.tokens text.toList) ∧
      List.Forall₂ (RecordsCall text.toList) (decls.filter (·.1 != .doc))
        s.declaration.arguments := by
  obtain ⟨name, d₀, ts₁, d, start, ts₂, e, moves, tail, hrun, hsuffix, hnone, hnamed, -, htail, hdecl⟩ :=
    exists_run_of_scan h
  obtain ⟨decls, new, hcalls, hnew, hrecords⟩ := hrun.exists_recordsCall hsuffix
  have harguments : s.declaration.arguments = new := by
    rw [hdecl]
    exact hnew.trans (by rw [hnone, List.nil_append])
  exact ⟨name, decls, tail, hnamed _ (hcalls tail htail), harguments ▸ hrecords⟩

/-- A type over two lines, and a default with a comment and a line end inside. -/
theorem scan_records_of_lines :
    ∃ text s name decls tail, scan text = .ok s ∧
      s.declaration.arguments.map (fun a => (a.tokens, a.default)) =
        [(["csr_f32", "csr_f64"], none), (["std::pair<int, int>"], some "1 /* one */ + 2")] ∧
      Interleaved ((.function, [name]) :: (decls ++ (.beginCode, []) :: tail))
        (Lexer.tokens text.toList) ∧
      List.Forall₂ (RecordsCall text.toList) (decls.filter (·.1 != .doc))
        s.declaration.arguments := by
  obtain ⟨text, htext⟩ : ∃ text, text = "npe_function(f)npe_arg(x, csr_f32, csr_f64)\n" ++
      "npe_default_arg(n, std::pair<int,\n  int>, 1 /* one */\n  + 2)npe_begin_code()" := ⟨_, rfl⟩
  have hvalue : (scan text).toOption.map
      (fun s => s.declaration.arguments.map fun a => (a.tokens, a.default)) =
        some [(["csr_f32", "csr_f64"], none), (["std::pair<int, int>"], some "1 /* one */ + 2")] := by
    rw [htext]
    decide +kernel
  cases hscan : scan text with
  | error e => simp [hscan, Except.toOption] at hvalue
  | ok s =>
    obtain ⟨name, decls, tail, hcalls, hrecords⟩ := scan_records hscan
    rw [hscan] at hvalue
    exact ⟨text, s, name, decls, tail, hscan, Option.some.inj hvalue, hcalls, hrecords⟩

/-- A default that is one literal with two blanks in it is recorded as another literal. -/
theorem default_changes_of_blanks :
    ∃ text s t after call rest, scan text = .ok s ∧ t :: after <:+ Lexer.tokens text.toList ∧
      Marker.ofToken? t = some .defaultArgument ∧ MarkerCall.read t after = .ok (call, rest) ∧
      call.items.getLast?.map (·.map Token.content) = some [(.string, "\"a  b\"")] ∧
      s.declaration.arguments.map (·.default.map fun d => (Lexer.tokens d.toList).map Token.content) =
        [some [(.string, "\"a b\"")]] := by
  obtain ⟨text, htext⟩ : ∃ text, text = "npe_function(f)npe_default_arg(s, std::string, \"a  b\")\n" ++
      "npe_begin_code()npe_end_code()" := ⟨_, rfl⟩
  have hvalue : (scan text).toOption.map (fun s => s.declaration.arguments.map
      (·.default.map fun d => (Lexer.tokens d.toList).map Token.content)) =
        some [some [(.string, "\"a b\"")]] := by
    rw [htext]
    decide +kernel
  have hcall : ((Lexer.tokens text.toList).drop 4).head?.bind (fun t =>
      (MarkerCall.read t ((Lexer.tokens text.toList).drop 5)).toOption.map fun c =>
        (Marker.ofToken? t, c.1.items.getLast?.map (·.map Token.content))) =
      some (some .defaultArgument, some [(.string, "\"a  b\"")]) := by
    rw [htext]
    decide +kernel
  obtain ⟨t, ht, hread⟩ := Option.bind_eq_some_iff.1 hcall
  obtain ⟨after, hafter⟩ := List.head?_eq_some_iff.1 ht
  obtain ⟨⟨call, rest⟩, hok, hitems⟩ := Option.map_eq_some_iff.1 hread
  obtain ⟨hmarker, hitem⟩ := Prod.mk.inj hitems
  have hsuffix : t :: after <:+ Lexer.tokens text.toList := hafter ▸ List.drop_suffix 4 _
  have hrest : (Lexer.tokens text.toList).drop 5 = after := by
    rw [← List.tail_drop, hafter, List.tail_cons]
  rw [hrest] at hok
  cases hscan : scan text with
  | error e => simp [hscan, Except.toOption] at hvalue
  | ok s =>
    rw [hscan] at hvalue
    cases hcall : MarkerCall.read t after with
    | error b => simp [hcall, Except.toOption] at hok
    | ok c =>
      obtain rfl : c = (call, rest) := by simpa [hcall, Except.toOption] using hok
      exact ⟨text, s, t, after, call, rest, hscan, hsuffix, hmarker, hcall, hitem,
        Option.some.inj hvalue⟩

end Monomorph.Scan
