import Monomorph.Proofs.Build.Product
import Monomorph.Proofs.Emission.Registration
import Monomorph.Proofs.MarkerCall.Split
import Monomorph.Proofs.Scan.Preserved
import Monomorph.Proofs.Scan.Recorded

/-!
Documentation from the annotated source to the registration. A scan keeps what the literals of the one
call for documentation decode to, so a text that is written as literals there, in either notation, comes
out as it is. The registration holds it as one raw literal again, and says the same if the text leaves a
delimiter for it that is not too long. Literals of texts that are short one by one can use all of these
delimiters up.
-/

namespace Monomorph.Scan

variable {source : List Char} {path : Option Path} {d : Draft} {ts item : List Token} {calls : List Call}
  {text : String}

/-- The calls of a text can be told in one way only. -/
theorem Interleaved.unique {calls' : List Call} (h : Interleaved calls ts)
    (h' : Interleaved calls' ts) : calls = calls' := by
  induction h generalizing calls' with
  | done =>
    cases h'
    rfl
  | host plain _ ih =>
    cases h' with
    | host _ next => exact ih next
    | call marker => rw [plain] at marker; cases marker
  | call marker shape _ ih =>
    cases h' with
    | host plain => rw [marker] at plain; cases plain
    | call marker' shape' next =>
      obtain rfl := Option.some.inj (marker.symm.trans marker')
      obtain ⟨rfl, -, rfl⟩ := eq_of_isCall shape shape'
      rw [ih next]

/-- A run keeps the documentation that its draft has, which it may not declare again, or else takes it
from the call that declares it. -/
theorem DeclarationRun.exists_documented {r : Draft × Nat × List Token}
    (hrun : DeclarationRun source d ts r) :
    ∃ decls, (∀ tail, Interleaved tail r.2.2 →
        Interleaved (decls ++ (.beginCode, []) :: tail) ts) ∧
      (d.doc.isSome = true → r.1.doc = d.doc ∧ ∀ item, (.doc, [item]) ∉ decls) ∧
      ∀ item, (.doc, [item]) ∈ decls → (StringLiteral.decode? item).isSome = true →
        r.1.doc = StringLiteral.decode? item := by
  induction hrun with
  | host plain _ ih =>
    obtain ⟨decls, hcalls, hkept, hdeclared⟩ := ih
    exact ⟨decls, fun tail htail => .host plain (hcalls tail htail), hkept, hdeclared⟩
  | @declare d d' t rest rest' m call r marker read step _ ih =>
    have hshape := (MarkerCall.read_eq_ok_iff.1 read).2
    obtain ⟨decls, hcalls, hkept, hdeclared⟩ := ih
    obtain ⟨p, hp⟩ := d.keepGap_eq source t.start
    rw [hp] at step
    refine ⟨(m, call.items) :: decls, fun tail htail => .call marker hshape (hcalls tail htail), ?_, ?_⟩
    · intro hdoc
      have hother : d'.doc = d.doc ∧ m ≠ .doc := by
        cases step with
        | argument step =>
          obtain ⟨-, _, _, _, _, _, -, -, -, -, rfl⟩ := Draft.argument_eq_ok_iff.1 step
          exact ⟨rfl, by decide⟩
        | defaultArgument step =>
          obtain ⟨_, _, _, _, -, -, -, rfl⟩ := Draft.defaultArgument_eq_ok_iff.1 step
          exact ⟨rfl, by decide⟩
        | doc step =>
          obtain ⟨hnone, -⟩ := Draft.document_eq_ok_iff.1 step
          exact absurd hdoc (by simp [show d.doc = none from hnone])
      obtain ⟨hsame, hnone⟩ := hkept (by rwa [hother.1])
      refine ⟨hsame.trans hother.1, fun item hmem => ?_⟩
      rcases List.mem_cons.1 hmem with heq | hmem
      · exact hother.2 (congrArg Prod.fst heq).symm
      · exact hnone item hmem
    · intro item hmem hsome
      rcases List.mem_cons.1 hmem with heq | hmem
      · obtain ⟨rfl, hitems⟩ := Prod.mk.inj heq
        cases step with
        | doc step =>
          obtain ⟨-, item', hitems', -, rfl⟩ := Draft.document_eq_ok_iff.1 step
          obtain rfl : item = item' := by simpa [hitems'] using hitems
          exact (hkept hsome).1
      · exact hdeclared item hmem hsome
  | @begin d t rest rest' call marker read empty =>
    have hshape := (MarkerCall.read_eq_ok_iff.1 read).2
    rw [empty] at hshape
    obtain ⟨p, hp⟩ := d.keepGap_eq source t.start
    exact ⟨[], fun tail htail => .call marker hshape htail, fun _ => ⟨by simp [hp], by simp⟩, by simp⟩

/-- The documentation of a scanned declaration is what the literals of its call decode to. -/
theorem doc_eq_of_scan {s : Scanned} (h : scan text path = .ok s)
    (hcalls : Interleaved calls (Lexer.tokens text.toList)) (hmem : (.doc, [item]) ∈ calls)
    (hsome : (StringLiteral.decode? item).isSome = true) :
    s.declaration.doc = StringLiteral.decode? item := by
  obtain ⟨name, d₀, ts₁, d, start, ts₂, e, moves, tail, hrun, -, -, hnamed, htail, hbody, hdecl⟩ :=
    exists_run_of_scan h
  obtain ⟨decls, hinner, -, hdeclared⟩ := hrun.exists_documented
  rw [hcalls.unique (hnamed _ (hinner tail hbody))] at hmem
  have hin : (.doc, [item]) ∈ decls := by
    rcases htail with rfl | rfl <;> simpa using hmem
  rw [hdecl]
  exact hdeclared item hin hsome

/-- Without a call that declares an argument there are no arguments. -/
theorem arguments_eq_nil_of_scan {s : Scanned} (h : scan text path = .ok s)
    (hcalls : Interleaved calls (Lexer.tokens text.toList))
    (hnone : ∀ c ∈ calls, declaredName? c = none) : s.declaration.arguments = [] := by
  obtain ⟨name, d₀, ts₁, d, start, ts₂, e, moves, tail, hrun, hsuffix, hempty, hnamed, -, hbody, hdecl⟩ :=
    exists_run_of_scan h
  obtain ⟨decls, new, hinner, hnew, hrecords⟩ := hrun.exists_recordsCall hsuffix
  have hdecls : ∀ c ∈ decls, declaredName? c = none := fun c hc =>
    hnone c (by rw [hcalls.unique (hnamed _ (hinner tail hbody))]; simp [hc])
  rw [hdecl]
  refine hnew.trans ?_
  rw [hempty, List.nil_append]
  cases new with
  | nil => rfl
  | cons a new =>
    obtain ⟨c, _, hc, -, hall⟩ := List.forall₂_cons_right_iff.1 hrecords
    have hmem : c ∈ decls.filter (·.1 != .doc) := hall ▸ List.mem_cons_self
    have hsome := hc.name
    rw [hdecls c (List.mem_filter.1 hmem).1] at hsome
    cases hsome

/-! ### A call for documentation -/

open Lexer StringLiteral Emission

variable {parts : List (Style × String)} {inner after : List (Token.Kind × String)}

/-- What literals that are written in the call for documentation say, is the documentation. -/
theorem doc_of_literals {s : Scanned} (h : scan text path = .ok s)
    (hcalls : Interleaved calls (tokens text.toList)) (hmem : (.doc, [item]) ∈ calls)
    (hitem : item.map Token.content = parts.map literal) :
    s.declaration.doc = some (String.join (parts.map (·.2))) := by
  have hdecode := decode?_of_content hitem
  rw [← hdecode]
  exact doc_eq_of_scan h hcalls hmem (by rw [hdecode]; rfl)

/-- The classes and texts of the tokens of a call. -/
def called (m : Marker) (inner : List (Token.Kind × String)) : List (Token.Kind × String) :=
  (.ident, m.spelling) :: (.punct, "(") :: (inner ++ [(.punct, ")")])

theorem ofToken?_of_content {t : Token} {m : Marker} (h : t.content = (.ident, m.spelling)) :
    Marker.ofToken? t = some m := by
  obtain ⟨hkind, htext⟩ := Prod.mk.inj h
  rw [Marker.ofToken?, hkind, htext]
  cases m <;> decide

theorem isPunct_of_content {t : Token} {sign : String} (h : t.content = (.punct, sign)) :
    t.isPunct sign = true := by
  obtain ⟨hkind, htext⟩ := Prod.mk.inj h
  simp [Token.isPunct, hkind, htext]

/-- Tokens that are written like a call and what follows it are a call and what follows it, whatever
items the call is made of. -/
theorem exists_call_of_content {m : Marker} (h : ts.map Token.content = called m inner ++ after) :
    ∃ item rest, item.map Token.content = inner ∧ rest.map Token.content = after ∧
      ∀ items calls, MarkerCall.Joined items item → (∀ i ∈ items, MarkerCall.IsItem i) →
        Interleaved calls rest → Interleaved ((m, items) :: calls) ts := by
  rw [called, List.cons_append, List.cons_append, List.append_assoc] at h
  obtain ⟨t, _, rfl, ht, htail⟩ := List.map_eq_cons_iff.1 h
  obtain ⟨opener, _, rfl, hopener, hinner⟩ := List.map_eq_cons_iff.1 htail
  obtain ⟨item, _, rfl, hitem, hend⟩ := List.map_eq_append_iff.1 hinner
  obtain ⟨close, rest, rfl, hclose, hrest⟩ := List.map_eq_cons_iff.1 hend
  refine ⟨item, rest, hitem, hrest, fun items calls hjoined hitems hcalls => ?_⟩
  exact .call (ofToken?_of_content ht) (MarkerCall.isCall_of_joined (isPunct_of_content hopener)
    (isPunct_of_content hclose) hjoined hitems) hcalls

/-- A text that declares documentation, of a function without arguments and without a body. -/
def documented (literals : String) : String :=
  "npe_function(f) npe_doc( " ++ literals ++ " ) npe_begin_code()"

theorem content_tokens_documented (hshort : ∀ p ∈ parts, p.2.length < 10 ^ 9) :
    (tokens (documented (Text.join " " (parts.map fun p => p.1.encode p.2))).toList).map Token.content =
      called .function [(.ident, "f")] ++ (called .doc (parts.map literal) ++
        (called .beginCode [] ++ [])) := by
  obtain ⟨hquote, hend, hfront, hback⟩ :
      (∀ quote ∈ quotes, quote ∉ "npe_function(f) npe_doc( ".toList) ∧
      (pieces "npe_function(f) npe_doc( ".toList).getLast?.map (·.1) = some .blanks ∧
      visible (lexemes "npe_function(f) npe_doc( ".toList) =
        called .function [(.ident, "f")] ++ [(.ident, Marker.doc.spelling), (.punct, "(")] ∧
      visible (lexemes " ) npe_begin_code()".toList) = (.punct, ")") :: called .beginCode [] := by
    decide +kernel
  unfold documented
  rw [String.toList_append, String.toList_append, List.append_assoc, map_content_tokens,
    lexemes_append_of_blanks_last hquote hend, visible_append, visible_lexemes_join hshort, hfront, hback]
  simp [called]

theorem isString_of_content (hitem : item.map Token.content = parts.map literal) :
    ∀ t ∈ item, t.isString = true := by
  intro t ht
  obtain ⟨p, -, hp⟩ := List.mem_map.1 (hitem ▸ List.mem_map_of_mem ht)
  have hkind : t.kind = p.1.kind := (congrArg Prod.fst hp).symm
  rw [Token.isString, hkind]
  cases p.1 <;> rfl

/-- Literals of texts that are short one by one can be declared as documentation. -/
theorem exists_scan_documented (hne : parts ≠ []) (hshort : ∀ p ∈ parts, p.2.length < 10 ^ 9)
    (path : Option Path) :
    ∃ scanned calls item,
      scan (documented (Text.join " " (parts.map fun p => p.1.encode p.2))) path = .ok scanned ∧
      Interleaved calls
        (tokens (documented (Text.join " " (parts.map fun p => p.1.encode p.2))).toList) ∧
      (.doc, [item]) ∈ calls ∧ item.map Token.content = parts.map literal ∧
      scanned.declaration.arguments = [] := by
  have hcontent := content_tokens_documented hshort
  generalize documented (Text.join " " (parts.map fun p => p.1.encode p.2)) = text at hcontent ⊢
  obtain ⟨nameItem, _, hnamed, hbehind, hfunction⟩ := exists_call_of_content hcontent
  obtain ⟨item, _, hitem, hlast, hdoc⟩ := exists_call_of_content hbehind
  obtain ⟨inside, rest, hnone, hrest, hbegin⟩ := exists_call_of_content hlast
  obtain rfl := List.map_eq_nil_iff.1 hnone
  obtain rfl := List.map_eq_nil_iff.1 hrest
  obtain ⟨name, rfl, hname⟩ := List.map_eq_singleton_iff.1 hnamed
  have hkind : name.kind = .ident := congrArg Prod.fst hname
  have htext : name.text = "f" := congrArg Prod.snd hname
  have hstrings := isString_of_content hitem
  have hplain : ∀ t ∈ item, t.kind ≠ .punct := fun t ht hpunct => by
    have hstring := hstrings t ht
    simp [Token.isString, hpunct] at hstring
  have hsome : item ≠ [] := by
    rintro rfl
    exact hne (List.map_eq_nil_iff.1 hitem.symm)
  have hnameItem : MarkerCall.IsItem [name] := .of_plain (by simp) (by simp [hkind])
  have hdocItem : MarkerCall.IsItem item := .of_plain hsome hplain
  have hcalls : Interleaved [(.function, [[name]]), (.doc, [item]), (.beginCode, [])]
      (tokens text.toList) :=
    hfunction _ _ (.one _) (by simpa using hnameItem) <|
      hdoc _ _ (.one _) (by simpa using hdocItem) <| hbegin _ _ .none (by simp) .done
  have hdeclarations : Declarations [(.doc, [item])] :=
    ⟨List.forall_mem_singleton.2 (.doc hstrings), List.nodup_nil, List.pairwise_singleton _ _,
      List.pairwise_singleton _ _⟩
  have hsentence : IsSentence (tokens text.toList) :=
    ⟨[name], [(.doc, [item])], [], ⟨name, rfl, hkind, by rw [htext]; decide⟩, hdeclarations, .inl rfl,
      hcalls⟩
  obtain ⟨scanned, hscan⟩ : ∃ scanned, scan text path = .ok scanned :=
    exists_scan_iff_tokensToDeclaration.2
      ((exists_tokensToDeclaration_iff (decodable_tokens text.toList)).2 hsentence)
  exact ⟨scanned, _, item, hscan, hcalls, by simp, hitem,
    arguments_eq_nil_of_scan hscan hcalls (by simp [declaredName?])⟩

/-! ### From the source to the registration -/

/-- What is declared as documentation is documented, if there is a delimiter for it. -/
theorem documents_of_expanded {s : Scanned} {c : Config} {f : ExpandedFunction} {doc : String}
    (h : scan text path = .ok s) (hf : Build.expanded c s.declaration = .ok f)
    (hdoc : s.declaration.doc = some doc) : f.declaration.doc = some doc ∧
      ((Registration.of f).Documents doc ↔ (freeDelimiter doc.toList).length ≤ 16) := by
  have hsame := (Build.name_and_doc_of_expanded hf).2
  rw [hdoc] at hsame
  have hdocuments := Registration.documents_iff (Build.isBindingName_of_expanded h hf)
  rw [hsame, Option.getD_some] at hdocuments
  exact ⟨hsame, hdocuments⟩

/-- Texts written as literals, each in either notation, are one token each when they stand side by
side, and these decode to the texts one after the other. The delimiter of a raw literal is the first
that does not end the literal early, and unless the text is huge it has at most the 16 characters that
are allowed. So what the literals of a call for documentation say is what the declaration keeps, and the
registration has one literal that decodes to it, exactly if the delimiter that it takes is one of those.
A file says what the text that is read from it says, in which every line end is a newline. -/
theorem literals_round_trip (hshort : ∀ p ∈ parts, p.2.length < 10 ^ 9) :
    ((Lexer.tokens (Text.join " " (parts.map fun p => p.1.encode p.2)).toList).map Token.content =
        parts.map literal ∧
      decode? (Lexer.tokens (Text.join " " (parts.map fun p => p.1.encode p.2)).toList) =
        some (String.join (parts.map (·.2)))) ∧
    (∀ s : List Char, ∃ n ≤ s.length, freeDelimiter s = delimiter n ∧ ¬ closer n <:+: s ∧
      (∀ m < n, closer m <:+: s) ∧ (s.length < 10 ^ 9 → (freeDelimiter s).length ≤ 16)) ∧
    (∀ text path scanned calls item, scan text path = .ok scanned →
      Interleaved calls (Lexer.tokens text.toList) → (.doc, [item]) ∈ calls →
      item.map Token.content = parts.map literal →
        scanned.declaration.doc = some (String.join (parts.map (·.2))) ∧
        ∀ c f, Build.expanded c scanned.declaration = .ok f →
          ((Registration.of f).Documents (String.join (parts.map (·.2))) ↔
            (freeDelimiter (String.join (parts.map (·.2))).toList).length ≤ 16)) ∧
    ∀ (w : Workspace) c source s p calls item,
      w.files.read w.here source = .ok (Text.Utf8.encode s) →
      (w.run (Build.prepare c source)).1 = .ok (.ok p) →
      Interleaved calls (Lexer.tokens (Text.unixNewlinesOf s.toList)) → (.doc, [item]) ∈ calls →
      item.map Token.content = parts.map literal →
        p.function.declaration.doc = some (String.join (parts.map (·.2))) ∧
        ((Registration.of p.function).Documents (String.join (parts.map (·.2))) ↔
          (freeDelimiter (String.join (parts.map (·.2))).toList).length ≤ 16) := by
  have hcontent := content_tokens_join hshort
  refine ⟨⟨hcontent, decode?_of_content hcontent⟩, fun s => ?_, ?_, ?_⟩
  · obtain ⟨n, hn, heq, hfree, hbefore⟩ := exists_freeDelimiter s
    exact ⟨n, hn, heq, hfree, hbefore, length_freeDelimiter_le⟩
  · intro text path scanned calls item hscan hcalls hmem hitem
    have hdoc := doc_of_literals hscan hcalls hmem hitem
    exact ⟨hdoc, fun c f hf => (documents_of_expanded hscan hf hdoc).2⟩
  · intro w c source s p calls item hread hprepare hcalls hmem hitem
    obtain ⟨text, scanned, htext, hscan, hexpanded, -⟩ := Build.exists_scan_of_prepare hprepare
    rw [hread, Source.ofContent_encode] at htext
    obtain rfl := Except.ok.inj htext
    rw [← String.toList_ofList (l := Text.unixNewlinesOf s.toList)] at hcalls
    exact documents_of_expanded hscan hexpanded (doc_of_literals hscan hcalls hmem hitem)

/-- Documentation in two literals, of a text and of a file: an ordinary literal with quotes, a backslash
and a newline to escape, and a raw one that holds the end of the first delimiter. -/
theorem literals_round_trip_mixed :
    ∃ (parts : List (Style × String)) (text : String) (scanned : Scanned) (c : Config)
      (f : ExpandedFunction) (w : Workspace) (source : Path) (p : Product),
      parts.map (·.1) = [.quoted, .raw] ∧ (∀ p ∈ parts, p.2.length < 10 ^ 9) ∧
      text = documented (Text.join " " (parts.map fun p => p.1.encode p.2)) ∧ scan text = .ok scanned ∧
      scanned.declaration.doc = some "say \"hi\"\\\n)npe_doc\" stays" ∧
      Build.expanded c scanned.declaration = .ok f ∧
      (Registration.of f).Documents "say \"hi\"\\\n)npe_doc\" stays" ∧
      w.files.read w.here source = .ok (Text.Utf8.encode text) ∧
      (w.run (Build.prepare c source)).1 = .ok (.ok p) ∧
      p.function.declaration.doc = some "say \"hi\"\\\n)npe_doc\" stays" ∧
      (Registration.of p.function).Documents "say \"hi\"\\\n)npe_doc\" stays" := by
  obtain ⟨parts, hparts⟩ : ∃ parts : List (Style × String),
      parts = [(.quoted, "say \"hi\"\\\n"), (.raw, ")npe_doc\" stays")] := ⟨_, rfl⟩
  obtain ⟨text, htext⟩ : ∃ text,
      text = documented (Text.join " " (parts.map fun p => p.1.encode p.2)) := ⟨_, rfl⟩
  obtain ⟨c, hc⟩ : ∃ c : Config, c = { projectRoot := ⟨.relative, []⟩ } := ⟨_, rfl⟩
  obtain ⟨source, hsource⟩ : ∃ source : Path, source = ⟨.relative, ["foo.cpp"]⟩ := ⟨_, rfl⟩
  obtain ⟨w, hw⟩ : ∃ w : Workspace,
      w = { here := [], files := ⟨[(["foo.cpp"], .file (Text.Utf8.encode text))]⟩ } := ⟨_, rfl⟩
  obtain ⟨hne, hshort, hjoin, hfree⟩ : parts ≠ [] ∧ (∀ p ∈ parts, p.2.length < 10 ^ 9) ∧
      String.join (parts.map (·.2)) = "say \"hi\"\\\n)npe_doc\" stays" ∧
      (freeDelimiter "say \"hi\"\\\n)npe_doc\" stays".toList).length ≤ 16 := by
    rw [hparts]
    decide
  have hread : w.files.read w.here source = .ok (Text.Utf8.encode text) := by
    rw [hw, hsource]
    rfl
  obtain ⟨hlines, hprepares⟩ : Text.unixNewlinesOf text.toList = text.toList ∧
      ((w.run (Build.prepare c source)).1.toOption.bind (·.toOption)).isSome = true := by
    rw [hw, htext, hparts, hc, hsource]
    decide +kernel
  obtain ⟨scanned, calls, item, hscan, hcalls, hmem, hitem, harguments⟩ :=
    exists_scan_documented hne hshort none
  obtain ⟨f, hf⟩ := Build.exists_expanded_of_arguments harguments ⟨.relative, []⟩
  rw [← htext] at hscan hcalls
  rw [← hc] at hf
  rcases hprepare : (w.run (Build.prepare c source)).1 with fault | (e | p)
  · simp [hprepare, Except.toOption] at hprepares
  · simp [hprepare, Except.toOption] at hprepares
  obtain ⟨-, -, hscanned, hfile⟩ := literals_round_trip hshort
  obtain ⟨hdoc, hregistered⟩ := hscanned text none scanned calls item hscan hcalls hmem hitem
  obtain ⟨hdoc', hregistered'⟩ := hfile w c source text p calls item hread hprepare (by rwa [hlines])
    hmem hitem
  rw [hjoin] at hdoc hregistered hdoc' hregistered'
  exact ⟨parts, text, scanned, c, f, w, source, p, by rw [hparts]; rfl, hshort, htext, hscan, hdoc, hf,
    (hregistered c f hf).2 hfree, hread, hprepare, hdoc', hregistered'.2 hfree⟩

/-- Twenty texts, each of them short, that hold the ends of all delimiters between them: documentation
that consists of them is recovered, and there is no literal for it in the registration. And
documentation with a carriage return in a raw literal, which a file does not keep. -/
theorem documentation_not_kept :
    (∃ (parts : List (Style × String)) (text : String) (scanned : Scanned) (calls : List Call)
      (item : List Token) (c : Config) (f : ExpandedFunction) (t : Token),
      parts = crowded 20 (5 * 10 ^ 7) ∧ parts ≠ [] ∧ (∀ p ∈ parts, p.2.length < 10 ^ 9) ∧
      text = documented (Text.join " " (parts.map fun p => p.1.encode p.2)) ∧ scan text = .ok scanned ∧
      Interleaved calls (Lexer.tokens text.toList) ∧ (.doc, [item]) ∈ calls ∧
      item.map Token.content = parts.map literal ∧ Build.expanded c scanned.declaration = .ok f ∧
      f.declaration.doc = some (String.join (parts.map (·.2))) ∧
      (Registration.of f).DocToken t ∧ t.content = (.ident, "R") ∧
      ¬ (Registration.of f).Documents (String.join (parts.map (·.2)))) ∧
    ∃ (w : Workspace) (c : Config) (source : Path) (p : Product),
      w.files.read w.here source =
        .ok (Text.Utf8.encode (documented (Style.raw.encode "a\rb"))) ∧
      (w.run (Build.prepare c source)).1 = .ok (.ok p) ∧ p.function.declaration.doc = some "a\nb" := by
  constructor
  · obtain ⟨parts, hparts⟩ : ∃ parts, parts = crowded 20 (5 * 10 ^ 7) := ⟨_, rfl⟩
    obtain ⟨text, htext⟩ : ∃ text,
        text = documented (Text.join " " (parts.map fun p => p.1.encode p.2)) := ⟨_, rfl⟩
    have hne : parts ≠ [] := by
      rw [hparts, crowded, Ne, List.map_eq_nil_iff, List.range_eq_nil]
      decide
    have hshort : ∀ p ∈ parts, p.2.length < 10 ^ 9 := by
      rw [hparts]
      exact length_lt_of_mem_crowded (by decide) (by decide)
    have hlong : 16 < (freeDelimiter (String.join (parts.map (·.2))).toList).length :=
      lt_length_freeDelimiter fun m hm => by
        rw [hparts]
        exact closer_infix_join_crowded (hm.trans_eq (by decide))
    obtain ⟨scanned, calls, item, hscan, hcalls, hmem, hitem, harguments⟩ :=
      exists_scan_documented hne hshort none
    obtain ⟨f, hf⟩ := Build.exists_expanded_of_arguments harguments ⟨.relative, []⟩
    rw [← htext] at hscan hcalls
    obtain ⟨hsame, hdocuments⟩ :=
      documents_of_expanded hscan hf (doc_of_literals hscan hcalls hmem hitem)
    obtain ⟨t, ht, hletter⟩ := Registration.exists_docToken_of_long
      (Build.isBindingName_of_expanded hscan hf) (by rwa [hsame, Option.getD_some])
    exact ⟨parts, text, scanned, calls, item, _, f, t, hparts, hne, hshort, htext, hscan, hcalls, hmem,
      hitem, hf, hsame, ht, hletter, fun h => absurd (hdocuments.1 h) (not_le.2 hlong)⟩
  · obtain ⟨w, hw⟩ : ∃ w : Workspace, w = { here := [], files := ⟨[(["foo.cpp"],
      .file (Text.Utf8.encode (documented (Style.raw.encode "a\rb"))))]⟩ } := ⟨_, rfl⟩
    obtain ⟨c, hc⟩ : ∃ c : Config, c = { projectRoot := ⟨.relative, []⟩ } := ⟨_, rfl⟩
    obtain ⟨source, hsource⟩ : ∃ source : Path, source = ⟨.relative, ["foo.cpp"]⟩ := ⟨_, rfl⟩
    have hvalue : ((w.run (Build.prepare c source)).1.toOption.bind (·.toOption)).map
        (·.function.declaration.doc) = some (some "a\nb") := by
      rw [hw, hc, hsource]
      decide +kernel
    rcases hprepare : (w.run (Build.prepare c source)).1 with fault | (e | p)
    · simp [hprepare, Except.toOption] at hvalue
    · simp [hprepare, Except.toOption] at hvalue
    rw [hprepare] at hvalue
    refine ⟨w, c, source, p, ?_, hprepare, Option.some.inj hvalue⟩
    rw [hw, hsource]
    rfl

end Monomorph.Scan
