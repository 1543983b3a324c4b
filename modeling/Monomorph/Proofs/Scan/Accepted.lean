import Monomorph.Proofs.Scan.Grammar

/-!
The scanner accepts exactly its grammar. A draft remembers of the calls before it the names, whether
there was a default, and whether there was documentation; this is what decides about the next call.
A run through the declarations therefore exists exactly if the calls on the way are declarations,
and the stretches before and after them are read off the same sequence of calls.
-/

namespace Monomorph.Scan

variable {path : Option Path} {source : List Char} {d d' : Draft} {calls : List Call} {m : Marker}
  {call : MarkerCall} {ts rest : List Token}

/-! ### Declarations call by call -/

/-- What one more call has to satisfy after some declarations. -/
structure Extends (calls : List Call) (c : Call) : Prop where
  declaring : Declaring c
  fresh : ∀ n, declaredName? c = some n → n ∉ calls.filterMap declaredName?
  noDefault : c.1 = .argument → ∀ b ∈ calls, b.1 ≠ .defaultArgument
  noDoc : c.1 = .doc → ∀ b ∈ calls, b.1 ≠ .doc

theorem declarations_nil : Declarations [] where
  declaring := by simp
  names := List.nodup_nil
  defaultsLast := .nil
  oneDoc := .nil

theorem declarations_concat_iff {c : Call} :
    Declarations (calls ++ [c]) ↔ Declarations calls ∧ Extends calls c := by
  constructor
  · rintro ⟨hdecl, hnames, hlast, hone⟩
    rw [List.pairwise_append] at hlast hone
    rw [List.filterMap_append, List.nodup_append] at hnames
    refine ⟨⟨fun b hb => hdecl b (by simp [hb]), hnames.1, hlast.1, hone.1⟩,
      ⟨hdecl c (by simp), ?_, ?_, ?_⟩⟩
    · intro n hn hmem
      exact hnames.2.2 n hmem n (by simp [hn]) rfl
    · intro hc b hb hdefault
      exact hlast.2.2 b hb c (by simp) hdefault hc
    · intro hc b hb hdoc
      exact hone.2.2 b hb c (by simp) hdoc hc
  · rintro ⟨⟨hdecl, hnames, hlast, hone⟩, hc⟩
    refine ⟨?_, ?_, ?_, ?_⟩
    · intro b hb
      rcases List.mem_append.1 hb with hb | hb
      · exact hdecl b hb
      · exact List.mem_singleton.1 hb ▸ hc.declaring
    · rw [List.filterMap_append, List.nodup_append]
      refine ⟨hnames, ?_, ?_⟩
      · rw [List.filterMap_cons]
        cases declaredName? c <;> simp
      · rintro n hn k hk rfl
        exact hc.fresh n (by simpa using hk) hn
    · rw [List.pairwise_append]
      refine ⟨hlast, by simp, fun b hb e he hdefault harg => ?_⟩
      rw [List.mem_singleton.1 he] at harg
      exact hc.noDefault harg b hb hdefault
    · rw [List.pairwise_append]
      refine ⟨hone, by simp, fun b hb e he hbdoc hdoc => ?_⟩
      rw [List.mem_singleton.1 he] at hdoc
      exact hc.noDoc hdoc b hb hbdoc

/-! ### One call -/

/-- What a draft remembers of the declaring calls that led to it. -/
structure Draft.After (d : Draft) (calls : List Call) : Prop where
  names : d.names = calls.filterMap declaredName?
  hasDefault : d.hasDefault = true ↔ ∃ c ∈ calls, c.1 = .defaultArgument
  doc : d.doc.isSome = true ↔ ∃ c ∈ calls, c.1 = .doc

/-- Tokens of which every string literal can be decoded. -/
def Decodable (ts : List Token) : Prop :=
  ∀ t ∈ ts, t.isString = true → (StringLiteral.decodeToken? t).isSome = true

theorem Draft.After.hasDefault_eq_false_iff (h : d.After calls) :
    d.hasDefault = false ↔ ∀ c ∈ calls, c.1 ≠ .defaultArgument := by
  rw [← Bool.not_eq_true, h.hasDefault]
  simp only [not_exists, not_and, ne_eq]

theorem Draft.After.doc_eq_none_iff (h : d.After calls) :
    d.doc = none ↔ ∀ c ∈ calls, c.1 ≠ .doc := by
  rw [← Option.not_isSome_iff_eq_none, h.doc]
  simp only [not_exists, not_and, ne_eq]

/-- A handler accepts a call exactly if the call may stand after the calls before it. -/
theorem Draft.After.exists_declares_iff (h : d.After calls) :
    (∃ d', d.Declares source m call d') ↔ Extends calls (m, call.items) := by
  constructor
  · rintro ⟨d', hstep⟩
    cases hstep with
    | argument hstep =>
      obtain ⟨hdefault, nameItem, first, more, name, declared, hitems, hname, htypes, hfresh, -⟩ :=
        Draft.argument_eq_ok_iff.1 hstep
      obtain ⟨t, rfl, -, -, rfl⟩ := readName_eq_ok_iff.1 hname
      rw [hitems]
      refine ⟨.argument (exists_readName_iff.1 ⟨_, hname⟩) (by simp)
        (exists_readTypes_iff.1 ⟨_, htypes⟩), ?_, ?_, by simp⟩
      · intro n hn
        obtain rfl : t.text = n := by simpa [declaredName?] using hn
        exact h.names ▸ hfresh
      · exact fun _ => h.hasDefault_eq_false_iff.1 hdefault
    | defaultArgument hstep =>
      obtain ⟨nameItem, type, value, name, hitems, hname, hfresh, -⟩ :=
        Draft.defaultArgument_eq_ok_iff.1 hstep
      obtain ⟨t, rfl, -, -, rfl⟩ := readName_eq_ok_iff.1 hname
      rw [hitems]
      refine ⟨.defaultArgument (exists_readName_iff.1 ⟨_, hname⟩), ?_, by simp, by simp⟩
      intro n hn
      obtain rfl : t.text = n := by simpa [declaredName?] using hn
      exact h.names ▸ hfresh
    | doc hstep =>
      obtain ⟨hdoc, item, hitems, hstrings, -⟩ := Draft.document_eq_ok_iff.1 hstep
      rw [hitems]
      exact ⟨.doc hstrings, by simp [declaredName?], by simp, fun _ => h.doc_eq_none_iff.1 hdoc⟩
  · rintro ⟨hdecl, hfresh, hdefault, hdoc⟩
    generalize hitems : call.items = items at hdecl hfresh hdefault hdoc
    cases hdecl with
    | argument hname hsome htypes =>
      obtain ⟨t, rfl, hkind, hbound⟩ := hname
      obtain ⟨first, more, rfl⟩ := List.exists_cons_of_ne_nil hsome
      obtain ⟨declared, hread⟩ := (@exists_readTypes_iff source t.text first more).2 htypes
      exact ⟨_, .argument (Draft.argument_eq_ok_iff.2 ⟨h.hasDefault_eq_false_iff.2 (hdefault rfl), [t],
        first, more, t.text, declared, hitems, readName_eq_ok_iff.2 ⟨t, rfl, hkind, hbound, rfl⟩, hread,
        h.names ▸ hfresh t.text rfl, rfl⟩)⟩
    | defaultArgument hname =>
      obtain ⟨t, rfl, hkind, hbound⟩ := hname
      exact ⟨_, .defaultArgument (Draft.defaultArgument_eq_ok_iff.2 ⟨[t], _, _, t.text, hitems,
        readName_eq_ok_iff.2 ⟨t, rfl, hkind, hbound, rfl⟩, h.names ▸ hfresh t.text rfl, rfl⟩)⟩
    | doc hstrings =>
      exact ⟨_, .doc (Draft.document_eq_ok_iff.2
        ⟨h.doc_eq_none_iff.2 (hdoc rfl), _, hitems, hstrings, rfl⟩)⟩

/-- After a call a draft remembers the call too. Documentation counts as given because its literals
can be decoded. -/
theorem Draft.After.declares (h : d.After calls) (hstep : d.Declares source m call d')
    (hdecode : ∀ item ∈ call.items, Decodable item) : d'.After (calls ++ [(m, call.items)]) := by
  cases hstep with
  | argument hstep =>
    obtain ⟨-, nameItem, first, more, name, declared, hitems, hname, -, -, rfl⟩ :=
      Draft.argument_eq_ok_iff.1 hstep
    obtain ⟨t, rfl, -, -, rfl⟩ := readName_eq_ok_iff.1 hname
    refine ⟨?_, ?_, ?_⟩
    · rw [List.filterMap_append, ← h.names, hitems]
      simp [Draft.names, Draft.typed, declaredName?]
    · simp [h.hasDefault]
    · simp [h.doc]
  | defaultArgument hstep =>
    obtain ⟨nameItem, type, value, name, hitems, hname, -, rfl⟩ :=
      Draft.defaultArgument_eq_ok_iff.1 hstep
    obtain ⟨t, rfl, -, -, rfl⟩ := readName_eq_ok_iff.1 hname
    refine ⟨?_, ?_, ?_⟩
    · rw [List.filterMap_append, ← h.names, hitems]
      simp [Draft.names, Draft.defaulted, declaredName?]
    · simp
    · simp [h.doc]
  | doc hstep =>
    obtain ⟨-, item, hitems, hstrings, rfl⟩ := Draft.document_eq_ok_iff.1 hstep
    have hdecoded : (StringLiteral.decode? item).isSome = true :=
      StringLiteral.isSome_decode? fun t ht => hdecode item (by simp [hitems]) t ht (hstrings t ht)
    refine ⟨?_, ?_, ?_⟩
    · rw [List.filterMap_append, ← h.names]
      simp [Draft.names, declaredName?]
    · simp [h.hasDefault]
    · simp [hdecoded]

theorem Draft.After.keepGap (h : d.After calls) (n : Nat) : (d.keepGap source n).After calls := by
  obtain ⟨p, hp⟩ := d.keepGap_eq source n
  rw [hp]
  exact ⟨h.names, h.hasDefault, h.doc⟩

/-! ### Runs of calls -/

theorem interleaved_nil_iff : Interleaved [] ts ↔ HostTokens ts := by
  induction ts with
  | nil => exact ⟨fun _ => hostTokens_nil, fun _ => .done⟩
  | cons t ts ih =>
    rw [hostTokens_cons, ← ih]
    constructor
    · rintro (_ | ⟨plain, next⟩)
      exact ⟨plain, next⟩
    · rintro ⟨plain, next⟩
      exact .host plain next

/-- The first call stands behind tokens of the host language. -/
theorem interleaved_cons_iff {items : List (List Token)} :
    Interleaved ((m, items) :: calls) ts ↔
      ∃ gap t after close rest, ts = gap ++ t :: after ∧ HostTokens gap ∧
        Marker.ofToken? t = some m ∧ MarkerCall.IsCall after items close rest ∧
        Interleaved calls rest := by
  constructor
  · intro h
    generalize hall : (m, items) :: calls = all at h
    induction h with
    | done => cases hall
    | host plain _ ih =>
      obtain ⟨gap, t, after, close, rest, rfl, hgap, hcall⟩ := ih hall
      exact ⟨_ :: gap, t, after, close, rest, rfl, hostTokens_cons.2 ⟨plain, hgap⟩, hcall⟩
    | call marker shape next =>
      cases hall
      exact ⟨[], _, _, _, _, rfl, hostTokens_nil, marker, shape, next⟩
  · rintro ⟨gap, t, after, close, rest, rfl, hgap, marker, shape, next⟩
    induction gap with
    | nil => exact .call marker shape next
    | cons g gap ih =>
      obtain ⟨plain, hgap⟩ := hostTokens_cons.1 hgap
      exact .host plain (ih hgap)

theorem Declarations.of_append {more : List Call} (h : Declarations (calls ++ more)) :
    Declarations calls where
  declaring c hc := h.declaring c (by simp [hc])
  names := by
    have hnames := h.names
    rw [List.filterMap_append, List.nodup_append] at hnames
    exact hnames.1
  defaultsLast := (List.pairwise_append.1 h.defaultsLast).1
  oneDoc := (List.pairwise_append.1 h.oneDoc).1

theorem Decodable.of_isCall {items : List (List Token)} {close : Token} (h : Decodable ts)
    (hcall : MarkerCall.IsCall ts items close rest) :
    (∀ item ∈ items, Decodable item) ∧ Decodable rest := by
  obtain ⟨hitems, hrest⟩ := hcall.subset
  exact ⟨fun item hitem t ht => h t (hitems item hitem t ht), fun t ht => h t (hrest t ht)⟩

/-- Calls that lead from some tokens to the ones that are left. -/
def Passed (calls : List Call) (ts rest : List Token) : Prop :=
  ∃ front, ts = front ++ rest ∧ Interleaved calls front

theorem Passed.refl (ts : List Token) : Passed [] ts ts := ⟨[], rfl, .done⟩

theorem Interleaved.append {front : List Token} {more : List Call} (h : Interleaved calls front)
    (hmore : Interleaved more ts) : Interleaved (calls ++ more) (front ++ ts) := by
  induction h with
  | done => exact hmore
  | host plain _ ih => exact .host plain ih
  | call marker shape _ ih => exact .call marker (shape.append ts) ih

theorem Passed.interleaved {tail : List Call} (h : Passed calls ts rest)
    (htail : Interleaved tail rest) : Interleaved (calls ++ tail) ts := by
  obtain ⟨front, rfl, hfront⟩ := h
  exact hfront.append htail

theorem Passed.trans {more : List Call} {rest' : List Token} (h : Passed calls ts rest)
    (h' : Passed more rest rest') : Passed (calls ++ more) ts rest' := by
  obtain ⟨front, rfl, hfront⟩ := h
  obtain ⟨front', rfl, hfront'⟩ := h'
  exact ⟨front ++ front', by simp, hfront.append hfront'⟩

theorem Passed.host {t : Token} (plain : Marker.ofToken? t = none) : Passed [] (t :: rest) rest :=
  ⟨[t], rfl, .host plain .done⟩

theorem HostTokens.passed {gap : List Token} (h : HostTokens gap) : Passed [] (gap ++ rest) rest :=
  ⟨gap, rfl, interleaved_nil_iff.2 h⟩

theorem Passed.marked {t close : Token} {after : List Token} {items : List (List Token)}
    (marker : Marker.ofToken? t = some m) (shape : MarkerCall.IsCall after items close rest) :
    Passed [(m, items)] (t :: after) rest := by
  obtain ⟨opener, inner, rfl, hshape⟩ := shape
  exact ⟨t :: opener :: (inner ++ [close]), by simp, .call marker ⟨opener, inner, rfl, hshape⟩ .done⟩

/-- A run passes declarations that go on with those before it, and the call that begins the body. -/
theorem exists_passed_of_run {r : Draft × Nat × List Token} (hrun : DeclarationRun source d ts r)
    (h : d.After calls) (hcalls : Declarations calls) (hdecode : Decodable ts) :
    ∃ decls, Declarations (calls ++ decls) ∧ Passed (decls ++ [(.beginCode, [])]) ts r.2.2 := by
  induction hrun generalizing calls with
  | host plain _ ih =>
    obtain ⟨decls, hdecls, hpass⟩ := ih h hcalls fun t ht => hdecode t (List.mem_cons_of_mem _ ht)
    exact ⟨decls, hdecls, (Passed.host plain).trans hpass⟩
  | @declare d d' t rest rest' m call r marker read step _ ih =>
    have hshape := (MarkerCall.read_eq_ok_iff.1 read).2
    obtain ⟨hitems, hrest⟩ := Decodable.of_isCall
      (fun t ht => hdecode t (List.mem_cons_of_mem _ ht)) hshape
    have hbefore : (d.keepGap source t.start).After calls := h.keepGap t.start
    have hextends := hbefore.exists_declares_iff.1 ⟨d', step⟩
    have hafter := hbefore.declares step hitems
    have hnext : Draft.After { d' with gapStart := call.close.stop } (calls ++ [(m, call.items)]) :=
      ⟨hafter.names, hafter.hasDefault, hafter.doc⟩
    obtain ⟨decls, hdecls, hpass⟩ := ih hnext (declarations_concat_iff.2 ⟨hcalls, hextends⟩) hrest
    exact ⟨(m, call.items) :: decls, by simpa using hdecls, (Passed.marked marker hshape).trans hpass⟩
  | begin marker read empty =>
    have hshape := (MarkerCall.read_eq_ok_iff.1 read).2
    rw [empty] at hshape
    exact ⟨[], by simpa using hcalls, .marked marker hshape⟩

/-- The calls of a run go on with the declarations before it, up to the call that begins the body.
-/
theorem exists_calls_of_run {r : Draft × Nat × List Token} (hrun : DeclarationRun source d ts r)
    (h : d.After calls) (hcalls : Declarations calls) (hdecode : Decodable ts) :
    ∃ decls, Declarations (calls ++ decls) ∧
      ∀ tail, Interleaved tail r.2.2 → Interleaved (decls ++ (.beginCode, []) :: tail) ts := by
  obtain ⟨decls, hdecls, hpass⟩ := exists_passed_of_run hrun h hcalls hdecode
  exact ⟨decls, hdecls, fun tail htail => by simpa using hpass.interleaved htail⟩

/-- Calls that go on with the declarations before them, up to the one that begins the body, are run
through. -/
theorem exists_run_of_calls {all decls tail : List Call} (hall : Interleaved all ts)
    (hsplit : all = decls ++ (.beginCode, []) :: tail) (h : d.After calls)
    (hcalls : Declarations (calls ++ decls)) (hdecode : Decodable ts) :
    ∃ r, DeclarationRun source d ts r ∧ Interleaved tail r.2.2 := by
  induction hall generalizing d calls decls with
  | done => exact absurd hsplit (by simp)
  | host plain _ ih =>
    obtain ⟨r, hrun, htail⟩ := ih hsplit h hcalls fun t ht => hdecode t (List.mem_cons_of_mem _ ht)
    exact ⟨r, .host plain hrun, htail⟩
  | @call later m items t close after rest marker shape next ih =>
    have hread : MarkerCall.read t after = .ok (⟨t, items, close⟩, rest) :=
      MarkerCall.read_eq_ok_iff.2 ⟨rfl, shape⟩
    obtain ⟨hitems, hrest⟩ := Decodable.of_isCall
      (fun t ht => hdecode t (List.mem_cons_of_mem _ ht)) shape
    cases decls with
    | nil =>
      obtain ⟨hcall, rfl⟩ := List.cons.inj hsplit
      obtain ⟨rfl, rfl⟩ := Prod.mk.inj hcall
      exact ⟨_, .begin marker hread rfl, next⟩
    | cons c decls =>
      obtain ⟨rfl, hlater⟩ := List.cons.inj hsplit
      have hcalls' : Declarations (calls ++ [(m, items)] ++ decls) := by simpa using hcalls
      have hbefore : (d.keepGap source t.start).After calls := h.keepGap t.start
      obtain ⟨d', hstep⟩ := (@Draft.After.exists_declares_iff source _ calls m ⟨t, items, close⟩
        hbefore).2 (declarations_concat_iff.1 hcalls'.of_append).2
      have hafter := hbefore.declares hstep hitems
      have hnext : Draft.After { d' with gapStart := close.stop } (calls ++ [(m, items)]) :=
        ⟨hafter.names, hafter.hasDefault, hafter.doc⟩
      obtain ⟨r, hrun, htail⟩ := ih hlater hnext hcalls' hrest
      exact ⟨r, .declare marker hread hstep hrun, htail⟩

/-! ### Whole texts -/

/-- The body and what follows it hold no call, or the one that closes the body. -/
theorem exists_body_iff :
    (∃ e moves, body ts = .ok (e, moves) ∧ HostTokens e.after) ↔
      ∃ tail, (tail = [] ∨ tail = [(.endCode, [])]) ∧ Interleaved tail ts := by
  constructor
  · rintro ⟨e, moves, hbody, hafter⟩
    rcases body_ok_cases hbody with ⟨hhost, -⟩ | ⟨gap, t, after, call, rest, rfl, hgap, marker, read,
      empty, rfl⟩
    · exact ⟨[], .inl rfl, interleaved_nil_iff.2 hhost⟩
    · have hshape := (MarkerCall.read_eq_ok_iff.1 read).2
      rw [empty] at hshape
      exact ⟨_, .inr rfl, interleaved_cons_iff.2 ⟨gap, t, after, _, rest, rfl, hgap, marker, hshape,
        interleaved_nil_iff.2 hafter⟩⟩
  · rintro ⟨tail, rfl | rfl, htail⟩
    · obtain ⟨moves, hbody⟩ := body_of_hostTokens (interleaved_nil_iff.1 htail)
      exact ⟨_, moves, hbody, hostTokens_nil⟩
    · obtain ⟨gap, t, after, close, rest, rfl, hgap, marker, shape, hrest⟩ :=
        interleaved_cons_iff.1 htail
      have hread : MarkerCall.read t after = .ok (⟨t, [], close⟩, rest) :=
        MarkerCall.read_eq_ok_iff.2 ⟨rfl, shape⟩
      obtain ⟨moves, hbody⟩ := body_of_endCode hgap marker hread rfl
      exact ⟨_, moves, hbody, interleaved_nil_iff.1 hrest⟩

theorem exists_tokensToDeclaration_iff (hdecode : Decodable ts) :
    (∃ r, tokensToDeclaration path source ts = .ok r) ↔ IsSentence ts := by
  constructor
  · rintro ⟨⟨decl, unclosed⟩, h⟩
    obtain ⟨d₀, ts₁, d, start, ts₂, e, moves, hpre, hrun, hbody, hafter, -, -⟩ :=
      tokensToDeclaration_eq_ok_iff.1 h
    obtain ⟨gap, t, after, call, item, name, rfl, hgap, marker, read, hitems, hname, rfl⟩ :=
      exists_of_preamble_ok hpre
    have hshape := (MarkerCall.read_eq_ok_iff.1 read).2
    rw [hitems] at hshape
    obtain ⟨-, hrest⟩ := Decodable.of_isCall (fun t ht => hdecode t (by simp [ht])) hshape
    obtain ⟨decls, hdecls, hall⟩ := exists_calls_of_run hrun
      ⟨by simp [Draft.names], by simp, by simp⟩ declarations_nil hrest
    obtain ⟨tail, htail, hbodyCalls⟩ := exists_body_iff.1 ⟨e, moves, hbody, hafter⟩
    exact ⟨item, decls, tail, exists_readName_iff.1 ⟨name, hname⟩, hdecls, htail,
      interleaved_cons_iff.2 ⟨gap, t, after, _, _, rfl, hgap, marker, hshape, hall tail hbodyCalls⟩⟩
  · rintro ⟨item, decls, tail, hname, hdecls, htail, hall⟩
    obtain ⟨gap, t, after, close, rest, rfl, hgap, marker, shape, hnext⟩ := interleaved_cons_iff.1 hall
    have hread : MarkerCall.read t after = .ok (⟨t, [item], close⟩, rest) :=
      MarkerCall.read_eq_ok_iff.2 ⟨rfl, shape⟩
    obtain ⟨-, hrest⟩ := Decodable.of_isCall (fun t ht => hdecode t (by simp [ht])) shape
    obtain ⟨name, hname⟩ :=
      (@exists_readName_iff source ⟨t, [item], close⟩ item "function name").2 hname
    obtain ⟨d₀, hpre⟩ : ∃ d, preamble path source (gap ++ t :: after) = .ok (d, rest) :=
      preamble_of_function hgap marker hread rfl hname
    obtain ⟨_, _, _, _, _, _, -, -, -, -, -, -, hd₀⟩ := exists_of_preamble_ok hpre
    have hstart : d₀.After [] := by
      rw [hd₀]
      exact ⟨by simp [Draft.names], by simp, by simp⟩
    obtain ⟨⟨d, start, ts₂⟩, hrun, hbodyCalls⟩ := exists_run_of_calls hnext rfl hstart hdecls hrest
    obtain ⟨e, moves, hbody, hafter⟩ := exists_body_iff.2 ⟨tail, htail, hbodyCalls⟩
    exact ⟨_, tokensToDeclaration_eq_ok_iff.2 ⟨d₀, rest, d, start, ts₂, e, moves, hpre, hrun, hbody,
      hafter, rfl, rfl⟩⟩

theorem exists_scan_iff_tokensToDeclaration {text : String} : (∃ s, scan text path = .ok s) ↔
    ∃ r, tokensToDeclaration path text.toList (Lexer.tokens text.toList) = .ok r := by
  unfold scan
  dsimp only
  split
  · next decl unclosed hok => simp [hok]
  · next b herror => simp [herror]

theorem decodable_tokens (source : List Char) : Decodable (Lexer.tokens source) :=
  fun _ ht hstring => StringLiteral.isSome_decodeToken? ht hstring

/-- A scan passes the call that names the function, runs through the declarations behind it, and leaves
the calls of the body. -/
theorem exists_run_of_scan {text : String} {s : Scanned} (h : scan text path = .ok s) :
    ∃ name d₀ ts₁ d start ts₂ e moves tail, DeclarationRun text.toList d₀ ts₁ (d, start, ts₂) ∧
      ts₁ <:+ Lexer.tokens text.toList ∧ d₀.arguments = [] ∧
      (∀ inner, Interleaved inner ts₁ →
        Interleaved ((.function, [name]) :: inner) (Lexer.tokens text.toList)) ∧
      (tail = [] ∨ tail = [(.endCode, [])]) ∧ Interleaved tail ts₂ ∧
      s.declaration = d.finish path text.toList start e moves := by
  obtain ⟨d₀, ts₁, d, start, ts₂, e, moves, hpre, hrun, hbody, hafter, hdecl⟩ := exists_of_scan_ok h
  obtain ⟨gap, t, after, call, item, name, htokens, hgap, marker, read, hitems, -, rfl⟩ :=
    exists_of_preamble_ok hpre
  have hshape := (MarkerCall.read_eq_ok_iff.1 read).2
  rw [hitems] at hshape
  obtain ⟨tail, htail, hbodyCalls⟩ := exists_body_iff.1 ⟨e, moves, hbody, hafter⟩
  refine ⟨item, _, ts₁, d, start, ts₂, e, moves, tail, hrun, ?_, rfl, fun inner hinner => ?_, htail,
    hbodyCalls, hdecl⟩
  · rw [htokens]
    exact hshape.isInfix.2.trans ((List.suffix_cons t after).trans (List.suffix_append gap (t :: after)))
  · rw [htokens]
    exact interleaved_cons_iff.2 ⟨gap, t, after, _, _, rfl, hgap, marker, hshape, hinner⟩

/-- A text scans exactly if its tokens, without comments, are a sentence of the grammar. -/
theorem exists_scan_iff {text : String} :
    (∃ s, scan text path = .ok s) ↔ IsSentence (Lexer.tokens text.toList) :=
  exists_scan_iff_tokensToDeclaration.trans
    (exists_tokensToDeclaration_iff (decodable_tokens text.toList))

end Monomorph.Scan
