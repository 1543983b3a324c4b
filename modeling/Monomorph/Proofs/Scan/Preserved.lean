import Monomorph.Proofs.Scan.Draft
import Monomorph.Proofs.Token.Stretch

/-!
What a scan keeps of host code. The text in front of the first call and the stretches between the
declaring calls make up the preamble, the text from the call that begins the body to the marker that
closes it is the body, and what follows the closing call is the epilogue. The preamble is sliced,
stripped of newlines and joined; its tokens are those of the host code all the same, in their order.
-/

namespace Monomorph.Scan

open Lexer Text

/-- Host code among declarations: tokens up to the call that begins the body, those of them that belong
to no declaring call, the parenthesis that closes the call, and the tokens of the body. -/
inductive Among : List Token → List Token → Token → List Token → Prop
  | host {ts host rest : List Token} {t close : Token} (plain : Marker.ofToken? t = none)
    (next : Among ts host close rest) : Among (t :: ts) (t :: host) close rest
  | declare {ts after host rest : List Token} {t close paren : Token} {m : Marker}
    {items : List (List Token)} (marker : Marker.ofToken? t = some m)
    (declares : m ∈ [.argument, .defaultArgument, .doc])
    (shape : MarkerCall.IsCall after items paren ts) (next : Among ts host close rest) :
    Among (t :: after) host close rest
  | begin {after rest : List Token} {t close : Token} (marker : Marker.ofToken? t = some .beginCode)
    (shape : MarkerCall.IsCall after [] close rest) : Among (t :: after) [] close rest

/-- Only blanks separate a place of the text from the start of its line. -/
def StartsLine (source : List Char) (n : Nat) : Prop :=
  ∃ lines indent, source.take n = lines ++ indent ∧ (lines = [] ∨ lines.getLast? = some '\n') ∧
    ∀ c ∈ indent, isBlank c = true

variable {source : List Char} {d d' : Draft} {call : MarkerCall} {m : Marker}

/-- A declaring call does not touch the preamble. -/
theorem Draft.Declares.preamble_eq (h : d.Declares source m call d') :
    d'.preamble = d.preamble ∧ m ∈ [.argument, .defaultArgument, .doc] := by
  cases h with
  | argument h =>
    obtain ⟨-, _, _, _, _, _, -, -, -, -, rfl⟩ := Draft.argument_eq_ok_iff.1 h
    exact ⟨rfl, by decide⟩
  | defaultArgument h =>
    obtain ⟨_, _, _, _, -, -, -, rfl⟩ := Draft.defaultArgument_eq_ok_iff.1 h
    exact ⟨rfl, by decide⟩
  | doc h =>
    obtain ⟨-, _, -, -, rfl⟩ := Draft.document_eq_ok_iff.1 h
    exact ⟨rfl, by decide⟩

/-- What is trimmed off stands at the ends. -/
theorem exists_trimBy (q : Char → Bool) (s : List Char) :
    ∃ left right, s = left ++ (trimBy q s ++ right) ∧ (∀ c ∈ left, q c = true) ∧
      ∀ c ∈ right, q c = true := by
  have hall : ∀ l : List Char, ∀ c ∈ l.takeWhile q, q c = true := fun l =>
    List.all_eq_true.1 List.all_takeWhile
  refine ⟨s.takeWhile q, ((s.dropWhile q).reverse.takeWhile q).reverse, ?_, hall s, fun c hc =>
    hall _ c (List.mem_reverse.1 hc)⟩
  rw [trimBy, ← List.reverse_append, List.takeWhile_append_dropWhile, List.reverse_reverse,
    List.takeWhile_append_dropWhile]

/-- The text that is left of a rest: a stretch is dropped, and then these lexemes are kept. -/
def Leaves (rest kept : List Char) (ls : List (Token.Kind × List Char)) : Prop :=
  ∃ v r, rest = v ++ r ∧ Clip r kept ls

/-- A gap between calls leaves its tokens in the preamble. -/
theorem exists_of_keepGap {gap v rest kept : List Char} {n : Nat}
    {ls ks : List (Token.Kind × List Char)} (hgap : slice source d.gapStart n = gap)
    (hpass : Passes gap ls (v ++ rest)) (hv : v ≠ []) (hrest : Leaves rest kept ks) :
    ∃ part ls', (d.keepGap source n).preamble = d.preamble ++ part ∧
      Leaves (gap ++ (v ++ rest)) (part ++ kept) ls' ∧ visible ls' = visible ls ++ visible ks := by
  obtain ⟨v', r, rfl, hclip⟩ := hrest
  unfold Draft.keepGap
  dsimp only
  rw [hgap]
  split
  · next hempty =>
    -- nothing but blanks and comments is dropped
    have hlexemes := (hpass.clip (.done _)).lexemes_eq
    rw [List.append_nil, List.append_nil] at hlexemes
    have htokens := map_content_tokens gap 1
    rw [List.isEmpty_iff.1 hempty, hlexemes] at htokens
    exact ⟨[], ks, by simp, ⟨gap ++ (v ++ v'), r, by simp, hclip⟩, by rw [← htokens]; rfl⟩
  · obtain ⟨left, right, hsplit, hleft, hright⟩ := exists_trimBy (· == '\n') gap
    have hblank : ∀ {c : Char}, (c == '\n') = true → isBlank c = true := fun h => by
      rw [beq_iff_eq.1 h]
      decide
    have hline : right = [] ∨ right.head? = some '\n' := by
      cases right with
      | nil => exact .inl rfl
      | cons c right => exact .inr (by simpa using hright c List.mem_cons_self)
    rw [hsplit] at hpass
    have hkept := hpass.of_append fun c hc => hblank (hleft c hc)
    rw [← List.append_assoc] at hkept
    have hnone : ∀ b ∈ ([] : List Char), isBlank b = true := by simp
    have hclipped := hkept.clip_line (by simp [hv]) (fun c hc => hblank (hright c hc)) hline hnone
      hclip
    refine ⟨trimBy (· == '\n') gap ++ ['\n'], ls ++ ks, by simp,
      ⟨left, trimBy (· == '\n') gap ++ (right ++ ((v ++ v') ++ r)), ?_, by simpa using hclipped⟩,
      visible_append ls ks⟩
    conv_lhs => rw [hsplit]
    simp

/-- The gap before a marker, and where its call ends. -/
theorem exists_of_marker {n : Nat} {u rest : List Char} {ls : List (Token.Kind × List Char)}
    {here : Lexer.Place} {t close : Token} {after ts : List Token} {items : List (List Token)}
    (hsource : source.drop n = u ++ rest) (hpass : Passes u ls rest)
    (hhere : here.offset = n + u.length) (htokens : t :: after = tokensFrom here rest)
    (shape : MarkerCall.IsCall after items close ts) :
    ∃ gap ls' v rest' here', u ++ rest = gap ++ (v ++ rest') ∧
      slice source n t.start = gap ∧ Passes gap ls' (v ++ rest') ∧
      visible ls' = visible ls ∧ v ≠ [] ∧ source.drop close.stop = rest' ∧
      here'.offset = close.stop ∧ ts = tokensFrom here' rest' := by
  obtain ⟨u', ks, x, here', rfl, hu', hks, hcut, -, hstart, hstop, hhere', hafter⟩ :=
    exists_of_tokensFrom_cons htokens.symm
  rw [hafter] at shape
  obtain ⟨w, y, here'', rfl, hclose, hhere'', hts⟩ := exists_of_isCall shape
  refine ⟨u ++ u', ls ++ ks, t.text.toList ++ w, y, here'', by simp, ?_, ?_, ?_, ?_, ?_, hhere'',
    hts⟩
  · have hlength : t.start - n = (u ++ u').length := by
      rw [hstart, hhere, List.length_append]
      omega
    rw [slice, hsource, hlength, ← List.append_assoc, List.take_left]
  · have hrest := hpass.append hu'
    rwa [List.append_assoc]
  · rw [visible_append, hks, List.append_nil]
  · exact List.append_ne_nil_of_left_ne_nil hcut.1 w
  · have hlength : close.stop = n + (u ++ (u' ++ (t.text.toList ++ w))).length := by
      rw [hclose, hhere', hstop, hstart, hhere]
      simp only [List.length_append]
      omega
    have hsplit : u ++ (u' ++ (t.text.toList ++ (w ++ y))) =
        (u ++ (u' ++ (t.text.toList ++ w))) ++ y := by simp
    rw [hlength, ← List.drop_drop, hsource, hsplit, List.drop_left]

/-- From a place between two calls on, with these lexemes since the last one: what the preamble still
gets, and the tokens it gets them from. -/
theorem DeclarationRun.exists_preamble {ts : List Token} {r : Draft × Nat × List Token}
    (hrun : DeclarationRun source d ts r) {u rest : List Char}
    {ls : List (Token.Kind × List Char)} {here : Lexer.Place}
    (hsource : source.drop d.gapStart = u ++ rest) (hpass : Passes u ls rest)
    (hhere : here.offset = d.gapStart + u.length) (htokens : ts = tokensFrom here rest) :
    ∃ host close kept ks, Among ts host close r.2.2 ∧ r.2.1 = close.stop ∧
      r.1.preamble = d.preamble ++ kept ∧ Leaves (u ++ rest) kept ks ∧
      visible ks = visible ls ++ host.map Token.content := by
  induction hrun generalizing u rest ls here with
  | @host d t after r plain next ih =>
    obtain ⟨u', ls', x, here', rfl, hu', hls', hcut, hkind, hstart, hstop, hhere', hafter⟩ :=
      exists_of_tokensFrom_cons htokens.symm
    have hmore : Passes (u ++ (u' ++ t.text.toList)) (ls ++ (ls' ++ [(t.kind, t.text.toList)])) x :=
      Passes.append (by rwa [List.append_assoc]) (hu'.append (.token hcut))
    obtain ⟨host, close, kept, ks, hamong, hclose, hpreamble, hleaves, hks⟩ :=
      ih (by rw [hsource]; simp) hmore
        (by rw [hhere', hstop, hstart, hhere]; simp only [List.length_append]; omega) hafter
    refine ⟨t :: host, close, kept, ks, .host plain hamong, hclose, hpreamble, ?_, ?_⟩
    · simpa using hleaves
    · rw [hks, visible_append, visible_append, hls', visible_token hkind, List.map_cons]
      simp
  | @declare d d' t after ts m call r marker read step next ih =>
    have shape := (MarkerCall.read_eq_ok_iff.1 read).2
    obtain ⟨gap, ls', v, rest', here', hsplit, hgap, hpass', hls', hv, hdrop, hhere', hts⟩ :=
      exists_of_marker hsource hpass hhere htokens shape
    obtain ⟨host, close, kept, ks, hamong, hclose, hpreamble, hleaves, hks⟩ :=
      ih (u := []) hdrop (.nil rest') hhere' hts
    obtain ⟨part, ks', hpart, hleaves', hks'⟩ := exists_of_keepGap hgap hpass' hv hleaves
    obtain ⟨hsame, hdeclares⟩ := step.preamble_eq
    refine ⟨host, close, part ++ kept, ks', .declare marker hdeclares shape hamong, hclose, ?_,
      hsplit ▸ hleaves', ?_⟩
    · rw [hpreamble, ← List.append_assoc, ← hpart, ← hsame]
    · rw [hks', hls', hks]
      rfl
  | @begin d t after ts call marker read empty =>
    have shape := (MarkerCall.read_eq_ok_iff.1 read).2
    rw [empty] at shape
    obtain ⟨gap, ls', v, rest', here', hsplit, hgap, hpass', hls', hv, -, -, -⟩ :=
      exists_of_marker hsource hpass hhere htokens shape
    have hend : Leaves rest' [] [] := ⟨rest', [], by simp, .done []⟩
    obtain ⟨part, ks', hpart, hleaves', hks'⟩ := exists_of_keepGap hgap hpass' hv hend
    refine ⟨[], call.close, part, ks', .begin marker shape, rfl, hpart, ?_, ?_⟩
    · rw [hsplit, ← List.append_nil part]
      exact hleaves'
    · rw [hks', hls']
      rfl

/-! ### The whole scan -/

/-- The tokens of an annotated text: host code, the marker that names the function, host code among
declarations, the parenthesis that closes the call which begins the body, and the tokens of the body
and after it. -/
inductive Stretches : List Token → List Token → Token → List Token → Token → List Token → Prop
  | intro {before after rest host body : List Token} {fn paren close : Token} {name : List Token}
    (plain : HostTokens before) (function : Marker.ofToken? fn = some .function)
    (shape : MarkerCall.IsCall after [name] paren rest) (among : Among rest host close body) :
    Stretches (before ++ fn :: after) before fn host close body

/-- A call is read in one way only. -/
theorem eq_of_isCall {ts rest rest' : List Token} {items items' : List (List Token)}
    {close close' : Token} (h : MarkerCall.IsCall ts items close rest)
    (h' : MarkerCall.IsCall ts items' close' rest') :
    items = items' ∧ close = close' ∧ rest = rest' := by
  have hread : MarkerCall.read close ts = .ok (⟨close, items, close⟩, rest) :=
    MarkerCall.read_eq_ok_iff.2 ⟨rfl, h⟩
  have hread' : MarkerCall.read close ts = .ok (⟨close, items', close'⟩, rest') :=
    MarkerCall.read_eq_ok_iff.2 ⟨rfl, h'⟩
  simpa [hread, and_assoc] using hread'

theorem Among.unique {ts host host' rest rest' : List Token} {close close' : Token}
    (h : Among ts host close rest) (h' : Among ts host' close' rest') :
    host = host' ∧ close = close' ∧ rest = rest' := by
  induction h generalizing host' with
  | host plain next ih =>
    cases h' with
    | host plain' next' =>
      obtain ⟨rfl, hsame⟩ := ih next'
      exact ⟨rfl, hsame⟩
    | declare marker => rw [plain] at marker; cases marker
    | begin marker => rw [plain] at marker; cases marker
  | declare marker declares shape next ih =>
    cases h' with
    | host plain => rw [marker] at plain; cases plain
    | declare marker' _ shape' next' =>
      obtain ⟨-, -, rfl⟩ := eq_of_isCall shape shape'
      exact ih next'
    | begin marker' =>
      rw [marker] at marker'
      cases marker'
      simp at declares
  | begin marker shape =>
    cases h' with
    | host plain => rw [marker] at plain; cases plain
    | declare marker' declares =>
      rw [marker] at marker'
      cases marker'
      simp at declares
    | begin _ shape' =>
      obtain ⟨-, rfl, rfl⟩ := eq_of_isCall shape shape'
      exact ⟨rfl, rfl, rfl⟩

/-- Host tokens before a marker are all tokens before the first marker. -/
theorem takeWhile_hostTokens {before after : List Token} {t : Token} (h : HostTokens before)
    (marker : (Marker.ofToken? t).isSome = true) :
    (before ++ t :: after).takeWhile (fun t => (Marker.ofToken? t).isNone) = before := by
  refine takeWhile_append_eq_left_iff.2 ⟨fun t ht => by rw [h t ht]; rfl, ?_⟩
  intro c hc
  obtain rfl := Option.some.inj hc
  rw [← Option.not_isSome, marker]
  rfl

theorem Stretches.find?_eq {ts before host body : List Token} {fn close : Token}
    (h : Stretches ts before fn host close body) :
    ts.find? (fun t => (Marker.ofToken? t).isSome) = some fn := by
  obtain ⟨plain, function, -, -⟩ := h
  have hnone : before.find? (fun t => (Marker.ofToken? t).isSome) = none :=
    List.find?_eq_none.2 fun t ht => by rw [plain t ht]; simp
  rw [List.find?_append, hnone, Option.none_or, List.find?_cons_of_pos (by rw [function]; rfl)]

/-- The tokens of a text split in one way only. -/
theorem Stretches.unique {ts before before' host host' body body' : List Token}
    {fn fn' close close' : Token} (h : Stretches ts before fn host close body)
    (h' : Stretches ts before' fn' host' close' body') :
    before = before' ∧ fn = fn' ∧ host = host' ∧ close = close' ∧ body = body' := by
  obtain ⟨plain, function, shape, among⟩ := h
  generalize hts : before ++ fn :: _ = ts at h'
  obtain ⟨plain', function', shape', among'⟩ := h'
  have hbefore := congrArg (List.takeWhile fun t => (Marker.ofToken? t).isNone) hts
  rw [takeWhile_hostTokens plain (by rw [function]; rfl),
    takeWhile_hostTokens plain' (by rw [function']; rfl)] at hbefore
  obtain rfl := hbefore
  obtain ⟨rfl, rfl⟩ := List.cons.inj (List.append_cancel_left hts)
  obtain ⟨-, -, rfl⟩ := eq_of_isCall shape shape'
  obtain ⟨rfl, rfl, rfl⟩ := among.unique among'
  exact ⟨rfl, rfl, rfl, rfl, rfl⟩

/-- The body that starts at a place, and the host code after it: the body goes on up to the first
marker that closes it, or to the end of the text. -/
inductive BodySpan (source : List Char) (start : Nat) : List Token → String → String → Prop
  | unclosed {ts : List Token} (plain : ∀ t ∈ ts, t.isIdent "npe_end_code" = false) :
    BodySpan source start ts (String.ofList (source.drop start)) ""
  | closed {inner after rest : List Token} {t close : Token}
    (plain : ∀ t ∈ inner, t.isIdent "npe_end_code" = false)
    (marker : t.isIdent "npe_end_code" = true)
    (shape : MarkerCall.IsCall after [] close rest) :
    BodySpan source start (inner ++ t :: after) (String.ofList (slice source start t.start))
      (String.ofList (source.drop close.stop))

theorem isIdent_endCode_iff {t : Token} :
    t.isIdent "npe_end_code" = true ↔ Marker.ofToken? t = some .endCode := by
  rw [Token.isIdent, Marker.ofToken?, Bool.and_eq_true]
  split
  · next hkind =>
    constructor
    · rintro ⟨-, htext⟩
      rw [beq_iff_eq.1 htext]
      decide
    · intro hfind
      have hspelling := List.find?_some hfind
      exact ⟨hkind, beq_iff_eq.2 (beq_iff_eq.1 hspelling).symm⟩
  · next hkind => simp [hkind]

theorem HostTokens.not_isIdent {ts : List Token} (h : HostTokens ts) :
    ∀ t ∈ ts, t.isIdent "npe_end_code" = false := by
  intro t ht
  rw [Bool.eq_false_iff]
  intro hend
  have hnone := h t ht
  rw [isIdent_endCode_iff.1 hend] at hnone
  cases hnone

theorem bodySpan_of_body {ts : List Token} {e : BodyEnd} {moves : List Int} (start : Nat)
    (h : body ts = .ok (e, moves)) :
    BodySpan source start ts (String.ofList (slice source start (e.stop source.length)))
      (String.ofList (source.drop (e.resume source.length))) := by
  rcases body_ok_cases h with ⟨hhost, rfl⟩ | ⟨gap, t, after, call, rest, rfl, hgap, marker, read,
    empty, rfl⟩
  · have hspan : BodySpan source start ts (String.ofList (source.drop start)) "" :=
      .unclosed hhost.not_isIdent
    have hslice : slice source start source.length = source.drop start :=
      List.take_of_length_le (by rw [List.length_drop])
    simpa [BodyEnd.stop, BodyEnd.resume, hslice] using hspan
  · have shape := (MarkerCall.read_eq_ok_iff.1 read).2
    rw [empty] at shape
    exact .closed hgap.not_isIdent (isIdent_endCode_iff.2 marker) shape

/-- The head of a text up to a place that starts a line keeps its tokens in front of what is left of
the rest. -/
theorem lexemes_of_startsLine {gap v kept rest : List Char} {n : Nat}
    {ls ks : List (Token.Kind × List Char)} (hline : StartsLine source n) (hgap : source.take n = gap)
    (hpass : Passes gap ls (v ++ rest)) (hv : v ≠ []) (hrest : Leaves rest kept ks) :
    lexemes (gap ++ kept) = ls ++ ks := by
  obtain ⟨v', r, rfl, hclip⟩ := hrest
  obtain ⟨lines, indent, hsplit, hlines, hindent⟩ := hline
  have hnewline : isBlank '\n' = true := by decide
  -- in front of the text there may stand a newline, so that its first line is like any other
  obtain ⟨w, hw⟩ : ∃ w, '\n' :: gap = w ++ '\n' :: indent := by
    rcases hlines with rfl | hlast
    · exact ⟨[], by rw [← hgap, hsplit]; rfl⟩
    · obtain ⟨w, rfl⟩ := List.getLast?_eq_some_iff.1 hlast
      exact ⟨'\n' :: w, by rw [← hgap, hsplit]; simp⟩
  have hpass' : Passes (w ++ '\n' :: indent) ls ((v ++ v') ++ r) := by
    rw [← hw, List.append_assoc]
    exact .blank hnewline hpass
  have hclipped := hpass'.clip_line (by simp [hv]) (List.forall_mem_cons.2 ⟨hnewline, hindent⟩)
    (.inr rfl) hindent hclip
  have heq : w ++ '\n' :: (indent ++ kept) = '\n' :: (gap ++ kept) := by
    have hmore := congrArg (· ++ kept) hw
    simpa using hmore.symm
  rw [← lexemes_cons_of_isBlank hnewline, ← heq, hclipped.lexemes_eq]

/-- No host code is lost, doubled or changed by scanning. If only blanks stand before the first marker
in its line, the tokens of the preamble are the tokens before it and then those among the declarations
that belong to no call. The body is the text from the call that begins it to the marker that closes
it, and the epilogue is what follows that marker's call. -/
theorem scan_preserves {text : String} {path : Option Path} {s : Scanned}
    (h : scan text path = .ok s) :
    ∃ before fn host close body,
      Stretches (tokens text.toList) before fn host close body ∧
      (StartsLine text.toList fn.start →
        (tokens s.declaration.preamble.toList).map Token.content =
          (before ++ host).map Token.content) ∧
      BodySpan text.toList close.stop body s.declaration.body s.declaration.epilogue := by
  obtain ⟨d₀, ts₁, d, start, ts₂, e, moves, hpre, hrun, hbody, -, hdecl⟩ := exists_of_scan_ok h
  obtain ⟨before, fn, after, call, item, name, htokens, hhost, marker, read, hitems, -, rfl⟩ :=
    exists_of_preamble_ok hpre
  have shape := (MarkerCall.read_eq_ok_iff.1 read).2
  rw [hitems] at shape
  have hfrom : tokensFrom ⟨0, 1, 1⟩ text.toList = before ++ fn :: after := htokens
  obtain ⟨u, ls, rest, here, hsource, hpass, hls, hhere, hafter⟩ :=
    exists_of_tokensFrom_append hfrom
  obtain ⟨gap, ls', v, rest', here', hsplit, hgap, hpass', hls', hv, hdrop, hhere', hts⟩ :=
    exists_of_marker (n := 0) hsource hpass hhere hafter shape
  obtain ⟨host, close, kept, ks, hamong, hclose, hpreamble, hleaves, hks⟩ :=
    hrun.exists_preamble (u := []) hdrop (.nil rest') hhere' hts
  refine ⟨before, fn, host, close, ts₂, ?_, fun hline => ?_, ?_⟩
  · rw [htokens]
    exact .intro hhost marker shape hamong
  · have htext : s.declaration.preamble.toList = gap ++ kept := by
      rw [hdecl, ← hgap]
      exact String.toList_ofList.trans hpreamble
    rw [htext, map_content_tokens, lexemes_of_startsLine hline hgap hpass' hv hleaves,
      visible_append, hls', hls, hks, List.map_append]
    rfl
  · rw [hdecl, ← hclose]
    exact bodySpan_of_body start hbody

/-- Host code before, between and after the calls, and a gap that holds a comment only. -/
theorem scan_preserves_of_gaps :
    ∃ text s before fn host close body,
      scan text = .ok s ∧ Stretches (tokens text.toList) before fn host close body ∧
      (before ++ host).map (·.text) = ["int", "a", ";", "f", "(", "'x'", ")", ";"] ∧
      (tokens s.declaration.preamble.toList).map Token.content =
        (before ++ host).map Token.content ∧
      BodySpan text.toList close.stop body s.declaration.body s.declaration.epilogue := by
  obtain ⟨text, htext⟩ : ∃ text, text = "int a; // a\n  npe_function(g)f(\n" ++
      "npe_arg(x, csr_f32)/* x */npe_doc(\"d\")'x');\nnpe_begin_code()return;npe_end_code() b" :=
    ⟨_, rfl⟩
  have hvalue : (scan text).toOption.map (fun s =>
      (tokens s.declaration.preamble.toList).map (·.text)) =
        some ["int", "a", ";", "f", "(", "'x'", ")", ";"] := by
    rw [htext]
    decide +kernel
  cases hscan : scan text with
  | error e => simp [hscan, Except.toOption] at hvalue
  | ok s =>
    obtain ⟨before, fn, host, close, body, hsplit, hpreamble, hspan⟩ := scan_preserves hscan
    have hfirst : ((tokens text.toList).find? fun t => (Marker.ofToken? t).isSome).map (·.start) =
        some 14 := by
      rw [htext]
      decide +kernel
    have hstart : fn.start = 14 := by simpa [hsplit.find?_eq] using hfirst
    have hline : StartsLine text.toList fn.start := by
      rw [hstart, htext]
      exact ⟨"int a; // a\n".toList, [' ', ' '], by decide +kernel, .inr (by decide +kernel),
        by decide⟩
    have hkept := hpreamble hline
    have htexts := congrArg (List.map (·.2)) hkept
    rw [List.map_map, List.map_map] at htexts
    refine ⟨text, s, before, fn, host, close, body, hscan, hsplit, ?_, hkept, hspan⟩
    rw [hscan] at hvalue
    exact htexts.symm.trans (Option.some.inj hvalue)

end Monomorph.Scan
