import Monomorph.Emission.Specialization
import Monomorph.Proofs.Scan.Preserved
import Monomorph.Proofs.Token.Slice

/-!
A scan cuts a text where its tokens stand, and what it cut out is cut into tokens once more: a gap
between two calls, to see whether there is host code in it, and the body, to replace its aliases.
Either has the tokens that the scan found there. So a gap is kept if the scan went past a token in it,
and the aliases that are replaced in a body are those among the tokens of the text.
-/

namespace Monomorph

/-! ### Replacing along tokens -/

namespace Emission

open Lexer Text

/-- A text from an offset to where it stops, with the aliases among some of its tokens replaced. -/
def rewriteAlong (as : List (String × String)) (s : List Char) (stop : Nat) :
    Nat → List Token → List Char
  | last, [] => slice s last stop
  | last, t :: ts =>
    match t.kind, as.lookup t.text with
    | .ident, some spelling =>
      slice s last t.start ++ spelling.toList ++ rewriteAlong as s stop t.stop ts
    | _, _ => rewriteAlong as s stop last ts

variable {as : List (String × String)} {s u v w x : List Char} {here : Lexer.Place} {t : Token}
  {ts between : List Token} {last stop : Nat} {ps : List (Piece × List Char)}

theorem rewriteAlong_ident {spelling : String} (hkind : t.kind = .ident)
    (halias : as.lookup t.text = some spelling) : rewriteAlong as s stop last (t :: ts) =
      slice s last t.start ++ spelling.toList ++ rewriteAlong as s stop t.stop ts := by
  rw [rewriteAlong, hkind, halias]

theorem rewriteAlong_other (h : t.kind = .ident → as.lookup t.text = none) :
    rewriteAlong as s stop last (t :: ts) = rewriteAlong as s stop last ts := by
  rw [rewriteAlong]
  split
  · next hkind halias => rw [h hkind] at halias; cases halias
  · rfl

/-- Comments are no aliases. -/
theorem rewriteAlong_filter (comments : Bool) :
    rewriteAlong as s stop last (ts.filter (isKept comments)) = rewriteAlong as s stop last ts := by
  induction ts generalizing last with
  | nil => rfl
  | cons t ts ih =>
    by_cases ht : isKept comments t = true
    · rw [List.filter_cons_of_pos ht, rewriteAlong, rewriteAlong]
      split <;> rw [ih]
    · rw [List.filter_cons_of_neg ht, ih, rewriteAlong_other]
      intro hkind
      simp [isKept, hkind] at ht

theorem slice_append (h : last ≤ u.length) :
    slice (u ++ (v ++ x)) last (u ++ v).length = slice (u ++ (v ++ x)) last u.length ++ v := by
  have hmore : (u ++ v).length - last = (u.drop last).length + v.length := by
    rw [List.length_append, List.length_drop]
    omega
  rw [slice, slice, List.drop_append_of_le_length h, hmore, ← List.length_drop, List.take_left,
    List.take_length_add_append, List.take_left]

/-- Along the tokens of consecutive pieces, every piece is replaced or kept. -/
theorem rewriteAlong_place (as : List (String × String)) (ps : List (Piece × List Char))
    (hlast : last ≤ u.length) (hhere : here.offset = u.length) :
    rewriteAlong as (u ++ (source ps ++ w)) (u ++ source ps).length last (place here ps) =
      slice (u ++ (source ps ++ w)) last u.length ++ ps.flatMap (substitutePiece as) := by
  induction ps generalizing u here last with
  | nil => simp [source, place, rewriteAlong]
  | cons q ps ih =>
    obtain ⟨p, v⟩ := q
    have hs : u ++ (source ((p, v) :: ps) ++ w) = (u ++ v) ++ (source ps ++ w) := by simp [source]
    have hstop : u ++ source ((p, v) :: ps) = (u ++ v) ++ source ps := by simp [source]
    have hafter : (v.foldl Lexer.Place.step here).offset = (u ++ v).length := by
      rw [offset_foldl_step, hhere, List.length_append]
    have hkeep : rewriteAlong as ((u ++ v) ++ (source ps ++ w)) ((u ++ v) ++ source ps).length last
        (place (v.foldl Lexer.Place.step here) ps) =
          slice ((u ++ v) ++ (source ps ++ w)) last u.length ++
            (v ++ ps.flatMap (substitutePiece as)) := by
      rw [ih (hlast.trans (by simp)) hafter, List.append_assoc u v, slice_append hlast,
        List.append_assoc]
    rw [hs, hstop, List.flatMap_cons]
    cases p with
    | blanks | stray => exact hkeep
    | token kind =>
      rw [place]
      by_cases hkind : kind = .ident
      · subst hkind
        cases halias : as.lookup (String.ofList v) with
        | none =>
          rw [rewriteAlong_other fun _ => halias, hkeep]
          simp [substitutePiece, halias]
        | some spelling =>
          rw [rewriteAlong_ident rfl halias]
          dsimp only
          rw [ih hafter.le hafter, hafter, hhere]
          simp [substitutePiece, halias, slice]
      · rw [rewriteAlong_other fun h => absurd h hkind, hkeep, substitutePiece]
        exact fun h => hkind (Piece.token.inj h)

/-- The aliases of a stretch are those among its tokens in the text. -/
theorem substitute_between (h : Between s t between stop x) :
    (substitute as (String.ofList x)).toList = rewriteAlong as s stop t.stop between := by
  obtain ⟨⟨v, w, rfl, hv, rfl⟩, next, hnext, rfl⟩ := h
  have hplace := rewriteAlong_place (w := w) as (pieces x) hv.ge (hnext.trans hv.symm)
  rw [source_pieces] at hplace
  rw [substitute, String.toList_ofList, String.toList_ofList, hplace, hv]
  simp [slice]

end Emission

namespace Scan

open Lexer Text Emission

variable {source : List Char} {d : Draft} {c t close : Token} {comments : Bool}
  {before gap ts after inner rest : List Token} {r : Draft × Nat × List Token}

/-! ### Gaps -/

/-- What the preamble keeps of the text between the end of a call and a marker: nothing if no token
stands in it, and else all of it, with one newline at the end and none at the start. -/
def keptGap (source : List Char) (c : Token) (gap : List Token) (t : Token) : List Char :=
  if gap.isEmpty then [] else trimBy (· == '\n') (slice source c.stop t.start) ++ ['\n']

/-- A gap is kept if and only if the text has a token in it. -/
theorem Draft.keepGap_eq_keptGap (htokens : tokens source = before ++ c :: (gap ++ t :: after))
    (hstart : d.gapStart = c.stop) :
    d.keepGap source t.start = { d with preamble := d.preamble ++ keptGap source c gap t } := by
  rw [← tokensWith_false] at htokens
  have hsame : (tokens (slice source c.stop t.start)).map (·.extent c.stop) =
      gap.map (·.extent 0) := tokensWith_slice htokens
  have hempty : (tokens (slice source c.stop t.start)).isEmpty = gap.isEmpty := by
    simpa using congrArg List.isEmpty hsame
  rw [← hstart] at hempty
  unfold Draft.keepGap keptGap
  dsimp only
  rw [hempty, ← hstart]
  split
  · rw [List.append_nil]
  · rw [List.append_assoc]

/-- Declarations behind a token: gaps of host tokens, each up to a marker and its call, the text that
is kept of them, the parenthesis that closes the call which begins the body, and the tokens from the
body on. -/
inductive Gaps (source : List Char) :
    Token → List Token → List Char → Token → List Token → Prop
  | declare {c t paren close : Token} {gap after ts body : List Token} {m : Marker}
    {items : List (List Token)} {kept : List Char} (host : HostTokens gap)
    (marker : Marker.ofToken? t = some m) (declares : m ∈ [.argument, .defaultArgument, .doc])
    (shape : MarkerCall.IsCall after items paren ts) (next : Gaps source paren ts kept close body) :
    Gaps source c (gap ++ t :: after) (keptGap source c gap t ++ kept) close body
  | begin {c t close : Token} {gap after body : List Token} (host : HostTokens gap)
    (marker : Marker.ofToken? t = some .beginCode)
    (shape : MarkerCall.IsCall after [] close body) :
    Gaps source c (gap ++ t :: after) (keptGap source c gap t) close body

/-- The parenthesis that closes a call stands among the tokens, right before those behind it. -/
theorem exists_close {items : List (List Token)} (shape : MarkerCall.IsCall after items close rest) :
    ∃ call, after = call ++ close :: rest := by
  obtain ⟨opener, inner, rfl, -⟩ := shape
  exact ⟨opener :: inner, rfl⟩

/-- A run through the declarations, from some host tokens behind the last call on, keeps its gaps. -/
theorem DeclarationRun.exists_gaps (hrun : DeclarationRun source d ts r) (hgap : HostTokens gap)
    (htokens : tokens source = before ++ c :: (gap ++ ts)) (hstart : d.gapStart = c.stop) :
    ∃ kept close outer, Gaps source c (gap ++ ts) kept close r.2.2 ∧ r.2.1 = close.stop ∧
      r.1.preamble = d.preamble ++ kept ∧ tokens source = outer ++ close :: r.2.2 := by
  induction hrun generalizing before c gap with
  | @host d t after r plain _ ih =>
    have hmore : gap ++ t :: after = (gap ++ [t]) ++ after := List.append_cons gap t after
    rw [hmore] at htokens ⊢
    refine ih (fun u hu => ?_) htokens hstart
    rcases List.mem_append.1 hu with hu | hu
    · exact hgap u hu
    · rw [List.mem_singleton.1 hu, plain]
  | @declare d d' t after ts m call r marker read step _ ih =>
    have shape := (MarkerCall.read_eq_ok_iff.1 read).2
    obtain ⟨hsame, hdeclares⟩ := step.preamble_eq
    rw [Draft.keepGap_eq_keptGap htokens hstart] at hsame
    dsimp only at hsame
    obtain ⟨inner, rfl⟩ := exists_close shape
    have hbehind : tokens source =
        (before ++ c :: (gap ++ t :: inner)) ++ call.close :: ([] ++ ts) := by
      rw [htokens]
      simp
    obtain ⟨kept, close, outer, hgaps, hclose, hpreamble, houter⟩ := ih hostTokens_nil hbehind rfl
    refine ⟨_, close, outer, .declare hgap marker hdeclares shape hgaps, hclose, ?_, houter⟩
    rw [hpreamble]
    dsimp only
    rw [hsame, List.append_assoc]
  | @begin d t after ts call marker read empty =>
    have shape := (MarkerCall.read_eq_ok_iff.1 read).2
    rw [empty] at shape
    obtain ⟨inner, hinner⟩ := exists_close shape
    refine ⟨_, call.close, before ++ c :: (gap ++ t :: inner), .begin hgap marker shape, rfl, ?_, ?_⟩
    · rw [Draft.keepGap_eq_keptGap htokens hstart]
    · rw [htokens, hinner]
      simp

/-! ### The body -/

/-- A body between the call that begins it and the one that ends it, if any: its tokens by itself are
the host tokens that stand there in the text, and its aliases are those among them. -/
structure IsBody (comments : Bool) (source : List Char) (close : Token) (inner rest : List Token)
    (body : String) : Prop where
  host : HostTokens inner
  ends : ∀ t ∈ rest.head?, Marker.ofToken? t = some .endCode
  text : body.toList = slice source close.stop (upTo source rest)
  same : (tokensWith comments body.toList).map (·.extent close.stop) = inner.map (·.extent 0)
  replaced : ∀ as, (substitute as body).toList =
    rewriteAlong as source (upTo source rest) close.stop inner

/-- What stands behind a call, up to a marker or to the end, is a body. -/
theorem isBody_of_tokensWith (htokens : tokensWith comments source = before ++ close :: (inner ++ rest))
    (host : HostTokens inner) (ends : ∀ t ∈ rest.head?, Marker.ofToken? t = some .endCode) :
    IsBody comments source close inner rest
      (String.ofList (slice source close.stop (upTo source rest))) where
  host := host
  ends := ends
  text := String.toList_ofList
  same := by
    rw [String.toList_ofList]
    exact tokensWith_slice htokens
  replaced as := by
    obtain ⟨before', inner', rest', hall, -, rfl, hrest⟩ := exists_of_tokensWith_eq htokens
    have hstop : upTo source rest' = upTo source rest := by rw [upTo, hrest, upTo]
    obtain ⟨x, hx⟩ := exists_between hall
    rw [← hstop, hx.slice_eq, rewriteAlong_filter]
    exact substitute_between hx

/-- No token of the body is a marker, also if the body is cut into tokens by itself. -/
theorem IsBody.hostTokens {body : String} (h : IsBody comments source close inner rest body) :
    HostTokens (tokensWith comments body.toList) := by
  intro t ht
  have hmem : t.extent close.stop ∈ inner.map (·.extent 0) := h.same ▸ List.mem_map_of_mem ht
  obtain ⟨u, hu, hextent⟩ := List.mem_map.1 hmem
  -- whether a token is a marker depends on its class and its text only
  obtain ⟨hkind, htext, -⟩ : u.kind = t.kind ∧ u.text = t.text ∧ _ := by
    simpa only [Token.extent, Prod.mk.injEq] using hextent
  have hhost := h.host u hu
  rwa [Marker.ofToken?, hkind, htext, ← Marker.ofToken?] at hhost

/-- Tokens are host tokens if those are that are no comments. -/
theorem HostTokens.of_filter (h : HostTokens (ts.filter (isKept false))) : HostTokens ts := by
  intro t ht
  by_cases hkind : t.kind = .comment
  · simp [Marker.ofToken?, hkind]
  · exact h t (List.mem_filter.2 ⟨ht, by simpa [isKept] using hkind⟩)

/-- The body that the scan went past is one with its comments, too. -/
theorem exists_isBody (htokens : tokens source = before ++ close :: (inner ++ rest))
    (host : HostTokens inner) (ends : ∀ t ∈ rest.head?, Marker.ofToken? t = some .endCode)
    (comments : Bool) :
    ∃ outer inner' rest', tokensWith comments source = outer ++ close :: (inner' ++ rest') ∧
      IsBody comments source close inner' rest'
        (String.ofList (slice source close.stop (upTo source rest))) := by
  cases comments with
  | false => exact ⟨before, inner, rest, htokens, isBody_of_tokensWith htokens host ends⟩
  | true =>
    obtain ⟨before', inner', rest', hall, -, rfl, hrest⟩ :=
      exists_of_tokensWith_eq (show tokensWith false source = _ from htokens)
    have hstop : upTo source rest' = upTo source rest := by rw [upTo, hrest, upTo]
    rw [← tokensWith_true] at hall
    rw [← hstop]
    exact ⟨before', inner', rest', hall, isBody_of_tokensWith hall host.of_filter (hrest ▸ ends)⟩

/-- The body of a run stops where the first of the tokens behind it starts. -/
theorem exists_of_body (source : List Char) {e : BodyEnd} {moves : List Int}
    (h : body ts = .ok (e, moves)) :
    ∃ inner rest, ts = inner ++ rest ∧ HostTokens inner ∧
      (∀ t ∈ rest.head?, Marker.ofToken? t = some .endCode) ∧
      e.stop source.length = upTo source rest := by
  rcases body_ok_cases h with ⟨hhost, rfl⟩ | ⟨inner, t, after, call, -, rfl, hhost, marker, -, -, rfl⟩
  · exact ⟨ts, [], by simp, hhost, by simp, rfl⟩
  · exact ⟨inner, t :: after, rfl, hhost, by simpa using marker, rfl⟩

/-! ### The whole scan -/

/-- Slices of a text have the tokens that the text has there, counted from where the slice starts: the
slice in front of a token, the one behind it, and the one between two tokens. -/
structure SlicesAgree (tokenize : List Char → List Token) (s : List Char) : Prop where
  front : ∀ before t after, tokenize s = before ++ t :: after →
    tokenize (slice s 0 t.start) = before
  between : ∀ before t between u after, tokenize s = before ++ t :: (between ++ u :: after) →
    (tokenize (slice s t.stop u.start)).map (·.extent t.stop) = between.map (·.extent 0)
  behind : ∀ before t after, tokenize s = before ++ t :: after →
    (tokenize (slice s t.stop s.length)).map (·.extent t.stop) = after.map (·.extent 0)

theorem slicesAgree (comments : Bool) (s : List Char) : SlicesAgree (tokensWith comments) s where
  front _ _ _ h := tokensWith_slice_zero h
  between _ _ _ _ _ h := tokensWith_slice h
  behind _ _ after h := tokensWith_slice
    (show tokensWith comments s = _ ++ _ :: (after ++ []) by rwa [List.append_nil])

/-- What a scan cuts out of a text: the host code in front of the call that names the function, the
gaps between the declaring calls, and the body. -/
theorem exists_cuts_of_scan {text : String} {path : Option Path} {s : Scanned}
    (h : scan text path = .ok s) :
    ∃ before fn after name paren rest kept close behind,
      tokens text.toList = before ++ fn :: after ∧ HostTokens before ∧
      Marker.ofToken? fn = some .function ∧ MarkerCall.IsCall after [name] paren rest ∧
      Gaps text.toList paren rest kept close behind ∧
      s.declaration.preamble.toList = slice text.toList 0 fn.start ++ kept ∧
      ∀ comments, ∃ outer inner rest,
        tokensWith comments text.toList = outer ++ close :: (inner ++ rest) ∧
        IsBody comments text.toList close inner rest s.declaration.body := by
  obtain ⟨d₀, ts₁, d, start, ts₂, e, moves, hpre, hrun, hbody, -, hdecl⟩ := exists_of_scan_ok h
  obtain ⟨before, fn, after, call, name, _, htokens, hhost, marker, read, hitems, -, rfl⟩ :=
    exists_of_preamble_ok hpre
  have shape := (MarkerCall.read_eq_ok_iff.1 read).2
  rw [hitems] at shape
  obtain ⟨first, rfl⟩ := exists_close shape
  have hbehind : tokens text.toList = (before ++ fn :: first) ++ call.close :: ([] ++ ts₁) := by
    rw [htokens]
    simp
  obtain ⟨kept, close, outer, hgaps, hclose, hpreamble, houter⟩ :=
    hrun.exists_gaps hostTokens_nil hbehind rfl
  obtain ⟨inner, rest, rfl, hinner, hends, hstop⟩ := exists_of_body text.toList hbody
  refine ⟨before, fn, _, name, call.close, ts₁, kept, close, _, htokens, hhost, marker, shape, hgaps,
    ?_, fun comments => ?_⟩
  · rw [hdecl, Draft.finish, String.toList_ofList, hpreamble]
    rfl
  · rw [hdecl, Draft.finish, hstop]
    obtain rfl : start = close.stop := hclose
    exact exists_isBody houter hinner hends comments

/-- The tokens of every slice of a text between tokens of it, with comments or without, are those that
the text has there, and so are the tokens in what a scan cuts out: exactly the gaps with tokens are
kept in the preamble, and the body has the tokens that stand in the text behind the call which begins
it, so its aliases are those that the scan went past. -/
theorem tokens_of_slices :
    (∀ comments s, SlicesAgree (tokensWith comments) s) ∧
    (∀ source before c gap t after, tokens source = before ++ c :: (gap ++ t :: after) →
      ∀ d : Draft, d.gapStart = c.stop →
        d.keepGap source t.start = { d with preamble := d.preamble ++ keptGap source c gap t }) ∧
    ∀ text path s, scan text path = .ok s →
      ∃ before fn after name paren rest kept close behind,
        tokens text.toList = before ++ fn :: after ∧ HostTokens before ∧
        Marker.ofToken? fn = some .function ∧ MarkerCall.IsCall after [name] paren rest ∧
        Gaps text.toList paren rest kept close behind ∧
        s.declaration.preamble.toList = slice text.toList 0 fn.start ++ kept ∧
        ∀ comments, ∃ outer inner rest,
          tokensWith comments text.toList = outer ++ close :: (inner ++ rest) ∧
          IsBody comments text.toList close inner rest s.declaration.body := by
  refine ⟨slicesAgree, ?_, fun _ _ _ h => exists_cuts_of_scan h⟩
  intro source before c gap t after htokens d hstart
  exact Draft.keepGap_eq_keptGap htokens hstart

/-- A gap that holds a comment only, a gap that holds a declaration, and a body with a string, a comment
and an alias. -/
theorem tokens_of_slices_of_gaps :
    ∃ text s before fn between paren after outer close inner rest,
      scan text = .ok s ∧ tokens text.toList = before ++ fn :: (between ++ paren :: after) ∧
      tokens (slice text.toList 0 fn.start) = before ∧
      (tokens (slice text.toList fn.stop paren.start)).map (·.extent fn.stop) =
        between.map (·.extent 0) ∧
      s.declaration.preamble = "int a;\nstruct S;\n" ∧
      tokensWith true text.toList = outer ++ close :: (inner ++ rest) ∧
      inner.map (·.text) = ["u8\"s\"", "/* npe_arg */", "npe_Matrix_x", "y", ";"] ∧
      IsBody true text.toList close inner rest s.declaration.body := by
  obtain ⟨text, htext⟩ : ∃ text, text = "int a;\nnpe_function(f)\n// none\nnpe_arg(x, csr_f32)\n" ++
      "struct S;\nnpe_begin_code()u8\"s\"/* npe_arg */ npe_Matrix_x y;npe_end_code()" := ⟨_, rfl⟩
  have hvalue : (scan text).toOption.map (fun s => (s.declaration.preamble,
      (tokensWith true s.declaration.body.toList).map (·.text))) =
        some ("int a;\nstruct S;\n",
          ["u8\"s\"", "/* npe_arg */", "npe_Matrix_x", "y", ";"]) := by
    rw [htext]
    decide +kernel
  cases hscan : scan text with
  | error e => simp [hscan, Except.toOption] at hvalue
  | ok s =>
    obtain ⟨hslices, -, hscanned⟩ := tokens_of_slices
    obtain ⟨before, fn, after, name, paren, rest, kept, close, behind, htokens, -, -, shape, -, -,
      hbody⟩ := hscanned text none s hscan
    obtain ⟨call, rfl⟩ := exists_close shape
    obtain ⟨outer, inner, rest', hall, hinner⟩ := hbody true
    rw [hscan] at hvalue
    obtain ⟨hpreamble, hcontent⟩ := Prod.mk.inj (Option.some.inj hvalue)
    have htexts := congrArg (List.map (·.2.1)) hinner.same
    rw [List.map_map, List.map_map] at htexts
    exact ⟨text, s, before, fn, call, paren, rest, outer, close, inner, rest', hscan, htokens,
      (hslices false _).front _ _ _ htokens, (hslices false _).between _ _ _ _ _ htokens, hpreamble,
      hall, htexts.symm.trans hcontent, hinner⟩

end Scan

end Monomorph
