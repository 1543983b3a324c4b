import Monomorph.Proofs.Token.Tighten

/-!
Which texts may be tightened. The tokens of a text stay the same exactly if each of them does: no line
comment stands before the last token, no literal has blanks to lose, and no quote that stands alone
finds its partner in a later line.
-/

namespace Monomorph.Lexer

open Text

variable {s w r : List Char} {p : Piece} {kind : Token.Kind} {quote : Char} {n : Nat}

/-! ### Pieces that stay what they are -/

/-- Only identifiers and signs may become literals. -/
theorem Cuts.noQuote (h : Cuts p w r) (hp : p ≠ .token .ident ∧ p ≠ .token .punct) :
    ∀ quote ∈ quotes, quotedLength? quote (w ++ r) = none →
      quotedLength? quote (tighten (w ++ r)) = none := by
  intro quote hquote hnone
  refine quotedLength?_of_opener ?_
  rw [openerLength?_tighten (mark_of_quote quote hquote).1]
  have hstart : ∀ c ∈ w.head?, c ∉ literalStarts → openerLength? [quote] (w ++ r) = none := by
    intro c hc hstart
    obtain ⟨v, rfl⟩ := List.head?_eq_some_iff.1 hc
    exact openerLength?_eq_none (mark_of_quote quote hquote).1 hstart
  by_cases hplain : p ∈ [.token .comment, .token .number, .token .punct, .stray]
  · obtain ⟨c, v, rfl, hc⟩ := h.head_not_mem hplain fun hpunct => absurd hpunct hp.2
    exact hstart c rfl hc
  · rcases exists_of_piece h.2 with ⟨f, hf, hlen⟩ | ⟨rfl, -⟩
    · cases p with
      | stray => simp at hplain
      | blanks =>
        obtain ⟨c, v, rfl⟩ := List.exists_cons_of_ne_nil h.1
        have hsigns := (unlike_of_isBlank (h.forall_isBlank c List.mem_cons_self)).2.2
        exact hstart c rfl fun hc => hsigns (List.mem_append_right _ hc)
      | token kind =>
        have hmarks : ∀ mark ∈ marks, ∀ g : List Char → Option Nat,
            ((openerLength? mark (w ++ r)).bind fun k => (g ((w ++ r).drop k)).map (· + k)) =
              some w.length → mark ≠ [quote] → openerLength? [quote] (w ++ r) = none :=
          fun mark hmark g hg hne =>
            openerLength?_of_literal hmark (mark_of_quote quote hquote).1 hne hg r
        cases kind with
        | comment | number | punct => simp at hplain
        | ident => exact absurd rfl hp.1
        | rawString =>
          obtain rfl : f = rawStringLength? := by simpa [recognisers] using hf
          exact hmarks _ (by decide) _ hlen (mark_of_quote quote hquote).2
        | string =>
          obtain rfl : f = quotedLength? '"' := by simpa [recognisers] using hf
          refine hmarks _ (by decide) _ hlen ?_
          rintro ⟨⟩
          rw [hlen] at hnone
          cases hnone
        | char =>
          obtain rfl : f = quotedLength? '\'' := by simpa [recognisers] using hf
          refine hmarks _ (by decide) _ hlen ?_
          rintro ⟨⟩
          rw [hlen] at hnone
          cases hnone
    · simp at hplain

/-- A line comment is recognised before anything else. -/
theorem Cuts.of_line (h : Cuts p w r) (hline : ['/', '/'] <+: w ++ r) :
    p = .token .comment ∧ ['/', '/'] <+: w := by
  obtain ⟨t, ht⟩ := hline
  obtain ⟨-, hpiece⟩ := h
  rw [← ht] at hpiece
  obtain ⟨rfl, hlen⟩ := Prod.mk.inj hpiece
  refine ⟨rfl, List.prefix_of_prefix_length_le ⟨t, ht⟩ (List.prefix_append w r) ?_⟩
  rw [← hlen]
  exact Nat.le_add_left 2 _

/-- Does the token of a piece stay the same when the text is tightened, given the text behind it? A
line comment would take what follows, a literal must have no blanks to lose, and what is no literal must
not become one. -/
def keepsToken : Piece → List Char → List Char → Bool
  | .token .comment, w, _ => !(['/', '/'].isPrefixOf w)
  | .token .ident, w, rest | .token .punct, w, rest =>
    quotes.all fun quote => (quotedLength? quote (tighten (w ++ rest))).isNone
  | .token _, w, _ => tighten w == w
  | .blanks, _, _ | .stray, _, _ => true

/-- Do all tokens of consecutive pieces stay the same when their text is tightened? -/
def keepsTokens : List (Piece × List Char) → Bool
  | [] => true
  | (p, w) :: ps => keepsToken p w (ps.flatMap (·.2)) && keepsTokens ps

/-- The last piece of the text is a token. -/
def EndsInToken (s : List Char) : Prop :=
  ∀ q ∈ (pieces s).getLast?, ∃ kind, q.1 = .token kind ∧ kind ≠ .comment

theorem EndsInToken.of_cut (h : EndsInToken (w ++ r)) (hcut : Cuts p w r) : EndsInToken r := by
  intro q hq
  refine h q ?_
  rw [hcut.pieces_eq, List.getLast?_cons, hq]
  rfl

theorem EndsInToken.append (h : EndsInToken r) (hr : r ≠ []) (hcut : Cuts p w r) :
    EndsInToken (w ++ r) := by
  obtain ⟨q, v, t, rfl, hnext⟩ := exists_cuts hr
  unfold EndsInToken at h ⊢
  rw [hnext.pieces_eq] at h
  rw [hcut.pieces_eq, hnext.pieces_eq, List.getLast?_cons_cons]
  exact h

/-- A blank in front of a text that ends in a token changes nothing about its end. -/
theorem EndsInToken.cons {c : Char} (h : EndsInToken s) (hs : s ≠ []) (hc : isBlank c = true) :
    EndsInToken (c :: s) := by
  have hrun : ∀ {b : Char} (t : List Char), isBlank b = true →
      pieces (b :: t) = (.blanks, b :: t.takeWhile isBlank) :: pieces (t.dropWhile isBlank) :=
    fun {b} t hb => by
      have hcut := (cuts_blanks hb t).pieces_eq
      rwa [List.cons_append, List.takeWhile_append_dropWhile] at hcut
  obtain ⟨d, s, rfl⟩ := List.exists_cons_of_ne_nil hs
  cases hd : isBlank d with
  | false =>
    have hcut := cuts_blanks hc (d :: s)
    rw [List.takeWhile_cons_of_neg (by simp [hd]), List.dropWhile_cons_of_neg (by simp [hd])] at hcut
    exact h.append hs hcut
  | true =>
    -- both texts start with one run of blanks, and the same pieces come behind it
    unfold EndsInToken at h ⊢
    rw [hrun _ hd] at h
    rw [hrun _ hc, List.dropWhile_cons_of_pos hd]
    cases hrest : pieces (s.dropWhile isBlank) with
    | nil =>
      rw [hrest] at h
      obtain ⟨kind, hkind, -⟩ := h _ List.getLast?_singleton
      cases hkind
    | cons q ps =>
      rw [hrest, List.getLast?_cons_cons] at h
      rwa [List.getLast?_cons_cons]

/-- Whole pieces and a token behind them end in that token. -/
theorem Passes.endsInToken {ls : List (Token.Kind × List Char)} {u : List Char}
    (h : Passes u ls w) (hcut : Cuts (.token kind) w []) (hkind : kind ≠ .comment) :
    EndsInToken (u ++ w) := by
  induction h with
  | nil r =>
    intro q hq
    rw [List.nil_append, ← List.append_nil r, hcut.pieces_eq, pieces_nil,
      List.getLast?_singleton] at hq
    obtain rfl := Option.some.inj hq
    exact ⟨kind, rfl, hkind⟩
  | blank hc _ ih => exact (ih hcut).cons (by simp [hcut.1]) hc
  | piece hfirst _ _ ih =>
    rw [List.append_assoc]
    exact (ih hcut).append (by simp [hcut.1]) hfirst

/-- A text that ends in a token has one. -/
theorem EndsInToken.visible_ne_nil (h : EndsInToken s) (hs : s ≠ []) :
    visible (lexemes s) ≠ [] := by
  obtain ⟨p, w, r, rfl, hcut⟩ := exists_cuts hs
  have hne : pieces (w ++ r) ≠ [] := by simp [hcut.pieces_eq]
  obtain ⟨kind, hkind, hvisible⟩ := h _ (List.getLast?_eq_some_getLast hne)
  have hlast := List.getLast_mem hne
  generalize (pieces (w ++ r)).getLast hne = q at hkind hlast
  obtain ⟨p, v⟩ := q
  obtain rfl : p = .token kind := hkind
  intro hnone
  have hmem : written (kind, v) ∈ visible (lexemes (w ++ r)) :=
    List.mem_map_of_mem (List.mem_filter.2 ⟨mem_lexemes.2 hlast, by simpa using hvisible⟩)
  rw [hnone] at hmem
  cases hmem

/-- A line comment takes all of a tightened text. -/
theorem visible_of_line (h : ['/', '/'] <+: s) : visible (lexemes (tighten s)) = [] := by
  have hmark : ∀ c ∈ ['/', '/'], isBlank c = false := by decide
  obtain ⟨t, rfl⟩ := h
  have hsplit : tighten (['/', '/'] ++ t) = '/' :: '/' :: tighten t := tighten_append_of_solid hmark t
  have hline : (tighten t).takeWhile (· != '\n') = tighten t := by
    have hall : ∀ c ∈ tighten t, (c != '\n') = true := fun c hc => by
      rw [bne_iff_ne]
      rintro rfl
      exact newline_not_mem_tighten t hc
    have htake := takeWhile_append_eq_left_iff (r := []) |>.2 ⟨hall, by simp⟩
    rwa [List.append_nil] at htake
  have hcut : Cuts (.token .comment) ('/' :: '/' :: tighten t) [] := by
    refine ⟨by simp, ?_⟩
    rw [List.append_nil, piece, commentLength?, hline]
    rfl
  rw [hsplit, ← List.append_nil ('/' :: '/' :: tighten t), hcut.lexemes_eq, lexemes_nil]
  rfl

/-- Where a quoted literal is recognised, the text starts with a literal. -/
theorem exists_cuts_of_quotedLength? (hquote : quote ∈ quotes) (h : quotedLength? quote s = some n) :
    ∃ kind v t, kind ∈ [.rawString, .string, .char] ∧ s = v ++ t ∧ Cuts (.token kind) v t := by
  have hs : s ≠ [] := by
    rintro rfl
    obtain ⟨e, -, r, m, heq, -⟩ := exists_of_literal h
    simp at heq
  obtain ⟨p, v, t, rfl, hcut⟩ := exists_cuts hs
  have hsome : ¬ ∀ f ∈ recognisers.take 4, f.1 ≠ p := fun hp => by
    rw [hcut.quotedLength?_eq_none hp quote hquote] at h
    cases h
  cases p with
  | blanks | stray => exact absurd (by decide) hsome
  | token kind =>
    cases kind with
    | number | ident | punct => exact absurd (by decide) hsome
    | comment =>
      obtain ⟨c, w, rfl, hc⟩ := hcut.head_not_mem (by simp) (by simp)
      rw [List.cons_append, quotedLength?_eq_none hquote hc] at h
      cases h
    | rawString | string | char => exact ⟨_, v, t, by simp, rfl, hcut⟩

/-- The tokens of a text are that of its first piece, if it is one, and those of the rest. -/
theorem Cuts.visible_eq (h : Cuts p w r) :
    visible (lexemes (w ++ r)) = visible (lexeme? (p, w)).toList ++ visible (lexemes r) := by
  rw [h.lexemes_eq, visible_append]

theorem visible_token_singleton (hkind : kind ≠ .comment) (w : List Char) :
    visible (lexeme? (.token kind, w)).toList = [(kind, String.ofList w)] := by
  simp [lexeme?, visible, hkind, written]

/-- The text starts with a piece that stays what it is if the text is tightened: then it is a matter
of its own characters, and of the rest. -/
theorem Cuts.visible_tighten_iff (h : Cuts p w r) (hs : Steady (w ++ r)) :
    visible (lexemes (tighten (w ++ r))) = visible (lexemes (w ++ r)) ↔
      (∀ kind, p = .token kind → kind ≠ .comment → tighten w = w) ∧
        visible (lexemes (tighten r)) = visible (lexemes r) := by
  obtain ⟨hsplit, hcut⟩ := h.tightened hs
  rw [hsplit, hcut.visible_eq, h.visible_eq]
  cases p with
  | blanks | stray => simp [lexeme?, visible]
  | token kind =>
    by_cases hkind : kind = .comment
    · subst hkind
      simp [lexeme?, visible]
    · rw [visible_token_singleton hkind, visible_token_singleton hkind]
      simp [hkind, String.ofList_inj]

/-- The text starts with a piece that does not stay what it is: then its tokens are others. -/
theorem Cuts.visible_tighten_ne (h : Cuts p w r) (hs : ¬ Steady (w ++ r))
    (hend : EndsInToken (w ++ r)) :
    visible (lexemes (tighten (w ++ r))) ≠ visible (lexemes (w ++ r)) := by
  intro heq
  by_cases hline : ['/', '/'] <+: w ++ r
  · obtain ⟨rfl, -⟩ := h.of_line hline
    have hr : r ≠ [] := by
      rintro rfl
      have hlast : (pieces (w ++ [])).getLast? = some (.token .comment, w) := by
        rw [h.pieces_eq, pieces_nil, List.getLast?_singleton]
      obtain ⟨kind, hkind, hvisible⟩ := hend _ hlast
      exact hvisible (Piece.token.inj hkind).symm
    rw [visible_of_line hline, h.visible_eq] at heq
    exact (hend.of_cut h).visible_ne_nil hr heq.symm
  · -- a quote closes, so that a literal stands where there was another token
    obtain ⟨quote, hquote, hclosed, hopen⟩ : ∃ quote ∈ quotes,
        quotedLength? quote (tighten (w ++ r)) ≠ none ∧ (p = .token .ident ∨ p = .token .punct) := by
      by_contra hnone
      refine hs ⟨hline, fun quote hquote hfail => ?_⟩
      by_contra hclosed
      by_cases hp : p ≠ .token .ident ∧ p ≠ .token .punct
      · exact hclosed (h.noQuote hp quote hquote hfail)
      · exact hnone ⟨quote, hquote, hclosed, by simpa [imp_iff_not_or] using hp⟩
    obtain ⟨n, hn⟩ := Option.ne_none_iff_exists'.1 hclosed
    obtain ⟨kind, v, t, hkind, hsplit, hcut⟩ := exists_cuts_of_quotedLength? hquote hn
    have hvisible : ∀ kind ∈ [Token.Kind.rawString, .string, .char],
        kind ≠ .comment ∧ kind ≠ .ident ∧ kind ≠ .punct := by decide
    obtain ⟨hcomment, hident, hpunct⟩ := hvisible kind hkind
    rw [hsplit, hcut.visible_eq, h.visible_eq, visible_token_singleton hcomment] at heq
    rcases hopen with rfl | rfl
    · rw [visible_token_singleton (by decide)] at heq
      exact hident (Prod.mk.inj (List.cons.inj heq).1).1
    · rw [visible_token_singleton (by decide)] at heq
      exact hpunct (Prod.mk.inj (List.cons.inj heq).1).1

theorem Cuts.steady_iff (h : Cuts p w r) :
    Steady (w ++ r) ↔ (p = .token .comment → ¬ ['/', '/'] <+: w) ∧
      (p = .token .ident ∨ p = .token .punct →
        ∀ quote ∈ quotes, quotedLength? quote (tighten (w ++ r)) = none) := by
  constructor
  · rintro ⟨hline, hquote⟩
    refine ⟨fun _ hw => hline (hw.trans (List.prefix_append w r)), fun hp quote hmem => ?_⟩
    refine hquote quote hmem (h.quotedLength?_eq_none ?_ quote hmem)
    rcases hp with rfl | rfl <;> decide
  · rintro ⟨hline, hquote⟩
    refine ⟨fun hw => ?_, fun quote hmem hfail => ?_⟩
    · obtain ⟨hcomment, hmark⟩ := h.of_line hw
      exact hline hcomment hmark
    · by_cases hp : p ≠ .token .ident ∧ p ≠ .token .punct
      · exact h.noQuote hp quote hmem hfail
      · exact hquote (by simpa [imp_iff_not_or] using hp) quote hmem

theorem Cuts.keepsToken_iff (h : Cuts p w r) :
    keepsToken p w r = true ↔
      Steady (w ++ r) ∧ ∀ kind, p = .token kind → kind ≠ .comment → tighten w = w := by
  rw [h.steady_iff]
  cases p with
  | blanks | stray => simp [keepsToken]
  | token kind =>
    cases kind with
    | comment => simp [keepsToken, ← Bool.not_eq_true, List.isPrefixOf_iff_prefix]
    | ident | punct =>
      have hw : tighten w = w := tighten_of_solid (h.solid (by decide))
      simp [keepsToken, hw]
    | number | string | rawString | char => simp [keepsToken]

/-- Tightening a text that ends in a token keeps its tokens exactly if it keeps each of them. -/
theorem visible_tighten_iff (hend : EndsInToken s) :
    visible (lexemes (tighten s)) = visible (lexemes s) ↔ keepsTokens (pieces s) = true := by
  induction s using pieces_induction with
  | nil => simp [pieces_nil, keepsTokens]
  | cut p w r hcut ih =>
    rw [hcut.pieces_eq, keepsTokens, flatMap_pieces, Bool.and_eq_true, hcut.keepsToken_iff,
      ← ih (hend.of_cut hcut)]
    by_cases hs : Steady (w ++ r)
    · rw [hcut.visible_tighten_iff hs, and_assoc, and_iff_right hs]
    · exact iff_of_false (hcut.visible_tighten_ne hs hend) fun hkept => hs hkept.1.1

end Monomorph.Lexer
