import Monomorph.Proofs.Token.Context

/-!
Clipped texts. From a text some stretches are cut away between its pieces, and each leaves a newline
behind. Then the tokens of what is left are the tokens that were kept: no two of them are joined, since
there is a newline between them, and none opens a literal that it did not open before, since a literal
which closes in the clipped text would have closed in the text, too.
-/

namespace Monomorph.Lexer

open Text

/-! ### Characters that are left -/

/-- The second text is left of the first one. In the place of every stretch that was cut away stands a
newline, perhaps with further blanks. -/
inductive Thin : List Char → List Char → Prop
  | done (s : List Char) : Thin s []
  | same {s s' : List Char} (c : Char) (h : Thin s s') : Thin (c :: s) (c :: s')
  | cut {s s' bs : List Char} (u : List Char) (hbs : ∀ b ∈ bs, isBlank b = true) (h : Thin s s') :
    Thin (u ++ s) ('\n' :: (bs ++ s'))

variable {s s' r r' u v w bs : List Char} {p : Piece} {ls ks : List (Token.Kind × List Char)}

theorem Thin.append (h : Thin s s') (w : List Char) : Thin (w ++ s) (w ++ s') := by
  induction w with
  | nil => exact h
  | cons c w ih => exact .same c ih

/-- What stands at the head on one line stood there before. -/
theorem Thin.exists_of_append (h : Thin s s') (heq : s' = w ++ r') (hw : '\n' ∉ w) :
    ∃ r, s = w ++ r ∧ Thin r r' := by
  induction w generalizing s s' with
  | nil =>
    obtain rfl : s' = r' := heq
    exact ⟨s, rfl, h⟩
  | cons c w ih =>
    obtain ⟨hc, hline⟩ := not_or.1 (mt List.mem_cons.2 hw)
    cases h with
    | done => cases heq
    | same d h =>
      obtain ⟨rfl, rfl⟩ := List.cons.inj heq
      obtain ⟨r, rfl, hr⟩ := ih h rfl hline
      exact ⟨r, rfl, hr⟩
    | cut => exact absurd (List.cons.inj heq).1 hc

/-- A word that is left was there before. -/
theorem Thin.isInfix_of_isSolid (h : Thin s s') (hw : IsSolid w) (hoccurs : w <:+: s') : w <:+: s := by
  have hblank : ∀ {b : Char}, isBlank b = true → ∀ {x : List Char}, w <:+: b :: x → w <:+: x := by
    intro b hb x hx
    rcases List.infix_cons_iff.1 hx with hhead | hlater
    · obtain ⟨c, w, rfl⟩ := List.exists_cons_of_ne_nil hw.1
      obtain rfl := (List.cons_prefix_cons.1 hhead).1
      rw [hw.2 c List.mem_cons_self] at hb
      cases hb
    · exact hlater
  induction h with
  | done s => exact absurd (List.infix_nil.1 hoccurs) hw.1
  | @same s s' c h ih =>
    rcases List.infix_cons_iff.1 hoccurs with ⟨r', hr'⟩ | hlater
    · have hline : '\n' ∉ w := fun hmem => by
        have hnot := hw.2 '\n' hmem
        revert hnot
        decide
      obtain ⟨r, hr, -⟩ := (Thin.same c h).exists_of_append hr'.symm hline
      exact ⟨[], r, hr.symm⟩
    · exact (ih hlater).trans (List.suffix_cons c s).isInfix
  | @cut s s' bs u hbs h ih =>
    have hrest := hblank (by decide) hoccurs
    have hlater : w <:+: s' := by
      clear ih hoccurs
      induction bs with
      | nil => exact hrest
      | cons b bs ihbs =>
        obtain ⟨hb, hbs⟩ := List.forall_mem_cons.1 hbs
        exact ihbs hbs (hblank hb hrest)
    exact (ih hlater).trans (List.suffix_append u s).isInfix

/-! ### Literals that did not close -/

/-- A quoted literal stays on its line. -/
theorem exists_takes_of_quotedLength? {quote : Char} (hquote : quote ∈ quotes) {n : Nat}
    (h : quotedLength? quote s = some n) :
    ∃ w t, s = w ++ t ∧ w.length = n ∧ '\n' ∉ w ∧ Takes (quotedLength? quote) w := by
  have hplain : ∀ quote ∈ quotes, quote ≠ '\\' ∧ quote ≠ '\n' := by decide
  have hopener : ∀ quote ∈ quotes, ∀ e ∈ encodings, '\n' ∉ e ++ [quote] := by decide
  obtain ⟨hescape, hline⟩ := hplain quote hquote
  obtain ⟨e, he, r, m, rfl, hm, rfl⟩ := exists_of_literal h
  obtain ⟨v, t, rfl, rfl, hnot, -⟩ := exists_takes_of_quotedTailLength? hescape hline hm
  rw [← List.length_append] at h ⊢
  rw [← List.append_assoc] at h ⊢
  exact ⟨e ++ [quote] ++ v, t, rfl, rfl,
    fun hmem => (List.mem_append.1 hmem).elim (hopener quote hquote e he) hnot,
    (local_quotedLength? hquote).congr h⟩

theorem Thin.quotedLength?_eq_none (h : Thin s s') {quote : Char} (hquote : quote ∈ quotes)
    (hnone : quotedLength? quote s = none) : quotedLength? quote s' = none := by
  by_contra hsome
  obtain ⟨n, hn⟩ := Option.ne_none_iff_exists'.1 hsome
  obtain ⟨w, t, heq, -, hline, hw⟩ := exists_takes_of_quotedLength? hquote hn
  obtain ⟨r, rfl, -⟩ := h.exists_of_append heq hline
  rw [hw r] at hnone
  cases hnone

theorem isSolid_of_delimiter {d : List Char} (hd : ∀ c ∈ d, isDelimiterChar c = true) :
    IsSolid ([')'] ++ d ++ ['"']) := by
  have hends : isBlank ')' = false ∧ isBlank '"' = false := by decide
  refine ⟨by simp, fun c hc => ?_⟩
  simp only [List.mem_append, List.mem_singleton] at hc
  rcases hc with (rfl | hc) | rfl
  · exact hends.1
  · have hdelimiter := hd c hc
    simp only [isDelimiterChar, Bool.not_eq_true', Bool.or_eq_false_iff] at hdelimiter
    exact hdelimiter.2
  · exact hends.2

theorem Thin.rawTailLength? (h : Thin s s') {n : Nat} (hn : rawTailLength? s' = some n) :
    ∃ m, Lexer.rawTailLength? s = some m := by
  obtain ⟨d, body', m, rfl, hd, hshort, hm, -⟩ := rawTailLength?_eq_some_iff.1 hn
  have hsolid := isSolid_of_delimiter hd
  have hline : '\n' ∉ d ++ ['('] := fun hmem => by
    rcases List.mem_append.1 hmem with hmem | hmem
    · have hnot := hd '\n' hmem
      revert hnot
      decide
    · revert hmem
      decide
  have hsplit : d ++ '(' :: body' = (d ++ ['(']) ++ body' := by simp
  obtain ⟨body, rfl, hbody⟩ := h.exists_of_append hsplit hline
  -- the mark that closes the literal is a word, so it was there before
  obtain ⟨v, t, rfl, -, hclose, -⟩ := exists_takes_of_through? hm
  have hfound := hbody.isInfix_of_isSolid hsolid
    (hclose.isInfix.trans (List.prefix_append v t).isInfix)
  obtain ⟨k, hk⟩ := Option.isSome_iff_exists.1 (isSome_through? hfound)
  exact ⟨_, rawTailLength?_eq_some_iff.2 ⟨d, body, k, by simp, hd, hshort, hk, rfl⟩⟩

theorem Thin.rawStringLength?_eq_none (h : Thin s s') (hnone : rawStringLength? s = none) :
    rawStringLength? s' = none := by
  have hmark : ['R', '"'] ∈ marks := by decide
  have hopener : ∀ e ∈ encodings, '\n' ∉ e ++ ['R', '"'] := by decide
  by_contra hsome
  obtain ⟨n, hn⟩ := Option.ne_none_iff_exists'.1 hsome
  obtain ⟨e, he, r, m, hs, hm, -⟩ := exists_of_literal hn
  obtain ⟨t, rfl, ht⟩ := h.exists_of_append hs (hopener e he)
  obtain ⟨m', hm'⟩ := ht.rawTailLength? hm
  have hopen := (openerLength?_eq_some_iff hmark).2 ⟨e, he, List.prefix_append _ t, rfl⟩
  rw [rawStringLength?, hopen, Option.bind_some, ← List.length_append, List.drop_left, hm'] at hnone
  cases hnone

/-! ### Clipping -/

/-- The second text is the first one with stretches cut away in front of pieces, and with these
lexemes kept. -/
inductive Clip : List Char → List Char → List (Token.Kind × List Char) → Prop
  | done (s : List Char) : Clip s [] []
  | blank {s s' : List Char} {ls : List (Token.Kind × List Char)} {c : Char}
    (hc : isBlank c = true) (h : Clip s s' ls) : Clip (c :: s) (c :: s') ls
  | keep {s s' w : List Char} {ls : List (Token.Kind × List Char)} {p : Piece}
    (hcut : Cuts p w s) (hp : p ≠ .blanks) (h : Clip s s' ls) :
    Clip (w ++ s) (w ++ s') ((lexeme? (p, w)).toList ++ ls)
  | cut {s s' u bs : List Char} {ls : List (Token.Kind × List Char)} (hu : u ≠ [])
    (hbs : ∀ b ∈ bs, isBlank b = true) (h : Clip s s' ls) :
    Clip (u ++ s) ('\n' :: (bs ++ s')) ls

theorem Clip.thin (h : Clip s s' ls) : Thin s s' := by
  induction h with
  | done s => exact .done s
  | blank _ _ ih => exact .same _ ih
  | keep _ _ _ ih => exact ih.append _
  | cut _ hbs _ ih => exact .cut _ hbs ih

theorem Clip.meets (h : Clip s s' ls) : Meets s s' := by
  cases h with
  | done => exact .ends s
  | blank => exact .same _ _ _
  | @keep s s' w ls p hcut =>
    obtain ⟨c, w, rfl⟩ := List.exists_cons_of_ne_nil hcut.1
    exact .same c (w ++ s) (w ++ s')
  | @cut s s' u bs ls hu =>
    obtain ⟨c, u, rfl⟩ := List.exists_cons_of_ne_nil hu
    exact .line c (u ++ s) (bs ++ s')

/-- A piece in front of a text is the same in front of the clipped text. -/
theorem Clip.cuts (h : Clip s s' ls) (hcut : Cuts p w s) (hp : p ≠ .blanks) : Cuts p w s' := by
  have hthin := h.thin.append w
  exact hcut.congr hp h.meets hthin.rawStringLength?_eq_none
    fun quote hquote => hthin.quotedLength?_eq_none hquote

/-- The tokens of a clipped text are those that were kept. -/
theorem Clip.lexemes_eq (h : Clip s s' ls) : lexemes s' = ls := by
  induction h with
  | done => exact lexemes_nil
  | blank hc _ ih => rw [lexemes_cons_of_isBlank hc, ih]
  | keep hcut hp h ih => rw [(h.cuts hcut hp).lexemes_eq, ih]
  | cut _ hbs _ ih =>
    rw [lexemes_cons_of_isBlank (by decide), lexemes_append_of_isBlank hbs, ih]

/-! ### Whole pieces -/

/-- In front of a rest, these characters are whole pieces with these lexemes. Blanks are passed one by
one, so that the rest may start inside a run of them. -/
inductive Passes : List Char → List (Token.Kind × List Char) → List Char → Prop
  | nil (r : List Char) : Passes [] [] r
  | blank {u r : List Char} {ls : List (Token.Kind × List Char)} {c : Char}
    (hc : isBlank c = true) (h : Passes u ls r) : Passes (c :: u) ls r
  | piece {w u r : List Char} {ls : List (Token.Kind × List Char)} {p : Piece}
    (hcut : Cuts p w (u ++ r)) (hp : p ≠ .blanks) (h : Passes u ls r) :
    Passes (w ++ u) ((lexeme? (p, w)).toList ++ ls) r

theorem Passes.of_isBlank (hu : ∀ c ∈ u, isBlank c = true) (r : List Char) : Passes u [] r := by
  induction u with
  | nil => exact .nil r
  | cons c u ih =>
    obtain ⟨hc, hu⟩ := List.forall_mem_cons.1 hu
    exact .blank hc (ih hu)

theorem Passes.token {kind : Token.Kind} (hcut : Cuts (.token kind) w r) :
    Passes w [(kind, w)] r := by
  have hone := Passes.piece (u := []) hcut (by simp) (.nil r)
  rwa [List.append_nil] at hone

theorem Passes.append (h : Passes u ls (v ++ r)) (h' : Passes v ks r) :
    Passes (u ++ v) (ls ++ ks) r := by
  generalize hrest : v ++ r = x at h
  induction h with
  | nil => exact h'
  | blank hc _ ih => exact .blank hc (ih hrest)
  | @piece w u x ls p hcut hp _ ih =>
    rw [List.append_assoc, List.append_assoc]
    refine .piece ?_ hp (ih hrest)
    rwa [List.append_assoc, hrest]

/-- Whole pieces are kept in front of what is left of the rest. -/
theorem Passes.clip (h : Passes u ls r) (hrest : Clip r r' ks) :
    Clip (u ++ r) (u ++ r') (ls ++ ks) := by
  induction h with
  | nil => exact hrest
  | blank hc _ ih => exact .blank hc (ih hrest)
  | @piece w u r ls p hcut hp _ ih =>
    rw [List.append_assoc, List.append_assoc, List.append_assoc]
    exact .keep hcut hp (ih hrest)

/-- Whole pieces are whole pieces in front of the clipped rest. -/
theorem Passes.congr (h : Passes u ls r) (hrest : Clip r r' ks) : Passes u ls r' := by
  induction h with
  | nil => exact .nil r'
  | blank hc _ ih => exact .blank hc (ih hrest)
  | piece hcut hp h ih => exact .piece ((h.clip hrest).cuts hcut hp) hp (ih hrest)

/-- No piece but blanks starts with a blank. -/
theorem Cuts.not_isBlank_head (hcut : Cuts p w r) (hp : p ≠ .blanks) :
    ∀ c ∈ w.head?, isBlank c = false := by
  intro c hc
  obtain ⟨w, rfl⟩ := List.head?_eq_some_iff.1 hc
  rw [Bool.eq_false_iff]
  intro hblank
  obtain ⟨-, hpiece⟩ := hcut
  rw [List.cons_append, piece_of_isBlank hblank] at hpiece
  exact hp (Prod.mk.inj hpiece).1.symm

/-- Blanks in front may be left out. -/
theorem Passes.of_append (h : Passes (bs ++ u) ls r) (hbs : ∀ b ∈ bs, isBlank b = true) :
    Passes u ls r := by
  induction bs with
  | nil => exact h
  | cons b bs ih =>
    obtain ⟨hb, hbs⟩ := List.forall_mem_cons.1 hbs
    refine ih ?_ hbs
    generalize hu : b :: bs ++ u = x at h
    cases h with
    | nil => cases hu
    | blank _ h =>
      obtain ⟨-, rfl⟩ := List.cons.inj hu
      exact h
    | @piece w v _ ls p hcut hp h =>
      obtain ⟨c, w, rfl⟩ := List.exists_cons_of_ne_nil hcut.1
      obtain ⟨rfl, -⟩ := List.cons.inj hu
      rw [hcut.not_isBlank_head hp b rfl] at hb
      cases hb

/-- Blanks have no lexemes. -/
theorem Passes.eq_nil (h : Passes bs ls r) (hbs : ∀ b ∈ bs, isBlank b = true) : ls = [] := by
  rw [← List.append_nil bs] at h
  have hend : Passes [] ls r := h.of_append hbs
  generalize hu : [] = x at hend
  cases hend with
  | nil => rfl
  | blank => cases hu
  | piece hcut => exact absurd (List.append_eq_nil_iff.1 hu.symm).1 hcut.1

/-! ### Ends of pieces -/

theorem newline_not_mem_of_numberTailLength (h : numberTailLength (w ++ r) = w.length) :
    '\n' ∉ w := by
  have hpart : isNumberPart '\n' = false := by decide
  have hexponent : isExponent '\n' = false := by decide
  have hsign : isSign '\n' = false := by decide
  induction w using List.twoStepInduction with
  | nil => simp
  | singleton c =>
    rintro hmem
    obtain rfl := List.mem_singleton.1 hmem
    rw [List.singleton_append, numberTailLength_cons, hexponent, hpart] at h
    simp at h
  | cons_cons c d w ih ih' =>
    rw [List.cons_append, numberTailLength_cons] at h
    split at h
    · next hboth =>
      have hw := ih (by simpa using h)
      obtain ⟨hc, hd⟩ := Bool.and_eq_true_iff.1 hboth
      simp only [List.mem_cons, not_or]
      refine ⟨?_, ?_, hw⟩
      · rintro rfl
        rw [hexponent] at hc
        cases hc
      · rintro rfl
        simp [hsign] at hd
    · split at h
      · next hc =>
        have hw := ih' d (by simpa using h)
        refine List.not_mem_cons_of_ne_of_not_mem ?_ hw
        rintro rfl
        rw [hpart] at hc
        cases hc
      · simp at h

theorem newline_not_mem_of_numberLength? (h : numberLength? (w ++ r) = some w.length) :
    '\n' ∉ w := by
  have hdecimal : isDecimal '\n' = false := by decide
  obtain ⟨c, w, rfl⟩ := List.exists_cons_of_ne_nil
    (List.ne_nil_of_length_pos (bounds_of_numberLength? h).1)
  rw [List.cons_append] at h
  rcases eq_or_ne c '.' with rfl | hc
  · cases w with
    | nil =>
      have hdot : isDecimal '.' = false := by decide
      cases r <;> simp [numberLength?, hdot] at h
    | cons d w =>
      simp only [List.cons_append, numberLength?] at h
      split at h
      · next hd =>
        have hw := newline_not_mem_of_numberTailLength (w := w) (r := r) (by simpa using h)
        refine List.not_mem_cons_of_ne_of_not_mem (by decide)
          (List.not_mem_cons_of_ne_of_not_mem ?_ hw)
        rintro rfl
        rw [hdecimal] at hd
        cases hd
      · cases h
  · rw [numberLength?_cons hc] at h
    split at h
    · next hd =>
      have hw := newline_not_mem_of_numberTailLength (w := w) (r := r) (by simpa using h)
      refine List.not_mem_cons_of_ne_of_not_mem ?_ hw
      rintro rfl
      rw [hdecimal] at hd
      cases hd
    · cases h

theorem newline_not_mem_of_punctLength? (h : punctLength? (w ++ r) = some w.length) :
    '\n' ∉ w := by
  have hsigns : ∀ (c d : Char) (w : List Char), d ≠ '\n' → c ≠ '\n' →
      (if (w ++ r).head? = some d then some 2 else some 1) = some (w.length + 1) →
      '\n' ∉ c :: w := by
    intro c d w hd hc hlen
    refine List.not_mem_cons_of_ne_of_not_mem hc.symm ?_
    split at hlen
    · next hhead =>
      obtain ⟨b, rfl⟩ := List.length_eq_one_iff.1 (show w.length = 1 by simpa using hlen.symm)
      obtain rfl : b = d := by simpa using hhead
      simpa using hd.symm
    · obtain rfl : w = [] := by simpa using hlen
      simp
  obtain ⟨c, w, rfl⟩ := List.exists_cons_of_ne_nil
    (List.ne_nil_of_length_pos (bounds_of_punctLength? h).1)
  rw [List.cons_append, List.length_cons] at h
  rcases eq_or_ne c ':' with rfl | hscope
  · exact hsigns ':' ':' w (by decide) (by decide) (by rwa [punctLength?_scope] at h)
  · rcases eq_or_ne c '-' with rfl | harrow
    · exact hsigns '-' '>' w (by decide) (by decide) (by rwa [punctLength?_arrow] at h)
    · rw [punctLength?_cons hscope harrow] at h
      split at h
      · cases h
      · next hc =>
        obtain rfl : w = [] := by simpa using h
        rintro hmem
        obtain rfl := List.mem_singleton.1 hmem
        exact hc (by decide)

theorem newline_not_mem_of_quotedLength? {quote : Char} (hquote : quote ∈ quotes)
    (h : quotedLength? quote (w ++ r) = some w.length) : '\n' ∉ w := by
  obtain ⟨v, t, heq, hlen, hline, -⟩ := exists_takes_of_quotedLength? hquote h
  obtain ⟨rfl, -⟩ := List.append_inj heq hlen.symm
  exact hline

/-- A comment other than a line comment ends with its mark, or with the text. -/
theorem blockComment_last (hr : r ≠ []) (hline : ¬ ['/', '/'] <+: w)
    (h : commentLength? (w ++ r) = some w.length) : w.getLast? = some '/' := by
  rcases commentLength?_eq_some h with ⟨x, hx, hn⟩ | ⟨x, hx, hn⟩
  · obtain ⟨w, rfl, rfl⟩ := exists_of_append_eq hx (by omega)
    exact absurd (List.prefix_append ['/', '/'] w) hline
  · obtain ⟨w, rfl, rfl⟩ := exists_of_append_eq hx (by omega)
    simp only [List.length_cons, Nat.add_right_cancel_iff] at hn
    cases hclose : through? ['*', '/'] (w ++ r) with
    | none =>
      rw [hclose, Option.getD_none, List.length_append] at hn
      exact absurd (List.eq_nil_of_length_eq_zero (by omega)) hr
    | some m =>
      rw [hclose, Option.getD_some] at hn
      obtain ⟨v, t, heq, hlen, ⟨x, hx⟩, -⟩ := exists_takes_of_through? hclose
      obtain ⟨rfl, -⟩ := List.append_inj heq (by omega)
      rw [← hx, ← List.cons_append, ← List.cons_append, List.getLast?_append]
      rfl

/-- A comment that goes over the end of a line ends with its mark, or with the text. -/
theorem comment_last (hr : r ≠ []) (hline : '\n' ∈ w)
    (h : commentLength? (w ++ r) = some w.length) : w.getLast? = some '/' := by
  refine blockComment_last hr ?_ h
  rintro ⟨v, rfl⟩
  have hlen : ((v ++ r).takeWhile (· != '\n')).length = v.length := by
    simpa [commentLength?] using h
  have hmem : '\n' ∈ v := by simpa using hline
  simpa using (length_takeWhile_append_iff.1 hlen).1 '\n' hmem

theorem rawString_last (h : rawStringLength? (w ++ r) = some w.length) : w.getLast? = some '"' := by
  obtain ⟨e, -, _, m, heq, hm, hlen⟩ := exists_of_literal h
  obtain ⟨d, body, n, rfl, -, -, hn, rfl⟩ := rawTailLength?_eq_some_iff.1 hm
  obtain ⟨v, t, rfl, rfl, ⟨x, rfl⟩, -⟩ := exists_takes_of_through? hn
  have hsplit : w ++ r =
      (e ++ ['R', '"'] ++ d ++ ['('] ++ x ++ [')'] ++ d ++ ['"']) ++ t := by
    rw [heq]
    simp
  obtain ⟨rfl, -⟩ := List.append_inj hsplit (by rw [hlen]; simp; omega)
  rw [List.getLast?_concat]

/-- A piece that goes over the end of a line ends in no blank, if it is closed. -/
theorem Cuts.not_isBlank_last (hcut : Cuts p w r) (hp : p ≠ .blanks) (hr : r ≠ [])
    (hline : '\n' ∈ w) : ∀ c ∈ w.getLast?, isBlank c = false := by
  rcases exists_of_piece hcut.2 with ⟨f, hf, hlen⟩ | ⟨rfl, hlen⟩
  · cases p with
    | blanks => exact absurd rfl hp
    | stray => simp [recognisers] at hf
    | token kind =>
      cases kind with
      | comment =>
        obtain rfl : f = commentLength? := by simpa [recognisers] using hf
        rw [comment_last hr hline hlen]
        rintro _ ⟨⟩
        decide
      | rawString =>
        obtain rfl : f = rawStringLength? := by simpa [recognisers] using hf
        rw [rawString_last hlen]
        rintro _ ⟨⟩
        decide
      | string =>
        obtain rfl : f = quotedLength? '"' := by simpa [recognisers] using hf
        exact absurd hline (newline_not_mem_of_quotedLength? (by decide) hlen)
      | char =>
        obtain rfl : f = quotedLength? '\'' := by simpa [recognisers] using hf
        exact absurd hline (newline_not_mem_of_quotedLength? (by decide) hlen)
      | number =>
        obtain rfl : f = numberLength? := by simpa [recognisers] using hf
        exact absurd hline (newline_not_mem_of_numberLength? hlen)
      | ident =>
        have hnot : isWord '\n' = false := by decide
        rw [hcut.ident.2.1 '\n' hline] at hnot
        cases hnot
      | punct =>
        obtain rfl : f = punctLength? := by simpa [recognisers] using hf
        exact absurd hline (newline_not_mem_of_punctLength? hlen)
  · obtain ⟨c, rfl⟩ := List.length_eq_one_iff.1 hlen
    obtain rfl := List.mem_singleton.1 hline
    exact hcut.not_isBlank_head hp

/-- Whole pieces are kept up to the end of a line, if the next piece that is kept comes after it. -/
theorem Passes.clip_line {nl : List Char} (h : Passes (w ++ nl) ls (v ++ r)) (hv : v ≠ [])
    (hnl : ∀ c ∈ nl, isBlank c = true) (hline : nl = [] ∨ nl.head? = some '\n')
    (hbs : ∀ b ∈ bs, isBlank b = true) (hrest : Clip r r' ks) :
    Clip (w ++ (nl ++ (v ++ r))) (w ++ '\n' :: (bs ++ r')) (ls ++ ks) := by
  generalize hu : w ++ nl = u at h
  generalize hx : v ++ r = x at h
  induction h generalizing w with
  | nil =>
    obtain ⟨rfl, rfl⟩ := List.append_eq_nil_iff.1 hu
    subst hx
    rw [List.nil_append, List.nil_append]
    exact .cut hv hbs hrest
  | @blank u x ls c hc h ih =>
    subst hx
    cases w with
    | nil =>
      obtain rfl : nl = c :: u := hu
      obtain rfl := h.eq_nil (List.forall_mem_cons.1 hnl).2
      rw [List.nil_append, ← List.append_assoc]
      exact .cut (by simp) hbs hrest
    | cons d w =>
      obtain ⟨rfl, rfl⟩ := List.cons.inj hu
      exact .blank hc (ih rfl rfl)
  | @piece y u x ls p hcut hp h ih =>
    subst hx
    rcases List.append_eq_append_iff.1 hu with ⟨z, hz, hnl'⟩ | ⟨z, rfl, rfl⟩
    · cases z with
      | nil =>
        obtain rfl : y = w := by rw [hz, List.append_nil]
        obtain rfl : nl = u := hnl'
        rw [List.append_assoc]
        exact .keep hcut hp (ih (w := []) rfl rfl)
      | cons b z =>
        -- the piece would go over the end of the line and end in a blank
        obtain rfl : b = '\n' := by simpa [hnl'] using hline
        have hlast := hcut.not_isBlank_last hp (by simp [hv]) (by simp [hz])
        obtain ⟨c, hc⟩ := Option.isSome_iff_exists.1
          (List.getLast?_isSome.2 (show '\n' :: z ≠ [] by simp))
        have hmem : c ∈ nl := hnl' ▸ List.mem_append_left u (List.mem_of_getLast? hc)
        have hblank := hlast c (by rw [hz, List.getLast?_append, hc]; rfl)
        rw [hnl c hmem] at hblank
        cases hblank
    · rw [List.append_assoc, List.append_assoc, List.append_assoc]
      refine .keep ?_ hp (ih rfl rfl)
      rwa [List.append_assoc] at hcut

end Monomorph.Lexer
