import Monomorph.Proofs.Token.Context

/-!
Where literals open. A text opens a literal if it starts with an opening mark: a word that says how
the literal is written, and a quote. Only an identifier in front of a quote does so without being
part of a literal. So a piece that opens nothing stays what it is in front of every rest that starts
alike.
-/

namespace Monomorph.Lexer

open Text

/-- The words that open a literal in front of a quote, with the quote. -/
def openings : List (List Char × Char) :=
  encodings.map (·, '"') ++ encodings.map (·, '\'') ++ encodings.map (· ++ ['R'], '"')

/-- The text starts with the opening mark of a literal. -/
def Opens (s : List Char) : Prop := ∃ o ∈ openings, o.1 ++ [o.2] <+: s

variable {p : Piece} {lexeme rest rest' s : List Char}

theorem openerLength?_of_not_opens {mark : List Char} (hmark : mark ∈ marks) (h : ¬ Opens s) :
    openerLength? mark s = none := by
  have hall : ∀ mark ∈ marks, ∀ e ∈ encodings, ∃ o ∈ openings, o.1 ++ [o.2] = e ++ mark := by decide
  refine List.findSome?_eq_none_iff.2 fun e he => if_neg fun hstarts => ?_
  obtain ⟨o, ho, heq⟩ := hall mark hmark e he
  exact h ⟨o, ho, heq ▸ List.isPrefixOf_iff_prefix.1 hstarts⟩

theorem rawStringLength?_of_not_opens (h : ¬ Opens s) : rawStringLength? s = none := by
  rw [rawStringLength?, openerLength?_of_not_opens (by decide) h, Option.bind_none]

theorem quotedLength?_of_not_opens {quote : Char} (hquote : quote ∈ quotes) (h : ¬ Opens s) :
    quotedLength? quote s = none := by
  have hmark : ∀ quote ∈ quotes, [quote] ∈ marks := by decide
  rw [quotedLength?, openerLength?_of_not_opens (hmark quote hquote) h, Option.bind_none]

theorem opening_chars : ∀ o ∈ openings, (∀ c ∈ o.1, isWord c = true) ∧ o.2 ∈ quotes := by
  decide

theorem quote_chars : ∀ quote ∈ quotes, isWord quote = false ∧ isAsciiStart quote = false ∧
    quote ≠ '\n' := by
  decide

/-- A word opens a literal exactly if it is an opening word and its quote comes next. -/
theorem opens_append_iff (hword : ∀ c ∈ lexeme, isWord c = true)
    (hrest : ∀ c ∈ rest.head?, isWord c = false) :
    Opens (lexeme ++ rest) ↔ ∃ o ∈ openings, lexeme = o.1 ∧ rest.head? = some o.2 := by
  constructor
  · rintro ⟨o, ho, t, heq⟩
    obtain ⟨hin, hquote⟩ := opening_chars o ho
    have hleft := takeWhile_append_eq_left_iff.2 ⟨hword, hrest⟩
    have hright : (o.1 ++ o.2 :: t).takeWhile isWord = o.1 :=
      takeWhile_append_eq_left_iff.2 ⟨hin, by simpa using (quote_chars _ hquote).1⟩
    rw [List.append_assoc, List.singleton_append] at heq
    rw [heq, hleft] at hright
    obtain ⟨-, hrest⟩ := List.append_inj heq (by rw [hright])
    exact ⟨o, ho, hright, by rw [← hrest, List.head?_cons]⟩
  · rintro ⟨o, ho, rfl, hhead⟩
    obtain ⟨t, rfl⟩ := List.head?_eq_some_iff.1 hhead
    exact ⟨o, ho, t, by simp⟩

/-- A word that opens nothing opens nothing in front of a rest that starts alike. -/
theorem Meets.not_opens (h : Meets rest rest') (hword : ∀ c ∈ lexeme, isWord c = true)
    (hrest : ∀ c ∈ rest.head?, isWord c = false) (hopens : ¬ Opens (lexeme ++ rest)) :
    ¬ Opens (lexeme ++ rest') := by
  have hstart : ∀ c c', isAsciiStart c = true → isAsciiStart c' = true → isWord c = false →
      isWord c' = false := fun c c' hc _ hnot => by
    rw [(unlike_of_isAsciiStart hc).1] at hnot
    cases hnot
  rw [opens_append_iff hword (h.head hrest (by decide) hstart)]
  rintro ⟨o, ho, heq, hhead⟩
  refine hopens ((opens_append_iff hword hrest).2 ⟨o, ho, heq, ?_⟩)
  obtain ⟨-, hletter, hline⟩ := quote_chars _ (opening_chars o ho).2
  cases h with
  | ends => cases hhead
  | line => exact absurd (Option.some.inj hhead).symm hline
  | same => exact hhead
  | starts _ hc' =>
    rw [← Option.some.inj hhead, hc'] at hletter
    cases hletter

/-! ### Heads of pieces -/

/-- Only a literal, an identifier or a bare quote starts like a literal. -/
theorem Cuts.head_not_mem (h : Cuts p lexeme rest)
    (hp : p ∈ [.token .comment, .token .number, .token .punct, .stray])
    (hquote : p = .token .punct → ∀ quote ∈ quotes, lexeme ≠ [quote]) :
    ∃ c w, lexeme = c :: w ∧ c ∉ literalStarts := by
  obtain ⟨hne, hpiece⟩ := h
  obtain ⟨c, w, rfl⟩ := List.exists_cons_of_ne_nil hne
  refine ⟨c, w, rfl, fun hc => ?_⟩
  have hstarts : ∀ c ∈ literalStarts, c ∉ ['/', '.', ':', '-'] ∧ isDecimal c = false ∧
      isBlank c = false ∧ (isAsciiStart c = true ∧ isWord c = true ∨ c ∈ quotes) := by
    decide
  obtain ⟨hsigns, hdecimal, hblank, hkind⟩ := hstarts c hc
  simp only [List.mem_cons, List.not_mem_nil, or_false, not_or] at hsigns
  obtain ⟨hslash, hdot, hscope, harrow⟩ := hsigns
  rw [List.cons_append] at hpiece
  simp only [List.mem_cons, List.not_mem_nil, or_false] at hp
  rcases hp with rfl | rfl | rfl | rfl
  · obtain ⟨f, hf, hlen⟩ := (exists_of_piece hpiece).resolve_right (by simp)
    obtain rfl : f = commentLength? := by simpa [recognisers] using hf
    rw [commentLength?_eq_none hslash] at hlen
    cases hlen
  · obtain ⟨f, hf, hlen⟩ := (exists_of_piece hpiece).resolve_right (by simp)
    obtain rfl : f = numberLength? := by simpa [recognisers] using hf
    rw [numberLength?_cons hdot, hdecimal] at hlen
    cases hlen
  · obtain ⟨f, hf, hlen⟩ := (exists_of_piece hpiece).resolve_right (by simp)
    obtain rfl : f = punctLength? := by simpa [recognisers] using hf
    rw [punctLength?_cons hscope harrow, hblank, Bool.false_or] at hlen
    rcases hkind with ⟨-, hword⟩ | hmem
    · rw [hword] at hlen
      cases hlen
    · rw [(quote_chars c hmem).1] at hlen
      obtain rfl : w = [] := by simpa using hlen
      exact hquote rfl c hmem rfl
  · have hfail := failed_of_piece hpiece (List.append_nil recognisers).symm (by decide)
    have hident := hfail (.token .ident, identLength?) (by simp [recognisers])
    have hpunct := hfail (.token .punct, punctLength?) (by simp [recognisers])
    simp only [punctLength?_cons hscope harrow, hblank, Bool.false_or] at hpunct
    rcases hkind with ⟨hstart, -⟩ | hmem
    · simp [identLength?, hstart] at hident
    · simp [(quote_chars c hmem).1] at hpunct

/-- A text that opens with one mark does not open with another one. -/
theorem openerLength?_eq_none_of_ne {mark mark' e : List Char} (hmark : mark ∈ marks)
    (hmark' : mark' ∈ marks) (hne : mark ≠ mark') (he : e ∈ encodings) (h : e ++ mark <+: s) :
    openerLength? mark' s = none := by
  refine List.findSome?_eq_none_iff.2 fun e' he' => if_neg fun hstarts => hne ?_
  exact (eq_of_mem_encodings hmark hmark' he he' h (List.isPrefixOf_iff_prefix.1 hstarts)).2

/-- A literal opens with its own mark, whatever stands behind it. -/
theorem openerLength?_of_literal {mark mark' : List Char} {g : List Char → Option Nat}
    (hmark : mark ∈ marks) (hmark' : mark' ∈ marks) (hne : mark ≠ mark')
    (h : ((openerLength? mark (lexeme ++ rest)).bind fun n =>
      (g ((lexeme ++ rest).drop n)).map (· + n)) = some lexeme.length) (rest' : List Char) :
    openerLength? mark' (lexeme ++ rest') = none := by
  obtain ⟨e, he, hinside⟩ := exists_prefix_of_literal h
  exact openerLength?_eq_none_of_ne hmark hmark' hne he
    (hinside.trans (List.prefix_append lexeme rest'))

theorem rawStringLength?_of_opener (h : openerLength? ['R', '"'] s = none) :
    rawStringLength? s = none := by
  rw [rawStringLength?, h, Option.bind_none]

theorem quotedLength?_of_opener {quote : Char} (h : openerLength? [quote] s = none) :
    quotedLength? quote s = none := by
  rw [quotedLength?, h, Option.bind_none]

theorem mark_of_quote : ∀ quote ∈ quotes, [quote] ∈ marks ∧ ['R', '"'] ≠ [quote] := by decide

theorem Cuts.replace_rawString (hcut : Cuts (.token .rawString) lexeme rest)
    (h : Meets rest rest') : Cuts (.token .rawString) lexeme rest' := by
  obtain ⟨f, hf, hlen⟩ := (exists_of_piece hcut.2).resolve_right (by simp)
  obtain rfl : f = rawStringLength? := by simpa [recognisers] using hf
  refine hcut.congr (by simp) h (fun hnone => ?_) fun quote hmem _ => ?_
  · rw [hnone] at hlen
    cases hlen
  · obtain ⟨hmark, hne⟩ := mark_of_quote quote hmem
    exact quotedLength?_of_opener (openerLength?_of_literal (by decide) hmark hne hlen rest')

theorem Cuts.replace_quoted {quote : Char} (hcut : Cuts p lexeme rest) (hblank : p ≠ .blanks)
    (h : Meets rest rest') (hquote : quote ∈ quotes)
    (hlen : quotedLength? quote (lexeme ++ rest) = some lexeme.length) : Cuts p lexeme rest' := by
  obtain ⟨hmark, hne⟩ := mark_of_quote quote hquote
  refine hcut.congr hblank h (fun _ => ?_) fun other hmem hnone => ?_
  · exact rawStringLength?_of_opener
      (openerLength?_of_literal hmark (by decide) hne.symm hlen rest')
  · rcases eq_or_ne quote other with rfl | hother
    · rw [hnone] at hlen
      cases hlen
    · exact quotedLength?_of_opener (openerLength?_of_literal hmark (mark_of_quote other hmem).1
        (by simpa using hother) hlen rest')

/-- A piece stays what it is in front of a rest that starts alike, unless it is a bare quote or an
identifier that opens a literal. -/
theorem Cuts.replace (hcut : Cuts p lexeme rest) (hblank : p ≠ .blanks) (h : Meets rest rest')
    (hquote : p = .token .punct → ∀ quote ∈ quotes, lexeme ≠ [quote])
    (hident : p = .token .ident → ¬ Opens (lexeme ++ rest)) : Cuts p lexeme rest' := by
  by_cases hp : p ∈ [.token .comment, .token .number, .token .punct, .stray]
  · obtain ⟨c, w, rfl, hc⟩ := hcut.head_not_mem hp hquote
    exact hcut.congr hblank h (fun _ => rawStringLength?_eq_none hc)
      fun quote hmem _ => quotedLength?_eq_none hmem hc
  · rcases exists_of_piece hcut.2 with ⟨f, hf, hlen⟩ | ⟨rfl, -⟩
    · cases p with
      | blanks => exact absurd rfl hblank
      | stray => simp at hp
      | token kind =>
        cases kind with
        | comment | number | punct => simp at hp
        | ident =>
          obtain ⟨-, hword, hrest⟩ := hcut.ident
          have hopens := h.not_opens hword hrest (hident rfl)
          exact hcut.congr hblank h (fun _ => rawStringLength?_of_not_opens hopens)
            fun quote hmem _ => quotedLength?_of_not_opens hmem hopens
        | rawString => exact hcut.replace_rawString h
        | string =>
          obtain rfl : f = quotedLength? '"' := by simpa [recognisers] using hf
          exact hcut.replace_quoted hblank h (by decide) hlen
        | char =>
          obtain rfl : f = quotedLength? '\'' := by simpa [recognisers] using hf
          exact hcut.replace_quoted hblank h (by decide) hlen
    · simp at hp

/-! ### Bare quotes -/

/-- A quote that closes nowhere stands alone. -/
theorem cuts_quote {quote : Char} (hquote : quote ∈ quotes)
    (hfail : quotedTailLength? quote s = none) : Cuts (.token .punct) [quote] s := by
  have hsigns : ∀ quote ∈ quotes, quote ≠ '/' ∧ quote ≠ '.' ∧ quote ≠ ':' ∧ quote ≠ '-' ∧
      isDecimal quote = false ∧ isBlank quote = false := by decide
  obtain ⟨hslash, hdot, hscope, harrow, hdecimal, hblank⟩ := hsigns quote hquote
  obtain ⟨hword, hstart, -⟩ := quote_chars quote hquote
  obtain ⟨hmark, hne⟩ := mark_of_quote quote hquote
  have hstarts : [] ++ [quote] <+: quote :: s := List.prefix_append [quote] s
  have hraw : rawStringLength? (quote :: s) = none := rawStringLength?_of_opener
    (openerLength?_eq_none_of_ne hmark (by decide) hne.symm (by decide) hstarts)
  have hquoted : ∀ other ∈ quotes, quotedLength? other (quote :: s) = none := by
    intro other hmem
    rcases eq_or_ne quote other with rfl | hother
    · have hopen := (openerLength?_eq_some_iff hmark).2 ⟨[], by decide, hstarts, rfl⟩
      rw [quotedLength?, hopen]
      simp [hfail]
    · exact quotedLength?_of_opener (openerLength?_eq_none_of_ne hmark (mark_of_quote other hmem).1
        (by simpa using hother) (by decide) hstarts)
  refine ⟨by simp, ?_⟩
  unfold piece
  simp only [List.singleton_append, commentLength?_eq_none hslash, hraw, hquoted '"' (by decide),
    hquoted '\'' (by decide), numberLength?_cons hdot, hdecimal, identLength?, hstart,
    punctLength?_cons hscope harrow, hblank, hword, Bool.false_or, Bool.false_eq_true, if_false,
    List.length_singleton]

/-- What is recognised behind the quoted literals is none. -/
theorem Cuts.quotedLength?_eq_none (h : Cuts p lexeme rest)
    (hp : ∀ f ∈ recognisers.take 4, f.1 ≠ p) :
    ∀ quote ∈ quotes, quotedLength? quote (lexeme ++ rest) = none := by
  have hfail := failed_of_piece h.2 (List.take_append_drop 4 recognisers).symm hp
  intro quote hmem
  simp only [quotes, List.mem_cons, List.not_mem_nil, or_false] at hmem
  rcases hmem with rfl | rfl
  · exact hfail (.token .string, quotedLength? '"') (by simp [recognisers])
  · exact hfail (.token .char, quotedLength? '\'') (by simp [recognisers])

/-- An identifier that opens a literal in vain stands in front of a bare quote, or it is the mark of
a raw string. -/
theorem Cuts.of_opens (h : Cuts (.token .ident) lexeme rest) (hopens : Opens (lexeme ++ rest)) :
    (∃ quote ∈ quotes, ∃ s, rest = quote :: s ∧ Cuts (.token .punct) [quote] s) ∨
      lexeme ∈ encodings.map (· ++ ['R']) ∧ rest.head? = some '"' := by
  obtain ⟨-, hword, hrest⟩ := h.ident
  obtain ⟨o, ho, rfl, hhead⟩ := (opens_append_iff hword hrest).1 hopens
  have hkinds : ∀ o ∈ openings, (o.1 ∈ encodings ∧ o.2 ∈ quotes) ∨
      (o.1 ∈ encodings.map (· ++ ['R']) ∧ o.2 = '"') := by decide
  rcases hkinds o ho with ⟨hencoding, hquote⟩ | ⟨hraw, hquote⟩
  · obtain ⟨s, rfl⟩ := List.head?_eq_some_iff.1 hhead
    refine .inl ⟨o.2, hquote, s, rfl, cuts_quote hquote ?_⟩
    by_contra hclosed
    obtain ⟨m, hm⟩ := Option.ne_none_iff_exists'.1 hclosed
    have hstarts : o.1 ++ [o.2] <+: o.1 ++ o.2 :: s := ⟨s, by simp⟩
    have hopen := (openerLength?_eq_some_iff (mark_of_quote _ hquote).1).2
      ⟨o.1, hencoding, hstarts, rfl⟩
    have hsome : quotedLength? o.2 (o.1 ++ o.2 :: s) ≠ none := by
      rw [quotedLength?, hopen]
      simp [← List.drop_drop, hm]
    exact hsome (h.quotedLength?_eq_none (by decide) o.2 hquote)
  · exact .inr ⟨hraw, hquote ▸ hhead⟩

/-! ### Pieces that do not depend on what follows -/

/-- An identifier ends in front of any other character, unless it opens a literal. -/
theorem cuts_ident (hstart : ∃ c ∈ lexeme.head?, isAsciiStart c = true)
    (hword : ∀ c ∈ lexeme, isWord c = true) (hrest : ∀ c ∈ rest.head?, isWord c = false)
    (hopens : lexeme ∉ openings.map (·.1)) : Cuts (.token .ident) lexeme rest := by
  obtain ⟨c, hc, hstart⟩ := hstart
  obtain ⟨w, rfl⟩ := List.head?_eq_some_iff.1 hc
  have hnot : ¬ Opens (c :: w ++ rest) := fun hopens' => by
    obtain ⟨o, ho, heq, -⟩ := (opens_append_iff hword hrest).1 hopens'
    exact hopens (heq ▸ List.mem_map_of_mem ho)
  obtain ⟨hslash, hdot⟩ : c ≠ '/' ∧ c ≠ '.' := by
    constructor <;> rintro rfl <;> revert hstart <;> decide
  have hdecimal := (unlike_of_isAsciiStart hstart).2.1
  have htake : (w ++ rest).takeWhile isWord = w :=
    takeWhile_append_eq_left_iff.2 ⟨(List.forall_mem_cons.1 hword).2, hrest⟩
  refine ⟨by simp, ?_⟩
  have hquoted : ∀ quote ∈ quotes, quotedLength? quote (c :: (w ++ rest)) = none := fun _ hmem =>
    quotedLength?_of_not_opens hmem hnot
  have hraw : rawStringLength? (c :: (w ++ rest)) = none := rawStringLength?_of_not_opens hnot
  unfold piece
  simp only [List.cons_append, commentLength?_eq_none hslash, hraw, hquoted '"' (by decide),
    hquoted '\'' (by decide), numberLength?_cons hdot, hdecimal, identLength?, hstart, htake,
    Bool.false_eq_true, if_false, if_true, List.length_cons]

/-- Signs that are never part of a longer one. -/
def signs : List (List Char) := [['<'], ['>'], [','], [':', ':']]

theorem cuts_sign (h : lexeme ∈ signs) (rest : List Char) : Cuts (.token .punct) lexeme rest := by
  have hsigns : ∀ w ∈ signs, w ≠ [] ∧ ∀ c ∈ w, c ≠ '/' ∧ c ≠ '.' ∧ c ∉ literalStarts ∧
      isDecimal c = false ∧ isAsciiStart c = false := by decide
  obtain ⟨hne, hchars⟩ := hsigns lexeme h
  have hpunct : punctLength? (lexeme ++ rest) = some lexeme.length := by
    simp only [signs, List.mem_cons, List.not_mem_nil, or_false] at h
    rcases h with rfl | rfl | rfl | rfl
    · exact punctLength?_cons (by decide) (by decide) rest
    · exact punctLength?_cons (by decide) (by decide) rest
    · exact punctLength?_cons (by decide) (by decide) rest
    · exact punctLength?_scope (':' :: rest)
  obtain ⟨c, w, rfl⟩ := List.exists_cons_of_ne_nil hne
  obtain ⟨hslash, hdot, hliteral, hdecimal, hstart⟩ := hchars c List.mem_cons_self
  refine ⟨hne, ?_⟩
  rw [List.cons_append] at hpunct ⊢
  unfold piece
  simp only [commentLength?_eq_none hslash, rawStringLength?_eq_none hliteral,
    quotedLength?_eq_none (show '"' ∈ quotes by decide) hliteral,
    quotedLength?_eq_none (show '\'' ∈ quotes by decide) hliteral, numberLength?_cons hdot, hdecimal,
    identLength?, hstart, hpunct, Bool.false_eq_true, if_false]

/-- Is the piece the same in front of everything that does not continue an identifier? -/
def isPlain : Piece × List Char → Bool
  | (.blanks, _) => true
  | (.token .ident, lexeme) => !(openings.map (·.1)).contains lexeme
  | (.token .punct, lexeme) => signs.contains lexeme
  | _ => false

/-- The tokens of a text of plain pieces stand in front of those of any text that does not continue
its last identifier. -/
theorem lexemes_append_of_isPlain (hplain : ∀ q ∈ pieces s, isPlain q = true)
    (hrest : ∀ c ∈ rest.head?, isWord c = false) :
    lexemes (s ++ rest) = lexemes s ++ lexemes rest := by
  induction s using pieces_induction with
  | nil => rw [lexemes_nil, List.nil_append, List.nil_append]
  | cut p lexeme after hcut ih =>
    rw [hcut.pieces_eq] at hplain
    obtain ⟨hpiece, hafter⟩ := List.forall_mem_cons.1 hplain
    have hmore : Cuts p lexeme (after ++ rest) ∨ p = .blanks := by
      cases p with
      | blanks => exact .inr rfl
      | stray => cases hpiece
      | token kind =>
        cases kind with
        | ident =>
          obtain ⟨hstart, hword, hend⟩ := hcut.ident
          have hopens : lexeme ∉ openings.map (·.1) := by simpa [isPlain] using hpiece
          refine .inl (cuts_ident hstart hword (fun c hc => ?_) hopens)
          cases after with
          | nil => exact hrest c hc
          | cons d after => exact hend c hc
        | punct => exact .inl (cuts_sign (by simpa [isPlain] using hpiece) _)
        | number | string | rawString | char | comment => cases hpiece
    rw [List.append_assoc, hcut.lexemes_eq]
    rcases hmore with hmore | rfl
    · rw [hmore.lexemes_eq, ih hafter, List.append_assoc]
    · rw [lexemes_append_of_isBlank hcut.forall_isBlank, ih hafter]
      rfl

end Monomorph.Lexer
