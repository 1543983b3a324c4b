import Monomorph.Proofs.Token.Extent

/-!
Texts cut into pieces. Every text that is not empty is the characters of its first piece in front of
a rest, and its pieces are that piece and the pieces of the rest; so a statement about the pieces of
a text is an induction on such cuts. A blank belongs to no token: the tokens of a text stay the same
with a blank put in front of it.
-/

namespace Monomorph

/-- The class and the text of a token, without its place. -/
def Token.content (t : Token) : Token.Kind × String := (t.kind, t.text)

namespace Lexer

open Text

/-- In front of the given rest these characters are the first piece, and of this class. -/
def Cuts (p : Piece) (lexeme rest : List Char) : Prop :=
  lexeme ≠ [] ∧ piece (lexeme ++ rest) = (p, lexeme.length)

variable {p : Piece} {lexeme rest s : List Char}

theorem exists_cuts (hs : s ≠ []) : ∃ p lexeme rest, s = lexeme ++ rest ∧ Cuts p lexeme rest := by
  obtain ⟨hpos, hle⟩ := bounds_of_piece hs (p := (piece s).1) (n := (piece s).2) rfl
  have hlen : (s.take (piece s).2).length = (piece s).2 := List.length_take_of_le hle
  refine ⟨(piece s).1, s.take (piece s).2, s.drop (piece s).2, (List.take_append_drop _ s).symm,
    List.ne_nil_of_length_pos (by omega), ?_⟩
  rw [List.take_append_drop, hlen]

theorem Cuts.pieces_eq (h : Cuts p lexeme rest) :
    pieces (lexeme ++ rest) = (p, lexeme) :: pieces rest := by
  obtain ⟨hne, hpiece⟩ := h
  obtain ⟨c, r, rfl⟩ := List.exists_cons_of_ne_nil hne
  rw [List.cons_append] at hpiece ⊢
  rw [pieces, hpiece]
  simp

theorem Cuts.length_lt (h : Cuts p lexeme rest) : rest.length < (lexeme ++ rest).length := by
  have := List.length_pos_iff.2 h.1
  simp only [List.length_append]
  omega

/-- Induction on the pieces of a text. -/
theorem pieces_induction {P : List Char → Prop} (nil : P [])
    (cut : ∀ p lexeme rest, Cuts p lexeme rest → P rest → P (lexeme ++ rest)) (s : List Char) :
    P s := by
  rcases eq_or_ne s [] with rfl | hs
  · exact nil
  · obtain ⟨p, lexeme, rest, heq, h⟩ := exists_cuts hs
    have hlt : rest.length < s.length := heq ▸ h.length_lt
    exact heq ▸ cut p lexeme rest h (pieces_induction nil cut rest)
termination_by s.length

theorem pieces_nil : pieces [] = [] := by rw [pieces]

/-- No character of a text is lost between its pieces. -/
theorem flatMap_pieces (s : List Char) : (pieces s).flatMap (·.2) = s := by
  induction s using pieces_induction with
  | nil => rw [pieces_nil, List.flatMap_nil]
  | cut p lexeme rest h ih => rw [h.pieces_eq, List.flatMap_cons, ih]

/-! ### Lexemes -/

/-- The class and the characters of a piece that is a token. -/
def lexeme? : Piece × List Char → Option (Token.Kind × List Char)
  | (.token kind, lexeme) => some (kind, lexeme)
  | _ => none

/-- The classes and the characters of the tokens of a text, comments included. -/
def lexemes (s : List Char) : List (Token.Kind × List Char) := (pieces s).filterMap lexeme?

theorem lexemes_nil : lexemes [] = [] := by rw [lexemes, pieces_nil, List.filterMap_nil]

theorem Cuts.lexemes_eq (h : Cuts p lexeme rest) :
    lexemes (lexeme ++ rest) = (lexeme? (p, lexeme)).toList ++ lexemes rest := by
  rw [lexemes, h.pieces_eq, List.filterMap_cons, ← lexemes]
  cases lexeme? (p, lexeme) <;> rfl

theorem mem_lexemes {kind : Token.Kind} {w : List Char} :
    (kind, w) ∈ lexemes s ↔ (.token kind, w) ∈ pieces s := by
  rw [lexemes, List.mem_filterMap]
  constructor
  · rintro ⟨⟨p, v⟩, hmem, heq⟩
    cases p with
    | token k =>
      obtain ⟨rfl, rfl⟩ := Prod.mk.inj (Option.some.inj heq)
      exact hmem
    | blanks => cases heq
    | stray => cases heq
  · exact fun hmem => ⟨_, hmem, rfl⟩

/-- A lexeme as its token shows it. -/
def written (l : Token.Kind × List Char) : Token.Kind × String := (l.1, String.ofList l.2)

theorem map_content_place (here : Place) (ps : List (Piece × List Char)) :
    (place here ps).map Token.content = (ps.filterMap lexeme?).map written := by
  induction ps generalizing here with
  | nil => rfl
  | cons q ps ih =>
    obtain ⟨p, lexeme⟩ := q
    cases p with
    | token kind => simp [place, lexeme?, ih, Token.content, written]
    | blanks => exact ih _
    | stray => exact ih _

theorem map_content_allTokens (s : List Char) (line : Int) :
    (allTokens s line).map Token.content = (lexemes s).map written :=
  map_content_place _ _

/-! ### Places -/

theorem offset_foldl_step (here : Place) (w : List Char) :
    (w.foldl Place.step here).offset = here.offset + w.length := by
  induction w generalizing here with
  | nil => rfl
  | cons c w ih =>
    have hstep : (here.step c).offset = here.offset + 1 := by
      unfold Place.step
      split <;> rfl
    rw [List.foldl_cons, ih, hstep, List.length_cons]
    omega

/-- Tokens stand as far behind the start as there are characters before them. -/
theorem exists_place_append (here : Place) (ps qs : List (Piece × List Char)) :
    ∃ after, after.offset = here.offset + (ps.flatMap (·.2)).length ∧
      place here (ps ++ qs) = place here ps ++ place after qs := by
  induction ps generalizing here with
  | nil => exact ⟨here, rfl, rfl⟩
  | cons q ps ih =>
    obtain ⟨p, lexeme⟩ := q
    obtain ⟨after, hoffset, hplace⟩ := ih (lexeme.foldl Place.step here)
    refine ⟨after, ?_, ?_⟩
    · rw [hoffset, offset_foldl_step, List.flatMap_cons, List.length_append, Nat.add_assoc]
    · cases p with
      | token kind => simp only [List.cons_append, place, hplace]
      | blanks => exact hplace
      | stray => exact hplace

/-! ### What the first character rules out -/

variable {c : Char} {r : List Char}

/-- The characters that can start a literal. -/
def literalStarts : List Char := ['u', 'U', 'L', 'R', '"', '\'']

theorem openerLength?_eq_none {mark : List Char} (hmark : mark ∈ marks) (hc : c ∉ literalStarts) :
    openerLength? mark (c :: r) = none := by
  have hstart : ∀ mark ∈ marks, ∀ e ∈ encodings,
      (e ++ mark).head?.any literalStarts.contains = true := by decide
  refine List.findSome?_eq_none_iff.2 fun e he => if_neg fun hstarts => ?_
  obtain ⟨d, hhead, hd⟩ := (Option.any_eq_true _ _).1 (hstart mark hmark e he)
  obtain ⟨w, hw⟩ := List.head?_eq_some_iff.1 hhead
  rw [hw, List.isPrefixOf_iff_prefix, List.cons_prefix_cons] at hstarts
  exact hc (hstarts.1 ▸ List.contains_iff_mem.1 hd)

theorem rawStringLength?_eq_none (hc : c ∉ literalStarts) : rawStringLength? (c :: r) = none := by
  rw [rawStringLength?, openerLength?_eq_none (by decide) hc, Option.bind_none]

theorem quotedLength?_eq_none {quote : Char} (hquote : quote ∈ quotes) (hc : c ∉ literalStarts) :
    quotedLength? quote (c :: r) = none := by
  have hmark : ∀ quote ∈ quotes, [quote] ∈ marks := by decide
  rw [quotedLength?, openerLength?_eq_none (hmark quote hquote) hc, Option.bind_none]

theorem commentLength?_eq_none (hc : c ≠ '/') : commentLength? (c :: r) = none := by
  unfold commentLength?
  split
  · next heq => cases heq; exact absurd rfl hc
  · next heq => cases heq; exact absurd rfl hc
  · rfl

theorem numberLength?_cons (hc : c ≠ '.') (r : List Char) :
    numberLength? (c :: r) = if isDecimal c then some (numberTailLength r + 1) else none := by
  rw [numberLength?]
  rintro d r' rfl
  exact absurd rfl hc

theorem punctLength?_cons (hscope : c ≠ ':') (harrow : c ≠ '-') (r : List Char) :
    punctLength? (c :: r) = if isBlank c || isWord c then none else some 1 := by
  unfold punctLength?
  split
  · next heq => cases heq; exact absurd rfl hscope
  · next heq => cases heq; exact absurd rfl harrow
  · next heq => cases heq; rfl
  · next heq => cases heq

/-! ### Blanks -/

/-- The code points of blanks. -/
def blankPoints : List Nat :=
  [9, 10, 11, 12, 13, 28, 29, 30, 31, 32, 0x85, 0xa0, 0x1680, 0x2000, 0x2001, 0x2002, 0x2003, 0x2004,
    0x2005, 0x2006, 0x2007, 0x2008, 0x2009, 0x200a, 0x2028, 0x2029, 0x202f, 0x205f, 0x3000]

theorem mem_blankPoints (h : isBlank c = true) : c.toNat ∈ blankPoints := by
  simp only [isBlank, Bool.or_eq_true, Bool.and_eq_true, decide_eq_true_eq, beq_iff_eq] at h
  simp only [blankPoints, List.mem_cons, List.not_mem_nil, or_false]
  omega

/-- No blank belongs to another class, or starts a mark. -/
theorem unlike_of_isBlank (h : isBlank c = true) :
    isDecimal c = false ∧ isAsciiStart c = false ∧ c ∉ ['/', '.', ':', '-'] ++ literalStarts := by
  have hall : ∀ n ∈ blankPoints, isDecimal (Char.ofNat n) = false ∧
      isAsciiStart (Char.ofNat n) = false ∧
      Char.ofNat n ∉ ['/', '.', ':', '-'] ++ literalStarts := by decide
  have hc := hall c.toNat (mem_blankPoints h)
  rwa [Char.ofNat_toNat] at hc

theorem piece_of_isBlank (h : isBlank c = true) (r : List Char) :
    piece (c :: r) = (.blanks, (r.takeWhile isBlank).length + 1) := by
  obtain ⟨hdecimal, hstart, hsigns⟩ := unlike_of_isBlank h
  simp only [List.cons_append, List.nil_append, List.mem_cons, not_or] at hsigns
  obtain ⟨hslash, hdot, hcolon, hdash, hliteral⟩ := hsigns
  have hliteral : c ∉ literalStarts := by simpa [literalStarts] using hliteral
  unfold piece
  simp only [commentLength?_eq_none hslash, rawStringLength?_eq_none hliteral,
    quotedLength?_eq_none (show '"' ∈ quotes by decide) hliteral,
    quotedLength?_eq_none (show '\'' ∈ quotes by decide) hliteral, numberLength?_cons hdot,
    punctLength?_cons hcolon hdash, identLength?, blanksLength?, h, hdecimal, hstart,
    Bool.true_or, Bool.false_eq_true, if_false, if_true]

/-- A run of blanks ends at the first character that is none. -/
theorem cuts_blanks (h : isBlank c = true) (r : List Char) :
    Cuts .blanks (c :: r.takeWhile isBlank) (r.dropWhile isBlank) := by
  refine ⟨by simp, ?_⟩
  rw [List.cons_append, List.takeWhile_append_dropWhile, piece_of_isBlank h, List.length_cons]

/-- A blank in front of a text is no token and changes none. -/
theorem lexemes_cons_of_isBlank (h : isBlank c = true) (r : List Char) :
    lexemes (c :: r) = lexemes r := by
  have hrun : ∀ {b : Char} (s : List Char), isBlank b = true →
      lexemes (b :: s) = lexemes (s.dropWhile isBlank) := fun {b} s hb => by
    have hcut := (cuts_blanks hb s).lexemes_eq
    rwa [List.cons_append, List.takeWhile_append_dropWhile] at hcut
  rw [hrun r h]
  cases r with
  | nil => rfl
  | cons d r =>
    cases hd : isBlank d with
    | true => rw [List.dropWhile_cons_of_pos hd, hrun r hd]
    | false => rw [List.dropWhile_cons_of_neg (by simp [hd])]

theorem Cuts.forall_isBlank (h : Cuts .blanks lexeme rest) : ∀ c ∈ lexeme, isBlank c = true := by
  obtain ⟨hne, hpiece⟩ := h
  obtain ⟨c, w, rfl⟩ := List.exists_cons_of_ne_nil hne
  obtain ⟨f, hf, hlen⟩ := (exists_of_piece hpiece).resolve_right (by simp)
  obtain rfl : f = blanksLength? := by simpa [recognisers] using hf
  simp only [List.cons_append, blanksLength?] at hlen
  split at hlen
  · next hblank =>
    have hw : ((w ++ rest).takeWhile isBlank).length = w.length := by simpa using hlen
    exact List.forall_mem_cons.2 ⟨hblank, (length_takeWhile_append_iff.1 hw).1⟩
  · cases hlen

theorem lexemes_append_of_isBlank {bs : List Char} (h : ∀ b ∈ bs, isBlank b = true)
    (r : List Char) : lexemes (bs ++ r) = lexemes r := by
  induction bs with
  | nil => rfl
  | cons b bs ih =>
    obtain ⟨hb, hbs⟩ := List.forall_mem_cons.1 h
    rw [List.cons_append, lexemes_cons_of_isBlank hb, ih hbs]

end Lexer

end Monomorph
