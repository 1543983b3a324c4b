import Mathlib.Data.List.DropRight
import Monomorph.Proofs.Token.Slice

/-!
Where the tokens of a text stand. The pieces of a text lie one behind the other, so its tokens do not
overlap, and each is spelled by the characters from its start to its stop. Its line and its column are
told by what is in front of it: how many newlines there are, and how many characters behind the last of
them. What lies between the tokens is white space, and word characters that can start no token.
-/

namespace Monomorph

open Text

/-- The characters behind the last newline, or all of them if there is none. -/
def lastLine (s : List Char) : List Char := s.rtakeWhile (· != '\n')

/-- The token stands in the text, whose first line has the given number, where it says it does. -/
structure Token.StandsIn (s : List Char) (firstLine : Int) (t : Token) : Prop where
  nonempty : t.start < t.stop
  within : t.stop ≤ s.length
  spelled : slice s t.start t.stop = t.text.toList
  line : t.line = firstLine + (s.take t.start).count '\n'
  column : t.column = 1 + (lastLine (s.take t.start)).length

namespace Lexer

/-- A character that need not be part of a token: white space, or a word character that is neither an
ASCII letter, the underscore nor a decimal digit. -/
def isSkipped (c : Char) : Bool := isBlank c || isWord c && !isAsciiStart c && !isDecimal c

/-- Tokens that stand in a text from an offset on, in order and without an overlap, and leave out only
what may be skipped. -/
structure Tiles (s : List Char) (firstLine : Int) (start : Nat) (ts : List Token) : Prop where
  stand : ∀ t ∈ ts, t.StandsIn s firstLine
  behind : ∀ t ∈ ts, start ≤ t.start
  ordered : ts.Pairwise fun t u => t.stop ≤ u.start
  covered : ∀ i c, start ≤ i → s[i]? = some c →
    (∃ t ∈ ts, t.start ≤ i ∧ i < t.stop) ∨ isSkipped c = true

variable {s u w r x : List Char} {n : Int} {start : Nat} {t : Token} {ts : List Token} {p : Piece}

/-! ### Places -/

/-- The place behind some characters. -/
theorem foldl_step_eq (n : Int) (u : List Char) :
    u.foldl Place.step ⟨0, n, 1⟩ = ⟨u.length, n + u.count '\n', 1 + (lastLine u).length⟩ := by
  induction u using List.reverseRecOn with
  | nil => simp [lastLine]
  | append_singleton u c ih =>
    have hlast : lastLine (u ++ [c]) = if (c != '\n') = true then lastLine u ++ [c] else [] :=
      List.rtakeWhile_concat _ _ _
    rw [List.foldl_append, ih, List.foldl_cons, List.foldl_nil, Place.step, hlast]
    by_cases hc : c = '\n'
    · simp [hc, Int.add_assoc]
    · simp [hc, Nat.add_assoc]

/-! ### What is skipped -/

/-- A stray character can start neither an identifier nor a number, and is no punctuation. -/
theorem Cuts.isSkipped_of_stray (h : Cuts .stray w r) : ∃ c, w = [c] ∧ isSkipped c = true := by
  obtain ⟨hne, hpiece⟩ := h
  obtain ⟨c, v, rfl⟩ := List.exists_cons_of_ne_nil hne
  have hlength : v.length + 1 = 1 := by
    rcases exists_of_piece hpiece with ⟨f, hf, -⟩ | ⟨-, hone⟩
    · simp [recognisers] at hf
    · exact hone
  obtain rfl : v = [] := List.length_eq_zero_iff.1 (by omega)
  have hfailed : ∀ f ∈ recognisers, f.2 (c :: r) = none :=
    failed_of_piece hpiece (List.append_nil recognisers).symm (by simp [recognisers])
  obtain ⟨-, -, -, -, hnumber, hident, hpunct, hblanks⟩ :=
    (forall_recognisers (P := fun _ f => f (c :: r) = none)).1 hfailed
  have hblank : isBlank c = false := by simpa [blanksLength?] using hblanks
  have hstart : isAsciiStart c = false := by simpa [identLength?] using hident
  have hscope : c ≠ ':' := by
    rintro rfl
    rw [punctLength?_scope] at hpunct
    split at hpunct <;> cases hpunct
  have harrow : c ≠ '-' := by
    rintro rfl
    rw [punctLength?_arrow] at hpunct
    split at hpunct <;> cases hpunct
  rw [punctLength?_cons hscope harrow] at hpunct
  have hword : isWord c = true := by simpa [hblank] using hpunct
  have hdot : c ≠ '.' := by
    rintro rfl
    exact absurd hword (by decide)
  rw [numberLength?_cons hdot] at hnumber
  have hdecimal : isDecimal c = false := by simpa using hnumber
  exact ⟨c, rfl, by simp [isSkipped, hword, hstart, hdecimal]⟩

/-- What is no token may be skipped. -/
theorem Cuts.isSkipped (h : Cuts p w r) (hp : ∀ kind, p ≠ .token kind) :
    ∀ c ∈ w, Lexer.isSkipped c = true := by
  cases p with
  | token kind => exact absurd rfl (hp kind)
  | blanks =>
    intro c hc
    simp [Lexer.isSkipped, h.forall_isBlank c hc]
  | stray =>
    obtain ⟨c, rfl, hc⟩ := h.isSkipped_of_stray
    exact List.forall_mem_singleton.2 hc

/-! ### Piece by piece -/

theorem tiles_nil (s : List Char) (n : Int) : Tiles s n s.length [] where
  stand := by simp
  behind := by simp
  ordered := .nil
  covered i c hi hc := by
    rw [List.getElem?_eq_none hi] at hc
    cases hc

/-- Characters that may be skipped, in front of the tokens. -/
theorem Tiles.skip (h : Tiles (u ++ (w ++ r)) n (u ++ w).length ts)
    (hw : ∀ c ∈ w, isSkipped c = true) : Tiles (u ++ (w ++ r)) n u.length ts where
  stand := h.stand
  behind t ht := (List.prefix_append u w).length_le.trans (h.behind t ht)
  ordered := h.ordered
  covered i c hi hc := by
    by_cases hlater : (u ++ w).length ≤ i
    · exact h.covered i c hlater hc
    · rw [List.getElem?_append_right hi, List.getElem?_append_left] at hc
      · exact .inr (hw c (List.mem_of_getElem? hc))
      · rw [List.length_append] at hlater
        omega

/-- A token in front of the tokens. -/
theorem Tiles.cons (h : Tiles s n t.stop ts) (ht : t.StandsIn s n) : Tiles s n t.start (t :: ts) where
  stand := List.forall_mem_cons.2 ⟨ht, h.stand⟩
  behind := List.forall_mem_cons.2 ⟨le_rfl, fun u hu => ht.nonempty.le.trans (h.behind u hu)⟩
  ordered := List.pairwise_cons.2 ⟨h.behind, h.ordered⟩
  covered i c hi hc := by
    by_cases hlater : t.stop ≤ i
    · exact (h.covered i c hlater hc).imp_left fun ⟨u, hu, hspan⟩ =>
        ⟨u, List.mem_cons_of_mem t hu, hspan⟩
    · exact .inl ⟨t, List.mem_cons_self, hi, Nat.lt_of_not_le hlater⟩

/-- The token that a piece is, behind the characters in front of it. -/
theorem standsIn_of_piece (kind : Token.Kind) (hw : w ≠ []) (u r : List Char) (n : Int) :
    Token.StandsIn (u ++ (w ++ r)) n ⟨kind, String.ofList w, u.length, (u ++ w).length,
      n + u.count '\n', 1 + (lastLine u).length⟩ where
  nonempty := by simpa using List.length_pos_iff.2 hw
  within := by simp
  spelled := by rw [slice_of_append, String.toList_ofList]
  line := by rw [List.take_left]
  column := by rw [List.take_left]

/-- The tokens of the pieces behind some characters. -/
theorem tiles_place (u x : List Char) (n : Int) :
    Tiles (u ++ x) n u.length (place (u.foldl Place.step ⟨0, n, 1⟩) (pieces x)) := by
  induction x using pieces_induction generalizing u with
  | nil =>
    rw [pieces_nil, List.append_nil]
    exact tiles_nil u n
  | cut p w r hcut ih =>
    have hrest := ih (u ++ w)
    rw [List.append_assoc] at hrest
    rw [hcut.pieces_eq]
    cases p with
    | token kind =>
      rw [place, ← List.foldl_append]
      rw [foldl_step_eq] at hrest
      rw [foldl_step_eq, foldl_step_eq]
      exact hrest.cons (standsIn_of_piece kind hcut.1 u r n)
    | blanks | stray =>
      rw [List.foldl_append] at hrest
      exact hrest.skip (hcut.isSkipped (by simp))

/-- The tokens of every text stand in it one behind the other, each where it says it does, and leave out
only white space and word characters that can start no token; without its comments it has the same tokens
but for these. -/
theorem tokens_tile :
    (∀ s n, Tiles s n 0 (allTokens s n)) ∧
    ∀ s n, tokens s n = (allTokens s n).filter (·.kind != .comment) :=
  ⟨fun s n => tiles_place [] s n, fun _ _ => rfl⟩

example : (allTokens "a /*\n*/ é\u00b2 -> 1".toList 5).map
    (fun t => (t.text, t.start, t.stop, t.line, t.column)) =
      [("a", 0, 1, 5, 1), ("/*\n*/", 2, 7, 5, 3), ("->", 11, 13, 6, 7), ("1", 14, 15, 6, 10)] := by
  decide +kernel

end Lexer

end Monomorph
