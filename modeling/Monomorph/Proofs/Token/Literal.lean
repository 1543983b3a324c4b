import Monomorph.Proofs.Token.Cut
import Monomorph.Token.StringLiteral

/-!
Literal tokens. The text of a token is what the recogniser of its class takes. So a string token holds
the opening mark of its literal, and decoding it never fails.
-/

namespace Monomorph

namespace Lexer

open Text

variable {s : List Char} {t : Token}

/-- Every piece of a text is the first piece of what is left of the text there. -/
theorem exists_cuts_of_mem_pieces {p : Piece} {lexeme : List Char} (h : (p, lexeme) ∈ pieces s) :
    ∃ rest, Cuts p lexeme rest := by
  induction s using pieces_induction with
  | nil =>
    rw [pieces_nil] at h
    cases h
  | cut p' lexeme' rest hcut ih =>
    rw [hcut.pieces_eq] at h
    rcases List.mem_cons.1 h with heq | hlater
    · obtain ⟨rfl, rfl⟩ := Prod.mk.inj heq
      exact ⟨rest, hcut⟩
    · exact ih hlater

/-- A recogniser takes the text of a token. -/
theorem exists_recogniser_of_mem_tokens (ht : t ∈ tokens s) :
    ∃ f rest, (.token t.kind, f) ∈ recognisers ∧
      f (t.text.toList ++ rest) = some t.text.toList.length := by
  have hcontent : t.content ∈ (lexemes s).map written := by
    rw [← map_content_allTokens]
    exact List.mem_map_of_mem (List.mem_of_mem_filter ht)
  obtain ⟨⟨kind, w⟩, hmem, heq⟩ := List.mem_map.1 hcontent
  obtain ⟨rfl, htext⟩ := Prod.mk.inj heq
  obtain ⟨rest, hcut⟩ := exists_cuts_of_mem_pieces (mem_lexemes.1 hmem)
  obtain ⟨f, hf, hlen⟩ := (exists_of_piece hcut.2).resolve_right (by simp)
  rw [← htext, String.toList_ofList]
  exact ⟨f, rest, hf, hlen⟩

/-- A string token is a quoted literal. -/
theorem exists_quotedLength?_of_mem_tokens (ht : t ∈ tokens s) (hkind : t.kind = .string) :
    ∃ rest, quotedLength? '"' (t.text.toList ++ rest) = some t.text.toList.length := by
  obtain ⟨f, rest, hf, hlen⟩ := exists_recogniser_of_mem_tokens ht
  obtain rfl : f = quotedLength? '"' := by simpa [recognisers, hkind] using hf
  exact ⟨rest, hlen⟩

theorem exists_rawStringLength?_of_mem_tokens (ht : t ∈ tokens s) (hkind : t.kind = .rawString) :
    ∃ rest, rawStringLength? (t.text.toList ++ rest) = some t.text.toList.length := by
  obtain ⟨f, rest, hf, hlen⟩ := exists_recogniser_of_mem_tokens ht
  obtain rfl : f = rawStringLength? := by simpa [recognisers, hkind] using hf
  exact ⟨rest, hlen⟩

/-- The opening parenthesis of a raw string stands behind its opening mark. -/
theorem exists_mem_drop_of_mem_tokens (ht : t ∈ tokens s) (hraw : t.kind = .rawString) :
    ∃ n, through? ['R', '"'] t.text.toList = some n ∧ '(' ∈ t.text.toList.drop n := by
  obtain ⟨rest, hlen⟩ := exists_rawStringLength?_of_mem_tokens ht hraw
  generalize t.text.toList = w at hlen ⊢
  obtain ⟨e, -, r, m, heq, hm, hlong⟩ := exists_of_literal hlen
  obtain ⟨d, body, k, rfl, -, -, -, rfl⟩ := rawTailLength?_eq_some_iff.1 hm
  obtain ⟨v, rfl⟩ : e ++ ['R', '"'] ++ d ++ ['('] <+: w := by
    refine List.prefix_of_prefix_length_le ⟨body, ?_⟩ (List.prefix_append w rest) ?_
    · rw [heq]
      simp
    · rw [hlong]
      simp only [List.length_append, List.length_singleton]
      omega
  rw [List.append_assoc _ ['('] v]
  have hmark : e ++ ['R', '"'] <+: e ++ ['R', '"'] ++ d ++ (['('] ++ v) := by simp
  obtain ⟨n, hn, hle⟩ := exists_through?_le hmark
  have hbefore : n ≤ (e ++ ['R', '"'] ++ d).length := by
    simp only [List.length_append]
    omega
  refine ⟨n, hn, ?_⟩
  rw [List.drop_append_of_le_length hbefore]
  exact List.mem_append_right _ List.mem_cons_self

/-- The opening mark of a literal stands in the text of its token. -/
theorem infix_of_mem_tokens (ht : t ∈ tokens s) :
    (t.kind = .string → ['"'] <:+: t.text.toList) ∧
      (t.kind = .rawString → ['R', '"'] <:+: t.text.toList) := by
  refine ⟨fun hkind => ?_, fun hkind => ?_⟩
  · obtain ⟨rest, hlen⟩ := exists_quotedLength?_of_mem_tokens ht hkind
    obtain ⟨e, -, hstarts⟩ := exists_prefix_of_literal hlen
    exact (List.suffix_append e _).isInfix.trans hstarts.isInfix
  · obtain ⟨rest, hlen⟩ := exists_rawStringLength?_of_mem_tokens ht hkind
    obtain ⟨e, -, hstarts⟩ := exists_prefix_of_literal hlen
    exact (List.suffix_append e _).isInfix.trans hstarts.isInfix

end Lexer

namespace StringLiteral

/-- A string token of a text can be decoded. -/
theorem isSome_decodeToken? {s : List Char} {t : Token} (ht : t ∈ Lexer.tokens s)
    (hstring : t.isString = true) : (decodeToken? t).isSome = true := by
  obtain ⟨hquoted, hraw⟩ := Lexer.infix_of_mem_tokens ht
  rw [Token.isString, Bool.or_eq_true, beq_iff_eq, beq_iff_eq] at hstring
  rcases hstring with hkind | hkind
  · simp only [decodeToken?, hkind, Option.isSome_map]
    exact Lexer.isSome_through? (hquoted hkind)
  · simp only [decodeToken?, hkind, Option.isSome_map]
    exact Lexer.isSome_through? (hraw hkind)

/-- Literals that can be decoded one by one can be decoded together. -/
theorem isSome_decode? {ts : List Token} (h : ∀ t ∈ ts, (decodeToken? t).isSome = true) :
    (decode? ts).isSome = true := by
  have hparts : (ts.mapM decodeToken?).isSome = true := by
    induction ts with
    | nil => rfl
    | cons t ts ih =>
      obtain ⟨ht, hts⟩ := List.forall_mem_cons.1 h
      obtain ⟨part, hpart⟩ := Option.isSome_iff_exists.1 ht
      obtain ⟨parts, hparts⟩ := Option.isSome_iff_exists.1 (ih hts)
      simp [hpart, hparts]
  rw [decode?, Option.isSome_map, hparts]

end StringLiteral

end Monomorph
