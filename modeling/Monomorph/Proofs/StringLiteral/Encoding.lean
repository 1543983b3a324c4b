import Monomorph.Proofs.StringLiteral.Delimiter
import Monomorph.Proofs.Token.Opening
import Monomorph.Proofs.Token.Stretch

/-!
Texts as literals. Each of the two notations makes one token of a text, whatever stands behind it, and
decoding that token gives the text back. So literals of either kind that stand side by side are one
token each, and together they decode to the texts one after the other. A raw literal needs a delimiter
that does not end it early and has no more characters than are allowed; a short text leaves some, but
several short texts together can use all of them up.
-/

namespace Monomorph.StringLiteral

open Lexer Text

variable {c : Char} {s : List Char}

/-! ### Ordinary literals -/

/-- A character is written with a backslash that is taken back, or as it is. -/
theorem escape_cases (c : Char) :
    (∃ d, escape c = ['\\', d] ∧ d ≠ '\n' ∧ unescapeChar d = c) ∨
      (escape c = [c] ∧ c ≠ '\\' ∧ c ≠ '"' ∧ c ≠ '\n') := by
  by_cases hspecial : c ∈ ['\\', '"', '\n', '\t']
  · have hall : ∀ c ∈ ['\\', '"', '\n', '\t'],
        ((escape c).head? = some '\\' ∧ (escape c).length = 2) ∧
          (escape c).getLast? ≠ some '\n' ∧ (escape c).getLast?.map unescapeChar = some c := by
      decide
    obtain ⟨⟨hhead, hlength⟩, hline, hlast⟩ := hall c hspecial
    obtain ⟨a, d, heq⟩ := List.length_eq_two.1 hlength
    simp only [heq, List.head?_cons, Option.some.injEq, List.getLast?_cons_cons,
      List.getLast?_singleton, ne_eq, Option.map_some] at hhead hline hlast
    exact .inl ⟨d, by rw [heq, hhead], hline, hlast⟩
  · simp only [List.mem_cons, List.not_mem_nil, or_false, not_or] at hspecial
    obtain ⟨hback, hquote, hline, htab⟩ := hspecial
    exact .inr ⟨by simp [escape, hback, hquote, hline, htab], hback, hquote, hline⟩

theorem unescape_backslash (hc : c ≠ '\n') (r : List Char) :
    unescape ('\\' :: c :: r) = unescapeChar c :: unescape r := by
  simp [unescape, hc]

theorem unescape_cons (hc : c ≠ '\\') (r : List Char) : unescape (c :: r) = c :: unescape r := by
  rw [unescape]
  rintro d r' rfl
  exact absurd rfl hc

/-- What was escaped is recovered. -/
theorem unescape_flatMap_escape (s : List Char) : unescape (s.flatMap escape) = s := by
  induction s with
  | nil => rfl
  | cons c s ih =>
    rw [List.flatMap_cons]
    rcases escape_cases c with ⟨d, heq, hline, hd⟩ | ⟨heq, hback, -, -⟩
    · rw [heq, List.cons_append, List.singleton_append, unescape_backslash hline, ih, hd]
    · rw [heq, List.singleton_append, unescape_cons hback, ih]

/-- The quote that ends a literal is the first one that no backslash precedes. -/
theorem quotedTailLength?_escaped (s rest : List Char) :
    quotedTailLength? '"' (s.flatMap escape ++ '"' :: rest) = some ((s.flatMap escape).length + 1) := by
  induction s with
  | nil => exact quotedTailLength?_cons '"' (by decide) rest
  | cons c s ih =>
    rw [List.flatMap_cons, List.append_assoc, List.length_append]
    rcases escape_cases c with ⟨d, heq, hline, -⟩ | ⟨heq, hback, hquote, hline⟩
    · rw [heq, List.cons_append, List.singleton_append, quotedTailLength?_escape, if_neg hline, ih]
      simp only [Option.map_some, List.length_cons, List.length_nil, Option.some.injEq]
      omega
    · rw [heq, List.singleton_append, quotedTailLength?_cons '"' hback, if_neg hquote, if_neg hline, ih]
      simp only [Option.map_some, List.length_singleton, Option.some.injEq]
      omega

/-- An ordinary literal is one token in front of every text. -/
theorem cuts_quotedOf (s rest : List Char) : Cuts (.token .string) (quotedOf s) rest := by
  have hstarts : [] ++ ['"'] <+: quotedOf s ++ rest := List.prefix_append ['"'] _
  have hmark : ['"'] ∈ marks := by decide
  have hraw : rawStringLength? (quotedOf s ++ rest) = none := rawStringLength?_of_opener
    (openerLength?_eq_none_of_ne hmark (by decide) (by decide) (by decide) hstarts)
  have hopen : openerLength? ['"'] (quotedOf s ++ rest) = some 1 :=
    (openerLength?_eq_some_iff (by decide)).2 ⟨[], by decide, hstarts, rfl⟩
  have hbehind : (quotedOf s ++ rest).drop 1 = s.flatMap escape ++ '"' :: rest := by simp [quotedOf]
  have hquoted : quotedLength? '"' (quotedOf s ++ rest) = some (quotedOf s).length := by
    rw [quotedLength?, hopen, Option.bind_some, hbehind, quotedTailLength?_escaped, Option.map_some]
    simp [quotedOf]
  have hcomment : commentLength? (quotedOf s ++ rest) = none := commentLength?_eq_none (by decide)
  refine ⟨by simp [quotedOf], ?_⟩
  unfold piece
  rw [hcomment, hraw, hquoted]

/-! ### Raw literals -/

/-- A mark whose first character does not come back in it is found where it stands, if it does not
occur before. -/
theorem through?_append_of_not_infix {w : List Char} (hc : c ∉ w) (hfree : ¬ c :: w <:+: s)
    (rest : List Char) :
    through? (c :: w) (s ++ (c :: w ++ rest)) = some (s.length + (c :: w).length) := by
  induction s with
  | nil =>
    rw [List.nil_append, through?_eq_length (List.prefix_append (c :: w) rest), List.length_nil,
      Nat.zero_add]
  | cons d s ih =>
    have hlater : ¬ c :: w <+: d :: s ++ (c :: w ++ rest) := by
      intro hstarts
      rcases List.prefix_or_prefix_of_prefix hstarts (List.prefix_append (d :: s) _) with hin | hover
      · exact hfree hin.isInfix
      · -- the mark would go on with its own first character
        obtain ⟨v, hv⟩ := hover
        rw [← hv, List.append_assoc, List.prefix_append_right_inj] at hstarts
        cases v with
        | nil => exact hfree (by rw [← hv, List.append_nil])
        | cons e v =>
          obtain ⟨rfl, -⟩ := List.cons_prefix_cons.1 hstarts
          obtain ⟨rfl, rfl⟩ := List.cons.inj hv
          exact hc (List.mem_append_right s List.mem_cons_self)
    have hfree' : ¬ c :: w <:+: s := fun hin => hfree (hin.trans (List.suffix_cons d s).isInfix)
    rw [List.cons_append] at hlater ⊢
    rw [through?, if_neg (by rwa [List.isPrefixOf_iff_prefix]), ih hfree', Option.map_some,
      @List.length_cons _ d s]
    simp only [Option.some.injEq]
    omega

theorem not_mem_freeDelimiter (s : List Char) :
    (∀ c ∈ freeDelimiter s, isDelimiterChar c = true) ∧ ')' ∉ freeDelimiter s ++ ['"'] ∧
      ∀ c ∈ freeDelimiter s, c ≠ '(' := by
  obtain ⟨n, -, heq, -, -⟩ := exists_freeDelimiter s
  have hchars : ∀ c ∈ freeDelimiter s, isDelimiterChar c = true := fun c hc =>
    isDelimiterChar_of_mem (heq ▸ hc)
  refine ⟨hchars, ?_, ?_⟩
  · intro hmem
    rcases List.mem_append.1 hmem with hmem | hmem
    · exact absurd (hchars _ hmem) (by decide)
    · exact absurd hmem (by decide)
  · rintro c hc rfl
    exact absurd (hchars _ hc) (by decide)

/-- A raw literal is one token in front of every text, if its delimiter is no longer than allowed. -/
theorem cuts_rawOf (h : (freeDelimiter s).length ≤ 16) (rest : List Char) :
    Cuts (.token .rawString) (rawOf s) rest := by
  obtain ⟨n, -, heq, hfree, -⟩ := exists_freeDelimiter s
  obtain ⟨hchars, hclose, -⟩ := not_mem_freeDelimiter s
  have hbody : through? ([')'] ++ freeDelimiter s ++ ['"']) (s ++ (rawCloser (freeDelimiter s) ++ rest)) =
      some (s.length + (rawCloser (freeDelimiter s)).length) :=
    through?_append_of_not_infix hclose (by rw [heq]; exact hfree) rest
  have hstarts : [] ++ ['R', '"'] <+: rawOf s ++ rest := by simp [rawOf]
  have hopen : openerLength? ['R', '"'] (rawOf s ++ rest) = some 2 :=
    (openerLength?_eq_some_iff (by decide)).2 ⟨[], by decide, hstarts, rfl⟩
  have hbehind : (rawOf s ++ rest).drop 2 =
      freeDelimiter s ++ '(' :: (s ++ (rawCloser (freeDelimiter s) ++ rest)) := by
    simp [rawOf]
  have htail := rawTailLength?_eq_some_iff.2 ⟨_, _, _, hbehind, hchars, h, hbody, rfl⟩
  have hraw : rawStringLength? (rawOf s ++ rest) = some (rawOf s).length := by
    rw [rawStringLength?, hopen, Option.bind_some, htail, Option.map_some]
    simp only [rawOf, List.length_append, List.length_cons, List.length_nil, Option.some.injEq]
    omega
  have hcomment : commentLength? (rawOf s ++ rest) = none := commentLength?_eq_none (by decide)
  refine ⟨by simp [rawOf], ?_⟩
  unfold piece
  rw [hcomment, hraw]

/-- A raw literal with a longer delimiter is none. Its first letter stands alone. -/
theorem cuts_letter_of_long (h : 16 < (freeDelimiter s).length) (rest : List Char) :
    Cuts (.token .ident) ['R'] ('"' :: (freeDelimiter s ++ '(' :: rest)) := by
  obtain ⟨hchars, -, -⟩ := not_mem_freeDelimiter s
  have hopener : isDelimiterChar '(' = false := by decide
  have hdelimiter : (freeDelimiter s ++ '(' :: rest).takeWhile isDelimiterChar = freeDelimiter s :=
    takeWhile_append_eq_left_iff.2 ⟨hchars, by simpa using hopener⟩
  have htail : rawTailLength? (freeDelimiter s ++ '(' :: rest) = none := by
    unfold rawTailLength?
    rw [hdelimiter]
    exact if_pos h
  have hstarts : [] ++ ['R', '"'] <+: 'R' :: '"' :: (freeDelimiter s ++ '(' :: rest) := by simp
  have hopen : openerLength? ['R', '"'] ('R' :: '"' :: (freeDelimiter s ++ '(' :: rest)) = some 2 :=
    (openerLength?_eq_some_iff (by decide)).2 ⟨[], by decide, hstarts, rfl⟩
  have hraw : rawStringLength? ('R' :: '"' :: (freeDelimiter s ++ '(' :: rest)) = none := by
    rw [rawStringLength?, hopen, Option.bind_some]
    simp [htail]
  have hquoted : ∀ quote ∈ quotes,
      quotedLength? quote ('R' :: '"' :: (freeDelimiter s ++ '(' :: rest)) = none := by
    intro quote hquote
    obtain ⟨hmark, hne⟩ := mark_of_quote quote hquote
    exact quotedLength?_of_opener
      (openerLength?_eq_none_of_ne (by decide) hmark hne (by decide) hstarts)
  have hletter : isDecimal 'R' = false ∧ isAsciiStart 'R' = true ∧ isWord '"' = false := by decide
  refine ⟨by simp, ?_⟩
  unfold piece
  simp [commentLength?_eq_none, hraw, hquoted '"' (by decide), hquoted '\'' (by decide),
    numberLength?_cons, identLength?, hletter]

theorem exists_lexemes_rawOf_of_long (h : 16 < (freeDelimiter s).length) (rest : List Char) :
    ∃ after, lexemes (rawOf s ++ rest) = (.ident, ['R']) :: after := by
  have hcut := cuts_letter_of_long h (s ++ (rawCloser (freeDelimiter s) ++ rest))
  have hraw : rawOf s ++ rest = ['R'] ++
      ('"' :: (freeDelimiter s ++ '(' :: (s ++ (rawCloser (freeDelimiter s) ++ rest)))) := by
    simp [rawOf]
  rw [hraw, hcut.lexemes_eq]
  exact ⟨_, rfl⟩

/-- Between its delimiters a raw literal holds the text. -/
theorem rawBody_rawOf (s : List Char) : rawBody ((rawOf s).drop 2) = s := by
  obtain ⟨-, -, hopen⟩ := not_mem_freeDelimiter s
  have hdrop : (rawOf s).drop 2 = freeDelimiter s ++ '(' :: (s ++ rawCloser (freeDelimiter s)) := by
    simp [rawOf]
  have htake : (freeDelimiter s ++ '(' :: (s ++ rawCloser (freeDelimiter s))).takeWhile (· != '(') =
      freeDelimiter s :=
    takeWhile_append_eq_left_iff.2 ⟨fun c hc => by simpa using hopen c hc, by simp⟩
  have hlength : (freeDelimiter s ++ '(' :: (s ++ rawCloser (freeDelimiter s))).length -
      (freeDelimiter s).length - 2 - ((freeDelimiter s).length + 1) = s.length := by
    simp only [rawCloser, List.length_append, List.length_cons, List.length_nil]
    omega
  have hbehind : (freeDelimiter s ++ '(' :: (s ++ rawCloser (freeDelimiter s))).drop
      ((freeDelimiter s).length + 1) = s ++ rawCloser (freeDelimiter s) := by
    rw [← List.drop_drop, List.drop_left, List.drop_one, List.tail_cons]
  rw [hdrop, rawBody, htake, hlength, hbehind, List.take_left]

/-! ### Literals side by side -/

/-- The two notations of a literal. -/
inductive Style where
  | quoted | raw
  deriving DecidableEq, Repr

/-- A text as a literal. -/
def Style.encode : Style → String → String
  | quoted => StringLiteral.quoted
  | raw => StringLiteral.raw

/-- The class of the literal's token. -/
def Style.kind : Style → Token.Kind
  | quoted => .string
  | raw => .rawString

/-- The class and the text of the token that a text is written as. -/
def literal (p : Style × String) : Token.Kind × String := (p.1.kind, p.1.encode p.2)

variable {p : Style × String} {parts : List (Style × String)}

theorem cuts_encode (h : p.2.length < 10 ^ 9) (rest : List Char) :
    Cuts (.token p.1.kind) (p.1.encode p.2).toList rest := by
  obtain ⟨style, text⟩ := p
  cases style with
  | quoted =>
    rw [Style.encode, StringLiteral.quoted, String.toList_ofList]
    exact cuts_quotedOf text.toList rest
  | raw =>
    rw [Style.encode, StringLiteral.raw, String.toList_ofList]
    exact cuts_rawOf (length_freeDelimiter_le (by rwa [String.length_toList])) rest

/-- Literals with spaces between them are one token each, in front of every text. -/
theorem visible_lexemes_join (h : ∀ p ∈ parts, p.2.length < 10 ^ 9) (rest : List Char) :
    visible (lexemes ((join " " (parts.map fun p => p.1.encode p.2)).toList ++ rest)) =
      parts.map literal ++ visible (lexemes rest) := by
  have hspace : isBlank ' ' = true := by decide
  have hkind : ∀ p : Style × String, p.1.kind ≠ .comment := fun p => by
    cases p.1 <;> simp [Style.kind]
  rw [join, String.toList_ofList, List.map_map]
  induction parts with
  | nil => rfl
  | cons p parts ih =>
    obtain ⟨hp, hparts⟩ := List.forall_mem_cons.1 h
    have hone : ∀ rest, visible (lexemes ((p.1.encode p.2).toList ++ rest)) =
        literal p :: visible (lexemes rest) := fun rest => by
      rw [(cuts_encode hp rest).lexemes_eq, visible_append]
      simp [visible, lexeme?, hkind p, written, literal]
    rcases eq_or_ne parts [] with rfl | hne
    · exact hone rest
    · rw [List.map_cons, joinWith_cons _ _ (by simpa using hne), List.append_assoc]
      rw [Function.comp_apply, List.append_assoc, hone, List.map_cons, List.cons_append, ← ih hparts]
      exact congrArg (literal p :: visible ·) (lexemes_cons_of_isBlank hspace _)

theorem content_tokens_join (h : ∀ p ∈ parts, p.2.length < 10 ^ 9) :
    (tokens (join " " (parts.map fun p => p.1.encode p.2)).toList).map Token.content =
      parts.map literal := by
  have hall := visible_lexemes_join h []
  rwa [List.append_nil, lexemes_nil, ← map_content_tokens _ 1, visible, List.filter_nil, List.map_nil,
    List.append_nil] at hall

/-- A token that is written like a literal decodes to the text of it. -/
theorem decodeToken?_of_content {t : Token} (h : t.content = literal p) :
    decodeToken? t = some p.2.toList := by
  obtain ⟨style, text⟩ := p
  obtain ⟨hkind, htext⟩ := Prod.mk.inj h
  cases style with
  | quoted =>
    have hchars : t.text.toList = quotedOf text.toList := by
      rw [htext]
      exact String.toList_ofList
    have hopen : through? ['"'] (quotedOf text.toList) = some 1 :=
      through?_eq_length (List.prefix_append ['"'] _)
    have hbody : ((quotedOf text.toList).drop 1).dropLast = text.toList.flatMap escape := by
      simp [quotedOf]
    simp only [decodeToken?, hkind, Style.kind, hchars, hopen, Option.map_some, hbody,
      unescape_flatMap_escape]
  | raw =>
    have hchars : t.text.toList = rawOf text.toList := by
      rw [htext]
      exact String.toList_ofList
    have hopen : through? ['R', '"'] (rawOf text.toList) = some 2 :=
      through?_eq_length (by simp [rawOf])
    simp only [decodeToken?, hkind, Style.kind, hchars, hopen, Option.map_some, rawBody_rawOf]

/-- Tokens that are written like literals decode to their texts one after the other. -/
theorem decode?_of_content {ts : List Token} (h : ts.map Token.content = parts.map literal) :
    decode? ts = some (String.join (parts.map (·.2))) := by
  have hparts : ts.mapM decodeToken? = some (parts.map (·.2.toList)) := by
    induction ts generalizing parts with
    | nil =>
      obtain rfl := List.map_eq_nil_iff.1 h.symm
      rfl
    | cons t ts ih =>
      obtain ⟨p, parts, rfl⟩ := List.exists_cons_of_ne_nil (l := parts) (by rintro rfl; cases h)
      obtain ⟨hfirst, hlater⟩ := List.cons.inj h
      simp [decodeToken?_of_content hfirst, ih hlater]
  have htexts : (parts.map (·.2.toList)).flatten = (String.join (parts.map (·.2))).toList := by
    rw [String.toList_join, List.flatMap_def, List.map_map]
    rfl
  rw [decode?, hparts, Option.map_some, htexts, String.ofList_toList]

/-! ### Texts that use delimiters up -/

/-- Texts that hold the closing texts of `width` delimiters each, those of all numbers below
`count * width` together. -/
def crowded (count width : Nat) : List (Style × String) :=
  (List.range count).map fun k =>
    (.raw, String.ofList ((List.range width).flatMap fun i => closer (k * width + i)))

variable {count width : Nat}

theorem length_lt_of_mem_crowded (hcount : count * width ≤ 10 ^ 9) (hwidth : width * 18 < 10 ^ 9) :
    ∀ p ∈ crowded count width, p.2.length < 10 ^ 9 := by
  intro p hp
  obtain ⟨k, hk, rfl⟩ := List.mem_map.1 hp
  have hbelow : (k + 1) * width ≤ count * width :=
    Nat.mul_le_mul_right width (List.mem_range.1 hk)
  rw [Nat.succ_mul] at hbelow
  have hclosers : ∀ l ∈ (List.range width).map fun i => (closer (k * width + i)).length, l ≤ 18 := by
    intro l hl
    obtain ⟨i, hi, rfl⟩ := List.mem_map.1 hl
    have hi := List.mem_range.1 hi
    exact length_closer_le (by omega)
  have hsum := List.sum_le_card_nsmul _ 18 hclosers
  rw [List.length_map, List.length_range, smul_eq_mul] at hsum
  rw [String.length_ofList, List.length_flatMap]
  omega

/-- Together the texts hold all these closing texts. -/
theorem closer_infix_join_crowded {m : Nat} (hm : m < count * width) :
    closer m <:+: (String.join ((crowded count width).map (·.2))).toList := by
  have hwidth : 0 < width := Nat.pos_of_lt_mul_left hm
  have hk : m / width ∈ List.range count := List.mem_range.2 (Nat.div_lt_of_lt_mul (by rwa [mul_comm]))
  have hi : m % width ∈ List.range width := List.mem_range.2 (Nat.mod_lt m hwidth)
  have hpart : ∀ {ks : List Nat} {k : Nat}, k ∈ ks → ∀ f : Nat → List Char, f k <:+: ks.flatMap f :=
    fun hk f => List.flatMap_def (f := f) ▸ List.infix_of_mem_flatten (List.mem_map_of_mem hk)
  have htext := hpart hi fun i => closer (m / width * width + i)
  rw [Nat.div_add_mod'] at htext
  have hall := hpart hk fun k => (List.range width).flatMap fun i => closer (k * width + i)
  rw [String.toList_join, crowded, List.map_map, List.flatMap_map]
  simpa using htext.trans hall

end Monomorph.StringLiteral
