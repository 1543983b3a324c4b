import Monomorph.Proofs.Token.Cut

/-!
What a piece depends on. Where a piece ends is decided by its own characters and by the character
behind them: another rest may follow if it starts alike, if it starts with a newline, or if both
start with a letter. Only a literal that is not closed looks further, so that the literals which
failed have to fail in front of the other rest, too.
-/

namespace Monomorph.Lexer

open Text

/-- The second text may stand where the first one did: it starts with the same character, both start
with a letter, or it does not go on in this line. -/
inductive Meets : List Char → List Char → Prop
  | ends (r : List Char) : Meets r []
  | line (c : Char) (r r' : List Char) : Meets (c :: r) ('\n' :: r')
  | same (c : Char) (r r' : List Char) : Meets (c :: r) (c :: r')
  | starts {c c' : Char} (hc : isAsciiStart c = true) (hc' : isAsciiStart c' = true)
    (r r' : List Char) : Meets (c :: r) (c' :: r')

variable {lexeme rest rest' : List Char} {p : Piece}

theorem Meets.append (h : Meets rest rest') (w : List Char) : Meets (w ++ rest) (w ++ rest') := by
  cases w with
  | nil => exact h
  | cons c w => exact .same c (w ++ rest) (w ++ rest')

theorem Meets.eq_nil (h : Meets [] rest') : rest' = [] := by
  cases h with
  | ends => rfl

/-- What a newline satisfies, and letters all or none, is kept of the next character. -/
theorem Meets.head {P : Char → Prop} (h : Meets rest rest') (hrest : ∀ c ∈ rest.head?, P c)
    (hline : P '\n')
    (hstart : ∀ c c', isAsciiStart c = true → isAsciiStart c' = true → P c → P c') :
    ∀ c ∈ rest'.head?, P c := by
  cases h with
  | ends => simp
  | line => simpa using hline
  | same => simpa using hrest
  | starts hc hc' => simpa using hstart _ _ hc hc' (hrest _ rfl)

theorem toNat_lt_of_isAsciiStart {c : Char} (h : isAsciiStart c = true) : c.toNat < 128 := by
  have halpha : c.isAlpha = (decide (65 ≤ c.val ∧ c.val ≤ 90) || (97 ≤ c.val && c.val ≤ 122)) := rfl
  have hvalue : c.val.toNat = c.toNat := rfl
  simp only [isAsciiStart, halpha, Bool.or_eq_true, Bool.and_eq_true, decide_eq_true_eq, beq_iff_eq,
    UInt32.le_iff_toNat_le, hvalue, UInt32.reduceToNat] at h
  rcases h with (h | h) | rfl
  · omega
  · omega
  · decide

/-- A letter is a word character and no digit, and no mark has one behind its first character. -/
theorem unlike_of_isAsciiStart {c : Char} (h : isAsciiStart c = true) :
    isWord c = true ∧ isDecimal c = false ∧ isBlank c = false ∧
      c ∉ ['/', '*', ':', '>', '+', '-', '\n'] := by
  have hall : ∀ n < 128, isAsciiStart (Char.ofNat n) = true →
      isWord (Char.ofNat n) = true ∧ isDecimal (Char.ofNat n) = false ∧
        isBlank (Char.ofNat n) = false ∧
        Char.ofNat n ∉ ['/', '*', ':', '>', '+', '-', '\n'] := by decide
  have hc := hall c.toNat (toNat_lt_of_isAsciiStart h)
  rw [Char.ofNat_toNat] at hc
  exact hc h

/-- The characters of a class end where they ended. -/
theorem Meets.takeWhile {q : Char → Bool} {w : List Char} (h : Meets rest rest')
    (hline : q '\n' = false) (hstart : ∀ c, isAsciiStart c = true → q c = true)
    (hw : ((w ++ rest).takeWhile q).length = w.length) :
    ((w ++ rest').takeWhile q).length = w.length := by
  obtain ⟨hin, hout⟩ := length_takeWhile_append_iff.1 hw
  refine length_takeWhile_append_iff.2 ⟨hin, h.head hout hline ?_⟩
  intro c _ hc _ hnot
  rw [hstart c hc] at hnot
  cases hnot

/-! ### Comments -/

theorem commentLength?_slash {s : List Char} :
    commentLength? ('/' :: s) = none ↔ ∀ c ∈ s.head?, c ≠ '/' ∧ c ≠ '*' := by
  unfold commentLength?
  split
  · next heq => cases heq; simp
  · next heq => cases heq; simp
  · next hline hblock =>
    cases s with
    | nil => simp
    | cons c s =>
      simp only [List.head?_cons, Option.mem_some_iff, forall_eq', true_iff]
      exact ⟨fun hc => hline s (by rw [hc]), fun hc => hblock s (by rw [hc])⟩

theorem Meets.commentLength?_none (h : Meets rest rest') (hne : lexeme ≠ [])
    (hnone : commentLength? (lexeme ++ rest) = none) : commentLength? (lexeme ++ rest') = none := by
  obtain ⟨c, w, rfl⟩ := List.exists_cons_of_ne_nil hne
  rw [List.cons_append] at hnone ⊢
  rcases eq_or_ne c '/' with rfl | hc
  · refine commentLength?_slash.2 ((h.append w).head (commentLength?_slash.1 hnone) (by decide) ?_)
    intro _ c _ hc _
    have hmark := (unlike_of_isAsciiStart hc).2.2.2
    simp only [List.mem_cons, not_or] at hmark
    exact ⟨hmark.1, hmark.2.1⟩
  · exact commentLength?_eq_none hc

theorem commentLength?_eq_some {s : List Char} {n : Nat} (h : commentLength? s = some n) :
    (∃ r, s = '/' :: '/' :: r ∧ n = (r.takeWhile (· != '\n')).length + 2) ∨
      ∃ r, s = '/' :: '*' :: r ∧ n = (through? ['*', '/'] r).getD r.length + 2 := by
  unfold commentLength? at h
  split at h
  · exact .inl ⟨_, rfl, (Option.some.inj h).symm⟩
  · exact .inr ⟨_, rfl, (Option.some.inj h).symm⟩
  · cases h

/-- The first two characters belong to a lexeme of at least two. -/
theorem exists_of_append_eq {a b : Char} {r : List Char} (h : lexeme ++ rest = a :: b :: r)
    (hlen : 2 ≤ lexeme.length) : ∃ w, lexeme = a :: b :: w ∧ r = w ++ rest := by
  match lexeme with
  | [] => simp at hlen
  | [_] => simp at hlen
  | _ :: _ :: w =>
    simp only [List.cons_append, List.cons.injEq] at h
    obtain ⟨rfl, rfl, rfl⟩ := h
    exact ⟨w, rfl, rfl⟩

theorem Meets.commentLength?_some (h : Meets rest rest')
    (hsome : commentLength? (lexeme ++ rest) = some lexeme.length) :
    commentLength? (lexeme ++ rest') = some lexeme.length := by
  rcases commentLength?_eq_some hsome with ⟨r, hs, hn⟩ | ⟨r, hs, hn⟩
  · obtain ⟨w, rfl, rfl⟩ := exists_of_append_eq hs (by omega)
    simp only [List.length_cons] at hn
    have hw := h.takeWhile (q := (· != '\n')) (w := w) (by simp) ?_ (by omega)
    · simp only [List.cons_append, commentLength?, List.length_cons]
      rw [hw]
    · intro c hc
      have hmark := (unlike_of_isAsciiStart hc).2.2.2
      simp only [List.mem_cons, not_or] at hmark
      simpa using hmark.2.2.2.2.2.2.1
  · obtain ⟨w, rfl, rfl⟩ := exists_of_append_eq hs (by omega)
    simp only [List.length_cons] at hn
    have hw : through? ['*', '/'] (w ++ rest') = some w.length ∨
        through? ['*', '/'] (w ++ rest) = none ∧ rest = [] := by
      cases hclose : through? ['*', '/'] (w ++ rest) with
      | none =>
        rw [hclose, Option.getD_none, List.length_append] at hn
        exact .inr ⟨rfl, List.eq_nil_of_length_eq_zero (by omega)⟩
      | some m =>
        rw [hclose, Option.getD_some] at hn
        obtain rfl : m = w.length := by omega
        exact .inl ((local_through? _).congr hclose rest')
    rcases hw with hw | ⟨hw, rfl⟩
    · simp only [List.cons_append, commentLength?, List.length_cons]
      rw [hw, Option.getD_some]
    · -- a comment that is not closed takes all of the text
      obtain rfl := h.eq_nil
      exact hsome

/-! ### Numbers -/

/-- A letter that a sign may follow in a number. -/
def isExponent (c : Char) : Bool := c == 'e' || c == 'E' || c == 'p' || c == 'P'

/-- A sign in a number. -/
def isSign (c : Char) : Bool := c == '+' || c == '-'

theorem numberTailLength_cons (c : Char) (s : List Char) :
    numberTailLength (c :: s) =
      if isExponent c && s.head?.any isSign then numberTailLength s.tail + 2
      else if isNumberPart c then numberTailLength s + 1 else 0 := by
  cases s with
  | nil =>
    rw [numberTailLength, List.head?_nil, Option.any_none, Bool.and_false, if_neg (by decide)]
    rfl
  | cons d s => rfl

theorem numberTailLength_eq_zero {s : List Char} :
    numberTailLength s = 0 ↔ ∀ c ∈ s.head?, isNumberPart c = false := by
  have hexponent : ∀ c, isExponent c = true → isNumberPart c = true := by
    intro c hc
    simp only [isExponent, Bool.or_eq_true, beq_iff_eq] at hc
    rcases hc with ((rfl | rfl) | rfl) | rfl <;> decide
  cases s with
  | nil => simp [numberTailLength]
  | cons c s =>
    rw [numberTailLength_cons, List.head?_cons]
    cases hc : isNumberPart c with
    | true => split <;> simp [hc]
    | false =>
      have hletter : isExponent c = false := by
        rw [Bool.eq_false_iff]
        intro hletter
        rw [hexponent c hletter] at hc
        cases hc
      simp [hletter, hc]

/-- A sign behind an exponent letter belongs to the number. -/
theorem Meets.sign (h : Meets rest rest') {c : Char} {w : List Char}
    (hno : (isExponent c && (w ++ rest).head?.any isSign) = false) :
    (isExponent c && (w ++ rest').head?.any isSign) = false := by
  have hany : ∀ s : List Char, s.head?.any isSign = false ↔ ∀ d ∈ s.head?, isSign d = false :=
    fun s => by cases s <;> simp
  rw [Bool.and_eq_false_imp] at hno ⊢
  intro hc
  refine (hany _).2 ((h.append w).head ((hany _).1 (hno hc)) (by decide) ?_)
  intro _ d _ hd _
  have hmark := (unlike_of_isAsciiStart hd).2.2.2
  simp only [List.mem_cons, not_or] at hmark
  simp [isSign, hmark.2.2.2.2.1, hmark.2.2.2.2.2.1]

theorem Meets.numberTailLength (h : Meets rest rest') {w : List Char}
    (hw : numberTailLength (w ++ rest) = w.length) : numberTailLength (w ++ rest') = w.length := by
  have hzero : Lexer.numberTailLength rest = 0 → Lexer.numberTailLength rest' = 0 := fun hz => by
    refine numberTailLength_eq_zero.2 (h.head (numberTailLength_eq_zero.1 hz) (by decide) ?_)
    intro c _ hc _ hnot
    rw [isNumberPart, (unlike_of_isAsciiStart hc).1] at hnot
    cases hnot
  induction w using List.twoStepInduction with
  | nil => exact hzero hw
  | singleton c =>
    rw [List.singleton_append, numberTailLength_cons] at hw ⊢
    split at hw
    · cases hw
    · next hsign =>
      rw [if_neg (by rw [Bool.not_eq_true] at hsign ⊢; exact h.sign (w := []) hsign)]
      split at hw
      · next hpart => rw [if_pos hpart, hzero (by simpa using hw), List.length_singleton]
      · cases hw
  | cons_cons c d w ih ih' =>
    rw [List.cons_append, numberTailLength_cons] at hw ⊢
    split at hw
    · next hsign =>
      have hw' : Lexer.numberTailLength (w ++ rest) = w.length := by simpa using hw
      have hsame : (isExponent c && (d :: w ++ rest').head?.any isSign) = true := by simpa using hsign
      rw [if_pos hsame]
      simp [ih hw']
    · next hsign =>
      rw [if_neg (by rw [Bool.not_eq_true] at hsign ⊢; exact h.sign (w := d :: w) hsign)]
      split at hw
      · next hpart =>
        rw [if_pos hpart, ih' d (by simpa using hw)]
        rfl
      · cases hw

theorem numberLength?_dot {s : List Char} :
    numberLength? ('.' :: s) = none ↔ ∀ c ∈ s.head?, isDecimal c = false := by
  have hdot : isDecimal '.' = false := by decide
  cases s with
  | nil => simp [numberLength?, hdot]
  | cons d s => cases hd : isDecimal d <;> simp [numberLength?, hd]

theorem Meets.numberLength?_none (h : Meets rest rest') (hne : lexeme ≠ [])
    (hnone : numberLength? (lexeme ++ rest) = none) : numberLength? (lexeme ++ rest') = none := by
  obtain ⟨c, w, rfl⟩ := List.exists_cons_of_ne_nil hne
  rw [List.cons_append] at hnone ⊢
  rcases eq_or_ne c '.' with rfl | hc
  · refine numberLength?_dot.2 ((h.append w).head (numberLength?_dot.1 hnone) (by decide) ?_)
    exact fun _ c _ hc _ => (unlike_of_isAsciiStart hc).2.1
  · rw [numberLength?_cons hc] at hnone ⊢
    split at hnone
    · cases hnone
    · next hdigit => rw [if_neg hdigit]

theorem Meets.numberLength?_some (h : Meets rest rest')
    (hsome : numberLength? (lexeme ++ rest) = some lexeme.length) :
    numberLength? (lexeme ++ rest') = some lexeme.length := by
  obtain ⟨c, w, rfl⟩ := List.exists_cons_of_ne_nil
    (List.ne_nil_of_length_pos (bounds_of_numberLength? hsome).1)
  rw [List.cons_append] at hsome ⊢
  rcases eq_or_ne c '.' with rfl | hc
  · cases w with
    | nil =>
      have hdot : isDecimal '.' = false := by decide
      cases rest <;> simp [numberLength?, hdot] at hsome
    | cons d w =>
      simp only [List.cons_append, numberLength?] at hsome ⊢
      split at hsome
      · next hdigit =>
        have hw : Lexer.numberTailLength (w ++ rest) = w.length := by simpa using hsome
        rw [if_pos hdigit, h.numberTailLength hw]
        rfl
      · cases hsome
  · rw [numberLength?_cons hc] at hsome ⊢
    split at hsome
    · next hdigit =>
      have hw : Lexer.numberTailLength (w ++ rest) = w.length := by simpa using hsome
      rw [if_pos hdigit, h.numberTailLength hw, List.length_cons]
    · cases hsome

/-! ### Identifiers and punctuation -/

theorem Meets.identLength?_some (h : Meets rest rest')
    (hsome : identLength? (lexeme ++ rest) = some lexeme.length) :
    identLength? (lexeme ++ rest') = some lexeme.length := by
  obtain ⟨c, w, rfl⟩ := List.exists_cons_of_ne_nil
    (List.ne_nil_of_length_pos (bounds_of_identLength? hsome).1)
  simp only [List.cons_append, identLength?] at hsome ⊢
  split at hsome
  · next hstart =>
    have hw : ((w ++ rest).takeWhile isWord).length = w.length := by simpa using hsome
    have hend := h.takeWhile (by decide) (fun c hc => (unlike_of_isAsciiStart hc).1) hw
    rw [if_pos hstart, hend, List.length_cons]
  · cases hsome
theorem identLength?_none (hne : lexeme ≠ []) (hnone : identLength? (lexeme ++ rest) = none)
    (rest' : List Char) : identLength? (lexeme ++ rest') = none := by
  obtain ⟨c, w, rfl⟩ := List.exists_cons_of_ne_nil hne
  simp only [List.cons_append, identLength?] at hnone ⊢
  split at hnone
  · cases hnone
  · next hstart => rw [if_neg hstart]

theorem blanksLength?_none (hne : lexeme ≠ []) (hnone : blanksLength? (lexeme ++ rest) = none)
    (rest' : List Char) : blanksLength? (lexeme ++ rest') = none := by
  obtain ⟨c, w, rfl⟩ := List.exists_cons_of_ne_nil hne
  simp only [List.cons_append, blanksLength?] at hnone ⊢
  split at hnone
  · cases hnone
  · next hblank => rw [if_neg hblank]

theorem punctLength?_scope (s : List Char) :
    punctLength? (':' :: s) = if s.head? = some ':' then some 2 else some 1 := by
  have hsign : isBlank ':' = false ∧ isWord ':' = false := by decide
  unfold punctLength?
  split
  · next heq => cases heq; simp
  · next heq => cases heq
  · next hscope harrow heq =>
    obtain ⟨rfl, rfl⟩ := List.cons.inj heq
    have hother : s.head? ≠ some ':' := fun hs => by
      obtain ⟨r, hr⟩ := List.head?_eq_some_iff.1 hs
      exact hscope r rfl hr
    simp [hsign, hother]
  · next heq => cases heq

theorem punctLength?_arrow (s : List Char) :
    punctLength? ('-' :: s) = if s.head? = some '>' then some 2 else some 1 := by
  have hsign : isBlank '-' = false ∧ isWord '-' = false := by decide
  unfold punctLength?
  split
  · next heq => cases heq
  · next heq => cases heq; simp
  · next hscope harrow heq =>
    obtain ⟨rfl, rfl⟩ := List.cons.inj heq
    have hother : s.head? ≠ some '>' := fun hs => by
      obtain ⟨r, hr⟩ := List.head?_eq_some_iff.1 hs
      exact harrow r rfl hr
    simp [hsign, hother]
  · next heq => cases heq

/-- A sign of two characters is told from its first one by the character behind that. -/
theorem Meets.punctLength?_sign (h : Meets rest rest') {c d : Char} {w : List Char}
    (hc : ∀ s, punctLength? (c :: s) = if s.head? = some d then some 2 else some 1)
    (hline : d ≠ '\n') (hd : isAsciiStart d = false)
    (hsome : punctLength? (c :: (w ++ rest)) = some (w.length + 1)) :
    punctLength? (c :: (w ++ rest')) = some (w.length + 1) := by
  rw [hc] at hsome ⊢
  split at hsome
  · next hhead =>
    have hlen : w.length = 1 := by simpa using hsome.symm
    obtain ⟨b, rfl⟩ := List.length_eq_one_iff.1 hlen
    simpa using hhead
  · next hhead =>
    obtain rfl : w = [] := by simpa using hsome
    have hother : ∀ c ∈ rest'.head?, c ≠ d := by
      refine h.head (fun c hmem heq => hhead (heq ▸ hmem)) hline.symm ?_
      rintro _ c _ hstart - rfl
      rw [hd] at hstart
      cases hstart
    exact if_neg fun heq => hother d heq rfl

theorem Meets.punctLength?_some (h : Meets rest rest')
    (hsome : punctLength? (lexeme ++ rest) = some lexeme.length) :
    punctLength? (lexeme ++ rest') = some lexeme.length := by
  obtain ⟨c, w, rfl⟩ := List.exists_cons_of_ne_nil
    (List.ne_nil_of_length_pos (bounds_of_punctLength? hsome).1)
  rw [List.cons_append, List.length_cons] at hsome ⊢
  rcases eq_or_ne c ':' with rfl | hscope
  · exact h.punctLength?_sign punctLength?_scope (by decide) (by decide) hsome
  · rcases eq_or_ne c '-' with rfl | harrow
    · exact h.punctLength?_sign punctLength?_arrow (by decide) (by decide) hsome
    · rwa [punctLength?_cons hscope harrow] at hsome ⊢

theorem punctLength?_none (hne : lexeme ≠ []) (hnone : punctLength? (lexeme ++ rest) = none)
    (rest' : List Char) : punctLength? (lexeme ++ rest') = none := by
  obtain ⟨c, w, rfl⟩ := List.exists_cons_of_ne_nil hne
  rw [List.cons_append] at hnone ⊢
  rcases eq_or_ne c ':' with rfl | hscope
  · rw [punctLength?_scope] at hnone
    split at hnone <;> cases hnone
  · rcases eq_or_ne c '-' with rfl | harrow
    · rw [punctLength?_arrow] at hnone
      split at hnone <;> cases hnone
    · rwa [punctLength?_cons hscope harrow] at hnone ⊢

/-! ### Pieces -/

/-- A piece stays what it is in front of a rest that starts alike, unless a literal which failed
succeeds there. -/
theorem Cuts.congr (hcut : Cuts p lexeme rest) (hblank : p ≠ .blanks) (h : Meets rest rest')
    (hraw : rawStringLength? (lexeme ++ rest) = none → rawStringLength? (lexeme ++ rest') = none)
    (hquoted : ∀ quote ∈ quotes, quotedLength? quote (lexeme ++ rest) = none →
      quotedLength? quote (lexeme ++ rest') = none) : Cuts p lexeme rest' := by
  obtain ⟨hne, hpiece⟩ := hcut
  refine ⟨hne, piece_congr hpiece ?_ ?_⟩
  · exact (forall_recognisers
      (P := fun _ f => f (lexeme ++ rest) = none → f (lexeme ++ rest') = none)).2
      ⟨h.commentLength?_none hne, hraw, hquoted _ (by decide), hquoted _ (by decide),
        h.numberLength?_none hne, fun hnone => identLength?_none hne hnone rest',
        fun hnone => punctLength?_none hne hnone rest',
        fun hnone => blanksLength?_none hne hnone rest'⟩
  · exact (forall_recognisers (P := fun q f => q = p →
      f (lexeme ++ rest) = some lexeme.length → f (lexeme ++ rest') = some lexeme.length)).2
      ⟨fun _ => h.commentLength?_some, fun _ hsome => local_rawStringLength?.congr hsome rest',
        fun _ hsome => (local_quotedLength? (by decide)).congr hsome rest',
        fun _ hsome => (local_quotedLength? (by decide)).congr hsome rest',
        fun _ => h.numberLength?_some, fun _ => h.identLength?_some,
        fun _ => h.punctLength?_some, fun heq => absurd heq.symm hblank⟩

/-- An identifier starts with a letter, consists of word characters, and ends in front of any other
character. -/
theorem Cuts.ident (h : Cuts (.token .ident) lexeme rest) :
    (∃ c ∈ lexeme.head?, isAsciiStart c = true) ∧ (∀ c ∈ lexeme, isWord c = true) ∧
      ∀ c ∈ rest.head?, isWord c = false := by
  obtain ⟨hne, hpiece⟩ := h
  obtain ⟨c, w, rfl⟩ := List.exists_cons_of_ne_nil hne
  obtain ⟨f, hf, hlen⟩ := (exists_of_piece hpiece).resolve_right (by simp)
  obtain rfl : f = identLength? := by simpa [recognisers] using hf
  simp only [List.cons_append, identLength?] at hlen
  split at hlen
  · next hstart =>
    have hw : ((w ++ rest).takeWhile isWord).length = w.length := by simpa using hlen
    obtain ⟨hin, hout⟩ := length_takeWhile_append_iff.1 hw
    exact ⟨⟨c, rfl, hstart⟩, List.forall_mem_cons.2 ⟨(unlike_of_isAsciiStart hstart).1, hin⟩, hout⟩
  · cases hlen

end Monomorph.Lexer
