import Monomorph.Proofs.Literal.Notation

/-!
Text printed between three quotes. The interpreter reads it back as it was printed if and only if it has
nowhere three quotes in a row and nowhere a backslash that means something together with the character
behind it: the former end the literal early, the latter stand for fewer characters than they are. In a
source text the literal is found behind a comment and words.
-/

namespace Monomorph.Literal

open Text

variable {c : Char} {s a b r : List Char} {points : List Nat}

/-- Three double quotes. -/
def Quote.three : Quote := ⟨'"', true⟩

/-- The characters of three double quotes. -/
def threeQuotes : List Char := ['"', '"', '"']

/-- Does a character mean something else behind a backslash? -/
def formsEscape (c : Char) : Bool :=
  c ∈ ['\n', 'x', 'u', 'U', 'N'] || isOctal c || (letterEscape? c).isSome

/-- Text that can be printed between three quotes as it is: it does not have three quotes in a row, and
behind every backslash there is a character that means nothing else there. -/
structure IsVerbatim (s : List Char) : Prop where
  quotes : ¬ threeQuotes <:+: s
  backslashes : ∀ r, '\\' :: r <:+ s → ∃ c ∈ r.head?, formsEscape c = false

/-- The text whose literal starts here, as its code points, and what follows the literal. -/
def textAt? (s : List Char) : Option (List Nat × List Char) :=
  match quoted? s with
  | some (some (.text points, rest)) => some (points, rest)
  | _ => none

instance (s : List Char) : Decidable (IsVerbatim s) :=
  decidable_of_iff (¬ threeQuotes <:+: s ∧ ∀ r ∈ s.tails, r.head? = some '\\' →
      (r.tail.head?.any fun c => !formsEscape c) = true) <| by
    constructor
    · rintro ⟨hquotes, hall⟩
      refine ⟨hquotes, fun r hr => ?_⟩
      obtain ⟨c, hc, hforms⟩ := (Option.any_eq_true _ _).1 (hall _ ((List.mem_tails _ _).2 hr) rfl)
      exact ⟨c, hc, by simpa using hforms⟩
    · rintro ⟨hquotes, hall⟩
      refine ⟨hquotes, fun r hr hhead => ?_⟩
      obtain ⟨r, rfl⟩ := List.head?_eq_some_iff.1 hhead
      obtain ⟨c, hc, hforms⟩ := hall r ((List.mem_tails _ _).1 hr)
      exact (Option.any_eq_true _ _).2 ⟨c, hc, by simp [hforms]⟩

theorem IsVerbatim.of_suffix (h : IsVerbatim s) (ha : a <:+ s) : IsVerbatim a where
  quotes hthree := h.quotes (hthree.trans ha.isInfix)
  backslashes r hr := h.backslashes r (hr.trans ha)

/-! ### The closing quotes -/

theorem upToQuote_three_of_short (hs : s.length < 2) : upToQuote .three s = none := by
  rcases s with - | ⟨c, - | ⟨d, s⟩⟩
  · rfl
  · by_cases hquote : c = '"'
    · rw [hquote]
      rfl
    · by_cases hback : c = '\\'
      · rw [hback]
        rfl
      · rw [upToQuote.eq_def]
        simp [Quote.three, hquote, upToQuote]
  · simp only [List.length_cons] at hs
    omega

theorem upToQuote_three_cons (hc : c ≠ '\\') (s : List Char) :
    upToQuote .three (c :: s) =
      if threeQuotes <+: c :: s then some ([], s.drop 2)
      else (upToQuote .three s).map fun p => (c :: p.1, p.2) := by
  rw [upToQuote.eq_def]
  split
  · next heq => cases heq
  · next heq =>
    cases heq
    exact absurd rfl hc
  · next heq =>
    cases heq
    by_cases hquote : c = '"'
    · subst hquote
      rcases s with - | ⟨d, - | ⟨e, s⟩⟩
      · rfl
      · have hnone : upToQuote ⟨'"', true⟩ [d] = none := upToQuote_three_of_short (by simp)
        simp [Quote.three, threeQuotes, hnone]
      · have hopens : threeQuotes <+: '"' :: d :: e :: s ↔ d = '"' ∧ e = '"' := by
          simp [threeQuotes, eq_comm (a := '"')]
        simp [Quote.three, hopens]
    · have hno : ¬ threeQuotes <+: c :: s := by simp [threeQuotes, Ne.symm hquote]
      simp [Quote.three, hquote, hno]

/-- The characters in front of the closing quotes. -/
theorem eq_append_of_upToQuote (h : upToQuote .three s = some (a, r)) :
    s = a ++ threeQuotes ++ r := by
  induction s using escaped_induction generalizing a with
  | nil => cases h
  | last => cases h
  | escaped c s ih =>
    rw [upToQuote_escaped] at h
    obtain ⟨⟨b, _⟩, hrest, heq⟩ := Option.map_eq_some_iff.1 h
    cases heq
    rw [ih hrest]
    rfl
  | plain c s hback ih =>
    rw [upToQuote_three_cons hback] at h
    split at h
    · next hopens =>
      obtain ⟨rest, heq⟩ := hopens
      cases h
      rw [← heq]
      obtain ⟨-, rfl⟩ := List.cons.inj heq
      rfl
    · obtain ⟨⟨b, _⟩, hrest, heq⟩ := Option.map_eq_some_iff.1 h
      cases heq
      rw [ih hrest]
      rfl

/-! ### Escapes -/

/-- A backslash that means nothing is a character of its own. -/
theorem escape?_of_not_formsEscape (h : formsEscape c = false) (s : List Char) :
    escape? true (c :: s) = some ([92, c.toNat], 1) := by
  simp only [formsEscape, List.mem_cons, List.not_mem_nil, or_false, Bool.or_eq_false_iff,
    decide_eq_false_iff_not, not_or, Option.isSome_eq_false_iff, Option.isNone_iff_eq_none] at h
  obtain ⟨⟨⟨hline, hx, hu, hU, hN⟩, hoctal⟩, hletter⟩ := h
  rw [escape?.eq_def]
  split
  · next heq => cases heq
  · next heq =>
    cases heq
    exact absurd rfl hline
  · next heq =>
    cases heq
    simp [hx, hu, hU, hN, hoctal, hletter]

/-- Any other backslash stands for one character at most together with what it takes. -/
theorem length_escape?_le {width : Nat} (h : escape? true (c :: s) = some (points, width))
    (hc : formsEscape c = true) : points.length ≤ 1 ∧ 1 ≤ width := by
  have hone : ∀ {α : Type} {o : Option α} {point taken : α → Nat}, (∀ x, 1 ≤ taken x) →
      (o.map fun x => ([point x], taken x)) = some (points, width) →
        points.length ≤ 1 ∧ 1 ≤ width := by
    intro α o point taken htaken h
    obtain ⟨x, -, heq⟩ := Option.map_eq_some_iff.1 h
    cases heq
    exact ⟨le_refl 1, htaken x⟩
  rw [escape?.eq_def] at h
  split at h
  · next heq => cases heq
  · cases h
    simp
  · next hline heq =>
    cases heq
    split at h
    · exact hone (fun _ => by omega) h
    split at h
    · exact hone (fun _ => by omega) h
    split at h
    · exact hone (fun _ => by omega) h
    split at h
    · exact hone (fun _ => by omega) h
    split at h
    · next hoctal =>
      cases h
      simp [hoctal]
    split at h
    · cases h
      simp
    · next hx hu hU hN hoctal _ hletter =>
      simp only [beq_iff_eq, Bool.and_eq_true, true_and] at hx hu hU hN
      exact absurd (by simpa [formsEscape, hx, hu, hU, hN, hoctal, hletter] using hc) hline

/-- A backslash and what it takes stand for no more characters than they are. -/
theorem length_add_of_escape? {width : Nat} (h : escape? true s = some (points, width)) :
    points.length + (s.length - width) ≤ s.length + 1 := by
  cases s with
  | nil =>
    cases h
    simp
  | cons c s =>
    cases hc : formsEscape c with
    | true =>
      have hle := length_escape?_le h hc
      omega
    | false =>
      rw [escape?_of_not_formsEscape hc] at h
      cases h
      simp only [List.length_cons, List.length_nil]
      omega

/-- A literal has no more characters than stand between its quotes. -/
theorem length_unescape?_le {n : Nat} (h : unescape? true n s = some points) :
    points.length ≤ s.length - n := by
  induction s generalizing n points with
  | nil =>
    rw [unescape?.eq_def] at h
    cases h
    simp
  | cons c s ih =>
    cases n with
    | succ n =>
      rw [unescape?] at h
      have hle := ih h
      rw [List.length_cons]
      omega
    | zero =>
      rw [unescape?] at h
      split at h
      · obtain ⟨⟨front, width⟩, hescape, h⟩ := Option.bind_eq_some_iff.1 h
        obtain ⟨back, hback, h⟩ := Option.bind_eq_some_iff.1 h
        cases h
        have hle := ih hback
        have hfront := length_add_of_escape? hescape
        rw [List.length_append, List.length_cons]
        omega
      · obtain ⟨back, hback, rfl⟩ := Option.map_eq_some_iff.1 h
        have hle := ih hback
        rw [List.length_cons, List.length_cons]
        omega

/-- Backslashes that mean nothing are kept, with everything else. -/
theorem unescape?_of_backslashes (h : ∀ r, '\\' :: r <:+ s → ∃ c ∈ r.head?, formsEscape c = false) :
    unescape? true 0 s = some (s.map Char.toNat) := by
  induction s using escaped_induction with
  | nil => rfl
  | last => rfl
  | escaped c s ih =>
    have hc : formsEscape c = false := by simpa using h (c :: s) (List.suffix_refl _)
    have hs := ih fun r hr => h r (hr.trans ⟨['\\', c], rfl⟩)
    rw [unescape?_backslash (escape?_of_not_formsEscape hc s), hs]
    rfl
  | plain c s hback ih =>
    have hs := ih fun r hr => h r (hr.trans (List.suffix_cons c s))
    rw [unescape?_cons hback, hs]
    rfl

/-- If everything is kept, no backslash means anything. -/
theorem backslashes_of_length_le (h : unescape? true 0 s = some points)
    (hlength : s.length ≤ points.length) (hlast : s.getLast? ≠ some '\\') :
    ∀ r, '\\' :: r <:+ s → ∃ c ∈ r.head?, formsEscape c = false := by
  induction s using escaped_induction generalizing points with
  | nil => simp
  | last => exact absurd rfl hlast
  | escaped c s ih =>
    have hc : formsEscape c = false := by
      by_contra hforms
      rw [unescape?, if_pos (by decide)] at h
      obtain ⟨⟨front, width⟩, hescape, h⟩ := Option.bind_eq_some_iff.1 h
      obtain ⟨back, hback, h⟩ := Option.bind_eq_some_iff.1 h
      cases h
      have hfront := length_escape?_le hescape (by simpa using hforms)
      have hle := length_unescape?_le hback
      simp only [List.length_append, List.length_cons] at hlength hle
      omega
    rw [unescape?_backslash (escape?_of_not_formsEscape hc s)] at h
    obtain ⟨back, hback, rfl⟩ := Option.map_eq_some_iff.1 h
    have hs := ih hback (by simpa using hlength) fun heq => hlast (by simp [List.getLast?_cons, heq])
    intro r hr
    rcases List.suffix_cons_iff.1 hr with heq | hr
    · obtain rfl := (List.cons.inj heq).2
      exact ⟨c, rfl, hc⟩
    · rcases List.suffix_cons_iff.1 hr with heq | hr
      · -- the character behind the backslash is no backslash itself
        rw [← (List.cons.inj heq).1] at hc
        exact absurd hc (by decide)
      · exact hs r hr
  | plain c s hback ih =>
    rw [unescape?_cons hback] at h
    obtain ⟨back, hrest, rfl⟩ := Option.map_eq_some_iff.1 h
    have hs := ih hrest (by simpa using hlength) fun heq => hlast (by simp [List.getLast?_cons, heq])
    intro r hr
    rcases List.suffix_cons_iff.1 hr with heq | hr
    · exact absurd (List.cons.inj heq).1.symm hback
    · exact hs r hr

/-! ### Three quotes in a row -/

/-- Up to its closing quotes, a literal without escaped quotes has no three quotes in a row. -/
theorem not_threeQuotes_of_upToQuote (h : upToQuote .three s = some (a, r))
    (hbackslashes : ∀ r, '\\' :: r <:+ a → ∃ c ∈ r.head?, formsEscape c = false) :
    ¬ threeQuotes <:+: a := by
  induction s using escaped_induction generalizing a with
  | nil => cases h
  | last => cases h
  | escaped c s ih =>
    rw [upToQuote_escaped] at h
    obtain ⟨⟨b, _⟩, hrest, heq⟩ := Option.map_eq_some_iff.1 h
    cases heq
    have hc : formsEscape c = false := by simpa using hbackslashes (c :: b) (List.suffix_refl _)
    have hb := ih hrest fun r hr => hbackslashes r (hr.trans ⟨['\\', c], rfl⟩)
    have hquote : c ≠ '"' := by
      rintro rfl
      exact absurd hc (by decide)
    simp [List.infix_cons_iff, threeQuotes, hquote.symm] at hb ⊢
    exact hb
  | plain c s hback ih =>
    rw [upToQuote_three_cons hback] at h
    split at h
    · cases h
      simp [threeQuotes]
    · next hopens =>
      obtain ⟨⟨b, _⟩, hrest, heq⟩ := Option.map_eq_some_iff.1 h
      cases heq
      have hb := ih hrest fun r hr => hbackslashes r (hr.trans (List.suffix_cons c b))
      rw [List.infix_cons_iff, not_or]
      refine ⟨fun hthree => hopens ?_, hb⟩
      rw [eq_append_of_upToQuote hrest, List.append_assoc]
      exact hthree.trans (List.prefix_append (c :: b) _)

theorem getLast?_of_prefix_threeQuotes (h : a <+: threeQuotes) (ha : a ≠ []) :
    a.getLast? = some '"' := by
  have hall : ∀ c ∈ threeQuotes, c = '"' := by decide
  rw [List.getLast?_eq_some_getLast ha, hall _ (h.subset (List.getLast_mem ha))]

/-- The closing quotes are found behind text that has no three quotes in a row. -/
theorem upToQuote_of_isVerbatim (h : IsVerbatim a) (hlast : a.getLast? ≠ some '"') (r : List Char) :
    upToQuote .three (a ++ threeQuotes ++ r) = some (a, r) := by
  induction a using escaped_induction with
  | nil => rfl
  | last =>
    obtain ⟨c, hc, -⟩ := h.backslashes [] (List.suffix_refl _)
    cases hc
  | escaped c a ih =>
    have ha := ih (h.of_suffix ⟨['\\', c], rfl⟩) fun heq =>
      hlast (by simp [List.getLast?_cons, heq])
    rw [List.append_assoc] at ha
    rw [List.append_assoc, List.cons_append, List.cons_append, upToQuote_escaped, ha]
    rfl
  | plain c a hback ih =>
    have ha := ih (h.of_suffix (List.suffix_cons c a)) fun heq =>
      hlast (by simp [List.getLast?_cons, heq])
    have hopens : ¬ threeQuotes <+: c :: a ++ (threeQuotes ++ r) := by
      intro hthree
      rcases List.prefix_or_prefix_of_prefix hthree (List.prefix_append (c :: a) _) with hin | hout
      · exact h.quotes hin.isInfix
      · exact hlast (getLast?_of_prefix_threeQuotes hout (List.cons_ne_nil c a))
    rw [← List.append_assoc, List.cons_append, List.cons_append] at hopens
    rw [List.cons_append, List.cons_append, upToQuote_three_cons hback, if_neg hopens, ha]
    rfl

/-! ### Reading back -/

theorem textAt?_threeQuotes (s : List Char) :
    textAt? (threeQuotes ++ s) = (upToQuote .three s).bind fun p =>
      (unescape? true 0 p.1).map fun points => (points, p.2) := by
  have hopen : openQuote '"' ('"' :: '"' :: s) = (.three, s) := rfl
  have hquoted := quoted?_opening false ('"' :: '"' :: s)
  rw [hopen] at hquoted
  rw [textAt?, show quoted? (threeQuotes ++ s) = _ from hquoted]
  cases hclose : upToQuote .three s with
  | none => simp [hclose]
  | some p =>
    simp only [hclose, Option.bind_eq_bind, Option.bind_some, quotedTok?, Bool.false_eq_true, if_false]
    cases unescape? true 0 p.1 <;> rfl

/-- Text in three quotes is read as it is, up to the quotes that were put behind it, exactly if it can be
printed so. It ends in a blank, so that these quotes can be told from it. -/
theorem textAt?_eq_iff (hlast : s.getLast? = some ' ') (r : List Char) :
    textAt? (threeQuotes ++ (s ++ threeQuotes ++ r)) = some (s.map Char.toNat, r) ↔ IsVerbatim s := by
  rw [textAt?_threeQuotes]
  constructor
  · intro h
    obtain ⟨⟨a, r'⟩, hquote, h⟩ := Option.bind_eq_some_iff.1 h
    obtain ⟨points, hpoints, heq⟩ := Option.map_eq_some_iff.1 h
    cases heq
    obtain rfl : s = a := List.append_cancel_right
      (List.append_cancel_right (eq_append_of_upToQuote hquote))
    have hbackslashes := backslashes_of_length_le hpoints (by simp) (by simp [hlast])
    exact ⟨not_threeQuotes_of_upToQuote hquote hbackslashes, hbackslashes⟩
  · intro h
    rw [upToQuote_of_isVerbatim h (by simp [hlast]), Option.bind_some,
      unescape?_of_backslashes h.backslashes]
    rfl

/-! ### Lines -/

theorem isVerbatim_nil : IsVerbatim [] := ⟨by simp [threeQuotes], by simp⟩

/-- A character that is neither a quote nor a backslash may stand in front of anything. -/
theorem isVerbatim_cons_iff (hc : c ∉ ['"', '\\']) : IsVerbatim (c :: s) ↔ IsVerbatim s := by
  simp only [List.mem_cons, List.not_mem_nil, or_false, not_or] at hc
  refine ⟨fun h => h.of_suffix (List.suffix_cons c s), fun h => ⟨?_, fun r hr => ?_⟩⟩
  · rw [List.infix_cons_iff, not_or]
    exact ⟨fun hthree => hc.1 (List.cons_prefix_cons.1 hthree).1.symm, h.quotes⟩
  · rcases List.suffix_cons_iff.1 hr with heq | hr
    · exact absurd (List.cons.inj heq).1.symm hc.2
    · exact h.backslashes r hr

theorem isVerbatim_append_iff (ha : ∀ c ∈ a, c ∉ ['"', '\\']) :
    IsVerbatim (a ++ s) ↔ IsVerbatim s := by
  induction a with
  | nil => rfl
  | cons c a ih =>
    obtain ⟨hc, ha⟩ := List.forall_mem_cons.1 ha
    exact (isVerbatim_cons_iff hc).trans (ih ha)

theorem isVerbatim_of_forall (h : ∀ c ∈ s, c ∉ ['"', '\\']) : IsVerbatim s := by
  have hiff := isVerbatim_append_iff (s := []) h
  rw [List.append_nil] at hiff
  exact hiff.2 isVerbatim_nil

theorem prefix_of_prefix_append_cons (h : b <+: a ++ c :: s) (hc : c ∉ b) : b <+: a := by
  rcases List.prefix_or_prefix_of_prefix h (List.prefix_append a (c :: s)) with hin | ⟨r, rfl⟩
  · exact hin
  · cases r with
    | nil => simp
    | cons d r =>
      have hr := (List.prefix_append_right_inj a).1 h
      obtain rfl := (List.cons_prefix_cons.1 hr).1
      exact absurd (by simp) hc

theorem infix_append_cons_iff (hc : c ∉ b) : b <:+: a ++ c :: s ↔ b <:+: a ∨ b <:+: s := by
  constructor
  · intro h
    induction a with
    | nil =>
      rcases List.infix_cons_iff.1 h with hp | hs
      · exact .inl (prefix_of_prefix_append_cons (a := []) hp hc).isInfix
      · exact .inr hs
    | cons d a ih =>
      rcases List.infix_cons_iff.1 h with hp | hs
      · exact .inl (prefix_of_prefix_append_cons hp hc).isInfix
      · exact (ih hs).imp_left fun ha => ha.trans (List.suffix_cons d a).isInfix
  · rintro (h | h)
    · exact h.trans (List.prefix_append a _).isInfix
    · exact h.trans ((List.suffix_cons c s).trans (List.suffix_append a _)).isInfix

/-- Lines can be printed together if each of them can. -/
theorem isVerbatim_append_newline_iff :
    IsVerbatim (a ++ '\n' :: s) ↔ IsVerbatim a ∧ IsVerbatim s := by
  constructor
  · refine fun h => ⟨⟨fun hthree => h.quotes (hthree.trans (List.prefix_append a _).isInfix), ?_⟩,
      h.of_suffix ((List.suffix_cons '\n' s).trans (List.suffix_append a _))⟩
    rintro r ⟨u, rfl⟩
    obtain ⟨c, hc, hforms⟩ := h.backslashes (r ++ '\n' :: s) ⟨u, by simp⟩
    cases r with
    | nil =>
      -- the line end would be taken by the backslash
      obtain rfl := Option.some.inj hc
      exact absurd hforms (by decide)
    | cons d r => exact ⟨c, hc, hforms⟩
  · rintro ⟨ha, hs⟩
    refine ⟨fun hthree => ?_, fun r hr => ?_⟩
    · rcases (infix_append_cons_iff (by decide)).1 hthree with h | h
      · exact ha.quotes h
      · exact hs.quotes h
    · obtain ⟨v, hv⟩ := hr
      rcases List.append_eq_append_iff.1 hv with ⟨u, rfl, hu⟩ | ⟨u, rfl, hu⟩
      · cases u with
        | nil => exact absurd (List.cons.inj hu).1 (by decide)
        | cons d u =>
          obtain ⟨rfl, hr⟩ := List.cons.inj hu
          obtain rfl : r = u ++ '\n' :: s := hr
          obtain ⟨c, hc, hforms⟩ := ha.backslashes u ⟨v, rfl⟩
          refine ⟨c, ?_, hforms⟩
          rw [List.head?_append, Option.mem_def.1 hc, Option.some_or]
          rfl
      · rcases List.suffix_cons_iff.1 ⟨u, hu.symm⟩ with heq | hin
        · exact absurd (List.cons.inj heq).1 (by decide)
        · exact hs.backslashes r hin

end Monomorph.Literal
