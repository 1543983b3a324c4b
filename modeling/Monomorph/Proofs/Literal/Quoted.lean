import Monomorph.Proofs.Literal.Grammar

/-!
Texts that begin with a quoted literal. The literal ends at the first quote that no backslash takes with
it, and is malformed if the line ends before. What stands between the quotes is a run of characters and
escapes, and such a run is passed over whatever follows it.
-/

namespace Monomorph.Literal

open Text

variable {c : Char} {s a r : List Char} {isRaw : Bool}

/-- One double quote. -/
def Quote.double : Quote := ⟨'"', false⟩

/-- What can stand between two quotes: no quote and no line break but after a backslash. -/
inductive Inside : List Char → Prop
  | nil : Inside []
  | escaped (c : Char) {s : List Char} (h : Inside s) : Inside ('\\' :: c :: s)
  | plain {c : Char} {s : List Char} (hc : c ∉ ['\\', '"', '\n']) (h : Inside s) : Inside (c :: s)

/-! ### The closing quote -/

theorem upToQuote_escaped {q : Quote} (c : Char) (r : List Char) :
    upToQuote q ('\\' :: c :: r) = (upToQuote q r).map fun p => ('\\' :: c :: p.1, p.2) := by
  rw [upToQuote]

theorem upToQuote_cons (hc : c ≠ '\\') (r : List Char) :
    upToQuote .double (c :: r) =
      if c = '"' then some ([], r) else if c = '\n' then none
      else (upToQuote .double r).map fun p => (c :: p.1, p.2) := by
  rw [upToQuote.eq_def]
  split
  · next heq => cases heq
  · next heq =>
    cases heq
    exact absurd rfl hc
  · next heq =>
    cases heq
    simp [Quote.double]

/-- What is inside is passed over. -/
theorem Inside.upToQuote_append (h : Inside a) (r : List Char) :
    upToQuote .double (a ++ r) = (upToQuote .double r).map fun p => (a ++ p.1, p.2) := by
  induction h with
  | nil => simp
  | escaped c _ ih =>
    rw [List.cons_append, List.cons_append, upToQuote_escaped, ih, Option.map_map]
    rfl
  | plain hc _ ih =>
    simp only [List.mem_cons, List.not_mem_nil, or_false, not_or] at hc
    obtain ⟨hback, hquote, hline⟩ := hc
    rw [List.cons_append, upToQuote_cons hback, if_neg hquote, if_neg hline, ih, Option.map_map]
    rfl

theorem Inside.upToQuote_eq (h : Inside a) (r : List Char) :
    upToQuote .double (a ++ '"' :: r) = some (a, r) := by
  rw [h.upToQuote_append, upToQuote_cons (by decide), if_pos rfl, Option.map_some, List.append_nil]

/-- Text from left to right, each backslash with the character behind it. -/
theorem escaped_induction {P : List Char → Prop} (nil : P []) (last : P ['\\'])
    (escaped : ∀ c s, P s → P ('\\' :: c :: s)) (plain : ∀ c s, c ≠ '\\' → P s → P (c :: s)) :
    ∀ s, P s
  | [] => nil
  | [c] => if h : c = '\\' then h ▸ last else plain c [] h nil
  | c :: d :: s =>
    if h : c = '\\' then h ▸ escaped d s (escaped_induction nil last escaped plain s)
    else plain c (d :: s) h (escaped_induction nil last escaped plain (d :: s))

/-- The characters before the closing quote are inside. -/
theorem inside_of_upToQuote (h : upToQuote .double s = some (a, r)) :
    s = a ++ '"' :: r ∧ Inside a := by
  induction s using escaped_induction generalizing a with
  | nil => cases h
  | last => cases h
  | escaped c s ih =>
    rw [upToQuote_escaped] at h
    obtain ⟨⟨b, _⟩, hrest, heq⟩ := Option.map_eq_some_iff.1 h
    cases heq
    obtain ⟨rfl, hb⟩ := ih hrest
    exact ⟨rfl, .escaped c hb⟩
  | plain c s hback ih =>
    rw [upToQuote_cons hback] at h
    split at h
    · next hquote =>
      cases h
      exact ⟨by rw [hquote, List.nil_append], .nil⟩
    · next hquote =>
      split at h
      · cases h
      · next hline =>
        obtain ⟨⟨b, _⟩, hrest, heq⟩ := Option.map_eq_some_iff.1 h
        cases heq
        obtain ⟨rfl, hb⟩ := ih hrest
        exact ⟨rfl, .plain (by simp [hback, hquote, hline]) hb⟩

theorem Inside.append (ha : Inside a) (hr : Inside r) : Inside (a ++ r) := by
  induction ha with
  | nil => exact hr
  | escaped c _ ih => exact .escaped c ih
  | plain hc _ ih => exact .plain hc ih

/-- Text on one line without quotes, with something behind it that a backslash may take. -/
theorem inside_append_cons (hquote : '"' ∉ a) (hline : '\n' ∉ a) (hc : c ∉ ['\\', '"', '\n'])
    (hr : Inside r) : Inside (a ++ c :: r) := by
  induction a using escaped_induction with
  | nil => exact .plain hc hr
  | last => exact .escaped c hr
  | escaped d a ih =>
    simp only [List.mem_cons, not_or] at hquote hline
    exact .escaped d (ih hquote.2.2 hline.2.2)
  | plain d a hback ih =>
    simp only [List.mem_cons, not_or] at hquote hline
    refine .plain ?_ (ih hquote.2 hline.2)
    simp [hback, Ne.symm hquote.1, Ne.symm hline.1]

/-! ### The first token -/

/-- How the two notations of a text open. -/
def opening (isRaw : Bool) : List Char := if isRaw then ['R', '"'] else ['"']

theorem openQuote_eq (h : ∀ x, s ≠ '"' :: '"' :: x) : openQuote '"' s = (.double, s) := by
  unfold openQuote
  split
  · next b c r =>
    rw [if_neg]
    · rfl
    · intro hboth
      simp only [Bool.and_eq_true, beq_iff_eq] at hboth
      obtain ⟨rfl, rfl⟩ := hboth
      exact h r rfl
  · rfl

theorem quoted?_opening (isRaw : Bool) (r : List Char) :
    quoted? (opening isRaw ++ r) = some do
      let (q, r) := openQuote '"' r
      let (body, rest) ← upToQuote q r
      return (← quotedTok? isRaw body .text, rest) := by
  cases isRaw <;> rfl

theorem token?_opening (isRaw : Bool) (h : ∀ x, r ≠ '"' :: '"' :: x) :
    token? (opening isRaw ++ r) =
      (upToQuote .double r).bind fun p => (quotedTok? isRaw p.1 .text).map fun t => (t, p.2) := by
  unfold token?
  rw [quoted?_opening, openQuote_eq h]
  dsimp only
  cases upToQuote .double r with
  | none => rfl
  | some p =>
    obtain ⟨body, rest⟩ := p
    simp only [Option.bind_eq_bind, Option.bind_some]
    cases quotedTok? isRaw body .text <;> rfl

/-- A character that is no blank and neither ends nor continues a line nor opens a comment. -/
def startsToken (c : Char) : Bool := !isGap c && !(['#', '\n', '\r', '\\'].contains c)

theorem startsToken_iff :
    startsToken c = true ↔ isGap c = false ∧ c ≠ '#' ∧ c ≠ '\n' ∧ c ≠ '\r' ∧ c ≠ '\\' := by
  simp [startsToken]

/-- The text of a line from its first token on. -/
theorem tokensFrom_cons (hc : startsToken c = true) (depth : Nat) (r : List Char) :
    tokensFrom depth (c :: r) =
      match token? (c :: r) with
      | none => [.bad]
      | some (t, rest) =>
        match depthAfter? depth t with
        | some depth => if rest.length ≤ r.length then t :: tokensFrom depth rest else [.bad]
        | none => [.bad] := by
  obtain ⟨hgap, hcomment, hline, -, hback⟩ := startsToken_iff.1 hc
  rw [tokensFrom.eq_def]
  split
  · next heq => cases heq
  · next heq =>
    cases heq
    exact absurd rfl hback
  · next heq =>
    cases heq
    have hbreak : ¬ (c == '\n') = true := by simpa using hline
    exact (if_neg (by simp [hgap])).trans ((if_neg (by simpa using hcomment)).trans
      ((if_neg (by simp [hline])).trans (if_neg hbreak)))

/-- Text that starts with a token is not indented. -/
theorem tokens_cons (hc : startsToken c = true) (r : List Char) :
    tokens (c :: r) = tokensFrom 0 (c :: r) := by
  obtain ⟨hgap, hcomment, hline, -, hback⟩ := startsToken_iff.1 hc
  simp only [isGap, Bool.or_eq_false_iff, beq_eq_false_iff_ne, ne_eq, decide_eq_false_iff_not] at hgap
  obtain ⟨⟨hspace, htab⟩, hfeed⟩ := hgap
  have hstart : unindented? 0 0 false (c :: r) = some (c :: r) := by
    rw [unindented?.eq_def]
    simp [hspace, htab, hfeed, hcomment, hline, hback]
  rw [tokens, hstart]

theorem tokens_opening (isRaw : Bool) (r : List Char) :
    tokens (opening isRaw ++ r) =
      match token? (opening isRaw ++ r) with
      | none => [.bad]
      | some (t, rest) =>
        match depthAfter? 0 t with
        | some depth =>
          if rest.length ≤ (opening isRaw ++ r).tail.length then t :: tokensFrom depth rest else [.bad]
        | none => [.bad] := by
  cases isRaw with
  | false => exact (tokens_cons (by decide) r).trans (tokensFrom_cons (by decide) 0 r)
  | true => exact (tokens_cons (by decide) ('"' :: r)).trans (tokensFrom_cons (by decide) 0 ('"' :: r))

/-- A literal that is not closed is no token. -/
theorem tokens_of_unclosed (isRaw : Bool) (h : ∀ x, r ≠ '"' :: '"' :: x)
    (hnone : upToQuote .double r = none) : tokens (opening isRaw ++ r) = [.bad] := by
  rw [tokens_opening, token?_opening isRaw h, hnone]
  rfl

/-- A literal that is closed is the first token, if its escapes stand for something. -/
theorem tokens_of_closed (isRaw : Bool) (h : ∀ x, r ≠ '"' :: '"' :: x) {body rest : List Char}
    {p : List Nat} (hbody : upToQuote .double r = some (body, rest))
    (hp : quotedTok? isRaw body .text = some (.text p)) :
    tokens (opening isRaw ++ r) = .text p :: tokensFrom 0 rest := by
  obtain ⟨rfl, -⟩ := inside_of_upToQuote hbody
  have hlength : rest.length ≤ (opening isRaw ++ (body ++ '"' :: rest)).tail.length := by
    cases isRaw <;>
      simp only [opening, if_true, Bool.false_eq_true, if_false, List.cons_append, List.nil_append,
        List.tail_cons, List.length_append, List.length_cons] <;> omega
  have hdepth : depthAfter? 0 (.text p) = some 0 := rfl
  rw [tokens_opening, token?_opening isRaw h, hbody]
  simp only [Option.bind_some, hp, Option.map_some, hdepth, if_pos hlength]

end Monomorph.Literal
