import Monomorph.Literal.Evaluation

/-!
Expressions that begin with a quoted text. If nothing stands behind the text, the expression is its
value. Whatever stands behind it, the expression is the text with its neighbours, or it is made of them
by an operator, a call, a subscript, a condition or a comma; and what is made so is never a text. So if
the value of the whole is a text at all, it begins with the first one.
-/

namespace Monomorph.Literal

open Reading

variable {α β : Type} {p : List Nat} {ts ts' : List Tok} {e e' : Expr} {n : Nat}

/-! ### Steps -/

/-- Two steps succeed if the first one does and the second one goes on from there. -/
theorem run_bind_eq_ok_iff {x : Reading α} {f : α → Reading β} {b : β} :
    (x >>= f).run ts = .ok (b, ts') ↔
      ∃ a us, x.run ts = .ok (a, us) ∧ (f a).run us = .ok (b, ts') := by
  rw [StateT.run_bind]
  cases x.run ts with
  | error fault => simp [bind, Except.bind]
  | ok r =>
    obtain ⟨a, us⟩ := r
    constructor
    · exact fun h => ⟨a, us, rfl, h⟩
    · rintro ⟨_, _, heq, h⟩
      cases heq
      exact h

theorem run_pure_eq_ok_iff {a b : α} :
    (pure a : Reading α).run ts = .ok (b, ts') ↔ a = b ∧ ts = ts' := by
  rw [StateT.run_pure]
  simp [pure, Except.pure]

/-- A first step that does not fail leaves the second one. -/
theorem run_bind_of_ok {x : Reading α} {f : α → Reading β} {a : α} {us : List Tok}
    (h : x.run ts = .ok (a, us)) : (x >>= f).run ts = (f a).run us := by
  rw [StateT.run_bind, h]
  rfl

/-- Neither a sign nor a keyword comes next. -/
def Plain (ts : List Tok) : Prop := (∀ s us, ts ≠ .sign s :: us) ∧ ∀ s us, ts ≠ .keyword s :: us

theorem plain_text : Plain (.text p :: ts) := ⟨by simp, by simp⟩

theorem plain_nil : Plain [] := ⟨by simp, by simp⟩

theorem Plain.sign? (h : Plain ts) (s : String) : (Reading.sign? s).run ts = .ok (false, ts) := by
  obtain ⟨hsign, -⟩ := h
  rw [Reading.sign?, run_bind_of_ok (a := ts) rfl]
  split
  · next t us => exact absurd rfl (hsign t us)
  · rfl

theorem Plain.keyword? (h : Plain ts) (s : String) :
    (Reading.keyword? s).run ts = .ok (false, ts) := by
  obtain ⟨-, hkeyword⟩ := h
  rw [Reading.keyword?, run_bind_of_ok (a := ts) rfl]
  split
  · next t us => exact absurd rfl (hkeyword t us)
  · rfl

theorem Plain.comes (h : Plain ts) (signs : List String) :
    (Reading.comes signs).run ts = .ok (false, ts) := by
  obtain ⟨hsign, -⟩ := h
  rw [Reading.comes, run_bind_of_ok (a := ts) rfl]
  split
  · next t us => exact absurd rfl (hsign t us)
  · rfl

/-! ### What is no text -/

/-- The expression has no text as its value. -/
def NoText (e : Expr) : Prop := ∀ t, eval e ≠ .ok (.text t)

theorem noText_other (es : List Expr) : NoText (.other es) := by
  intro t h
  cases h

theorem noText_place (es : List Expr) : NoText (.place es) := by
  intro t h
  cases h

theorem noText_tuple (es : List Expr) : NoText (.tuple es) := by
  intro t h
  rw [eval] at h
  cases hitems : evalItems es <;> simp [hitems, Except.map] at h

theorem noText_call (f : Expr) (es : List Expr) : NoText (.call f es) := by
  intro t h
  cases es with
  | nil =>
    rw [eval] at h
    split at h <;> cases h
  | cons e es => cases h

/-- A sum is a complex number. -/
theorem noText_sum (negative : Bool) (l r : Expr) : NoText (.sum negative l r) := by
  intro t h
  have hsum : ∀ left right, complexSum negative left right ≠ .ok (.text t) := by
    intro left right hsum
    unfold complexSum at hsum
    repeat' split at hsum
    all_goals cases hsum
  rw [eval] at h
  cases hl : signedNumber l with
  | error fault => simp [hl, bind, Except.bind] at h
  | ok left =>
    cases hr : unsigned r with
    | error fault => simp [hl, hr, bind, Except.bind] at h
    | ok right => exact hsum left right (by simpa [hl, hr, bind, Except.bind] using h)

/-! ### Loops -/

theorem noText_of_extendUpTo {step : Expr → Reading (Option Expr)}
    (hstep : ∀ e e' ts ts', (step e).run ts = .ok (some e', ts') → NoText e')
    (h : (extendUpTo step n e).run ts = .ok (e', ts')) : e' = e ∨ NoText e' := by
  induction n generalizing e ts with
  | zero => exact .inl (run_pure_eq_ok_iff.1 h).1.symm
  | succ n ih =>
    rw [extendUpTo, run_bind_eq_ok_iff] at h
    obtain ⟨_ | x, us, hx, h⟩ := h
    · exact .inl (run_pure_eq_ok_iff.1 h).1.symm
    · rcases ih h with rfl | hnone
      · exact .inr (hstep _ _ _ _ hx)
      · exact .inr hnone

theorem noText_of_extend {step : Expr → Reading (Option Expr)}
    (hstep : ∀ e e' ts ts', (step e).run ts = .ok (some e', ts') → NoText e')
    (h : (extend step e).run ts = .ok (e', ts')) : e' = e ∨ NoText e' := by
  rw [extend, run_bind_eq_ok_iff] at h
  obtain ⟨_ | x, us, hx, h⟩ := h
  · exact .inl (run_pure_eq_ok_iff.1 h).1.symm
  · obtain ⟨most, us', -, h⟩ := run_bind_eq_ok_iff.1 h
    rcases noText_of_extendUpTo hstep h with rfl | hnone
    · exact .inr (hstep _ _ _ _ hx)
    · exact .inr hnone

/-- What a rule reads is what another one reads from the same place, or no text. -/
def Extends (m inner : Reading Expr) : Prop :=
  ∀ ts e' ts', m.run ts = .ok (e', ts') →
    NoText e' ∨ ∃ us, inner.run ts = .ok (e', us)

theorem extends_joined (word : String) (first later : Reading Expr) :
    Extends (joined word first later) first := by
  intro ts e' ts' h
  rw [joined, run_bind_eq_ok_iff] at h
  obtain ⟨e, us, he, h⟩ := h
  obtain ⟨more, us', -, h⟩ := run_bind_eq_ok_iff.1 h
  obtain ⟨rfl, -⟩ := run_pure_eq_ok_iff.1 h
  split
  · exact .inr ⟨us, he⟩
  · exact .inl (noText_other _)

theorem extends_operation (signs : List String) (operand : Reading Expr) :
    Extends (operation signs operand) operand := by
  intro ts e' ts' h
  rw [operation, run_bind_eq_ok_iff] at h
  obtain ⟨e, us, he, h⟩ := h
  refine (noText_of_extend ?_ h).elim (fun heq => .inr ⟨us, heq ▸ he⟩) .inl
  intro left x vs vs' h
  rw [run_bind_of_ok (a := vs) rfl] at h
  split at h
  · split at h
    · cases h
    · obtain ⟨_, _, -, h⟩ := run_bind_eq_ok_iff.1 h
      obtain ⟨right, _, -, h⟩ := run_bind_eq_ok_iff.1 h
      obtain ⟨hx, -⟩ := run_pure_eq_ok_iff.1 h
      rw [← Option.some.inj hx]
      split
      · exact noText_sum false left right
      · split
        · exact noText_sum true left right
        · exact noText_other _
  · cases h

/-! ### Rules -/

/-- If the expression has a text as its value, this text begins with the given one. -/
def Leads (p : List Nat) (e : Expr) : Prop :=
  ∀ t : String, eval e = .ok (.text t) → p.map Char.ofNat <+: t.toList

theorem NoText.leads (h : NoText e) : Leads p e := fun t ht => absurd ht (h t)

/-- A rule that reads from a text on reads an expression that the text leads. -/
def Begins (m : Reading Expr) : Prop :=
  ∀ p ts e ts', m.run (.text p :: ts) = .ok (e, ts') → Leads p e

theorem begins_throw (fault : Fault) : Begins (throw fault) := by
  intro p ts e ts' h
  cases h

theorem Extends.begins {m inner : Reading Expr} (h : Extends m inner) (hinner : Begins inner) :
    Begins m := by
  intro p ts e ts' he
  rcases h _ _ _ he with hnone | ⟨us, he⟩
  · exact hnone.leads
  · exact hinner p ts e us he

theorem begins_operation {operand : Reading Expr} (signs : List String) (h : Begins operand) :
    Begins (operation signs operand) :=
  (extends_operation signs operand).begins h

/-- Adjacent texts are taken together. -/
theorem exists_run_quoted (p : List Nat) (ts : List Tok) :
    ∃ qs us, quoted.run (.text p :: ts) = .ok (.text p :: qs, us) :=
  ⟨_, _, rfl⟩

theorem leads_ofPoints (p q : List Nat) : Leads p (.value (ofPoints (p ++ q))) := by
  intro t h
  rw [eval, ofPoints] at h
  split at h
  · cases h
  · cases h
    rw [String.toList_ofList, List.map_append]
    exact List.prefix_append _ _

theorem begins_atom (n : Nat) : Begins (atom n) := by
  intro p ts e ts' h
  cases n with
  | zero =>
    rw [atom] at h
    exact begins_throw _ _ _ _ _ h
  | succ n =>
    obtain ⟨qs, us, hquoted⟩ := exists_run_quoted p ts
    rw [atom, run_bind_of_ok (a := .text p :: ts) rfl] at h
    dsimp only at h
    rw [run_bind_of_ok hquoted, if_neg (by simp)] at h
    cases htext : textOf? qs with
    | none =>
      simp only [bytesOf?, textOf?, htext, Option.map_none] at h
      cases h
    | some q =>
      simp only [bytesOf?, textOf?, htext, Option.map_some] at h
      obtain ⟨values, ws, -, h⟩ := run_bind_eq_ok_iff.1 h
      obtain ⟨rfl, -⟩ := run_pure_eq_ok_iff.1 h
      split
      · exact (noText_other _).leads
      · exact leads_ofPoints p q.1

/-- A call, a subscript and a member are no texts. -/
theorem noText_of_trailer {x : Expr} (h : (trailer n e).run ts = .ok (some x, ts')) : NoText x := by
  rw [trailer.eq_def] at h
  split at h
  · obtain ⟨_, _, -, h⟩ := run_bind_eq_ok_iff.1 h
    split at h
    · -- a member
      obtain ⟨_, _, -, h⟩ := run_bind_eq_ok_iff.1 h
      rw [← Option.some.inj (run_pure_eq_ok_iff.1 h).1]
      exact noText_place _
    · obtain ⟨_, _, -, h⟩ := run_bind_eq_ok_iff.1 h
      split at h
      · -- a call
        obtain ⟨_, _, -, h⟩ := run_bind_eq_ok_iff.1 h
        split at h
        · rw [← Option.some.inj (run_pure_eq_ok_iff.1 h).1]
          exact noText_call _ _
        · obtain ⟨_, _, -, h⟩ := run_bind_eq_ok_iff.1 h
          dsimp only at h
          obtain ⟨_, _, -, h⟩ := run_bind_eq_ok_iff.1 h
          split at h
          · obtain ⟨_, _, -, h⟩ := run_bind_eq_ok_iff.1 h
            rw [← Option.some.inj (run_pure_eq_ok_iff.1 h).1]
            exact noText_call _ _
          · obtain ⟨_, _, -, h⟩ := run_bind_eq_ok_iff.1 h
            split at h
            · rw [← Option.some.inj (run_pure_eq_ok_iff.1 h).1]
              exact noText_call _ _
            · obtain ⟨_, _, -, h⟩ := run_bind_eq_ok_iff.1 h
              obtain ⟨_, _, -, h⟩ := run_bind_eq_ok_iff.1 h
              obtain ⟨_, _, -, h⟩ := run_bind_eq_ok_iff.1 h
              rw [← Option.some.inj (run_pure_eq_ok_iff.1 h).1]
              exact noText_call _ _
      · obtain ⟨_, _, -, h⟩ := run_bind_eq_ok_iff.1 h
        split at h
        · -- a subscript
          obtain ⟨_, _, -, h⟩ := run_bind_eq_ok_iff.1 h
          obtain ⟨_, _, -, h⟩ := run_bind_eq_ok_iff.1 h
          obtain ⟨_, _, -, h⟩ := run_bind_eq_ok_iff.1 h
          rw [← Option.some.inj (run_pure_eq_ok_iff.1 h).1]
          exact noText_place _
        · cases h
  · obtain ⟨_, _, -, h⟩ := run_bind_eq_ok_iff.1 h
    split at h <;> cases h

theorem begins_primary (n : Nat) : Begins (primary n) := by
  rw [primary.eq_def]
  split
  · next n =>
    have hatom : Extends ((atom n) >>= extend (trailer (n + 1))) (atom n) := by
      intro ts e' ts' h
      obtain ⟨e, us, he, h⟩ := run_bind_eq_ok_iff.1 h
      refine (noText_of_extend (fun _ _ _ _ h => noText_of_trailer h) h).elim ?_ .inl
      rintro rfl
      exact .inr ⟨us, he⟩
    exact hatom.begins (begins_atom n)
  · exact begins_throw _

theorem begins_awaited (n : Nat) : Begins (awaited n) := by
  cases n with
  | zero =>
    rw [awaited]
    exact begins_throw _
  | succ n =>
    intro p ts e ts' h
    rw [awaited, run_bind_of_ok (plain_text.keyword? _)] at h
    exact begins_primary n p ts e ts' h

theorem begins_power (n : Nat) : Begins (power n) := by
  cases n with
  | zero =>
    rw [power]
    exact begins_throw _
  | succ n =>
    have hbase : Extends (power (n + 1)) (awaited n) := by
      intro ts e' ts' h
      rw [power, run_bind_eq_ok_iff] at h
      obtain ⟨base, us, hbase, h⟩ := h
      obtain ⟨_, _, -, h⟩ := run_bind_eq_ok_iff.1 h
      split at h
      · obtain ⟨_, _, -, h⟩ := run_bind_eq_ok_iff.1 h
        rw [← (run_pure_eq_ok_iff.1 h).1]
        exact .inl (noText_other _)
      · rw [← (run_pure_eq_ok_iff.1 h).1]
        exact .inr ⟨us, hbase⟩
    exact hbase.begins (begins_awaited n)

theorem begins_factor (n : Nat) : Begins (factor n) := by
  cases n with
  | zero =>
    rw [factor]
    exact begins_throw _
  | succ n =>
    intro p ts e ts' h
    rw [factor, run_bind_of_ok (plain_text.sign? _), if_neg (by simp),
      run_bind_of_ok (plain_text.sign? _), if_neg (by simp),
      run_bind_of_ok (plain_text.sign? _), if_neg (by simp)] at h
    exact begins_power n p ts e ts' h

theorem begins_bitwise (n : Nat) : Begins (bitwise n) := by
  rw [bitwise.eq_def]
  split
  · next n =>
    exact begins_operation _ <| begins_operation _ <| begins_operation _ <| begins_operation _ <|
      begins_operation _ <| begins_operation _ <| begins_factor n
  · exact begins_throw _

theorem extends_comparison (n : Nat) : Extends (comparison (n + 4)) (bitwise (n + 3)) := by
  intro ts e' ts' h
  rw [comparison] at h
  obtain ⟨e, us, he, h⟩ := run_bind_eq_ok_iff.1 h
  obtain ⟨_, _, -, h⟩ := run_bind_eq_ok_iff.1 h
  obtain ⟨rfl, -⟩ := run_pure_eq_ok_iff.1 h
  split
  · exact .inr ⟨us, he⟩
  · exact .inl (noText_other _)

theorem begins_comparison (n : Nat) : Begins (comparison n) := by
  rw [comparison.eq_def]
  split
  · next n =>
    have hoperands := extends_comparison n
    rw [comparison] at hoperands
    exact hoperands.begins (begins_bitwise _)
  · exact begins_throw _

theorem begins_inversion (n : Nat) : Begins (inversion n) := by
  cases n with
  | zero =>
    rw [inversion]
    exact begins_throw _
  | succ n =>
    intro p ts e ts' h
    rw [inversion, run_bind_of_ok (plain_text.keyword? _)] at h
    exact begins_comparison n p ts e ts' h

theorem begins_conjunction (n : Nat) : Begins (conjunction n) := by
  rw [conjunction.eq_def]
  split
  · exact (extends_joined _ _ _).begins (begins_inversion _)
  · exact begins_throw _

theorem begins_disjunction (n : Nat) : Begins (disjunction n) := by
  rw [disjunction.eq_def]
  split
  · exact (extends_joined _ _ _).begins (begins_conjunction _)
  · exact begins_throw _

theorem begins_expression (n : Nat) : Begins (expression n) := by
  cases n with
  | zero =>
    rw [expression]
    exact begins_throw _
  | succ n =>
    intro p ts e ts' h
    rw [expression, run_bind_of_ok (plain_text.keyword? _), if_neg (by simp)] at h
    obtain ⟨first, us, hfirst, h⟩ := run_bind_eq_ok_iff.1 h
    obtain ⟨_, _, -, h⟩ := run_bind_eq_ok_iff.1 h
    split at h
    · obtain ⟨_, _, -, h⟩ := run_bind_eq_ok_iff.1 h
      obtain ⟨_, _, -, h⟩ := run_bind_eq_ok_iff.1 h
      obtain ⟨_, _, -, h⟩ := run_bind_eq_ok_iff.1 h
      rw [← (run_pure_eq_ok_iff.1 h).1]
      exact (noText_other _).leads
    · rw [← (run_pure_eq_ok_iff.1 h).1]
      exact begins_disjunction n p ts first us hfirst

/-- A text at the head of the whole leads it. -/
theorem begins_whole : Begins whole := by
  intro p ts e ts' h
  rw [whole, run_bind_eq_ok_iff] at h
  obtain ⟨first, us, hfirst, h⟩ := h
  obtain ⟨_, _, -, h⟩ := run_bind_eq_ok_iff.1 h
  split at h
  · rw [← (run_pure_eq_ok_iff.1 h).1]
    exact begins_expression _ p ts first us hfirst
  · obtain ⟨_, _, -, h⟩ := run_bind_eq_ok_iff.1 h
    obtain ⟨_, _, -, h⟩ := run_bind_eq_ok_iff.1 h
    rw [← (run_pure_eq_ok_iff.1 h).1]
    exact (noText_tuple _).leads

/-! ### A value in front -/

theorem many_of_none {step : Reading (Option Expr)} (h : step.run ts = .ok (none, ts)) :
    (many step).run ts = .ok ([], ts) := by
  rw [many, run_bind_of_ok h]
  rfl

theorem extend_of_none {step : Expr → Reading (Option Expr)} (h : (step e).run ts = .ok (none, ts)) :
    (extend step e).run ts = .ok (e, ts) := by
  rw [extend, run_bind_of_ok h]
  rfl

/-- A rule that reads the first token as a value and leaves the tokens behind it. -/
def Reads (t : Tok) (ts : List Tok) (v : Literal) (m : Reading Expr) : Prop :=
  m.run (t :: ts) = .ok (.value v, ts)

/-- A token that starts neither a sign nor a keyword, with nothing behind it that could be either. -/
structure Alone (t : Tok) (ts : List Tok) : Prop where
  first : Plain (t :: ts)
  behind : Plain ts

variable {t : Tok} {v : Literal} {m : Reading Expr}

theorem Alone.joined (h : Alone t ts) (hm : Reads t ts v m) (word : String) (later : Reading Expr) :
    Reads t ts v (Reading.joined word m later) := by
  have hmore : (many do if ← keyword? word then some <$> later else return none).run ts =
      .ok ([], ts) :=
    many_of_none (by rw [run_bind_of_ok (h.behind.keyword? word)]; rfl)
  rw [Reads, Reading.joined, run_bind_of_ok hm, run_bind_of_ok hmore]
  rfl

theorem Alone.operation (h : Alone t ts) (hm : Reads t ts v m) (signs : List String) :
    Reads t ts v (Reading.operation signs m) := by
  obtain ⟨hsign, -⟩ := h.behind
  rw [Reads, Reading.operation, run_bind_of_ok hm]
  refine extend_of_none ?_
  rw [run_bind_of_ok (a := ts) rfl]
  split
  · next s us => exact absurd rfl (hsign s us)
  · rfl

theorem Plain.trailer (h : Plain ts) (n : Nat) (e : Expr) : (trailer n e).run ts = .ok (none, ts) := by
  rw [trailer.eq_def]
  split
  · rw [run_bind_of_ok (h.sign? _), if_neg (by simp), run_bind_of_ok (h.sign? _),
      if_neg (by simp), run_bind_of_ok (h.sign? _)]
    rfl
  · rw [run_bind_of_ok (h.comes _)]
    rfl

theorem Plain.comparison? (h : Plain ts) : Reading.comparison?.run ts = .ok (false, ts) := by
  obtain ⟨hsign, hkeyword⟩ := h
  rw [Reading.comparison?, run_bind_of_ok (a := ts) rfl]
  split
  · next us => exact absurd rfl (hkeyword _ _)
  · next us => exact absurd rfl (hkeyword _ _)
  · next s us _ _ => exact absurd rfl (hkeyword s us)
  · next s us => exact absurd rfl (hsign s us)
  · rfl

section

variable (h : Alone t ts) (hatom : ∀ n, Reads t ts v (atom (n + 1))) (n : Nat)
include h hatom

theorem Alone.primary : Reads t ts v (primary (n + 3)) := by
  rw [Reads, Literal.primary, run_bind_of_ok (hatom n)]
  exact extend_of_none (h.behind.trailer _ _)

theorem Alone.awaited : Reads t ts v (awaited (n + 4)) := by
  rw [Reads, Literal.awaited, run_bind_of_ok (h.first.keyword? _)]
  exact h.primary hatom n

theorem Alone.power : Reads t ts v (power (n + 5)) := by
  rw [Reads, Literal.power, run_bind_of_ok (h.awaited hatom n), run_bind_of_ok (h.behind.sign? _)]
  rfl

theorem Alone.factor : Reads t ts v (factor (n + 6)) := by
  rw [Reads, Literal.factor, run_bind_of_ok (h.first.sign? _), if_neg (by simp),
    run_bind_of_ok (h.first.sign? _), if_neg (by simp), run_bind_of_ok (h.first.sign? _),
    if_neg (by simp)]
  exact h.power hatom n

theorem Alone.bitwise : Reads t ts v (bitwise (n + 18)) := by
  rw [Literal.bitwise]
  refine h.operation (h.operation (h.operation (h.operation (h.operation (h.operation ?_ _) _) _) _)
    _) _
  exact h.factor hatom n

theorem Alone.comparison : Reads t ts v (comparison (n + 19)) := by
  have hmore : (many do
      if ← Reading.comparison? then some <$> Literal.bitwise (n + 15) else return none).run ts =
        .ok ([], ts) :=
    many_of_none (by rw [run_bind_of_ok h.behind.comparison?]; rfl)
  rw [Reads, Literal.comparison, run_bind_of_ok (h.bitwise hatom n), run_bind_of_ok hmore]
  rfl

theorem Alone.inversion : Reads t ts v (inversion (n + 20)) := by
  rw [Reads, Literal.inversion, run_bind_of_ok (h.first.keyword? _)]
  exact h.comparison hatom n

theorem Alone.conjunction : Reads t ts v (conjunction (n + 21)) := by
  rw [Literal.conjunction]
  exact h.joined (h.inversion hatom n) _ _

theorem Alone.disjunction : Reads t ts v (disjunction (n + 22)) := by
  rw [Literal.disjunction]
  exact h.joined (h.conjunction hatom n) _ _

theorem Alone.expression : Reads t ts v (expression (n + 23)) := by
  rw [Reads, Literal.expression, run_bind_of_ok (h.first.keyword? _), if_neg (by simp),
    run_bind_of_ok (h.disjunction hatom n), run_bind_of_ok (h.behind.keyword? _)]
  rfl

end

/-- Nothing stands behind the token. -/
theorem reads_whole (hfirst : Plain [t]) (hatom : ∀ n, Reads t [] v (atom (n + 1))) :
    Reads t [] v whole := by
  have hrules : maxRules - 2 = 5975 + 23 := rfl
  have halone : Alone t [] := ⟨hfirst, plain_nil⟩
  rw [Reads, whole, hrules, run_bind_of_ok (halone.expression hatom 5975)]
  rfl

/-- A token that is neither a line break nor a comma stands behind the first one. -/
theorem whole_of_more {u : Tok} {us : List Tok} (h : Alone t (u :: us)) (hu : u ≠ .newline)
    (hatom : ∀ n, Reads t (u :: us) v (atom (n + 1))) :
    whole.run (t :: u :: us) = .error .notLiteral := by
  have hrules : maxRules - 2 = 5975 + 23 := rfl
  have hnotEnd : atEnd.run (u :: us) = .ok (false, u :: us) := by
    rw [atEnd, run_bind_of_ok (a := u :: us) rfl]
    cases u <;> first | rfl | exact absurd rfl hu
  have hcomma : (sign ",").run (u :: us) = .error .notLiteral := by
    rw [sign, run_bind_of_ok (h.behind.sign? ",")]
    rfl
  rw [whole, hrules, run_bind_of_ok (h.expression hatom 5975), run_bind_of_ok hnotEnd,
    if_neg (by simp)]
  have hmost : most.run (u :: us) = .ok (us.length + 1, u :: us) := rfl
  have hitems : (itemsTo atEnd (expression (maxRules - 4)) (us.length + 1)).run (u :: us) =
      .error .notLiteral := by
    rw [itemsTo, run_bind_of_ok hnotEnd, if_neg (by simp), StateT.run_bind, hcomma]
    rfl
  rw [run_bind_of_ok hmost, StateT.run_bind, hitems]
  rfl

/-- A rule that reads a text with nothing behind it as the value of the text. -/
def ReadsText (m : Reading Expr) : Prop := ∀ p, m.run [.text p] = .ok (.value (ofPoints p), [])

theorem readsText_whole : ReadsText whole := by
  intro p
  refine reads_whole plain_text fun n => ?_
  have hquoted : quoted.run [.text p] = .ok ([.text p], []) := rfl
  rw [Reads, atom, run_bind_of_ok (a := [.text p]) rfl]
  dsimp only
  rw [run_bind_of_ok hquoted, if_neg (by simp)]
  simp only [bytesOf?, textOf?, Option.map_some, List.append_nil]
  rfl

end Monomorph.Literal
