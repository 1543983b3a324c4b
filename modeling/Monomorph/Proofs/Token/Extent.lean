import Mathlib.Data.List.Infix
import Monomorph.Proofs.Text.Words
import Monomorph.Token.Lexer

/-!
How far the recognisers reach. Whether a literal is recognised, and how far it goes, is decided by
the characters it takes and by nothing behind them. The other classes end at the first character that
does not belong to them. So every recogniser takes at least one character and no more than there are.
-/

namespace Monomorph.Lexer

open Text

/-- The recogniser takes exactly these characters, whatever stands behind them. -/
def Takes (f : List Char → Option Nat) (w : List Char) : Prop := ∀ t, f (w ++ t) = some w.length

/-- What the recogniser takes is decided by the characters that it takes. -/
def Local (f : List Char → Option Nat) : Prop :=
  ∀ s n, f s = some n → ∃ w t, s = w ++ t ∧ w.length = n ∧ Takes f w

/-- One recogniser after the other. -/
theorem Local.bind {f g : List Char → Option Nat} (hf : Local f) (hg : Local g) :
    Local fun s => (f s).bind fun n => (g (s.drop n)).map (· + n) := by
  intro s k h
  obtain ⟨n, hn, htail⟩ := Option.bind_eq_some_iff.1 h
  obtain ⟨m, hm, rfl⟩ := Option.map_eq_some_iff.1 htail
  obtain ⟨w, t, rfl, rfl, hw⟩ := hf s n hn
  rw [List.drop_left] at hm
  obtain ⟨v, t, rfl, rfl, hv⟩ := hg t m hm
  refine ⟨w ++ v, t, by rw [List.append_assoc], by rw [List.length_append, Nat.add_comm], ?_⟩
  intro t'
  simp only [List.append_assoc, hw (v ++ t'), Option.bind_some, List.drop_left, hv t',
    Option.map_some, List.length_append, Nat.add_comm]

theorem Local.le_length {f : List Char → Option Nat} (hf : Local f) {s : List Char} {n : Nat}
    (h : f s = some n) : n ≤ s.length := by
  obtain ⟨w, t, rfl, rfl, -⟩ := hf s n h
  simp

/-- Characters that were taken are taken in front of any other text, too. -/
theorem Local.congr {f : List Char → Option Nat} (hf : Local f) {w r : List Char}
    (h : f (w ++ r) = some w.length) (r' : List Char) : f (w ++ r') = some w.length := by
  obtain ⟨v, t, happend, hlen, hv⟩ := hf _ _ h
  obtain ⟨rfl, -⟩ := List.append_inj happend hlen.symm
  exact hv r'

/-! ### Literals -/

theorem through?_eq_length {close s : List Char} (h : close <+: s) :
    through? close s = some close.length := by
  have hhead : close.isPrefixOf s = true := List.isPrefixOf_iff_prefix.2 h
  cases s <;> rw [through?, if_pos hhead]

/-- The first occurrence is no later than any other. -/
theorem exists_through?_le {part u s : List Char} (h : u ++ part <+: s) :
    ∃ m, through? part s = some m ∧ m ≤ u.length + part.length := by
  induction u generalizing s with
  | nil => exact ⟨_, through?_eq_length h, by simp⟩
  | cons d u ih =>
    obtain ⟨r, rfl⟩ := h
    obtain ⟨m, hm, hle⟩ := ih (List.prefix_append (u ++ part) r)
    rw [List.cons_append, List.cons_append, through?]
    split
    · exact ⟨_, rfl, by simp⟩
    · exact ⟨m + 1, by rw [hm, Option.map_some], by simp only [List.length_cons]; omega⟩

/-- A text that occurs somewhere is found. -/
theorem isSome_through? {part s : List Char} (h : part <:+: s) :
    (through? part s).isSome = true := by
  obtain ⟨u, t, rfl⟩ := h
  obtain ⟨m, hm, -⟩ := exists_through?_le (List.prefix_append (u ++ part) t)
  rw [hm, Option.isSome_some]

theorem exists_takes_of_through? {close s : List Char} {n : Nat} (h : through? close s = some n) :
    ∃ w t, s = w ++ t ∧ w.length = n ∧ close <:+ w ∧ Takes (through? close) w := by
  have hfirst : ∀ t, through? close (close ++ t) = some close.length := fun t =>
    through?_eq_length (List.prefix_append close t)
  induction s generalizing n with
  | nil =>
    rw [through?] at h
    split at h
    · next hhead =>
      obtain rfl := List.prefix_nil.1 (List.isPrefixOf_iff_prefix.1 hhead)
      exact ⟨[], [], rfl, Option.some.inj h, List.suffix_rfl, hfirst⟩
    · cases h
  | cons c s ih =>
    rw [through?] at h
    split at h
    · next hhead =>
      obtain ⟨t, ht⟩ := List.isPrefixOf_iff_prefix.1 hhead
      exact ⟨close, t, ht.symm, Option.some.inj h, List.suffix_rfl, hfirst⟩
    · next hhead =>
      obtain ⟨m, hm, rfl⟩ := Option.map_eq_some_iff.1 h
      obtain ⟨w, t, rfl, rfl, hclose, hw⟩ := ih hm
      refine ⟨c :: w, t, rfl, rfl, hclose.trans (List.suffix_cons c w), fun t' => ?_⟩
      -- the mark is no longer than what was taken, so it does not reach into the rest
      have hlater : ¬ close.isPrefixOf (c :: (w ++ t')) = true := fun hstarts => by
        refine hhead (List.isPrefixOf_iff_prefix.2 ?_)
        have hlong : close.length ≤ (c :: w).length := by
          have := hclose.length_le
          simp only [List.length_cons]
          omega
        have hinside : close <+: c :: w := List.prefix_of_prefix_length_le
          (List.isPrefixOf_iff_prefix.1 hstarts) (List.prefix_append (c :: w) t') hlong
        exact hinside.trans (List.prefix_append (c :: w) t)
      rw [List.cons_append, through?, if_neg hlater, hw t', Option.map_some, List.length_cons]

theorem local_through? (close : List Char) : Local (through? close) := fun _ _ h => by
  obtain ⟨w, t, hs, hlen, -, hw⟩ := exists_takes_of_through? h
  exact ⟨w, t, hs, hlen, hw⟩

/-- The marks that open a literal behind its encoding. -/
def marks : List (List Char) := [['R', '"'], ['"'], ['\'']]

/-- A text opens a literal in one way only. -/
theorem eq_of_mem_encodings {mark mark' e e' s : List Char} (hmark : mark ∈ marks)
    (hmark' : mark' ∈ marks) (he : e ∈ encodings) (he' : e' ∈ encodings) (h : e ++ mark <+: s)
    (h' : e' ++ mark' <+: s) : e = e' ∧ mark = mark' := by
  have hdistinct : ∀ mark ∈ marks, ∀ mark' ∈ marks, ∀ e ∈ encodings, ∀ e' ∈ encodings,
      (e ++ mark).isPrefixOf (e' ++ mark') = true → e = e' ∧ mark = mark' := by decide
  rcases List.prefix_or_prefix_of_prefix h h' with hle | hle
  · exact hdistinct mark hmark mark' hmark' e he e' he' (List.isPrefixOf_iff_prefix.2 hle)
  · obtain ⟨rfl, rfl⟩ :=
      hdistinct mark' hmark' mark hmark e' he' e he (List.isPrefixOf_iff_prefix.2 hle)
    exact ⟨rfl, rfl⟩

theorem exists_of_openerLength? {mark s : List Char} {k : Nat} (h : openerLength? mark s = some k) :
    ∃ e ∈ encodings, e ++ mark <+: s ∧ k = e.length + mark.length := by
  obtain ⟨e, hmem, he⟩ := List.exists_of_findSome?_eq_some h
  split at he
  · next hhead => exact ⟨e, hmem, List.isPrefixOf_iff_prefix.1 hhead, (Option.some.inj he).symm⟩
  · cases he

theorem openerLength?_eq_some_iff {mark s : List Char} {k : Nat} (hmark : mark ∈ marks) :
    openerLength? mark s = some k ↔
      ∃ e ∈ encodings, e ++ mark <+: s ∧ k = e.length + mark.length := by
  refine ⟨exists_of_openerLength?, ?_⟩
  rintro ⟨e, he, hstarts, rfl⟩
  cases hopen : openerLength? mark s with
  | none =>
    have hclosed := List.findSome?_eq_none_iff.1 hopen e he
    rw [if_pos (List.isPrefixOf_iff_prefix.2 hstarts)] at hclosed
    cases hclosed
  | some k' =>
    obtain ⟨e', he', hstarts', rfl⟩ := exists_of_openerLength? hopen
    rw [(eq_of_mem_encodings hmark hmark he he' hstarts hstarts').1]

theorem local_openerLength? {mark : List Char} (hmark : mark ∈ marks) :
    Local (openerLength? mark) := by
  intro s n h
  obtain ⟨e, he, ⟨t, rfl⟩, rfl⟩ := exists_of_openerLength? h
  refine ⟨e ++ mark, t, rfl, List.length_append, fun t' => ?_⟩
  exact (openerLength?_eq_some_iff hmark).2
    ⟨e, he, List.prefix_append _ _, List.length_append⟩

/-- A literal is its encoding, its opening mark, and what the recogniser of its rest takes. -/
theorem exists_of_literal {mark s : List Char} {g : List Char → Option Nat} {n : Nat}
    (h : ((openerLength? mark s).bind fun k => (g (s.drop k)).map (· + k)) = some n) :
    ∃ e ∈ encodings, ∃ r m, s = e ++ mark ++ r ∧ g r = some m ∧ n = (e ++ mark).length + m := by
  obtain ⟨k, hk, htail⟩ := Option.bind_eq_some_iff.1 h
  obtain ⟨m, hm, rfl⟩ := Option.map_eq_some_iff.1 htail
  obtain ⟨e, he, ⟨r, rfl⟩, rfl⟩ := exists_of_openerLength? hk
  rw [← List.length_append, List.drop_left] at hm
  exact ⟨e, he, r, m, rfl, hm, by rw [List.length_append, Nat.add_comm]⟩

/-- The opening mark stands at the head of what is taken. -/
theorem exists_prefix_of_literal {mark w r : List Char} {g : List Char → Option Nat}
    (h : ((openerLength? mark (w ++ r)).bind fun k => (g ((w ++ r).drop k)).map (· + k)) =
      some w.length) :
    ∃ e ∈ encodings, e ++ mark <+: w := by
  obtain ⟨e, he, t, m, heq, -, hlen⟩ := exists_of_literal h
  refine ⟨e, he, List.prefix_of_prefix_length_le ⟨t, heq.symm⟩ (List.prefix_append w r) ?_⟩
  omega

/-- A quoted literal goes on with an escaped character or with a plain one. -/
theorem quotedTailLength?_escape (quote c : Char) (r : List Char) :
    quotedTailLength? quote ('\\' :: c :: r) =
      if c = '\n' then none else (quotedTailLength? quote r).map (· + 2) := by
  rw [quotedTailLength?]
  simp

theorem quotedTailLength?_cons {c : Char} (quote : Char) (hc : c ≠ '\\') (r : List Char) :
    quotedTailLength? quote (c :: r) =
      if c = quote then some 1
      else if c = '\n' then none else (quotedTailLength? quote r).map (· + 1) := by
  rw [quotedTailLength?]
  · simp [hc]
  · rintro d r' rfl
    exact absurd rfl hc

/-- The rest of a quoted literal stays on its line, and its end is decided by its own characters. -/
theorem exists_takes_of_quotedTailLength? {quote : Char} {s : List Char} {n : Nat}
    (hescape : quote ≠ '\\') (hline : quote ≠ '\n') (h : quotedTailLength? quote s = some n) :
    ∃ w t, s = w ++ t ∧ w.length = n ∧ '\n' ∉ w ∧ Takes (quotedTailLength? quote) w := by
  fun_induction quotedTailLength? quote s generalizing n with
  | case1 => cases h
  | case2 => cases h
  | case3 c r hc ih =>
    obtain ⟨m, hm, rfl⟩ := Option.map_eq_some_iff.1 h
    obtain ⟨w, t, rfl, rfl, hw, htakes⟩ := ih hm
    have hc : c ≠ '\n' := by simpa using hc
    refine ⟨'\\' :: c :: w, t, rfl, rfl, by simp [hw, hc.symm], fun t' => ?_⟩
    rw [List.cons_append, List.cons_append, quotedTailLength?_escape, if_neg hc, htakes t']
    rfl
  | case4 c r _ hquote =>
    obtain rfl : c = quote := by simpa using hquote
    obtain rfl := Option.some.inj h
    refine ⟨[c], r, rfl, rfl, by simpa using hline.symm, fun t' => ?_⟩
    rw [List.cons_append, quotedTailLength?_cons c hescape, if_pos rfl, List.length_singleton]
  | case5 => cases h
  | case6 c r _ hquote hother ih =>
    obtain ⟨m, hm, rfl⟩ := Option.map_eq_some_iff.1 h
    obtain ⟨w, t, rfl, rfl, hw, htakes⟩ := ih hm
    have hquote : c ≠ quote := by simpa using hquote
    obtain ⟨hplain, hc⟩ : c ≠ '\\' ∧ c ≠ '\n' := by simpa using hother
    refine ⟨c :: w, t, rfl, rfl, by simp [hw, hc.symm], fun t' => ?_⟩
    rw [List.cons_append, quotedTailLength?_cons quote hplain, if_neg hquote, if_neg hc, htakes t']
    rfl

/-- Members of a class are all that stands at the head of a list if another element comes next. -/
theorem takeWhile_append_eq_left_iff {α : Type} {p : α → Bool} {w r : List α} :
    (w ++ r).takeWhile p = w ↔ (∀ c ∈ w, p c = true) ∧ ∀ c ∈ r.head?, p c = false := by
  induction w with
  | nil => cases r <;> simp [List.takeWhile_cons]
  | cons c w ih =>
    cases hc : p c with
    | true => simp [hc, ih]
    | false => simp [hc]

theorem length_takeWhile_append_iff {p : Char → Bool} {w r : List Char} :
    ((w ++ r).takeWhile p).length = w.length ↔
      (∀ c ∈ w, p c = true) ∧ ∀ c ∈ r.head?, p c = false := by
  rw [← takeWhile_append_eq_left_iff]
  refine ⟨fun h => ?_, congrArg List.length⟩
  rw [List.prefix_iff_eq_take.1 (List.takeWhile_prefix p (l := w ++ r)), h, List.take_left]

/-- The rest of a raw string: a short delimiter, a parenthesis, and everything through the first
closing parenthesis with the same delimiter. -/
theorem rawTailLength?_eq_some_iff {s : List Char} {n : Nat} :
    rawTailLength? s = some n ↔
      ∃ d body m, s = d ++ '(' :: body ∧ (∀ c ∈ d, isDelimiterChar c = true) ∧ d.length ≤ 16 ∧
        through? ([')'] ++ d ++ ['"']) body = some m ∧ n = m + d.length + 1 := by
  unfold rawTailLength?
  dsimp only
  constructor
  · intro h
    have hs := List.prefix_iff_eq_append.1 (List.takeWhile_prefix isDelimiterChar (l := s))
    have hd : ∀ c ∈ s.takeWhile isDelimiterChar, isDelimiterChar c = true :=
      List.all_eq_true.1 List.all_takeWhile
    split at h
    · cases h
    · next hshort =>
      split at h
      · next body hbody =>
        obtain ⟨m, hm, rfl⟩ := Option.map_eq_some_iff.1 h
        exact ⟨_, body, m, by rw [← hbody, hs], hd, Nat.not_lt.1 hshort, hm, rfl⟩
      · cases h
  · rintro ⟨d, body, m, rfl, hd, hshort, hm, rfl⟩
    have hparen : isDelimiterChar '(' = false := by decide
    have htake : (d ++ '(' :: body).takeWhile isDelimiterChar = d :=
      takeWhile_append_eq_left_iff.2 ⟨hd, by simpa using hparen⟩
    rw [htake, if_neg (Nat.not_lt.2 hshort), List.drop_left]
    simp only [hm, Option.map_some]

theorem local_rawTailLength? : Local rawTailLength? := by
  intro s n h
  obtain ⟨d, body, m, rfl, hd, hshort, hm, rfl⟩ := rawTailLength?_eq_some_iff.1 h
  obtain ⟨w, t, rfl, rfl, hw⟩ := local_through? _ _ _ hm
  refine ⟨d ++ '(' :: w, t, by simp, by simp; omega, fun t' => ?_⟩
  exact rawTailLength?_eq_some_iff.2
    ⟨d, w ++ t', w.length, by simp, hd, hshort, hw t', by simp; omega⟩

theorem local_rawStringLength? : Local rawStringLength? :=
  (local_openerLength? (by decide)).bind local_rawTailLength?

/-- The quotes of string and character literals. -/
def quotes : List Char := ['"', '\'']

theorem local_quotedLength? {quote : Char} (hquote : quote ∈ quotes) :
    Local (quotedLength? quote) := by
  have hplain : ∀ quote ∈ quotes, [quote] ∈ marks ∧ quote ≠ '\\' ∧ quote ≠ '\n' := by decide
  obtain ⟨hmark, hescape, hline⟩ := hplain quote hquote
  refine (local_openerLength? hmark).bind fun s n h => ?_
  obtain ⟨w, t, hs, hlen, -, hw⟩ := exists_takes_of_quotedTailLength? hescape hline h
  exact ⟨w, t, hs, hlen, hw⟩

/-! ### The order of the classes -/

/-- The recognisers in their order of precedence, each with the class of its pieces. -/
def recognisers : List (Piece × (List Char → Option Nat)) := [
  (.token .comment, commentLength?), (.token .rawString, rawStringLength?),
  (.token .string, quotedLength? '"'), (.token .char, quotedLength? '\''),
  (.token .number, numberLength?), (.token .ident, identLength?), (.token .punct, punctLength?),
  (.blanks, blanksLength?)]

/-- What the first recogniser that succeeds makes of a text. -/
def first (fs : List (Piece × (List Char → Option Nat))) (s : List Char) : Piece × Nat :=
  (fs.findSome? fun f => (f.2 s).map (f.1, ·)).getD (.stray, 1)

theorem first_nil (s : List Char) : first [] s = (.stray, 1) := rfl

theorem first_cons (f : Piece × (List Char → Option Nat))
    (fs : List (Piece × (List Char → Option Nat))) (s : List Char) :
    first (f :: fs) s = ((f.2 s).map (f.1, ·)).getD (first fs s) := by
  unfold first
  rw [List.findSome?_cons]
  cases f.2 s <;> rfl

/-- A piece is what the first recogniser makes of its text. -/
theorem piece_eq_first (s : List Char) : piece s = first recognisers s := by
  simp only [recognisers, first_cons, first_nil]
  unfold piece
  repeat' split
  all_goals simp_all

/-- A piece other than a stray character was recognised as what it is. -/
theorem exists_of_piece {s : List Char} {p : Piece} {n : Nat} (h : piece s = (p, n)) :
    (∃ f, (p, f) ∈ recognisers ∧ f s = some n) ∨ p = .stray ∧ n = 1 := by
  rw [piece_eq_first] at h
  generalize recognisers = fs at h ⊢
  induction fs with
  | nil => cases h; exact .inr ⟨rfl, rfl⟩
  | cons f fs ih =>
    rw [first_cons] at h
    cases hf : f.2 s with
    | none =>
      rw [hf] at h
      exact (ih h).imp_left fun ⟨g, hg, hn⟩ => ⟨g, List.mem_cons_of_mem f hg, hn⟩
    | some m =>
      rw [hf] at h
      cases h
      exact .inl ⟨f.2, List.mem_cons_self, hf⟩

/-- The recognisers before the one that succeeds fail. -/
theorem failed_of_piece {s : List Char} {p : Piece} {n : Nat} (h : piece s = (p, n))
    {fs gs : List (Piece × (List Char → Option Nat))} (hsplit : recognisers = fs ++ gs)
    (hp : ∀ f ∈ fs, f.1 ≠ p) : ∀ f ∈ fs, f.2 s = none := by
  rw [piece_eq_first, hsplit] at h
  clear hsplit
  induction fs with
  | nil => simp
  | cons f fs ih =>
    obtain ⟨hf, hfs⟩ := List.forall_mem_cons.1 hp
    rw [List.cons_append, first_cons] at h
    cases hfail : f.2 s with
    | none =>
      rw [hfail] at h
      exact List.forall_mem_cons.2 ⟨hfail, ih h hfs⟩
    | some m =>
      rw [hfail] at h
      exact absurd (congrArg Prod.fst h) hf

/-- Two texts start with the same piece if the recognisers that fail on one fail on the other, and
the one that succeeds takes as much. -/
theorem piece_congr {s s' : List Char} {p : Piece} {n : Nat} (h : piece s = (p, n))
    (hnone : ∀ f ∈ recognisers, f.2 s = none → f.2 s' = none)
    (hsome : ∀ f ∈ recognisers, f.1 = p → f.2 s = some n → f.2 s' = some n) :
    piece s' = (p, n) := by
  rw [piece_eq_first] at h ⊢
  generalize recognisers = fs at h hnone hsome ⊢
  induction fs with
  | nil => exact h
  | cons f fs ih =>
    rw [first_cons] at h ⊢
    cases hf : f.2 s with
    | none =>
      rw [hf] at h
      rw [hnone f List.mem_cons_self hf]
      exact ih h (fun g hg => hnone g (List.mem_cons_of_mem f hg))
        fun g hg => hsome g (List.mem_cons_of_mem f hg)
    | some m =>
      rw [hf] at h
      cases h
      rw [hsome f List.mem_cons_self rfl hf]
      rfl

/-! ### Bounds -/

theorem length_of_numberTailLength (s : List Char) : numberTailLength s ≤ s.length := by
  fun_induction numberTailLength s <;> simp_all

/-- A literal has its opening mark. -/
theorem pos_of_bind {mark s : List Char} {g : List Char → Option Nat} {k : Nat}
    (hmark : mark ∈ marks)
    (h : ((openerLength? mark s).bind fun n => (g (s.drop n)).map (· + n)) = some k) : 0 < k := by
  have hpos : ∀ mark ∈ marks, 0 < mark.length := by decide
  obtain ⟨e, -, r, m, -, -, rfl⟩ := exists_of_literal h
  have := hpos mark hmark
  rw [List.length_append]
  omega

theorem bounds_of_commentLength? {s : List Char} {n : Nat} (h : commentLength? s = some n) :
    0 < n ∧ n ≤ s.length := by
  unfold commentLength? at h
  split at h
  · next r =>
    obtain rfl := Option.some.inj h
    have := (List.takeWhile_prefix (· != '\n') (l := r)).length_le
    simp only [List.length_cons]
    omega
  · next r =>
    obtain rfl := Option.some.inj h
    cases hclose : through? ['*', '/'] r with
    | none => simp
    | some m =>
      have := (local_through? _).le_length hclose
      simp only [Option.getD_some, List.length_cons]
      omega
  · cases h

theorem bounds_of_numberLength? {s : List Char} {n : Nat} (h : numberLength? s = some n) :
    0 < n ∧ n ≤ s.length := by
  unfold numberLength? at h
  split at h
  · next d r =>
    have := length_of_numberTailLength r
    split at h
    · obtain rfl := Option.some.inj h
      simpa using this
    · cases h
  · next c r _ =>
    have := length_of_numberTailLength r
    split at h
    · obtain rfl := Option.some.inj h
      simpa using this
    · cases h
  · cases h

theorem bounds_of_identLength? {s : List Char} {n : Nat} (h : identLength? s = some n) :
    0 < n ∧ n ≤ s.length := by
  unfold identLength? at h
  split at h
  · next c r =>
    have := (List.takeWhile_prefix isWord (l := r)).length_le
    split at h
    · obtain rfl := Option.some.inj h
      simpa using this
    · cases h
  · cases h

theorem bounds_of_punctLength? {s : List Char} {n : Nat} (h : punctLength? s = some n) :
    0 < n ∧ n ≤ s.length := by
  unfold punctLength? at h
  split at h
  · obtain rfl := Option.some.inj h
    simp
  · obtain rfl := Option.some.inj h
    simp
  · split at h
    · cases h
    · obtain rfl := Option.some.inj h
      simp
  · cases h

theorem bounds_of_blanksLength? {s : List Char} {n : Nat} (h : blanksLength? s = some n) :
    0 < n ∧ n ≤ s.length := by
  unfold blanksLength? at h
  split at h
  · next c r =>
    have := (List.takeWhile_prefix isBlank (l := r)).length_le
    split at h
    · obtain rfl := Option.some.inj h
      simpa using this
    · cases h
  · cases h

/-- What holds of each recogniser holds of all. -/
theorem forall_recognisers {P : Piece → (List Char → Option Nat) → Prop} :
    (∀ f ∈ recognisers, P f.1 f.2) ↔ P (.token .comment) commentLength? ∧
      P (.token .rawString) rawStringLength? ∧ P (.token .string) (quotedLength? '"') ∧
      P (.token .char) (quotedLength? '\'') ∧ P (.token .number) numberLength? ∧
      P (.token .ident) identLength? ∧ P (.token .punct) punctLength? ∧
      P .blanks blanksLength? := by
  simp only [recognisers, List.forall_mem_cons, List.not_mem_nil, false_implies, implies_true,
    and_true]

/-- A recogniser takes a character, and no more than there are. -/
theorem bounds_of_recogniser (s : List Char) :
    ∀ f ∈ recognisers, ∀ n, f.2 s = some n → 0 < n ∧ n ≤ s.length := by
  refine (forall_recognisers (P := fun _ f => ∀ n, f s = some n → 0 < n ∧ n ≤ s.length)).2
    ⟨fun n h => bounds_of_commentLength? h, fun n h => ⟨pos_of_bind (by decide) h, ?_⟩,
      fun n h => ⟨pos_of_bind (by decide) h, ?_⟩, fun n h => ⟨pos_of_bind (by decide) h, ?_⟩,
      fun n h => bounds_of_numberLength? h, fun n h => bounds_of_identLength? h,
      fun n h => bounds_of_punctLength? h, fun n h => bounds_of_blanksLength? h⟩
  · exact local_rawStringLength?.le_length h
  · exact (local_quotedLength? (by decide)).le_length h
  · exact (local_quotedLength? (by decide)).le_length h

/-- A piece has a character, and no more than the text has. -/
theorem bounds_of_piece {s : List Char} {p : Piece} {n : Nat} (hs : s ≠ []) (h : piece s = (p, n)) :
    0 < n ∧ n ≤ s.length := by
  rcases exists_of_piece h with ⟨f, hf, hn⟩ | ⟨-, rfl⟩
  · exact bounds_of_recogniser s (p, f) hf n hn
  · exact ⟨Nat.one_pos, List.length_pos_iff.2 hs⟩

end Monomorph.Lexer
