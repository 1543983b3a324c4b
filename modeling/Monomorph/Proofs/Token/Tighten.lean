import Monomorph.Proofs.Text.Tighten
import Monomorph.Proofs.Token.Opening
import Monomorph.Proofs.Token.Stretch

/-!
Tokens of a tightened text. What stands at the head of a tightened text is recognised as what stood at
the head of the text, with two exceptions: a line comment goes on to the end, because a tightened text
is one line, and a quote that was not closed in its line may be closed now.
-/

namespace Monomorph.Lexer

open Text

/-- Of the tightened text the recogniser takes what it takes of the text, tightened. -/
def Tightens (f : List Char → Option Nat) (s : List Char) : Prop :=
  f (tighten s) = (f s).map fun n => (tighten (s.take n)).length

variable {c : Char} {s w r m : List Char} {n : Nat} {p : Piece}

theorem not_isWord_of_isBlank (h : isBlank c = true) : isWord c = false := by
  have hall : ∀ n ∈ blankPoints, isWord (Char.ofNat n) = false := by decide +kernel
  have hc := hall c.toNat (mem_blankPoints h)
  rwa [Char.ofNat_toNat] at hc

/-- What is blank is no other character. -/
theorem ne_of_isBlank {d : Char} (h : isBlank c = true) (hd : isBlank d = false) : c ≠ d := by
  rintro rfl
  rw [hd] at h
  cases h

theorem not_isNumberPart_of_isBlank (h : isBlank c = true) : isNumberPart c = false := by
  have hdot : c ≠ '.' := ne_of_isBlank h (by decide)
  have hquote : c ≠ '\'' := ne_of_isBlank h (by decide)
  simp [isNumberPart, not_isWord_of_isBlank h, hdot, hquote]

theorem not_isSign_of_isBlank (h : isBlank c = true) : isSign c = false := by
  have hplus : c ≠ '+' := ne_of_isBlank h (by decide)
  have hminus : c ≠ '-' := ne_of_isBlank h (by decide)
  simp [isSign, hplus, hminus]

theorem not_isBlank_of {q : Char → Bool} (hq : ∀ c, isBlank c = true → q c = false)
    (h : q c = true) : isBlank c = false := by
  rw [Bool.eq_false_iff]
  intro hblank
  rw [hq c hblank] at h
  cases h

/-! ### Words, numbers and signs -/

/-- Of both texts the recogniser takes the same characters, and none of them is a blank. -/
structure TakesSolid (f : List Char → Option Nat) (s : List Char) : Prop where
  same : f (tighten s) = f s
  solid : ∀ n, f s = some n → ∀ c ∈ s.take n, isBlank c = false

theorem TakesSolid.tightens {f : List Char → Option Nat} (h : TakesSolid f s)
    (hle : ∀ n, f s = some n → n ≤ s.length) : Tightens f s := by
  rw [Tightens, h.same]
  cases hf : f s with
  | none => rfl
  | some n =>
    rw [Option.map_some, tighten_of_solid (h.solid n hf), List.length_take_of_le (hle n hf)]

/-- A recogniser that takes nothing at a blank takes nothing at a run of blanks. -/
theorem TakesSolid.of_isBlank {f : List Char → Option Nat}
    (hf : ∀ b t, isBlank b = true → f (b :: t) = none) (hc : isBlank c = true) (s : List Char) :
    TakesSolid f (c :: s) := by
  refine ⟨?_, fun n hn => ?_⟩
  · rw [tighten_run hc, hf ' ' _ isBlank_space, hf c s hc]
  · rw [hf c s hc] at hn
    cases hn

/-- One character that is no blank, and more of them behind it under some condition. -/
theorem TakesSolid.cons {f : List Char → Option Nat} {q : List Char → Bool} {k : List Char → Nat}
    (hc : isBlank c = false) (hf : ∀ t, f (c :: t) = if q t then some (k t + 1) else none)
    (hq : q (tighten s) = q s)
    (hk : q s = true → k (tighten s) = k s ∧ ∀ d ∈ s.take (k s), isBlank d = false) :
    TakesSolid f (c :: s) := by
  cases hs : q s with
  | false =>
    have hnone : f (c :: s) = none := by rw [hf, hs, if_neg (by decide)]
    refine ⟨?_, fun n hn => ?_⟩
    · rw [tighten_solid hc, hf, hq, hs, if_neg (by decide), hnone]
    · rw [hnone] at hn
      cases hn
  | true =>
    obtain ⟨hlen, hsolid⟩ := hk hs
    have hsome : f (c :: s) = some (k s + 1) := by rw [hf, hs, if_pos rfl]
    refine ⟨?_, fun n hn => ?_⟩
    · rw [tighten_solid hc, hf, hq, hs, if_pos rfl, hlen, hsome]
    · obtain rfl := Option.some.inj (hsome.symm.trans hn)
      rw [List.take_succ_cons]
      exact List.forall_mem_cons.2 ⟨hc, hsolid⟩

/-- The rest of a number goes on as far as before, and over no blank. -/
def KeepsNumber (s : List Char) : Prop :=
  numberTailLength (tighten s) = numberTailLength s ∧
    ∀ c ∈ s.take (numberTailLength s), isBlank c = false

theorem KeepsNumber.cons (c : Char) (h : KeepsNumber s) (htail : KeepsNumber s.tail) :
    KeepsNumber (c :: s) := by
  have hsigns := any_head?_tighten (fun c => not_isSign_of_isBlank) s
  cases hc : isBlank c with
  | true =>
    have hzero : ∀ {b : Char} (t : List Char), isBlank b = true → numberTailLength (b :: t) = 0 :=
      fun t hb => numberTailLength_eq_zero.2 (by simpa using not_isNumberPart_of_isBlank hb)
    refine ⟨?_, by simp [hzero s hc]⟩
    rw [tighten_run hc, hzero _ isBlank_space, hzero s hc]
  | false =>
    rw [KeepsNumber, tighten_solid hc, numberTailLength_cons, numberTailLength_cons, hsigns]
    split
    · next hexponent =>
      -- the sign behind the exponent is no blank, so it is the next character still
      cases s with
      | nil => simp at hexponent
      | cons d s =>
        have hd : isBlank d = false :=
          not_isBlank_of (fun c => not_isSign_of_isBlank) (Bool.and_eq_true_iff.1 hexponent).2
        obtain ⟨hlen, hsolid⟩ := htail
        rw [tighten_solid hd, List.tail_cons, List.tail_cons, List.take_succ_cons,
          List.take_succ_cons]
        exact ⟨congrArg (· + 2) hlen,
          List.forall_mem_cons.2 ⟨hc, List.forall_mem_cons.2 ⟨hd, hsolid⟩⟩⟩
    · split
      · obtain ⟨hlen, hsolid⟩ := h
        rw [List.take_succ_cons]
        exact ⟨congrArg (· + 1) hlen, List.forall_mem_cons.2 ⟨hc, hsolid⟩⟩
      · exact ⟨rfl, by simp⟩

theorem keepsNumber (s : List Char) : KeepsNumber s := by
  have hnil : KeepsNumber [] := ⟨rfl, by simp⟩
  induction s using List.twoStepInduction with
  | nil => exact hnil
  | singleton c => exact hnil.cons c hnil
  | cons_cons c d s ih ih' => exact (ih' d).cons c ih

theorem takesSolid_numberLength? (s : List Char) : TakesSolid numberLength? s := by
  have hdecimal : ∀ c, isBlank c = true → isDecimal c = false := fun c hc => (unlike_of_isBlank hc).1
  cases s with
  | nil => exact ⟨by rw [tighten_nil], by simp⟩
  | cons c s =>
    cases hc : isBlank c with
    | true =>
      refine .of_isBlank (fun b t hb => ?_) hc s
      rw [numberLength?_cons (ne_of_isBlank hb (by decide)), hdecimal b hb, if_neg (by decide)]
    | false =>
      rcases eq_or_ne c '.' with rfl | hdot
      · have hlen : ∀ t, numberLength? ('.' :: t) =
            if t.head?.any isDecimal then some (numberTailLength t.tail + 1 + 1) else none := by
          have hdigit : isDecimal '.' = false := by decide
          intro t
          cases t with
          | nil => simp [numberLength?, hdigit]
          | cons d t => rfl
        refine .cons hc hlen (any_head?_tighten hdecimal s) fun hdigit => ?_
        cases s with
        | nil => cases hdigit
        | cons d s =>
          have hd : isBlank d = false := not_isBlank_of hdecimal hdigit
          obtain ⟨hlen, hsolid⟩ := keepsNumber s
          rw [tighten_solid hd, List.tail_cons, List.tail_cons, List.take_succ_cons]
          exact ⟨congrArg (· + 1) hlen, List.forall_mem_cons.2 ⟨hd, hsolid⟩⟩
      · exact .cons hc (numberLength?_cons hdot) rfl fun _ => keepsNumber s

theorem takesSolid_identLength? (s : List Char) : TakesSolid identLength? s := by
  have hword : ∀ c, isBlank c = true → isWord c = false := fun c => not_isWord_of_isBlank
  cases s with
  | nil => exact ⟨by rw [tighten_nil], by simp⟩
  | cons c s =>
    cases hc : isBlank c with
    | true =>
      refine .of_isBlank (fun b t hb => ?_) hc s
      rw [identLength?, (unlike_of_isBlank hb).2.1, if_neg (by decide)]
    | false =>
      have hlen : ∀ t, identLength? (c :: t) =
          if isAsciiStart c then some ((t.takeWhile isWord).length + 1) else none := fun _ => rfl
      refine .cons hc hlen rfl fun _ => ⟨by rw [takeWhile_tighten hword], fun d hd => ?_⟩
      rw [← List.prefix_iff_eq_take.1 (List.takeWhile_prefix isWord)] at hd
      exact not_isBlank_of hword (List.all_eq_true.1 List.all_takeWhile d hd)

theorem takesSolid_punctLength? (s : List Char) : TakesSolid punctLength? s := by
  cases s with
  | nil => exact ⟨by rw [tighten_nil], by simp⟩
  | cons c s =>
    cases hc : isBlank c with
    | true =>
      refine .of_isBlank (fun b t hb => ?_) hc s
      rw [punctLength?_cons (ne_of_isBlank hb (by decide)) (ne_of_isBlank hb (by decide)), hb,
        Bool.true_or, if_pos rfl]
    | false =>
      have hsign : ∀ {d : Char}, isBlank d = false →
          (∀ t, punctLength? (c :: t) = if t.head? = some d then some 2 else some 1) →
          TakesSolid punctLength? (c :: s) := by
        intro d hd hlen
        have hnext := any_head?_tighten (q := (· == d))
          (fun b hb => beq_eq_false_iff_ne.2 (ne_of_isBlank hb hd)) s
        have hlen' : ∀ t, punctLength? (c :: t) =
            if true then some ((if t.head?.any (· == d) then 1 else 0) + 1) else none := by
          intro t
          rw [hlen t]
          cases t with
          | nil => rfl
          | cons b t => by_cases hb : b = d <;> simp [hb]
        refine .cons hc hlen' rfl fun _ => ⟨by rw [hnext], ?_⟩
        cases s with
        | nil => simp
        | cons b s =>
          split
          · next hb => simpa [beq_iff_eq.1 hb] using hd
          · simp
      rcases eq_or_ne c ':' with rfl | hscope
      · exact hsign (by decide) punctLength?_scope
      · rcases eq_or_ne c '-' with rfl | harrow
        · exact hsign (by decide) punctLength?_arrow
        · have hlen : ∀ t, punctLength? (c :: t) = if !isWord c then some (0 + 1) else none := by
            intro t
            rw [punctLength?_cons hscope harrow, hc, Bool.false_or]
            cases isWord c <;> rfl
          exact .cons hc hlen rfl fun _ => ⟨rfl, by simp⟩

/-! ### Literals -/

theorem through?_cons_of_not (h : ¬ m <+: c :: s) :
    through? m (c :: s) = (through? m s).map (· + 1) := by
  rw [through?, if_neg (mt List.isPrefixOf_iff_prefix.1 h)]

theorem pos_of_through? (hne : m ≠ []) (h : through? m s = some n) : 0 < n := by
  obtain ⟨w, t, -, rfl, hclose, -⟩ := exists_takes_of_through? h
  have := hclose.length_le
  have := List.length_pos_iff.2 hne
  omega

/-- A mark without blanks is found in the tightened text where it stood in the text. -/
theorem tightens_through? (hne : m ≠ []) (hm : ∀ c ∈ m, isBlank c = false) (s : List Char) :
    Tightens (through? m) s := by
  unfold Tightens
  induction s with
  | nil =>
    have hnone : through? m [] = none := by
      rw [through?, if_neg]
      rw [List.isPrefixOf_iff_prefix, List.prefix_nil]
      exact hne
    rw [tighten_nil, hnone, Option.map_none]
  | cons c s ih =>
    by_cases hhead : m <+: c :: s
    · rw [through?_eq_length ((prefix_tighten_iff hm).2 hhead), through?_eq_length hhead,
        Option.map_some, ← List.prefix_iff_eq_take.1 hhead, tighten_of_solid hm]
    · have hlater : ¬ m <+: tighten (c :: s) := mt (prefix_tighten_iff hm).1 hhead
      rw [through?_cons_of_not hhead, Option.map_map]
      cases hc : isBlank c with
      | false =>
        rw [tighten_solid hc] at hlater ⊢
        rw [through?_cons_of_not hlater, ih, Option.map_map]
        refine Option.map_congr fun n _ => ?_
        simp [tighten_solid hc]
      | true =>
        by_cases hs : ∀ d ∈ s.head?, isBlank d = false
        · rw [tighten_blank hc hs] at hlater ⊢
          rw [through?_cons_of_not hlater, ih, Option.map_map]
          refine Option.map_congr fun n _ => ?_
          have htake : ∀ d ∈ (s.take n).head?, isBlank d = false := fun d hd => by
            rw [List.head?_take] at hd
            split at hd
            · cases hd
            · exact hs d hd
          simp [tighten_blank hc htake]
        · cases s with
          | nil => simp at hs
          | cons d s =>
            have hd : isBlank d = true := by simpa using hs
            rw [tighten_blanks hc hd, ih]
            refine Option.map_congr fun n hn => ?_
            -- the mark has a character, so the run of blanks is the head of what is taken
            obtain ⟨k, rfl⟩ := Nat.exists_eq_add_one.2 (pos_of_through? hne hn)
            simp [tighten_blanks hc hd]

theorem openerLength?_tighten {mark : List Char} (hmark : mark ∈ marks) (s : List Char) :
    openerLength? mark (tighten s) = openerLength? mark s := by
  have hsolid : ∀ mark ∈ marks, ∀ e ∈ encodings, ∀ c ∈ e ++ mark, isBlank c = false := by decide
  refine Option.ext fun k => ?_
  rw [openerLength?_eq_some_iff hmark, openerLength?_eq_some_iff hmark]
  refine exists_congr fun e => and_congr_right fun he => ?_
  rw [prefix_tighten_iff (hsolid mark hmark e he)]

/-- A literal is tightened behind its opening mark. -/
theorem tightens_literal {mark : List Char} {g : List Char → Option Nat} (hmark : mark ∈ marks)
    (hg : ∀ e ∈ encodings, ∀ r, s = e ++ mark ++ r → Tightens g r) :
    Tightens (fun s => (openerLength? mark s).bind fun k => (g (s.drop k)).map (· + k)) s := by
  have hsolid : ∀ mark ∈ marks, ∀ e ∈ encodings, ∀ c ∈ e ++ mark, isBlank c = false := by decide
  unfold Tightens
  dsimp only
  rw [openerLength?_tighten hmark]
  cases hopen : openerLength? mark s with
  | none => rfl
  | some k =>
    obtain ⟨e, he, ⟨r, rfl⟩, rfl⟩ := exists_of_openerLength? hopen
    have hchars := hsolid mark hmark e he
    rw [Option.bind_some, Option.bind_some, tighten_append_of_solid hchars, ← List.length_append,
      List.drop_left, List.drop_left, hg e he r rfl, Option.map_map, Option.map_map]
    refine Option.map_congr fun n _ => ?_
    rw [Function.comp_apply, Function.comp_apply, Nat.add_comm n, List.take_length_add_append,
      tighten_append_of_solid hchars]
    simp only [List.length_append]
    omega

theorem exists_of_tighten_eq {r : List Char} (hw : ∀ c ∈ w, isBlank c = false)
    (h : tighten s = w ++ r) : ∃ t, s = w ++ t ∧ r = tighten t := by
  obtain ⟨t, rfl⟩ := (prefix_tighten_iff hw).1 ⟨r, h.symm⟩
  rw [tighten_append_of_solid hw] at h
  exact ⟨t, rfl, (List.append_cancel_left h).symm⟩

theorem tightens_rawTailLength? (s : List Char) : Tightens rawTailLength? s := by
  have hopen : ∀ d : List Char, (∀ c ∈ d, isDelimiterChar c = true) →
      ∀ c ∈ d ++ ['('], isBlank c = false := fun d hd c hc => by
    rcases List.mem_append.1 hc with hc | hc
    · have hchar := hd c hc
      simp only [isDelimiterChar, Bool.not_eq_true', Bool.or_eq_false_iff] at hchar
      exact hchar.2
    · obtain rfl := List.mem_singleton.1 hc
      decide
  have hclose : ∀ {d : List Char}, (∀ c ∈ d, isDelimiterChar c = true) → ∀ body : List Char,
      Tightens (through? ([')'] ++ d ++ ['"'])) body := fun {d} hd body =>
    tightens_through? (by simp) (isSolid_of_delimiter hd).2 body
  unfold Tightens
  cases htail : rawTailLength? s with
  | some n =>
    obtain ⟨d, body, m, rfl, hd, hshort, hm, rfl⟩ := rawTailLength?_eq_some_iff.1 htail
    have hfound := hclose hd body
    rw [Tightens, hm, Option.map_some] at hfound
    rw [Option.map_some]
    refine rawTailLength?_eq_some_iff.2 ⟨d, tighten body, _, ?_, hd, hshort, hfound, ?_⟩
    · have hsplit := tighten_append_of_solid (hopen d hd) body
      simpa using hsplit
    · have htake : (d ++ '(' :: body).take (m + d.length + 1) = d ++ ['('] ++ body.take m := by
        have hlen : m + d.length + 1 = (d ++ ['(']).length + m := by simp; omega
        have hsplit : d ++ '(' :: body = d ++ ['('] ++ body := by simp
        rw [hlen, hsplit, List.take_length_add_append]
      rw [htake, tighten_append_of_solid (hopen d hd)]
      simp
      omega
  | none =>
    by_contra hsome
    obtain ⟨n, hn⟩ := Option.ne_none_iff_exists'.1 hsome
    obtain ⟨d, body, m, heq, hd, hshort, hm, rfl⟩ := rawTailLength?_eq_some_iff.1 hn
    obtain ⟨t, rfl, rfl⟩ := exists_of_tighten_eq (hopen d hd) (r := body) (by simpa using heq)
    have hfound := hclose hd t
    rw [Tightens, hm] at hfound
    obtain ⟨k, hk, -⟩ := Option.map_eq_some_iff.1 hfound.symm
    have hraw : rawTailLength? (d ++ ['('] ++ t) = some (k + d.length + 1) :=
      rawTailLength?_eq_some_iff.2 ⟨d, t, k, by simp, hd, hshort, hk, rfl⟩
    rw [htail] at hraw
    cases hraw

theorem tightens_rawStringLength? (s : List Char) : Tightens rawStringLength? s :=
  tightens_literal (by decide) fun _ _ r _ => tightens_rawTailLength? r

/-- Outside a literal a space is passed over, and an escaped one like any other. -/
theorem quotedTailLength?_space {quote : Char} (hquote : quote ∈ quotes) (r : List Char) :
    quotedTailLength? quote (' ' :: r) = (quotedTailLength? quote r).map (· + 1) ∧
      quotedTailLength? quote ('\\' :: ' ' :: r) =
        (quotedTailLength? quote (' ' :: r)).map (· + 1) := by
  have hne : ∀ quote ∈ quotes, ' ' ≠ quote := by decide
  have hplain : quotedTailLength? quote (' ' :: r) = (quotedTailLength? quote r).map (· + 1) := by
    rw [quotedTailLength?_cons quote (by decide), if_neg (hne quote hquote), if_neg (by decide)]
  refine ⟨hplain, ?_⟩
  rw [quotedTailLength?_escape, if_neg (by decide), hplain, Option.map_map]
  rfl

/-- A blank in front of the rest of a literal is part of it, escaped or not. -/
theorem quotedTailLength?_tighten_blank {quote : Char} {t : List Char} (hquote : quote ∈ quotes)
    (hc : isBlank c = true) (hw : w ≠ [])
    (hr : quotedTailLength? quote (tighten (w ++ t)) = some (tighten w).length) :
    quotedTailLength? quote (tighten (c :: (w ++ t))) = some (tighten (c :: w)).length ∧
      quotedTailLength? quote ('\\' :: tighten (c :: (w ++ t))) =
        some ((tighten (c :: w)).length + 1) := by
  obtain ⟨d, w, rfl⟩ := List.exists_cons_of_ne_nil hw
  cases hd : isBlank d with
  | false =>
    have hhead : ∀ {v : List Char}, ∀ b ∈ (d :: v).head?, isBlank b = false := by simpa using hd
    obtain ⟨hplain, hescaped⟩ := quotedTailLength?_space hquote (tighten (d :: w ++ t))
    rw [List.cons_append, tighten_blank hc hhead, tighten_blank hc hhead, ← List.cons_append,
      hescaped, hplain, hr]
    exact ⟨rfl, rfl⟩
  | true =>
    rw [List.cons_append, tighten_blanks hc hd, tighten_blanks hc hd, ← List.cons_append]
    refine ⟨hr, ?_⟩
    rw [List.cons_append, tighten_run hd] at hr ⊢
    rw [(quotedTailLength?_space hquote _).2, hr, Option.map_some]

/-- A literal that closes still closes at the same quote. -/
theorem exists_of_quotedTailLength? {quote : Char} (hquote : quote ∈ quotes)
    (h : quotedTailLength? quote s = some n) :
    ∃ w t, s = w ++ t ∧ w.length = n ∧ w.getLast? = some quote ∧
      quotedTailLength? quote (tighten (w ++ t)) = some (tighten w).length := by
  have hsigns : ∀ quote ∈ quotes, quote ≠ '\\' ∧ isBlank quote = false := by decide
  have hslash : isBlank '\\' = false := by decide
  obtain ⟨hescape, hsolid⟩ := hsigns quote hquote
  fun_induction quotedTailLength? quote s generalizing n with
  | case1 => cases h
  | case2 => cases h
  | case3 c r hc ih =>
    obtain ⟨m, hm, rfl⟩ := Option.map_eq_some_iff.1 h
    obtain ⟨w, t, rfl, rfl, hlast, htail⟩ := ih hm
    have hne : w ≠ [] := by
      rintro rfl
      cases hlast
    refine ⟨'\\' :: c :: w, t, rfl, rfl, ?_, ?_⟩
    · simp [List.getLast?_cons, hlast]
    · rw [List.cons_append, List.cons_append, tighten_solid hslash, tighten_solid hslash]
      cases hblank : isBlank c with
      | true => exact (quotedTailLength?_tighten_blank hquote hblank hne htail).2
      | false =>
        have hc : c ≠ '\n' := by simpa using hc
        rw [tighten_solid hblank, tighten_solid hblank, quotedTailLength?_escape, if_neg hc, htail]
        rfl
  | case4 c r _ hend =>
    obtain rfl : c = quote := by simpa using hend
    obtain rfl := Option.some.inj h
    refine ⟨[c], r, rfl, rfl, rfl, ?_⟩
    rw [List.singleton_append, tighten_solid hsolid, tighten_solid hsolid,
      quotedTailLength?_cons c hescape, if_pos rfl]
    rfl
  | case5 => cases h
  | case6 c r _ hother hplain ih =>
    obtain ⟨m, hm, rfl⟩ := Option.map_eq_some_iff.1 h
    obtain ⟨w, t, rfl, rfl, hlast, htail⟩ := ih hm
    have hne : w ≠ [] := by
      rintro rfl
      cases hlast
    refine ⟨c :: w, t, rfl, rfl, ?_, ?_⟩
    · simp [List.getLast?_cons, hlast]
    · rw [List.cons_append]
      cases hblank : isBlank c with
      | true => exact (quotedTailLength?_tighten_blank hquote hblank hne htail).1
      | false =>
        have hother : c ≠ quote := by simpa using hother
        obtain ⟨hplain, hc⟩ : c ≠ '\\' ∧ c ≠ '\n' := by simpa using hplain
        rw [tighten_solid hblank, tighten_solid hblank, quotedTailLength?_cons quote hplain,
          if_neg hother, if_neg hc, htail]
        rfl

/-- A quoted literal stays one, tightened. Where there was none there may be one, since it may close
in a later line. -/
theorem tightens_quotedLength? {quote : Char} (hquote : quote ∈ quotes)
    (hnone : quotedLength? quote s = none → quotedLength? quote (tighten s) = none) :
    Tightens (quotedLength? quote) s := by
  cases hs : quotedLength? quote s with
  | none => rw [Tightens, hnone hs, hs, Option.map_none]
  | some n =>
    refine tightens_literal (mark_of_quote quote hquote).1 fun e he r hr => ?_
    obtain ⟨e', he', r', m, heq, hm, -⟩ := exists_of_literal hs
    obtain rfl : e = e' := (eq_of_mem_encodings (mark_of_quote quote hquote).1
      (mark_of_quote quote hquote).1 he he' ⟨r, hr.symm⟩ ⟨r', heq.symm⟩).1
    obtain rfl : r = r' := List.append_cancel_left (hr.symm.trans heq)
    obtain ⟨w, t, rfl, rfl, -, htail⟩ := exists_of_quotedTailLength? hquote hm
    rw [Tightens, hm, htail, Option.map_some, List.take_left]

/-! ### Comments and blanks -/

theorem tightens_commentLength? (hline : ¬ ['/', '/'] <+: s) : Tightens commentLength? s := by
  have hmarks : ∀ m ∈ [['/', '/'], ['/', '*']], ∀ c ∈ m, isBlank c = false := by decide
  have hslashes : isBlank '/' = false ∧ isBlank '*' = false := by decide
  have hiff : ∀ s, (∃ n, commentLength? s = some n) ↔ ['/', '/'] <+: s ∨ ['/', '*'] <+: s := by
    intro s
    constructor
    · rintro ⟨n, hn⟩
      rcases commentLength?_eq_some hn with ⟨r, rfl, -⟩ | ⟨r, rfl, -⟩
      · exact .inl ⟨r, rfl⟩
      · exact .inr ⟨r, rfl⟩
    · rintro (⟨r, rfl⟩ | ⟨r, rfl⟩)
      · exact ⟨_, rfl⟩
      · exact ⟨_, rfl⟩
  by_cases hblock : ['/', '*'] <+: s
  · obtain ⟨r, rfl⟩ := hblock
    have hfound := tightens_through? (m := ['*', '/']) (by decide) (by decide) r
    unfold Tightens at hfound ⊢
    rw [List.cons_append, List.singleton_append, tighten_solid hslashes.1, tighten_solid hslashes.2,
      commentLength?, commentLength?, hfound, Option.map_some, List.take_succ_cons,
      List.take_succ_cons, tighten_solid hslashes.1, tighten_solid hslashes.2]
    cases through? ['*', '/'] r with
    | none => simp
    | some m => rfl
  · have hnone : commentLength? s = none := by
      by_contra hsome
      exact ((hiff s).1 (Option.ne_none_iff_exists'.1 hsome)).elim hline hblock
    have hnone' : commentLength? (tighten s) = none := by
      by_contra hsome
      rcases (hiff (tighten s)).1 (Option.ne_none_iff_exists'.1 hsome) with hmark | hmark
      · exact hline ((prefix_tighten_iff (hmarks _ (by simp))).1 hmark)
      · exact hblock ((prefix_tighten_iff (hmarks _ (by simp))).1 hmark)
    rw [Tightens, hnone, hnone', Option.map_none]

theorem tightens_blanksLength? (s : List Char) : Tightens blanksLength? s := by
  unfold Tightens
  cases s with
  | nil => rw [tighten_nil]; rfl
  | cons c s =>
    cases hc : isBlank c with
    | false =>
      rw [tighten_solid hc, blanksLength?, blanksLength?, hc]
      rfl
    | true =>
      -- behind the run there is no further blank, so the space is all that is taken
      have hend : (tighten (s.dropWhile isBlank)).takeWhile isBlank = [] := by
        cases hrest : s.dropWhile isBlank with
        | nil => rfl
        | cons d u =>
          have hnot := List.head?_dropWhile_not isBlank s
          rw [hrest] at hnot
          have hd : isBlank d = false := by simpa using hnot
          rw [tighten_solid hd, List.takeWhile_cons_of_neg (by simp [hd])]
      have hrun : (s.takeWhile isBlank).dropWhile isBlank = [] := by
        have hall : ∀ d ∈ s.takeWhile isBlank, isBlank d = true :=
          List.all_eq_true.1 List.all_takeWhile
        rw [← List.append_nil (s.takeWhile isBlank), List.dropWhile_append_of_pos hall,
          List.dropWhile_nil]
      rw [tighten_run hc, blanksLength?, blanksLength?, if_pos isBlank_space, if_pos hc, hend,
        Option.map_some, List.take_succ_cons,
        ← List.prefix_iff_eq_take.1 (List.takeWhile_prefix isBlank), tighten_run hc, hrun]
      rfl

/-! ### Pieces -/

/-- No comment goes to the end of its line, and no literal closes that was open. -/
structure Steady (s : List Char) : Prop where
  noLine : ¬ ['/', '/'] <+: s
  noQuote : ∀ quote ∈ quotes, quotedLength? quote s = none →
    quotedLength? quote (tighten s) = none

theorem Steady.tightens (h : Steady s) : ∀ f ∈ recognisers, Tightens f.2 s :=
  (forall_recognisers (P := fun _ f => Tightens f s)).2
    ⟨tightens_commentLength? h.noLine, tightens_rawStringLength? s,
      tightens_quotedLength? (by decide) (h.noQuote '"' (by decide)),
      tightens_quotedLength? (by decide) (h.noQuote '\'' (by decide)),
      (takesSolid_numberLength? s).tightens fun _ hn => (bounds_of_numberLength? hn).2,
      (takesSolid_identLength? s).tightens fun _ hn => (bounds_of_identLength? hn).2,
      (takesSolid_punctLength? s).tightens fun _ hn => (bounds_of_punctLength? hn).2,
      tightens_blanksLength? s⟩

/-- The first piece of the tightened text is the first piece of the text, tightened. -/
theorem Steady.piece_tighten (h : Steady s) (hs : s ≠ []) :
    piece (tighten s) = ((piece s).1, (tighten (s.take (piece s).2)).length) := by
  rw [piece_eq_first, piece_eq_first]
  have hall := h.tightens
  generalize recognisers = fs at hall
  induction fs with
  | nil =>
    obtain ⟨c, s, rfl⟩ := List.exists_cons_of_ne_nil hs
    simp only [first_nil, List.take_succ_cons, List.take_zero]
    cases hc : isBlank c with
    | true => rw [tighten_run hc]; rfl
    | false => rw [tighten_solid hc]; rfl
  | cons f fs ih =>
    obtain ⟨hf, hfs⟩ := List.forall_mem_cons.1 hall
    rw [first_cons, first_cons, hf]
    cases f.2 s with
    | none => exact ih hfs
    | some n => rfl

/-- A quoted literal ends with its quote. -/
theorem quoted_last {quote : Char} (hquote : quote ∈ quotes)
    (h : quotedLength? quote (w ++ r) = some w.length) : w.getLast? = some quote := by
  obtain ⟨e, -, x, m, heq, hm, hlen⟩ := exists_of_literal h
  obtain ⟨v, t, rfl, rfl, hlast, -⟩ := exists_of_quotedTailLength? hquote hm
  rw [← List.append_assoc] at heq
  obtain ⟨rfl, -⟩ := List.append_inj heq (hlen.trans List.length_append.symm)
  rw [List.getLast?_append, hlast]
  rfl

/-- A run of blanks ends in front of another character. -/
theorem Cuts.not_isBlank_next (h : Cuts .blanks w r) : ∀ c ∈ r.head?, isBlank c = false := by
  obtain ⟨hne, hpiece⟩ := h
  obtain ⟨c, w, rfl⟩ := List.exists_cons_of_ne_nil hne
  have hc : isBlank c = true := (show Cuts .blanks (c :: w) r from ⟨hne, hpiece⟩).forall_isBlank c
    List.mem_cons_self
  rw [List.cons_append, piece_of_isBlank hc, List.length_cons] at hpiece
  exact (length_takeWhile_append_iff.1 (Nat.succ.inj (Prod.mk.inj hpiece).2)).2

/-- Numbers, words and signs hold no blank. -/
theorem Cuts.solid {kind : Token.Kind} (h : Cuts (.token kind) w r)
    (hkind : kind ∈ [.number, .ident, .punct]) : ∀ c ∈ w, isBlank c = false := by
  obtain ⟨f, hf, hlen⟩ := (exists_of_piece h.2).resolve_right (by simp)
  have htakes : TakesSolid f (w ++ r) := by
    simp only [List.mem_cons, List.not_mem_nil, or_false] at hkind
    rcases hkind with rfl | rfl | rfl
    · obtain rfl : f = numberLength? := by simpa [recognisers] using hf
      exact takesSolid_numberLength? _
    · obtain rfl : f = identLength? := by simpa [recognisers] using hf
      exact takesSolid_identLength? _
    · obtain rfl : f = punctLength? := by simpa [recognisers] using hf
      exact takesSolid_punctLength? _
  have hall := htakes.solid _ hlen
  rwa [List.take_left] at hall

/-- A token does not end in a blank. -/
theorem Cuts.not_isBlank_end {kind : Token.Kind} (h : Cuts (.token kind) w r)
    (hkind : kind ≠ .comment) : ∀ c ∈ w.getLast?, isBlank c = false := by
  obtain ⟨f, hf, hlen⟩ := (exists_of_piece h.2).resolve_right (by simp)
  have hlast : ∀ {c : Char}, w.getLast? = some c → isBlank c = false →
      ∀ c ∈ w.getLast?, isBlank c = false := fun {c} hc hsolid => by simpa [hc] using hsolid
  cases kind with
  | comment => exact absurd rfl hkind
  | number | ident | punct => exact fun c hc => h.solid (by decide) c (List.mem_of_getLast? hc)
  | rawString =>
    obtain rfl : f = rawStringLength? := by simpa [recognisers] using hf
    exact hlast (rawString_last hlen) (by decide)
  | string =>
    obtain rfl : f = quotedLength? '"' := by simpa [recognisers] using hf
    exact hlast (quoted_last (by decide) hlen) (by decide)
  | char =>
    obtain rfl : f = quotedLength? '\'' := by simpa [recognisers] using hf
    exact hlast (quoted_last (by decide) hlen) (by decide)

/-- No run of blanks goes over the end of a piece. -/
theorem Cuts.parted (h : Cuts p w r) (hline : ¬ ['/', '/'] <+: w) : Parted w r := by
  rcases exists_of_piece h.2 with ⟨f, hf, hlen⟩ | ⟨rfl, hlen⟩
  · cases p with
    | stray => simp [recognisers] at hf
    | blanks => exact .of_head h.not_isBlank_next w
    | token kind =>
      by_cases hkind : kind = .comment
      · subst hkind
        obtain rfl : f = commentLength? := by simpa [recognisers] using hf
        rcases eq_or_ne r [] with rfl | hr
        · exact .of_head (by simp) w
        · have hlast := blockComment_last hr hline hlen
          have hslash : isBlank '/' = false := by decide
          exact .of_last (by simpa [hlast] using hslash) r
      · exact .of_last (h.not_isBlank_end hkind) r
  · obtain ⟨c, rfl⟩ := List.length_eq_one_iff.1 hlen
    have hhead := h.not_isBlank_head (by simp)
    exact .of_last (by simpa using hhead) r

/-- The first piece and the rest are tightened one by one. -/
theorem Cuts.tightened (h : Cuts p w r) (hs : Steady (w ++ r)) :
    tighten (w ++ r) = tighten w ++ tighten r ∧ Cuts p (tighten w) (tighten r) := by
  have hline : ¬ ['/', '/'] <+: w := fun hw => hs.noLine (hw.trans (List.prefix_append w r))
  have hsplit := tighten_append (h.parted hline)
  refine ⟨hsplit, mt tighten_eq_nil.1 h.1, ?_⟩
  rw [← hsplit, hs.piece_tighten (by simp [h.1]), h.2, List.take_left]

end Monomorph.Lexer
