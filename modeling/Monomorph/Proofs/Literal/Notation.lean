import Monomorph.Literal.Default
import Monomorph.Proofs.Json.Quote
import Monomorph.Proofs.Literal.Quoted
import Monomorph.Proofs.StringLiteral.Encoding

/-!
The two notations of a text as default expressions. The interpreter reads an ordinary literal as the
text, or not at all. It reads a raw literal as a raw literal of its own, which has no delimiters: the
delimiters and the parentheses become part of the value, and the first quote of the text ends it.
-/

namespace Monomorph.Literal

open Text

variable {c : Char} {s v w x : List Char} {isRaw : Bool}

/-! ### Line ends -/

theorem unixNewlinesOf_cons (hc : c ≠ '\r') (s : List Char) :
    unixNewlinesOf (c :: s) = c :: unixNewlinesOf s := by
  rw [unixNewlinesOf]
  · simp [hc]
  · exact fun r hr => absurd hr hc

/-- Either of the other line ends becomes a newline. -/
theorem exists_unixNewlinesOf_return (s : List Char) :
    ∃ r, unixNewlinesOf ('\r' :: s) = '\n' :: r := by
  match s with
  | [] => exact ⟨[], rfl⟩
  | d :: s =>
    by_cases hd : d = '\n'
    · subst hd
      exact ⟨_, rfl⟩
    · rw [unixNewlinesOf]
      · exact ⟨_, rfl⟩
      · exact fun r _ hr => hd (List.cons.inj hr).1

theorem unixNewlinesOf_append (hw : '\r' ∉ w) (s : List Char) :
    unixNewlinesOf (w ++ s) = w ++ unixNewlinesOf s := by
  induction w with
  | nil => rfl
  | cons c w ih =>
    simp only [List.mem_cons, not_or] at hw
    rw [List.cons_append, unixNewlinesOf_cons (Ne.symm hw.1), ih hw.2, List.cons_append]

theorem unixNewlinesOf_eq_self (hs : '\r' ∉ s) : unixNewlinesOf s = s := by
  have hend := unixNewlinesOf_append hs []
  rwa [List.append_nil, unixNewlinesOf, List.append_nil] at hend

theorem not_mem_unixNewlinesOf (s : List Char) : '\r' ∉ unixNewlinesOf s := by
  fun_induction unixNewlinesOf s with
  | case1 => simp
  | case2 r ih => simp [ih]
  | case3 c r hnot ih =>
    rw [List.mem_cons, not_or]
    refine ⟨?_, ih⟩
    split
    · decide
    · next hc => exact fun heq => hc (by simp [← heq])

/-! ### Expressions that are read -/

theorem any_isNul : s.any (·.toNat = 0) = true ↔ '\x00' ∈ s := by
  rw [List.any_eq_true]
  constructor
  · rintro ⟨c, hc, hnul⟩
    obtain rfl : c = '\x00' := by
      rw [← Char.ofNat_toNat c, of_decide_eq_true hnul]
    exact hc
  · exact fun h => ⟨_, h, by decide⟩

/-- No expression has a NUL in it. -/
theorem read_of_nul (h : '\x00' ∈ s) : read s = .error .notLiteral := by
  rw [read, if_pos (any_isNul.2 h)]
  rfl

/-- Text that starts with a token is read from its tokens. -/
theorem read_cons (hc : startsToken c = true) (h : '\x00' ∉ c :: v) :
    read (c :: v) = ((·.1) <$> whole.run (tokens (c :: unixNewlinesOf v))) >>= fun e =>
      if maxHeight < e.height then .error .tooHigh else eval e := by
  have hany : ¬ (c :: v).any (·.toNat = 0) = true := any_isNul.not.2 h
  obtain ⟨hgap, -, -, hreturn, -⟩ := startsToken_iff.1 hc
  have hblank : (c == ' ' || c == '\t') = false := (Bool.or_eq_false_iff.1 hgap).1
  have hstart : (unixNewlinesOf (c :: v)).dropWhile (fun c => c == ' ' || c == '\t') =
      c :: unixNewlinesOf v := by
    rw [unixNewlinesOf_cons hreturn, List.dropWhile_cons_of_neg (by rw [hblank]; decide)]
  rw [read, if_neg hany, hstart]
  refine congrArg (_ >>= ·) (funext fun e => ?_)
  split <;> rfl

/-- Tokens that cannot be read are no literal. -/
theorem read_of_error (hc : startsToken c = true)
    (h : whole.run (tokens (c :: unixNewlinesOf v)) = .error .notLiteral) :
    read (c :: v) = .error .notLiteral := by
  by_cases hnul : '\x00' ∈ c :: v
  · exact read_of_nul hnul
  · rw [read_cons hc hnul, h]
    rfl

theorem read_of_bad (hc : startsToken c = true) (h : tokens (c :: unixNewlinesOf v) = [.bad]) :
    read (c :: v) = .error .notLiteral := by
  have hbad : whole.run [.bad] = .error .notLiteral := rfl
  exact read_of_error hc (by rw [h, hbad])

/-- A token alone that is read as a value. -/
theorem read_of_reads {t : Tok} {value : Literal} (hc : startsToken c = true) (h : '\x00' ∉ c :: v)
    (htokens : tokens (c :: unixNewlinesOf v) = [t]) (hreads : Reads t [] value whole) :
    read (c :: v) = .ok value := by
  have hlow : ¬ maxHeight < Expr.height (.value value) := by
    rw [Expr.height]
    decide
  rw [read_cons hc h, htokens, hreads]
  simp only [Functor.map, Except.map, bind, Except.bind, if_neg hlow, eval]

/-- A text alone is read as its value. -/
theorem read_of_text {p : List Nat} (hc : startsToken c = true) (h : '\x00' ∉ c :: v)
    (htokens : tokens (c :: unixNewlinesOf v) = [.text p]) : read (c :: v) = .ok (ofPoints p) :=
  read_of_reads hc h htokens (readsText_whole p)

/-- If the value is a text, it begins with the text in front. -/
theorem prefix_of_read {p : List Nat} {ts : List Tok} {t : String} (hc : startsToken c = true)
    (htokens : tokens (c :: unixNewlinesOf v) = .text p :: ts) (h : read (c :: v) = .ok (.text t)) :
    p.map Char.ofNat <+: t.toList := by
  by_cases hnul : '\x00' ∈ c :: v
  · rw [read_of_nul hnul] at h
    cases h
  · rw [read_cons hc hnul, htokens] at h
    cases hrun : whole.run (.text p :: ts) with
    | error fault => simp [hrun, Functor.map, Except.map, bind, Except.bind] at h
    | ok r =>
      obtain ⟨e, rest⟩ := r
      simp only [hrun, Functor.map, Except.map, bind, Except.bind] at h
      split at h
      · cases h
      · exact begins_whole p ts e rest hrun t h

/-! ### Texts as defaults -/

theorem trimBy_eq_self {p : Char → Bool} {d : Char} (hc : p c = false) (hd : p d = false)
    (v : List Char) : trimBy p (c :: (v ++ [d])) = c :: (v ++ [d]) := by
  have hlast : (c :: (v ++ [d])).reverse = d :: (v.reverse ++ [c]) := by simp
  rw [trimBy, List.dropWhile_cons_of_neg (by simp [hc]), hlast,
    List.dropWhile_cons_of_neg (by simp [hd]), ← hlast, List.reverse_reverse]

/-- A quote at the end is no suffix of a number. -/
theorem dropSuffix_eq_self (v : List Char) : dropSuffix (v ++ ['"']) = v ++ ['"'] := by
  have hlast : (v ++ ['"']).reverse = '"' :: v.reverse := by simp
  have hhead : ((v ++ ['"']).reverse.dropWhile isSuffixLetter).reverse = v ++ ['"'] := by
    rw [hlast, List.dropWhile_cons_of_neg (by decide), ← hlast, List.reverse_reverse]
  rw [dropSuffix, hhead, List.getLast?_concat]
  exact ite_self _

/-- What no blanks stand around and is no word with a plain meaning is read, without its suffix. -/
theorem ofDefault_of_trimmed (htrim : trimBy isBlank s = s)
    (hword : ∀ w ∈ plainWords, w.1.toList.head? ≠ s.head?) :
    ofDefault (String.ofList s) =
      match read (if startsHex s then s else dropSuffix s) with
      | .ok v => .ok (some v)
      | .error .notLiteral => .ok none
      | .error fault => .error fault := by
  have hnone : plainWords.lookup (String.ofList s) = none := by
    rw [List.lookup_eq_none_iff]
    intro w hw
    rw [bne_iff_ne]
    intro heq
    exact hword w hw (by rw [← heq, String.toList_ofList])
  rw [ofDefault, String.toList_ofList, htrim]
  split
  · next hsome =>
    rw [hnone] at hsome
    cases hsome
  · rfl

/-- What begins and ends like a literal is no word with a plain meaning, and is read as it is. -/
theorem ofDefault_eq (hc : c ∈ ['"', 'R']) (v : List Char) :
    ofDefault (String.ofList (c :: (v ++ ['"']))) =
      match read (c :: (v ++ ['"'])) with
      | .ok v => .ok (some v)
      | .error .notLiteral => .ok none
      | .error fault => .error fault := by
  have hplain : ∀ c ∈ ['"', 'R'], isBlank c = false ∧
      ∀ w ∈ plainWords, w.1.toList.head? ≠ some c := by decide
  obtain ⟨hblank, hwords⟩ := hplain c hc
  have hsuffix := dropSuffix_eq_self (c :: v)
  rw [List.cons_append] at hsuffix
  rw [ofDefault_of_trimmed (trimBy_eq_self hblank (by decide) v) hwords, hsuffix, ite_self]

/-! ### Ordinary literals -/

open StringLiteral

theorem inside_flatMap_escape (s : List Char) : Inside (s.flatMap escape) := by
  induction s with
  | nil => exact .nil
  | cons c s ih =>
    rw [List.flatMap_cons]
    rcases escape_cases c with ⟨d, heq, -, -⟩ | ⟨heq, hback, hquote, hline⟩
    · rw [heq]
      exact .escaped d ih
    · rw [heq]
      exact .plain (by simp [hback, hquote, hline]) ih

/-- A character that is no part of an escape is only written for itself. -/
theorem not_mem_flatMap_escape (hback : c ≠ '\\') (hc : unescapeChar c = c) (h : c ∉ s) :
    c ∉ s.flatMap escape := by
  rw [List.mem_flatMap]
  rintro ⟨d, hd, hmem⟩
  rcases escape_cases d with ⟨e, heq, -, he⟩ | ⟨heq, -, -, -⟩
  · rw [heq] at hmem
    simp only [List.mem_cons, List.not_mem_nil, or_false] at hmem
    rcases hmem with hmem | rfl
    · exact hback hmem
    · exact h (hc.symm.trans he ▸ hd)
  · rw [heq, List.mem_singleton] at hmem
    exact h (hmem ▸ hd)

theorem return_not_mem_flatMap_escape (h : '\r' ∉ s) : '\r' ∉ s.flatMap escape :=
  not_mem_flatMap_escape (by decide) (by decide) h

theorem unescape?_cons (hc : c ≠ '\\') (s : List Char) :
    unescape? true 0 (c :: s) = (unescape? true 0 s).map (c.toNat :: ·) := by
  rw [unescape?, if_neg (by simpa using hc)]

/-- An escape of one letter. -/
theorem unescape?_backslash {points : List Nat} (h : escape? true (c :: s) = some (points, 1)) :
    unescape? true 0 ('\\' :: c :: s) = (unescape? true 0 s).map (points ++ ·) := by
  rw [unescape?, if_pos (by decide), h]
  simp only [Option.bind_eq_bind, Option.bind_some, unescape?]
  cases unescape? true 0 s <;> rfl

/-- Both sides take the escapes that are used for the same characters. -/
theorem unescape?_flatMap_escape (s : List Char) :
    unescape? true 0 (s.flatMap escape) = some (s.map Char.toNat) := by
  have hspecial : ∀ c ∈ ['\\', '"', '\n', '\t'], ∃ d, escape c = ['\\', d] ∧
      ∀ r, escape? true (d :: r) = some ([c.toNat], 1) :=
    List.forall_mem_cons.2 ⟨⟨_, rfl, fun _ => rfl⟩, List.forall_mem_cons.2 ⟨⟨_, rfl, fun _ => rfl⟩,
      List.forall_mem_cons.2 ⟨⟨_, rfl, fun _ => rfl⟩, List.forall_mem_singleton.2
        ⟨_, rfl, fun _ => rfl⟩⟩⟩⟩
  induction s with
  | nil => rfl
  | cons c s ih =>
    rw [List.flatMap_cons, List.map_cons]
    by_cases hc : c ∈ ['\\', '"', '\n', '\t']
    · obtain ⟨d, heq, hescape⟩ := hspecial c hc
      rw [heq, List.cons_append, List.singleton_append, unescape?_backslash (hescape _), ih]
      rfl
    · simp only [List.mem_cons, List.not_mem_nil, or_false, not_or] at hc
      have heq : escape c = [c] := by simp [escape, hc]
      rw [heq, List.singleton_append, unescape?_cons hc.1, ih]
      rfl

/-- What is inside does not open three quotes. -/
theorem Inside.append_ne (h : Inside w) (hs : ∀ x, s ≠ '"' :: '"' :: x) (x : List Char) :
    w ++ s ≠ '"' :: '"' :: x := by
  intro heq
  cases h with
  | nil => exact hs x heq
  | escaped c _ => exact absurd (List.cons.inj heq).1 (by decide)
  | plain hc _ => exact hc (by simp [(List.cons.inj heq).1])

/-- The points of a text are its characters. -/
theorem ofPoints_toNat (s : List Char) : ofPoints (s.map Char.toNat) = .text (String.ofList s) := by
  rw [ofPoints, Json.any_isSurrogate_toNat, if_neg (by simp), List.map_map]
  simp [Function.comp_def]

/-- An ordinary literal with a carriage return in it is broken off there. -/
theorem read_quotedOf_of_return (h : '\r' ∈ s) : read (quotedOf s) = .error .notLiteral := by
  obtain ⟨a, b, rfl, ha⟩ := List.eq_append_cons_of_mem h
  obtain ⟨r, hr⟩ := exists_unixNewlinesOf_return (b.flatMap escape ++ ['"'])
  have hreturn : escape '\r' = ['\r'] := by decide
  have hlines : unixNewlinesOf ((a ++ '\r' :: b).flatMap escape ++ ['"']) =
      a.flatMap escape ++ '\n' :: r := by
    rw [List.flatMap_append, List.flatMap_cons, hreturn, List.append_assoc, List.append_assoc,
      unixNewlinesOf_append (return_not_mem_flatMap_escape ha), List.singleton_append, hr]
  have hunclosed : upToQuote .double (a.flatMap escape ++ '\n' :: r) = none := by
    rw [(inside_flatMap_escape a).upToQuote_append, upToQuote_cons (by decide)]
    rfl
  refine read_of_bad (by decide) ?_
  rw [hlines]
  exact tokens_of_unclosed false ((inside_flatMap_escape a).append_ne (by simp)) hunclosed

/-- Any other ordinary literal is read as its text. -/
theorem read_quotedOf (hreturn : '\r' ∉ s) (hnul : '\x00' ∉ s) :
    read (quotedOf s) = .ok (.text (String.ofList s)) := by
  have hlines : unixNewlinesOf (s.flatMap escape ++ ['"']) = s.flatMap escape ++ ['"'] := by
    rw [unixNewlinesOf_append (return_not_mem_flatMap_escape hreturn)]
    rfl
  have htok : quotedTok? false (s.flatMap escape) .text = some (.text (s.map Char.toNat)) := by
    rw [quotedTok?, if_neg (by simp), unescape?_flatMap_escape]
    rfl
  have htokens := tokens_of_closed false ((inside_flatMap_escape s).append_ne (by simp))
    ((inside_flatMap_escape s).upToQuote_eq []) htok
  rw [tokensFrom] at htokens
  rw [← ofPoints_toNat]
  refine read_of_text (by decide) ?_ (by rw [hlines]; exact htokens)
  have hbody := not_mem_flatMap_escape (by decide) (by decide) hnul
  simp only [List.mem_cons, List.mem_append, List.not_mem_nil, or_false, not_or]
  exact ⟨by decide, hbody, by decide⟩

/-- An ordinary literal as a default is its text, or has to be passed. -/
theorem ofDefault_quoted (s : String) :
    ofDefault (quoted s) =
      .ok (if '\r' ∈ s.toList ∨ '\x00' ∈ s.toList then none else some (.text s)) := by
  have hread : ofDefault (quoted s) = match read (quotedOf s.toList) with
      | .ok v => .ok (some v)
      | .error .notLiteral => .ok none
      | .error fault => .error fault :=
    ofDefault_eq List.mem_cons_self (s.toList.flatMap escape)
  rw [hread]
  by_cases hreturn : '\r' ∈ s.toList
  · rw [read_quotedOf_of_return hreturn, if_pos (.inl hreturn)]
  · by_cases hnul : '\x00' ∈ s.toList
    · have hhas : '\x00' ∈ quotedOf s.toList := by
        have hescape : escape '\x00' = ['\x00'] := by decide
        have hbody : '\x00' ∈ s.toList.flatMap escape :=
          List.mem_flatMap.2 ⟨_, hnul, by simp [hescape]⟩
        simp [quotedOf, hbody]
      rw [read_of_nul hhas, if_pos (.inr hnul)]
    · rw [read_quotedOf hreturn hnul, if_neg (by simp [hreturn, hnul]), String.ofList_toList]

/-! ### Raw literals -/

/-- What follows the opening quote of a raw literal. -/
def afterQuote (d s : List Char) : List Char := d ++ '(' :: (s ++ ')' :: (d ++ ['"']))

theorem rawOf_eq (s : List Char) : rawOf s = 'R' :: '"' :: afterQuote (freeDelimiter s) s := by
  simp [rawOf, rawCloser, afterQuote]

theorem inside_of_forall (h : ∀ c ∈ w, c ∉ ['\\', '"', '\n']) : Inside w := by
  induction w with
  | nil => exact .nil
  | cons c w ih =>
    obtain ⟨hc, hw⟩ := List.forall_mem_cons.1 h
    exact .plain hc (ih hw)

/-- A delimiter is made of a word and digits. -/
theorem isAlphanum_of_mem_freeDelimiter (h : c ∈ freeDelimiter s) :
    (c.isAlphanum || c == '_') = true := by
  have hword : ∀ c ∈ "npe_doc".toList, (c.isAlphanum || c == '_') = true := by decide
  obtain ⟨n, -, heq, -, -⟩ := exists_freeDelimiter s
  rw [heq, delimiter] at h
  split at h
  · exact hword c h
  · rcases List.mem_append.1 h with h | h
    · exact hword c h
    · have hdigit : c.isDigit = true :=
        Nat.isDigit_of_mem_toDigits (by decide) (by decide) h
      simp [Char.isAlphanum, hdigit]

/-- The delimiter of a raw literal is plain text to the interpreter. -/
theorem plain_freeDelimiter (s : List Char) :
    Inside (freeDelimiter s) ∧ '\r' ∉ freeDelimiter s ∧ '\x00' ∉ freeDelimiter s := by
  have hnot : ∀ c, (c.isAlphanum || c == '_') = false → c ∉ freeDelimiter s := fun c hc hmem => by
    rw [isAlphanum_of_mem_freeDelimiter hmem] at hc
    cases hc
  have hno : ∀ c ∈ ['\\', '"', '\n'], (c.isAlphanum || c == '_') = false := by decide
  exact ⟨inside_of_forall fun c hc hspecial => hnot c (hno c hspecial) hc, hnot _ (by decide),
    hnot _ (by decide)⟩

/-- What the interpreter reads behind the opening quote of a raw literal. -/
theorem unixNewlinesOf_afterQuote (s : List Char) :
    unixNewlinesOf (afterQuote (freeDelimiter s) s) =
      (freeDelimiter s ++ ['(']) ++ unixNewlinesOf (s ++ ')' :: (freeDelimiter s ++ ['"'])) := by
  obtain ⟨-, hreturn, -⟩ := plain_freeDelimiter s
  have hfront : '\r' ∉ freeDelimiter s ++ ['('] := by simpa using hreturn
  rw [← unixNewlinesOf_append hfront, afterQuote, List.append_assoc, List.singleton_append]

theorem inside_front (s : List Char) : Inside (freeDelimiter s ++ ['(']) :=
  (plain_freeDelimiter s).1.append (.plain (by decide) .nil)

theorem front_append_ne (s v x : List Char) :
    (freeDelimiter s ++ ['(']) ++ v ≠ '"' :: '"' :: x := by
  rw [List.append_assoc]
  exact (plain_freeDelimiter s).1.append_ne (by simp) x

/-- No raw literal is read as its text. The text would have to begin with what the interpreter reads up
to its closing quote, which is the opening delimiter and more. -/
theorem read_rawOf_ne (s : List Char) : read (rawOf s) ≠ .ok (.text (String.ofList s)) := by
  intro h
  rw [rawOf_eq] at h
  have hlines := unixNewlinesOf_afterQuote s
  have hcons : 'R' :: unixNewlinesOf ('"' :: afterQuote (freeDelimiter s) s) =
      opening true ++ unixNewlinesOf (afterQuote (freeDelimiter s) s) := by
    rw [unixNewlinesOf_cons (by decide)]
    rfl
  have hopen : ∀ x, unixNewlinesOf (afterQuote (freeDelimiter s) s) ≠ '"' :: '"' :: x := by
    rw [hlines]
    exact front_append_ne s _
  cases hbody : upToQuote .double (unixNewlinesOf (afterQuote (freeDelimiter s) s)) with
  | none =>
    rw [read_of_bad (by decide) (by rw [hcons]; exact tokens_of_unclosed true hopen hbody)] at h
    cases h
  | some r =>
    obtain ⟨body, rest⟩ := r
    have hstarts := prefix_of_read (by decide)
      (by rw [hcons]; exact tokens_of_closed true hopen hbody rfl) h
    have hchars : (body.map Char.toNat).map Char.ofNat = body := by simp [Function.comp_def]
    rw [hchars, String.toList_ofList] at hstarts
    obtain ⟨u, rfl⟩ := hstarts
    obtain ⟨hsplit, hinside⟩ := inside_of_upToQuote hbody
    have hreturn : '\r' ∉ body := fun hmem => not_mem_unixNewlinesOf _
      (hsplit ▸ List.mem_append_left _ hmem)
    -- the opening delimiter and the text in front of its quote are both passed over
    rw [hlines, List.append_assoc body, unixNewlinesOf_append hreturn,
      (inside_front _).upToQuote_append, hinside.upToQuote_append, Option.map_map] at hbody
    obtain ⟨p, -, hp⟩ := Option.map_eq_some_iff.1 hbody
    have hlength := congrArg (fun q => q.1.length) hp
    simp only [Function.comp_apply, List.length_append, List.length_singleton] at hlength
    omega

theorem ofDefault_raw (s : String) :
    ofDefault (raw s) = match read (rawOf s.toList) with
      | .ok v => .ok (some v)
      | .error .notLiteral => .ok none
      | .error fault => .error fault := by
  have hread := ofDefault_eq (c := 'R') (by simp)
    ('"' :: freeDelimiter s.toList ++ '(' :: (s.toList ++ ')' :: freeDelimiter s.toList))
  rw [raw, rawOf_eq, afterQuote]
  simpa using hread

/-- A raw literal as a default is never its text. -/
theorem ofDefault_raw_ne (s : String) : ofDefault (raw s) ≠ .ok (some (.text s)) := by
  intro h
  rw [ofDefault_raw] at h
  cases hread : read (rawOf s.toList) with
  | ok v =>
    have hne := read_rawOf_ne s.toList
    rw [String.ofList_toList] at hne
    simp only [hread, Except.ok.injEq, Option.some.injEq] at h
    exact hne (h ▸ hread)
  | error fault =>
    rw [hread] at h
    cases fault <;> cases h

/-- The delimiter of a text without quotes is the first that is tried. -/
theorem freeDelimiter_of_not_mem (h : '"' ∉ s) : freeDelimiter s = "npe_doc".toList := by
  obtain ⟨n, -, heq, -, hbefore⟩ := exists_freeDelimiter s
  have hzero : n = 0 := by
    by_contra hn
    have hclose := (hbefore 0 (Nat.pos_of_ne_zero hn)).subset
    exact h (hclose (by decide))
  rw [heq, hzero]
  rfl

/-- The value of a raw literal whose text has neither quotes nor line ends: the text in parentheses,
between delimiters. -/
theorem ofDefault_raw_of_line {s : String} (hquote : '"' ∉ s.toList) (hline : '\n' ∉ s.toList)
    (hreturn : '\r' ∉ s.toList) (hnul : '\x00' ∉ s.toList) :
    ofDefault (raw s) = .ok (some (.text ("npe_doc(" ++ s ++ ")npe_doc"))) := by
  obtain ⟨hinside, hreturn', hnul'⟩ := plain_freeDelimiter s.toList
  obtain ⟨body, hbody⟩ : ∃ body, body =
    freeDelimiter s.toList ++ '(' :: (s.toList ++ ')' :: freeDelimiter s.toList) := ⟨_, rfl⟩
  have hraw : rawOf s.toList = 'R' :: '"' :: (body ++ ['"']) := by
    rw [rawOf_eq, afterQuote, hbody]
    simp
  have hclosed : upToQuote .double (body ++ ['"']) = some (body, []) := by
    rw [hbody]
    exact (hinside.append (.plain (by decide)
      (inside_append_cons hquote hline (by decide) hinside))).upToQuote_eq []
  have hopen : ∀ x, body ++ ['"'] ≠ '"' :: '"' :: x := by
    rw [hbody, List.append_assoc]
    exact hinside.append_ne (by simp)
  have hlines : unixNewlinesOf ('"' :: (body ++ ['"'])) = '"' :: (body ++ ['"']) := by
    refine unixNewlinesOf_eq_self ?_
    simp [hbody, hreturn, hreturn']
  have htokens := tokens_of_closed true hopen hclosed rfl
  rw [tokensFrom] at htokens
  have hread : read (rawOf s.toList) = .ok (ofPoints (body.map Char.toNat)) := by
    rw [hraw]
    refine read_of_text (by decide) ?_ (by rw [hlines]; exact htokens)
    simp [hbody, hnul, hnul']
  have htext : String.ofList body = "npe_doc(" ++ s ++ ")npe_doc" := by
    rw [hbody, freeDelimiter_of_not_mem hquote, ← String.toList_inj]
    simp
  rw [ofDefault_raw, hread, ofPoints_toNat, htext]

end Monomorph.Literal
