import Mathlib.Data.List.TakeWhile
import Mathlib.Data.Nat.Digits.Defs
import Monomorph.Proofs.Literal.Notation
import Monomorph.Proofs.Text.Words

/-!
Integer literals of the host language as default expressions. The interpreter has integers of its own,
which differ in the separators between digits, in the octal ones, and in the letters that may stand
behind the digits. It reads a literal as its value, or not at all.
-/

namespace Monomorph.Literal

open Text

/-! ### Integer literals of the host language -/

/-- The bases of integer literals. -/
inductive Radix where
  | binary | octal | decimal | hexadecimal
  deriving DecidableEq

/-- The number of digits of a base. -/
def Radix.base : Radix → Nat
  | binary => 2
  | octal => 8
  | decimal => 10
  | hexadecimal => 16

/-- What stands in front of the digits. -/
def Radix.mark (radix : Radix) (isCapital : Bool) : List Char :=
  match radix with
  | binary => ['0', if isCapital then 'B' else 'b']
  | hexadecimal => ['0', if isCapital then 'X' else 'x']
  | octal | decimal => []

/-- The character of a digit, which is a letter from ten on. -/
def digitChar (n : Nat) (isCapital : Bool) : Char :=
  (if isCapital then "0123456789ABCDEF" else "0123456789abcdef").toList.getD n '0'

/-- A digit, and whether it is written as a capital if it is a letter. -/
structure Digit (base : Nat) where
  value : Fin base
  isCapital : Bool := false

/-- The character that the digit is written as. -/
def Digit.char {base : Nat} (d : Digit base) : Char := digitChar d.value d.isCapital

/-- An integer literal of the host language. A decimal one starts with a digit that is not zero, an octal
one with a zero. Single separators may stand between digits. -/
structure IntegerLiteral where
  radix : Radix
  /-- Is the letter in the mark of the base a capital? -/
  isCapital : Bool
  first : Digit radix.base
  /-- The digits after the first one, and whether a separator stands in front of them. -/
  more : List (Bool × Digit radix.base)
  suffix : List Char
  decimal_first : radix = .decimal → first.value.val ≠ 0
  octal_first : radix = .octal → first.value.val = 0
  suffix_letters : ∀ c ∈ suffix, c ∈ ['u', 'U', 'l', 'L']

namespace IntegerLiteral

/-- Digits with the separators in front of them. -/
def separated {base : Nat} (ds : List (Bool × Digit base)) : List Char :=
  ds.flatMap fun d => if d.1 then ['\'', d.2.char] else [d.2.char]

/-- The literal as it is written. -/
def text (l : IntegerLiteral) : List Char :=
  l.radix.mark l.isCapital ++ l.first.char :: (separated l.more ++ l.suffix)

/-- The digits without the separators. -/
def digits (l : IntegerLiteral) : List (Digit l.radix.base) := l.first :: l.more.map (·.2)

/-- The integer that the literal stands for: the last digit counts once, and each digit as often as the
base says as the one behind it. -/
def value (l : IntegerLiteral) : Nat := Nat.ofDigits l.radix.base (l.digits.reverse.map (·.value.val))

/-- Is the literal one of the interpreter's too, once the suffix is gone? None with a separator is. A
suffix stays behind hexadecimal digits, octal digits have a mark of their own there, and decimal ones may
not be too many. -/
def isShared (l : IntegerLiteral) : Bool :=
  l.more.all (!·.1) && match l.radix with
  | .binary => true
  | .octal => l.digits.all (·.value.val == 0)
  | .decimal => l.digits.length ≤ Digits.most
  | .hexadecimal => l.suffix.isEmpty

end IntegerLiteral

/-! ### Digits -/

/-- A digit is read as its value. -/
theorem value?_digitChar : ∀ n < 16, ∀ isCapital, Digits.value? (digitChar n isCapital) = some n := by
  decide

theorem isDigit_digitChar : ∀ n < 10, ∀ isCapital, (digitChar n isCapital).isDigit = true := by
  decide

variable {base : Nat} {ds : List (Digit base)} {r : List Char}

theorem Digit.value?_char (hbase : base ≤ 16) (d : Digit base) :
    Digits.value? d.char = some d.value.val :=
  value?_digitChar _ (Nat.lt_of_lt_of_le d.value.isLt hbase) _

theorem Digit.isIn_char (hbase : base ≤ 16) (d : Digit base) : Digits.isIn base d.char = true := by
  rw [Digits.isIn, d.value?_char hbase]
  simp

/-- The number that the digits write. -/
theorem number_eq (hbase : base ≤ 16) :
    Digits.number base (ds.map Digit.char) = Nat.ofDigits base (ds.reverse.map (·.value.val)) := by
  have hstep : (fun n c => n * base + (Digits.value? (Digit.char c)).getD 0 : Nat → Digit base → Nat) =
      fun n d => d.value.val + base * n := by
    funext n d
    rw [d.value?_char hbase, Option.getD_some, Nat.mul_comm, Nat.add_comm]
  rw [Digits.number, List.foldl_map, hstep, Nat.ofDigits_eq_foldr, List.foldr_map, List.foldr_reverse]
  rfl

/-- All digits are taken, up to a character that is neither a digit nor an underscore. -/
theorem run_append {p : Char → Bool} {cs : List Char} (hcs : ∀ c ∈ cs, p c = true)
    (hunder : p '_' = false) (hr : ∀ c ∈ r.head?, p c = false ∧ c ≠ '_') :
    Digits.run p (cs ++ r) = (cs, r) := by
  have hnot : ∀ {cs : List Char}, (∀ c ∈ cs, p c = true) → ∀ d x, cs ++ r ≠ '_' :: d :: x := by
    intro cs hcs d x heq
    cases cs with
    | nil => exact (hr '_' (by simp_all)).2 rfl
    | cons c cs =>
      obtain ⟨rfl, -⟩ := List.cons.inj heq
      rw [hcs '_' List.mem_cons_self] at hunder
      cases hunder
  induction cs with
  | nil =>
    rw [List.nil_append, Digits.run.eq_def]
    split
    · rfl
    · next c d x => simp [(hr c (by simp)).1]
    · next c x _ => simp [(hr c (by simp)).1]
  | cons c cs ih =>
    obtain ⟨hc, hcs⟩ := List.forall_mem_cons.1 hcs
    rw [List.cons_append, Digits.run]
    · simp [hc, ih hcs]
    · exact fun d x => hnot hcs d x

/-! ### Numbers -/

theorem Radix.base_le (radix : Radix) : radix.base ≤ 16 := by
  cases radix <;> decide

theorem basedNumber?_eq {d : Digit base} (hbase : base ≤ 16)
    (hr : ∀ c ∈ r.head?, Digits.isIn base c = false ∧ c ≠ '_') :
    basedNumber? base ((d :: ds).map Digit.char ++ r) =
      some (.int (Digits.number base ((d :: ds).map Digit.char)), r) := by
  have hunder : Digits.isIn base '_' = false := rfl
  have hdigits : ∀ c ∈ (d :: ds).map Digit.char, Digits.isIn base c = true := by
    intro c hc
    obtain ⟨d, -, rfl⟩ := List.mem_map.1 hc
    exact d.isIn_char hbase
  have hrun := run_append hdigits hunder hr
  rw [basedNumber?]
  · simp only [hrun]
    rfl
  · intro x heq
    have hfirst := hdigits d.char (by simp)
    rw [(List.cons.inj heq).1, hunder] at hfirst
    cases hfirst

/-- Neither a fraction nor an exponent starts with a separator. -/
theorem exponentPart?_separator (x : List Char) : exponentPart? ('\'' :: x) = none := by
  cases x with
  | nil => rfl
  | cons c x =>
    rw [exponentPart?.eq_def]
    split
    · next heq => cases heq; rfl
    · next heq => cases heq; rfl
    · next heq => cases heq; rfl
    · next heq => cases heq

theorem decimalNumber?_eq {cs : List Char} (hcs : ∀ c ∈ cs, c.isDigit = true)
    (hr : r = [] ∨ ∃ x, r = '\'' :: x) :
    decimalNumber? (cs ++ r) = (integer? cs).map fun v => (v, r) := by
  have hrun : Digits.run Char.isDigit (cs ++ r) = (cs, r) :=
    run_append hcs rfl (by rcases hr with rfl | ⟨x, rfl⟩ <;> simp)
  have hparts : fractionPart? r = none ∧ exponentPart? r = none := by
    rcases hr with rfl | ⟨x, rfl⟩
    · exact ⟨rfl, rfl⟩
    · exact ⟨rfl, exponentPart?_separator x⟩
  rw [decimalNumber?, hrun]
  simp only [hparts.1, hparts.2, Bool.or_self, Bool.false_eq_true, if_false]
  rcases hr with rfl | ⟨x, rfl⟩ <;> rfl

theorem endsNumber_nil : endsNumber [] = true := by decide

theorem endsNumber_separator (x : List Char) : endsNumber ('\'' :: x) = true := by
  rw [endsNumber, Bool.or_eq_true]
  exact .inr rfl

theorem endsNumber_suffix {c : Char} (hc : c ∈ ['u', 'U', 'l', 'L']) (x : List Char) :
    endsNumber (c :: x) = false := by
  have hletters : ∀ c ∈ ['u', 'U', 'l', 'L'], ∀ x, endsNumber (c :: x) = false := by
    simp only [List.forall_mem_cons]
    exact ⟨fun _ => rfl, fun _ => rfl, fun _ => rfl, fun _ => rfl, by simp⟩
  exact hletters c hc x

theorem number?_of_decimal {cs : List Char} (hcs : ∀ c ∈ cs, c.isDigit = true)
    (hr : r = [] ∨ ∃ x, r = '\'' :: x) :
    number? (cs ++ r) = (integer? cs).map fun v => (v, r) := by
  have hends : endsNumber r = true := by
    rcases hr with rfl | ⟨x, rfl⟩
    · exact endsNumber_nil
    · exact endsNumber_separator x
  -- the second character is a digit or a separator, so it marks no base
  have hsecond : ∀ c x, cs ++ r = '0' :: c :: x → c.isDigit = true ∨ c = '\'' := by
    intro c x heq
    have hmem : c ∈ cs ++ r.head?.toList := by
      rcases cs with _ | ⟨a, _ | ⟨b, cs⟩⟩
      · rcases hr with rfl | ⟨y, rfl⟩
        · cases heq
        · cases heq
      · rcases hr with rfl | ⟨y, rfl⟩
        · cases heq
        · obtain ⟨-, heq⟩ := List.cons.inj heq
          simp [← (List.cons.inj heq).1]
      · obtain ⟨-, heq⟩ := List.cons.inj heq
        simp [← (List.cons.inj heq).1]
    rcases List.mem_append.1 hmem with hc | hc
    · exact .inl (hcs c hc)
    · rcases hr with rfl | ⟨y, rfl⟩
      · cases hc
      · exact .inr (by simpa using hc)
  have hdecimal := decimalNumber?_eq hcs hr
  unfold number?
  split
  all_goals first
    | next x heq => exact absurd (hsecond _ _ heq) (by decide)
    | skip
  rw [hdecimal]
  cases integer? cs with
  | none => rfl
  | some v => simp [hends]

theorem number?_mark {radix : Radix} (hmark : radix = .binary ∨ radix = .hexadecimal) (isCapital : Bool)
    (cs : List Char) : number? (radix.mark isCapital ++ cs) =
      match basedNumber? radix.base cs with
      | some (v, rest) => if endsNumber rest then some (v, rest) else none
      | none => none := by
  rcases hmark with rfl | rfl <;> cases isCapital <;> rfl

/-- A number in a base that has a mark. -/
theorem number?_of_mark {radix : Radix} {d : Digit radix.base} {ds : List (Digit radix.base)}
    (hmark : radix = .binary ∨ radix = .hexadecimal) (isCapital : Bool)
    (hr : ∀ c ∈ r.head?, Digits.isIn radix.base c = false ∧ c ≠ '_') :
    number? (radix.mark isCapital ++ ((d :: ds).map Digit.char ++ r)) =
      if endsNumber r then some (.int (Digits.number radix.base ((d :: ds).map Digit.char)), r)
      else none := by
  rw [number?_mark hmark, basedNumber?_eq radix.base_le hr]

/-! ### Tokens -/

theorem toNat_of_isDigit {c : Char} (hc : c.isDigit = true) : 48 ≤ c.toNat ∧ c.toNat ≤ 57 := by
  simpa [Char.isDigit, UInt32.le_iff_toNat_le] using hc

theorem toLower_of_isDigit {c : Char} (hc : c.isDigit = true) : c.toLower = c := by
  have hlow : ¬ (c.val ≥ 65 ∧ c.val ≤ 90) := by
    rintro ⟨h, -⟩
    exact absurd (Nat.le_trans (UInt32.le_iff_toNat_le.1 h) (toNat_of_isDigit hc).2) (by decide)
  exact dif_neg hlow

/-- No digit opens a quoted literal. -/
theorem quoted?_of_isDigit {c : Char} (hc : c.isDigit = true) (x : List Char) :
    quoted? (c :: x) = none := by
  have hletters : ∀ q ∈ quoteLetters, q.1.head?.any Char.isDigit = false := by decide
  have hquote : isQuote c = false := by
    rw [isQuote, Bool.or_eq_false_iff, beq_eq_false_iff_ne, beq_eq_false_iff_ne]
    constructor <;> rintro rfl <;> cases hc
  rw [quoted?, List.findSome?_eq_none_iff]
  rintro ⟨letters, isRaw, kind⟩ hmem
  cases letters with
  | nil => simp [hquote]
  | cons d letters =>
    have hfirst : d.isDigit = false := hletters _ hmem
    have hne : c.toLower ≠ d := by
      rintro rfl
      rw [toLower_of_isDigit hc, hc] at hfirst
      cases hfirst
    simp [hne]

theorem token?_of_isDigit {c : Char} (hc : c.isDigit = true) (x : List Char) :
    token? (c :: x) = (number? (c :: x)).map fun p => (.value p.1, p.2) := by
  rw [token?, quoted?_of_isDigit hc]
  simp [hc]

theorem startsToken_of_isDigit {c : Char} (hc : c.isDigit = true) : startsToken c = true := by
  have hne : ∀ d ∈ [' ', '\t', '#', '\n', '\r', '\\'], c ≠ d := by
    rintro d hd rfl
    exact absurd hc ((by decide : ∀ d ∈ [' ', '\t', '#', '\n', '\r', '\\'], ¬ d.isDigit = true) c hd)
  have hfeed : c.toNat ≠ 12 := fun h => absurd (h ▸ (toNat_of_isDigit hc).1) (by decide)
  simp only [List.forall_mem_cons] at hne
  simp [startsToken, isGap, hne, hfeed]

/-- A separator is taken for a quote, which opens a text or nothing. -/
theorem token?_separator (x : List Char) : token? ('\'' :: x) = none ∨
    ∃ points rest, token? ('\'' :: x) = some (.text points, rest) := by
  have hquoted : token? ('\'' :: x) = (upToQuote (openQuote '\'' x).1 (openQuote '\'' x).2).bind fun p =>
      (quotedTok? false p.1 .text).bind fun t => some (t, p.2) := rfl
  rw [hquoted]
  cases upToQuote (openQuote '\'' x).1 (openQuote '\'' x).2 with
  | none => exact .inl rfl
  | some p =>
    cases hpoints : unescape? true 0 p.1 with
    | none => exact .inl (by simp [quotedTok?, hpoints])
    | some points => exact .inr ⟨points, p.2, by simp [quotedTok?, hpoints]⟩

/-- The token after a separator does not go on with an expression. -/
theorem tokensFrom_separator (x : List Char) : ∃ u us, tokensFrom 0 ('\'' :: x) = u :: us ∧
    u ≠ .newline ∧ Plain (u :: us) := by
  have hbad : ∃ u us, [Tok.bad] = u :: us ∧ u ≠ .newline ∧ Plain (u :: us) :=
    ⟨.bad, [], rfl, by simp, by simp, by simp⟩
  rw [tokensFrom_cons (by decide)]
  rcases token?_separator x with hnone | ⟨points, rest, htext⟩
  · rw [hnone]
    exact hbad
  · have hdepth : depthAfter? 0 (.text points) = some 0 := rfl
    rw [htext]
    simp only [hdepth]
    split
    · exact ⟨.text points, _, rfl, by simp, plain_text⟩
    · exact hbad

/-! ### What is read -/

variable {c : Char} {v : List Char}

theorem reads_atom_value (w : Literal) (ts : List Tok) (n : Nat) :
    Reads (.value w) ts w (atom (n + 1)) := rfl

/-- A text that starts with a digit and is not read further than its number. -/
theorem read_of_number (hc : c.isDigit = true) (hreturn : '\r' ∉ c :: v) (hnul : '\x00' ∉ c :: v)
    (hrest : ∀ w rest, number? (c :: v) = some (w, rest) → rest = [] ∨ ∃ x, rest = '\'' :: x) :
    read (c :: v) = match number? (c :: v) with
      | some (w, []) => .ok w
      | _ => .error .notLiteral := by
  have hstarts := startsToken_of_isDigit hc
  have hlines : unixNewlinesOf v = v := unixNewlinesOf_eq_self fun h => hreturn (by simp [h])
  have htokens := (tokens_cons hstarts v).trans (tokensFrom_cons hstarts 0 v)
  rw [token?_of_isDigit hc] at htokens
  cases hnumber : number? (c :: v) with
  | none =>
    rw [hnumber] at htokens
    exact read_of_bad hstarts (by rw [hlines, htokens]; rfl)
  | some p =>
    obtain ⟨w, rest⟩ := p
    have hdepth : depthAfter? 0 (.value w) = some 0 := rfl
    simp only [hnumber, Option.map_some, hdepth] at htokens
    rcases hrest w rest hnumber with rfl | ⟨x, rfl⟩
    · have hvalue : tokens (c :: v) = [.value w] := by
        rw [htokens, List.length_nil, if_pos (Nat.zero_le _), tokensFrom]
      exact read_of_reads hstarts hnul (by rw [hlines, hvalue])
        (reads_whole ⟨by simp, by simp⟩ (reads_atom_value w []))
    · obtain ⟨u, us, hmore, hu, hplain⟩ := tokensFrom_separator x
      split at htokens
      · refine read_of_error hstarts ?_
        rw [hlines, htokens, hmore]
        exact whole_of_more ⟨⟨by simp, by simp⟩, hplain⟩ hu (reads_atom_value w _)
      · exact read_of_bad hstarts (by rw [hlines, htokens])

/-! ### The parts of a literal -/

namespace IntegerLiteral

variable (l : IntegerLiteral)

/-- The digits in front of the first separator. -/
def lead : List (Digit l.radix.base) := l.first :: (l.more.takeWhile (!·.1)).map (·.2)

/-- The digits from the first separator on. -/
def behind : List Char := separated (l.more.dropWhile (!·.1))

/-- What is left of the suffix when the default is read. -/
def kept : List Char := if l.radix = .hexadecimal then l.suffix else []

theorem separated_append (ds es : List (Bool × Digit base)) :
    separated (ds ++ es) = separated ds ++ separated es :=
  List.flatMap_append

theorem separated_of_forall {ds : List (Bool × Digit base)} (h : ∀ d ∈ ds, d.1 = false) :
    separated ds = (ds.map (·.2)).map Digit.char := by
  induction ds with
  | nil => rfl
  | cons d ds ih =>
    obtain ⟨hd, hds⟩ := List.forall_mem_cons.1 h
    rw [separated, List.flatMap_cons, hd, ← separated, ih hds]
    rfl

theorem separated_more : separated l.more =
    ((l.more.takeWhile (!·.1)).map (·.2)).map Digit.char ++ l.behind := by
  have hlead : ∀ d ∈ l.more.takeWhile (!·.1), d.1 = false := fun d hd => by
    simpa using List.mem_takeWhile_imp hd
  rw [behind, ← separated_of_forall hlead, ← separated_append, List.takeWhile_append_dropWhile]

/-- Behind the first digits stands nothing, or a separator. -/
theorem behind_cases : (l.more.all (!·.1) = true ∧ l.behind = []) ∨
    (l.more.all (!·.1) = false ∧ ∃ x, l.behind = '\'' :: x) := by
  cases hall : l.more.all (!·.1) with
  | true =>
    have hnone : l.more.dropWhile (!·.1) = [] :=
      List.dropWhile_eq_nil_iff.2 (List.all_eq_true.1 hall)
    exact .inl ⟨rfl, by rw [behind, hnone]; rfl⟩
  | false =>
    have hsome : l.more.dropWhile (!·.1) ≠ [] := by
      rw [ne_eq, List.dropWhile_eq_nil_iff, ← List.all_eq_true, hall]
      decide
    obtain ⟨d, ds, hds⟩ := List.exists_cons_of_ne_nil hsome
    have hfirst := List.head_dropWhile_not _ hsome
    simp only [hds, List.head_cons, Bool.not_eq_false'] at hfirst
    refine .inr ⟨rfl, ?_⟩
    rw [behind, hds, separated, List.flatMap_cons, hfirst]
    exact ⟨_, rfl⟩

theorem lead_eq_digits (h : l.more.all (!·.1) = true) : l.lead = l.digits := by
  rw [lead, List.takeWhile_eq_self_iff.2 (List.all_eq_true.1 h), digits]

/-- The characters that literals are written with. -/
def letters : List Char := "0123456789abcdefABCDEFxXuUlL'".toList

theorem mem_letters_char (hbase : base ≤ 16) (d : Digit base) : d.char ∈ letters := by
  have hall : ∀ n < 16, ∀ isCapital, digitChar n isCapital ∈ letters := by decide
  exact hall _ (Nat.lt_of_lt_of_le d.value.isLt hbase) _

theorem mem_letters_separated (hbase : base ≤ 16) {ds : List (Bool × Digit base)}
    (hc : c ∈ separated ds) : c ∈ letters := by
  obtain ⟨d, -, hd⟩ := List.mem_flatMap.1 hc
  split at hd
  · rcases List.mem_cons.1 hd with rfl | hd
    · decide
    · exact List.mem_singleton.1 hd ▸ mem_letters_char hbase d.2
  · exact List.mem_singleton.1 hd ▸ mem_letters_char hbase d.2

theorem mem_letters_suffix (hc : c ∈ l.suffix) : c ∈ letters :=
  (by decide : ∀ c ∈ ['u', 'U', 'l', 'L'], c ∈ letters) c (l.suffix_letters c hc)

theorem mem_letters (hc : c ∈ l.text) : c ∈ letters := by
  have hmark : ∀ c ∈ l.radix.mark l.isCapital, c ∈ letters := by
    cases l.radix <;> cases l.isCapital <;> decide
  rw [text, List.mem_append, List.mem_cons, List.mem_append] at hc
  rcases hc with hc | rfl | hc | hc
  · exact hmark c hc
  · exact mem_letters_char l.radix.base_le l.first
  · exact mem_letters_separated l.radix.base_le hc
  · exact l.mem_letters_suffix hc

/-- What is read of a literal. -/
def core : List Char := l.radix.mark l.isCapital ++ (l.lead.map Digit.char ++ (l.behind ++ l.kept))

theorem text_eq : l.text = l.radix.mark l.isCapital ++
    (l.lead.map Digit.char ++ (l.behind ++ l.suffix)) := by
  rw [text, separated_more, lead, List.map_cons]
  simp

theorem mem_letters_core (hc : c ∈ l.core) : c ∈ letters := by
  refine l.mem_letters ?_
  rw [text_eq]
  unfold core kept at hc
  split at hc
  · exact hc
  · simp only [List.mem_append, List.not_mem_nil, or_false] at hc ⊢
    tauto

theorem isDigit_char (hbase : base ≤ 10) (d : Digit base) : d.char.isDigit = true :=
  isDigit_digitChar _ (Nat.lt_of_lt_of_le d.value.isLt hbase) _

theorem isDigit_lead (hbase : l.radix.base ≤ 10) : ∀ c ∈ l.lead.map Digit.char, c.isDigit = true := by
  intro c hc
  obtain ⟨d, -, rfl⟩ := List.mem_map.1 hc
  exact isDigit_char hbase d

/-- Decimal and octal literals have no mark. -/
theorem radix_cases : ((l.radix = .binary ∨ l.radix = .hexadecimal) ∧
      ∃ d, l.radix.mark l.isCapital = ['0', d] ∧ d ∈ ['b', 'B', 'x', 'X']) ∨
    ((l.radix = .decimal ∨ l.radix = .octal) ∧ l.radix.mark l.isCapital = [] ∧ l.radix.base ≤ 10 ∧
      l.kept = []) := by
  unfold kept
  cases l.radix with
  | binary => cases l.isCapital <;> exact .inl ⟨.inl rfl, _, rfl, by decide⟩
  | hexadecimal => cases l.isCapital <;> exact .inl ⟨.inr rfl, _, rfl, by decide⟩
  | octal => exact .inr ⟨.inr rfl, rfl, by decide, rfl⟩
  | decimal => exact .inr ⟨.inl rfl, rfl, by decide, rfl⟩

theorem exists_core_eq : ∃ c v, l.core = c :: v ∧ c.isDigit = true := by
  rcases l.radix_cases with ⟨-, d, hmark, -⟩ | ⟨-, hmark, hbase, -⟩
  · exact ⟨'0', _, by rw [core, hmark]; rfl, rfl⟩
  · exact ⟨l.first.char, _, by rw [core, hmark]; rfl, isDigit_char hbase l.first⟩

/-- The integer that the interpreter reads from the first digits. -/
def numeral? : Option Literal :=
  if l.radix = .decimal ∨ l.radix = .octal then integer? (l.lead.map Digit.char)
  else some (.int (Digits.number l.radix.base (l.lead.map Digit.char)))

theorem kept_subset (hc : c ∈ l.kept) : c ∈ l.suffix := by
  unfold kept at hc
  split at hc
  · exact hc
  · cases hc

/-- Behind the digits that are read stands nothing, a separator, or the first letter of the suffix. -/
theorem behind_kept_cases : (l.more.all (!·.1) = true ∧ l.behind ++ l.kept = [] ∧ l.kept = []) ∨
    (l.more.all (!·.1) = false ∧ ∃ x, l.behind ++ l.kept = '\'' :: x) ∨
    ∃ c x, l.behind ++ l.kept = c :: x ∧ c ∈ ['u', 'U', 'l', 'L'] ∧ l.kept ≠ [] := by
  rcases l.behind_cases with ⟨hall, hnil⟩ | ⟨hall, x, hx⟩
  · rw [hnil, List.nil_append]
    cases hkept : l.kept with
    | nil => exact .inl ⟨hall, rfl, rfl⟩
    | cons c x =>
      have hc : c ∈ l.suffix := l.kept_subset (by rw [hkept]; exact List.mem_cons_self)
      exact .inr (.inr ⟨c, x, rfl, l.suffix_letters c hc, by simp⟩)
  · exact .inr (.inl ⟨hall, x ++ l.kept, by rw [hx]; rfl⟩)

/-- A number goes on to the first separator, and is none with a letter behind it. -/
theorem number?_core : number? l.core =
    if endsNumber (l.behind ++ l.kept) then l.numeral?.map fun w => (w, l.behind ++ l.kept)
    else none := by
  rcases l.radix_cases with ⟨hmarked, -, -, -⟩ | ⟨hplain, hmark, hbase, hkept⟩
  · have hnot : ¬ (l.radix = .decimal ∨ l.radix = .octal) := by
      rcases hmarked with h | h <;> rw [h] <;> decide
    have hletters : ∀ c ∈ ['\'', 'u', 'U', 'l', 'L'], Digits.value? c = none ∧ c ≠ '_' := by decide
    have hends : ∀ c ∈ (l.behind ++ l.kept).head?, Digits.isIn l.radix.base c = false ∧ c ≠ '_' := by
      intro c hc
      have hmem : c ∈ ['\'', 'u', 'U', 'l', 'L'] := by
        rcases l.behind_kept_cases with ⟨-, hnil, -⟩ | ⟨-, x, hx⟩ | ⟨d, x, hx, hd, -⟩
        · simp [hnil] at hc
        · obtain rfl : '\'' = c := by simpa [hx] using hc
          exact List.mem_cons_self
        · obtain rfl : d = c := by simpa [hx] using hc
          exact List.mem_cons_of_mem _ hd
      obtain ⟨hvalue, hunder⟩ := hletters c hmem
      exact ⟨by rw [Digits.isIn, hvalue], hunder⟩
    rw [core, lead, number?_of_mark hmarked l.isCapital hends, numeral?, if_neg hnot, lead]
    rfl
  · have hbehind : l.behind = [] ∨ ∃ x, l.behind = '\'' :: x := l.behind_cases.imp And.right And.right
    have hends : endsNumber l.behind = true := by
      rcases hbehind with hnil | ⟨x, hx⟩
      · rw [hnil]
        exact endsNumber_nil
      · rw [hx]
        exact endsNumber_separator x
    rw [core, hmark, hkept, List.append_nil, List.nil_append,
      number?_of_decimal (l.isDigit_lead hbase) hbehind, hends, if_pos rfl, numeral?, if_pos hplain]

/-- A literal is read as the integer of its digits if no separator stands among them and no letter behind
them. -/
theorem read_core : read l.core = match l.numeral? with
    | some w => if l.more.all (!·.1) && l.kept.isEmpty then .ok w else .error .notLiteral
    | none => .error .notLiteral := by
  obtain ⟨c, v, hcore, hc⟩ := l.exists_core_eq
  have hletters : '\r' ∉ letters ∧ '\x00' ∉ letters := by decide
  have hnumber := l.number?_core
  have hread := read_of_number hc (fun h => hletters.1 (l.mem_letters_core (hcore ▸ h)))
    fun h => hletters.2 (l.mem_letters_core (hcore ▸ h))
  rw [← hcore, hnumber] at hread
  rcases l.behind_kept_cases with ⟨hall, hnil, hkept⟩ | ⟨hall, x, hx⟩ | ⟨d, x, hx, hd, hkept⟩
  · rw [hnil, endsNumber_nil, if_pos rfl] at hread
    rw [hread (by cases l.numeral? <;> simp), hall, hkept]
    cases l.numeral? <;> rfl
  · rw [hx, endsNumber_separator, if_pos rfl] at hread
    rw [hread (by cases l.numeral? <;> simp), hall]
    cases l.numeral? <;> rfl
  · rw [hx, endsNumber_suffix hd, if_neg (by simp)] at hread
    have hsome : l.kept.isEmpty = false := by simpa using hkept
    rw [hread (by simp), hsome, Bool.and_false]
    cases l.numeral? <;> rfl

/-- All digits are zeros. -/
theorem value_of_zeros (h : l.digits.all (·.value.val == 0) = true) : l.value = 0 := by
  have hzeros : l.digits.reverse.map (·.value.val) = List.replicate l.digits.length 0 := by
    rw [List.eq_replicate_iff]
    refine ⟨by simp, fun n hn => ?_⟩
    obtain ⟨d, hd, rfl⟩ := List.mem_map.1 hn
    exact beq_iff_eq.1 (List.all_eq_true.1 h d (List.mem_reverse.1 hd))
  rw [value, hzeros, Nat.ofDigits_replicate_zero]

/-- The interpreter takes decimal digits up to a number of them, and no octal ones but zeros. -/
theorem integer?_lead (h : l.more.all (!·.1) = true) (hbase : l.radix.base ≤ 10) :
    integer? (l.lead.map Digit.char) =
      if l.first.value.val = 0 then
        if l.digits.all (·.value.val == 0) then some (.int 0) else none
      else if l.digits.length ≤ Digits.most then
        some (.int (Digits.number 10 (l.lead.map Digit.char)))
      else none := by
  have hzero : ∀ d : Digit l.radix.base, (d.char == '0') = (d.value.val == 0) := by
    have hall : ∀ n < 10, ∀ isCapital, (digitChar n isCapital == '0') = (n == 0) := by decide
    exact fun d => hall _ (Nat.lt_of_lt_of_le d.value.isLt hbase) _
  have hhead : ((l.lead.map Digit.char).head? == some '0') = (l.first.value.val == 0) :=
    hzero l.first
  have hzeros : (l.lead.map Digit.char).all (· == '0') = l.digits.all (·.value.val == 0) := by
    rw [l.lead_eq_digits h, List.all_map]
    exact congrArg l.digits.all (funext hzero)
  have hlength : (l.lead.map Digit.char).length = l.digits.length := by
    rw [List.length_map, l.lead_eq_digits h]
  rw [integer?, hhead, hzeros, hlength]
  simp only [beq_iff_eq, ← Nat.not_le, ite_not]

/-- The integer of the digits is the value of the literal, where the interpreter takes them. -/
theorem numeral?_eq (h : l.more.all (!·.1) = true) : l.numeral? =
    if (match l.radix with
      | .octal => l.digits.all (·.value.val == 0)
      | .decimal => decide (l.digits.length ≤ Digits.most)
      | .binary | .hexadecimal => true) then some (.int l.value) else none := by
  have hvalue : ∀ base, l.radix.base = base →
      Digits.number base (l.lead.map Digit.char) = l.value := by
    rintro _ rfl
    rw [number_eq l.radix.base_le, l.lead_eq_digits h, value]
  have hradix : l.radix = .binary ∨ l.radix = .hexadecimal ∨ l.radix = .octal ∨ l.radix = .decimal := by
    cases l.radix <;> simp
  rcases hradix with hr | hr | hr | hr
  · rw [numeral?, if_neg (by simp [hr]), hvalue _ rfl]
    simp [hr]
  · rw [numeral?, if_neg (by simp [hr]), hvalue _ rfl]
    simp [hr]
  · rw [numeral?, if_pos (by simp [hr]), l.integer?_lead h (by rw [hr]; decide),
      if_pos (l.octal_first hr)]
    simp only [hr]
    split
    · next hall => rw [l.value_of_zeros hall]; rfl
    · rfl
  · rw [numeral?, if_pos (by simp [hr]), l.integer?_lead h (by rw [hr]; decide),
      if_neg (l.decimal_first hr), hvalue 10 (by rw [hr]; rfl)]
    simp [hr]

/-! ### Literals as defaults -/

/-- Suffix letters behind a digit are dropped. -/
theorem dropSuffix_append {w s : List Char} (hc : c.isDigit = true)
    (hs : ∀ d ∈ s, isSuffixLetter d = true) : dropSuffix (w ++ c :: s) = w ++ [c] := by
  have hsuffix : isSuffixLetter c = false := by
    simp only [isSuffixLetter, Bool.or_eq_false_iff, beq_eq_false_iff_ne]
    refine ⟨⟨⟨⟨⟨?_, ?_⟩, ?_⟩, ?_⟩, ?_⟩, ?_⟩ <;> rintro rfl <;> cases hc
  have hdecimal : isDecimal c = true := by
    rw [isDecimal, if_pos (Nat.lt_of_le_of_lt (toNat_of_isDigit hc).2 (by decide)), hc]
  have hhead : ((w ++ c :: s).reverse.dropWhile isSuffixLetter).reverse = w ++ [c] := by
    rw [List.reverse_append, List.reverse_cons, List.append_assoc,
      List.dropWhile_append_of_pos (by simpa using hs), List.singleton_append,
      List.dropWhile_cons_of_neg (by simp [hsuffix]), List.reverse_cons, List.reverse_reverse]
  rw [dropSuffix, hhead, List.getLast?_concat]
  exact if_pos hdecimal

theorem isDigit_or_of_mem_separated (hbase : base ≤ 10) {ds : List (Bool × Digit base)}
    (hc : c ∈ separated ds) : c.isDigit = true ∨ c = '\'' := by
  obtain ⟨d, -, hd⟩ := List.mem_flatMap.1 hc
  split at hd
  · rcases List.mem_cons.1 hd with rfl | hd
    · exact .inr rfl
    · exact .inl (List.mem_singleton.1 hd ▸ isDigit_char hbase d.2)
  · exact .inl (List.mem_singleton.1 hd ▸ isDigit_char hbase d.2)

/-- A literal ends with a digit before its suffix. -/
theorem exists_concat (hbase : base ≤ 10) (d : Digit base) (ds : List (Bool × Digit base)) :
    ∃ w c, d.char :: separated ds = w ++ [c] ∧ c.isDigit = true := by
  rcases List.eq_nil_or_concat ds with rfl | ⟨es, e, rfl⟩
  · exact ⟨[], d.char, rfl, isDigit_char hbase d⟩
  · rw [List.concat_eq_append, separated_append]
    obtain ⟨isSeparated, e⟩ := e
    refine ⟨d.char :: separated es ++ if isSeparated then ['\''] else [], e.char, ?_,
      isDigit_char hbase e⟩
    cases isSeparated <;> simp [separated]

theorem startsHex_text : startsHex l.text = decide (l.radix = .hexadecimal) := by
  rcases l.radix_cases with ⟨hr, -⟩ | ⟨hr, hmark, hbase, -⟩
  · rcases hr with hr | hr
    · have hmark : l.radix.mark l.isCapital = Radix.binary.mark l.isCapital := by rw [hr]
      rw [text, hmark]
      cases l.isCapital <;> simp [Radix.mark, startsHex, hr]
    · have hmark : l.radix.mark l.isCapital = Radix.hexadecimal.mark l.isCapital := by rw [hr]
      rw [text, hmark]
      cases l.isCapital <;> simp [Radix.mark, startsHex, hr]
  · have hnot : decide (l.radix = .hexadecimal) = false := by
      rcases hr with hr | hr <;> rw [hr] <;> rfl
    rw [text, hmark, List.nil_append, hnot, startsHex.eq_def]
    split
    · next d x heq =>
      have hd : d ∈ separated l.more ++ l.suffix := by simp [(List.cons.inj heq).2]
      have hne : d ≠ 'x' ∧ d ≠ 'X' := by
        rcases List.mem_append.1 hd with hd | hd
        · rcases isDigit_or_of_mem_separated hbase hd with hd | rfl
          · constructor <;> rintro rfl <;> cases hd
          · decide
        · exact (by decide : ∀ c ∈ ['u', 'U', 'l', 'L'], c ≠ 'x' ∧ c ≠ 'X') d (l.suffix_letters d hd)
      simp [hne]
    · rfl

theorem dropSuffix_text (h : l.radix ≠ .hexadecimal) : dropSuffix l.text = l.core := by
  have hbase : l.radix.base ≤ 10 := by
    revert h
    cases l.radix <;> decide
  have hletters : ∀ c ∈ ['u', 'U', 'l', 'L'], isSuffixLetter c = true := by decide
  obtain ⟨w, c, hw, hc⟩ := exists_concat hbase l.first l.more
  have hsuffix : l.text = (l.radix.mark l.isCapital ++ w) ++ c :: l.suffix := by
    rw [text, ← List.cons_append, hw]
    simp
  have hcore : l.core = (l.radix.mark l.isCapital ++ w) ++ [c] := by
    rw [core, kept, if_neg h, List.append_nil, List.append_assoc, ← hw, separated_more, lead,
      List.map_cons, List.cons_append]
  rw [hsuffix, hcore]
  exact dropSuffix_append hc fun d hd => hletters d (l.suffix_letters d hd)

/-- The letters of the suffix are dropped, except behind hexadecimal digits. -/
theorem read_eq_core : (if startsHex l.text then l.text else dropSuffix l.text) = l.core := by
  rw [startsHex_text]
  by_cases h : l.radix = .hexadecimal
  · rw [if_pos (by simpa using h), text_eq, core, kept, if_pos h]
  · rw [if_neg (by simpa using h), l.dropSuffix_text h]

/-- What is shared has its value, and nothing else has one. -/
theorem ofDefault_text :
    ofDefault (String.ofList l.text) = .ok (if l.isShared then some (.int l.value) else none) := by
  obtain ⟨c, v, htext, hc⟩ : ∃ c v, l.text = c :: v ∧ c.isDigit = true := by
    rcases l.radix_cases with ⟨-, d, hmark, -⟩ | ⟨-, hmark, hbase, -⟩
    · exact ⟨'0', _, by rw [text, hmark]; rfl, rfl⟩
    · exact ⟨l.first.char, _, by rw [text, hmark]; rfl, isDigit_char hbase l.first⟩
  have hblank : ∀ c ∈ letters, isBlank c = false := by decide
  have hwords : ∀ w ∈ plainWords, w.1.toList.head?.any Char.isDigit = false := by decide
  have hsolid : IsSolid l.text := ⟨by simp [htext], fun c hc => hblank c (l.mem_letters hc)⟩
  have htrim : trimBy isBlank l.text = l.text := by
    have htrimmed : trimBy isBlank ([] ++ (l.text ++ [])) = l.text :=
      trimBy_of_solid (by simp) (by simp) hsolid
    simpa using htrimmed
  have hword : ∀ w ∈ plainWords, w.1.toList.head? ≠ l.text.head? := by
    intro w hw heq
    have hfirst := hwords w hw
    rw [heq, htext] at hfirst
    simp [hc] at hfirst
  rw [ofDefault_of_trimmed htrim hword, l.read_eq_core, l.read_core, isShared]
  cases hall : l.more.all (!·.1) with
  | false => cases l.numeral? <;> rfl
  | true =>
    rw [l.numeral?_eq hall]
    simp only [kept, Bool.true_and]
    generalize l.digits.all (·.value.val == 0) = isZero
    generalize decide (l.digits.length ≤ Digits.most) = isShort
    cases l.radix with
    | binary => rfl
    | octal => cases isZero <;> rfl
    | decimal => cases isShort <;> rfl
    | hexadecimal => cases l.suffix <;> rfl

end IntegerLiteral

/-- A default that is an integer literal of the host language has the value of the literal if the
interpreter has the literal too, and otherwise none, so that it has to be passed. Never has it another
value: octal digits are not read as decimal ones, and no hexadecimal digit is taken for a suffix. A decimal
literal without separators has its value whatever its suffix, if its digits are not too many. -/
theorem ofDefault_integer (l : IntegerLiteral) :
    ofDefault (String.ofList l.text) = .ok (if l.isShared then some (.int l.value) else none) ∧
    (l.radix = .decimal → (∀ d ∈ l.more, d.1 = false) → l.digits.length ≤ 4300 →
      ofDefault (String.ofList l.text) = .ok (some (.int l.value))) := by
  refine ⟨l.ofDefault_text, fun hr hnone hlength => ?_⟩
  have hall : l.more.all (!·.1) = true := List.all_eq_true.2 fun d hd => by simp [hnone d hd]
  have hshort : l.digits.length ≤ Digits.most := hlength
  have hshared : l.isShared = true := by simp [IntegerLiteral.isShared, hall, hr, hshort]
  rw [l.ofDefault_text, hshared, if_pos rfl]

/-- A decimal literal with a suffix. -/
theorem ofDefault_integer_of_suffix :
    ∃ l : IntegerLiteral, l.text = "42UL".toList ∧ l.radix = .decimal ∧ (∀ d ∈ l.more, d.1 = false) ∧
      l.digits.length ≤ 4300 ∧ l.value = 42 ∧ ofDefault "42UL" = .ok (some (.int 42)) := by
  obtain ⟨l, hl⟩ : ∃ l : IntegerLiteral, l =
      { radix := .decimal, isCapital := false, first := ⟨⟨4, by decide⟩, false⟩
        more := [(false, ⟨⟨2, by decide⟩, false⟩)], suffix := ['U', 'L']
        decimal_first := by decide, octal_first := by decide, suffix_letters := by decide } := ⟨_, rfl⟩
  have hliteral : l.text = "42UL".toList ∧ l.radix = .decimal ∧ (∀ d ∈ l.more, d.1 = false) ∧
      l.digits.length ≤ 4300 ∧ l.value = 42 := by
    subst hl
    decide
  obtain ⟨htext, hr, hnone, hlength, hvalue⟩ := hliteral
  have hdefault := (ofDefault_integer l).2 hr hnone hlength
  rw [htext, String.ofList_toList, hvalue] at hdefault
  exact ⟨l, htext, hr, hnone, hlength, hvalue, hdefault⟩

end Monomorph.Literal
