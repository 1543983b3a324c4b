import Mathlib.Algebra.Group.Nat.Defs
import Mathlib.Data.List.Nodup
import Mathlib.Data.List.TakeWhile
import Monomorph.Proofs.Json.Quote
import Monomorph.Proofs.Text.Words

/-!
Printed values read back. The machine that reads consumes the text of a value in one piece: it ends
up as if the value had been fed to it. For a number this needs a text after it that does not go on
with it, and for arrays and objects room on the stack; the rest is one step for each token.
-/

namespace Monomorph.Json

open Text

/-- The values whose text reads back to them, with a bound on how deeply they nest: no doubles, no
integers with too many digits, and only objects whose names are different texts. -/
inductive Plain : Nat → Json → Prop
  | null {k : Nat} : Plain k null
  | bool {k : Nat} (b : Bool) : Plain k (bool b)
  | int {k : Nat} {n : Int} (small : n.natAbs < 10 ^ Digits.most) : Plain k (int n)
  | str {k : Nat} (s : String) : Plain k (str s)
  | arr {k : Nat} {items : List Json} (plain : ∀ v ∈ items, Plain k v) : Plain (k + 1) (arr items)
  | obj {k : Nat} {fields : List (FieldName × Json)} (distinct : (fields.map (·.1)).Nodup)
      (texts : ∀ f ∈ fields, ∃ s, f.1 = .text s) (plain : ∀ f ∈ fields, Plain k f.2) :
      Plain (k + 1) (obj fields)

/-! ### Numbers -/

/-- A text that does not go on with a number before it. -/
def Delimits (r : List Char) : Prop :=
  ∀ c ∈ r.head?, c.isDigit = false ∧ c ≠ '.' ∧ c ≠ 'e' ∧ c ≠ 'E'

variable {r rest : List Char} {n : Nat}

theorem isDigit_digitsOf {c : Char} (h : c ∈ Double.digitsOf n) : c.isDigit = true :=
  Nat.isDigit_of_mem_toDigits (by decide) (by decide) h

theorem takeWhile_isDigit {ds : List Char} (hds : ∀ c ∈ ds, c.isDigit = true) (hr : Delimits r) :
    (ds ++ r).takeWhile Char.isDigit = ds := by
  rw [List.takeWhile_append_of_pos hds]
  cases r with
  | nil => simp
  | cons c r => simp [(hr c rfl).1]

theorem digitChar_ne_zero : ∀ d < 10, d ≠ 0 → Nat.digitChar d ≠ '0' := by decide

/-- Only the number zero is written with a leading zero. -/
theorem head?_digitsOf (hn : n ≠ 0) : (Double.digitsOf n).head? ≠ some '0' := by
  induction n using Nat.strongRecOn with
  | _ n ih =>
    unfold Double.digitsOf at ih ⊢
    rw [Nat.toDigits_eq_if (by decide)]
    split
    · next hlt => simpa using digitChar_ne_zero n hlt hn
    · next hge =>
      rw [List.head?_append_of_ne_nil _ Nat.toDigits_ne_nil]
      exact ih (n / 10) (by omega) (by omega)

theorem ofDigits_digitsOf : ofDigits (Double.digitsOf n) = n := by
  have hfold : ofDigits (Double.digitsOf n) = Nat.ofDigitChars 10 (Nat.toDigits 10 n) 0 := by
    simp only [ofDigits, Double.digitsOf, Nat.ofDigitChars, Nat.mul_comm]
    rfl
  rw [hfold, Nat.ofDigitChars_toDigits (by decide) (by decide)]

theorem fraction_of_delimits (hr : Delimits r) : fraction r = ([], r) := by
  cases r with
  | nil => rfl
  | cons c r =>
    unfold fraction
    split
    · next h => exact absurd (List.cons.inj h).1 (hr c rfl).2.1
    · rfl

theorem exponent?_of_delimits (hr : Delimits r) : exponent? r = none := by
  cases r with
  | nil => rfl
  | cons c r =>
    obtain ⟨-, -, hlower, hupper⟩ := hr c rfl
    unfold exponent?
    split
    all_goals simp_all

/-- The digits of a number are read as one token. -/
theorem number?_digitsOf (negative : Bool) (hsmall : n < 10 ^ Digits.most) (hr : Delimits r) :
    number? negative (Double.digitsOf n ++ r) =
      some (.scalar (int (if negative then -(n : Int) else n)), r) := by
  have hne : (Double.digitsOf n).isEmpty = false := List.isEmpty_eq_false_iff.2 Nat.toDigits_ne_nil
  have hlength : ¬ Digits.most < (Double.digitsOf n).length :=
    Nat.not_lt.2 ((Nat.length_toDigits_le_iff (by decide) (by decide)).2 hsmall)
  unfold number?
  extract_lets whole
  have hwhole : whole = Double.digitsOf n := by
    simp only [whole]
    split
    · next tail h =>
      rcases eq_or_ne n 0 with rfl | hn
      · rfl
      · have hhead := head?_digitsOf hn
        have happend : (Double.digitsOf n ++ r).head? = (Double.digitsOf n).head? :=
          List.head?_append_of_ne_nil _ Nat.toDigits_ne_nil
        rw [← happend, h] at hhead
        exact absurd rfl hhead
    · exact takeWhile_isDigit (fun _ hc => isDigit_digitsOf hc) hr
  simp only [hwhole, hne, List.drop_left, fraction_of_delimits hr, exponent?_of_delimits hr,
    ofDigits_digitsOf, hlength, if_false, List.isEmpty_nil, Bool.not_true, Bool.false_eq_true]

/-! ### Tokens -/

variable {ascii : Bool}

/-- What starts with no mark and no name is a number. -/
theorem token?_of_unnamed {c : Char} (hmark : c ∉ ['[', ']', '\x7b', '\x7d', ',', ':', '"'])
    (hname : ∀ p ∈ named, p.1.isPrefixOf (c :: r) = false) :
    token? (c :: r) = if c == '-' then number? true r else number? false (c :: r) := by
  have hfind : named.find? (fun p => p.1.isPrefixOf (c :: r)) = none :=
    List.find?_eq_none.2 fun p hp => by simp [hname p hp]
  simp only [List.mem_cons, List.not_mem_nil, or_false, not_or] at hmark
  obtain ⟨h₁, h₂, h₃, h₄, h₅, h₆, h₇⟩ := hmark
  rw [token?, hfind]
  all_goals assumption

theorem token?_digit {c : Char} (hc : c.isDigit = true) :
    token? (c :: r) = number? false (c :: r) := by
  have hother : ∀ d : Char, d.isDigit = false → (d == c) = false := fun d hd =>
    beq_eq_false_iff_ne.2 fun h => by simp [h, hc] at hd
  rw [token?_of_unnamed]
  · rw [beq_eq_false_iff_ne.2 (fun h => by simp [h] at hc), if_neg (by simp)]
  · intro hmem
    have hmark : ∀ d ∈ ['[', ']', '\x7b', '\x7d', ',', ':', '"'], d.isDigit = false := by decide
    simp [hmark c hmem] at hc
  · simp [named, List.isPrefixOf, hother]

/-- The text of an integer is one token. -/
theorem token?_intText {n : Int} (hsmall : n.natAbs < 10 ^ Digits.most) (hr : Delimits r) :
    token? (intText n ++ r) = some (.scalar (int n), r) := by
  obtain ⟨c, ds, hds⟩ : ∃ c ds, Double.digitsOf n.natAbs = c :: ds :=
    List.exists_cons_of_ne_nil Nat.toDigits_ne_nil
  have hdigit : c.isDigit = true := isDigit_digitsOf (n := n.natAbs) (by simp [hds])
  unfold intText
  split
  · next hneg =>
    have hread := number?_digitsOf true hsmall hr
    have hvalue : (-(n.natAbs : Int)) = n := by omega
    rw [hvalue, if_pos rfl] at hread
    have hother : ('I' == c) = false := beq_eq_false_iff_ne.2 fun h => by simp [← h] at hdigit
    rw [List.cons_append, token?_of_unnamed (by decide), beq_self_eq_true, if_pos rfl, hread]
    simp [named, hds, List.isPrefixOf, hother]
  · next hpos =>
    have hread := number?_digitsOf false hsmall hr
    have hvalue : (n.natAbs : Int) = n := by omega
    rw [hvalue, if_neg (by simp)] at hread
    rw [hds, List.cons_append] at hread ⊢
    rw [token?_digit hdigit, hread]

/-- A quoted text is one token. -/
theorem token?_quoteOf (s : List Char) :
    token? (quoteOf ascii s ++ r) = some (.text (s.map Char.toNat), r) := by
  simp only [quoteOf, List.cons_append, List.append_assoc, List.nil_append, token?,
    unquote?_quoteOf, Option.map_some, joinUnits_unitsOf]

theorem quotePoints_text (s : String) :
    quotePoints ascii (FieldName.text s).points = quoteOf ascii s.toList := by
  simp [quotePoints, quoteOf, FieldName.points, List.flatMap_map, quotePoint, isSurrogate_toNat]

theorem ofPoints_name (s : String) : FieldName.ofPoints (s.toList.map Char.toNat) = .text s := by
  rw [FieldName.ofPoints, any_isSurrogate_toNat, if_neg (by simp), List.map_map]
  simp [Function.comp_def]

/-! ### The machine -/

variable {style : Style} {k : Nat} {m m' : Machine} {b s : List Char}

/-- Blanks between tokens. -/
def IsGap (b : List Char) : Prop := ∀ c ∈ b, isSpace c = true

/-- One step of the machine: the blanks are passed over, and the token is taken. -/
theorem run_token {t : Tok} (hb : IsGap b) (hs : token? s = some (t, r))
    (hhead : ∀ c ∈ s.head?, isSpace c = false) (hlt : r.length < s.length) (ht : m.step t = .ok m') :
    m.run (b ++ s) = m'.run r := by
  obtain ⟨c, s, rfl⟩ : ∃ c s', s = c :: s' :=
    List.exists_cons_of_ne_nil fun h => by simp [h] at hlt
  have hdrop : (b ++ c :: s).dropWhile isSpace = c :: s := by
    rw [List.dropWhile_append_of_pos hb, List.dropWhile_cons_of_neg (by simp [hhead c rfl])]
  have hle : r.length < (b ++ c :: s).length := by
    rw [List.length_append]
    omega
  rw [Machine.run]
  simp only [hdrop, hs, hle, if_true, ht]

/-- A mark is a token of one character. -/
theorem run_mark {c : Char} {t : Tok} (hb : IsGap b) (hc : token? (c :: r) = some (t, r))
    (hspace : isSpace c = false) (ht : m.step t = .ok m') : m.run (b ++ c :: r) = m'.run r :=
  run_token hb hc (by simpa using hspace) (by simp) ht

/-- The machine waits for a value. -/
def Machine.Awaits (m : Machine) : Prop := m.mode = .value ∨ m.mode = .valueOrClose

theorem Machine.Awaits.step_eq (hm : m.Awaits) {t : Tok} (ht : t ≠ .closeArr) :
    m.step t = m.begin t := by
  obtain ⟨mode, stack, fields, pending⟩ := m
  rcases hm with rfl | rfl <;> cases t <;> first | rfl | exact absurd rfl ht

theorem printItems_eq_map (depth : Nat) (items : List Json) :
    printItems style depth items = items.map (printAt style depth) := by
  induction items with
  | nil => rw [printItems, List.map_nil]
  | cons v items ih => rw [printItems, ih, List.map_cons]

theorem printFields_eq_map (depth : Nat) (fields : List (FieldName × Json)) :
    printFields style depth fields = fields.map fun f => (f.1, printAt style depth f.2) := by
  induction fields with
  | nil => rw [printFields, List.map_nil]
  | cons f fields ih => rw [printFields, ih, List.map_cons]

theorem isGap_lineBreak (style : Style) (depth : Nat) : IsGap (lineBreak style depth) := by
  intro c hc
  unfold lineBreak at hc
  split at hc
  · rcases List.mem_cons.1 hc with rfl | hc
    · rfl
    · rw [List.eq_of_mem_replicate hc]
      rfl
  · cases hc

theorem exists_separator (style : Style) (depth : Nat) :
    ∃ b, IsGap b ∧ separator style depth = ',' :: b := by
  unfold separator
  split
  · exact ⟨_, isGap_lineBreak style depth, rfl⟩
  · exact ⟨[' '], by simp [IsGap, isSpace], rfl⟩

theorem delimits_lineBreak (depth : Nat) {c : Char} (hc : Delimits (c :: r)) :
    Delimits (lineBreak style depth ++ c :: r) := by
  unfold lineBreak
  split
  · simp [Delimits]
  · exact hc

/-! ### Values -/

/-- The machine that meets the text of a value while it waits for one ends up as if the value had
been fed to it. -/
def Reads (style : Style) (k : Nat) (v : Json) : Prop :=
  ∀ (m : Machine) (depth : Nat) (b r : List Char), m.Awaits → m.stack.length + k ≤ maxDepth →
    IsGap b → Delimits r →
      m.run (b ++ (printAt style depth v ++ r)) = (Machine.feed m.stack v).run r

/-- The items of an array, up to its closing bracket. -/
theorem run_items {items : List Json} (hitems : ∀ v ∈ items, Reads style k v) (hne : items ≠ [])
    {mode : Mode} (stack : List Frame) (done : List Json) (depth : Nat)
    (hm : mode = .value ∨ mode = .valueOrClose) (hroom : stack.length + 1 + k ≤ maxDepth)
    (hb : IsGap b) :
    (Machine.mk mode (.arr done :: stack) [] "").run
        (b ++ (joinWith (separator style (depth + 1)) (printItems style (depth + 1) items) ++
          (lineBreak style depth ++ ']' :: r))) =
      (Machine.feed stack (.arr (done.reverse ++ items))).run r := by
  obtain ⟨gap, hgap, hsep⟩ := exists_separator style (depth + 1)
  rw [hsep]
  induction items generalizing mode done b with
  | nil => exact absurd rfl hne
  | cons v items ih =>
    obtain ⟨hv, hitems⟩ := List.forall_mem_cons.1 hitems
    have hvalue := fun r => hv (.mk mode (.arr done :: stack) [] "") (depth + 1) b r hm hroom hb
    rcases eq_or_ne items [] with rfl | hrest
    · have hclose : Delimits (lineBreak style depth ++ ']' :: r) :=
        delimits_lineBreak depth (by simp [Delimits])
      rw [printItems, printItems, joinWith, hvalue _ hclose, Machine.feed,
        run_mark (isGap_lineBreak style depth) rfl rfl rfl, List.reverse_cons]
    · have hprinted : printItems style (depth + 1) items ≠ [] := by
        simpa [printItems_eq_map] using hrest
      have hcomma : ∀ r, Delimits (',' :: r) := fun r => by simp [Delimits]
      rw [printItems, joinWith_cons _ _ hprinted, List.append_assoc, List.append_assoc,
        List.cons_append, hvalue _ (hcomma _), Machine.feed, ← List.nil_append (',' :: _),
        run_mark (by simp [IsGap]) rfl rfl rfl, ih hitems hrest (v :: done) (.inl rfl) hgap,
        List.reverse_cons, List.append_assoc, List.singleton_append]

/-- A name and its colon. -/
theorem run_name {mode : Mode} {stack : List Frame} {done : List (FieldName × Json)}
    (hm : mode = .name ∨ mode = .nameOrClose) (hb : IsGap b) (s : String) :
    (Machine.mk mode stack done "").run
        (b ++ (quotePoints ascii (FieldName.text s).points ++ ':' :: r)) =
      (Machine.mk .value (.obj done (.text s) :: stack) [] "").run r := by
  have hname : (Machine.mk mode stack done "").step (.text (s.toList.map Char.toNat)) =
      .ok ⟨.colon, stack, done, .text s⟩ := by
    rw [← ofPoints_name s]
    rcases hm with rfl | rfl <;> rfl
  have hlt : (':' :: r).length < (quoteOf ascii s.toList ++ ':' :: r).length := by
    simp only [List.length_append, quoteOf, List.length_cons]
    omega
  rw [quotePoints_text, run_token hb (token?_quoteOf _) (by simp [quoteOf, isSpace]) hlt hname,
    ← List.nil_append (':' :: _), run_mark (by simp [IsGap]) rfl rfl rfl]

theorem put_of_fresh {name : FieldName} {v : Json} {done : List (FieldName × Json)}
    (h : name ∉ done.map (·.1)) : Record.put name v done = done ++ [(name, v)] := by
  induction done with
  | nil => rfl
  | cons f done ih =>
    rw [List.map_cons, List.mem_cons, not_or] at h
    rw [Record.put, if_neg (by simpa using Ne.symm h.1), ih h.2, List.cons_append]

/-- The fields of an object, up to its closing brace. -/
theorem run_fields {fields : List (FieldName × Json)} (hfields : ∀ f ∈ fields, Reads style k f.2)
    (htexts : ∀ f ∈ fields, ∃ s, f.1 = .text s) (hne : fields ≠ []) {mode : Mode}
    (stack : List Frame) (done : List (FieldName × Json)) (depth : Nat)
    (hm : mode = .name ∨ mode = .nameOrClose) (hroom : stack.length + 1 + k ≤ maxDepth)
    (hnames : ((done ++ fields).map (·.1)).Nodup) (hb : IsGap b) :
    (Machine.mk mode stack done "").run
        (b ++ (joinWith (separator style (depth + 1))
          ((printFields style (depth + 1) fields).map fun f =>
            quotePoints style.ascii f.1.points ++ [':', ' '] ++ f.2) ++
          (lineBreak style depth ++ '\x7d' :: r))) =
      (Machine.feed stack (.obj (done ++ fields))).run r := by
  obtain ⟨gap, hgap, hsep⟩ := exists_separator style (depth + 1)
  rw [hsep]
  induction fields generalizing mode done b with
  | nil => exact absurd rfl hne
  | cons f fields ih =>
    obtain ⟨name, v⟩ := f
    obtain ⟨hv, hrests⟩ := List.forall_mem_cons.1 hfields
    obtain ⟨⟨s, rfl⟩, hresttexts⟩ := List.forall_mem_cons.1 htexts
    have hput : Record.put (.text s) v done = done ++ [(.text s, v)] := by
      refine put_of_fresh fun hmem => ?_
      rw [List.map_append, List.nodup_append] at hnames
      exact hnames.2.2 _ hmem _ List.mem_cons_self rfl
    have hvalue := fun r => hv (.mk .value (.obj done (.text s) :: stack) [] "") (depth + 1) [' '] r
      (.inl rfl) hroom (by simp [IsGap, isSpace])
    simp only [Machine.feed, hput, List.singleton_append] at hvalue
    rcases eq_or_ne fields [] with rfl | hrest
    · have hclose : Delimits (lineBreak style depth ++ '\x7d' :: r) :=
        delimits_lineBreak depth (by simp [Delimits])
      simp only [printFields, List.map_cons, List.map_nil, joinWith, List.append_assoc,
        List.cons_append, List.nil_append]
      rw [run_name hm hb, hvalue _ hclose, run_mark (isGap_lineBreak style depth) rfl rfl rfl]
    · have hprinted : (printFields style (depth + 1) fields).map (fun f =>
          quotePoints style.ascii f.1.points ++ [':', ' '] ++ f.2) ≠ [] := by
        simpa [printFields_eq_map] using hrest
      have hcomma : ∀ r, Delimits (',' :: r) := fun r => by simp [Delimits]
      have hrun := ih hrests hresttexts hrest (done ++ [(.text s, v)]) (.inl rfl)
        (by simpa using hnames) hgap
      rw [List.append_assoc, List.singleton_append] at hrun
      rw [printFields, List.map_cons, joinWith_cons _ _ hprinted]
      simp only [List.append_assoc, List.cons_append, List.nil_append] at hrun ⊢
      rw [run_name hm hb, hvalue _ (hcomma _), ← List.nil_append (',' :: _),
        run_mark (by simp [IsGap]) rfl rfl rfl, hrun]

/-- A value that is one token. -/
theorem reads_of_token {v : Json} {t : Tok} {s : List Char}
    (hprint : ∀ depth, printAt style depth v = s) (hne : s ≠ [])
    (hhead : ∀ c ∈ s.head?, isSpace c = false)
    (htoken : ∀ r, Delimits r → token? (s ++ r) = some (t, r)) (hclose : t ≠ .closeArr)
    (ht : ∀ m : Machine, m.begin t = .ok (.feed m.stack v)) : Reads style k v := by
  intro m depth b r hm _ hb hr
  rw [hprint]
  refine run_token hb (htoken r hr) ?_ ?_ (by rw [hm.step_eq hclose, ht])
  · rwa [List.head?_append_of_ne_nil _ hne]
  · have hpos := List.length_pos_of_ne_nil hne
    rw [List.length_append]
    omega

theorem reads_int {n : Int} (hsmall : n.natAbs < 10 ^ Digits.most) : Reads style k (int n) := by
  have hspace : ∀ c, c.isDigit = true ∨ c = '-' → isSpace c = false := by
    rintro c (hc | rfl)
    · simp only [isSpace, Bool.or_eq_false_iff, beq_eq_false_iff_ne]
      refine ⟨⟨⟨?_, ?_⟩, ?_⟩, ?_⟩ <;> rintro rfl <;> simp at hc
    · rfl
  have hhead : ∀ c ∈ intText n, c.isDigit = true ∨ c = '-' := by
    intro c hc
    unfold intText at hc
    split at hc
    · rcases List.mem_cons.1 hc with rfl | hc
      · exact .inr rfl
      · exact .inl (isDigit_digitsOf hc)
    · exact .inl (isDigit_digitsOf hc)
  have hne : intText n ≠ [] := by
    unfold intText
    split
    · simp
    · exact Nat.toDigits_ne_nil
  exact reads_of_token (fun _ => rfl) hne
    (fun c hc => hspace c (hhead c (List.mem_of_mem_head? hc))) (fun _ => token?_intText hsmall)
    (by simp) fun _ => rfl

theorem reads_str (t : String) : Reads style k (str t) :=
  reads_of_token (s := quoteOf style.ascii t.toList) (fun _ => rfl) (by simp [quoteOf])
    (by simp [quoteOf, isSpace]) (fun _ _ => token?_quoteOf _) (by simp) fun _ => by
      rw [Machine.begin, ofPoints_toNat]

theorem reads_null : Reads style k null :=
  reads_of_token (s := "null".toList) (fun _ => rfl) (by simp) (by simp [isSpace]) (fun _ _ => rfl)
    (by simp) fun _ => rfl

theorem reads_bool (b : Bool) : Reads style k (bool b) := by
  cases b with
  | false =>
    exact reads_of_token (s := "false".toList) (fun _ => rfl) (by simp) (by simp [isSpace])
      (fun _ _ => rfl) (by simp) fun _ => rfl
  | true =>
    exact reads_of_token (s := "true".toList) (fun _ => rfl) (by simp) (by simp [isSpace])
      (fun _ _ => rfl) (by simp) fun _ => rfl

theorem begin_open (hroom : m.stack.length + (k + 1) ≤ maxDepth) {t : Tok} {next : Machine}
    (ht : t = .openArr ∧ next = ⟨.valueOrClose, .arr [] :: m.stack, [], ""⟩ ∨
      t = .openObj ∧ next = ⟨.nameOrClose, m.stack, [], ""⟩) : m.begin t = .ok next := by
  have hlt : m.stack.length < maxDepth := by omega
  rcases ht with ⟨rfl, rfl⟩ | ⟨rfl, rfl⟩ <;> simp [Machine.begin, hlt]

theorem reads_arr {items : List Json} (h : ∀ v ∈ items, Reads style k v) :
    Reads style (k + 1) (arr items) := by
  intro m depth b r hm hroom hb hr
  have hopen : m.step .openArr = .ok ⟨.valueOrClose, .arr [] :: m.stack, [], ""⟩ := by
    rw [hm.step_eq (by simp), begin_open hroom (.inl ⟨rfl, rfl⟩)]
  cases items with
  | nil =>
    rw [printAt, List.cons_append, List.singleton_append, run_mark hb rfl rfl hopen,
      ← List.nil_append (']' :: r), run_mark (by simp [IsGap]) rfl rfl rfl]
    rfl
  | cons v items =>
    have hrun := run_items (r := r) h (by simp) m.stack [] depth
      (.inr rfl : Mode.valueOrClose = .value ∨ _) (by omega) (isGap_lineBreak style (depth + 1))
    rw [printAt, List.cons_append, run_mark hb rfl rfl hopen]
    · simpa only [List.append_assoc, List.singleton_append, List.reverse_nil, List.nil_append]
        using hrun
    · simp

theorem reads_obj (hstyle : style.sorted = false) {fields : List (FieldName × Json)}
    (h : ∀ f ∈ fields, Reads style k f.2) (hnames : (fields.map (·.1)).Nodup)
    (htexts : ∀ f ∈ fields, ∃ s, f.1 = .text s) : Reads style (k + 1) (obj fields) := by
  intro m depth b r hm hroom hb hr
  have hopen : m.step .openObj = .ok ⟨.nameOrClose, m.stack, [], ""⟩ := by
    rw [hm.step_eq (by simp), begin_open hroom (.inr ⟨rfl, rfl⟩)]
  cases fields with
  | nil =>
    rw [printAt, List.cons_append, List.singleton_append, run_mark hb rfl rfl hopen,
      ← List.nil_append ('\x7d' :: r), run_mark (by simp [IsGap]) rfl rfl rfl]
  | cons f fields =>
    have hrun := run_fields (r := r) h htexts (by simp) m.stack [] depth
      (.inr rfl : Mode.nameOrClose = .name ∨ _) (by omega) hnames (isGap_lineBreak style (depth + 1))
    rw [printAt, List.cons_append, run_mark hb rfl rfl hopen]
    · simpa only [hstyle, Bool.false_eq_true, if_false, List.append_assoc, List.singleton_append,
        List.nil_append] using hrun
    · simp

theorem reads_of_plain (hstyle : style.sorted = false) {v : Json} (h : Plain k v) :
    Reads style k v := by
  induction h with
  | null => exact reads_null
  | bool b => exact reads_bool b
  | int hsmall => exact reads_int hsmall
  | str s => exact reads_str s
  | arr _ ih => exact reads_arr ih
  | obj hnames htexts _ ih => exact reads_obj hstyle ih hnames htexts

/-- A printed value reads back, blanks after it ignored. -/
theorem read_print (hstyle : style.sorted = false) {v : Json} (h : Plain k v) (hk : k ≤ maxDepth)
    (gap : String) (hgap : IsGap gap.toList) : read (v.print style ++ gap) = .ok v := by
  have hdelimits : Delimits gap.toList := by
    intro c hc
    have hspace := hgap c (List.mem_of_mem_head? hc)
    simp only [isSpace, Bool.or_eq_true, beq_iff_eq] at hspace
    rcases hspace with ((rfl | rfl) | rfl) | rfl <;> decide
  have hrun := reads_of_plain hstyle h ⟨.value, [], [], ""⟩ 0 [] gap.toList (.inl rfl) (by simpa)
    (by simp [IsGap]) hdelimits
  have hend : gap.toList.dropWhile isSpace = [] := List.dropWhile_eq_nil_iff.2 hgap
  rw [read, print, String.toList_append, String.toList_ofList]
  rw [List.nil_append] at hrun
  rw [hrun, Machine.feed, Machine.run, hend]

end Monomorph.Json
