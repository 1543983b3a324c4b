import Monomorph.Json.Printer
import Monomorph.Json.Reader

/-!
Quoted texts. Between its quotes a character stands for itself, behind a backslash, or as one or two
16-bit units of four hexadecimal digits; above U+FFFF and with escapes it is a surrogate pair. Reading
answers these units, and joining the pairs gives the characters back, because no character is a
surrogate itself.
-/

namespace Monomorph.Json

/-! ### Units -/

theorem value?_hexDigit : ∀ k < 16, Digits.value? (hexDigit k) = some k := by decide

/-- The digits of a unit write it. -/
theorem unit?_hexDigit {n : Nat} (h : n < 0x10000) :
    unit? (hexDigit (n / 4096 % 16)) (hexDigit (n / 256 % 16)) (hexDigit (n / 16 % 16))
      (hexDigit (n % 16)) = some n := by
  have hdigit : ∀ k, Digits.value? (hexDigit (k % 16)) = some (k % 16) := fun k =>
    value?_hexDigit _ (Nat.mod_lt _ (by decide))
  simp only [unit?, hdigit, Option.bind_eq_bind, Option.bind_some, Option.pure_def,
    Option.some.injEq]
  omega

theorem unquote?_unitEscape {n : Nat} (h : n < 0x10000) (r : List Char) :
    unquote? (unitEscape n ++ r) = (unquote? r).map fun p => (n :: p.1, p.2) := by
  simp only [unitEscape, List.cons_append, List.nil_append, unquote?, unit?_hexDigit h]

/-- The units that a code point is written in. -/
def units (n : Nat) : List Nat :=
  if n < 0x10000 then [n] else [0xd800 + (n - 0x10000) / 1024, 0xdc00 + (n - 0x10000) % 1024]

theorem unquote?_charEscape {n : Nat} (h : n < 0x110000) (r : List Char) :
    unquote? (charEscape n ++ r) = (unquote? r).map fun p => (units n ++ p.1, p.2) := by
  unfold charEscape units
  split
  · next hshort => exact unquote?_unitEscape hshort r
  · rw [List.append_assoc, unquote?_unitEscape (by omega), unquote?_unitEscape (by omega),
      Option.map_map]
    rfl

theorem joinUnits_cons {n : Nat} (h : isHighUnit n = false) (r : List Nat) :
    joinUnits (n :: r) = n :: joinUnits r := by
  cases r with
  | nil => simp [joinUnits]
  | cons low r => simp [joinUnits, h]

/-- A surrogate pair is joined to the code point that it was made from. -/
theorem joinUnits_units {n : Nat} (h : n < 0x110000) (hnot : Text.isSurrogate n = false)
    (r : List Nat) : joinUnits (units n ++ r) = n :: joinUnits r := by
  unfold units
  split
  · next hshort =>
    refine joinUnits_cons ?_ r
    simp only [Text.isSurrogate, isHighUnit, Bool.and_eq_false_iff, decide_eq_false_iff_not] at hnot ⊢
    omega
  · have hhigh : isHighUnit (0xd800 + (n - 0x10000) / 1024) = true := by
      simp only [isHighUnit, Bool.and_eq_true, decide_eq_true_eq]
      omega
    have hlow : isLowUnit (0xdc00 + (n - 0x10000) % 1024) = true := by
      simp only [isLowUnit, Bool.and_eq_true, decide_eq_true_eq]
      omega
    simp only [List.cons_append, List.nil_append, joinUnits, hhigh, hlow, Bool.and_self, if_true,
      List.cons.injEq, and_true]
    omega

/-! ### Characters -/

/-- No character is a surrogate. -/
theorem isSurrogate_toNat (c : Char) : Text.isSurrogate c.toNat = false := by
  have hvalid : c.toNat < 0xd800 ∨ 0xdfff < c.toNat ∧ c.toNat < 0x110000 := c.valid
  simp only [Text.isSurrogate, Bool.and_eq_false_iff, decide_eq_false_iff_not]
  omega

theorem toNat_lt (c : Char) : c.toNat < 0x110000 := by
  have hvalid : c.toNat < 0xd800 ∨ 0xdfff < c.toNat ∧ c.toNat < 0x110000 := c.valid
  omega

/-- The units in which a character is read: those of its escape, or itself. -/
def unitsOf (ascii : Bool) (c : Char) : List Nat :=
  if ascii then units c.toNat else [c.toNat]

variable {ascii : Bool}

theorem units_of_lt {n : Nat} (h : n < 0x10000) : units n = [n] := if_pos h

theorem unitsOf_of_lt {c : Char} (h : c.toNat < 0x10000) : unitsOf ascii c = [c.toNat] := by
  unfold unitsOf
  split
  · exact units_of_lt h
  · rfl

/-- A character that needs no escape is read as it is. -/
theorem unquote?_cons {c : Char} (hquote : c ≠ '"') (hslash : c ≠ '\\') (hlow : ¬ c.toNat < 32)
    (r : List Char) : unquote? (c :: r) = (unquote? r).map fun p => (c.toNat :: p.1, p.2) := by
  rw [unquote?, if_neg hlow]
  · exact fun h => hquote h
  · exact fun _ _ _ _ _ h _ => hslash h
  · exact fun _ _ h _ => hslash h

theorem unquote?_escape {c e : Char} (hunit : c ≠ 'u') (hesc : simpleEscape? c = some e)
    (r : List Char) :
    unquote? ('\\' :: c :: r) = (unquote? r).map fun p => (e.toNat :: p.1, p.2) := by
  rw [unquote?]
  · simp only [hesc]
  · exact fun _ _ _ _ _ h _ => hunit h

/-- A character that stands for itself is one unit: in ASCII style the ones above U+FFFF are escaped.
-/
theorem unitsOf_of_plain {c : Char} (h : ¬ (ascii && decide (126 < c.toNat)) = true) :
    unitsOf ascii c = [c.toNat] := by
  unfold unitsOf
  split
  · next hstyle =>
    refine units_of_lt ?_
    simp only [hstyle, Bool.true_and, decide_eq_true_eq] at h
    omega
  · rfl

/-- Reading a quoted character answers its units. -/
theorem unquote?_quoteChar (c : Char) (r : List Char) :
    unquote? (quoteChar ascii c ++ r) =
      (unquote? r).map fun p => (unitsOf ascii c ++ p.1, p.2) := by
  -- a character with a simple escape is below U+10000, so it is one unit in either style
  have hsimple : ∀ {d : Char}, d ≠ 'u' → simpleEscape? d = some c → c.toNat < 0x10000 →
      unquote? ('\\' :: d :: r) = (unquote? r).map fun p => (unitsOf ascii c ++ p.1, p.2) :=
    fun hunit hesc hlow => by rw [unquote?_escape hunit hesc, unitsOf_of_lt hlow]; rfl
  unfold quoteChar
  split
  · next h => obtain rfl := beq_iff_eq.1 h; exact hsimple (by decide) rfl (by decide)
  next hquote =>
  split
  · next h => obtain rfl := beq_iff_eq.1 h; exact hsimple (by decide) rfl (by decide)
  next hslash =>
  split
  · next h => obtain rfl := beq_iff_eq.1 h; exact hsimple (by decide) rfl (by decide)
  split
  · next h => obtain rfl := beq_iff_eq.1 h; exact hsimple (by decide) rfl (by decide)
  split
  · next h => obtain rfl := beq_iff_eq.1 h; exact hsimple (by decide) rfl (by decide)
  split
  · next h =>
    obtain rfl : c = Char.ofNat 8 := Char.toNat_inj.1 h
    exact hsimple (by decide) rfl (by decide)
  split
  · next h =>
    obtain rfl : c = Char.ofNat 12 := Char.toNat_inj.1 h
    exact hsimple (by decide) rfl (by decide)
  split
  · next hlow =>
    rw [unquote?_charEscape (toNat_lt c), unitsOf_of_lt (by omega), units_of_lt (by omega)]
  next hlow =>
  split
  · next hascii =>
    rw [Bool.and_eq_true] at hascii
    rw [unquote?_charEscape (toNat_lt c), unitsOf, if_pos hascii.1]
  · next hplain =>
    rw [List.singleton_append, unquote?_cons (by simpa using hquote) (by simpa using hslash) hlow,
      unitsOf_of_plain hplain]
    rfl

/-! ### Texts -/

/-- The closing quote ends what reading answers, and the units of the characters stand in order. -/
theorem unquote?_quoteOf (s r : List Char) :
    unquote? (s.flatMap (quoteChar ascii) ++ '"' :: r) = some (s.flatMap (unitsOf ascii), r) := by
  induction s with
  | nil => rfl
  | cons c s ih =>
    rw [List.flatMap_cons, List.append_assoc, unquote?_quoteChar, ih]
    rfl

theorem joinUnits_unitsOf (s : List Char) :
    joinUnits (s.flatMap (unitsOf ascii)) = s.map Char.toNat := by
  induction s with
  | nil => rfl
  | cons c s ih =>
    rw [List.flatMap_cons, List.map_cons, ← ih]
    unfold unitsOf
    split
    · exact joinUnits_units (toNat_lt c) (isSurrogate_toNat c) _
    · refine joinUnits_cons ?_ _
      have hnot := isSurrogate_toNat c
      simp only [Text.isSurrogate, isHighUnit, Bool.and_eq_false_iff, decide_eq_false_iff_not] at hnot ⊢
      omega

theorem any_isSurrogate_toNat (s : List Char) : (s.map Char.toNat).any Text.isSurrogate = false := by
  rw [List.any_map, List.any_eq_false]
  intro c _
  simp [isSurrogate_toNat c]

/-- The code points of a text are its characters. -/
theorem ofPoints_toNat (s : String) : ofPoints (s.toList.map Char.toNat) = .str s := by
  rw [ofPoints, any_isSurrogate_toNat, if_neg (by simp), List.map_map]
  simp [Function.comp_def]

end Monomorph.Json
