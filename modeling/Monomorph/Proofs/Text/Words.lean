import Mathlib.Data.List.Basic
import Monomorph.Text.Blank

/-!
Words between blanks. A word is a non-empty run of characters none of which is blank, and words that
were joined by single spaces are the words of the joined text.
-/

namespace Monomorph.Text

/-- What is said of the characters of a list is decided by going through the list, and not through all
characters. -/
instance (priority := high) decidableForallMem (P : Char → Prop) [DecidablePred P]
    (cs : List Char) : Decidable (∀ c ∈ cs, P c) :=
  List.decidableBAll P cs

/-- Non-empty, and without any blank. -/
def IsSolid (w : List Char) : Prop := w ≠ [] ∧ ∀ c ∈ w, isBlank c = false

instance (w : List Char) : Decidable (IsSolid w) :=
  decidable_of_iff ((!w.isEmpty && w.all fun c => !isBlank c) = true) (by simp [IsSolid])

variable {w : List Char} {ws : List (List Char)}

theorem IsSolid.append {v : List Char} (hw : IsSolid w) (hv : ∀ c ∈ v, isBlank c = false) :
    IsSolid (w ++ v) := by
  refine ⟨by simp [hw.1], fun c hc => ?_⟩
  rcases List.mem_append.1 hc with hc | hc
  · exact hw.2 c hc
  · exact hv c hc

/-- A blank is passed over, and any other character starts a word or joins the one after it. -/
theorem wordsOf_cons (c : Char) (cs : List Char) :
    wordsOf (c :: cs) =
      if isBlank c then wordsOf cs
      else match cs, wordsOf cs with
        | d :: _, w :: ws => if isBlank d then [c] :: w :: ws else (c :: w) :: ws
        | _, ws => [c] :: ws :=
  rfl

/-- A word is cut off at the blank after it. -/
theorem wordsOf_append (hw : IsSolid w) {r : List Char} (hr : ∀ c ∈ r.head?, isBlank c = true) :
    wordsOf (w ++ r) = w :: wordsOf r := by
  obtain ⟨hne, hsolid⟩ := hw
  induction w with
  | nil => exact absurd rfl hne
  | cons c w ih =>
    obtain ⟨hc, hsolid⟩ := List.forall_mem_cons.1 hsolid
    rw [List.cons_append, wordsOf_cons, hc]
    cases w with
    | nil =>
      cases r with
      | nil => rfl
      | cons b r =>
        have hb : isBlank b = true := hr b (by simp)
        cases hwords : wordsOf (b :: r) with
        | nil => simp [hwords]
        | cons v vs => simp [hwords, hb]
    | cons d w =>
      have hd : isBlank d = false := hsolid d List.mem_cons_self
      have hrest := ih (by simp) hsolid
      rw [List.cons_append] at hrest ⊢
      simp only [hrest, hd, Bool.false_eq_true, if_false]

theorem joinWith_cons (sep p : List Char) (h : ws ≠ []) :
    joinWith sep (p :: ws) = p ++ sep ++ joinWith sep ws := by
  cases ws with
  | nil => exact absurd rfl h
  | cons q r => rfl

/-- What holds of the separator and of all parts holds of the joined text. -/
theorem forall_mem_joinWith {P : Char → Prop} {sep : List Char} (hsep : ∀ c ∈ sep, P c)
    (hws : ∀ w ∈ ws, ∀ c ∈ w, P c) : ∀ c ∈ joinWith sep ws, P c := by
  induction ws with
  | nil => simp [joinWith]
  | cons w ws ih =>
    obtain ⟨hw, hws⟩ := List.forall_mem_cons.1 hws
    rcases eq_or_ne ws [] with rfl | hne
    · exact hw
    · rw [joinWith_cons _ _ hne]
      exact List.forall_mem_append.2 ⟨List.forall_mem_append.2 ⟨hw, hsep⟩, ih hws⟩

/-- Cutting joined words at the blanks gives the words back. -/
theorem wordsOf_joinWith (h : ∀ w ∈ ws, IsSolid w) : wordsOf (joinWith [' '] ws) = ws := by
  induction ws with
  | nil => rfl
  | cons w ws ih =>
    obtain ⟨hw, hws⟩ := List.forall_mem_cons.1 h
    rcases eq_or_ne ws [] with rfl | hne
    · have hone := wordsOf_append hw (r := []) (by simp)
      rwa [List.append_nil] at hone
    · have hspace : isBlank ' ' = true := by decide
      rw [joinWith_cons _ _ hne, List.append_assoc, wordsOf_append hw (by simp [hspace]),
        List.singleton_append, wordsOf_cons, if_pos hspace, ih hws]

theorem wordsOf_eq_nil {s : List Char} (h : wordsOf s = []) : ∀ c ∈ s, isBlank c = true := by
  induction s with
  | nil => simp
  | cons c s ih =>
    rw [wordsOf_cons] at h
    split at h
    · next hc => exact List.forall_mem_cons.2 ⟨hc, ih h⟩
    · split at h
      · split at h <;> cases h
      · cases h

/-- The first word stands after blanks, and before the end or a blank. -/
theorem exists_of_wordsOf_eq_cons {s : List Char} (h : wordsOf s = w :: ws) :
    ∃ b r, s = b ++ (w ++ r) ∧ (∀ c ∈ b, isBlank c = true) ∧ IsSolid w ∧
      (∀ c ∈ r.head?, isBlank c = true) ∧ wordsOf r = ws := by
  induction s generalizing w with
  | nil => cases h
  | cons c s ih =>
    rw [wordsOf_cons] at h
    split at h
    · next hc =>
      obtain ⟨b, r, rfl, hb, hrest⟩ := ih h
      exact ⟨c :: b, r, rfl, List.forall_mem_cons.2 ⟨hc, hb⟩, hrest⟩
    · next hc =>
      have hone : IsSolid [c] := ⟨by simp, by simpa using hc⟩
      split at h
      · next d s' v vs hwords =>
        split at h
        · next hd =>
          obtain ⟨rfl, rfl⟩ := List.cons.inj h
          exact ⟨[], d :: s', rfl, by simp, hone, by simpa using hd, hwords⟩
        · next hd =>
          obtain ⟨rfl, rfl⟩ := List.cons.inj h
          obtain ⟨b, r, hsplit, hb, hv, hrest⟩ := ih hwords
          -- the word behind starts right here, so no blank stands before it
          obtain rfl : b = [] := by
            cases b with
            | nil => rfl
            | cons e b =>
              obtain ⟨rfl, -⟩ := List.cons.inj hsplit
              exact absurd (hb d List.mem_cons_self) hd
          refine ⟨[], r, by rw [hsplit]; rfl, by simp, hone.append hv.2, hrest⟩
      · next s _ _ hnone =>
        obtain ⟨rfl, hrest⟩ := List.cons.inj h
        refine ⟨[], s, rfl, by simp, hone, ?_, hrest⟩
        intro d hd
        cases s with
        | nil => cases hd
        | cons e s =>
          obtain rfl : e = d := by simpa using hd
          cases hwords : wordsOf (e :: s) with
          | nil => exact wordsOf_eq_nil hwords e List.mem_cons_self
          | cons v vs => exact absurd hwords (hnone e s v vs rfl)

theorem isSolid_of_mem_wordsOf {s : List Char} (h : w ∈ wordsOf s) : IsSolid w := by
  obtain ⟨ws, hws⟩ : ∃ ws, wordsOf s = ws := ⟨_, rfl⟩
  rw [hws] at h
  induction ws generalizing s with
  | nil => cases h
  | cons v ws ih =>
    obtain ⟨_, r, -, -, hv, -, hrest⟩ := exists_of_wordsOf_eq_cons hws
    rcases List.mem_cons.1 h with rfl | h
    · exact hv
    · exact ih h hrest

/-- Text without needless blanks has none to lose. -/
theorem squeeze_squeeze (s : String) : squeeze (squeeze s) = squeeze s := by
  have hwords := wordsOf_joinWith fun w (hw : w ∈ wordsOf s.toList) => isSolid_of_mem_wordsOf hw
  rw [squeeze, squeeze, String.toList_ofList, hwords]

theorem trimBy_of_solid {b b' : List Char} (hb : ∀ c ∈ b, isBlank c = true)
    (hb' : ∀ c ∈ b', isBlank c = true) (hw : IsSolid w) : trimBy isBlank (b ++ (w ++ b')) = w := by
  obtain ⟨hne, hsolid⟩ := hw
  obtain ⟨c, v, rfl⟩ := List.exists_cons_of_ne_nil hne
  have hfront : (b ++ (c :: v ++ b')).dropWhile isBlank = c :: v ++ b' := by
    rw [List.dropWhile_append_of_pos hb, List.cons_append,
      List.dropWhile_cons_of_neg (by simp [hsolid c])]
  obtain ⟨d, u, hd⟩ : ∃ d u, (c :: v).reverse = d :: u := List.exists_cons_of_ne_nil (by simp)
  have hdsolid : isBlank d = false := hsolid d (List.mem_reverse.1 (by rw [hd]; simp))
  rw [trimBy, hfront, List.reverse_append, List.dropWhile_append_of_pos (by simpa using hb'), hd,
    List.dropWhile_cons_of_neg (by simp [hdsolid]), ← hd, List.reverse_reverse]

/-- A text that is one word but for blanks around it. -/
theorem trim_eq_squeeze {s : String} (h : IsSolid (squeeze s).toList) : trim s = squeeze s := by
  have hwords := wordsOf_joinWith fun w (hw : w ∈ wordsOf s.toList) => isSolid_of_mem_wordsOf hw
  have hone := wordsOf_append h (r := []) (by simp)
  rw [squeeze, String.toList_ofList] at h hone
  rw [List.append_nil, hwords] at hone
  obtain ⟨b, r, hsplit, hb, hw, -, hr⟩ := exists_of_wordsOf_eq_cons hone
  rw [trim, hsplit, squeeze, trimBy_of_solid hb (wordsOf_eq_nil hr) hw]

/-- The characters that ASCII names are made of stand between the blanks of their range and the next
blank after it. -/
theorem isBlank_of_asciiPart {c : Char} (h : (isAsciiStart c || c.isDigit) = true) :
    isBlank c = false := by
  have halpha : c.isAlpha = (decide (65 ≤ c.val ∧ c.val ≤ 90) || (97 ≤ c.val && c.val ≤ 122)) := rfl
  have hdigit : c.isDigit = (48 ≤ c.val && c.val ≤ 57) := rfl
  have hvalue : c.val.toNat = c.toNat := rfl
  have hcode : 33 ≤ c.toNat ∧ c.toNat < 0x85 := by
    simp only [isAsciiStart, halpha, hdigit, Bool.or_eq_true, Bool.and_eq_true, decide_eq_true_eq,
      beq_iff_eq, UInt32.le_iff_toNat_le, hvalue, UInt32.reduceToNat] at h
    rcases h with ((h | h) | rfl) | h
    · omega
    · omega
    · decide
    · omega
  simp only [isBlank, Bool.or_eq_false_iff, Bool.and_eq_false_iff, decide_eq_false_iff_not,
    beq_eq_false_iff_ne]
  omega

/-- A name that can be bound is a word. -/
theorem isSolid_of_isBindingName {n : String} (h : isBindingName n = true) : IsSolid n.toList := by
  unfold isBindingName isIdentifier isAscii at h
  cases hn : n.toList with
  | nil => simp [hn] at h
  | cons c r =>
    simp only [hn, Bool.and_eq_true] at h
    obtain ⟨⟨⟨hstart, hpart⟩, hascii⟩, -⟩ := h
    refine ⟨by simp, fun x hx => ?_⟩
    have hx128 : x.toNat < 128 := by simpa using List.all_eq_true.1 hascii x hx
    rcases List.mem_cons.1 hx with rfl | hx
    · simp only [isIdentifierStart, hx128, if_true] at hstart
      exact isBlank_of_asciiPart (by rw [hstart, Bool.true_or])
    · have hxpart := List.all_eq_true.1 hpart x hx
      simp only [isIdentifierPart, hx128, if_true] at hxpart
      exact isBlank_of_asciiPart hxpart

/-- A character that cannot continue an identifier is not in one. -/
theorem not_mem_of_isIdentifier_of_part {n : String} {c : Char} (hc : isIdentifierPart c = false)
    (h : isIdentifier n = true) : c ∉ n.toList := by
  have hstart : isIdentifierStart c = false := by
    unfold isIdentifierPart at hc
    unfold isIdentifierStart at hc ⊢
    split
    · next hascii =>
      rw [if_pos hascii, Bool.or_eq_false_iff] at hc
      exact hc.1
    · next hascii =>
      simp only [if_neg hascii, Bool.or_eq_false_iff] at hc
      exact hc.1.1.1
  intro hmem
  unfold isIdentifier at h
  cases hn : n.toList with
  | nil =>
    rw [hn] at hmem
    cases hmem
  | cons first rest =>
    simp only [hn, Bool.and_eq_true] at h
    rw [hn] at hmem
    rcases List.mem_cons.1 hmem with rfl | hmem
    · rw [h.1] at hstart
      cases hstart
    · rw [List.all_eq_true.1 h.2 _ hmem] at hc
      cases hc

end Monomorph.Text
