import Monomorph.Proofs.Json.RoundTrip

/-!
Escaped text is ASCII. With this style every character of a printed value is a newline or a printable
character of ASCII, whatever its texts and names hold.
-/

namespace Monomorph.Json

open Text

/-- A newline, or a printable character of ASCII. -/
def IsPrinted (c : Char) : Prop := c = '\n' ∨ 32 ≤ c.toNat ∧ c.toNat < 127

instance (c : Char) : Decidable (IsPrinted c) := inferInstanceAs (Decidable (_ ∨ _))

/-- A text of such characters only. -/
def AllPrinted (s : List Char) : Prop := ∀ c ∈ s, IsPrinted c

instance (s : List Char) : Decidable (AllPrinted s) := inferInstanceAs (Decidable (∀ c ∈ s, _))

namespace AllPrinted

variable {c : Char} {s t : List Char}

theorem nil : AllPrinted [] := fun _ hc => absurd hc List.not_mem_nil

theorem cons (hc : IsPrinted c) (hs : AllPrinted s) : AllPrinted (c :: s) :=
  List.forall_mem_cons.2 ⟨hc, hs⟩

theorem append (hs : AllPrinted s) (ht : AllPrinted t) : AllPrinted (s ++ t) :=
  List.forall_mem_append.2 ⟨hs, ht⟩

theorem joinWith {sep : List Char} (hsep : AllPrinted sep) {parts : List (List Char)}
    (h : ∀ p ∈ parts, AllPrinted p) : AllPrinted (Text.joinWith sep parts) :=
  forall_mem_joinWith hsep h

end AllPrinted

theorem isPrinted_hexDigit : ∀ k < 16, IsPrinted (hexDigit k) := by decide

theorem allPrinted_unitEscape (n : Nat) : AllPrinted (unitEscape n) := by
  have hdigit : ∀ k, IsPrinted (hexDigit (k % 16)) := fun k =>
    isPrinted_hexDigit _ (Nat.mod_lt _ (by decide))
  exact .cons (by decide) (.cons (by decide) (.cons (hdigit _) (.cons (hdigit _)
    (.cons (hdigit _) (.cons (hdigit _) .nil)))))

theorem allPrinted_charEscape (n : Nat) : AllPrinted (charEscape n) := by
  unfold charEscape
  split
  · exact allPrinted_unitEscape n
  · exact (allPrinted_unitEscape _).append (allPrinted_unitEscape _)

theorem allPrinted_quoteChar (c : Char) : AllPrinted (quoteChar true c) := by
  unfold quoteChar
  repeat' split
  any_goals decide
  · exact allPrinted_charEscape _
  · exact allPrinted_charEscape _
  · next hlow hhigh =>
    refine .cons (.inr ?_) .nil
    simp only [Bool.true_and, decide_eq_true_eq] at hhigh
    omega

theorem allPrinted_quoteOf (s : List Char) : AllPrinted (quoteOf true s) := by
  refine .cons (by decide) (.append ?_ (by decide))
  intro c hc
  obtain ⟨d, -, hd⟩ := List.mem_flatMap.1 hc
  exact allPrinted_quoteChar d c hd

theorem allPrinted_digitsOf (n : Nat) : AllPrinted (Double.digitsOf n) := by
  intro c hc
  have hdigit := isDigit_digitsOf hc
  have hcode : c.isDigit = (48 ≤ c.val && c.val ≤ 57) := rfl
  have hvalue : c.val.toNat = c.toNat := rfl
  simp only [hcode, Bool.and_eq_true, decide_eq_true_eq, UInt32.le_iff_toNat_le, hvalue,
    UInt32.reduceToNat] at hdigit
  exact .inr (by omega)

variable {style : Style} {k : Nat}

theorem allPrinted_lineBreak (depth : Nat) : AllPrinted (lineBreak style depth) := by
  unfold lineBreak
  split
  · refine .cons (by decide) fun c hc => ?_
    rw [List.eq_of_mem_replicate hc]
    decide
  · exact .nil

theorem allPrinted_separator (depth : Nat) : AllPrinted (separator style depth) := by
  unfold separator
  split
  · exact .cons (by decide) (allPrinted_lineBreak depth)
  · decide

/-- The text of a value is ASCII if its style asks for it. -/
theorem allPrinted_printAt (hascii : style.ascii = true) {v : Json} (h : Plain k v) (depth : Nat) :
    AllPrinted (printAt style depth v) := by
  induction h generalizing depth with
  | null => rw [printAt]; decide
  | bool b => rw [printAt]; cases b <;> decide
  | int _ =>
    rw [printAt, intText]
    split
    · exact .cons (by decide) (allPrinted_digitsOf _)
    · exact allPrinted_digitsOf _
  | str s => rw [printAt, hascii]; exact allPrinted_quoteOf _
  | @arr k items _ ih =>
    have hitems : ∀ p ∈ printItems style (depth + 1) items, AllPrinted p := by
      rw [printItems_eq_map, List.forall_mem_map]
      exact fun v hv => ih v hv (depth + 1)
    cases items with
    | nil => rw [printAt]; decide
    | cons v items =>
      rw [printAt]
      · exact .cons (by decide) ((((allPrinted_lineBreak _).append
          (.joinWith (allPrinted_separator _) hitems)).append (allPrinted_lineBreak _)).append
          (by decide))
      · simp
  | @obj k fields _ htexts _ ih =>
    have hfields : ∀ f ∈ printFields style (depth + 1) fields,
        AllPrinted (quotePoints style.ascii f.1.points ++ [':', ' '] ++ f.2) := by
      rw [printFields_eq_map, List.forall_mem_map]
      intro f hf
      obtain ⟨s, hs⟩ := htexts f hf
      rw [hs, quotePoints_text, hascii]
      exact ((allPrinted_quoteOf _).append (by decide)).append (ih f hf (depth + 1))
    -- sorting the fields moves them only
    have hordered : ∀ p ∈ (if style.sorted then sortFields (printFields style (depth + 1) fields)
        else printFields style (depth + 1) fields).map fun f =>
          quotePoints style.ascii f.1.points ++ [':', ' '] ++ f.2, AllPrinted p := by
      rw [List.forall_mem_map]
      intro f hf
      refine hfields f ?_
      split at hf
      · exact List.mem_mergeSort.1 hf
      · exact hf
    cases fields with
    | nil => rw [printAt]; decide
    | cons f fields =>
      rw [printAt]
      · exact .cons (by decide) ((((allPrinted_lineBreak _).append
          (.joinWith (allPrinted_separator _) hordered)).append (allPrinted_lineBreak _)).append
          (by decide))
      · simp

end Monomorph.Json
