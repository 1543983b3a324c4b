import Mathlib.Combinatorics.Pigeonhole
import Monomorph.Proofs.Token.Extent
import Monomorph.Token.StringLiteral

/-!
Delimiters of raw literals. The closing texts of the delimiters that are tried differ behind their
parenthesis, so no two of them occur at the same place of a text. Hence among the delimiters up to the
length of a text one is free, and the first free one is taken. It is short unless the text is huge.
-/

namespace Monomorph.StringLiteral

open Lexer Text

variable {c : Char} {m n : Nat} {s : List Char}

/-- The text that ends a raw literal with the delimiter of this number. -/
def closer (n : Nat) : List Char := rawCloser (delimiter n)

theorem isDelimiterChar_of_isDigit (h : c.isDigit = true) : isDelimiterChar c = true := by
  have hall : ∀ k < 128, (Char.ofNat k).isDigit = true → isDelimiterChar (Char.ofNat k) = true := by
    decide
  have hdigit : c.isDigit = (48 ≤ c.val && c.val ≤ 57) := rfl
  have hvalue : c.val.toNat = c.toNat := rfl
  have hcode : c.toNat < 128 := by
    simp only [hdigit, Bool.and_eq_true, decide_eq_true_eq, UInt32.le_iff_toNat_le, hvalue,
      UInt32.reduceToNat] at h
    omega
  have hc := hall c.toNat hcode
  rw [Char.ofNat_toNat] at hc
  exact hc h

theorem isDelimiterChar_of_mem (h : c ∈ delimiter n) : isDelimiterChar c = true := by
  have hword : ∀ c ∈ "npe_doc".toList, isDelimiterChar c = true := by decide
  unfold delimiter at h
  split at h
  · exact hword c h
  · rcases List.mem_append.1 h with h | h
    · exact hword c h
    · exact isDelimiterChar_of_isDigit (Nat.isDigit_of_mem_toDigits (by decide) (by decide) h)

/-- Different numbers have different delimiters. -/
theorem delimiter_injective (h : delimiter m = delimiter n) : m = n := by
  have hdigits : ∀ k, Nat.toDigits 10 k ≠ [] := fun _ => Nat.toDigits_ne_nil
  unfold delimiter at h
  split at h <;> split at h
  · next hm hn => rw [hm, hn]
  · exact absurd (List.self_eq_append_right.1 h) (hdigits n)
  · exact absurd (List.append_right_eq_self.1 h) (hdigits m)
  · have hnumber := congrArg (fun ds => Nat.ofDigitChars 10 ds 0) (List.append_cancel_left h)
    simpa [Nat.ofDigitChars_toDigits] using hnumber

/-- The delimiter in front of a quote can be read off. -/
theorem takeWhile_delimiter (n : Nat) (t : List Char) :
    (delimiter n ++ '"' :: t).takeWhile isDelimiterChar = delimiter n := by
  have hquote : isDelimiterChar '"' = false := by decide
  exact takeWhile_append_eq_left_iff.2 ⟨fun c hc => isDelimiterChar_of_mem hc, by simpa using hquote⟩

/-- Only one of the closing texts stands at a place. -/
theorem eq_of_prefix_closer (hm : closer m <+: s) (hn : closer n <+: s) : m = n := by
  obtain ⟨t, rfl⟩ := hm
  obtain ⟨t', heq⟩ := hn
  have htail : delimiter n ++ '"' :: t' = delimiter m ++ '"' :: t := by
    simpa [closer, rawCloser] using heq
  have hsame := congrArg (List.takeWhile isDelimiterChar) htail
  rw [takeWhile_delimiter, takeWhile_delimiter] at hsame
  exact (delimiter_injective hsame).symm

/-- A text has room for no more closing texts than it has characters. -/
theorem exists_free (s : List Char) : ∃ n ≤ s.length, ¬ closer n <:+: s := by
  by_contra hnone
  have hall : ∀ n ≤ s.length, ∃ i < s.length, closer n <+: s.drop i := by
    intro n hn
    obtain ⟨u, t, rfl⟩ : closer n <:+: s := by
      by_contra hfree
      exact hnone ⟨n, hn, hfree⟩
    refine ⟨u.length, ?_, ?_⟩
    · simp only [closer, rawCloser, List.length_append, List.length_cons]
      omega
    · rw [List.append_assoc, List.drop_left]
      exact List.prefix_append _ t
  choose! place hlt hstarts using hall
  obtain ⟨m, hm, n, hn, hne, hsame⟩ := Finset.exists_ne_map_eq_of_card_lt_of_maps_to
    (s := Finset.range (s.length + 1)) (t := Finset.range s.length) (by simp) (f := place)
    fun n hn => by
      have hn : n < s.length + 1 := by simpa using hn
      simpa using hlt n (Nat.lt_succ_iff.1 hn)
  have hm' := hstarts m (Nat.lt_succ_iff.1 (Finset.mem_range.1 hm))
  rw [hsame] at hm'
  exact hne (eq_of_prefix_closer hm' (hstarts n (Nat.lt_succ_iff.1 (Finset.mem_range.1 hn))))

theorem isNone_through?_iff {part s : List Char} :
    (through? part s).isNone = true ↔ ¬ part <:+: s := by
  rw [Option.isNone_iff_eq_none]
  constructor
  · intro hnone hinfix
    have hsome := isSome_through? hinfix
    rw [hnone] at hsome
    cases hsome
  · intro hfree
    by_contra hsome
    obtain ⟨k, hk⟩ := Option.ne_none_iff_exists'.1 hsome
    obtain ⟨w, t, rfl, -, ⟨u, rfl⟩, -⟩ := exists_takes_of_through? hk
    exact hfree ⟨u, t, rfl⟩

/-- The search for a delimiter ends at the first one whose closing text does not occur, and tries no
more of them than the text has characters before that. -/
theorem exists_freeDelimiter (s : List Char) :
    ∃ n ≤ s.length, freeDelimiter s = delimiter n ∧ ¬ closer n <:+: s ∧
      ∀ m < n, closer m <:+: s := by
  obtain ⟨k, hk, hfree⟩ := exists_free s
  have hpassed : ∀ j, (!(through? (rawCloser (delimiter j)) s).isNone) = true → closer j <:+: s := by
    intro j hj
    by_contra hfree
    have hnone : (through? (rawCloser (delimiter j)) s).isNone = true := isNone_through?_iff.2 hfree
    rw [hnone] at hj
    cases hj
  unfold freeDelimiter
  dsimp only
  cases hfind : (List.range (s.length + 1)).find? fun n =>
      (through? (rawCloser (delimiter n)) s).isNone with
  | none => exact absurd (hpassed k (List.find?_range_eq_none.1 hfind k (by omega))) hfree
  | some n =>
    obtain ⟨hn, hrange, hbefore⟩ := List.find?_range_eq_some.1 hfind
    exact ⟨n, by simpa [Nat.lt_succ_iff] using hrange, rfl, isNone_through?_iff.1 hn,
      fun m hm => hpassed m (hbefore m hm)⟩

/-- The word of all delimiters leaves room for nine digits. -/
theorem length_delimiter_le_iff : (delimiter n).length ≤ 16 ↔ n < 10 ^ 9 := by
  unfold delimiter
  split
  · next hzero => simp [hzero]
  · have hdigits : (Nat.toDigits 10 n).length ≤ 9 ↔ n < 10 ^ 9 :=
      Nat.length_toDigits_le_iff (by decide) (by decide)
    have hword : "npe_doc".toList.length = 7 := by decide
    rw [List.length_append, hword, ← hdigits]
    omega

theorem length_closer_le (h : n < 10 ^ 9) : (closer n).length ≤ 18 := by
  have hdelimiter := length_delimiter_le_iff.2 h
  simp only [closer, rawCloser, List.length_cons, List.length_append, List.length_nil]
  omega

theorem length_freeDelimiter_le (h : s.length < 10 ^ 9) : (freeDelimiter s).length ≤ 16 := by
  obtain ⟨n, hn, heq, -, -⟩ := exists_freeDelimiter s
  rw [heq]
  exact length_delimiter_le_iff.2 (by omega)

/-- A text that holds the closing texts of all short delimiters leaves a long one only. -/
theorem lt_length_freeDelimiter (h : ∀ m < 10 ^ 9, closer m <:+: s) :
    16 < (freeDelimiter s).length := by
  obtain ⟨n, -, heq, hfree, -⟩ := exists_freeDelimiter s
  rw [heq, ← not_le, length_delimiter_le_iff]
  exact fun hn => hfree (h n hn)

end Monomorph.StringLiteral
