import Monomorph.Proofs.Text.Words

/-!
Tightened texts. Tightening makes every run of blanks one space and keeps every other character.
Squeezing a text that neither starts nor ends with a blank is tightening it. What holds no blank is
found at the head of a tightened text exactly if it stood at the head of the text.
-/

namespace Monomorph.Text

/-- The text with every run of blanks made one space. -/
def tighten : List Char → List Char
  | [] => []
  | c :: s =>
    if isBlank c then if s.head?.any isBlank then tighten s else ' ' :: tighten s
    else c :: tighten s

/-- No run of blanks goes on from the first text into the second one. -/
def Parted (w r : List Char) : Prop :=
  ∀ a ∈ w.getLast?, ∀ b ∈ r.head?, isBlank a = true → isBlank b = false

variable {c d : Char} {s w r m : List Char}

theorem isBlank_space : isBlank ' ' = true := by decide

@[simp] theorem tighten_nil : tighten [] = [] := rfl

theorem tighten_solid (hc : isBlank c = false) (s : List Char) :
    tighten (c :: s) = c :: tighten s := by
  rw [tighten, hc, if_neg (by decide)]

theorem tighten_blank (hc : isBlank c = true) (hs : ∀ d ∈ s.head?, isBlank d = false) :
    tighten (c :: s) = ' ' :: tighten s := by
  have hany : s.head?.any isBlank = false := by
    cases s with
    | nil => rfl
    | cons d s => simpa using hs
  rw [tighten, if_pos hc, hany, if_neg (by decide)]

theorem tighten_blanks (hc : isBlank c = true) (hd : isBlank d = true) (s : List Char) :
    tighten (c :: d :: s) = tighten (d :: s) := by
  rw [tighten, if_pos hc, List.head?_cons, Option.any_some, if_pos hd]

/-- A run of blanks is one space in front of what comes behind it. -/
theorem tighten_run (hc : isBlank c = true) (s : List Char) :
    tighten (c :: s) = ' ' :: tighten (s.dropWhile isBlank) := by
  induction s generalizing c with
  | nil => rw [tighten_blank hc (by simp), List.dropWhile_nil]
  | cons d s ih =>
    cases hd : isBlank d with
    | true => rw [tighten_blanks hc hd, ih hd, List.dropWhile_cons_of_pos hd]
    | false =>
      rw [tighten_blank hc (by simpa using hd), List.dropWhile_cons_of_neg (by simp [hd])]

/-- A text starts with a blank, or its first character stays where it is. -/
theorem head?_tighten (s : List Char) :
    (tighten s).head? = s.head?.map fun c => if isBlank c then ' ' else c := by
  cases s with
  | nil => rfl
  | cons c s =>
    rw [List.head?_cons, Option.map_some]
    cases hc : isBlank c with
    | false => rw [tighten_solid hc, List.head?_cons, if_neg (by decide)]
    | true => rw [tighten_run hc, List.head?_cons, if_pos rfl]

/-- A class without blanks has the first character before and after, or neither time. -/
theorem any_head?_tighten {q : Char → Bool} (hq : ∀ c, isBlank c = true → q c = false)
    (s : List Char) : (tighten s).head?.any q = s.head?.any q := by
  rw [head?_tighten]
  cases s with
  | nil => rfl
  | cons c s =>
    cases hc : isBlank c with
    | false => simp [hc]
    | true => simp [hc, hq c hc, hq ' ' isBlank_space]

theorem tighten_eq_nil : tighten s = [] ↔ s = [] := by
  rw [← List.head?_eq_none_iff, head?_tighten, Option.map_eq_none_iff, List.head?_eq_none_iff]

/-- Two texts are tightened one by one if no run of blanks goes over from one to the other. -/
theorem tighten_append (h : Parted w r) : tighten (w ++ r) = tighten w ++ tighten r := by
  induction w with
  | nil => rfl
  | cons c w ih =>
    rw [List.cons_append]
    cases w with
    | nil =>
      cases hc : isBlank c with
      | false => rw [tighten_solid hc, tighten_solid hc]; rfl
      | true =>
        have hr : ∀ d ∈ r.head?, isBlank d = false := fun d hd => h c (by simp) d hd hc
        rw [List.nil_append, tighten_blank hc hr, tighten_blank hc (by simp)]
        rfl
    | cons d w =>
      have hrest : Parted (d :: w) r := fun a ha => h a (by simpa using ha)
      have hih := ih hrest
      cases hc : isBlank c with
      | false => rw [tighten_solid hc, tighten_solid hc, hih, List.cons_append]
      | true =>
        cases hd : isBlank d with
        | false =>
          rw [tighten_blank hc (by simpa using hd), tighten_blank hc (by simpa using hd), hih,
            List.cons_append]
        | true => rw [List.cons_append, tighten_blanks hc hd, tighten_blanks hc hd, ← hih,
            List.cons_append]

theorem Parted.of_last (h : ∀ a ∈ w.getLast?, isBlank a = false) (r : List Char) : Parted w r := by
  intro a ha b _ hblank
  rw [h a ha] at hblank
  cases hblank

theorem Parted.of_solid (h : ∀ c ∈ w, isBlank c = false) (r : List Char) : Parted w r :=
  .of_last (fun a ha => h a (List.mem_of_getLast? ha)) r

theorem Parted.of_head (h : ∀ b ∈ r.head?, isBlank b = false) (w : List Char) : Parted w r :=
  fun _ _ b hb _ => h b hb

/-- Without blanks there is nothing to tighten. -/
theorem tighten_of_solid (h : ∀ c ∈ w, isBlank c = false) : tighten w = w := by
  induction w with
  | nil => rfl
  | cons c w ih =>
    obtain ⟨hc, hw⟩ := List.forall_mem_cons.1 h
    rw [tighten_solid hc, ih hw]

theorem tighten_append_of_solid (h : ∀ c ∈ w, isBlank c = false) (r : List Char) :
    tighten (w ++ r) = w ++ tighten r := by
  rw [tighten_append (.of_solid h r), tighten_of_solid h]

/-- A mark without blanks stands at the head before and after, or neither. -/
theorem prefix_tighten_iff (hm : ∀ c ∈ m, isBlank c = false) : m <+: tighten s ↔ m <+: s := by
  constructor
  · intro h
    induction m generalizing s with
    | nil => exact List.nil_prefix
    | cons c m ih =>
      obtain ⟨hc, hm⟩ := List.forall_mem_cons.1 hm
      cases s with
      | nil => simp at h
      | cons d s =>
        -- the head of a run of blanks is a space, and the mark has none
        have hhead : (tighten (d :: s)).head? = some c := by
          obtain ⟨t, ht⟩ := h
          rw [← ht]
          rfl
        rw [head?_tighten, List.head?_cons, Option.map_some, Option.some.injEq] at hhead
        cases hd : isBlank d with
        | true =>
          rw [hd, if_pos rfl] at hhead
          rw [← hhead, isBlank_space] at hc
          cases hc
        | false =>
          rw [tighten_solid hd, List.cons_prefix_cons] at h
          exact List.cons_prefix_cons.2 ⟨h.1, ih hm h.2⟩
  · rintro ⟨t, rfl⟩
    rw [tighten_append_of_solid hm]
    exact List.prefix_append m (tighten t)

/-- A tightened text is one line. -/
theorem newline_not_mem_tighten (s : List Char) : '\n' ∉ tighten s := by
  have hline : isBlank '\n' = true := by decide
  induction s with
  | nil => simp
  | cons c s ih =>
    rw [tighten]
    split
    · split
      · exact ih
      · exact List.not_mem_cons_of_ne_of_not_mem (by decide) ih
    · next hc =>
      refine List.not_mem_cons_of_ne_of_not_mem ?_ ih
      rintro rfl
      exact hc hline

/-- Members of a class without blanks stand at the head before and after. -/
theorem takeWhile_tighten {p : Char → Bool} (hp : ∀ c, isBlank c = true → p c = false)
    (s : List Char) : (tighten s).takeWhile p = s.takeWhile p := by
  induction s with
  | nil => rfl
  | cons c s ih =>
    cases hc : isBlank c with
    | false => rw [tighten_solid hc, List.takeWhile_cons, List.takeWhile_cons, ih]
    | true =>
      rw [tighten_run hc, List.takeWhile_cons_of_neg (by simp [hp ' ' isBlank_space]),
        List.takeWhile_cons_of_neg (by simp [hp c hc])]

/-! ### Squeezed texts -/

/-- A text that ends with no blank is squeezed to its tightened rest behind the blanks it starts
with. -/
theorem joinWith_wordsOf (h : ∀ c ∈ s.getLast?, isBlank c = false) :
    joinWith [' '] (wordsOf s) = tighten (s.dropWhile isBlank) := by
  induction s with
  | nil => rfl
  | cons c s ih =>
    have hs : ∀ c ∈ s.getLast?, isBlank c = false := fun d hd => by
      refine h d ?_
      rw [List.getLast?_cons, Option.mem_some_iff, hd]
      rfl
    have hrest := ih hs
    rw [wordsOf_cons]
    cases hc : isBlank c with
    | true => rw [if_pos rfl, List.dropWhile_cons_of_pos hc, hrest]
    | false =>
      rw [if_neg (by decide), List.dropWhile_cons_of_neg (by simp [hc]), tighten_solid hc]
      cases s with
      | nil => rfl
      | cons d s =>
        obtain ⟨v, vs, hwords⟩ : ∃ v vs, wordsOf (d :: s) = v :: vs := by
          refine List.exists_cons_of_ne_nil fun hnone => ?_
          have hlast := hs _ (List.getLast?_cons)
          rw [wordsOf_eq_nil hnone _ (List.mem_of_getLast? List.getLast?_cons)] at hlast
          cases hlast
        rw [hwords] at hrest ⊢
        cases hd : isBlank d with
        | true =>
          rw [List.dropWhile_cons_of_pos hd] at hrest
          rw [tighten_run hd, ← hrest]
          simp only [hd, if_true]
          rfl
        | false =>
          rw [List.dropWhile_cons_of_neg (by simp [hd])] at hrest
          rw [← hrest]
          simp only [hd, Bool.false_eq_true, if_false]
          cases vs <;> rfl

/-- Squeezing a text without blanks at its ends is tightening it. -/
theorem squeeze_ofList (hhead : ∀ c ∈ s.head?, isBlank c = false)
    (hlast : ∀ c ∈ s.getLast?, isBlank c = false) :
    squeeze (String.ofList s) = String.ofList (tighten s) := by
  have hall : s.dropWhile isBlank = s := by
    cases s with
    | nil => rfl
    | cons c s => rw [List.dropWhile_cons_of_neg (by simpa using hhead)]
  rw [squeeze, String.toList_ofList, joinWith_wordsOf hlast, hall]

end Monomorph.Text
