import Mathlib.Data.List.Basic
import Monomorph.MarkerCall

/-!
The shape of a marker call. Between its parentheses all brackets nest, and the tokens are cut into
items at the commas before which no bracket and no template bracket is open. A call without tokens
has no items, and no item is empty. The reader accepts exactly these calls; it cannot stop at an
earlier parenthesis, because there the brackets would not nest.
-/

namespace Monomorph.MarkerCall

/-- The open brackets after one more token. A closing bracket has to close the one opened last. -/
def nest (stack : List String) (t : Token) : Option (List String) :=
  if t.kind != .punct then some stack
  else if isOpener t.text then some (t.text :: stack)
  else match opener? t.text with
  | some sign => if stack.head? = some sign then some stack.tail else none
  | none => some stack

/-- The open brackets after some tokens, if all brackets nest. -/
def nesting (ts : List Token) : Option (List String) := ts.foldlM nest []

/-- The number of open template brackets after one more token. One opens directly after an
identifier. -/
def countAngle (count : Nat × Bool) (t : Token) : Nat × Bool :=
  (if t.isPunct "<" && count.2 then count.1 + 1
    else if t.isPunct ">" then count.1 - 1 else count.1, t.kind == .ident)

/-- The number of open template brackets after some tokens, and whether the last one is an
identifier. -/
def angles (ts : List Token) : Nat × Bool := ts.foldl countAngle (0, false)

/-- Does a token separate items, given the tokens before it? -/
def separates (before : List Token) (t : Token) : Bool :=
  t.isPunct "," && nesting before == some [] && (angles before).1 == 0

/-- Tokens cut at the separators among them, given the tokens before them. -/
def cut (before : List Token) : List Token → List (List Token)
  | [] => [[]]
  | t :: rest =>
    let parts := cut (before ++ [t]) rest
    if separates before t then [] :: parts else (t :: parts.headD []) :: parts.tail

/-- The items that the tokens between two parentheses make up. -/
def itemsOf (inner : List Token) : List (List Token) := if inner.isEmpty then [] else cut [] inner

/-- Tokens that start with a well-formed call in parentheses: its items, the parenthesis that closes
it, and the tokens after it. -/
def IsCall (ts : List Token) (items : List (List Token)) (close : Token) (rest : List Token) : Prop :=
  ∃ opener inner, ts = opener :: (inner ++ close :: rest) ∧ opener.isPunct "(" = true ∧
    close.isPunct ")" = true ∧ nesting inner = some [] ∧ items = itemsOf inner ∧
    ∀ item ∈ items, item ≠ []

theorem nesting_append (ts us : List Token) :
    nesting (ts ++ us) = (nesting ts).bind fun stack => us.foldlM nest stack :=
  List.foldlM_append

theorem nesting_concat {ts : List Token} {stack : List String} (h : nesting ts = some stack)
    (t : Token) : nesting (ts ++ [t]) = nest stack t := by
  simp [nesting_append, h]

theorem angles_concat (ts : List Token) (t : Token) :
    angles (ts ++ [t]) = countAngle (angles ts) t := by
  simp [angles]

theorem cut_ne_nil (before ts : List Token) : cut before ts ≠ [] := by
  cases ts with
  | nil => simp [cut]
  | cons t ts =>
    rw [cut]
    split <;> simp

theorem cut_eq_empty_iff {before ts : List Token} : cut before ts = [[]] ↔ ts = [] := by
  cases ts with
  | nil => simp [cut]
  | cons t ts =>
    rw [cut]
    split
    · simp [cut_ne_nil]
    · simp

/-- The first item goes on with the first tokens. -/
theorem headD_cut_prefix (before ts : List Token) : (cut before ts).headD [] <+: ts := by
  induction ts generalizing before with
  | nil => exact List.prefix_rfl
  | cons t ts ih =>
    rw [cut]
    split
    · exact List.nil_prefix
    · exact List.cons_prefix_cons.2 ⟨rfl, ih (before ++ [t])⟩

/-- Every item is a stretch of the tokens. -/
theorem infix_of_mem_cut {before ts item : List Token} (hitem : item ∈ cut before ts) :
    item <:+: ts := by
  induction ts generalizing before item with
  | nil =>
    rw [cut, List.mem_singleton] at hitem
    exact hitem ▸ List.infix_rfl
  | cons t ts ih =>
    have hlater : ∀ part ∈ cut (before ++ [t]) ts, part <:+: t :: ts := fun part hpart =>
      (ih hpart).trans (List.suffix_cons t ts).isInfix
    rw [cut] at hitem
    split at hitem
    · rcases List.mem_cons.1 hitem with rfl | hitem
      · exact List.nil_infix
      · exact hlater item hitem
    · rcases List.mem_cons.1 hitem with rfl | hitem
      · exact (List.cons_prefix_cons.2 ⟨rfl, headD_cut_prefix (before ++ [t]) ts⟩).isInfix
      · exact hlater item (List.mem_of_mem_tail hitem)

/-- The items of a call are stretches of its tokens, and what follows it is their end. -/
theorem IsCall.isInfix {ts rest : List Token} {items : List (List Token)} {close : Token}
    (h : IsCall ts items close rest) : (∀ item ∈ items, item <:+: ts) ∧ rest <:+ ts := by
  obtain ⟨opener, inner, rfl, -, -, -, rfl, -⟩ := h
  refine ⟨fun item hitem => ?_, ?_⟩
  · rw [itemsOf] at hitem
    split at hitem
    · cases hitem
    · have hinner : inner <:+: opener :: (inner ++ close :: rest) :=
        ⟨[opener], close :: rest, by simp⟩
      exact (infix_of_mem_cut hitem).trans hinner
  · exact ⟨opener :: (inner ++ [close]), by simp⟩

theorem IsCall.ne_nil {ts rest : List Token} {items : List (List Token)} {close : Token}
    (h : IsCall ts items close rest) : ∀ item ∈ items, item ≠ [] := by
  obtain ⟨_, _, -, -, -, -, -, hne⟩ := h
  exact hne

/-- The items of a call and the tokens after it are among its tokens. -/
theorem IsCall.subset {ts rest : List Token} {items : List (List Token)} {close : Token}
    (h : IsCall ts items close rest) :
    (∀ item ∈ items, ∀ t ∈ item, t ∈ ts) ∧ ∀ t ∈ rest, t ∈ ts :=
  ⟨fun item hitem _ ht => (h.isInfix.1 item hitem).subset ht, fun _ ht => h.isInfix.2.subset ht⟩

/-- More tokens after a call belong to what follows it. -/
theorem IsCall.append {ts rest : List Token} {items : List (List Token)} {close : Token}
    (h : IsCall ts items close rest) (more : List Token) :
    IsCall (ts ++ more) items close (rest ++ more) := by
  obtain ⟨opener, inner, rfl, hcall⟩ := h
  exact ⟨opener, inner, by simp, hcall⟩

/-! ### One step of the reader -/

/-- What has been read agrees with the tokens that were read. -/
structure Progress.Follows (p : Progress) (before : List Token) : Prop where
  stack : nesting before = some p.stack
  angle : angles before = (p.angle, p.afterIdent)

variable {marker t : Token} {p : Progress} {before : List Token}

/-- The token closes the call. -/
def Progress.Closes (p : Progress) (t : Token) : Prop := t.isPunct ")" = true ∧ p.stack = []

theorem nest_of_closes (h : p.Closes t) : nest p.stack t = none := by
  obtain ⟨hclose, hstack⟩ := h
  simp only [Token.isPunct, Bool.and_eq_true, beq_iff_eq] at hclose
  have hsigns : isOpener ")" = false ∧ opener? ")" = some "(" := by decide
  simp [nest, hclose.1, hclose.2, hstack, hsigns.1, hsigns.2]

theorem step_of_closes (h : p.Closes t) :
    p.step marker t =
      if !p.current.isEmpty then .closed (p.current.reverse :: p.done).reverse
      else if !p.done.isEmpty then .failed (.here (.emptyItem marker.text) t marker.text)
      else .closed [] := by
  obtain ⟨hclose, hstack⟩ := h
  simp only [Token.isPunct, Bool.and_eq_true, beq_iff_eq] at hclose
  have hsigns : isOpener ")" = false ∧ opener? ")" = some "(" := by decide
  simp [Progress.step, hclose.1, hclose.2, hstack, hsigns.1, hsigns.2]

/-- A closing bracket that closes neither the call nor the last open bracket is a fault. -/
theorem step_of_nest_none (marker : Token) (h : nest p.stack t = none) (hclose : ¬ p.Closes t) :
    ∃ b, p.step marker t = .failed b := by
  unfold nest at h
  unfold Progress.step
  by_cases hkind : (t.kind != .punct) = true
  · rw [if_pos hkind] at h
    cases h
  · rw [if_neg hkind] at h ⊢
    by_cases hopen : isOpener t.text = true
    · rw [if_pos hopen] at h
      cases h
    · rw [if_neg hopen] at h ⊢
      cases hsign : opener? t.text with
      | none =>
        rw [hsign] at h
        cases h
      | some sign =>
        have hhead : p.stack.head? ≠ some sign := by
          rintro hhead
          simp [hsign, hhead] at h
        have hnot : ¬ ((p.stack.isEmpty && t.text == ")") = true) := by
          simp only [Bool.and_eq_true, List.isEmpty_iff, beq_iff_eq]
          rintro ⟨hstack, htext⟩
          exact hclose ⟨by simpa [Token.isPunct, htext] using hkind, hstack⟩
        simp only [if_neg hnot]
        rw [if_pos (by simpa using hhead)]
        exact ⟨_, rfl⟩

theorem step_of_separates (marker : Token) (hp : p.Follows before) (h : separates before t = true) :
    p.stack = [] ∧ nest p.stack t = some [] ∧ p.step marker t =
      if p.current.isEmpty then .failed (.here (.emptyItem marker.text) t marker.text)
      else .open
        { p with current := [], done := p.current.reverse :: p.done, afterIdent := false } := by
  simp only [separates, hp.stack, hp.angle, Token.isPunct, Bool.and_eq_true, beq_iff_eq,
    Option.some.injEq] at h
  obtain ⟨⟨⟨hkind, htext⟩, hstack⟩, hangle⟩ := h
  have hsigns : isOpener "," = false ∧ opener? "," = none := by decide
  refine ⟨hstack, ?_, ?_⟩
  · simp [nest, hkind, htext, hstack, hsigns.1, hsigns.2]
  · simp [Progress.step, hkind, htext, hstack, hangle, hsigns.1, hsigns.2]

/-- Only the angle signs change the number of open template brackets. -/
theorem angle_of_ne {count : Nat × Bool} (hlt : t.text ≠ "<") (hgt : t.text ≠ ">") :
    (countAngle count t).1 = count.1 := by
  simp [countAngle, Token.isPunct, hlt, hgt]

/-- Any other token joins the current item. -/
theorem step_of_nest (hp : p.Follows before) {stack : List String} (h : nest p.stack t = some stack)
    (hsep : separates before t = false) :
    p.step marker t = .open { p.push t with
      stack := stack, angle := (countAngle (p.angle, p.afterIdent) t).1 } := by
  unfold nest at h
  unfold Progress.step
  by_cases hkind : (t.kind != .punct) = true
  · rw [if_pos hkind] at h
    cases h
    have hpunct : t.kind ≠ .punct := by simpa using hkind
    simp [hkind, countAngle, Token.isPunct, hpunct, Progress.push]
  · have hpunct : t.kind = .punct := by simpa using hkind
    rw [if_neg hkind] at h ⊢
    by_cases hopen : isOpener t.text = true
    · rw [if_pos hopen] at h ⊢
      cases h
      have hne : t.text ≠ "<" ∧ t.text ≠ ">" := by
        constructor <;> intro htext <;> rw [htext] at hopen <;> exact absurd hopen (by decide)
      rw [angle_of_ne hne.1 hne.2]
      rfl
    · rw [if_neg hopen] at h ⊢
      cases hsign : opener? t.text with
      | some sign =>
        by_cases hhead : p.stack.head? = some sign
        · obtain rfl : p.stack.tail = stack := by simpa [hsign, hhead] using h
          have hsigns : opener? "<" = none ∧ opener? ">" = none := by decide
          have hne : t.text ≠ "<" ∧ t.text ≠ ">" := by
            constructor <;> intro htext <;> simp [htext, hsigns] at hsign
          have hopened : p.stack ≠ [] := by
            intro hstack
            simp [hstack] at hhead
          rw [angle_of_ne hne.1 hne.2]
          simp [hopened, hhead, Progress.push]
        · simp [hsign, hhead] at h
      | none =>
        obtain rfl : p.stack = stack := by simpa [hsign] using h
        have hcomma : ¬ (t.text == "," && p.stack.isEmpty && p.angle == 0) = true := by
          simpa [separates, hp.stack, hp.angle, Token.isPunct, hpunct, List.isEmpty_iff] using hsep
        simp only [countAngle, Token.isPunct, hpunct, beq_self_eq_true, Bool.true_and, hcomma]
        by_cases hlt : (t.text == "<" && p.afterIdent) = true
        · simp [hlt, Progress.push]
        · by_cases hgt : (t.text == ">") = true
          · by_cases hangle : p.angle = 0
            · simp [hlt, hgt, hangle, Progress.push]
            · simp [hlt, hgt, Nat.pos_of_ne_zero hangle, Progress.push]
          · simp [hlt, hgt, Progress.push]

/-! ### Reading to the end of the call -/

theorem Progress.Follows.push (hp : p.Follows before) {stack : List String}
    (h : nest p.stack t = some stack) :
    Progress.Follows { p.push t with
      stack := stack, angle := (countAngle (p.angle, p.afterIdent) t).1 } (before ++ [t]) := by
  refine ⟨by rw [nesting_concat hp.stack, h], ?_⟩
  rw [angles_concat, hp.angle]
  rfl

theorem Progress.Follows.separate (hp : p.Follows before) (h : separates before t = true)
    {current : List Token} {done : List (List Token)} :
    Progress.Follows { p with current := current, done := done, afterIdent := false }
      (before ++ [t]) := by
  obtain ⟨hstack, hnest, -⟩ := step_of_separates t hp h
  simp only [separates, hp.angle, Token.isPunct, Bool.and_eq_true, beq_iff_eq] at h
  refine ⟨by rw [nesting_concat hp.stack, hnest, hstack], ?_⟩
  rw [angles_concat, hp.angle]
  simp [countAngle, Token.isPunct, h.1.1]

/-- The items read so far, and the parts that further tokens are cut into, the first of which goes
on with the current item. -/
def Progress.whole (p : Progress) (parts : List (List Token)) : List (List Token) :=
  p.done.reverse ++ (p.current.reverse ++ parts.headD []) :: parts.tail

/-- The items that a call has once the rest of its tokens is cut into the given parts. -/
def Progress.Yields (p : Progress) (parts items : List (List Token)) : Prop :=
  items = (if p.whole parts = [[]] then [] else p.whole parts) ∧ ∀ item ∈ items, item ≠ []

variable {parts items : List (List Token)}

theorem Progress.yields_push {stack : List String} {count : Nat} :
    p.Yields ((t :: parts.headD []) :: parts.tail) items ↔
      Progress.Yields { p.push t with stack := stack, angle := count } parts items := by
  simp [Progress.Yields, Progress.whole, Progress.push]

theorem Progress.yields_separate (h : parts ≠ []) :
    p.Yields ([] :: parts) items ↔
      Progress.Yields
        { p with current := [], done := p.current.reverse :: p.done, afterIdent := false }
        parts items := by
  obtain ⟨first, others, rfl⟩ := List.exists_cons_of_ne_nil h
  simp [Progress.Yields, Progress.whole]

/-- No call has an empty item before a separator. -/
theorem Progress.not_yields_empty (hcurrent : p.current = []) (h : parts ≠ []) :
    ¬ p.Yields ([] :: parts) items := by
  rintro ⟨rfl, hitems⟩
  obtain ⟨first, others, rfl⟩ := List.exists_cons_of_ne_nil h
  have hwhole : p.whole ([] :: first :: others) = p.done.reverse ++ [] :: first :: others := by
    simp [Progress.whole, hcurrent]
  have hmany : p.whole ([] :: first :: others) ≠ [[]] := by
    intro heq
    have hlen := congrArg List.length heq
    rw [hwhole, List.length_append, List.length_cons, List.length_cons, List.length_singleton] at hlen
    omega
  rw [if_neg hmany, hwhole] at hitems
  exact hitems [] (by simp) rfl

/-- At its end a call has the items read so far, if the last one is not empty or the only one. -/
theorem Progress.yields_end (hdone : ∀ item ∈ p.done, item ≠ []) :
    p.Yields [[]] items ↔
      (p.current ≠ [] ∧ items = (p.current.reverse :: p.done).reverse) ∨
        p.current = [] ∧ p.done = [] ∧ items = [] := by
  have hwhole : p.whole [[]] = p.done.reverse ++ [p.current.reverse] := by
    simp [Progress.whole]
  rw [Progress.Yields, hwhole]
  by_cases hcurrent : p.current = []
  · by_cases hempty : p.done = []
    · simp +contextual [hcurrent, hempty]
    · simp only [hcurrent, hempty, ne_eq, not_true, false_and, and_false, or_false, iff_false]
      rintro ⟨rfl, hitems⟩
      have hmany : p.done.reverse ++ [List.reverse []] ≠ [([] : List Token)] := by
        simpa using hempty
      rw [if_neg hmany] at hitems
      exact hitems [] (by simp) rfl
  · have hmany : p.done.reverse ++ [p.current.reverse] ≠ [[]] := by
      intro heq
      have hlast := congrArg List.getLast? heq
      simp [hcurrent] at hlast
    rw [if_neg hmany]
    simp only [hcurrent, ne_eq, not_false_eq_true, true_and, false_and, or_false,
      List.reverse_cons]
    refine and_iff_left_of_imp ?_
    rintro rfl item hitem
    rcases List.mem_append.1 hitem with hitem | hitem
    · exact hdone item (List.mem_reverse.1 hitem)
    · rw [List.mem_singleton.1 hitem]
      simpa using hcurrent

variable {ts rest : List Token} {close : Token} {call : MarkerCall} {P : List Token → Prop}

/-- The first parenthesis that can close the call does, since the brackets would not nest beyond it.
-/
theorem exists_inner_of_closes (hp : p.Follows before) (h : p.Closes t) :
    (∃ inner, t :: ts = inner ++ close :: rest ∧ close.isPunct ")" = true ∧
      nesting (before ++ inner) = some [] ∧ P inner) ↔ (t = close ∧ ts = rest) ∧ P [] := by
  constructor
  · rintro ⟨inner, hts, -, hnest, hP⟩
    cases inner with
    | nil => exact ⟨List.cons.inj hts, hP⟩
    | cons u inner =>
      obtain ⟨rfl, -⟩ := List.cons.inj hts
      rw [← List.singleton_append, ← List.append_assoc, nesting_append, nesting_concat hp.stack,
        nest_of_closes h] at hnest
      cases hnest
  · rintro ⟨⟨rfl, rfl⟩, hP⟩
    exact ⟨[], rfl, h.1, by rw [List.append_nil, hp.stack, h.2], hP⟩

/-- Any other token is inside the call. -/
theorem exists_inner_of_not_closes (hp : p.Follows before) (h : ¬ p.Closes t) :
    (∃ inner, t :: ts = inner ++ close :: rest ∧ close.isPunct ")" = true ∧
      nesting (before ++ inner) = some [] ∧ P inner) ↔
      ∃ inner, ts = inner ++ close :: rest ∧ close.isPunct ")" = true ∧
        nesting (before ++ [t] ++ inner) = some [] ∧ P (t :: inner) := by
  constructor
  · rintro ⟨inner, hts, hpunct, hnest, hP⟩
    cases inner with
    | nil =>
      obtain ⟨rfl, rfl⟩ := List.cons.inj hts
      rw [List.append_nil, hp.stack, Option.some.injEq] at hnest
      exact absurd ⟨hpunct, hnest⟩ h
    | cons u inner =>
      obtain ⟨rfl, rfl⟩ := List.cons.inj hts
      exact ⟨inner, rfl, hpunct, by simpa using hnest, hP⟩
  · rintro ⟨inner, rfl, hpunct, hnest, hP⟩
    exact ⟨t :: inner, rfl, hpunct, by simpa using hnest, hP⟩

/-- The reader goes on to the parenthesis that closes the call, and then yields its items. -/
theorem readFrom_eq_ok_iff (hp : p.Follows before) (hdone : ∀ item ∈ p.done, item ≠ []) :
    readFrom marker p ts = .ok (call, rest) ↔
      ∃ inner, ts = inner ++ call.close :: rest ∧ call.close.isPunct ")" = true ∧
        nesting (before ++ inner) = some [] ∧ call.marker = marker ∧
        p.Yields (cut before inner) call.items := by
  induction ts generalizing p before with
  | nil => simp [readFrom]
  | cons t ts ih =>
    rw [readFrom]
    by_cases hclose : p.Closes t
    · rw [exists_inner_of_closes hp hclose, step_of_closes hclose, cut, Progress.yields_end hdone]
      have hclosed : ∀ items : List (List Token),
          (.ok (⟨marker, items, t⟩, ts) : Except Blame (MarkerCall × List Token)) = .ok (call, rest) ↔
            (t = call.close ∧ ts = rest) ∧ call.marker = marker ∧ call.items = items := by
        intro items
        constructor
        · rintro ⟨⟩
          exact ⟨⟨rfl, rfl⟩, rfl, rfl⟩
        · rintro ⟨⟨rfl, rfl⟩, rfl, rfl⟩
          rfl
      by_cases hcurrent : p.current = []
      · by_cases hempty : p.done = []
        · simp [hcurrent, hempty, hclosed]
        · simp [hcurrent, hempty]
      · simp [hcurrent, hclosed]
    · rw [exists_inner_of_not_closes hp hclose]
      cases hnest : nest p.stack t with
      | none =>
        obtain ⟨b, hb⟩ := step_of_nest_none marker hnest hclose
        rw [hb]
        simp only [reduceCtorEq, false_iff, not_exists, not_and]
        intro inner _ _ h
        rw [nesting_append, nesting_concat hp.stack, hnest] at h
        cases h
      | some stack =>
        cases hsep : separates before t with
        | false =>
          rw [step_of_nest hp hnest hsep]
          simp only [ih (hp.push hnest) hdone, cut, hsep, Bool.false_eq_true, if_false,
            ← Progress.yields_push]
        | true =>
          rw [(step_of_separates marker hp hsep).2.2]
          simp only [cut, hsep, if_true]
          by_cases hcurrent : p.current = []
          · simp [hcurrent, Progress.not_yields_empty hcurrent (cut_ne_nil _ _)]
          · have hdone' : ∀ item ∈ p.current.reverse :: p.done, item ≠ [] :=
              List.forall_mem_cons.2 ⟨by simpa using hcurrent, hdone⟩
            simp only [List.isEmpty_iff, hcurrent, if_false, ih (hp.separate hsep) hdone',
              Progress.yields_separate (cut_ne_nil _ _)]

/-- Reading a call accepts exactly its shape. -/
theorem read_eq_ok_iff :
    read marker ts = .ok (call, rest) ↔
      call.marker = marker ∧ IsCall ts call.items call.close rest := by
  cases ts with
  | nil => simp [read, IsCall]
  | cons opener ts =>
    rw [read]
    by_cases hopen : opener.isPunct "(" = true
    · have hstart : Progress.Follows {} [] := ⟨rfl, rfl⟩
      have hyields : ∀ inner, Progress.Yields {} (cut [] inner) call.items ↔
          call.items = itemsOf inner ∧ ∀ item ∈ call.items, item ≠ [] := by
        intro inner
        have hwhole : Progress.whole {} (cut [] inner) = cut [] inner := by
          obtain ⟨first, others, hcut⟩ := List.exists_cons_of_ne_nil (cut_ne_nil [] inner)
          simp [Progress.whole, hcut]
        simp only [Progress.Yields, hwhole, cut_eq_empty_iff, itemsOf, List.isEmpty_iff]
      rw [if_pos hopen, readFrom_eq_ok_iff hstart (by simp)]
      simp only [List.nil_append, hyields, IsCall, List.cons.injEq]
      constructor
      · rintro ⟨inner, rfl, hclose, hnest, hmarker, hitems⟩
        exact ⟨hmarker, opener, inner, ⟨rfl, rfl⟩, hopen, hclose, hnest, hitems⟩
      · rintro ⟨hmarker, _, inner, ⟨rfl, rfl⟩, -, hclose, hnest, hitems⟩
        exact ⟨inner, rfl, hclose, hnest, hmarker, hitems⟩
    · rw [if_neg hopen]
      simp only [reduceCtorEq, false_iff, not_and]
      rintro - ⟨_, inner, hts, hopener, -⟩
      exact hopen ((List.cons.inj hts).1 ▸ hopener)

end Monomorph.MarkerCall
