import Monomorph.Proofs.MarkerCall.Shape
import Monomorph.Token.Lexer

/-!
How a call is split. A split of tokens has a separator between every two items and none inside an item,
so that the items and the commas between them are all the tokens; there is one split only, the one that
`cut` makes. Items that are balanced, leave no template bracket open and have all their commas inside
brackets do not feel what stands before them, so a call that is printed from such items is read back.
-/

namespace Monomorph.MarkerCall

/-- None of the tokens separates items, given the tokens before them. -/
def Unbroken (before item : List Token) : Prop :=
  ∀ i (h : i < item.length), separates (before ++ item.take i) item[i] = false

/-- The tokens are split at every separator and nowhere else, given the tokens before them. -/
inductive Split : List Token → List Token → List (List Token) → Prop
  | last {before item : List Token} (whole : Unbroken before item) : Split before item [item]
  | next {before item rest : List Token} {comma : Token} {items : List (List Token)}
    (whole : Unbroken before item) (comma_separates : separates (before ++ item) comma = true)
    (next : Split (before ++ (item ++ [comma])) rest items) :
    Split before (item ++ comma :: rest) (item :: items)

/-- The items with a comma between every two of them are these tokens. -/
inductive Joined : List (List Token) → List Token → Prop
  | none : Joined [] []
  | one (item : List Token) : Joined [item] item
  | more {item ts : List Token} {comma : Token} {items : List (List Token)}
    (isComma : comma.isPunct "," = true) (hitems : items ≠ []) (next : Joined items ts) :
    Joined (item :: items) (item ++ comma :: ts)

/-- The tokens of a list from its first parenthesis to a later one, between which all brackets nest. -/
def Encloses (ts inner : List Token) (close : Token) (rest : List Token) : Prop :=
  ∃ opener, ts = opener :: (inner ++ close :: rest) ∧ opener.isPunct "(" = true ∧
    close.isPunct ")" = true ∧ nesting inner = some []

/-- Tokens that stay one item wherever they stand in a call. -/
structure IsItem (item : List Token) : Prop where
  nonempty : item ≠ []
  balanced : nesting item = some []
  closed : (angles item).1 = 0
  nested : ∀ i (h : i < item.length), item[i].isPunct "," = true →
    nesting (item.take i) ≠ some [] ∨ 0 < (angles (item.take i)).1

variable {before item ts rest : List Token} {t comma close : Token} {items : List (List Token)}

/-! ### There is one split -/

theorem unbroken_nil (before : List Token) : Unbroken before [] := fun i h => absurd h (by simp)

theorem unbroken_cons :
    Unbroken before (t :: item) ↔ separates before t = false ∧ Unbroken (before ++ [t]) item := by
  constructor
  · intro h
    refine ⟨?_, fun i hi => ?_⟩
    · have hfirst := h 0 (by simp)
      rwa [List.take_zero, List.append_nil] at hfirst
    · have hlater := h (i + 1) (by simpa using hi)
      rwa [List.take_succ_cons, List.append_cons] at hlater
  · rintro ⟨hfirst, hrest⟩ i hi
    cases i with
    | zero => simpa using hfirst
    | succ i => simpa using hrest i (by simpa using hi)

theorem split_cut (before ts : List Token) : Split before ts (cut before ts) := by
  induction ts generalizing before with
  | nil => exact .last (unbroken_nil before)
  | cons t ts ih =>
    rw [cut]
    split
    · next hsep =>
      change Split before ([] ++ t :: ts) _
      exact .next (unbroken_nil before) (by simpa using hsep) (ih (before ++ [t]))
    · next hsep =>
      rw [Bool.not_eq_true] at hsep
      generalize hparts : cut (before ++ [t]) ts = parts
      have hnext := hparts ▸ ih (before ++ [t])
      cases hnext with
      | last whole => exact .last (unbroken_cons.2 ⟨hsep, whole⟩)
      | @next _ item rest comma items whole hcomma hrest =>
        change Split before ((t :: item) ++ comma :: rest) _
        exact .next (unbroken_cons.2 ⟨hsep, whole⟩) (by simpa using hcomma) (by simpa using hrest)

theorem cut_of_unbroken (h : Unbroken before item) : cut before item = [item] := by
  induction item generalizing before with
  | nil => rfl
  | cons t item ih =>
    obtain ⟨hsep, hrest⟩ := unbroken_cons.1 h
    simp [cut, hsep, ih hrest]

theorem cut_append_cons (h : Unbroken before item) (hcomma : separates (before ++ item) comma = true) :
    cut before (item ++ comma :: rest) = item :: cut (before ++ (item ++ [comma])) rest := by
  induction item generalizing before with
  | nil =>
    rw [List.append_nil] at hcomma
    simp [cut, hcomma]
  | cons t item ih =>
    obtain ⟨hsep, hrest⟩ := unbroken_cons.1 h
    have hmore := ih hrest (by simpa using hcomma)
    simp [cut, hsep, hmore]

/-- The split of some tokens is the one that cutting makes. -/
theorem split_iff : Split before ts items ↔ items = cut before ts := by
  constructor
  · intro h
    induction h with
    | last whole => exact (cut_of_unbroken whole).symm
    | next whole hcomma _ ih => rw [cut_append_cons whole hcomma, ih]
  · rintro rfl
    exact split_cut before ts

/-! ### Items and commas are all the tokens -/

theorem isPunct_of_separates (h : separates before t = true) : t.isPunct "," = true := by
  simp only [separates, Bool.and_eq_true] at h
  exact h.1.1

theorem Split.ne_nil (h : Split before ts items) : items ≠ [] := by
  cases h <;> simp

theorem Split.joined (h : Split before ts items) : Joined items ts := by
  induction h with
  | last => exact .one _
  | next _ hcomma hnext ih => exact .more (isPunct_of_separates hcomma) hnext.ne_nil ih

/-- The items of a call are the split of the tokens between its parentheses, if there are any. -/
theorem isCall_iff :
    IsCall ts items close rest ↔ ∃ inner, Encloses ts inner close rest ∧
      (inner = [] ∧ items = [] ∨ Split [] inner items) ∧ ∀ item ∈ items, item ≠ [] := by
  have hitems : ∀ inner : List Token, (items = itemsOf inner ∧ ∀ item ∈ items, item ≠ []) ↔
      (inner = [] ∧ items = [] ∨ Split [] inner items) ∧ ∀ item ∈ items, item ≠ [] := by
    intro inner
    refine and_congr_left fun hne => ?_
    rw [split_iff, itemsOf]
    by_cases hinner : inner = []
    · have hcut : items ≠ cut [] [] := by
        rintro rfl
        exact hne [] (by simp [cut]) rfl
      simp [hinner, hcut]
    · simp [hinner]
  constructor
  · rintro ⟨opener, inner, hts, hopen, hclose, hnest, hrest⟩
    exact ⟨inner, ⟨opener, hts, hopen, hclose, hnest⟩, (hitems inner).1 hrest⟩
  · rintro ⟨inner, ⟨opener, hts, hopen, hclose, hnest⟩, hrest⟩
    exact ⟨opener, inner, hts, hopen, hclose, hnest, (hitems inner).2 hrest⟩

/-! ### Only one parenthesis can close a call -/

theorem nest_close (h : close.isPunct ")" = true) : nest [] close = none := by
  have hcloses : Progress.Closes {} close := ⟨h, rfl⟩
  exact nest_of_closes hcloses

/-- Where the brackets nest up to a closing parenthesis, they nest up to no later one. -/
theorem Encloses.unique {inner inner' rest' : List Token} {close' : Token}
    (h : Encloses ts inner close rest) (h' : Encloses ts inner' close' rest') :
    inner' = inner ∧ close' = close ∧ rest' = rest := by
  obtain ⟨opener, rfl, -, hclose, hnest⟩ := h
  obtain ⟨opener', hts, -, hclose', hnest'⟩ := h'
  have hbeyond : ∀ {a b : List Token} {c : Token}, nesting a = some [] → c.isPunct ")" = true →
      nesting (a ++ c :: b) = none := by
    intro a b c ha hc
    rw [nesting_append, ha]
    simp [nest_close hc]
  rcases List.append_eq_append_iff.1 (List.cons.inj hts).2 with ⟨v, hv, hcons⟩ | ⟨v, hv, hcons⟩
  · cases v with
    | nil => simp_all
    | cons c v =>
      obtain ⟨rfl, -⟩ := List.cons.inj hcons
      rw [hv, hbeyond hnest hclose] at hnest'
      cases hnest'
  · cases v with
    | nil => simp_all
    | cons c v =>
      obtain ⟨rfl, -⟩ := List.cons.inj hcons
      rw [hv, hbeyond hnest' hclose'] at hnest
      cases hnest

/-! ### Printed calls -/

/-- Nothing is open after these tokens, and the last of them is no identifier. -/
def AllClosed (before : List Token) : Prop := nesting before = some [] ∧ angles before = (0, false)

theorem AllClosed.nesting_append (h : AllClosed before) (ts : List Token) :
    nesting (before ++ ts) = nesting ts := by
  rw [MarkerCall.nesting_append, h.1]
  rfl

theorem AllClosed.angles_append (h : AllClosed before) (ts : List Token) :
    angles (before ++ ts) = angles ts := by
  rw [angles, List.foldl_append, ← angles, h.2]
  rfl

theorem AllClosed.separates_append (h : AllClosed before) (ts : List Token) (t : Token) :
    separates (before ++ ts) t = separates ts t := by
  rw [separates, separates, h.nesting_append, h.angles_append]

theorem IsItem.unbroken (h : IsItem item) (hbefore : AllClosed before) : Unbroken before item := by
  intro i hi
  rw [hbefore.separates_append, Bool.eq_false_iff]
  simp only [separates, Bool.and_eq_true, beq_iff_eq, ne_eq, not_and]
  rintro ⟨hcomma, hnest⟩ hangle
  rcases h.nested i hi hcomma with hopen | hopen
  · exact hopen hnest
  · omega

/-- Tokens without punctuation stay one item. -/
theorem IsItem.of_plain (hne : item ≠ []) (h : ∀ t ∈ item, t.kind ≠ .punct) : IsItem item where
  nonempty := hne
  balanced := by
    clear hne
    induction item with
    | nil => rfl
    | cons t item ih =>
      obtain ⟨ht, hitem⟩ := List.forall_mem_cons.1 h
      have hnest : nest [] t = some [] := by simp [nest, ht]
      rw [nesting, List.foldlM_cons, hnest]
      exact ih hitem
  closed := by
    have hzero : ∀ b, (item.foldl countAngle (0, b)).1 = 0 := by
      clear hne
      induction item with
      | nil => exact fun _ => rfl
      | cons t item ih =>
        obtain ⟨ht, hitem⟩ := List.forall_mem_cons.1 h
        intro b
        have hcount : countAngle (0, b) t = (0, t.kind == .ident) := by
          simp [countAngle, Token.isPunct, ht]
        rw [List.foldl_cons, hcount]
        exact ih hitem _
    exact hzero false
  nested i hi hcomma := by
    have hkind := h _ (List.getElem_mem hi)
    simp [Token.isPunct, hkind] at hcomma

/-- After an item and a comma nothing is open. -/
theorem IsItem.separates (h : IsItem item) (hbefore : AllClosed before)
    (hcomma : comma.isPunct "," = true) :
    separates (before ++ item) comma = true ∧ AllClosed (before ++ (item ++ [comma])) := by
  have hcomma' := hcomma
  simp only [Token.isPunct, Bool.and_eq_true, beq_iff_eq] at hcomma'
  have hsigns : isOpener "," = false ∧ opener? "," = none := by decide
  have hnest : nest [] comma = some [] := by simp [nest, hcomma', hsigns]
  refine ⟨?_, ?_, ?_⟩
  · rw [hbefore.separates_append, MarkerCall.separates, hcomma, h.balanced, h.closed]
    rfl
  · rw [hbefore.nesting_append, nesting_concat h.balanced, hnest]
  · rw [hbefore.angles_append, angles_concat]
    simp [countAngle, Token.isPunct, hcomma', h.closed]

/-- Items that are printed with commas between them are split as they were, and balanced. -/
theorem Joined.split {inner : List Token} (h : Joined items inner) (hne : items ≠ [])
    (hitems : ∀ item ∈ items, IsItem item) (hbefore : AllClosed before) :
    Split before inner items ∧ nesting (before ++ inner) = some [] := by
  induction h generalizing before with
  | none => exact absurd rfl hne
  | one item =>
    have hitem := hitems item (by simp)
    exact ⟨.last (hitem.unbroken hbefore), by rw [hbefore.nesting_append, hitem.balanced]⟩
  | @more item ts comma items hcomma hmore _ ih =>
    obtain ⟨hitem, hothers⟩ := List.forall_mem_cons.1 hitems
    obtain ⟨hsep, hsettled⟩ := hitem.separates hbefore hcomma
    obtain ⟨hsplit, hnest⟩ := ih hmore hothers hsettled
    exact ⟨.next (hitem.unbroken hbefore) hsep hsplit, by simpa using hnest⟩

theorem isCall_of_joined {inner : List Token} {opener : Token} (hopen : opener.isPunct "(" = true)
    (hclose : close.isPunct ")" = true) (h : Joined items inner)
    (hitems : ∀ item ∈ items, IsItem item) :
    IsCall (opener :: (inner ++ close :: rest)) items close rest := by
  have hne : ∀ item ∈ items, item ≠ [] := fun item hitem => (hitems item hitem).nonempty
  rcases eq_or_ne items [] with rfl | hsome
  · cases h
    exact isCall_iff.2 ⟨[], ⟨opener, rfl, hopen, hclose, rfl⟩, .inl ⟨rfl, rfl⟩, hne⟩
  · obtain ⟨hsplit, hnest⟩ := h.split hsome hitems (show AllClosed [] from ⟨rfl, rfl⟩)
    exact isCall_iff.2 ⟨inner, ⟨opener, rfl, hopen, hclose, hnest⟩, .inr hsplit, hne⟩

/-- Calls are split exactly. Reading a call succeeds if and only if a parenthesis follows the marker and
there is a later one between which and it all brackets nest, and the tokens in between are none or are
split, at the commas where neither a bracket nor a template bracket is open, into items none of which is
empty. There is only one such parenthesis; the call ends with it, the tokens behind it are left, and the
items with commas between them are the tokens up to it. Conversely, items that are not empty, are
balanced, close their template brackets and have all their commas inside brackets are read back from the
call that is printed from them. -/
theorem read_splits (marker : Token) (ts : List Token) :
    ((∃ call rest, read marker ts = .ok (call, rest)) ↔
      ∃ inner close rest, Encloses ts inner close rest ∧
        (inner = [] ∨ ∃ items, Split [] inner items ∧ ∀ item ∈ items, item ≠ [])) ∧
    (∀ call rest, read marker ts = .ok (call, rest) →
      call.marker = marker ∧ ∃ inner, Encloses ts inner call.close rest ∧
        (∀ inner' close' rest', Encloses ts inner' close' rest' →
          inner' = inner ∧ close' = call.close ∧ rest' = rest) ∧
        (inner = [] ∧ call.items = [] ∨ ∀ items, Split [] inner items ↔ items = call.items) ∧
        (∀ item ∈ call.items, item ≠ []) ∧ Joined call.items inner) ∧
    ∀ opener close rest items inner, opener.isPunct "(" = true → close.isPunct ")" = true →
      Joined items inner → (∀ item ∈ items, IsItem item) →
        read marker (opener :: (inner ++ close :: rest)) = .ok (⟨marker, items, close⟩, rest) := by
  refine ⟨⟨?_, ?_⟩, ?_, ?_⟩
  · rintro ⟨call, rest, h⟩
    obtain ⟨inner, henc, hsplit, hne⟩ := isCall_iff.1 (read_eq_ok_iff.1 h).2
    exact ⟨inner, call.close, rest, henc,
      hsplit.imp And.left fun hsplit => ⟨call.items, hsplit, hne⟩⟩
  · rintro ⟨inner, close, rest, henc, hsplit⟩
    obtain ⟨items, hitems⟩ : ∃ items, IsCall ts items close rest := by
      rcases hsplit with hnone | ⟨items, hsplit, hne⟩
      · exact ⟨[], isCall_iff.2 ⟨inner, henc, .inl ⟨hnone, rfl⟩, by simp⟩⟩
      · exact ⟨items, isCall_iff.2 ⟨inner, henc, .inr hsplit, hne⟩⟩
    exact ⟨⟨marker, items, close⟩, rest, read_eq_ok_iff.2 ⟨rfl, hitems⟩⟩
  · intro call rest h
    obtain ⟨hmarker, hcall⟩ := read_eq_ok_iff.1 h
    obtain ⟨inner, henc, hsplit, hne⟩ := isCall_iff.1 hcall
    refine ⟨hmarker, inner, henc, fun _ _ _ henc' => henc.unique henc', ?_, hne, ?_⟩
    · refine hsplit.imp_right fun hsplit items => ?_
      rw [split_iff, ← split_iff.1 hsplit]
    · rcases hsplit with ⟨rfl, hitems⟩ | hsplit
      · rw [hitems]
        exact .none
      · exact hsplit.joined
  · intro opener close rest items inner hopen hclose hjoined hitems
    exact read_eq_ok_iff.2 ⟨rfl, isCall_of_joined hopen hclose hjoined hitems⟩

/-- Commas in a template, in a call, and in a body with a comparison. -/
theorem read_splits_of_nested :
    ∃ marker opener close items inner, opener.isPunct "(" = true ∧ close.isPunct ")" = true ∧
      Joined items inner ∧ (∀ item ∈ items, IsItem item) ∧
      items.map (·.map (·.text)) = [["x"], ["map", "<", "int", ",", "f", "(", "a", ",", "b", ")", ">"],
        ["[", "]", "\x7b", "g", "(", "1", ",", "2", ")", "<", "3", ";", "\x7d"]] ∧
      read marker (opener :: (inner ++ [close])) = .ok (⟨marker, items, close⟩, []) := by
  obtain ⟨items, hitems⟩ : ∃ items, items =
      ["x", "map<int, f(a, b)>", "[] \x7bg(1, 2) < 3;\x7d"].map fun s => Lexer.tokens s.toList :=
    ⟨_, rfl⟩
  have hshape : ∀ item ∈ items, item ≠ [] ∧ nesting item = some [] ∧ (angles item).1 = 0 ∧
      ∀ i (h : i < item.length), item[i].isPunct "," = true →
        nesting (item.take i) ≠ some [] ∨ 0 < (angles (item.take i)).1 := by
    rw [hitems]
    decide +kernel
  have hall : ∀ item ∈ items, IsItem item := fun item hitem =>
    have ⟨hne, hnest, hangle, hcommas⟩ := hshape item hitem
    ⟨hne, hnest, hangle, hcommas⟩
  obtain ⟨sign, hsign⟩ : ∃ sign : String → Token, sign = fun s => ⟨.punct, s, 0, 0, 0, 0⟩ := ⟨_, rfl⟩
  have hjoined : ∃ inner, Joined items inner := by
    rw [hitems]
    have hcomma : (sign ",").isPunct "," = true := by rw [hsign]; decide
    exact ⟨_, .more hcomma (by simp) (.more hcomma (by simp) (.one _))⟩
  obtain ⟨inner, hinner⟩ := hjoined
  have hopen : (sign "(").isPunct "(" = true := by rw [hsign]; decide
  have hclose : (sign ")").isPunct ")" = true := by rw [hsign]; decide
  refine ⟨sign "f", sign "(", sign ")", items, inner, hopen, hclose, hinner, hall, ?_,
    (read_splits (sign "f") []).2.2 _ _ [] items inner hopen hclose hinner hall⟩
  rw [hitems]
  decide +kernel

end Monomorph.MarkerCall
