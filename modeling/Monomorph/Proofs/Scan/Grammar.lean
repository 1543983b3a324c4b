import Monomorph.Proofs.MarkerCall.Shape
import Monomorph.Proofs.Record
import Monomorph.Proofs.Scan.Draft
import Monomorph.Proofs.Token.Literal

/-!
The grammar of annotated texts. The tokens of a text are calls of markers among tokens of the host
language. The first call names the function, then come the calls that declare arguments and
documentation, then the body begins, and it may be closed once. What is said here speaks of tokens
only; each handler of the scanner accepts exactly the calls that the grammar allows after the calls
before them.
-/

namespace Monomorph.Scan

/-! ### The grammar -/

/-- A call as the grammar sees it: its marker and its items. -/
abbrev Call := Marker × List (List Token)

/-- Calls of markers, in order, among tokens of the host language. A call is passed as a whole, so
that a marker between its parentheses is part of an item. -/
inductive Interleaved : List Call → List Token → Prop
  | done : Interleaved [] []
  | host {calls : List Call} {t : Token} {rest : List Token} (plain : Marker.ofToken? t = none)
    (next : Interleaved calls rest) : Interleaved calls (t :: rest)
  | call {calls : List Call} {m : Marker} {items : List (List Token)} {t close : Token}
    {after rest : List Token} (marker : Marker.ofToken? t = some m)
    (shape : MarkerCall.IsCall after items close rest) (next : Interleaved calls rest) :
    Interleaved ((m, items) :: calls) (t :: after)

/-- An item that is one identifier which can be bound. -/
def IsName (item : List Token) : Prop :=
  ∃ t, item = [t] ∧ t.kind = .ident ∧ Text.isBindingName t.text = true

/-- A type item of an argument with `count` of them. One that starts with a word for a constraint is
the only one, and goes on with one identifier in parentheses. -/
def IsType (count : Nat) : List Token → Prop
  | [] => True
  | head :: tail => head.kind = .ident → head.text ∈ Relation.heads.map (·.1) →
    count = 1 ∧ ∃ l name r, tail = [l, name, r] ∧ l.isPunct "(" = true ∧ name.kind = .ident ∧
      r.isPunct ")" = true

/-- The calls that declare something. -/
inductive Declaring : Call → Prop
  | argument {name : List Token} {types : List (List Token)} (hname : IsName name)
    (some : types ≠ []) (htypes : ∀ item ∈ types, IsType types.length item) :
    Declaring (.argument, name :: types)
  | defaultArgument {name type value : List Token} (hname : IsName name) :
    Declaring (.defaultArgument, [name, type, value])
  | doc {item : List Token} (literals : ∀ t ∈ item, t.isString = true) : Declaring (.doc, [item])

/-- The name that a call declares. -/
def declaredName? : Call → Option String
  | (.argument, [t] :: _) | (.defaultArgument, [t] :: _) => some t.text
  | _ => none

/-- Calls that declare arguments with different names, those with a default last, and documentation
at most once. -/
structure Declarations (calls : List Call) : Prop where
  declaring : ∀ c ∈ calls, Declaring c
  names : (calls.filterMap declaredName?).Nodup
  defaultsLast : calls.Pairwise fun c later => c.1 = .defaultArgument → later.1 ≠ .argument
  oneDoc : calls.Pairwise fun c later => c.1 = .doc → later.1 ≠ .doc

/-- The tokens of an annotated text. -/
def IsSentence (ts : List Token) : Prop :=
  ∃ name decls tail, IsName name ∧ Declarations decls ∧ (tail = [] ∨ tail = [(.endCode, [])]) ∧
    Interleaved ((.function, [name]) :: (decls ++ (.beginCode, []) :: tail)) ts

/-! ### Items -/

variable {source : List Char} {call : MarkerCall} {item : List Token} {name : String}

theorem exists_readName_iff {what : String} :
    (∃ name, readName source call what item = .ok name) ↔ IsName item := by
  simp only [readName_eq_ok_iff]
  constructor
  · rintro ⟨name, t, hitem, hkind, hbound, -⟩
    exact ⟨t, hitem, hkind, hbound⟩
  · rintro ⟨t, hitem, hkind, hbound⟩
    exact ⟨t.text, t, hitem, hkind, hbound, rfl⟩

theorem constraintHead?_cons {head : Token} {tail : List Token} :
    constraintHead? (head :: tail) =
      if head.kind = .ident then (Relation.heads.lookup head.text).map (head, ·) else none := by
  simp [constraintHead?]

theorem exists_readConstraint_iff {relation : Relation} {head : Token} {tail : List Token} :
    (∃ c, readConstraint source name relation (head :: tail) head = .ok c) ↔
      ∃ l n r, tail = [l, n, r] ∧ l.isPunct "(" = true ∧ n.kind = .ident ∧ r.isPunct ")" = true := by
  unfold readConstraint
  split
  · next h l n r heq =>
    obtain ⟨rfl, rfl⟩ := List.cons.inj heq
    split
    · next hshape =>
      rw [Bool.and_eq_true, Bool.and_eq_true, beq_iff_eq] at hshape
      simp [hshape]
    · next hshape =>
      rw [Bool.and_eq_true, Bool.and_eq_true, beq_iff_eq] at hshape
      simp only [reduceCtorEq, exists_false, false_iff]
      rintro ⟨l', n', r', heq, hl, hn, hr⟩
      cases heq
      exact hshape ⟨⟨hl, hn⟩, hr⟩
  · next hshape =>
    simp only [reduceCtorEq, exists_false, false_iff]
    rintro ⟨l, n, r, rfl, -⟩
    exact hshape _ _ _ _ rfl

theorem isType_of_none (count : Nat) (h : constraintHead? item = none) : IsType count item := by
  cases item with
  | nil => trivial
  | cons head tail =>
    intro hkind hword
    rw [constraintHead?_cons, if_pos hkind, Option.map_eq_none_iff, Record.lookup_eq_none_iff] at h
    exact absurd hword h

theorem isType_of_some (count : Nat) {head : Token} {relation : Relation}
    (h : constraintHead? item = some (head, relation)) :
    ∃ tail, item = head :: tail ∧ (IsType count item ↔ count = 1 ∧ ∃ l n r, tail = [l, n, r] ∧
      l.isPunct "(" = true ∧ n.kind = .ident ∧ r.isPunct ")" = true) := by
  cases item with
  | nil => cases h
  | cons head' tail =>
    rw [constraintHead?_cons] at h
    split at h
    · next hkind =>
      obtain ⟨_, hlookup, heq⟩ := Option.map_eq_some_iff.1 h
      obtain ⟨rfl, rfl⟩ := Prod.mk.inj heq
      have hword : head'.text ∈ Relation.heads.map (·.1) := by
        by_contra hmem
        rw [Record.lookup_eq_none_iff.2 hmem] at hlookup
        cases hlookup
      exact ⟨tail, rfl, fun htype => htype hkind hword, fun hshape _ _ => hshape⟩
    · cases h

/-- Items none of which is a constraint are listed as they are written. -/
theorem readTypes_listed {alone : Bool} {items : List (List Token)}
    (h : ∀ item ∈ items, constraintHead? item = none) :
    readTypes source name alone items = .ok (.listed (items.map (span source))) := by
  induction items with
  | nil => rfl
  | cons item items ih =>
    obtain ⟨hitem, hitems⟩ := List.forall_mem_cons.1 h
    simp only [readTypes, hitem, ih hitems, List.map_cons]

/-- Among several items none may be a constraint. -/
theorem constraintHead?_of_readTypes {items : List (List Token)} {declared : TypeSource}
    (h : readTypes source name false items = .ok declared) :
    ∀ item ∈ items, constraintHead? item = none := by
  induction items generalizing declared with
  | nil => simp
  | cons item items ih =>
    rw [readTypes] at h
    split at h
    · cases h
    · next hitem =>
      cases hrest : readTypes source name false items with
      | error b => simp [hrest] at h
      | ok rest => exact List.forall_mem_cons.2 ⟨hitem, ih hrest⟩

/-- The types of an argument can be read exactly if every item is one. -/
theorem exists_readTypes_iff {first : List Token} {more : List (List Token)} :
    (∃ declared, readTypes source name more.isEmpty (first :: more) = .ok declared) ↔
      ∀ item ∈ first :: more, IsType (first :: more).length item := by
  cases more with
  | nil =>
    rw [List.forall_mem_singleton]
    cases hhead : constraintHead? first with
    | none =>
      exact ⟨fun _ => isType_of_none _ hhead,
        fun _ => ⟨_, readTypes_listed (List.forall_mem_singleton.2 hhead)⟩⟩
    | some p =>
      obtain ⟨head, relation⟩ := p
      obtain ⟨tail, rfl, htype⟩ := isType_of_some 1 hhead
      rw [List.length_singleton, htype, ← @exists_readConstraint_iff source name relation head]
      simp only [readTypes, hhead, List.isEmpty_nil, if_true, true_and]
      cases readConstraint source name relation (head :: tail) head <;> simp [Except.map]
  | cons second more =>
    constructor
    · rintro ⟨declared, h⟩ item hitem
      exact isType_of_none _ (constraintHead?_of_readTypes h item hitem)
    · intro h
      refine ⟨_, readTypes_listed fun item hitem => ?_⟩
      cases hhead : constraintHead? item with
      | none => rfl
      | some p =>
        obtain ⟨tail, rfl, htype⟩ := isType_of_some (more.length + 2) hhead
        have hone := (htype.1 (h _ hitem)).1
        omega

end Monomorph.Scan
