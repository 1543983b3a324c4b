import Monomorph.Marker

/-!
Calls of markers: `marker(item, item, …)`. Items are split at the commas that no bracket encloses.
A `<` directly after an identifier opens template brackets, which enclose commas too; template
brackets are counted, all other brackets have to nest.
-/

namespace Monomorph

/-- A fault found at a token, with the marker it is about. -/
structure Blame where
  fault : Fault
  line : Int
  column : Int
  construct : String
  deriving DecidableEq, Repr

/-- A fault at a token. -/
def Blame.here (fault : Fault) (t : Token) (construct : String) : Blame :=
  ⟨fault, t.line, t.column, construct⟩

/-- A marker with its items and the parenthesis that closes the call. -/
structure MarkerCall where
  marker : Token
  items : List (List Token)
  close : Token
  deriving Repr

namespace MarkerCall

/-- The sign that opens what the given sign closes. -/
def opener? (sign : String) : Option String :=
  if sign == ")" then some "(" else if sign == "]" then some "["
  else if sign == "\x7d" then some "\x7b" else none

/-- Does the sign open a bracket? -/
def isOpener (sign : String) : Bool := sign == "(" || sign == "[" || sign == "\x7b"

/-- A call that has been read up to some token. Lists are in reverse. -/
structure Progress where
  /-- The brackets that are still open. -/
  stack : List String := []
  /-- How many template brackets are open. -/
  angle : Nat := 0
  /-- Was the last token an identifier? -/
  afterIdent : Bool := false
  /-- The tokens of the item being read. -/
  current : List Token := []
  /-- The items read. -/
  done : List (List Token) := []

/-- What one more token makes of a call. -/
inductive Outcome where
  | open (p : Progress)
  | closed (items : List (List Token))
  | failed (b : Blame)

/-- The call with the token in its current item. -/
def Progress.push (p : Progress) (t : Token) : Progress :=
  { p with current := t :: p.current, afterIdent := t.kind == .ident }

/-- The call after one more token. -/
def Progress.step (marker : Token) (p : Progress) (t : Token) : Outcome :=
  if t.kind != .punct then .open (p.push t)
  else if isOpener t.text then .open { p.push t with stack := t.text :: p.stack }
  else match opener? t.text with
  | some sign =>
    if p.stack.isEmpty && t.text == ")" then
      if !p.current.isEmpty then .closed (p.current.reverse :: p.done).reverse
      else if !p.done.isEmpty then .failed (.here (.emptyItem marker.text) t marker.text)
      else .closed []
    else if p.stack.head? != some sign then
      .failed (.here (.unbalanced t.text marker.text) t marker.text)
    else .open { p.push t with stack := p.stack.tail }
  | none =>
    if t.text == "<" && p.afterIdent then .open { p.push t with angle := p.angle + 1 }
    else if t.text == ">" && p.angle > 0 then .open { p.push t with angle := p.angle - 1 }
    else if t.text == "," && p.stack.isEmpty && p.angle == 0 then
      if p.current.isEmpty then .failed (.here (.emptyItem marker.text) t marker.text)
      else .open { p with current := [], done := p.current.reverse :: p.done, afterIdent := false }
    else .open (p.push t)

/-- Reads on from the given progress. Answers the call and the tokens after it. -/
def readFrom (marker : Token) (p : Progress) : List Token → Except Blame (MarkerCall × List Token)
  | [] => .error (.here (.unclosed marker.text) marker marker.text)
  | t :: rest =>
    match p.step marker t with
    | .open p' => readFrom marker p' rest
    | .closed items => .ok (⟨marker, items, t⟩, rest)
    | .failed b => .error b

/-- Reads the call of a marker from the tokens after it. -/
def read (marker : Token) : List Token → Except Blame (MarkerCall × List Token)
  | t :: rest =>
    if t.isPunct "(" then readFrom marker {} rest
    else .error (.here (.openerMissing marker.text) marker marker.text)
  | [] => .error (.here (.openerMissing marker.text) marker marker.text)

theorem length_of_readFrom {marker : Token} {p : Progress} {ts : List Token} {c : MarkerCall}
    {rest : List Token} (h : readFrom marker p ts = .ok (c, rest)) : rest.length < ts.length := by
  induction ts generalizing p with
  | nil => simp [readFrom] at h
  | cons t ts ih =>
    rw [readFrom] at h
    split at h
    · have := ih h
      simp only [List.length_cons]
      omega
    · simp only [Except.ok.injEq, Prod.mk.injEq] at h
      simp [h.2]
    · cases h

/-- A call takes at least its parentheses. -/
theorem length_of_read {marker : Token} {ts : List Token} {c : MarkerCall} {rest : List Token}
    (h : read marker ts = .ok (c, rest)) : rest.length < ts.length := by
  cases ts with
  | nil => simp [read] at h
  | cons t ts =>
    rw [read] at h
    split at h
    · have := length_of_readFrom h
      simp only [List.length_cons]
      omega
    · cases h

end MarkerCall

end Monomorph
