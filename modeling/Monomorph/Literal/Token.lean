import Monomorph.Literal.Formatted

/-!
The tokens of the host interpreter's expressions: numbers, texts, byte strings, names and signs. Line
breaks count outside brackets only; a backslash at the end of a line continues it, and no line with
a token outside brackets may be indented.
-/

namespace Monomorph.Literal

open Text

/-- A token of an expression. -/
inductive Tok where
  | value (v : Literal)
  | text (points : List Nat)
  | bytes (bs : List UInt8)
  /-- A formatted text, of which only the expressions of its fields are kept. -/
  | formatted (fields : List (List Char))
  | name (s : String)
  | keyword (s : String)
  | sign (s : String)
  | newline
  /-- What is no token. Nothing is read after it. -/
  | bad
  deriving Inhabited

/-- May the character stand in an identifier, judged by its first byte? -/
def isNamePart (c : Char) : Bool := c.isAlphanum || c == '_' || 127 < c.toNat

/-- An integer in a base after its two-character mark. An underscore may follow the mark. -/
def basedNumber? (base : Nat) (s : List Char) : Option (Literal × List Char) :=
  let s := match s with
    | '_' :: r => r
    | _ => s
  let (ds, rest) := Digits.run (Digits.isIn base) s
  if ds.isEmpty then none else some (.int (Digits.number base ds), rest)

/-- A fraction: a dot and perhaps digits. -/
def fractionPart? : List Char → Option (List Char × List Char)
  | '.' :: r => some (Digits.run Char.isDigit r)
  | _ => none

/-- An exponent: the letter, perhaps a sign, and digits. -/
def exponentPart? (s : List Char) : Option (Int × List Char) :=
  let digits (negative : Bool) (r : List Char) : Option (Int × List Char) :=
    let (ds, rest) := Digits.run Char.isDigit r
    if ds.isEmpty then none
    else some (if negative then -(Digits.number 10 ds : Int) else Digits.number 10 ds, rest)
  match s with
  | c :: '-' :: r => if c == 'e' || c == 'E' then digits true r else none
  | c :: '+' :: r => if c == 'e' || c == 'E' then digits false r else none
  | c :: r => if c == 'e' || c == 'E' then digits false r else none
  | [] => none

/-- A decimal integer. It may start with a zero only if all its digits are zeros, and only then may
it have any number of digits. -/
def integer? (ds : List Char) : Option Literal :=
  if ds.head? == some '0' then if ds.all (· == '0') then some (.int 0) else none
  else if Digits.most < ds.length then none
  else some (.int (Digits.number 10 ds))

/-- A decimal number. -/
def decimalNumber? (s : List Char) : Option (Literal × List Char) :=
  let (whole, rest) := Digits.run Char.isDigit s
  let (fraction, rest, hasFraction) := match fractionPart? rest with
    | some (ds, rest) => (ds, rest, true)
    | none => ([], rest, false)
  let (exponent, rest, hasExponent) := match exponentPart? rest with
    | some (e, rest) => (e, rest, true)
    | none => (0, rest, false)
  let real := Double.ofDecimal false (Digits.number 10 (whole ++ fraction))
    (exponent - fraction.length)
  match rest with
  | 'j' :: rest => some (.complex (Double.ofInt 0) real, rest)
  | 'J' :: rest => some (.complex (Double.ofInt 0) real, rest)
  | _ => if hasFraction || hasExponent then some (.double real, rest)
    else (integer? whole).map fun v => (v, rest)

/-- The keywords that can follow a number. -/
def connectives : List String := ["and", "else", "for", "if", "in", "is", "not", "or"]

/-- May a number end before this text? A name may not follow it, unless it starts like a keyword
that can. -/
def endsNumber (s : List Char) : Bool :=
  connectives.any (·.toList.isPrefixOf s) || !(s.head?.map isNamePart).getD false

/-- A number, given that one starts here. -/
def number? (s : List Char) : Option (Literal × List Char) :=
  let read := match s with
    | '0' :: 'x' :: r => basedNumber? 16 r
    | '0' :: 'X' :: r => basedNumber? 16 r
    | '0' :: 'o' :: r => basedNumber? 8 r
    | '0' :: 'O' :: r => basedNumber? 8 r
    | '0' :: 'b' :: r => basedNumber? 2 r
    | '0' :: 'B' :: r => basedNumber? 2 r
    | _ => decimalNumber? s
  match read with
  | some (v, rest) => if endsNumber rest then some (v, rest) else none
  | none => none

/-- The kinds of quoted literals. -/
inductive Kind where
  | text
  | bytes
  | formatted

/-- The token of a quoted literal, given what stands between its quotes. -/
def quotedTok? (isRaw : Bool) (body : List Char) : Kind → Option Tok
  | .text => .text <$> if isRaw then some (body.map Char.toNat) else unescape? true 0 body
  | .bytes => do
    if body.any (127 < ·.toNat) then none
    let points ← if isRaw then some (body.map Char.toNat) else unescape? false 0 body
    return .bytes (points.map UInt8.ofNat)
  | .formatted => .formatted <$> Formatted.fields? isRaw body

/-- The letters that may stand before an opening quote, in lower case: do they make the literal raw,
and of what kind is it? -/
def quoteLetters : List (List Char × Bool × Kind) := [
  ([], false, .text), (['r'], true, .text), (['u'], false, .text), (['b'], false, .bytes),
  (['b', 'r'], true, .bytes), (['r', 'b'], true, .bytes), (['f'], false, .formatted),
  (['f', 'r'], true, .formatted), (['r', 'f'], true, .formatted)]

/-- A quoted literal at the head of a text; `none` outside if there is none, inside if it is
malformed. -/
def quoted? (s : List Char) : Option (Option (Tok × List Char)) :=
  quoteLetters.findSome? fun (letters, isRaw, kind) =>
    if (s.take letters.length).map Char.toLower != letters then none
    else match s.drop letters.length with
    | [] => none
    | c :: r =>
      if !isQuote c then none
      else some <| do
        let (q, r) := openQuote c r
        let (body, rest) ← upToQuote q r
        return (← quotedTok? isRaw body kind, rest)

/-- Signs of more than one character, longest first. -/
def longSigns : List (List Char) := [
  ['.', '.', '.'], ['*', '*'], ['/', '/'], ['<', '<'], ['>', '>'], ['<', '='], ['>', '='],
  ['=', '='], ['!', '='], [':', '=']]

/-- Characters that are signs of their own. -/
def shortSigns : List Char :=
  ['(', ')', '[', ']', '\x7b', '\x7d', ',', ':', '.', '+', '-', '*', '/', '%', '@', '&', '|', '^',
    '~', '<', '>', '=']

/-- The token at the head of a text that starts with neither blank, comment nor line break. -/
def token? (s : List Char) : Option (Tok × List Char) :=
  match quoted? s with
  | some r => r
  | none =>
  match s with
  | [] => none
  | c :: r =>
    let startsNumber := c.isDigit || (c == '.' && (r.head?.map Char.isDigit).getD false)
    if startsNumber then (number? s).map fun p => (.value p.1, p.2)
    else if isNamePart c then
      let name := String.ofList (s.takeWhile isNamePart)
      let rest := s.dropWhile isNamePart
      if keywords.contains name then some (.keyword name, rest)
      else if isIdentifier name then some (.name name, rest)
      else none
    else match longSigns.find? (·.isPrefixOf s) with
    | some sign => some (.sign (String.ofList sign), s.drop sign.length)
    | none => if shortSigns.contains c then some (.sign (String.ofList [c]), r) else none

/-- A blank within a line. -/
def isGap (c : Char) : Bool := c == ' ' || c == '\t' || c.toNat = 12

/-- The text from the first token of the lines that start here; nothing if that token is indented.
The indentation of a line that is split by backslashes is that of its first part that has one. A form
feed starts the count anew. -/
def unindented? (column split : Nat) (inComment : Bool) : List Char → Option (List Char)
  | [] => if inComment || column = 0 then some [] else none
  | c :: r =>
    if c == '\n' then unindented? 0 0 false r
    else if inComment then unindented? 0 0 true r
    else if c == ' ' then unindented? (column + 1) split false r
    else if c == '\t' then unindented? ((column / 8 + 1) * 8) split false r
    else if c.toNat = 12 then unindented? 0 split false r
    else if c == '#' then unindented? 0 0 true r
    else match c, r with
    | '\\', '\n' :: d :: r' =>
      unindented? column (if split = 0 then column else split) false (d :: r')
    | _, _ => if (if split = 0 then column else split) = 0 then some (c :: r) else none

/-- How deep brackets may nest. -/
def maxDepth : Nat := 200

/-- The bracket depth after a token; nothing if it would be too deep or negative. -/
def depthAfter? (depth : Nat) : Tok → Option Nat
  | .sign s =>
    if s == "(" || s == "[" || s == "\x7b" then if depth < maxDepth then some (depth + 1) else none
    else if s == ")" || s == "]" || s == "\x7d" then if depth = 0 then none else some (depth - 1)
    else some depth
  | _ => some depth

/-- The tokens of a text that goes on within a line, at some depth of brackets. -/
def tokensFrom (depth : Nat) : List Char → List Tok
  | [] => []
  | '\\' :: '\n' :: r => if r.isEmpty then [.bad] else tokensFrom depth r
  | c :: r =>
    let goOn (rest : List Char) (depth : Nat) (ts : List Tok → List Tok) : List Tok :=
      if rest.length ≤ r.length then ts (tokensFrom depth rest) else [.bad]
    if isGap c then tokensFrom depth r
    else if c == '#' then goOn (r.dropWhile (· != '\n')) depth id
    else if c == '\n' && 0 < depth then tokensFrom depth r
    else if c == '\n' then
      match unindented? 0 0 false r with
      | some rest => goOn rest 0 (.newline :: ·)
      | none => [.newline, .bad]
    else match token? (c :: r) with
    | none => [.bad]
    | some (t, rest) =>
      match depthAfter? depth t with
      | some depth => goOn rest depth (t :: ·)
      | none => [.bad]
termination_by s => s.length
decreasing_by all_goals simp only [List.length_cons]; omega

/-- The tokens of a text. -/
def tokens (s : List Char) : List Tok :=
  match unindented? 0 0 false s with
  | some rest => tokensFrom 0 rest
  | none => [.bad]

end Monomorph.Literal
