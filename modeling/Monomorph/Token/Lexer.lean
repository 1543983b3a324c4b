import Monomorph.Token
import Monomorph.Text.Blank

/-!
The lexer. Each lexical class has a recogniser that answers how many characters at the head of a
text belong to it. `piece` tries the classes in their order of precedence, `pieces` cuts a text into
consecutive pieces, and `place` counts positions along the pieces. No recogniser looks back, so what
a piece is depends only on the text from its start on; and every piece is non-empty, so the cutting
ends on any text.
-/

namespace Monomorph.Lexer

open Text

/-- What one piece of a text is: a token of some class, a run of blanks, or a word character that
starts no token. -/
inductive Piece where
  | token (kind : Token.Kind)
  | blanks
  | stray
  deriving DecidableEq, Repr

/-- A line comment up to the newline, or a block comment up to its end or the end of the text. -/
def commentLength? : List Char → Option Nat
  | '/' :: '/' :: r => some ((r.takeWhile (· != '\n')).length + 2)
  | '/' :: '*' :: r => some ((through? ['*', '/'] r).getD r.length + 2)
  | _ => none

/-- The encodings that may stand directly before a literal's opening quote. -/
def encodings : List (List Char) := [['u', '8'], ['u'], ['U'], ['L'], []]

/-- How many characters an encoding and the given opening mark take together. -/
def openerLength? (mark s : List Char) : Option Nat :=
  encodings.findSome? fun e =>
    if (e ++ mark).isPrefixOf s then some (e.length + mark.length) else none

/-- A character that may stand in the delimiter of a raw string. -/
def isDelimiterChar (c : Char) : Bool :=
  !(c == '(' || c == ')' || c == '\\' || c == '"' || isBlank c)

/-- The rest of a raw string after its opening quote: a delimiter of at most sixteen characters, a
parenthesis, and everything through the first closing parenthesis with the same delimiter. -/
def rawTailLength? (s : List Char) : Option Nat :=
  let delimiter := s.takeWhile isDelimiterChar
  if 16 < delimiter.length then none
  else match s.drop delimiter.length with
    | '(' :: body =>
      (through? ([')'] ++ delimiter ++ ['"']) body).map (· + delimiter.length + 1)
    | _ => none

/-- A raw string literal. -/
def rawStringLength? (s : List Char) : Option Nat :=
  (openerLength? ['R', '"'] s).bind fun n => (rawTailLength? (s.drop n)).map (· + n)

/-- The rest of a quoted literal after its opening quote. A backslash takes the next character with
it; neither a bare newline nor an escaped one may stand inside. -/
def quotedTailLength? (quote : Char) : List Char → Option Nat
  | [] => none
  | '\\' :: c :: r => if c == '\n' then none else (quotedTailLength? quote r).map (· + 2)
  | c :: r =>
    if c == quote then some 1
    else if c == '\\' || c == '\n' then none
    else (quotedTailLength? quote r).map (· + 1)

/-- A string or character literal between the given quotes. -/
def quotedLength? (quote : Char) (s : List Char) : Option Nat :=
  (openerLength? [quote] s).bind fun n => (quotedTailLength? quote (s.drop n)).map (· + n)

/-- A character that may continue a number. -/
def isNumberPart (c : Char) : Bool := isWord c || c == '.' || c == '\''

/-- The rest of a number: word characters, dots and digit separators, and a sign directly after an
exponent letter. -/
def numberTailLength : List Char → Nat
  | [] => 0
  | c :: d :: r =>
    if (c == 'e' || c == 'E' || c == 'p' || c == 'P') && (d == '+' || d == '-') then
      numberTailLength r + 2
    else if isNumberPart c then numberTailLength (d :: r) + 1
    else 0
  | [c] => if isNumberPart c then 1 else 0

/-- A number: a decimal digit, perhaps after a dot, and what continues it. -/
def numberLength? : List Char → Option Nat
  | '.' :: d :: r => if isDecimal d then some (numberTailLength r + 2) else none
  | c :: r => if isDecimal c then some (numberTailLength r + 1) else none
  | [] => none

/-- An identifier: an ASCII letter or underscore and the word characters after it. -/
def identLength? : List Char → Option Nat
  | c :: r => if isAsciiStart c then some ((r.takeWhile isWord).length + 1) else none
  | [] => none

/-- Punctuation: the scope and arrow signs, or any one character that is neither blank nor word. -/
def punctLength? : List Char → Option Nat
  | ':' :: ':' :: _ => some 2
  | '-' :: '>' :: _ => some 2
  | c :: _ => if isBlank c || isWord c then none else some 1
  | [] => none

/-- A run of blanks. -/
def blanksLength? : List Char → Option Nat
  | c :: r => if isBlank c then some ((r.takeWhile isBlank).length + 1) else none
  | [] => none

/-- The piece at the head of a text and its length, by the first class that recognises it. -/
def piece (s : List Char) : Piece × Nat :=
  match commentLength? s with
  | some n => (.token .comment, n)
  | none =>
  match rawStringLength? s with
  | some n => (.token .rawString, n)
  | none =>
  match quotedLength? '"' s with
  | some n => (.token .string, n)
  | none =>
  match quotedLength? '\'' s with
  | some n => (.token .char, n)
  | none =>
  match numberLength? s with
  | some n => (.token .number, n)
  | none =>
  match identLength? s with
  | some n => (.token .ident, n)
  | none =>
  match punctLength? s with
  | some n => (.token .punct, n)
  | none =>
  match blanksLength? s with
  | some n => (.blanks, n)
  | none => (.stray, 1)

/-- The text cut into consecutive pieces. The first character always belongs to the first piece. -/
def pieces : List Char → List (Piece × List Char)
  | [] => []
  | c :: r =>
    let p := piece (c :: r)
    (p.1, c :: r.take (p.2 - 1)) :: pieces (r.drop (p.2 - 1))
termination_by s => s.length
decreasing_by simp only [List.length_drop, List.length_cons]; omega

/-- A place in a text. -/
structure Place where
  offset : Nat
  line : Int
  column : Nat
  deriving DecidableEq, Repr

/-- The place after one more character. -/
def Place.step (p : Place) (c : Char) : Place :=
  if c == '\n' then ⟨p.offset + 1, p.line + 1, 1⟩ else ⟨p.offset + 1, p.line, p.column + 1⟩

/-- The tokens among consecutive pieces, the first of which starts at the given place. -/
def place (here : Place) : List (Piece × List Char) → List Token
  | [] => []
  | (p, lexeme) :: rest =>
    let after := lexeme.foldl Place.step here
    match p with
    | .token kind =>
      ⟨kind, String.ofList lexeme, here.offset, after.offset, here.line, here.column⟩ ::
        place after rest
    | .blanks | .stray => place after rest

/-- All tokens of a text, comments included. -/
def allTokens (s : List Char) (firstLine : Int := 1) : List Token :=
  place ⟨0, firstLine, 1⟩ (pieces s)

/-- The tokens of a text without its comments. -/
def tokens (s : List Char) (firstLine : Int := 1) : List Token :=
  (allTokens s firstLine).filter (·.kind != .comment)

end Monomorph.Lexer
