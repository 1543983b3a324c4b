import Monomorph.Token.Lexer

/-!
String literals of the host language: the two notations in which a text is written, and the text
that literal tokens stand for.
-/

namespace Monomorph.StringLiteral

open Text

/-- One character of an ordinary literal. -/
def escape (c : Char) : List Char :=
  if c == '\\' then ['\\', '\\']
  else if c == '"' then ['\\', '"']
  else if c == '\n' then ['\\', 'n']
  else if c == '\t' then ['\\', 't']
  else [c]

/-- A text as an ordinary literal. -/
def quotedOf (s : List Char) : List Char := '"' :: (s.flatMap escape ++ ['"'])

/-- The delimiters tried for a raw literal, in order. -/
def delimiter (n : Nat) : List Char :=
  if n = 0 then "npe_doc".toList else "npe_doc".toList ++ Nat.toDigits 10 n

/-- The text that ends a raw literal with the given delimiter. -/
def rawCloser (delimiter : List Char) : List Char := ')' :: (delimiter ++ ['"'])

/-- The first delimiter whose closing text does not occur in the text. Closing texts of different
delimiters start at different places, so one of the first `length + 1` is free. -/
def freeDelimiter (s : List Char) : List Char :=
  let free := (List.range (s.length + 1)).find? fun n =>
    (through? (rawCloser (delimiter n)) s).isNone
  delimiter (free.getD 0)

/-- A text as a raw literal. -/
def rawOf (s : List Char) : List Char :=
  let d := freeDelimiter s
  ['R', '"'] ++ d ++ ['('] ++ s ++ rawCloser d

/-- A text as an ordinary literal. -/
def quoted (s : String) : String := String.ofList (quotedOf s.toList)

/-- A text as a raw literal. -/
def raw (s : String) : String := String.ofList (rawOf s.toList)

/-- The character that an escape stands for; an unknown escape stands for itself. -/
def unescapeChar (c : Char) : Char :=
  if c == 'n' then '\n' else if c == 't' then '\t' else if c == 'r' then '\r'
  else if c == '0' then Char.ofNat 0 else c

/-- The characters between the quotes of an ordinary literal. A backslash before a newline or at
the end stays as it is. -/
def unescape : List Char → List Char
  | [] => []
  | '\\' :: c :: r =>
    if c == '\n' then '\\' :: '\n' :: unescape r else unescapeChar c :: unescape r
  | c :: r => c :: unescape r

/-- The characters of a raw literal after its opening quote, without delimiters and parentheses. -/
def rawBody (s : List Char) : List Char :=
  let d := (s.takeWhile (· != '(')).length
  (s.drop (d + 1)).take (s.length - d - 2 - (d + 1))

/-- The text of one literal token, if there is a quote in it. -/
def decodeToken? (t : Token) : Option (List Char) :=
  let cs := t.text.toList
  match t.kind with
  | .rawString =>
    (through? ['R', '"'] cs).map fun n => rawBody (cs.drop n)
  | _ =>
    (through? ['"'] cs).map fun n => unescape (cs.drop n).dropLast

/-- The text of adjacent literal tokens. -/
def decode? (ts : List Token) : Option String :=
  (ts.mapM decodeToken?).map fun parts => String.ofList parts.flatten

end Monomorph.StringLiteral
