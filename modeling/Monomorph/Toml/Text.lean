import Monomorph.Number.Digits

/-!
Texts of a TOML document: four notations, each with its own closing mark and its own forbidden
characters. Every reader takes the characters after the opening mark and answers the text with the
characters behind the closing one.
-/

namespace Monomorph.Toml

/-- Why a text is no document. -/
inductive Fault where
  /-- It does not follow the grammar, or it defines something twice. -/
  | malformed
  /-- An integer has too many digits. -/
  | longInteger
  /-- Lists and tables nest too deep. -/
  | tooDeep
  deriving DecidableEq, Repr

/-- A blank within a line. -/
def isGap (c : Char) : Bool := c == ' ' || c == '\t'

/-- A blank or a line end. -/
def isGapOrNewline (c : Char) : Bool := isGap c || c == '\n'

/-- May the character stand in a comment or in a text of one line? Controls may not, except the
tab. -/
def isPlain (c : Char) : Bool := c == '\t' || (32 ≤ c.toNat && c.toNat != 127)

/-- May the character stand in a text of several lines? -/
def isPlainOrNewline (c : Char) : Bool := isPlain c || c == '\n'

/-- What a reader answers: a value and the characters behind it. -/
abbrev Reading (α : Type) := Except Fault (α × List Char)

/-- The characters up to a closing mark. -/
def upTo (close : List Char) (isAllowed : Char → Bool) : List Char → Reading (List Char)
  | [] => .error .malformed
  | c :: r =>
    if close.isPrefixOf (c :: r) then .ok ([], (c :: r).drop close.length)
    else if isAllowed c then (upTo close isAllowed r).map fun p => (c :: p.1, p.2)
    else .error .malformed

/-- The character with a code point that hexadecimal digits write. -/
def charOf? (ds : List Char) : Option Char :=
  if ds.all (Digits.isIn 16) then
    let n := Digits.number 16 ds
    if h : n.isValidChar then some (Char.ofNatAux n h) else none
  else none

/-- The character that an escape stands for, after the backslash. -/
def unescape? (s : List Char) : Option (Char × List Char) :=
  match s with
  | 'b' :: r => some (Char.ofNat 8, r)
  | 't' :: r => some ('\t', r)
  | 'n' :: r => some ('\n', r)
  | 'f' :: r => some (Char.ofNat 12, r)
  | 'r' :: r => some ('\r', r)
  | '"' :: r => some ('"', r)
  | '\\' :: r => some ('\\', r)
  | 'u' :: r =>
    if r.length < 4 then none else (charOf? (r.take 4)).map fun c => (c, r.drop 4)
  | 'U' :: r =>
    if r.length < 8 then none else (charOf? (r.take 8)).map fun c => (c, r.drop 8)
  | _ => none

/-- The characters behind a backslash that ends a line, without the blanks and line ends that
follow. -/
def continued? (s : List Char) : Option (List Char) :=
  match s.dropWhile isGap with
  | [] => some []
  | '\n' :: r => some (r.dropWhile isGapOrNewline)
  | _ => none

/-- The rest of a text of one line in double quotes. -/
def basic (s : List Char) : Reading (List Char) :=
  match s with
  | [] => .error .malformed
  | '"' :: r => .ok ([], r)
  | '\\' :: r =>
    match unescape? r with
    | none => .error .malformed
    | some (c, rest) =>
      if rest.length ≤ r.length then (basic rest).map fun p => (c :: p.1, p.2)
      else .error .malformed
  | c :: r => if isPlain c then (basic r).map fun p => (c :: p.1, p.2) else .error .malformed
termination_by s.length
decreasing_by all_goals simp only [List.length_cons]; omega

/-- The rest of a text of several lines in double quotes, up to the first three quotes. -/
def basicLines (s : List Char) : Reading (List Char) :=
  match s with
  | [] => .error .malformed
  | '"' :: '"' :: '"' :: r => .ok ([], r)
  | '\\' :: r =>
    let startsBlank := (r.head?.map isGapOrNewline).getD false
    let next : Option (List Char × List Char) :=
      if startsBlank then (continued? r).map fun rest => ([], rest)
      else (unescape? r).map fun p => ([p.1], p.2)
    match next with
    | none => .error .malformed
    | some (cs, rest) =>
      if rest.length ≤ r.length then (basicLines rest).map fun p => (cs ++ p.1, p.2)
      else .error .malformed
  | c :: r =>
    if isPlainOrNewline c then (basicLines r).map fun p => (c :: p.1, p.2) else .error .malformed
termination_by s.length
decreasing_by all_goals simp only [List.length_cons]; omega

/-- A text of several lines whose closing mark is followed by one or two more quotes: they belong to
the text. -/
def withQuotes (mark : Char) : List Char × List Char → List Char × List Char
  | (text, a :: b :: r) =>
    if a != mark then (text, a :: b :: r)
    else if b != mark then (text ++ [mark], b :: r)
    else (text ++ [mark, mark], r)
  | (text, [a]) => if a == mark then (text ++ [mark], []) else (text, [a])
  | (text, []) => (text, [])

/-- The characters without a line end at the head. -/
def withoutNewline : List Char → List Char
  | '\n' :: r => r
  | s => s

/-- A text of one line with its quotes, which is also a way to write a key. -/
def quoted (s : List Char) : Reading (List Char) :=
  match s with
  | '"' :: r => basic r
  | '\'' :: r => upTo ['\''] isPlain r
  | _ => .error .malformed

/-- A text in any notation with its quotes. -/
def text (s : List Char) : Reading (List Char) :=
  match s with
  | '"' :: '"' :: '"' :: r => (basicLines (withoutNewline r)).map (withQuotes '"')
  | '\'' :: '\'' :: '\'' :: r =>
    (upTo ['\'', '\'', '\''] isPlainOrNewline (withoutNewline r)).map (withQuotes '\'')
  | _ => quoted s

end Monomorph.Toml
