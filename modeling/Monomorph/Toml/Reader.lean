import Monomorph.Toml.Draft
import Monomorph.Toml.Scalar

/-!
Reading a TOML document: a statement a line, each of which is a header, the header of one more table
in a list, or a key with its value. A statement takes effect as soon as it is read, so the first fault
of the text is the one that is found.
-/

namespace Monomorph.Toml

/-- May the character stand in a key without quotes? -/
def isBare (c : Char) : Bool := c.isAlphanum || c == '-' || c == '_'

/-- One part of a key. -/
def keyPart (s : List Char) : Reading String :=
  match s with
  | c :: _ =>
    if isBare c then .ok (String.ofList (s.takeWhile isBare), s.dropWhile isBare)
    else (quoted s).map fun p => (String.ofList p.1, p.2)
  | [] => .error .malformed

/-- A dotted key with the blanks behind it: its first part and the others. -/
def key (s : List Char) : Reading (String × List String) :=
  match keyPart s with
  | .error f => .error f
  | .ok (first, r) =>
    match r.dropWhile isGap with
    | '.' :: r' =>
      let after := r'.dropWhile isGap
      if after.length < s.length then
        match key after with
        | .error f => .error f
        | .ok ((second, others), r) => .ok ((first, second :: others), r)
      else .error .malformed
    | r' => .ok ((first, []), r')
termination_by s.length

/-- The characters behind a comment, if one stands at the head. -/
def pastComment (s : List Char) : Except Fault (List Char) :=
  match s with
  | '#' :: r =>
    if (r.takeWhile (· != '\n')).all isPlain then .ok (r.dropWhile (· != '\n'))
    else .error .malformed
  | _ => .ok s

/-- The characters behind the blanks, line ends and comments within a list. -/
def pastBlanks (s : List Char) : Except Fault (List Char) :=
  match s.dropWhile isGapOrNewline with
  | '#' :: r =>
    match pastComment ('#' :: r) with
    | .error f => .error f
    | .ok r' => if r'.length < s.length then pastBlanks r' else .ok r'
  | r => .ok r
termination_by s.length

mutual

/-- A value at the head of the characters. It may be so many steps deep, where a list takes two and a
table in braces three. -/
def settingAt (steps : Nat) (s : List Char) : Reading Setting :=
  match s with
  | '[' :: r =>
    if steps < 2 then .error .tooDeep
    else (itemsAt (steps - 2) true [] r).map fun p => (.list p.1, p.2)
  | '\x7b' :: r =>
    match r.dropWhile isGap with
    | '\x7d' :: r => .ok (.table [], r)
    | r' =>
      if steps < 3 then .error .tooDeep
      else if r'.length ≤ r.length then
        (entriesAt (steps - 3) [] r').map fun p => (.table (Draft.finishFields p.1), p.2)
      else .error .malformed
  | s => scalar s
termination_by 2 * s.length

/-- The items of a list up to its closing bracket, after those read so far in reverse. The bracket
may follow the opening one or a comma. -/
def itemsAt (steps : Nat) (isFirst : Bool) (done : List Setting) (s : List Char) : Reading (List Setting) :=
  match pastBlanks s with
  | .error f => .error f
  | .ok (']' :: r) => .ok (done.reverse, r)
  | .ok r =>
    let start : Except Fault (List Char) :=
      if isFirst then .ok r
      else match r with
        | ',' :: r => pastBlanks r
        | _ => .error .malformed
    match start with
    | .error f => .error f
    | .ok (']' :: r) => .ok (done.reverse, r)
    | .ok r =>
      if r.length ≤ s.length then
        match settingAt steps r with
        | .error f => .error f
        | .ok (v, rest) =>
          if rest.length < s.length then itemsAt steps false (v :: done) rest else .error .malformed
      else .error .malformed
termination_by 2 * s.length + 1

/-- The entries of a table in braces up to its closing brace, added to those read so far. -/
def entriesAt (steps : Nat) (fields : Draft.Fields) (s : List Char) : Reading Draft.Fields :=
  match key s with
  | .error f => .error f
  | .ok ((first, others), '=' :: r) =>
    let r := r.dropWhile isGap
    if r.length < s.length then
      match settingAt steps r with
      | .error f => .error f
      | .ok (v, rest) =>
        match Draft.assign? 0 v fields first others with
        | none => .error .malformed
        | some fields =>
          match rest.dropWhile isGap with
          | '\x7d' :: rest => .ok (fields, rest)
          | ',' :: rest =>
            let rest := rest.dropWhile isGap
            if rest.length < s.length then entriesAt steps fields rest else .error .malformed
          | _ => .error .malformed
    else .error .malformed
  | .ok _ => .error .malformed
termination_by 2 * s.length

end

/-- A document in the middle: its fields so far, the path of the current header and its number. -/
structure Progress where
  fields : Draft.Fields := []
  header : List String := []
  number : Nat := 0

/-- The effect of a header. -/
def Progress.enter (p : Progress) (isList : Bool) (first : String) (others : List String) :
    Except Fault Progress :=
  let path := first :: others
  let last := path.getLast?.getD first
  match Draft.within? (if isList then Draft.append? last else Draft.open? last) p.fields
    path.dropLast with
  | some fields => .ok ⟨fields, path, p.number + 1⟩
  | none => .error .malformed

/-- The effect of a key with its value. -/
def Progress.assign (p : Progress) (first : String) (others : List String) (v : Setting) :
    Except Fault Progress :=
  match Draft.within? (fun fields => Draft.assign? p.number v fields first others) p.fields
    p.header with
  | some fields => .ok { p with fields }
  | none => .error .malformed

/-- A header after its opening brackets, which are two for a list of tables. -/
def header (p : Progress) (isList : Bool) (s : List Char) : Reading Progress :=
  match key (s.dropWhile isGap) with
  | .error f => .error f
  | .ok ((first, others), r) =>
    match p.enter isList first others with
    | .error f => .error f
    | .ok p =>
      match isList, r with
      | false, ']' :: r => .ok (p, r)
      | true, ']' :: ']' :: r => .ok (p, r)
      | _, _ => .error .malformed

/-- How many steps deep a value may be. -/
def maxSteps : Nat := 982

/-- A key with its value. -/
def assignment (p : Progress) (s : List Char) : Reading Progress :=
  match key s with
  | .error f => .error f
  | .ok ((first, others), '=' :: r) =>
    match settingAt maxSteps (r.dropWhile isGap) with
    | .error f => .error f
    | .ok (v, r) => (p.assign first others v).map fun p => (p, r)
  | .ok _ => .error .malformed

/-- The statement at the head of a line without the blanks in front. -/
def statement (p : Progress) (s : List Char) : Reading Progress :=
  match s with
  | [] => .ok (p, [])
  | '\n' :: _ => .ok (p, s)
  | '#' :: _ => .ok (p, s)
  | '[' :: '[' :: r => header p true r
  | '[' :: r => header p false r
  | _ => assignment p s

/-- The document after the statements that are left. -/
def statements (p : Progress) (s : List Char) : Except Fault Progress :=
  match statement p (s.dropWhile isGap) with
  | .error f => .error f
  | .ok (p, r) =>
    match pastComment (r.dropWhile isGap) with
    | .error f => .error f
    | .ok [] => .ok p
    | .ok ('\n' :: r) => if r.length < s.length then statements p r else .error .malformed
    | .ok _ => .error .malformed
termination_by s.length

/-- The characters with every carriage return that a newline follows removed. -/
def unixNewlines : List Char → List Char
  | [] => []
  | '\r' :: '\n' :: r => '\n' :: unixNewlines r
  | c :: r => c :: unixNewlines r

/-- The table that a document writes. -/
def read (document : String) : Except Fault (List (FieldName × Setting)) :=
  (statements {} (unixNewlines document.toList)).map fun p => Draft.finishFields p.fields

end Monomorph.Toml
