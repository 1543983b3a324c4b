import Monomorph.Literal.Expression
import Monomorph.Literal.Token

/-!
The grammar of expressions. Every rule reads tokens from the front. A rule is given how many rules
may still stand in one another; where rules that only hand on to another one are left out, the
number falls by more than one.
-/

namespace Monomorph.Literal

/-- A step that takes tokens from the front of what is left. -/
abbrev Reading := StateT (List Tok) (Except Fault)

namespace Reading

/-- Goes on with these tokens. -/
def leave (rest : List Tok) : Reading Unit := modify fun _ => rest

/-- Takes this sign if it comes next. -/
def sign? (s : String) : Reading Bool := do
  match ← get with
  | .sign t :: rest => if t == s then leave rest; return true else return false
  | _ => return false

/-- Takes this keyword if it comes next. -/
def keyword? (s : String) : Reading Bool := do
  match ← get with
  | .keyword t :: rest => if t == s then leave rest; return true else return false
  | _ => return false

/-- Takes this sign. -/
def sign (s : String) : Reading Unit := do
  unless ← sign? s do throw .notLiteral

/-- Takes this keyword. -/
def keyword (s : String) : Reading Unit := do
  unless ← keyword? s do throw .notLiteral

/-- Does one of these signs come next? -/
def comes (signs : List String) : Reading Bool := do
  match ← get with
  | .sign s :: _ => return signs.contains s
  | _ => return false

/-- Does a loop of a comprehension come next? -/
def loopComes : Reading Bool := do
  match ← get with
  | .keyword s :: _ => return s == "for" || s == "async"
  | _ => return false

/-- Is an assignment to a name next? -/
def assignmentComes : Reading Bool := do
  match ← get with
  | .name _ :: .sign ":=" :: _ => return true
  | _ => return false

/-- Is everything read but line breaks? -/
def atEnd : Reading Bool := do
  return (← get).all fun | .newline => true | _ => false

/-- How many steps that take a token each are left at most. -/
def most : Reading Nat := return (← get).length

/-- Takes what a step yields as long as it yields something, at most so many times. -/
def manyUpTo (step : Reading (Option Expr)) : Nat → Reading (List Expr)
  | 0 => return []
  | n + 1 => do
    match ← step with
    | some e => return e :: (← manyUpTo step n)
    | none => return []

/-- Takes what a step yields as long as it yields something. -/
def many (step : Reading (Option Expr)) : Reading (List Expr) := do
  match ← step with
  | some e => return e :: (← manyUpTo step (← most))
  | none => return []

/-- Lets a step extend an expression as long as it does, at most so many times. -/
def extendUpTo (step : Expr → Reading (Option Expr)) : Nat → Expr → Reading Expr
  | 0, e => return e
  | n + 1, e => do
    match ← step e with
    | some e => extendUpTo step n e
    | none => return e

/-- Lets a step extend an expression as long as it does. -/
def extend (step : Expr → Reading (Option Expr)) (e : Expr) : Reading Expr := do
  match ← step e with
  | some e => extendUpTo step (← most) e
  | none => return e

/-- Takes an expression unless one of these signs comes next. -/
def unless? (signs : List String) (operand : Reading Expr) : Reading (List Expr) := do
  if ← comes signs then return [] else return [← operand]

/-- An expression and more of them, each after the keyword. -/
def joined (word : String) (first later : Reading Expr) : Reading Expr := do
  let e ← first
  let more ← many do if ← keyword? word then some <$> later else return none
  return if more.isEmpty then e else .other (e :: more)

/-- Operands with one of the signs between neighbours, from left to right. -/
def operation (signs : List String) (operand : Reading Expr) : Reading Expr := do
  let step (left : Expr) : Reading (Option Expr) := do
    match ← get with
    | .sign s :: rest =>
      if !signs.contains s then return none
      leave rest
      let right ← operand
      return some <|
        if s == "+" then .sum false left right
        else if s == "-" then .sum true left right
        else .other [left, right]
    | _ => return none
  extend step (← operand)

/-- Takes a sign of comparison. -/
def comparison? : Reading Bool := do
  match ← get with
  | .keyword "is" :: .keyword "not" :: rest => leave rest; return true
  | .keyword "not" :: .keyword "in" :: rest => leave rest; return true
  | .keyword s :: rest => if s == "is" || s == "in" then leave rest; return true else return false
  | .sign s :: rest =>
    if ["==", "!=", "<", ">", "<=", ">="].contains s then leave rest; return true else return false
  | _ => return false

/-- The items after the first one, up to the end of their list. Commas stand between items, and one
may stand at the end. -/
def itemsTo {α : Type} (ends : Reading Bool) (item : Reading α) : Nat → Reading (List α)
  | 0 => throw .notLiteral
  | n + 1 => do
    if ← ends then return []
    sign ","
    if ← ends then return []
    return (← item) :: (← itemsTo ends item n)

/-- Which arguments of a call may still come. -/
inductive Stage where
  | any
  /-- After an argument with a name. -/
  | named
  /-- After a dictionary of arguments. -/
  | unpacked
  deriving DecidableEq

/-- The arguments up to the closing parenthesis. -/
def argumentsFrom (argument : Stage → Reading (Expr × Stage)) : Nat → Stage → Reading (List Expr)
  | 0, _ => throw .notLiteral
  | n + 1, stage => do
    if ← sign? ")" then return []
    let (e, stage) ← argument stage
    if ← sign? ")" then return [e]
    sign ","
    return e :: (← argumentsFrom argument n stage)

/-- What has been seen among the parameters of an anonymous function. -/
structure Parameters where
  any : Bool := false
  hasDefault : Bool := false
  hasSlash : Bool := false
  hasStar : Bool := false
  /-- A star without a name has to be followed by a parameter. -/
  isBare : Bool := false
  /-- Nothing may follow. -/
  isClosed : Bool := false

/-- Takes a name. -/
def name : Reading Unit := do
  match ← get with
  | .name _ :: rest => leave rest
  | _ => throw .notLiteral

/-- One parameter, or one of the signs among them; its default value, if it has one. -/
def parameter (value : Reading Expr) (p : Parameters) : Reading (List Expr × Parameters) := do
  if p.isClosed then throw .notLiteral
  else if ← sign? "/" then
    if !p.any || p.hasSlash || p.hasStar then throw .notLiteral
    return ([], { p with hasSlash := true })
  else if ← sign? "**" then
    if p.isBare then throw .notLiteral
    name
    return ([], { p with isClosed := true })
  else if ← sign? "*" then
    if p.hasStar then throw .notLiteral
    if ← comes [","] then return ([], { p with hasStar := true, isBare := true })
    name
    return ([], { p with hasStar := true })
  else
    name
    let p := { p with any := true, isBare := false }
    if ← sign? "=" then return ([← value], { p with hasDefault := true })
    if p.hasDefault && !p.hasStar then throw .notLiteral
    return ([], p)

/-- The default values of the parameters up to the colon. -/
def parametersFrom (value : Reading Expr) : Nat → Parameters → Reading (List Expr)
  | 0, _ => throw .notLiteral
  | n + 1, p => do
    if ← sign? ":" then
      if p.isBare then throw .notLiteral
      return []
    let (values, p) ← parameter value p
    if ← sign? ":" then
      if p.isBare then throw .notLiteral
      return values
    sign ","
    return values ++ (← parametersFrom value n p)

/-- The places that a loop puts its values at, up to the keyword that ends them. -/
def targetsFrom (operand : Reading Expr) : Nat → Reading (List Expr)
  | 0 => throw .notLiteral
  | n + 1 => do
    let _ ← sign? "*"
    let e ← operand
    if !e.isTarget then throw .notLiteral
    if ← keyword? "in" then return [e]
    sign ","
    if ← keyword? "in" then return [e]
    return e :: (← targetsFrom operand n)

/-- Takes adjacent quoted literals. -/
def quoted : Reading (List Tok) := do
  let isQuoted : Tok → Bool
    | .text _ | .bytes _ | .formatted _ => true
    | _ => false
  let ts ← get
  leave (ts.dropWhile isQuoted)
  return ts.takeWhile isQuoted

/-- The bytes of adjacent byte strings, if all of some tokens are byte strings. -/
def bytesOf? : List Tok → Option (List UInt8)
  | [] => some []
  | .bytes bs :: rest => (bytesOf? rest).map (bs ++ ·)
  | _ => none

/-- The code points of adjacent texts and the expressions in formatted ones; nothing if a byte string
is among them. -/
def textOf? : List Tok → Option (List Nat × List (List Char))
  | [] => some ([], [])
  | .text points :: rest => (textOf? rest).map fun p => (points ++ p.1, p.2)
  | .formatted fields :: rest => (textOf? rest).map fun p => (p.1, fields ++ p.2)
  | _ => none

/-- Is one of the tokens a formatted text? -/
def hasFormatted (ts : List Tok) : Bool := ts.any fun | .formatted _ => true | _ => false

/-- The values of the expressions in formatted texts, each read on its own within parentheses. -/
def fieldsOf (value : Reading Expr) : List (List Char) → Reading (List Expr)
  | [] => return []
  | field :: rest => do
    let after ← get
    leave (tokens ('(' :: (field ++ [')'])))
    let e ← value
    unless ← atEnd do throw .notLiteral
    leave after
    return .other [e] :: (← fieldsOf value rest)

end Reading

open Reading

mutual

/-- An expression: alternatives with a condition between them, or an anonymous function. -/
def expression : Nat → Reading Expr
  | 0 => throw .tooDeep
  | n + 1 => do
    if ← keyword? "lambda" then lambda n
    else
      let e ← disjunction n
      if ← keyword? "if" then
        let condition ← disjunction n
        keyword "else"
        return .other [e, condition, ← expression n]
      else return e

/-- The parameters and the value of an anonymous function. -/
def lambda : Nat → Reading Expr
  | n + 7 => do
    let values ← parametersFrom (expression n) (← most) {}
    return .other [.other values, ← expression (n + 6)]
  | _ => throw .tooDeep

/-- Conditions of which one has to hold. -/
def disjunction : Nat → Reading Expr
  | n + 3 => joined "or" (conjunction (n + 2)) (conjunction n)
  | _ => throw .tooDeep

/-- Conditions that all have to hold. -/
def conjunction : Nat → Reading Expr
  | n + 3 => joined "and" (inversion (n + 2)) (inversion n)
  | _ => throw .tooDeep

/-- A condition, perhaps negated. -/
def inversion : Nat → Reading Expr
  | 0 => throw .tooDeep
  | n + 1 => do if ← keyword? "not" then return .other [← inversion n] else comparison n

/-- Operands with comparisons between neighbours. -/
def comparison : Nat → Reading Expr
  | n + 4 => do
    let e ← bitwise (n + 3)
    let more ← many do if ← comparison? then some <$> bitwise n else return none
    return if more.isEmpty then e else .other (e :: more)
  | _ => throw .tooDeep

/-- Operands with other operators between them, those that bind least on the outside. -/
def bitwise : Nat → Reading Expr
  | n + 12 =>
    operation ["|"] <| operation ["^"] <| operation ["&"] <| operation ["<<", ">>"] <|
      operation ["+", "-"] <| operation ["*", "/", "//", "%", "@"] <| factor n
  | _ => throw .tooDeep

/-- An operand with the signs in front of it. -/
def factor : Nat → Reading Expr
  | 0 => throw .tooDeep
  | n + 1 => do
    if ← sign? "-" then return .signed true (← factor n)
    else if ← sign? "+" then return .signed false (← factor n)
    else if ← sign? "~" then return .other [← factor n]
    else power n

/-- An operand, perhaps raised to a power. -/
def power : Nat → Reading Expr
  | 0 => throw .tooDeep
  | n + 1 => do
    let base ← awaited n
    if ← sign? "**" then return .other [base, ← factor n] else return base

/-- An operand, perhaps waited for. -/
def awaited : Nat → Reading Expr
  | 0 => throw .tooDeep
  | n + 1 => do if ← keyword? "await" then return .other [← primary n] else primary n

/-- An operand with the calls, subscripts and members behind it. -/
def primary : Nat → Reading Expr
  | n + 2 => do extend (trailer (n + 1)) (← atom n)
  | _ => throw .tooDeep

/-- A call, a subscript or a member behind an operand. -/
def trailer : Nat → Expr → Reading (Option Expr)
  | n + 7, e => do
    if ← sign? "." then
      name
      return some (.place [e])
    else if ← sign? "(" then
      if ← sign? ")" then return some (.call e [])
      let (first, stage) ← argument (n + 6) .any
      if (← loopComes) && stage = .any && !first.isStarred then
        return some (.call e [.other (first :: (← loops (n + 5) ")"))])
      if ← sign? ")" then return some (.call e [first])
      sign ","
      return some (.call e (first :: (← argumentsFrom (argument (n + 2)) (← most) stage)))
    else if ← sign? "[" then
      let first ← subscript (n + 5)
      let more ← itemsTo (sign? "]") (subscript (n + 2)) (← most)
      return some (.place (if more.isEmpty then [e, first] else [e, .tuple (first :: more)]))
    else return none
  | _, _ => do if ← comes [".", "(", "["] then throw .tooDeep else return none

/-- An argument of a call, and what may come after it. -/
def argument : Nat → Stage → Reading (Expr × Stage)
  | n + 2, stage => do
    match ← get, stage with
    | .sign "**" :: rest, _ => leave rest; return (.other [← expression (n + 1)], .unpacked)
    | .name _ :: .sign "=" :: rest, .unpacked =>
      leave rest
      return (.other [← expression (n + 1)], .unpacked)
    | .name _ :: .sign "=" :: rest, _ => leave rest; return (.other [← expression (n + 1)], .named)
    | .sign "*" :: rest, .any => leave rest; return (.starred (← expression (n + 1)), .any)
    | .sign "*" :: rest, .named => leave rest; return (.starred (← expression (n + 1)), .named)
    | _, .any => return (← assigned (n + 1), .any)
    | _, _ => throw .notLiteral
  | _, _ => throw .tooDeep

/-- One subscript: an expression, a slice, or something whose members stand in its place. -/
def subscript : Nat → Reading Expr
  | n + 2 => do
    if ← sign? "*" then return .starred (← expression n)
    if ← assignmentComes then return ← assigned (n + 1)
    match ← unless? [":"] (expression (n + 1)), ← sign? ":" with
    | [e], false => return e
    | lower, _ =>
      let upper ← unless? [":", ",", "]"] (expression (n + 1))
      let step ← if ← sign? ":" then unless? [",", "]"] (expression n) else pure []
      return .other (lower ++ upper ++ step)
  | _ => throw .tooDeep

/-- An expression, perhaps assigned to a name. -/
def assigned : Nat → Reading Expr
  | n + 2 => do
    if ← assignmentComes then
      name
      sign ":="
      return .other [← expression n]
    else expression (n + 1)
  | _ => throw .tooDeep

/-- An item of a list: an expression, perhaps assigned to a name, or something whose members stand in
its place. -/
def item : Nat → Reading Expr
  | 0 => throw .tooDeep
  | n + 1 => do if ← sign? "*" then return .starred (← bitwise n) else assigned n

/-- An item of what a generator yields. It cannot be assigned to a name. -/
def yielded : Nat → Reading Expr
  | 0 => throw .tooDeep
  | n + 1 => do if ← sign? "*" then return .starred (← bitwise n) else expression n

/-- An entry of a dictionary. One whose key is left out stands for the entries of another
dictionary. -/
def entry : Nat → Reading (Expr × Expr)
  | n + 2 => do
    if ← sign? "**" then return (.other [], ← bitwise (n + 1))
    else
      let key ← expression n
      sign ":"
      return (key, ← expression n)
  | _ => throw .tooDeep

/-- The loops of a comprehension with their conditions, up to its closing bracket. -/
def loops : Nat → String → Reading (List Expr)
  | n + 5, close => do
    let loops ← many do
      if !(← loopComes) then return none
      let _ ← keyword? "async"
      keyword "for"
      let targets ← targetsFrom (primary n) (← most)
      let values ← disjunction (n + 2)
      let conditions ← many do if ← keyword? "if" then some <$> disjunction n else return none
      return some (.other (values :: (targets ++ conditions)))
    sign close
    return loops
  | _, _ => throw .tooDeep

/-- A literal, a name, or what brackets enclose. -/
def atom : Nat → Reading Expr
  | 0 => throw .tooDeep
  | n + 1 => do
    match ← get with
    | .value v :: rest => leave rest; return .value v
    | .name s :: rest => leave rest; return .name s
    | .keyword "True" :: rest => leave rest; return .value (.bool true)
    | .keyword "False" :: rest => leave rest; return .value (.bool false)
    | .keyword "None" :: rest => leave rest; return .value .nothing
    | .sign "..." :: rest => leave rest; return .value .ellipsis
    | .sign "(" :: rest => leave rest; inParentheses n
    | .sign "[" :: rest => leave rest; inBrackets n
    | .sign "\x7b" :: rest => leave rest; inBraces n
    | _ =>
      let ts ← quoted
      if ts.isEmpty then throw .notLiteral
      match bytesOf? ts, textOf? ts with
      | some bs, _ => return .value (.bytes bs)
      | none, some (points, fields) =>
        let values ← fieldsOf (expression n) fields
        return if hasFormatted ts then .other values else .value (ofPoints points)
      | none, none => throw .notLiteral

/-- What parentheses enclose, after the opening one. -/
def inParentheses : Nat → Reading Expr
  | n + 7 => do
    if ← sign? ")" then return .tuple []
    else if ← keyword? "yield" then
      if ← keyword? "from" then
        let e ← expression (n + 3)
        sign ")"
        return .other [e]
      else if ← sign? ")" then return .other []
      else
        let first ← yielded (n + 2)
        return .other (first :: (← itemsTo (sign? ")") (yielded n) (← most)))
    else
      let first ← item (n + 4)
      if ← sign? ")" then
        if first.isStarred then throw .notLiteral
        return first
      if (← loopComes) && !first.isStarred then return .other (first :: (← loops (n + 5) ")"))
      sign ","
      if ← sign? ")" then return .tuple [first]
      let second ← item (n + 2)
      return .tuple (first :: second :: (← itemsTo (sign? ")") (item (n + 1)) (← most)))
  | _ => throw .tooDeep

/-- What square brackets enclose, after the opening one. -/
def inBrackets : Nat → Reading Expr
  | n + 7 => do
    if ← sign? "]" then return .list []
    let first ← item (n + 3)
    if (← loopComes) && !first.isStarred then return .other (first :: (← loops (n + 5) "]"))
    return .list (first :: (← itemsTo (sign? "]") (item (n + 2)) (← most)))
  | _ => throw .tooDeep

/-- What braces enclose, after the opening one. -/
def inBraces : Nat → Reading Expr
  | n + 7 => do
    let setOf (first : Expr) : Reading Expr := do
      if (← loopComes) && !first.isStarred then return .other (first :: (← loops (n + 5) "\x7d"))
      return .set (first :: (← itemsTo (sign? "\x7d") (item (n + 2)) (← most)))
    let dictOf (first : Expr × Expr) : Reading Expr := do
      return .dict (first :: (← itemsTo (sign? "\x7d") (entry (n + 2)) (← most)))
    if ← sign? "\x7d" then return .dict []
    else if ← comes ["**"] then dictOf (← entry (n + 3))
    else if (← comes ["*"]) || (← assignmentComes) then setOf (← item (n + 3))
    else
      let first ← expression (n + 1)
      if ← sign? ":" then
        let value ← expression (n + 1)
        if ← loopComes then return .other (first :: value :: (← loops (n + 5) "\x7d"))
        else dictOf (first, value)
      else setOf first
  | _ => throw .tooDeep

end

/-- How many rules may stand in one another. -/
def maxRules : Nat := 6000

/-- A whole text: one expression, or several with commas, which make a tuple. -/
def whole : Reading Expr := do
  let first ← expression (maxRules - 2)
  if ← atEnd then return first
  return .tuple (first :: (← itemsTo atEnd (expression (maxRules - 4)) (← most)))

/-- The expression that a text writes. -/
def Expr.ofText (s : List Char) : Except Fault Expr := (·.1) <$> whole.run (tokens s)

end Monomorph.Literal
