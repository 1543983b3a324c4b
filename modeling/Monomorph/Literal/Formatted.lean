import Monomorph.Literal.Quoted

/-!
Formatted texts: texts with fields in braces that hold an expression each, perhaps with a conversion
and a format. A format can hold fields of its own, but those cannot.
-/

namespace Monomorph.Literal.Formatted

/-- Where a character stands in the plain part of a formatted text. -/
inductive Place where
  | plain
  /-- After a backslash. -/
  | escaped
  /-- After the letter that announces a character's name. -/
  | announced
  /-- Within the braces around a character's name. -/
  | named

/-- The place after a character that is no brace of a field. -/
def Place.next (isRaw : Bool) (c : Char) : Place → Place
  | .plain => if c == '\\' && !isRaw then .escaped else .plain
  | .escaped => if c == 'N' then .announced else .plain
  | .announced => if c == '\x7b' then .named else .plain
  | .named => if c == '\x7d' then .plain else .named

/-- Does a brace count as such in this place? -/
def Place.seesBraces : Place → Bool
  | .plain | .escaped => true
  | .announced | .named => false

/-- The plain part at the head of a formatted text, and the rest from the next brace of a field on.
Outside formats a doubled brace stands for one, and no closing brace stands alone. -/
def plain? (isRaw inFormat : Bool) : Place → List Char → Option (List Char × List Char)
  | _, [] => some ([], [])
  | place, c :: r =>
    let keep (p : List Char × List Char) := (c :: p.1, p.2)
    if place.seesBraces && (c == '\x7b' || c == '\x7d') then
      if inFormat then some ([], c :: r)
      else match r with
      | d :: r' =>
        if d == c then (plain? isRaw inFormat .plain r').map keep
        else if c == '\x7d' then none
        else some ([], c :: r)
      | [] => if c == '\x7d' then none else some ([], [c])
    else (plain? isRaw inFormat (place.next isRaw c) r).map keep

/-- Does the second bracket close the first one? -/
def closes : Char → Char → Bool
  | '(', ')' => true
  | '[', ']' => true
  | '\x7b', '\x7d' => true
  | _, _ => false

/-- The expression at the head of a field, and the rest from the sign on that ends it. It ends at a
colon, a closing brace, an exclamation mark or an equals sign outside brackets and quotes, unless
that is part of a comparison. It can hold neither a backslash nor a comment. `passed` characters are
taken as they are, in the quote and brackets that are open after them. -/
def expression? (passed : Nat) (quote : Option Quote) (opened : List Char) :
    List Char → Option (List Char × List Char)
  | [] => none
  | c :: r =>
    let goOn (passed : Nat) (quote : Option Quote) (opened : List Char) :=
      (expression? passed quote opened r).map fun p => (c :: p.1, p.2)
    let isTripled := [c, c].isPrefixOf r
    if 0 < passed then goOn (passed - 1) quote opened
    else if c == '\\' then none
    else match quote with
    | some q =>
      if c != q.mark || (q.triple && !isTripled) then goOn 0 quote opened
      else goOn (if q.triple then 2 else 0) none opened
    | none =>
      if isQuote c then goOn (if isTripled then 2 else 0) (some ⟨c, isTripled⟩) opened
      else if c == '(' || c == '[' || c == '\x7b' then goOn 0 none (c :: opened)
      else if c == '#' then none
      else if opened.isEmpty && ['!', '=', '>', '<'].contains c && r.head? == some '=' then
        goOn 1 none opened
      else if opened.isEmpty && (c == '>' || c == '<') then goOn 0 none opened
      else if opened.isEmpty && ['!', '=', ':', '\x7d'].contains c then some ([], c :: r)
      else if c == ')' || c == ']' || c == '\x7d' then
        match opened with
        | o :: outer => if closes o c then goOn 0 none outer else none
        | [] => none
      else goOn 0 none opened

/-- What follows the equals sign that asks for a field's own text, if there is one. -/
def afterEquals : List Char → List Char
  | '=' :: r => r.dropWhile fun c => c == ' ' || (9 ≤ c.toNat && c.toNat ≤ 13)
  | r => r

/-- What follows the conversion of a field, if there is one. -/
def afterConversion? : List Char → Option (List Char)
  | '!' :: c :: r => if c == 's' || c == 'r' || c == 'a' then some r else none
  | ['!'] => none
  | r => some r

/-- The expressions of the fields in a formatted text, which is no format, or a format in one
(`level` 1) or two (`level` 2) fields; and the rest: nothing, or the brace that ends the format. -/
def fieldsFrom? (isRaw : Bool) (level : Nat) :
    Nat → List Char → Option (List (List Char) × List Char)
  | 0, _ => none
  | fuel + 1, s => do
    let (plain, rest) ← plain? isRaw (level != 0) .plain s
    if !isRaw then let _ ← unescape? true 0 plain
    match rest with
    | '\x7b' :: r =>
      if 2 ≤ level then none
      let (expression, r) ← expression? 0 none [] r
      if expression.all fun c => c == ' ' || c == '\t' || c == '\n' || c.toNat == 12 then none
      let (inner, r) ← match ← afterConversion? (afterEquals r) with
        | ':' :: r => fieldsFrom? isRaw (level + 1) fuel r
        | r => some ([], r)
      match r with
      | '\x7d' :: r =>
        let (more, r) ← fieldsFrom? isRaw level fuel r
        return (expression :: (inner ++ more), r)
      | _ => none
    | r => return ([], r)

/-- The expressions of the fields between the quotes of a formatted text; nothing if it is
malformed. -/
def fields? (isRaw : Bool) (body : List Char) : Option (List (List Char)) :=
  (fieldsFrom? isRaw 0 (body.length + 1) body).map (·.1)

end Monomorph.Literal.Formatted
