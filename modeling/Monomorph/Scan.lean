import Monomorph.MarkerCall
import Monomorph.Token.StringLiteral

/-!
Scanning: from annotated text to its declaration. The host language is never parsed. The text is cut
into tokens, so that markers inside comments and literals do not count, and the tokens are read in
four stretches: host code before `npe_function`, declarations up to `npe_begin_code()`, the body up
to `npe_end_code()`, and host code after it. Everything that is no marker call is kept verbatim.
-/

namespace Monomorph.Scan

open Text

/-- The text that some consecutive tokens span, every run of blanks in it made one space. -/
def span (source : List Char) (item : List Token) : String :=
  match item.head?, item.getLast? with
  | some first, some last => squeeze (String.ofList (slice source first.start last.stop))
  | _, _ => ""

/-- The name that an item consists of. -/
def readName (source : List Char) (call : MarkerCall) (what : String) (item : List Token) :
    Except Blame String :=
  let marker := call.marker.text
  match item with
  | [t] =>
    if t.kind != .ident then
      .error (.here (.nameShape marker what (span source item)) t marker)
    else if isBindingName t.text then .ok t.text
    else .error (.here (.nameInvalid marker t.text) t marker)
  | t :: _ => .error (.here (.nameShape marker what (span source item)) t marker)
  | [] => .error (.here (.nameShape marker what "") call.marker marker)

/-- A declaration that has been read up to some marker. -/
structure Draft where
  path : Option Path
  name : String
  location : Location
  arguments : List Argument := []
  doc : Option String := none
  preamble : List Char
  hasDefault : Bool := false
  /-- Where the host code after the last call starts. -/
  gapStart : Nat
  deriving Repr

/-- Keeps the host code from the last call up to an offset, if it holds any token. -/
def Draft.keepGap (d : Draft) (source : List Char) (until_ : Nat) : Draft :=
  let gap := slice source d.gapStart until_
  if (Lexer.tokens gap).isEmpty then d
  else { d with preamble := d.preamble ++ trimBy (· == '\n') gap ++ ['\n'] }

/-- Adds an argument whose name stands at the given token. -/
def Draft.add (d : Draft) (a : Argument) (nameToken : Token) : Except Blame Draft :=
  match d.arguments.find? (·.name == a.name) with
  | some first =>
    .error (.here (.duplicateArgument a.name first.location.line) nameToken Marker.argument.spelling)
  | none => .ok { d with arguments := d.arguments ++ [a] }

/-- The constraint that an item writes, given that its head introduces one. -/
def readConstraint (source : List Char) (argument : String) (relation : Relation)
    (item : List Token) (head : Token) : Except Blame Constraint :=
  match item with
  | [_, l, name, r] =>
    if l.isPunct "(" && name.kind == .ident && r.isPunct ")" then .ok ⟨relation, name.text⟩
    else .error (.here (.constraintShape argument head.text (span source item)) head
      Marker.argument.spelling)
  | _ => .error (.here (.constraintShape argument head.text (span source item)) head
      Marker.argument.spelling)

/-- The relation that an item introduces with its first token. -/
def constraintHead? (item : List Token) : Option (Token × Relation) :=
  item.head?.bind fun t =>
    if t.kind == .ident then (Relation.heads.lookup t.text).map (t, ·) else none

/-- The declared types of an argument. A constraint has to be the only item. -/
def readTypes (source : List Char) (argument : String) (alone : Bool) :
    List (List Token) → Except Blame TypeSource
  | [] => .ok (.listed [])
  | item :: rest =>
    match constraintHead? item with
    | some (head, relation) =>
      if alone then (readConstraint source argument relation item head).map .derived
      else .error (.here (.constraintNotAlone argument head.text) head Marker.argument.spelling)
    | none =>
      match readTypes source argument alone rest with
      | .ok (.listed ts) => .ok (.listed (span source item :: ts))
      | r => r

/-- The declaration after an `npe_arg` call. -/
def Draft.argument (d : Draft) (source : List Char) (call : MarkerCall) : Except Blame Draft :=
  let marker := Marker.argument.spelling
  if d.hasDefault then .error (.here .argumentAfterDefault call.marker marker)
  else match call.items with
  | nameItem :: types@(_ :: more) => do
    let name ← readName source call "argument name" nameItem
    let declared ← readTypes source name more.isEmpty types
    let a : Argument :=
      { name, position := d.arguments.length, source := declared, default := none
        location := ⟨d.path, call.marker.line, call.marker.column⟩ }
    d.add a (nameItem.headD call.marker)
  | _ => .error (.here .argumentArity call.marker marker)

/-- The declaration after an `npe_default_arg` call. -/
def Draft.defaultArgument (d : Draft) (source : List Char) (call : MarkerCall) :
    Except Blame Draft :=
  match call.items with
  | [nameItem, type, value] => do
    let name ← readName source call "argument name" nameItem
    let a : Argument :=
      { name, position := d.arguments.length, source := .listed [span source type]
        default := some (span source value)
        location := ⟨d.path, call.marker.line, call.marker.column⟩ }
    { d with hasDefault := true }.add a (nameItem.headD call.marker)
  | _ => .error (.here .defaultArity call.marker Marker.defaultArgument.spelling)

/-- The declaration after an `npe_doc` call. -/
def Draft.document (d : Draft) (call : MarkerCall) : Except Blame Draft :=
  let marker := Marker.doc.spelling
  if d.doc.isSome then .error (.here .docRepeated call.marker marker)
  else match call.items with
  | [item] =>
    if item.all (·.isString) then .ok { d with doc := StringLiteral.decode? item }
    else .error (.here .docShape call.marker marker)
  | _ => .error (.here .docShape call.marker marker)

/-- Reads the declarations. Answers the finished draft, where the body starts, and the tokens of the
body and everything after it. -/
def declarations (source : List Char) (d : Draft) :
    List Token → Except Blame (Draft × Nat × List Token)
  | [] => .error ⟨.beginMissing d.name, d.location.line, d.location.column, Marker.beginCode.spelling⟩
  | t :: rest =>
    match Marker.ofToken? t with
    | none => declarations source d rest
    | some m =>
      let d := d.keepGap source t.start
      match h : MarkerCall.read t rest with
      | .error b => .error b
      | .ok (call, rest') =>
        have : rest'.length < rest.length := MarkerCall.length_of_read h
        let resume (r : Except Blame Draft) : Except Blame (Draft × Nat × List Token) :=
          match r with
          | .error b => .error b
          | .ok d => declarations source { d with gapStart := call.close.stop } rest'
        match m with
        | .function => .error (.here .functionRepeated t m.spelling)
        | .argument => resume (d.argument source call)
        | .defaultArgument => resume (d.defaultArgument source call)
        | .doc => resume (d.document call)
        | .beginCode =>
          if call.items.isEmpty then .ok (d, call.close.stop, rest')
          else .error (.here .beginArity call.marker m.spelling)
        | .endCode => .error (.here .endWithoutBegin t m.spelling)
termination_by ts => ts.length
decreasing_by all_goals simp only [List.length_cons]; omega

/-- Is the token a call that moves a value out of the body, given the tokens after it? -/
def isMove (t : Token) : List Token → Bool
  | a :: b :: c :: _ =>
    if t.text == "npe_move" then a.isPunct "("
    else t.text == "npe" && a.isPunct "::" && b.text == "move" && c.isPunct "("
  | a :: _ => t.text == "npe_move" && a.isPunct "("
  | [] => false

/-- How a body ends: at the end of the text, or at a marker; then the body stops at the marker and
the host code after it resumes behind its call. -/
inductive BodyEnd where
  | unclosed
  | closed (stop resume : Nat) (rest : List Token)

/-- Reads the body. Answers how it ends and the lines on which it moves a value out. -/
def body : List Token → Except Blame (BodyEnd × List Int)
  | [] => .ok (.unclosed, [])
  | t :: rest =>
    match Marker.ofToken? t with
    | some .endCode =>
      match MarkerCall.read t rest with
      | .error b => .error b
      | .ok (call, rest') =>
        if call.items.isEmpty then .ok (.closed t.start call.close.stop rest', [])
        else .error (.here .endArity t Marker.endCode.spelling)
    | some m => .error (.here (.insideBody m.spelling) t m.spelling)
    | none =>
      match body rest with
      | .error b => .error b
      | .ok (e, moves) =>
        .ok (e, if t.kind == .ident && isMove t rest then t.line :: moves else moves)

/-- Checks that no marker follows the body. -/
def epilogue : List Token → Except Blame Unit
  | [] => .ok ()
  | t :: rest =>
    match Marker.ofToken? t with
    | some .function => .error (.here .functionRepeated t Marker.function.spelling)
    | some m => .error (.here (.afterEnd m.spelling) t m.spelling)
    | none => epilogue rest

/-- Reads up to and including the call that declares the function. -/
def preamble (path : Option Path) (source : List Char) :
    List Token → Except Blame (Draft × List Token)
  | [] =>
    .error ⟨.functionMissing, source.count '\n' + 1, 1, Marker.function.spelling⟩
  | t :: rest =>
    match Marker.ofToken? t with
    | none => preamble path source rest
    | some .function => do
      let (call, rest) ← MarkerCall.read t rest
      match call.items with
      | [item] =>
        let name ← readName source call "function name" item
        .ok ({ path, name, location := ⟨path, t.line, t.column⟩
               preamble := source.take t.start, gapStart := call.close.stop }, rest)
      | _ => .error (.here .functionArity call.marker Marker.function.spelling)
    | some m => .error (.here (.beforeFunction m.spelling) t m.spelling)

/-- The declaration of an annotated text, and whether its body runs to the end of the text without a
closing marker. -/
def tokensToDeclaration (path : Option Path) (source : List Char) (ts : List Token) :
    Except Blame (Declaration × Bool) := do
  let (d, ts) ← preamble path source ts
  let (d, start, ts) ← declarations source d ts
  let (e, moves) ← body ts
  let finish (bodyStop resume : Nat) : Declaration :=
    { name := d.name, arguments := d.arguments, doc := d.doc, path, location := d.location
      moveLines := moves, preamble := String.ofList d.preamble
      body := String.ofList (slice source start bodyStop)
      epilogue := String.ofList (source.drop resume) }
  match e with
  | .unclosed => .ok (finish source.length source.length, true)
  | .closed stop resume rest =>
    epilogue rest
    .ok (finish stop resume, false)

end Monomorph.Scan

namespace Monomorph

/-- A scanned declaration. -/
structure Scanned where
  declaration : Declaration
  /-- The body ran to the end of the text, because no marker closed it. -/
  bodyUnclosed : Bool
  deriving Repr

/-- Scans an annotated text. -/
def scan (text : String) (path : Option Path := none) : Except DeclarationError Scanned :=
  let source := text.toList
  match Scan.tokensToDeclaration path source (Lexer.tokens source) with
  | .ok (d, unclosed) => .ok ⟨d, unclosed⟩
  | .error b => .error ⟨b.fault, ⟨path, b.line, b.column⟩, b.construct⟩

end Monomorph
