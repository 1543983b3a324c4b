/-!
Tokens of annotated source text. A token knows its own text and where it stands: offsets count
characters from the start of the text, lines end at newlines only, columns count from one.
-/

namespace Monomorph

/-- The lexical classes of C-like source text. -/
inductive Token.Kind where
  | ident | number | string | rawString | char | punct | comment
  deriving DecidableEq, Repr

/-- The name of a lexical class. -/
def Token.Kind.name : Token.Kind → String
  | ident => "IDENT"
  | number => "NUMBER"
  | string => "STRING"
  | rawString => "RAW_STRING"
  | char => "CHAR"
  | punct => "PUNCT"
  | comment => "COMMENT"

/-- One token and its span in the text. -/
structure Token where
  kind : Token.Kind
  text : String
  start : Nat
  stop : Nat
  line : Int
  column : Nat
  deriving DecidableEq, Repr

namespace Token

/-- The punctuation with exactly this text. -/
def isPunct (t : Token) (text : String) : Bool := t.kind == .punct && t.text == text

/-- The identifier with exactly this text. -/
def isIdent (t : Token) (text : String) : Bool := t.kind == .ident && t.text == text

/-- A string literal in either notation. -/
def isString (t : Token) : Bool := t.kind == .string || t.kind == .rawString

end Token

end Monomorph
