import Monomorph.Text.Word

/-!
Blanks, words and lines of a text. Every function works on the list of characters, so that its laws
are inductions on that list; the versions on `String` wrap them.
-/

namespace Monomorph.Text

/-- The characters without the blanks at either end. -/
def trimBy (p : Char → Bool) (s : List Char) : List Char :=
  ((s.dropWhile p).reverse.dropWhile p).reverse

/-- The text without the blanks at either end. -/
def trim (s : String) : String := String.ofList (trimBy isBlank s.toList)

/-- The text without the newlines at either end. -/
def trimNewlines (s : String) : String := String.ofList (trimBy (· == '\n') s.toList)

/-- The maximal runs of characters that are not blank, in order. -/
def wordsOf : List Char → List (List Char)
  | [] => []
  | c :: cs =>
    if isBlank c then wordsOf cs
    else match cs, wordsOf cs with
      | d :: _, w :: ws => if isBlank d then [c] :: w :: ws else (c :: w) :: ws
      | _, ws => [c] :: ws

/-- Joins parts with a separator between neighbours. -/
def joinWith (sep : List Char) : List (List Char) → List Char
  | [] => []
  | [p] => p
  | p :: q :: r => p ++ sep ++ joinWith sep (q :: r)

/-- Joins texts with a separator between neighbours. -/
def join (sep : String) (parts : List String) : String :=
  String.ofList (joinWith sep.toList (parts.map String.toList))

/-- The text with its words kept and every run of blanks between them made one space. -/
def squeeze (s : String) : String := String.ofList (joinWith [' '] (wordsOf s.toList))

/-- The lines of a prose text. A carriage return followed by a newline is one break, and a break at
the very end opens no further line. -/
def linesOf : List Char → List (List Char)
  | [] => []
  | '\r' :: '\n' :: r => [] :: linesOf r
  | c :: r =>
    if isLineBreak c then [] :: linesOf r
    else match linesOf r with
      | l :: ls => (c :: l) :: ls
      | [] => [[c]]

/-- The lines of a prose text. -/
def lines (s : String) : List String := (linesOf s.toList).map String.ofList

/-- Both line ends that other systems use, written as a newline. -/
def unixNewlinesOf : List Char → List Char
  | [] => []
  | '\r' :: '\n' :: r => '\n' :: unixNewlinesOf r
  | c :: r => (if c == '\r' then '\n' else c) :: unixNewlinesOf r

/-- The characters from offset `start` up to offset `stop`. -/
def slice (s : List Char) (start stop : Nat) : List Char := (s.drop start).take (stop - start)

/-- How many characters the first occurrence of `close` and everything before it take. -/
def through? (close : List Char) : List Char → Option Nat
  | [] => if close.isPrefixOf [] then some close.length else none
  | c :: r =>
    if close.isPrefixOf (c :: r) then some close.length else (through? close r).map (· + 1)

/-- Does the text begin with these characters? -/
def startsWith (s head : String) : Bool := head.toList.isPrefixOf s.toList

/-- Does the text end with these characters? -/
def endsWith (s tail : String) : Bool := tail.toList.isSuffixOf s.toList

/-- Does the text hold these characters somewhere? -/
def contains (s part : String) : Bool := (through? part.toList s.toList).isSome

end Monomorph.Text
