import Monomorph.Number.Digits
import Monomorph.Text.CharacterName.Alias
import Monomorph.Text.CharacterName.Ancient
import Monomorph.Text.CharacterName.Eastern
import Monomorph.Text.CharacterName.General
import Monomorph.Text.CharacterName.Notation
import Monomorph.Text.CharacterName.Sign
import Monomorph.Text.CharacterName.Symbol

/-!
The character that a name stands for, as version 14 of the character database has it. Most names are
listed in a shortened form, in which signs stand for frequent parts of names. The names of a run of
characters stand one after the other in one text. Each but the first is introduced by a small letter,
which says how many signs it shares with the name before it: none for `a`, one for `b`, and so on. The
names of Korean syllables, of ideographs and of variation selectors follow rules.
-/

namespace Monomorph.Text.CharacterName

/-- Does a shortened name stand for this name? -/
def spells : List Char → List Char → Bool
  | [], name => name.isEmpty
  | c :: r, name =>
    match part? c, name with
    | some part, name => part.toList.isPrefixOf name && spells r (name.drop part.length)
    | none, d :: name => c == d && spells r name
    | none, [] => false

/-- How many signs a name shares with the one before it, as the letter between them says. -/
def shared? (c : Char) : Option Nat :=
  if 'a' ≤ c && c ≤ 'z' then some (c.toNat - 97) else none

/-- The character of a name within a run, given the signs of the current name in reverse order and
its character. -/
def inRun? (name : List Char) (point : Nat) (current : List Char) : List Char → Option Nat
  | [] => if spells current.reverse name then some point else none
  | c :: r =>
    match shared? c with
    | none => inRun? name point (c :: current) r
    | some n =>
      if spells current.reverse name then some point
      else inRun? name (point + 1) (current.drop (current.length - n)) r

/-- All runs of characters whose names are listed. -/
def runs : List (Nat × List String) :=
  generalRuns ++ symbolRuns ++ easternRuns ++ ancientRuns ++ notationRuns

/-- The character of a name that is listed, in capital letters. -/
def listed? (name : List Char) : Option Nat :=
  match aliases.find? (·.2 == String.ofList name) with
  | some p => some p.1
  | none => runs.findSome? fun run => inRun? name run.1 [] (run.2.flatMap String.toList)

/-- The longest of some parts that a text starts with: its position, and the rest of the text. -/
def longest? (parts : List String) (s : List Char) : Option (Nat × List Char) :=
  let fitting := parts.zipIdx.filter fun p => p.1.toList.isPrefixOf s
  let longer (a b : String × Nat) := if a.1.length < b.1.length then b else a
  match fitting with
  | [] => none
  | p :: rest =>
    let best := rest.foldl longer p
    some (best.2, s.drop best.1.length)

/-- The consonants that open a Korean syllable. -/
def leads : List String := [
  "G", "GG", "N", "D", "DD", "R", "M", "B", "BB", "S", "SS", "", "J", "JJ", "C", "K", "T", "P", "H"]

/-- The vowels of a Korean syllable. -/
def vowels : List String := [
  "A", "AE", "YA", "YAE", "EO", "E", "YEO", "YE", "O", "WA", "WAE", "OE", "YO", "U", "WEO", "WE",
  "WI", "YU", "EU", "YI", "I"]

/-- The consonants that close a Korean syllable. -/
def tails : List String := [
  "", "G", "GG", "GS", "N", "NJ", "NH", "D", "L", "LG", "LM", "LB", "LS", "LT", "LP", "LH", "M",
  "B", "BS", "S", "SS", "NG", "J", "C", "K", "T", "P", "H"]

/-- The Korean syllable of these parts. -/
def syllable? (s : List Char) : Option Nat := do
  let (lead, r) ← longest? leads s
  let (vowel, r) ← longest? vowels r
  let (tail, r) ← longest? tails r
  if r.isEmpty then some (0xac00 + (lead * 21 + vowel) * 28 + tail) else none

/-- The unified ideographs. -/
def ideographBounds : List Nat := [
  0x3400, 0x4dc0, 0x4e00, 0xa000, 0x20000, 0x2a6e0, 0x2a700, 0x2b739, 0x2b740, 0x2b81e, 0x2b820,
  0x2cea2, 0x2ceb0, 0x2ebe1, 0x30000, 0x3134b]

/-- The code point within some bounds that four or five capital digits write. -/
def codePoint? (bounds : List Nat) (s : List Char) : Option Nat :=
  let n := Digits.number 16 s
  if (s.length = 4 || s.length = 5) && s.all (fun c => Digits.isIn 16 c && !c.isLower)
    && inBounds bounds (Char.ofNat n) then some n
  else none

/-- Starts of names that end in the code point of the character, and the bounds of the characters. -/
def coded : List (String × List Nat) := [
  ("CJK COMPATIBILITY IDEOGRAPH-", [0xf900, 0xfa6e, 0xfa70, 0xfada, 0x2f800, 0x2fa1e]),
  ("KHITAN SMALL SCRIPT CHARACTER-", [0x18b00, 0x18cd6]), ("NUSHU CHARACTER-", [0x1b170, 0x1b2fc])]

/-- The variation selector of this number. -/
def selector? (s : List Char) : Option Nat :=
  let n := Digits.number 10 s
  if !s.all Char.isDigit || s.head? == some '0' || n = 0 || 256 < n then none
  else if n ≤ 16 then some (0xfdff + n)
  else some (0xe00ef + n)

/-- The rest of a text after this start. -/
def after? (start : String) (s : List Char) : Option (List Char) :=
  if start.toList.isPrefixOf s then some (s.drop start.length) else none

/-- The character of a name in capital letters that ends in its code point, which has no leading zero. -/
def ofCoded? (name : List Char) : Option Nat :=
  coded.findSome? fun p => (after? p.1 name).bind fun digits =>
    if digits.head? == some '0' then none else codePoint? p.2 digits

/-- The code point of the character of this name. Letters may be small except in the names of
syllables and unified ideographs. -/
def point? (name : List Char) : Option Nat :=
  match after? "HANGUL SYLLABLE " name, after? "CJK UNIFIED IDEOGRAPH-" name with
  | some r, _ => syllable? r
  | _, some r => codePoint? ideographBounds r
  | none, none =>
    let name := name.map Char.toUpper
    match (after? "VARIATION SELECTOR-" name).orElse fun _ => after? "VS" name with
    | some r => selector? r
    | none => (ofCoded? name).orElse fun _ => listed? name

end Monomorph.Text.CharacterName
