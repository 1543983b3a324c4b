/-!
Signs for frequent parts of the names of characters, with which the names are written in a shorter
form.
-/

namespace Monomorph.Text.CharacterName

/-- The signs below U+00C0. The others follow one another from there. -/
def shortSigns : List Char := [
  '!', '$', '%', '&', '*', '+', ',', '.', ':', ';', '<', '=', '>', '^', '_', '|', '~']

/-- The parts of names that the signs stand for. -/
def parts : Array String := #[
  "HA", "AN", "IN", " WITH ", "TA", "EN", " S", "AL", " LETTER ", " SMALL LETTER ", "LE", "MA",
  "AT", "E ", "ER", " CAPITAL LETTER ", "LA", "ED ", "ING ", " SIGN", "LEFT ", "RIGHT ", "ARROW",
  "AL ", " LETTER A", "DOUBLE ", "ING", " SIGN ", " LETTER S", "AND ", "ONE", "ANG", " MARK",
  " AND ", "IEU", " SYMBOL", "AN ", "CHA", "IC ", "ON ", "WHITE ", "OF ", "ONE ", "KHA", "TER",
  "ALL", "ISOLATED FORM", "H WITH ", " SMALL ", "RIGHT", "LE ", "ENT", " ABOVE", "AND", " TIMES ",
  "TWO ", "HUNDRED", "MEEM ", "HEAVY ", "FINAL FORM", "CHE", "ATION", "LEFTWARDS ", "BLACK ",
  "BRACKET", "MIDDLE ", "CENT", "FACE", "LAM", "UP ", " SE", "DOT", "POINTING ", "CIRCLE", "BELOW",
  "THOUSAND", " VOWEL SIGN ", "BAR", "I LETTER ", "ER ", "THREE ", "VERTICAL ", "HALF ", "E WITH ",
  "HOOK", " SHA", "PHA", "ISH", "DOWN ", "EIGHT", "PLUS ", "OUN", "THA", "TWO", "APH", " BAR",
  "ARROW ", "WITH STROKE", "COM", "LEFT", "LOWER ", "NGA", "TRIANGLE", "ALE", "LOW ", "DOUBLE",
  "ACUTE", "PAR", "MAT", "BLACK", "FOR", "HOR", " SEVEN", "INITIAL FORM", "OPEN", "PER", " SQUARE",
  "DIGIT TWO", "DIGIT THREE", "TY ", "MEDIUM", "TO ", "UMBER ", "LLA", "BIN", " BELOW", "PRO",
  "TEN", "DIGIT ONE", "NYA", "OLD ", " OVER ", "TION", "DIGIT FOUR", "RIGHTWARDS ", "DOWNWARDS ",
  "LINE", "IGHT ", "EQUAL TO", "VARIA", "UPWARDS ", "WEST-CREE ", " SI", "DIGIT SIX", "UPPER ",
  "ACK", "DIGIT FIVE", "THUMB", "UNG", "TOP", "TAIL", "WITH ", "ARROW WITH ", "TIC", "DIGIT SEVEN",
  "DIGIT EIGHT", "DIGIT NINE", "-12", "H ISOLATED FORM", " SMALL LETTER S", "TURNED ",
  "RIGHTWARDS ARROW", "ABOVE ", "ABOVE", " SMALL", "DDA", "QUAR", "ION", "ATION MARK",
  "MEDIAL FORM", " ST", "LARGE", " WITH HOOK", "CTION", "ANA ", "ARD", "IN ", "GHA", "ARROWHEAD",
  " SYMBOL ", "DIAERESIS", "CAPITAL ", "FIVE ", "DIGIT ZERO", "H INITIAL FORM", "SIOS", "GRAVE",
  " SHE", "LETTER SMALL ", "HIGH ", "FOUR ", "LIGHT ", "JEEM ", "REVERSED ", "CIRCLE ", "VE ",
  " TEN", "TRIANGLE-HEADED ", "VER", "NINE", " CAPITAL LETTER S", "O WITH ", "THIR", "MACRON",
  "RING ", " SIX", "POINT", " SING", " WITH DOT ABOVE", "FOUR", "U WITH ", " SMALL LETTER A",
  "OVER", "INDEX ", "TTA", "PLAN", "LONG ", "DOWN", "ULAR ", "GEGRAMMENI", "THREE",
  " CAPITAL LETTER A", "TILDE", "TEEN", "ARABIC", "ROTATED ", "ALEF MAKSURA ", " SUB",
  " WITH DOT BELOW", "DASIA AND ", "YANNA", "INVERTED ", "BLOCK", "OXIA", " STAR", "FORM",
  "AL STROKE", "EAST ", " SYLLABLE ", "PSILI AND ", "HORIZONTAL ", "LESS-THAN", "TER ",
  "HEMATICAL ", "GREATER-THAN", "LETTER S", "PIEUP", "LITT", "BREVE", "LATIN", "YEH FINAL FORM",
  "S SIGN", "ON WITH ", "S S", "E S", "VERTIC", "ANGLE ", "SS ", "D WITH ", "DOT ", " CROSS",
  "WITH", "ING C", "CURL", "CIRCUMFLEX ", "WHITE", "URE ", "ORNAMENT", "FINAL ", "DIAMOND",
  "EQUAL", "BARB ", "UMBER", "RING", "LOCK", "DEGREES", "ICAL ", "LON", "DOTS ", "OUTH ", "WEST ",
  "TRIP", "DDHA", "CROSS", " COM", "ANUSVARA", "L WITH ", "VOCALIC R", "PARENTHE", "HEAR", "FIVE",
  "LINE ", " SQUARE ", " SIGN C", "KIYEOK", "NORTH ", "HEAVY", "LIGHT", "ASTERISK", "CRIPT ",
  "ATER", "TTHA", "TWENTY", "HORIZONT", "NOT ", "FULL STOP", "DIAGON", "LEFT-", "HORT ", "OLON",
  "DOTS ABOVE", "ANDRA", "HING", "T WITH ", "ARDS", "H FINAL FORM", "GREEK", "ALTERNAT", "CARON",
  " CAPITAL ", "OPERATOR", "PERISPO", "UPER", "ENT ", "PLUS", "INE ", "VOCALIC L", "RIGHT-",
  "UNCTUATION", "HIEUH", "LOW", "HARPOON WITH BARB ", "FIED ", "INDEX", "VIRAMA", "DOTT",
  "UMBER SIX", "DESCENDER", "RETROFLEX HOOK", "VISARGA", "TILDE ", "HALF", "MAL", " STROKE",
  "LONG", " CIRCLE", " EQU", "REVER", " MIDDLE ", "CIRCUMFLEX", "AL S", "DOT BELOW", " BLACK",
  "OVER ", " STROKE ", "TRIANG", "A AND ", "-HEADED ", "TIME", "LETTER ", "WITH S", " SYLLAB",
  " WITH DOT ", "AL TO", "EM WITH "]

/-- The part of a name that a character stands for, if it is a sign. -/
def part? (c : Char) : Option String :=
  if c.toNat < 0xc0 then (shortSigns.idxOf? c).bind (parts[·]?)
  else parts[shortSigns.length + (c.toNat - 0xc0)]?

end Monomorph.Text.CharacterName
