import Monomorph.Number.Digits
import Monomorph.Path

/-!
Command lines. A line is a list of words; which of them are options depends on the options that are
known. A long option may be cut short as long as it stays unambiguous and may carry its value behind an
equals sign; short options may share one hyphen, the last of them with its value right behind it. After
two hyphens nothing is an option any more.
-/

namespace Monomorph.Command

/-- The options. -/
inductive Opt where
  | help | config | verbose | keepExisting | limit | input | output | name
  deriving DecidableEq, Repr

/-- Does the option have a value? -/
def Opt.hasValue : Opt → Bool
  | help => false
  | verbose => false
  | keepExisting => false
  | _ => true

/-- Options with their spellings. -/
abbrev Spellings := List (String × Opt)

/-- The options in front of the command's name. -/
def globalSpellings : Spellings := [
  ("-h", .help), ("--help", .help), ("--config", .config), ("-c", .config), ("--verbose", .verbose),
  ("-v", .verbose), ("--no-overwrite", .keepExisting), ("--max-combinations", .limit)]

/-- The options of the command that generates. -/
def generateSpellings : Spellings := [
  ("-h", .help), ("--help", .help), ("--input", .input), ("-i", .input), ("--output", .output),
  ("-o", .output)]

/-- The options of the command that builds a module. -/
def moduleSpellings : Spellings := [
  ("-h", .help), ("--help", .help), ("--name", .name), ("-n", .name), ("--output", .output),
  ("-o", .output)]

/-- The options of the command that inspects. -/
def inspectSpellings : Spellings := [("-h", .help), ("--help", .help)]

/-- Why a line is not carried out. -/
inductive LineFault where
  /-- It is no command. -/
  | usage
  /-- It asks for help. -/
  | help
  deriving DecidableEq, Repr

/-- What a word of a line is. An option may have a text attached to it: behind an equals sign, or right
behind a letter. -/
inductive Mark where
  | word (s : String)
  /-- The two hyphens after which nothing is an option. -/
  | separator
  | known (spelling : String) (opt : Opt) (attached : Option String)
  /-- An option that is not known here. -/
  | unknown
  deriving DecidableEq, Repr

/-- The parts of a word before and after its first equals sign. -/
def splitSign? (s : String) : Option (String × String) :=
  match s.toList.dropWhile (· != '=') with
  | _ :: value => some (String.ofList (s.toList.takeWhile (· != '=')), String.ofList value)
  | [] => none

/-- Does a word start with a hyphen and write a number? -/
def isNegativeNumber (s : String) : Bool :=
  let cs := s.toList
  match if cs.getLast? == some '\n' then cs.dropLast else cs with
  | '-' :: r =>
    match r.dropWhile Text.isDecimal with
    | [] => !r.isEmpty
    | '.' :: part => !part.isEmpty && part.all Text.isDecimal
    | _ => false
  | _ => false

/-- The options that a word with two hyphens may cut short. -/
def longCandidates (spellings : Spellings) (s : String) : List Mark :=
  let (start, attached) : String × Option String := match splitSign? s with
    | some (start, value) => (start, some value)
    | none => (s, none)
  (spellings.filter fun p => Text.startsWith p.1 start).map fun p => .known p.1 p.2 attached

/-- The options that a word with one hyphen may mean: the one of its first letter, with the rest of the
word attached. -/
def shortCandidates (spellings : Spellings) (s : String) : List Mark :=
  let letter := String.ofList (s.toList.take 2)
  (spellings.filter fun p => p.1 == letter).map fun p =>
    .known p.1 p.2 (some (String.ofList (s.toList.drop 2)))

/-- What a word is, given the options known. -/
def mark (spellings : Spellings) (s : String) : Except LineFault Mark :=
  let spelled (spelling : String) (attached : Option String) : Option Mark :=
    (spellings.lookup spelling).map fun opt => .known spelling opt attached
  if s.toList.head? != some '-' then .ok (.word s)
  else if let some m := spelled s none then .ok m
  else if s == "-" then .ok (.word s)
  else if let some m := (splitSign? s).bind fun p => spelled p.1 (some p.2) then .ok m
  else match if Text.startsWith s "--" then longCandidates spellings s
    else shortCandidates spellings s with
  | [m] => .ok m
  | _ :: _ :: _ => .error .usage
  | [] => .ok (if isNegativeNumber s || s.toList.contains ' ' then .word s else .unknown)

/-- What the words of a line are. -/
def marks (spellings : Spellings) : List String → Except LineFault (List (String × Mark))
  | [] => .ok []
  | s :: rest =>
    if s == "--" then .ok ((s, .separator) :: rest.map fun w => (w, .word w))
    else
      match mark spellings s, marks spellings rest with
      | .ok m, .ok ms => .ok ((s, m) :: ms)
      | .error f, _ => .error f
      | _, .error f => .error f

/-- The value of an option. Two hyphens that are attached to an option are taken away again, which
leaves it without a value. -/
inductive OptValue where
  | text (s : String)
  | void
  deriving DecidableEq, Repr

namespace OptValue

/-- The value that a text attached to an option gives. -/
def ofAttached (s : String) : OptValue := if s == "--" then void else text s

/-- The text of a value, if it is there. -/
def text? : OptValue → Option String
  | text s => some s
  | void => none

/-- The path that a value names, if it is there. -/
def path? (v : OptValue) : Option Path := v.text?.map Path.ofString

end OptValue

/-- An option with its value, if it has one. -/
abbrev Given := Opt × Option OptValue

/-- The options that share a word, the last one perhaps with its value. Nothing, if something is
attached that cannot be. -/
def expandLetters (spellings : Spellings) (opt : Opt) (isShort : Bool) :
    List Char → Option (List Given)
  | [] => if opt.hasValue then some [(opt, some (.text ""))] else none
  | c :: r =>
    if opt.hasValue then some [(opt, some (.ofAttached (String.ofList (c :: r))))]
    else if !isShort then none
    else match spellings.lookup (String.ofList ['-', c]) with
    | none => none
    | some next =>
      if r.isEmpty then some [(opt, none), (next, none)]
      else (expandLetters spellings next true r).map ((opt, none) :: ·)

/-- The options that a word gives. The last option may still wait for its value. -/
def expand (spellings : Spellings) (spelling : String) (opt : Opt) (attached : Option String) :
    Option (List Given) :=
  match attached with
  | none => some [(opt, none)]
  | some s => expandLetters spellings opt (!Text.startsWith spelling "--") s.toList

/-- What a line has given so far to the command it is for. -/
structure Gathered where
  options : List (Opt × OptValue) := []
  flags : List Opt := []
  words : List String := []
  /-- Something was given that the command does not take. -/
  hasSurplus : Bool := false
  deriving Repr

namespace Gathered

/-- The last value of an option. -/
def value? (g : Gathered) (opt : Opt) : Option OptValue :=
  ((g.options.filter fun p => p.1 == opt).getLast?).map (·.2)

/-- All values of an option. -/
def values (g : Gathered) (opt : Opt) : List OptValue :=
  (g.options.filter fun p => p.1 == opt).map (·.2)

/-- Takes options with their values. Help ends the line, and a limit must be a number. -/
def take (g : Gathered) : List Given → Except LineFault Gathered
  | [] => .ok g
  | (.help, _) :: _ => .error .help
  | (opt, some value) :: rest =>
    if opt = .limit && value.text?.any fun s => (Digits.int? s).isNone then .error .usage
    else take { g with options := g.options ++ [(opt, value)] } rest
  | (opt, none) :: rest => take { g with flags := g.flags ++ [opt] } rest

end Gathered

/-- What is left of a line. -/
abbrev Tail := List (String × Mark)

/-- Takes an option of a line, with its value from the words behind it unless one is attached. -/
def Gathered.takeOption (spellings : Spellings) (g : Gathered) (spelling : String) (opt : Opt)
    (attached : Option String) (rest : Tail) : Except LineFault (Gathered × Tail) :=
  match expand spellings spelling opt attached with
  | none => .error .usage
  | some given =>
    match given.getLast?, rest with
    | some (last, none), (_, .word value) :: rest' =>
      if last.hasValue then
        (g.take (given.dropLast ++ [(last, some (.text value))])).map fun g => (g, rest')
      else (g.take given).map fun g => (g, rest)
    | some (last, none), _ =>
      if last.hasValue then .error .usage else (g.take given).map fun g => (g, rest)
    | _, _ => (g.take given).map fun g => (g, rest)

/-- Which words a command takes. -/
inductive Words where
  | none
  /-- Exactly one. -/
  | one
  /-- Any number, all in one place of the line. -/
  | many
  deriving DecidableEq, Repr

/-- Can a command take this part of a line as a word or skip it between words? -/
def isOperand (p : String × Mark) : Bool :=
  match p.2 with
  | .word _ => true
  | .separator => true
  | _ => false

/-- The words of a part of a line. -/
def operands : Tail → List String
  | [] => []
  | (_, .word s) :: rest => s :: operands rest
  | _ :: rest => operands rest

/-- The words at the head of a line that a command takes, and the rest. Two hyphens before, between or
behind them do not count. -/
def Words.takeFrom : Words → Tail → Option (List String × Tail)
  | none, _ => Option.none
  | many, line => some (operands (line.takeWhile isOperand), line.dropWhile isOperand)
  | one, (_, .separator) :: (_, .word s) :: rest => some ([s], rest)
  | one, (_, .word s) :: (_, .separator) :: rest => some ([s], rest)
  | one, (_, .word s) :: rest => some ([s], rest)
  | one, _ => Option.none

/-- Reads the options and words of a command. Words are taken once, where the first of them stands;
whatever else there is counts against the line only at its end. -/
def gather (spellings : Spellings) (words : Words) (g : Gathered) (line : Tail) :
    Except LineFault Gathered :=
  match line with
  | [] => if words = .one || g.hasSurplus then .error .usage else .ok g
  | (_, .unknown) :: rest => gather spellings words { g with hasSurplus := true } rest
  | (_, .known spelling opt attached) :: rest =>
    match g.takeOption spellings spelling opt attached rest with
    | .error f => .error f
    | .ok (g, left) =>
      if left.length ≤ rest.length then gather spellings words g left else .error .usage
  | p :: rest =>
    match words.takeFrom (p :: rest) with
    | some (taken, left) =>
      if left.length ≤ rest.length then gather spellings .none { g with words := taken } left
      else .error .usage
    | none => gather spellings words { g with hasSurplus := true } rest
termination_by line.length
decreasing_by all_goals simp only [List.length_cons]; omega

/-- Reads the options in front of a command's name, and answers the name and the words behind it. -/
def gatherGlobal (g : Gathered) (line : Tail) : Except LineFault (Gathered × String × List String) :=
  match line with
  | [] => .error .usage
  | (_, .separator) :: _ => .error .usage
  | (_, .word name) :: rest => .ok (g, name, rest.map (·.1))
  | (_, .unknown) :: rest => gatherGlobal { g with hasSurplus := true } rest
  | (_, .known spelling opt attached) :: rest =>
    match g.takeOption globalSpellings spelling opt attached rest with
    | .error f => .error f
    | .ok (g, left) =>
      if left.length ≤ rest.length then gatherGlobal g left else .error .usage
termination_by line.length
decreasing_by all_goals simp only [List.length_cons]; omega

/-- What a line asks for. -/
inductive Action where
  /-- Generate from files or directories; from the configured sources, if there are none. An input
  that has lost its value is no path. -/
  | generate (inputs : List (Option Path))
  /-- Build a module from files or directories. -/
  | assemble (sources : List Path) (name : Option String)
  /-- Show what a source expands to. -/
  | inspect (source : Path)
  deriving DecidableEq, Repr

/-- A line that has been read. -/
structure Line where
  /-- The configuration file; nothing inside, if the option has lost its value. -/
  config : Option (Option Path)
  isVerbose : Bool
  keepsExisting : Bool
  limit : Option Int
  output : Option Path
  action : Action
  deriving DecidableEq, Repr

/-- The commands: their options, the words they take, and what they ask for. -/
def actionOf? (name : String) :
    Option (Spellings × Words × (Gathered → Action)) :=
  if name == "generate" then
    some (generateSpellings, .none, fun g => .generate ((g.values .input).map (·.path?)))
  else if name == "module" then
    some (moduleSpellings, .many, fun g =>
      .assemble (g.words.map Path.ofString) ((g.value? .name).bind (·.text?)))
  else if name == "inspect" then
    some (inspectSpellings, .one, fun g => .inspect (Path.ofString (g.words.headD "")))
  else none

/-- Reads a line. -/
def Line.read (line : List String) : Except LineFault Line := do
  let (g, name, rest) ← gatherGlobal {} (← marks globalSpellings line)
  match actionOf? name with
  | none => .error .usage
  | some (spellings, words, action) =>
    let g ← gather spellings words g (← marks spellings rest)
    return {
      config := (g.value? .config).map (·.path?)
      isVerbose := g.flags.contains .verbose
      keepsExisting := g.flags.contains .keepExisting
      limit := (g.value? .limit).map fun v => (v.text?.bind Digits.int?).getD 0
      output := (g.value? .output).bind (·.path?)
      action := action g }

end Monomorph.Command
