import Monomorph.Path

/-!
File systems as values: what stands at which place, and the operations that read and change it. Every
operation fails for the same reasons as on a real one: a place may be missing, may be of the wrong
kind, or may lie below something that is no directory. Links and permissions are left out.
-/

namespace Monomorph

/-- Why an operation on files fails. -/
inductive FileFault where
  | missing
  | notDirectory
  | isDirectory
  | alreadyExists
  | nameTooLong
  /-- The path can name nothing. -/
  | nameless
  /-- Any other reason, in the words of the system. -/
  | other (text : String)
  deriving DecidableEq, Repr

/-- The wording of a fault. -/
def FileFault.message : FileFault → String
  | missing => "No such file or directory"
  | notDirectory => "Not a directory"
  | isDirectory => "Is a directory"
  | alreadyExists => "File exists"
  | nameTooLong => "File name too long"
  | nameless => "embedded null character"
  | other text => text

/-- The two kinds of things that have a place. -/
inductive FileKind where
  | file | directory
  deriving DecidableEq, Repr

/-- A place: the names from the root directory down. -/
abbrev Place := List String

/-- What stands at a place. -/
inductive Node where
  | directory
  | file (content : ByteArray)

instance : DecidableEq Node
  | .directory, .directory => isTrue rfl
  | .directory, .file _ => isFalse nofun
  | .file _, .directory => isFalse nofun
  | .file a, .file b =>
    match ByteArray.decEq a b with
    | isTrue h => isTrue (h ▸ rfl)
    | isFalse h => isFalse fun e => h (Node.file.inj e)

/-- The kind of a node. -/
def Node.kind : Node → FileKind
  | directory => .directory
  | file _ => .file

/-- A file system. The root directory is always there. -/
structure FileSystem where
  nodes : List (Place × Node) := []

namespace FileSystem

/-- What stands at a place. -/
def node? (fs : FileSystem) (place : Place) : Option Node :=
  if place.isEmpty then some .directory else fs.nodes.lookup place

/-- The nodes with one put at a place: instead of what stands there, or at the end. -/
def putNode (place : Place) (node : Node) : List (Place × Node) → List (Place × Node)
  | [] => [(place, node)]
  | (p, n) :: rest => if p == place then (p, node) :: rest else (p, n) :: putNode place node rest

/-- The file system with a node at a place. -/
def put (fs : FileSystem) (place : Place) (node : Node) : FileSystem :=
  ⟨putNode place node fs.nodes⟩

/-- The file system with nothing at a place. -/
def erase (fs : FileSystem) (place : Place) : FileSystem :=
  ⟨fs.nodes.filter fun p => p.1 != place⟩

/-- The longest name in bytes. -/
def longestName : Nat := 255

/-- The place reached from a directory by a list of names. Each step needs a directory to start from;
what stands at the last place does not matter. -/
def walk (fs : FileSystem) (here : Place) : List String → Except FileFault Place
  | [] => .ok here
  | name :: rest =>
    match fs.node? here with
    | none => .error .missing
    | some (.file _) => .error .notDirectory
    | some .directory =>
      if name == ".." then walk fs here.dropLast rest
      else if longestName < name.utf8ByteSize then .error .nameTooLong
      else walk fs (here ++ [name]) rest

/-- The longest path in bytes. -/
def longestPath : Nat := 4095

/-- The place that a path names, as seen from a directory. -/
def place? (fs : FileSystem) (here : Place) (path : Path) : Except FileFault Place :=
  if !path.isNameable then .error .nameless
  else if longestPath < path.toString.utf8ByteSize then .error .nameTooLong
  else fs.walk (if path.isAbsolute then [] else here) path.parts

/-- The kind of what a path names, or nothing if nothing is there. -/
def kind? (fs : FileSystem) (here : Place) (path : Path) : Except FileFault (Option FileKind) :=
  match fs.place? here path with
  | .ok place => .ok ((fs.node? place).map (·.kind))
  | .error .missing => .ok none
  | .error .notDirectory => .ok none
  | .error .nameless => .ok none
  | .error fault => .error fault

/-- The content of a file. -/
def read (fs : FileSystem) (here : Place) (path : Path) : Except FileFault ByteArray := do
  match fs.node? (← fs.place? here path) with
  | none => .error .missing
  | some .directory => .error .isDirectory
  | some (.file content) => .ok content

/-- Writes a file, which need not exist. -/
def write (fs : FileSystem) (here : Place) (path : Path) (content : ByteArray) :
    Except FileFault FileSystem := do
  let place ← fs.place? here path
  if fs.node? place = some .directory then .error .isDirectory
  else .ok (fs.put place (.file content))

/-- Makes a directory where nothing is. -/
def makeDirectory (fs : FileSystem) (here : Place) (path : Path) : Except FileFault FileSystem := do
  let place ← fs.place? here path
  if (fs.node? place).isSome then .error .alreadyExists else .ok (fs.put place .directory)

/-- Is a directory at the path? -/
def isDirectory (fs : FileSystem) (here : Place) (path : Path) : Bool :=
  match fs.kind? here path with
  | .ok (some .directory) => true
  | _ => false

/-- Makes the directory with a given list of names, last name first, and the directories above it
that are missing. A directory that is there already is fine. What was made stays even if the rest
fails. -/
def makeDirectoriesAt (fs : FileSystem) (here : Place) (root : Path.Root) :
    List String → Except FileFault Unit × FileSystem
  | [] => (.ok (), fs)
  | name :: above =>
    let path : Path := ⟨root, (name :: above).reverse⟩
    let attempt (fs : FileSystem) (otherwise : FileFault → Except FileFault Unit × FileSystem) :
        Except FileFault Unit × FileSystem :=
      match fs.makeDirectory here path with
      | .ok fs => (.ok (), fs)
      | .error fault => if fs.isDirectory here path then (.ok (), fs) else otherwise fault
    attempt fs fun fault =>
      if fault = .missing then
        match makeDirectoriesAt fs here root above with
        | (.ok (), fs) => attempt fs fun fault => (.error fault, fs)
        | failed => failed
      else (.error fault, fs)

/-- Makes a directory and the directories above it that are missing. -/
def makeDirectories (fs : FileSystem) (here : Place) (path : Path) :
    Except FileFault Unit × FileSystem :=
  fs.makeDirectoriesAt here path.root path.parts.reverse

/-- Removes a file. -/
def remove (fs : FileSystem) (here : Place) (path : Path) : Except FileFault FileSystem := do
  let place ← fs.place? here path
  match fs.node? place with
  | none => .error .missing
  | some .directory => .error .isDirectory
  | some (.file _) => .ok (fs.erase place)

/-- Moves a file to another path, over a file that may be there. -/
def rename (fs : FileSystem) (here : Place) (source target : Path) :
    Except FileFault FileSystem := do
  let source ← fs.place? here source
  let target ← fs.place? here target
  match fs.node? source, fs.node? target with
  | none, _ => .error .missing
  | some .directory, _ => .error .isDirectory
  | some (.file _), some .directory => .error .isDirectory
  | some (.file content), _ => .ok ((fs.erase source).put target (.file content))

/-- The names that lead from a directory to each file below it; none, if it is no directory. -/
def below (fs : FileSystem) (here : Place) (path : Path) :
    Except FileFault (List (List String)) := do
  match ← fs.kind? here path with
  | some .directory =>
    let place ← fs.place? here path
    return fs.nodes.filterMap fun p =>
      match p.2 with
      | .directory => none
      | .file _ =>
        if place.isPrefixOf p.1 && place != p.1 then some (p.1.drop place.length) else none
  | _ => return []

end FileSystem

end Monomorph
