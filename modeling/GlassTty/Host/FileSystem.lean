import GlassTty.Host.Path
import GlassTty.Text.Utf8

/-!
# The files of the host

The files that sessions read and write live in a value of their own (`GlassTty.FileSystem`): what
stands at each place, a place being the names on the way from the root. Relative names start at the
working directory.

`GlassTty.FileSystem.readUpTo` and `GlassTty.FileSystem.write` answer with the cause of a failure
(`GlassTty.FileError`), found in the order of the walk along the name: each directory on the way has
to be there and be one, before what the last part names is looked at.
-/

namespace GlassTty

/-- Why a file cannot be read or written. -/
inductive FileError where
  | notFound
  | notDirectory
  | isDirectory
  | nameTooLong
  /-- The name holds a NUL character. -/
  | nulInName
  deriving DecidableEq, Repr, Inhabited

/-- The wording of a failure. -/
def FileError.message : FileError → String
  | .notFound => "No such file or directory (os error 2)"
  | .notDirectory => "Not a directory (os error 20)"
  | .isDirectory => "Is a directory (os error 21)"
  | .nameTooLong => "File name too long (os error 36)"
  | .nulInName => "file name contained an unexpected NUL byte"

/-- What stands at a place. -/
inductive Node where
  | directory
  | file (data : Bytes) (executable : Bool)
  /-- A device that is empty and swallows what is written. -/
  | sink
  /-- A device that is zeros without end. -/
  | zeros
  /-- A program that comes with the host. -/
  | program (name : String)
  deriving DecidableEq, Repr, Inhabited

/-- A place: the names on the way from the root. -/
abbrev Place := List (List Char)

/-- The files of the host. -/
structure FileSystem where
  /-- What stands where, the root apart. -/
  nodes : List (Place × Node)
  /-- Where relative names start. -/
  workingDirectory : Place
  deriving DecidableEq, Repr, Inhabited

namespace FileSystem

/-- The greatest length of a part of a name, in bytes. -/
def maxPart : Nat := 255

/-- The greatest length of a name, in bytes. -/
def maxName : Nat := 4095

/-! ### Places -/

/-- What stands at a place. -/
def nodeAt? (fs : FileSystem) (place : Place) : Option Node :=
  if place.isEmpty then some .directory else fs.nodes.lookup place

/-- Put something at a place. -/
def put (fs : FileSystem) (place : Place) (node : Node) : FileSystem :=
  { fs with nodes := (place, node) :: fs.nodes.filter fun (other, _) => other ≠ place }

/-- One step of the walk along a name. -/
def enter (fs : FileSystem) (place : Place) (part : List Char) : Except FileError Place :=
  match fs.nodeAt? place with
  | none => .error .notFound
  | some .directory =>
    if part = ['.'] then .ok place
    else if part = ['.', '.'] then .ok place.dropLast
    else if maxPart < (Utf8.encode part).length then .error .nameTooLong
    else .ok (place ++ [part])
  | some _ => .error .notDirectory

/-- The walk along all parts of a name; the last place need not hold anything. -/
def walk (fs : FileSystem) : Place → List (List Char) → Except FileError Place
  | place, [] => .ok place
  | place, part :: rest => do
    let place ← fs.enter place part
    fs.walk place rest

/-- The parts of a name on which the walk goes, and where it begins. -/
def route (start : Place) (path : List Char) : Place × List (List Char) :=
  (if Path.isAbsolute path then [] else start, (Path.parts path).filter (!·.isEmpty))

/-- A name that no file can have. -/
def nameFault? (path : List Char) : Option FileError :=
  if path.contains '\x00' then some .nulInName
  else if path.isEmpty then some .notFound
  else if maxName < (Utf8.encode path).length then some .nameTooLong
  else none

/-- Whether a name asks for a directory. -/
def endsInSlash (path : List Char) : Bool :=
  path.getLast? = some '/'

/-- What a name stands for, seen from the place `start`, and where that is. -/
def find (fs : FileSystem) (start : Place) (path : List Char) : Except FileError (Place × Node) :=
  match nameFault? path with
  | some fault => .error fault
  | none => do
    let (origin, parts) := route start path
    let place ← fs.walk origin parts
    match fs.nodeAt? place with
    | none => .error .notFound
    | some node =>
      if node ≠ .directory ∧ endsInSlash path then .error .notDirectory else .ok (place, node)

/-! ### Reading and writing -/

/-- **The content of a file**, its name seen from the place `start`. -/
def readFrom (fs : FileSystem) (start : Place) (path : List Char) : Except FileError Bytes := do
  let (_, node) ← fs.find start path
  match node with
  | .directory => .error .isDirectory
  | .file data _ => .ok data
  | .sink => .ok []
  | .zeros => .ok []
  | .program _ => .ok []

/-- Where a file of the given name is, or would be made. -/
def target (fs : FileSystem) (start : Place) (path : List Char) : Except FileError Place :=
  match nameFault? path with
  | some fault => .error fault
  | none => do
    let (origin, parts) := route start path
    let directory ← fs.walk origin parts.dropLast
    match fs.nodeAt? directory with
    | none => .error .notFound
    | some .directory =>
      match parts.getLast? with
      | none => .error .isDirectory
      | some last =>
        if endsInSlash path ∨ last = ['.'] ∨ last = ['.', '.'] then .error .isDirectory
        else fs.enter directory last
    | some _ => .error .notDirectory

/-- **Write a file**, making it if it is not there; an executable file stays one. -/
def writeFrom (fs : FileSystem) (start : Place) (path : List Char) (data : Bytes) :
    Except FileError FileSystem := do
  let place ← fs.target start path
  match fs.nodeAt? place with
  | some .directory => .error .isDirectory
  | some (.file _ executable) => .ok (fs.put place (.file data executable))
  | some .sink => .ok fs
  | some .zeros => .ok fs
  | some (.program name) => .ok (fs.put place (.program name))
  | none => .ok (fs.put place (.file data false))

/-- **The first bytes of a file**, at most `count`, its name seen from the working directory. -/
def readUpTo (fs : FileSystem) (count : Nat) (path : List Char) : Except FileError Bytes := do
  let (_, node) ← fs.find fs.workingDirectory path
  match node with
  | .directory => .error .isDirectory
  | .file data _ => .ok (data.take count)
  | .sink => .ok []
  | .zeros => .ok (List.replicate count 0)
  | .program _ => .ok []

/-- Write a file, its name seen from the working directory. -/
def write (fs : FileSystem) (path : List Char) (data : Bytes) : Except FileError FileSystem :=
  fs.writeFrom fs.workingDirectory path data

/-- Whether a name, seen from the place `start`, is that of a file that may be run. -/
def isProgram (fs : FileSystem) (start : Place) (path : List Char) : Bool :=
  match fs.find start path with
  | .ok (_, .file _ true) => true
  | .ok (_, .program _) => true
  | _ => false

/-! ### Building and listing -/

/-- Where a component leads from a place, by its text alone. -/
def advance (place : Place) : Component → Place
  | .root => []
  | .current => place
  | .parent => place.dropLast
  | .normal name => place ++ [name]

/-- The place that a name, seen from the place `start`, stands for by its text alone. -/
def placeFrom (start : Place) (path : List Char) : Place :=
  (Path.components path).foldl advance start

/-- Make a directory and those on the way to it. -/
def makeDirectories (fs : FileSystem) : Place → FileSystem := fun place =>
  (List.range place.length).foldl
    (fun (fs : FileSystem) i =>
      let directory := place.take (i + 1)
      if (fs.nodeAt? directory).isSome then fs else fs.put directory .directory)
    fs

/-- Put a file at a place, making the directories on the way. -/
def install (fs : FileSystem) (place : Place) (data : Bytes) (executable : Bool) : FileSystem :=
  (fs.makeDirectories place.dropLast).put place (.file data executable)

/-- The text of a place. -/
def placeText (place : Place) : List Char :=
  '/' :: ['/'].intercalate place

/-- The files below a directory, by their names as seen from there. -/
def filesBelow (fs : FileSystem) (directory : Place) : List (List Char × Bytes) :=
  fs.nodes.filterMap fun (place, node) =>
    match node with
    | .file data _ =>
      if place.take directory.length = directory then
        some (['/'].intercalate (place.drop directory.length), data)
      else none
    | _ => none

end FileSystem

end GlassTty
