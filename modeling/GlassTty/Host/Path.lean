/-!
# File names

A file name is a text; its meaning is its list of components (`GlassTty.Path.components`). Slashes
that follow each other count once, a slash at the end counts nothing, and a dot counts only as the
first component of a relative name. Joining names, in contrast, works on the text
(`GlassTty.Path.join`).

`GlassTty.Path.relative?` is the way from one directory to a name, component by component.
-/

namespace GlassTty

/-- A part of a file name. -/
inductive Component where
  /-- The slash at the beginning of an absolute name. -/
  | root
  /-- A dot. -/
  | current
  /-- Two dots. -/
  | parent
  | normal (name : List Char)
  deriving DecidableEq, Repr, Inhabited

namespace Component

/-- The component that a nonempty part between slashes is. -/
def ofPart (part : List Char) : Component :=
  if part = ['.'] then .current else if part = ['.', '.'] then .parent else .normal part

/-- The text of a component. -/
def text : Component → List Char
  | .root => ['/']
  | .current => ['.']
  | .parent => ['.', '.']
  | .normal name => name

end Component

namespace Path

/-- Whether a name begins at the root. -/
def isAbsolute (path : List Char) : Bool :=
  path.head? = some '/'

/-- The parts of a text between slashes, empty ones among them. -/
def parts : List Char → List (List Char)
  | [] => [[]]
  | c :: rest =>
    if c = '/' then [] :: parts rest
    else
      match parts rest with
      | [] => [[c]]
      | part :: more => (c :: part) :: more

/-- **The components of a name.** -/
def components (path : List Char) : List Component :=
  let named := ((parts path).filter (!·.isEmpty)).map Component.ofPart
  if isAbsolute path then .root :: named.filter (· ≠ .current)
  else
    match named with
    | [] => []
    | first :: rest => first :: rest.filter (· ≠ .current)

/-- **Join a name to a directory**, as texts: one slash comes between them unless there is one, and
an absolute name stays as it is. -/
def join (directory path : List Char) : List Char :=
  if isAbsolute path then path
  else if directory.isEmpty ∨ directory.getLast? = some '/' then directory ++ path
  else directory ++ '/' :: path

/-- The name with the given components. -/
def ofComponents (cs : List Component) : List Char :=
  cs.foldl (fun path c => join path c.text) []

/-- The components that lead from `base` to `target` once they differ: `started` says whether a
component of the way is known already. -/
def wayFrom : Bool → List Component → List Component → Option (List Component)
  | _, [], [] => some []
  | _, target, [] => some target
  | _, [], _ :: base => (wayFrom true [] base).map (.parent :: ·)
  | started, t :: target, b :: base =>
    if started = false ∧ t = b then wayFrom false target base
    else if b = .current then (wayFrom true target base).map (t :: ·)
    else if b = .parent then none
    else some (.parent :: base.map (fun _ => .parent) ++ t :: target)

/-- **The name `path` as seen from the directory `base`.** There is none from an absolute directory
to a relative name, nor past two dots of the directory. -/
def relative? (path base : List Char) : Option (List Char) :=
  if isAbsolute path = isAbsolute base then
    (wayFrom false (components path) (components base)).map ofComponents
  else if isAbsolute path then some path
  else none

/-- The last component of a name, if it names something. -/
def fileName? (path : List Char) : Option (List Char) :=
  match (components path).getLast? with
  | some (.normal name) => some name
  | _ => none

/-- What follows the last dot of the last component, unless that dot is its first character. -/
def extension? (path : List Char) : Option (List Char) := do
  let name ← fileName? path
  let after := (name.reverse.takeWhile (· ≠ '.')).reverse
  if after.length + 1 < name.length then some after else none

end Path

end GlassTty
