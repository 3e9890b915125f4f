import GlassTty.Shell.Arithmetic
import GlassTty.Shell.Pattern
import GlassTty.Shell.Scope

/-!
# Expansion

A word of a command becomes any number of texts. Its parts are first replaced by what they stand for
(`GlassTty.Shell.expandParts`), each character keeping in mind where it came from
(`GlassTty.Shell.Piece`); the result is then cut into fields (`GlassTty.Shell.fieldsOf`), and a
field that is a pattern becomes the names of the files it stands for (`GlassTty.Shell.expandWord`).

The output of commands is put in beforehand: here it counts as nothing.
-/

namespace GlassTty.Shell

/-- A character of an expanded word. -/
inductive Piece where
  /-- Written in the word. -/
  | plain (c : Char)
  /-- Quoted. -/
  | quoted (c : Char)
  /-- Part of a value that is not quoted. -/
  | value (c : Char)
  /-- Nothing, but quoted. -/
  | nothing
  /-- The end of one argument, where all are quoted. -/
  | boundary
  deriving DecidableEq, Repr, Inhabited

/-- The character of a piece. -/
def Piece.char? : Piece → Option Char
  | .plain c => some c
  | .quoted c => some c
  | .value c => some c
  | .nothing => none
  | .boundary => some ' '

/-- The pieces of a text. -/
def piecesOf (quoted : Bool) (text : List Char) : List Piece :=
  text.map (if quoted then .quoted else .value)

/-- The text of pieces. -/
def textOf (pieces : List Piece) : List Char :=
  pieces.filterMap Piece.char?

/-- The characters of pieces as those of a pattern. -/
def patternChars (pieces : List Piece) : List PatternChar :=
  pieces.filterMap fun piece =>
    match piece with
    | .quoted c => some (c, true)
    | _ => piece.char?.map (·, false)

/-- An expansion: it may set variables, and may fail with a message. -/
abbrev Expansion := StateT Scope (Except (List Char))

/-- The pieces of a value, all arguments being told apart where they are quoted. -/
def parameterPieces (scope : Scope) (name : List Char) (quoted : Bool) : List Piece :=
  let all := scope.arguments.map (piecesOf quoted)
  if name = ['@'] ∧ quoted then
    match all with
    | [] => []
    | _ => List.intercalate [.boundary] (all.map (.nothing :: ·))
  else if (name = ['@'] ∨ name = ['*']) ∧ !quoted then
    List.intercalate [.boundary] all
  else piecesOf quoted ((scope.parameter? name).getD [])

/-- Whether the value of a parameter counts. -/
def counts (value : Option (List Char)) (colon : Bool) : Bool :=
  match value with
  | none => false
  | some text => !colon || !text.isEmpty

/-- The text of an integer. -/
def integerText (n : Int) : List Char :=
  (if n < 0 then ['-'] else []) ++ Scope.numberText n.natAbs

mutual

/-- The pieces of a part. -/
def expandPart : Part → Expansion (List Piece)
  | .text chars quoted =>
    return if quoted ∧ chars.isEmpty then [.nothing]
      else chars.map (if quoted then .quoted else .plain)
  | .output _ _ => return []
  | .value text quoted => return piecesOf quoted text
  | .arithmetic expression quoted => do
    let text := textOf (← expandParts expression)
    let scope ← get
    match Arithmetic.evaluate scope.get? text with
    | .ok (value, assigned) =>
      modify fun scope =>
        assigned.foldl (fun scope (name, value) => scope.set name (integerText value)) scope
      return piecesOf quoted (integerText value)
    | .error fault => throw (fault.message text)
  | .parameter name use quoted => expandUse name quoted use

/-- The pieces of a parameter that is used in some way. -/
def expandUse (name : List Char) (quoted : Bool) : Use → Expansion (List Piece)
  | .value => do
    let scope ← get
    if scope.strict ∧ (scope.parameter? name).isNone ∧ name ≠ ['@'] ∧ name ≠ ['*'] then
      throw (name ++ ": parameter not set".toList)
    else return parameterPieces scope name quoted
  | .length => do
    let value := ((← get).parameter? name).getD []
    return piecesOf quoted (Scope.numberText (Utf8.encode value).length)
  | .fallback colon word => do
    let scope ← get
    if counts (scope.parameter? name) colon then return parameterPieces scope name quoted
    else expandParts word
  | .assign colon word => do
    let scope ← get
    if counts (scope.parameter? name) colon then return parameterPieces scope name quoted
    else
      let pieces ← expandParts word
      modify (·.set name (textOf pieces))
      return piecesOf quoted (textOf pieces)
  | .require colon word => do
    let scope ← get
    if counts (scope.parameter? name) colon then return parameterPieces scope name quoted
    else
      let text := textOf (← expandParts word)
      let reason :=
        if !text.isEmpty then text
        else if colon then "parameter not set or null".toList
        else "parameter not set".toList
      throw (name ++ ": ".toList ++ reason)
  | .alternative colon word => do
    let scope ← get
    if counts (scope.parameter? name) colon then expandParts word else return []
  | .trim atEnd longest pattern => do
    let scope ← get
    let pattern := Pattern.ofChars (patternChars (← expandParts pattern))
    return piecesOf quoted
      (Pattern.trim pattern atEnd longest ((scope.parameter? name).getD []))

/-- The pieces of all parts of a word. -/
def expandParts : List Part → Expansion (List Piece)
  | [] => return []
  | part :: rest => do
    let pieces ← expandPart part
    return pieces ++ (← expandParts rest)

end

/-! ### Fields -/

/-- Cut pieces into fields; `field` is the one begun, if any. Blanks between values separate fields
however many there are, and each other separator ends one. -/
def splitFields (separators : List Char) : Option (List Piece) → List Piece → List (List Piece)
  | field, [] => field.toList
  | field, .value c :: rest =>
    if separators.contains c then
      if isBlank c then field.toList ++ splitFields separators none rest
      else field.getD [] :: splitFields separators none rest
    else splitFields separators (some (field.getD [] ++ [.value c])) rest
  | field, .boundary :: rest => field.toList ++ splitFields separators none rest
  | field, piece :: rest => splitFields separators (some (field.getD [] ++ [piece])) rest

/-- The texts that a field stands for. -/
def namesOrText (files : FileSystem) (directory : Place) (field : List Piece) :
    List (List Char) :=
  match Pattern.names files directory (patternChars field) with
  | [] => [textOf field]
  | names => names

/-- **The texts that a word stands for.** -/
def expandWord (files : FileSystem) (directory : Place) (word : Word) :
    Expansion (List (List Char)) := do
  let pieces ← expandParts word
  return (splitFields (← get).separators none pieces).flatMap (namesOrText files directory)

/-- The texts that the words of a command stand for. -/
def expandWords (files : FileSystem) (directory : Place) :
    List Word → Expansion (List (List Char))
  | [] => return []
  | word :: rest => do
    let texts ← expandWord files directory word
    return texts ++ (← expandWords files directory rest)

/-- The one text that a word stands for where it is not cut up. -/
def expandText (word : Word) : Expansion (List Char) := do
  return textOf (← expandParts word)

/-- The pattern that a word stands for. -/
def expandPattern (word : Word) : Expansion Pattern := do
  return Pattern.ofChars (patternChars (← expandParts word))

end GlassTty.Shell
