import GlassTty.Host.FileSystem

/-!
# Patterns

A pattern stands for a set of texts (`GlassTty.Shell.Pattern`): a question mark for any character, a
star for any text, and a bracket for the characters in it. `GlassTty.Shell.Pattern.matchesAll` says
whether a text is in the set, `GlassTty.Shell.Pattern.trim` takes a matching part off a text, and
`GlassTty.Shell.Pattern.names` finds the names of files.
-/

namespace GlassTty.Shell

/-- One item of a pattern. -/
inductive PatternItem where
  | char (c : Char)
  | anyChar
  | anyText
  /-- A character in one of the ranges, or in none of them. -/
  | oneOf (negated : Bool) (ranges : List (Char × Char))
  deriving DecidableEq, Repr, Inhabited

/-- A pattern. -/
abbrev Pattern := List PatternItem

/-- A character of the text a pattern is written in, and whether it is quoted. -/
abbrev PatternChar := Char × Bool

namespace Pattern

/-- The ranges in a bracket, and what follows it. A bracket that closes at once stands for
itself. -/
def ranges? : Bool → List PatternChar → Option (List (Char × Char) × List PatternChar)
  | _, [] => none
  | first, (c, quoted) :: ('-', false) :: (d, other) :: after =>
    if c = ']' ∧ quoted = false ∧ first = false then some ([], ('-', false) :: (d, other) :: after)
    else if d = ']' then
      (ranges? false (('-', false) :: (d, other) :: after)).map fun (more, after) =>
        ((c, c) :: more, after)
    else (ranges? false after).map fun (more, after) => ((c, d) :: more, after)
  | first, (c, quoted) :: rest =>
    if c = ']' ∧ quoted = false ∧ first = false then some ([], rest)
    else (ranges? false rest).map fun (more, after) => ((c, c) :: more, after)

/-- The bracket at the beginning of a text behind its opening, and what follows it. -/
def bracket? (text : List PatternChar) : Option (PatternItem × List PatternChar) :=
  match text with
  | ('!', false) :: rest => (ranges? true rest).map fun (rs, after) => (.oneOf true rs, after)
  | _ => (ranges? true text).map fun (rs, after) => (.oneOf false rs, after)

/-- The pattern that a text is, the number bounding the steps. -/
def ofCharsFrom : Nat → List PatternChar → Pattern
  | 0, _ => []
  | _, [] => []
  | fuel + 1, (c, quoted) :: rest =>
    if quoted then .char c :: ofCharsFrom fuel rest
    else if c = '?' then .anyChar :: ofCharsFrom fuel rest
    else if c = '*' then .anyText :: ofCharsFrom fuel rest
    else if c = '[' then
      match bracket? rest with
      | some (item, after) => item :: ofCharsFrom fuel after
      | none => .char c :: ofCharsFrom fuel rest
    else .char c :: ofCharsFrom fuel rest

/-- The pattern that a text is. -/
def ofChars (text : List PatternChar) : Pattern :=
  ofCharsFrom text.length text

/-- Whether an item that stands for one character stands for the given one. -/
def PatternItem.accepts (item : PatternItem) (c : Char) : Bool :=
  match item with
  | .char d => c = d
  | .anyChar => true
  | .anyText => false
  | .oneOf negated ranges =>
    (ranges.any fun (low, high) => low.toNat ≤ c.toNat && c.toNat ≤ high.toNat) != negated

/-- **Whether a pattern stands for a text.** -/
def matchesAll : Pattern → List Char → Bool
  | [], [] => true
  | [], _ :: _ => false
  | .anyText :: pattern, [] => matchesAll pattern []
  | .anyText :: pattern, c :: text =>
    matchesAll pattern (c :: text) || matchesAll (.anyText :: pattern) text
  | _ :: _, [] => false
  | item :: pattern, c :: text => PatternItem.accepts item c && matchesAll pattern text
termination_by pattern text => pattern.length + text.length

/-- Whether a text is all that it stands for, so that it is no pattern. -/
def isPlain (pattern : Pattern) : Bool :=
  pattern.all fun
    | .char _ => true
    | _ => false

/-- **The text without a part that matches**, at its beginning or its end: the longest such part or
the shortest. -/
def trim (pattern : Pattern) (atEnd longest : Bool) (text : List Char) : List Char :=
  let lengths := List.range (text.length + 1)
  let lengths := if longest then lengths.reverse else lengths
  let part (n : Nat) : List Char := if atEnd then text.drop (text.length - n) else text.take n
  match lengths.find? fun n => pattern.matchesAll (part n) with
  | some n => if atEnd then text.take (text.length - n) else text.drop n
  | none => text

/-! ### Names of files -/

/-- The names in a directory that a pattern stands for, hidden ones only if it asks for them. -/
def entries (files : FileSystem) (place : Place) (pattern : Pattern) : List (List Char) :=
  let names := files.nodes.filterMap fun (other, _) =>
    if other.length = place.length + 1 ∧ other.dropLast = place then other.getLast? else none
  let wanted := names.filter fun name =>
    pattern.matchesAll name && (name.head? ≠ some '.' || pattern.head? = some (.char '.'))
  wanted.mergeSort fun a b => !(String.ofList b < String.ofList a)

/-- The texts between the slashes of a text. -/
def splitSlashes : List PatternChar → List (List PatternChar)
  | [] => [[]]
  | (c, quoted) :: rest =>
    if c = '/' then [] :: splitSlashes rest
    else
      match splitSlashes rest with
      | [] => [[(c, quoted)]]
      | part :: more => ((c, quoted) :: part) :: more

/-- The names that the parts of a pattern stand for, seen from a place; each comes with the place
itself. -/
def walk (files : FileSystem) :
    List (List PatternChar) → List (List Char × Place) → List (List Char × Place)
  | [], found => found
  | part :: rest, found =>
    let step (name : List Char) (place : Place) (entry : List Char) : List Char × Place :=
      (Path.join name entry, place ++ [entry])
    let next := found.flatMap fun (name, place) =>
      let pattern := ofChars part
      if part.isEmpty then [(name, place)]
      else if isPlain pattern then
        let entry := part.map (·.1)
        match files.find place entry with
        | .ok (place, _) => [(Path.join name entry, place)]
        | .error _ => []
      else (entries files place pattern).map (step name place)
    walk files rest next

/-- **The names of files that a text stands for**, seen from a directory; none if it is no pattern
or there is no such file. -/
def names (files : FileSystem) (directory : Place) (text : List PatternChar) : List (List Char) :=
  if isPlain (ofChars text) then []
  else
    let start := if text.head?.any (·.1 = '/') then (['/'], []) else ([], directory)
    (walk files (splitSlashes text) [start]).map (·.1)

end Pattern

end GlassTty.Shell
