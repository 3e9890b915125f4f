import GlassTty.Shell.Command

/-!
# Putting in the output of commands

Before a command is expanded, what it asks for of the output of other commands is put in, one script
after the other. `GlassTty.Shell.Command.pendingOutput?` finds the first such script in the words
that are expanded next, and `GlassTty.Shell.Command.withOutput` puts text in its place.
-/

namespace GlassTty.Shell

mutual

/-- The first script in a part. -/
def Part.pendingOutput? : Part → Option (List Char)
  | .text _ _ => none
  | .value _ _ => none
  | .output script _ => some script
  | .arithmetic expression _ => pendingIn? expression
  | .parameter _ use _ => Use.pendingOutput? use

/-- The first script in the word that a use comes with. -/
def Use.pendingOutput? : Use → Option (List Char)
  | .value => none
  | .length => none
  | .fallback _ word => pendingIn? word
  | .assign _ word => pendingIn? word
  | .require _ word => pendingIn? word
  | .alternative _ word => pendingIn? word
  | .trim _ _ word => pendingIn? word

/-- The first script in a word. -/
def pendingIn? : List Part → Option (List Char)
  | [] => none
  | part :: rest =>
    match Part.pendingOutput? part with
    | some script => some script
    | none => pendingIn? rest

end

mutual

/-- The part with text in place of its first script, and whether it has one. -/
def Part.withOutput (text : List Char) : Part → Part × Bool
  | .text chars quoted => (.text chars quoted, false)
  | .value chars quoted => (.value chars quoted, false)
  | .output _ quoted => (.value text quoted, true)
  | .arithmetic expression quoted =>
    let (expression, found) := withOutputIn text expression
    (.arithmetic expression quoted, found)
  | .parameter name use quoted =>
    let (use, found) := Use.withOutput text use
    (.parameter name use quoted, found)

/-- The use with text in place of its first script, and whether it has one. -/
def Use.withOutput (text : List Char) : Use → Use × Bool
  | .value => (.value, false)
  | .length => (.length, false)
  | .fallback colon word =>
    let (word, found) := withOutputIn text word
    (.fallback colon word, found)
  | .assign colon word =>
    let (word, found) := withOutputIn text word
    (.assign colon word, found)
  | .require colon word =>
    let (word, found) := withOutputIn text word
    (.require colon word, found)
  | .alternative colon word =>
    let (word, found) := withOutputIn text word
    (.alternative colon word, found)
  | .trim atEnd longest word =>
    let (word, found) := withOutputIn text word
    (.trim atEnd longest word, found)

/-- The word with text in place of its first script, and whether it has one. -/
def withOutputIn (text : List Char) : List Part → List Part × Bool
  | [] => ([], false)
  | part :: rest =>
    match Part.withOutput text part with
    | (part, true) => (part :: rest, true)
    | (part, false) =>
      let (rest, found) := withOutputIn text rest
      (part :: rest, found)

end

/-- The words with text in place of the first script in them, and whether there is one. -/
def withOutputInWords (text : List Char) : List Word → List Word × Bool
  | [] => ([], false)
  | word :: rest =>
    match withOutputIn text word with
    | (word, true) => (word :: rest, true)
    | (word, false) =>
      let (rest, found) := withOutputInWords text rest
      (word :: rest, found)

namespace Command

/-- The words that are expanded before a command is run. -/
def nextWords : Command → List Word
  | .simple _ assignments words redirects =>
    assignments.map (·.2) ++ words ++ redirects.map (·.target)
  | .redirected _ redirects => redirects.map (·.target)
  | .forEach _ (some values) _ => values
  | .byPattern word _ => [word]
  | _ => []

/-- The command with other words in their place. -/
def withNextWords (words : List Word) : Command → Command
  | .simple line assignments old redirects =>
    let values := words.take assignments.length
    let rest := words.drop assignments.length
    .simple line (assignments.zipWith (fun (name, _) value => (name, value)) values)
      (rest.take old.length)
      (redirects.zipWith (fun r target => { r with target }) (rest.drop old.length))
  | .redirected body redirects =>
    .redirected body (redirects.zipWith (fun r target => { r with target }) words)
  | .forEach name (some _) body => .forEach name (some words) body
  | .byPattern word clauses => .byPattern (words.head?.getD word) clauses
  | command => command

/-- **The first script whose output a command asks for.** -/
def pendingOutput? (command : Command) : Option (List Char) :=
  command.nextWords.findSome? pendingIn?

/-- **The command with text in place of that script.** -/
def withOutput (text : List Char) (command : Command) : Command :=
  command.withNextWords (withOutputInWords text command.nextWords).1

end Command

end GlassTty.Shell
