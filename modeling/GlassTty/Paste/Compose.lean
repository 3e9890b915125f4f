import GlassTty.Host.Lookup
import GlassTty.Paste.FileUrl
import GlassTty.Paste.Options

/-!
# What a click types

A click on a file or a word becomes text for the command line (`GlassTty.Paste.compose`). What it
becomes depends on the line: on an empty one the click may supply the command, on one that is begun
it supplies an argument. Spaces are escaped so that a pasted file is one word, and a file below the
working directory is named from there.
-/

namespace GlassTty

/-- Why nothing can be pasted. -/
inductive PasteError where
  | commandNotFound (command : String)
  | notAtCommandLine
  deriving DecidableEq, Repr, Inhabited

/-- The wording of a refusal. -/
def PasteError.message : PasteError → String
  | .commandNotFound command => "command not found: " ++ command
  | .notAtCommandLine => "terminal has no active command line"

/-- Where programs are looked for. -/
structure SearchPath where
  /-- A directory searched before all others. -/
  extra : Option String := none
  /-- The directories, written with colons. -/
  path : Option String := none
  deriving DecidableEq, Repr, Inhabited

/-- The command line that a click lands on. -/
structure CommandLine where
  /-- The text of the last active row. -/
  line : List Char
  /-- The column of the cursor, if it is on that row. -/
  cursorCol : Option Nat
  /-- The column where the command begins, zero where there is no prompt. -/
  promptOffset : Nat
  /-- The working directory of the shell, empty if it is not known. -/
  cwd : List Char
  /-- Whether files are named from the working directory unless the options say otherwise. -/
  normalizeByDefault : Bool
  /-- The name of the host itself. -/
  localHost : List Char
  search : SearchPath
  deriving DecidableEq, Repr, Inhabited

namespace Paste

/-- The commands that take whole URLs. -/
def remoteCommands : List String := ["wcp"]

/-- What a copy becomes when both of its ends are on the host itself. -/
def renameCommand : String := "mv"

/-- What is replaced by the pasted file in a command. -/
def placeholder : List Char := "%(path)".toList

/-- A text with its spaces escaped. -/
def escapeSpaces (text : List Char) : List Char :=
  text.flatMap fun c => if c = ' ' then ['\\', ' '] else [c]

/-- Whether a URL names a file of the host itself. -/
def isLocal (url localHost : List Char) : Bool :=
  (FileUrl.parse? url).any (·.isLocal localHost)

/-- What has been typed of the command before the cursor, one leading space not counting. -/
def typed (c : CommandLine) : List Char :=
  let before :=
    match c.cursorCol with
    | some col => c.line.take col
    | none => c.line
  match before.drop c.promptOffset with
  | ' ' :: rest => rest
  | rest => rest

/-- Refuse a program that is not found. -/
def requireProgram (files : FileSystem) (c : CommandLine) (program : List Char) :
    Except PasteError Unit :=
  let program := Text.trim program
  let directory := if c.cwd.isEmpty then ['/'] else c.cwd
  if !program.isEmpty && Lookup.isFound files c.search.path c.search.extra directory program then
    .ok ()
  else .error (.commandNotFound (String.ofList program))

/-- The parts that a paste is put together from. -/
structure Parts where
  /-- The command put in front, with the space behind it. -/
  command : List Char := []
  /-- A space that sets the argument apart from what is typed. -/
  space : List Char := []
  /-- The word or file. -/
  text : List Char
  /-- The text is an argument, not the command itself. -/
  isArgument : Bool := false
  deriving DecidableEq, Repr, Inhabited

/-- A command with a space behind it. -/
def withSpace (command : List Char) : List Char :=
  if command.isEmpty ∨ command.getLast? = some ' ' then command else command ++ [' ']

/-- The parts at a prompt, `command` being the one asked for and `typed` what stands there. -/
def partsAtPrompt (files : FileSystem) (c : CommandLine) (command text typed : List Char) :
    Except PasteError Parts :=
  if Text.allBlank typed then
    if !command.isEmpty then do
      requireProgram files c ((Text.words command).head?.getD [])
      .ok { command := withSpace command, text, isArgument := true }
    else if !text.isEmpty then do
      if typed.isEmpty then requireProgram files c text
      .ok { command := withSpace (escapeSpaces text), text := [] }
    else .ok { text }
  else
    .ok { space := if typed.getLast? = some ' ' then [] else [' '], text, isArgument := true }

/-- Put the parts together. An argument goes where the command has its placeholder, if it has. -/
def assemble (p : Parts) : List Char :=
  let text := escapeSpaces p.text
  if p.isArgument ∧ (Text.cut? placeholder p.command).isSome then
    Text.replaceAll placeholder text p.command
  else p.command ++ p.space ++ text ++ [' ']

/-- Put a destination behind. -/
def addDestination (paste destination : List Char) : List Char :=
  (if paste.isEmpty ∨ paste.getLast? = some ' ' then paste else paste ++ [' ']) ++ destination

/-- **The text that a click types**, none if there is nothing to type. -/
def compose (files : FileSystem) (c : CommandLine) (text fileUrl : List Char)
    (options : PasteOptions) : Except PasteError (Option (List Char)) := do
  let destUrl := options.destUrl.toList
  let remote := remoteCommands.contains options.command
  let rename := remote && isLocal fileUrl c.localHost && isLocal destUrl c.localHost
  let command := (if rename then renameCommand else options.command).toList
  let fullUrls := remote && !rename
  let text :=
    if text.isEmpty ∧ !fileUrl.isEmpty then
      if fullUrls then fileUrl else FileUrl.pathOf fileUrl
    else text
  let atPrompt := 0 < c.promptOffset
  let normalize :=
    if atPrompt ∧ options.normalize = none ∧ c.normalizeByDefault then some true
    else options.normalize
  let typed := if atPrompt then typed c else []
  let parts ←
    if atPrompt then partsAtPrompt files c command text typed else .ok { text }
  let parts :=
    if !c.cwd.isEmpty ∧ normalize = some true ∧ parts.isArgument ∧ !fileUrl.isEmpty then
      if fullUrls then { parts with text := fileUrl }
      else
        let relative := FileUrl.relative fileUrl c.cwd
        if Path.isAbsolute relative then parts else { parts with text := relative }
    else parts
  if parts.text.isEmpty ∧ parts.command.isEmpty then .ok none
  else
    let paste := assemble parts
    let paste :=
      if destUrl.isEmpty then paste
      else addDestination paste (if fullUrls then destUrl else FileUrl.relative destUrl c.cwd)
    let run := options.enter && atPrompt && typed.isEmpty && !command.isEmpty
    .ok (some (if run then paste ++ ['\n'] else paste))

end Paste

end GlassTty
