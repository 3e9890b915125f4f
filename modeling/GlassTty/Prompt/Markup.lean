import GlassTty.Host.Path
import GlassTty.Prompt.Words
import GlassTty.Text.Html

/-!
# The markup of a command line

A command line in the history is shown with its prompt as an anchor and each of its words as
something to click on: a file where a word names one, and plain text elsewhere
(`GlassTty.Markup.commandLine`). Blanks are copied. Every text and every directory is escaped, so
that all tags and all quotation marks of the result come from the three templates
`GlassTty.Markup.prompt`, `GlassTty.Markup.plain` and `GlassTty.Markup.path`. How a text is escaped
may be given, and is `GlassTty.Html.escape` if it is not.
-/

namespace GlassTty.Markup

/-- The commands whose arguments are files. -/
def fileCommands : List (List Char) :=
  ["cd", "cp", "mv", "rm", "wcp", "wimages", "wls", "wopen", "wvi"].map String.toList

/-- The prompt of the entry with the given index. -/
def prompt (text : List Char) (entryIndex : Nat) (directory : List Char)
    (escape : List Char → List Char := Html.escape) : List Char :=
  "<span class=\"term-cmd-prompt term-link\" id=\"prompt".toList ++ Nat.toDigits 10 entryIndex ++
    "\" data-termdir=\"".toList ++ escape directory ++ "\">".toList ++ escape text ++
    "</span>".toList

/-- The class that sets the command apart from its arguments. -/
def commandClass (command : Bool) : List Char :=
  if command then " term-command".toList else []

/-- A word that is plain text. -/
def plain (text : List Char) (command : Bool) (escape : List Char → List Char := Html.escape) :
    List Char :=
  "<span class=\"term-cmd-text term-link".toList ++ commandClass command ++ "\">".toList ++
    escape text ++ "</span>".toList

/-- A word that names a file, seen from a directory. -/
def path (text directory : List Char) (command : Bool)
    (escape : List Char → List Char := Html.escape) : List Char :=
  "<a class=\"term-cmd-path term-link".toList ++ commandClass command ++
    "\" href=\"file://".toList ++ escape (Path.join directory text) ++
    "\" data-termmime=\"x-webterm/path\" data-termcmd=\"xpaste\">".toList ++ escape text ++
    "</a>".toList

/-- Whether a word behind the command names a file: all do that are no option, behind a command that
takes files, and everywhere those that begin at the directory or the one above. -/
def namesFile (directory : List Char) (fileArguments : Bool) (word : List Char) : Bool :=
  !directory.isEmpty && !Text.hasPrefix ['-'] word &&
    (fileArguments || Text.hasPrefix ['.', '/'] word || Text.hasPrefix ['.', '.', '/'] word)

/-- Whether a piece is a run of delimiters. -/
def isDelimiter (piece : List Char) : Bool :=
  piece.head?.any Words.delimiters.contains

/-- The pieces behind the command. A delimiter ends the file arguments. -/
def arguments (escape : List Char → List Char) (directory : List Char) :
    Bool → List (List Char) → List Char
  | _, [] => []
  | fileArguments, piece :: rest =>
    if Text.allBlank piece then piece ++ arguments escape directory fileArguments rest
    else if isDelimiter piece then
      plain piece false escape ++ arguments escape directory false rest
    else if namesFile directory fileArguments piece then
      path piece directory false escape ++ arguments escape directory fileArguments rest
    else plain piece false escape ++ arguments escape directory fileArguments rest

/-- The command word. A program of the directory itself is a file, shown without the way to it. -/
def command (escape : List Char → List Char) (directory word : List Char) : List Char :=
  match Text.dropPrefix? ['.', '/'] word with
  | some file =>
    if directory.isEmpty then plain word true escape else path file directory true escape
  | none => plain word true escape

/-- The pieces of a command line. -/
def pieces (escape : List Char → List Char) (directory : List Char) (parts : List (List Char)) :
    List Char :=
  let blanks := parts.takeWhile Text.allBlank
  blanks.flatten ++
    match parts.dropWhile Text.allBlank with
    | [] => []
    | word :: rest =>
      command escape directory word ++
        arguments escape directory (fileCommands.contains word) rest

/-- **The markup of a command line**: the prompt between the columns `preOffset` and `offset`, and
the words behind it. A line whose quoting does not end is one text. -/
def commandLine (entryIndex : Nat) (directory : List Char) (preOffset offset : Nat)
    (line : List Char) (escape : List Char → List Char := Html.escape) : List Char :=
  let rest := line.drop offset
  prompt ((line.drop preOffset).take (offset - preOffset)) entryIndex directory escape ++
    match Words.split? rest with
    | some parts => pieces escape directory parts
    | none => escape rest

end GlassTty.Markup
