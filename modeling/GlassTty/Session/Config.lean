import GlassTty.Directive.Buffer
import GlassTty.History.Scrollback
import GlassTty.Prompt.Format
import GlassTty.Text.Blank

/-!
# How sessions are set up

The settings of all sessions (`GlassTty.SessionConfig`) come from defaults that four variables of
the environment may replace (`GlassTty.SessionConfig.overlay`). From them follow the program a
session runs (`GlassTty.SessionConfig.arguments`) and the environment it is given
(`GlassTty.SessionConfig.childEnvironment`).

A look-up of variables is a function: the environment of the process, or any other. Times are in
nanoseconds, and are set as whole seconds or milliseconds with nanoseconds beyond them.
-/

namespace GlassTty

/-- The settings of all sessions. -/
structure SessionConfig where
  /-- The command of sessions opened without one. -/
  command : Option String := none
  prompt : Option PromptFormat := none
  /-- The type of terminal that programs are told. -/
  termType : String := "linux"
  /-- The time a session may be silent before it may be ended: the whole seconds. -/
  idleSeconds : Nat := 300
  /-- The nanoseconds beyond them. -/
  idleNanos : Nat := 0
  /-- The time between two updates of a session, at least: the whole milliseconds. -/
  updateMillis : Nat := 50
  /-- The nanoseconds beyond them. -/
  updateNanos : Nat := 0
  /-- The time that the loop waits for output, at most: the whole milliseconds. -/
  pollMillis : Nat := 20
  /-- The nanoseconds beyond them. -/
  pollNanos : Nat := 0
  sharedSecret : String := ""
  /-- The first half of the path that programs are told. -/
  host : String := "local"
  /-- The name of the host itself. -/
  localHost : String := ""
  /-- A directory of programs that comes before all others. -/
  binDir : Option String := none
  /-- The variables that are passed on to programs. -/
  copyEnv : List String :=
    ["HOME", "LOGNAME", "PATH", "SECURITYSESSIONID", "SHELL", "SSH_AUTH_SOCK", "USER", "USERNAME"]
  maxScrollLines : Nat := Scrollback.defaultCapacity
  deriving DecidableEq, Repr, Inhabited

namespace SessionConfig

/-! ### Times -/

/-- The nanoseconds in a millisecond. -/
def millisecond : Nat := 1000000

/-- The nanoseconds in a second. -/
def second : Nat := 1000000000

/-- How long a session may be silent before it may be ended. -/
def idleTimeout (c : SessionConfig) : Nat :=
  c.idleSeconds * second + c.idleNanos

/-- How much time is between two updates of a session, at least. -/
def updateInterval (c : SessionConfig) : Nat :=
  c.updateMillis * millisecond + c.updateNanos

/-- How long the loop waits for output, at most. -/
def pollInterval (c : SessionConfig) : Nat :=
  c.pollMillis * millisecond + c.pollNanos

/-! ### Variables that replace settings -/

/-- The value of a text of decimal digits, if it has one. -/
def digitsValue? (text : List Char) : Option Nat :=
  if text.isEmpty then none
  else
    text.foldl
      (fun value? c =>
        value?.bind fun value => if c.isDigit then some (value * 10 + (c.toNat - 48)) else none)
      (some 0)

/-- The number of a text: decimal digits, perhaps behind a plus sign, of sixty-four bits at most. -/
def number? (text : List Char) : Option Nat :=
  let digits :=
    match text with
    | '+' :: rest => rest
    | _ => text
  (digitsValue? digits).filter (· ≤ 0xFFFFFFFFFFFFFFFF)

/-- **Replace settings** by what the variables say. A blank command, an empty type of terminal and a
timeout that is no number are passed over. -/
def overlay (c : SessionConfig) (lookup : String → Option String) : SessionConfig :=
  let command := (lookup "WEBTERM_COMMAND").filter fun text => !Text.allBlank text.toList
  let termType := (lookup "WEBTERM_TERM").filter (!·.isEmpty)
  let idle := (lookup "WEBTERM_IDLE_TIMEOUT").bind fun text => number? (Text.trim text.toList)
  { c with
    command := command <|> c.command
    termType := termType.getD c.termType
    idleSeconds := idle.getD c.idleSeconds
    idleNanos := if idle.isSome then 0 else c.idleNanos
    sharedSecret := (lookup "WEBTERM_SHARED_SECRET").getD c.sharedSecret }

/-! ### The program -/

/-- The shell of sessions that name none. -/
def fallbackShell : String := "/bin/sh"

/-- The names of shells that are run as they are. -/
def shellNames : List (List Char) :=
  ["sh", "bash", "csh", "ksh", "tcsh"].map String.toList

/-- Whether a character may stand in the directory of a shell. -/
def isShellPathChar (c : Char) : Bool :=
  c.isAlphanum || c = '_' || c = '/'

/-- **Whether a word is the path of a shell**: a directory of letters, digits, underscores and
slashes, and behind its last slash the name of a shell. -/
def isShellPath (word : List Char) : Bool :=
  let name := (word.reverse.takeWhile (· ≠ '/')).reverse
  word.contains '/' && word.all isShellPathChar && shellNames.contains name

/-- **The program of a session and its arguments.** A command that begins with the path of a shell
is run as it is, word by word, and any other by a shell. Without a command the shell of the user is
run. -/
def arguments (c : SessionConfig) (command shell : Option String) : List String :=
  let command := Text.trim (((command <|> c.command).getD "").toList)
  if command.isEmpty then
    [(shell.filter (!·.isEmpty)).getD fallbackShell]
  else
    let words := Text.words command
    if words.head?.any isShellPath then words.map String.ofList
    else [fallbackShell, "-c", String.ofList command]

/-! ### The environment -/

/-- The value that a passed-on variable has for programs: the search path begins with the directory
of programs, if there is one. -/
def passedValue (c : SessionConfig) (name value : String) : String :=
  match c.binDir with
  | some dir => if name = "PATH" then dir ++ ":" ++ value else value
  | none => value

/-- What a shell does before each prompt: it sets the prompt and tells its directory. -/
def promptCommand : String :=
  let mode := toString DirectiveCode.promptMode
  "export PS1=$WEBTERM_PROMPT; echo -n \"\\033[?" ++ mode ++
    ";$\x7bWEBTERM_COOKIE\x7dh$PWD\\033[?" ++ mode ++ ";l\""

/-- **The environment of a program**, in order. -/
def childEnvironment (c : SessionConfig) (session cookie : String) (height width : Nat)
    (lookup : String → Option String) : List (String × String) :=
  (c.copyEnv.filterMap fun name =>
    (lookup name).map fun value => (name, c.passedValue name value)) ++
  [("COLUMNS", toString width), ("LINES", toString height), ("TERM", c.termType),
    ("WEBTERM_COOKIE", cookie), ("WEBTERM_SHARED_SECRET", c.sharedSecret),
    ("WEBTERM_PATH", c.host ++ "/" ++ session)] ++
  match c.prompt with
  | some prompt =>
    [("WEBTERM_PROMPT", prompt.shellPrompt), ("PROMPT_COMMAND", promptCommand)]
  | none => []

end SessionConfig

end GlassTty
