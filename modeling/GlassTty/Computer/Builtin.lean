import GlassTty.Computer.Turn

/-!
# The commands of the shell itself

Some commands change the shell and cannot be programs of their own: they set variables, leave loops,
change the directory (`GlassTty.Computer.builtin?`). Others are built in because they are small:
they write something or test a condition (`GlassTty.Computer.Condition`).
-/

namespace GlassTty.Computer

/-! ### Conditions -/

namespace Condition

/-- What conditions can be about. -/
structure Context where
  files : FileSystem
  directory : Place
  channels : Channels

/-- A test of one text. -/
def unary? (c : Context) (operator : String) (text : List Char) : Option Bool :=
  let node? : Option Node := (c.files.find c.directory text).toOption.map (·.2)
  match operator with
  | "-n" => some !text.isEmpty
  | "-z" => some text.isEmpty
  | "-t" =>
    some (((Shell.decimal? text).bind fun n => c.channels.lookup n) = some Channel.line)
  | "-e" => some node?.isSome
  | "-r" => some node?.isSome
  | "-w" => some node?.isSome
  | "-d" => some (node? = some .directory)
  | "-f" =>
    some <|
      match node? with
      | some (.file _ _) => true
      | some (.program _) => true
      | _ => false
  | "-x" =>
    some <|
      match node? with
      | some (.file _ executable) => executable
      | some (.program _) => true
      | some .directory => true
      | _ => false
  | "-s" =>
    some <|
      match node? with
      | some (.file data _) => !data.isEmpty
      | some (.program _) => true
      | some .directory => true
      | _ => false
  | "-L" => some false
  | "-h" => some false
  | "-p" => some false
  | "-S" => some false
  | "-b" => some false
  | "-c" => some (node? = some .sink || node? = some .zeros)
  | _ => none

/-- The number that a text is. -/
def number? (text : List Char) : Except (List Char) Int :=
  match (String.ofList (Text.trim text)).toInt? with
  | some n => .ok n
  | none => .error ("Illegal number: ".toList ++ text)

/-- A comparison of two numbers. -/
def compare (left right : List Char) (test : Int → Int → Bool) : Except (List Char) Bool := do
  let x ← number? left
  let y ← number? right
  return test x y

/-- A test of two texts. -/
def binary? (operator : String) (left right : List Char) : Option (Except (List Char) Bool) :=
  match operator with
  | "=" => some (.ok (left = right))
  | "==" => some (.error "==: unexpected operator".toList)
  | "!=" => some (.ok (left ≠ right))
  | "<" => some (.ok (String.ofList left < String.ofList right))
  | ">" => some (.ok (String.ofList right < String.ofList left))
  | "-eq" => some (compare left right (· = ·))
  | "-ne" => some (compare left right (· ≠ ·))
  | "-lt" => some (compare left right (· < ·))
  | "-le" => some (compare left right (· ≤ ·))
  | "-gt" => some (compare left right (· > ·))
  | "-ge" => some (compare left right (· ≥ ·))
  | _ => none

/-- What a reader of conditions answers: a truth value, the last text it has read, and those behind
it. -/
abbrev Reading := Except (List Char) (Bool × List Char × List (List Char))

mutual

/-- Read conditions of which one has to hold. The number bounds the steps. -/
def either (c : Context) : Nat → List (List Char) → Reading
  | 0, _ => .error "too deep".toList
  | fuel + 1, texts =>
    match both c fuel texts with
    | .ok (x, _, ['-', 'o'] :: rest) =>
      match either c fuel rest with
      | .ok (y, last, rest) => .ok (x || y, last, rest)
      | .error text => .error text
    | other => other

/-- Read conditions that all have to hold. -/
def both (c : Context) : Nat → List (List Char) → Reading
  | 0, _ => .error "too deep".toList
  | fuel + 1, texts =>
    match negated c fuel texts with
    | .ok (x, _, ['-', 'a'] :: rest) =>
      match both c fuel rest with
      | .ok (y, last, rest) => .ok (x && y, last, rest)
      | .error text => .error text
    | other => other

/-- Read a condition that may be negated. -/
def negated (c : Context) : Nat → List (List Char) → Reading
  | 0, _ => .error "too deep".toList
  | fuel + 1, texts =>
    match texts with
    | [['!']] => .ok (true, ['!'], [])
    | ['!'] :: rest =>
      match negated c fuel rest with
      | .ok (x, last, rest) => .ok (!x, last, rest)
      | .error text => .error text
    | _ => single c fuel texts

/-- Read a single condition. -/
def single (c : Context) : Nat → List (List Char) → Reading
  | 0, _ => .error "too deep".toList
  | fuel + 1, texts =>
    match texts with
    | [] => .error "argument expected".toList
    | left :: operator :: right :: rest =>
      match binary? (String.ofList operator) left right with
      | some (.ok value) => .ok (value, right, rest)
      | some (.error text) => .error text
      | none => other fuel left (operator :: right :: rest)
    | left :: rest => other fuel left rest
where
  /-- Read a condition that is no comparison. -/
  other (fuel : Nat) (left : List Char) (rest : List (List Char)) : Reading :=
    if left = ['('] ∧ !rest.isEmpty then
      match either c fuel rest with
      | .ok (value, _, [')'] :: rest) => .ok (value, [')'], rest)
      | .ok _ => .error "closing paren expected".toList
      | .error text => .error text
    else
      match rest with
      | [] => .ok (!left.isEmpty, left, [])
      | text :: rest =>
        match unary? c (String.ofList left) text with
        | some value => .ok (value, text, rest)
        | none => .ok (!left.isEmpty, left, text :: rest)

end

/-- **The value of a condition**, or what is wrong with it. -/
def evaluate (c : Context) (texts : List (List Char)) : Except (List Char) Bool :=
  if texts.isEmpty then .ok false
  else
    match either c (5 * texts.length + 5) texts with
    | .ok (value, _, []) => .ok value
    | .ok (_, last, _ :: _) => .error (last ++ ": unexpected operator".toList)
    | .error text => .error text

end Condition

/-! ### The names of signals -/

/-- The names and the numbers of signals. -/
def signalNames : List (String × Nat × Signal) :=
  [("HUP", 1, .hangup), ("INT", 2, .interrupt), ("QUIT", 3, .quit), ("KILL", 9, .kill),
    ("USR1", 10, .user1), ("USR2", 12, .user2), ("PIPE", 13, .pipe), ("ALRM", 14, .alarm),
    ("TERM", 15, .terminate), ("CHLD", 17, .child), ("CONT", 18, .continue), ("TSTP", 20, .stop),
    ("WINCH", 28, .windowChange)]

/-- The signal of a name or a number. -/
def signalOf? (text : List Char) : Option Signal :=
  let bare := if Text.hasPrefix ['S', 'I', 'G'] text then text.drop 3 else text
  (signalNames.find? fun (name, number, _) =>
    name.toList = bare || some number = Shell.decimal? text).map (·.2.2)

namespace Turn

/-! ### Reading -/

/-- Cut a line into as many values as there are names; the last has what is left. -/
def cutLine (separators : List Char) : Nat → List Char → List (List Char)
  | 0, _ => []
  | 1, text =>
    [((text.dropWhile separators.contains).reverse.dropWhile fun c =>
      separators.contains c && isBlank c).reverse]
  | count + 2, text =>
    let text := text.dropWhile fun c => separators.contains c && isBlank c
    let value := text.takeWhile (!separators.contains ·)
    let rest := text.drop value.length
    let rest := rest.dropWhile fun c => separators.contains c && isBlank c
    let rest :=
      match rest with
      | c :: more => if separators.contains c && !isBlank c then more else rest
      | [] => []
    value :: cutLine separators (count + 1) rest

/-- The text of a line that was read: a backslash stands for the character behind it. -/
def unescapeLine : List Char → List Char
  | '\\' :: c :: rest => c :: unescapeLine rest
  | c :: rest => c :: unescapeLine rest
  | [] => []

/-- Set variables to the parts of a line. -/
def assignLine (t : Turn) (names : List (List Char)) (raw : Bool) (line : Bytes) : Turn :=
  let text := Utf8.lossy line
  let text := if raw then text else unescapeLine text
  let values := cutLine t.shell.scope.separators names.length text
  t.mapScope fun scope =>
    (names.zip values).foldl (fun scope (name, value) => scope.set name value) scope

/-! ### Variables -/

/-- A setting as it is given to some commands: a name, perhaps with a value. -/
def settingOf (text : List Char) : List Char × Option (List Char) :=
  let name := text.takeWhile (· ≠ '=')
  (name, if name.length < text.length then some (text.drop (name.length + 1)) else none)

/-- Set a variable if there is a value for it. -/
def setOptional (t : Turn) (setting : List Char × Option (List Char)) : Turn :=
  match setting with
  | (name, some value) => t.mapScope (·.set name value)
  | (_, none) => t

/-- Let programs be given variables. -/
def share (t : Turn) (arguments : List (List Char)) : Turn :=
  arguments.foldl
    (fun t argument =>
      let setting := settingOf argument
      (t.setOptional setting).mapScope (·.share setting.1))
    t

/-- Let variables have values of their own up to the end of the function. -/
def makeLocal (t : Turn) (arguments : List (List Char)) : Turn :=
  arguments.foldl
    (fun t argument =>
      let (name, value) := settingOf argument
      let old := t.shell.scope.bindings.lookup name
      let isEnd : Task → Bool
        | .endCall _ => true
        | _ => false
      let inside := t.shell.tasks.takeWhile (!isEnd ·)
      let rest := t.shell.tasks.drop inside.length
      let t :=
        { t with
          shell := { t.shell with tasks := inside ++ Task.restoreVariable name old :: rest } }
      t.setOptional (name, value))
    t

/-! ### Where to go on -/

/-- Whether a task goes round a loop. -/
def isLoop : Task → Bool
  | .again _ _ _ => true
  | .each _ _ _ => true
  | .check _ _ _ => true
  | _ => false

/-- Leave so many loops. -/
def leaveLoops : Nat → Turn → Turn
  | 0, t => t
  | count + 1, t =>
    match t.dropTo? isLoop with
    | some t => leaveLoops count { t with shell := { t.shell with tasks := t.shell.tasks.drop 1 } }
    | none => t

/-- Go on with the next round of a loop, leaving some loops inside it. -/
def nextRound (t : Turn) (count : Nat) : Turn :=
  let t := leaveLoops (count - 1) t
  (t.dropTo? isLoop).getD t

/-- Go back from a function, or from a script. -/
def goBack (t : Turn) (status : Nat) : Turn :=
  let isEnd : Task → Bool
    | .endCall _ => true
    | _ => false
  let t := t.setStatus status
  (t.dropTo? isEnd).getD { t with shell := { t.shell with tasks := [.leave] } }

/-! ### The directory -/

/-- Go to another directory. -/
def changeDirectory (t : Turn) (arguments : List (List Char)) : Turn :=
  let scope := t.shell.scope
  let target :=
    match arguments with
    | [] => (scope.get? "HOME".toList).getD []
    | ['-'] :: _ => (scope.get? "OLDPWD".toList).getD []
    | name :: _ => name
  let name := if target.isEmpty then ['.'] else target
  match t.station.files.find t.process.directory name with
  | .ok (place, .directory) =>
    let before := FileSystem.placeText t.process.directory
    let after := FileSystem.placeText place
    let t := { t with process := { t.process with directory := place } }
    let t := t.mapScope fun scope => (scope.set "OLDPWD".toList before).set "PWD".toList after
    let t := ["OLDPWD", "PWD"].foldl (fun t name => t.mapScope (·.share name.toList)) t
    if arguments.head? = some ['-'] then t.say 1 (lineOf after) 0 else t.setStatus 0
  | _ => t.complain ("cd: can't cd to ".toList ++ target) 2

/-! ### Signals -/

/-- The name of what a trap is for. -/
def eventName (event : Option Signal) : List Char :=
  match event with
  | none => "EXIT".toList
  | some signal => ((signalNames.find? (·.2.2 = signal)).map (·.1.toList)).getD []

/-- A text between quotation marks, so that it is read as one word. -/
def quoteText (text : List Char) : List Char :=
  '\'' :: Text.replaceAll ['\''] "'\"'\"'".toList text ++ ['\'']

/-- A trap as a command that sets it. -/
def trapLine (trap : Option Signal × List Char) : Bytes :=
  lineOf ("trap -- ".toList ++ quoteText trap.2 ++ ' ' :: eventName trap.1)

/-- Say what is done when signals come. -/
def setTraps (t : Turn) (arguments : List (List Char)) : Turn :=
  let arguments := if arguments.head? = some ['-', '-'] then arguments.drop 1 else arguments
  match arguments with
  | [] => t.say 1 (t.shell.traps.reverse.flatMap trapLine) 0
  | action :: events =>
    let isReset := events.isEmpty || action = ['-'] || (Shell.decimal? action).isSome
    let events :=
      if events.isEmpty || (Shell.decimal? action).isSome then arguments else events
    let set (t : Turn) (event : List Char) : Turn :=
      let key? : Option (Option Signal) :=
        if event = ['0'] ∨ event = "EXIT".toList then some none else (signalOf? event).map some
      match key? with
      | none => t.complain ("trap: ".toList ++ event ++ ": bad trap".toList) 1
      | some key =>
        let others := t.shell.traps.filter (·.1 ≠ key)
        let ignored := t.process.ignored.filter fun signal => some signal ≠ key
        let (traps, ignored) :=
          if isReset then (others, ignored)
          else if action.isEmpty then (others, ignored ++ key.toList)
          else ((key, action) :: others, ignored)
        { t with
          shell := { t.shell with traps }
          process := { t.process with ignored } }
    events.foldl set (t.setStatus 0)

/-- Send signals. A signal to the shell itself comes once it is put back. -/
def sendSignals (t : Turn) (arguments : List (List Char)) : Turn :=
  let (signal?, targets) :=
    match arguments with
    | ['-', 's'] :: name :: rest => (signalOf? name, rest)
    | ['-', '-'] :: rest => (some .terminate, rest)
    | ('-' :: name) :: rest => (signalOf? name, rest)
    | _ => (some .terminate, arguments)
  let isCheck := arguments.head? = some ['-', '0']
  let numbers := targets.filterMap Shell.decimal?
  let missing := numbers.filter fun pid => pid ≠ 0 ∧ !t.station.isAlive pid
  if isCheck then
    match missing with
    | [] => t.setStatus 0
    | _ => t.complain "kill: No such process".toList 1
  else
    match signal? with
    | none => t.complain "kill: bad signal".toList 2
    | some signal =>
      let t :=
        if missing.isEmpty then t.setStatus 0 else t.complain "kill: No such process".toList 1
      t.push [.send signal numbers]

/-- Wait for processes, or for all that were started, or for a signal. -/
def waitFor (t : Turn) (arguments : List (List Char)) : Turn :=
  match arguments with
  | [] =>
    let children := t.station.processes.filter fun p => p.parent = t.process.pid
    t.push [.awaitOrSignal (children.map (·.pid)) (some 0)]
  | _ => t.push [.awaitOrSignal (arguments.filterMap Shell.decimal?) none]

/-! ### Options -/

/-- The letter of an option by its name. -/
def optionLetter? (name : List Char) : Option Char :=
  match String.ofList name with
  | "errexit" => some 'e'
  | "nounset" => some 'u'
  | "xtrace" => some 'x'
  | "noglob" => some 'f'
  | "verbose" => some 'v'
  | _ => none

/-- Turn options on or off. -/
def setOptions (t : Turn) (on : Bool) (letters : List Char) : Turn :=
  t.mapScope fun scope =>
    let others := scope.options.filter (!letters.contains ·)
    { scope with options := if on then others ++ letters else others }

/-- Change the options of the shell, and its arguments if some are given. -/
def setArguments : List (List Char) → Turn → Turn
  | [], t => t
  | ['-', '-'] :: rest, t => t.mapScope ({ · with arguments := rest })
  | ['-', 'o'] :: name :: rest, t =>
    setArguments rest (t.setOptions true (optionLetter? name).toList)
  | ['+', 'o'] :: name :: rest, t =>
    setArguments rest (t.setOptions false (optionLetter? name).toList)
  | ('-' :: c :: letters) :: rest, t => setArguments rest (t.setOptions true (c :: letters))
  | ('+' :: c :: letters) :: rest, t => setArguments rest (t.setOptions false (c :: letters))
  | operands, t => t.mapScope ({ · with arguments := operands })

/-- The names of the commands of the shell itself. -/
def builtinNames : List String :=
  [":", "true", "false", "echo", "printf", "test", "[", "read", "cd", "chdir", "pwd", "exit",
    "eval", ".", "set", "shift", "export", "readonly", "unset", "local", "trap", "return", "break",
    "continue", "wait", "kill", "umask", "exec", "command", "type"]

/-- The commands whose settings stay. -/
def specialNames : List String :=
  [":", "exit", "eval", ".", "set", "shift", "export", "readonly", "unset", "trap", "return",
    "break", "continue", "exec"]

/-- Tell what a command stands for. -/
def tellCommand (t : Turn) (name : List Char) : Turn :=
  let searchPath := (t.shell.scope.get? "PATH".toList).getD defaultSearchPath
  if builtinNames.contains (String.ofList name) ∨ (t.shell.functions.lookup name).isSome then
    t.say 1 (lineOf name) 0
  else
    match locate? t.station.files t.process.directory searchPath name with
    | some path =>
      if t.station.files.isProgram t.process.directory path then t.say 1 (lineOf path) 0
      else t.setStatus 127
    | none => t.setStatus 127

/-- What a name stands for, in words. -/
def kindOf (t : Turn) (name : List Char) : Option String :=
  let searchPath := (t.shell.scope.get? "PATH".toList).getD defaultSearchPath
  let word := String.ofList name
  if Shell.reservedWords.contains name then some " is a shell keyword"
  else if specialNames.contains word then some " is a special shell builtin"
  else if (t.shell.functions.lookup name).isSome then some " is a shell function"
  else if builtinNames.contains word then some " is a shell builtin"
  else
    match locate? t.station.files t.process.directory searchPath name with
    | some path =>
      if t.station.files.isProgram t.process.directory path then
        some (" is " ++ String.ofList path)
      else none
    | none => none

/-- Tell in words what names stand for. -/
def tellKinds (t : Turn) (names : List (List Char)) : Turn :=
  let lines := names.flatMap fun name =>
    lineOf (name ++ ((t.kindOf name).getD ": not found").toList)
  t.say 1 lines (if names.all fun name => (t.kindOf name).isSome then 0 else 127)

/-- **A command of the shell itself**, its name being `name`; nothing if there is no such
command. -/
def builtin? (t : Turn) (name : String) (arguments : List (List Char)) : Option Turn :=
  let count := (arguments.head?.bind Shell.decimal?).getD 1
  let context : Condition.Context :=
    { files := t.station.files
      directory := t.process.directory
      channels := t.process.channels }
  let test (texts : List (List Char)) : Turn :=
    match Condition.evaluate context texts with
    | .ok value => t.setStatus (if value then 0 else 1)
    | .error text => t.complain (name.toList ++ ": ".toList ++ text) 2
  match name with
  | ":" => some (t.setStatus 0)
  | "true" => some (t.setStatus 0)
  | "false" => some (t.setStatus 1)
  | "umask" => some (t.setStatus 0)
  | "echo" => some (t.say 1 (Shell.Format.echo arguments) 0)
  | "printf" =>
    match arguments with
    | [] => some (t.complain "printf: usage: printf format [arg ...]".toList 2)
    | format :: rest =>
      let written := Shell.Format.printf format rest
      let t := t.say 1 written.text (if written.faults.isEmpty then 0 else 1)
      some (written.faults.reverse.foldl
        (fun t fault => t.complain ("printf: ".toList ++ fault) 1) t)
  | "test" => some (test arguments)
  | "[" =>
    match arguments.reverse with
    | [']'] :: texts => some (test texts.reverse)
    | _ => some (t.complain "[: missing ]".toList 2)
  | "read" =>
    let (found, names) := split "p" arguments
    let names := if names.isEmpty then ["REPLY".toList] else names
    let shown := Utf8.encode ((found.lookup 'p').getD [])
    some (t.push [.write 2 shown 0, .readLine names (found.lookup 'r').isSome []])
  | "cd" => some (t.changeDirectory arguments)
  | "chdir" => some (t.changeDirectory arguments)
  | "pwd" => some (t.say 1 (lineOf (FileSystem.placeText t.process.directory)) 0)
  | "exit" =>
    let status := ((arguments.head?.bind Shell.decimal?).map (· % 256)).getD t.status
    some { t.setStatus status with shell := { (t.setStatus status).shell with tasks := [.leave] } }
  | "eval" =>
    some ((t.setStatus 0).push [.script (Shell.tokens (Text.join [' '] arguments))])
  | "." =>
    match t.station.files.readFrom t.process.directory (arguments.head?.getD []) with
    | .ok content => some (t.push [.script (Shell.tokens (Utf8.lossy content))])
    | .error _ =>
      some (t.abort t.shell.line
        (".: cannot open ".toList ++ arguments.head?.getD [] ++ ": No such file".toList))
  | "set" => some ((setArguments arguments t).setStatus 0)
  | "shift" =>
    if t.shell.scope.arguments.length < count then
      some (t.abort t.shell.line "shift: can't shift that many".toList)
    else
      some ((t.mapScope fun s => { s with arguments := s.arguments.drop count }).setStatus 0)
  | "export" => some ((t.share (arguments.filter (· ≠ ['-', 'p']))).setStatus 0)
  | "readonly" =>
    some ((arguments.foldl (fun t text => t.setOptional (settingOf text)) t).setStatus 0)
  | "unset" =>
    let (found, names) := split "" arguments
    let functions := t.shell.functions.filter fun (name, _) => !names.contains name
    let isFunction := (found.lookup 'f').isSome
    let t :=
      if isFunction then { t with shell := { t.shell with functions } }
      else t.mapScope fun scope => names.foldl Shell.Scope.unset scope
    some (t.setStatus 0)
  | "local" => some ((t.makeLocal arguments).setStatus 0)
  | "trap" => some (t.setTraps arguments)
  | "return" => some (t.goBack ((arguments.head?.bind Shell.decimal?).getD t.status))
  | "break" => some (leaveLoops count (t.setStatus 0))
  | "continue" => some ((t.setStatus 0).nextRound count)
  | "wait" => some (t.waitFor arguments)
  | "kill" => some (t.sendSignals arguments)
  | "exec" => some (t.setStatus 0)
  | "type" => some (t.tellKinds arguments)
  | _ => none

end Turn

end GlassTty.Computer
