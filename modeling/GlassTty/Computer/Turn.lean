import GlassTty.Computer.Program
import GlassTty.Shell.Expansion
import GlassTty.Shell.Substitution

/-!
# The turn of a shell

What a shell can do in one step: a turn has the station, the process and the shell in it
(`GlassTty.Computer.Turn`), and ends by putting them back (`GlassTty.Computer.Turn.commit`). This
file has what the commands of a shell are made of: things to be done later
(`GlassTty.Computer.Turn.push`), messages, expansion of words, files attached to commands
(`GlassTty.Computer.Turn.attach?`), and other processes (`GlassTty.Computer.Turn.forkShell`,
`GlassTty.Computer.Turn.launch`).
-/

namespace GlassTty.Computer

/-- A shell in its process at its station. -/
structure Turn where
  station : Station
  process : Process
  shell : ShellState
  /-- What the process runs from now on in place of the shell. -/
  successor : Option Body := none

namespace Turn

/-- **The station after the turn.** -/
def commit (t : Turn) : Station :=
  t.station.put { t.process with body := t.successor.getD (.shell t.shell) }

/-! ### What is to be done -/

/-- Do something next. -/
def push (t : Turn) (tasks : List Task) : Turn :=
  { t with shell := { t.shell with tasks := tasks ++ t.shell.tasks } }

/-- Change the scope. -/
def mapScope (t : Turn) (change : Shell.Scope → Shell.Scope) : Turn :=
  { t with shell := { t.shell with scope := change t.shell.scope } }

/-- The outcome of the last command. -/
def status (t : Turn) : Nat :=
  t.shell.scope.status

/-- Set the outcome. -/
def setStatus (t : Turn) (status : Nat) : Turn :=
  t.mapScope ({ · with status })

/-- Write bytes; then the outcome is as given. -/
def say (t : Turn) (descriptor : Nat) (bytes : Bytes) (status : Nat) : Turn :=
  t.push [.write descriptor bytes status]

/-- The text of a message: who it is from, the line of the script and what is wrong. -/
def messageText (t : Turn) (line : Nat) (text : List Char) : Bytes :=
  lineOf (t.shell.scope.name ++ ": ".toList ++ Shell.Scope.numberText line ++ ": ".toList ++ text)

/-- Write a message about what is wrong. -/
def complain (t : Turn) (text : List Char) (status : Nat) : Turn :=
  t.say 2 (t.messageText t.shell.line text) status

/-- Whether an option is on. -/
def has (t : Turn) (option : Char) : Bool :=
  t.shell.scope.options.contains option

/-- End the shell, after a message. -/
def abort (t : Turn) (line : Nat) (text : List Char) : Turn :=
  let rest := if t.shell.interactive then Task.ask [] else .leave
  { t with
    shell := { t.shell with tasks := [.write 2 (t.messageText line text) 2, rest] } }

/-- Put back what one of the tasks that are left out would have put back. -/
def putBack (t : Turn) (task : Task) : Turn :=
  match task with
  | .restore channels => { t with process := { t.process with channels } }
  | .restoreVariable name old =>
    t.mapScope fun scope =>
      { scope with
        bindings :=
          (scope.bindings.filter fun (other, _) => other ≠ name) ++
            (old.map (name, ·)).toList }
  | .endCall arguments => t.mapScope ({ · with arguments })
  | _ => t

/-- Leave out tasks up to the first with some property, which stays. If there is none all stay, and
that is told. -/
def dropTo? (t : Turn) (stop : Task → Bool) : Option Turn :=
  let skipped := t.shell.tasks.takeWhile (!stop ·)
  let rest := t.shell.tasks.drop skipped.length
  if rest.isEmpty then none
  else
    let t := skipped.foldl putBack t
    some { t with shell := { t.shell with tasks := rest } }

/-! ### Expansion -/

/-- The result of an expansion, or a turn in which the shell ends with a message. -/
def expand {α : Type} (t : Turn) (expansion : Shell.Expansion α) (next : Turn → α → Turn) : Turn :=
  match expansion.run t.shell.scope with
  | .ok (value, scope) => next (t.mapScope fun _ => scope) value
  | .error text => t.abort t.shell.line text

/-- The texts that words stand for. -/
def expandWords (t : Turn) (words : List Shell.Word) : Shell.Expansion (List (List Char)) :=
  Shell.expandWords t.station.files t.process.directory words

/-- The values that are assigned to variables. -/
def expandValues :
    List (List Char × Shell.Word) → Shell.Expansion (List (List Char × List Char))
  | [] => return []
  | (name, word) :: rest => do
    let value ← Shell.expandText word
    modify (·.set name value)
    return (name, value) :: (← expandValues rest)

/-! ### Files attached to commands -/

/-- What is wrong with a file that cannot be opened. -/
def openFault (name : List Char) (cause : FileError) : List Char :=
  let text := if cause = .notFound then "No such file" else reason cause
  "cannot open ".toList ++ name ++ ": ".toList ++ text.toList

/-- What is wrong with a file that cannot be made. -/
def createFault (name : List Char) (cause : FileError) : List Char :=
  let text := if cause = .notFound then "Directory nonexistent" else reason cause
  "cannot create ".toList ++ name ++ ": ".toList ++ text.toList

/-- Attach one file, or say what is wrong. -/
def attachOne? (t : Turn) (descriptor : Nat) (direction : Shell.Direction) (name : List Char) :
    Except (List Char) Turn :=
  let channels := t.process.channels
  let put (t : Turn) (channels : Channels) : Turn :=
    { t with process := { t.process with channels } }
  match direction with
  | .input =>
    match t.station.openInput t.process.directory name with
    | .ok channel => .ok (put t (channels.attach descriptor channel))
    | .error cause => .error (openFault name cause)
  | .duplicate =>
    if name = ['-'] then .ok (put t (channels.detach descriptor))
    else
      match (Shell.decimal? name).bind t.process.channel? with
      | some channel => .ok (put t (channels.attach descriptor channel))
      | none => .error (name ++ ": Bad file descriptor".toList)
  | .here => .ok (put t (channels.attach descriptor (.content (Utf8.encode name))))
  | _ =>
    match t.station.openOutput t.process.directory name (direction = .append) with
    | .ok (channel, station) =>
      .ok (put { t with station } (channels.attach descriptor channel))
    | .error cause => .error (createFault name cause)

/-- **Attach files**, one after the other, or say what is wrong. -/
def attach? : List (Nat × Shell.Direction × List Char) → Turn → Except (List Char) Turn
  | [], t => .ok t
  | (descriptor, direction, name) :: rest, t =>
    match t.attachOne? descriptor direction name with
    | .ok t => attach? rest t
    | .error text => .error text

/-- The files that redirections name. -/
def expandTargets :
    List Shell.Redirect → Shell.Expansion (List (Nat × Shell.Direction × List Char))
  | [] => return []
  | r :: rest => do
    let name ← Shell.expandText r.target
    return (r.descriptor, r.direction, name) :: (← expandTargets rest)

/-! ### Other processes -/

/-- The descriptors that other processes are given. -/
def passedChannels (t : Turn) : Channels :=
  t.process.channels.filter (·.1 < 10)

/-- A copy of the shell that does only what it is told to and then ends. -/
def copyDoing (t : Turn) (tasks : List Task) : ShellState :=
  { t.shell with
    tasks := tasks ++ [.leave]
    traps := []
    arrived := []
    interactive := false }

/-- Start another process that runs a copy of the shell. -/
def forkShell (t : Turn) (channels : Channels) (ignored : List Signal) (tasks : List Task) :
    Nat × Turn :=
  let pid := t.station.next
  let child : Process :=
    { t.process with
      pid
      parent := t.process.pid
      channels
      ignored
      body := .shell (t.copyDoing tasks) }
  (pid, { t with station := { t.station with next := pid + 1 }.add child })

/-- A number for a new pipe. -/
def newPipe (t : Turn) : Nat × Turn :=
  (t.station.next, { t with station := { t.station with next := t.station.next + 1 } })

/-- **The program that a name stands for**: what a process runs, and the station after that; else
why there is none, and an outcome. -/
def launch (t : Turn) (process : Process) (arguments : List (List Char))
    (environment : Environment) : Except (String × Nat) (Body × Station) :=
  let name := arguments.head?.getD []
  let files := t.station.files
  let searchPath := (environment.lookup "PATH".toList).getD
    ((t.shell.scope.get? "PATH".toList).getD defaultSearchPath)
  match locate? files process.directory searchPath name with
  | none => .error ("not found", 127)
  | some path =>
    match image files process.directory maxReaders path arguments with
    | .ok (program, arguments) =>
      .ok (begin maxBegun t.station process program arguments environment)
    | .error (.noProgram content) =>
      let script := Utf8.lossy content
      .ok (scriptShell process environment [] path (arguments.drop 1) script, t.station)
    | .error .notFound => .error ("not found", 127)
    | .error .notPermitted => .error ("Permission denied", 126)

/-- The environment of a program for which some variables are set. -/
def environmentWith (t : Turn) (set : List (List Char × List Char)) : Environment :=
  let inherited := t.shell.scope.environment.filter fun (name, _) => (set.lookup name).isNone
  inherited ++ set

/-- Start another process that runs a program, and wait for it. -/
def startProgram (t : Turn) (arguments : List (List Char)) (set : List (List Char × List Char)) :
    Turn :=
  let pid := t.station.next
  let child : Process :=
    { t.process with pid, parent := t.process.pid, channels := t.passedChannels }
  match t.launch child arguments (t.environmentWith set) with
  | .ok (body, station) =>
    let station := { station with next := max station.next (pid + 1) }.add { child with body }
    { t with station }.push [.await [pid]]
  | .error (text, status) =>
    t.complain (arguments.head?.getD [] ++ ": ".toList ++ text.toList) status

end Turn

end GlassTty.Computer
