import GlassTty.Computer.Builtin

/-!
# Running commands

How a shell goes on. Its next task is done (`GlassTty.Computer.Turn.perform?`): a command is taken
apart into smaller tasks (`GlassTty.Computer.Turn.run`), and a simple command is a function, a
command of the shell itself or a program that another process runs. A task that has to wait is not
done, and comes up again.

Between two tasks the shell acts on the signals that have come (`GlassTty.Computer.Turn.heed`),
except while it waits for another process.
-/

namespace GlassTty.Computer

namespace Turn

/-! ### Simple commands -/

/-- The tasks that put back variables. -/
def restoring (t : Turn) (set : List (List Char × List Char)) : List Task :=
  set.map fun (name, _) => .restoreVariable name (t.shell.scope.bindings.lookup name)

/-- Set variables. -/
def assign (t : Turn) (set : List (List Char × List Char)) : Turn :=
  t.mapScope fun scope => set.foldl (fun scope (name, value) => scope.set name value) scope

/-- Run a program in place of the shell. -/
def replaceBy (t : Turn) (arguments : List (List Char)) (set : List (List Char × List Char)) :
    Turn :=
  let process := { t.process with channels := t.passedChannels }
  match t.launch process arguments (t.environmentWith set) with
  | .ok (body, station) => { t with station, process, successor := some body }
  | .error (text, status) =>
    let message := "exec: ".toList ++ arguments.head?.getD [] ++ ": ".toList ++ text.toList
    { t with
      shell :=
        { t.shell with
          tasks := [.write 2 (t.messageText t.shell.line message) status, .leave] } }

/-- **Run a command with its arguments**, its files being attached; `old` is what was attached
before. -/
def runNamed (t : Turn) (old : Channels) (name : List Char) (arguments : List (List Char))
    (set : List (List Char × List Char)) (redirected : Bool) : Turn :=
  let word := String.ofList name
  let t := if redirected then t.push [.restore old] else t
  if word = "exec" then
    match arguments with
    | [] => (t.assign set).setStatus 0
    | _ => t.replaceBy arguments set
  else
    match t.shell.functions.lookup name with
    | some body =>
      let before := t.shell.scope.arguments
      let t := t.push (.endCall before :: t.restoring set)
      ((t.assign set).mapScope ({ · with arguments })).push [.run body]
    | none =>
      if builtinNames.contains word then
        let t := if specialNames.contains word then t else t.push (t.restoring set)
        let t := { t with shell := { t.shell with command := name } }
        ((t.assign set).builtin? word arguments).getD t
      else t.startProgram (name :: arguments) set

/-- Show a command before it is run, if `before` asks for that. -/
def trace (before t : Turn) (set : List (List Char × List Char)) (texts : List (List Char)) :
    Turn :=
  if before.has 'x' ∧ t.successor.isNone then
    let shown := set.map (fun (name, value) => name ++ '=' :: value) ++ texts
    let lead := (before.shell.scope.get? "PS4".toList).getD []
    t.say 2 (lineOf (lead ++ Text.join [' '] shown)) t.status
  else t

/-- Run a simple command. If the output of another command was put in, its outcome is that of a
command without a name. -/
def runSimple (t : Turn) (filled : Option Nat) (line : Nat)
    (assignments : List (List Char × Shell.Word)) (words : List Shell.Word)
    (redirects : List Shell.Redirect) : Turn :=
  let t := { t with shell := { t.shell with line } }
  t.expand (t.expandWords words) fun t texts =>
  t.expand (expandTargets redirects) fun t targets =>
  let old := t.process.channels
  match attach? targets t with
  | .error text =>
    let isSpecial := texts.head?.any fun name => specialNames.contains (String.ofList name)
    if isSpecial then t.abort line text else t.complain text 2
  | .ok t =>
    let scope := t.shell.scope
    t.expand (expandValues assignments) fun t set =>
    match texts with
    | [] =>
      let t := { t.setStatus (filled.getD 0) with process := { t.process with channels := old } }
      t.trace t set []
    | name :: arguments =>
      let (name, arguments) :=
        match String.ofList name, arguments with
        | "command", ['-', 'v'] :: _ => (name, arguments)
        | "command", other :: rest => (other, rest)
        | _, _ => (name, arguments)
      let t := t.mapScope fun _ => scope
      let traced (after : Turn) : Turn := t.trace after set texts
      let redirected := !redirects.isEmpty && name ≠ "exec".toList
      if name = "command".toList then
        let t := if redirected then t.push [.restore old] else t
        match arguments with
        | _ :: target :: _ => traced (t.tellCommand target)
        | _ => t.setStatus 0
      else traced (t.runNamed old name arguments set redirected)

/-! ### Compound commands -/

/-- Start the commands of a pipeline, each reading what the one before writes. -/
def startPipeline (t : Turn) : Channels → List Shell.Command → List Nat × Turn
  | _, [] => ([], t)
  | channels, [last] =>
    let (pid, t) := t.forkShell channels t.process.ignored [.run last]
    ([pid], t)
  | channels, command :: rest =>
    let (pipe, t) := t.newPipe
    let (pid, t) :=
      t.forkShell (channels.attach 1 (.pipeStart pipe)) t.process.ignored [.run command]
    let input := (t.passedChannels).attach 0 (.pipeEnd pipe)
    let (pids, t) := startPipeline t input rest
    (pid :: pids, t)

/-- Start a command that is not waited for. -/
def startBackground (t : Turn) (body : Shell.Command) : Turn :=
  let channels := t.passedChannels
  let channels := if t.shell.interactive then channels else channels.attach 0 .sink
  let ignored :=
    if t.shell.interactive then t.process.ignored
    else t.process.ignored ++ [.interrupt, .quit]
  let (pid, t) := t.forkShell channels ignored [.run body]
  (t.mapScope ({ · with lastBackground := some pid })).setStatus 0

/-- The body behind the first pattern that stands for a text. -/
def findClause (text : List Char) :
    List (List Shell.Word × Shell.Command) → Shell.Expansion (Option Shell.Command)
  | [] => return none
  | (patterns, body) :: rest => do
    let found ← patterns.anyM fun pattern => do
      return (← Shell.expandPattern pattern).matchesAll text
    if found then return some body else findClause text rest

/-- Whether the failure of a command ends a shell that ends with the first failure. -/
def mayFail : Shell.Command → Bool
  | .simple _ _ _ _ => true
  | .pipeline _ => true
  | .subshell _ => true
  | .redirected _ _ => true
  | _ => false

/-- Whether a task asks for the outcome of the command before it. -/
def asksForOutcome : Task → Bool
  | .ifOk _ => true
  | .ifFailed _ => true
  | .invert => true
  | .branch _ _ => true
  | .check _ _ _ => true
  | _ => false

/-- **Take a command apart.** If the output of another command was put in, `filled` is its
outcome. -/
def run (t : Turn) (filled : Option Nat) (command : Shell.Command) : Turn :=
  let t := if t.has 'e' ∧ mayFail command then t.push [.endIfFailed] else t
  match command with
  | .nothing => t
  | .simple line assignments words redirects => t.runSimple filled line assignments words redirects
  | .redirected body redirects =>
    t.expand (expandTargets redirects) fun t targets =>
    let old := t.process.channels
    match attach? targets t with
    | .ok t => t.push [.run body, .restore old]
    | .error text => t.complain text 2
  | .pipeline commands =>
    let (pids, t) := t.startPipeline t.passedChannels commands
    t.push [.await pids]
  | .negated body => t.push [.run body, .invert]
  | .andThen first second => t.push [.run first, .ifOk second]
  | .orElse first second => t.push [.run first, .ifFailed second]
  | .sequence first second => t.push [.run first, .run second]
  | .background body => t.startBackground body
  | .subshell body =>
    let (pid, t) := t.forkShell t.passedChannels t.process.ignored [.run body]
    t.push [.await [pid]]
  | .choose condition yes no => t.push [.run condition, .branch yes no]
  | .loop untilTrue condition body => t.push [.again untilTrue condition body]
  | .forEach name none body =>
    (t.setStatus 0).push [.each name t.shell.scope.arguments body]
  | .forEach name (some words) body =>
    t.expand (t.expandWords words) fun t values => (t.setStatus 0).push [.each name values body]
  | .byPattern word clauses =>
    t.expand (Shell.expandText word) fun t text =>
    t.expand (findClause text clauses) fun t body? =>
    match body? with
    | some body => t.push [.run body]
    | none => t.setStatus 0
  | .define name body =>
    let others := t.shell.functions.filter (·.1 ≠ name)
    { t with shell := { t.shell with functions := (name, body) :: others } }.setStatus 0

/-- Run a command, after the output that it asks for is put in. -/
def runOrAsk (t : Turn) (filled : Option Nat) (command : Shell.Command) : Turn :=
  match command.pendingOutput? with
  | none => t.run filled command
  | some script =>
    let (pipe, t) := t.newPipe
    let channels := (t.passedChannels).attach 1 (.pipeStart pipe)
    let (pid, t) := t.forkShell channels t.process.ignored [.script (Shell.tokens script)]
    let process :=
      { t.process with channels := t.process.channels.attach (100 + pipe) (.pipeEnd pipe) }
    { t with process }.push [.collect pid pipe [] command]

/-! ### Waiting -/

/-- What is written about a program that a signal has ended. -/
def endText? (status : Nat) : Option String :=
  match status with
  | 129 => some "Hangup"
  | 131 => some "Quit"
  | 137 => some "Killed"
  | 138 => some "User defined signal 1"
  | 140 => some "User defined signal 2"
  | 142 => some "Alarm clock"
  | 143 => some "Terminated"
  | _ => none

/-- Wait for processes; nothing if some of them still run. The outcome is that of the last, if none
is given. -/
def await? (t : Turn) (pids : List Nat) (outcome : Option Nat) : Option Turn :=
  let found := pids.map t.station.process?
  if found.any fun p? => p?.any (!·.hasEnded) then none
  else
    let status :=
      match found.getLast? with
      | some (some p) => p.outcome?.getD 0
      | some none => 127
      | none => t.status
    let processes := t.station.processes.filter fun p => !pids.contains p.pid
    let t := { t with station := { t.station with processes } }
    match (if pids.isEmpty then none else endText? status) with
    | some text => some (t.say 2 (utf8Bytes (text ++ "\n")) (outcome.getD status))
    | none => some (t.setStatus (outcome.getD status))

/-- Read the output of a process, and put it into a command. -/
def collect? (t : Turn) (pid pipe : Nat) (soFar : Bytes) (command : Shell.Command) : Option Turn :=
  match t.station.read (.pipeEnd pipe) 4096 with
  | (.data bytes, _, station) =>
    some ({ t with station }.push [.collect pid pipe (soFar ++ bytes) command])
  | (.blocked, _, _) => none
  | (_, _, station) =>
    match t.station.process? pid with
    | some p =>
      match p.outcome? with
      | none => none
      | some status =>
        let text := Utf8.lossy (soFar.reverse.dropWhile (· = 0x0A)).reverse
        let processes := station.processes.filter (·.pid ≠ pid)
        let station := { station with processes, pipes := station.pipes.filter (·.1 ≠ pipe) }
        let process :=
          { t.process with channels := t.process.channels.detach (100 + pipe) }
        some ({ t with station, process }.push
          [.runFilled (command.withOutput (text.filter (· ≠ '\x00'))) status])
    | none => some ({ t with station }.setStatus 127)

/-! ### Reading and writing -/

/-- Say that a command of the shell could not write. -/
def writeFault (t : Turn) (descriptor : Nat) : Turn :=
  if descriptor = 2 then t.setStatus 1
  else
    let name := t.shell.command ++ ": ".toList
    t.complain (name ++ name ++ "I/O error".toList) 1

/-- Write bytes; nothing if there is no room for any. -/
def write? (t : Turn) (descriptor : Nat) (bytes : Bytes) (status : Nat) : Option Turn :=
  if bytes.isEmpty then some (t.setStatus status)
  else
    match t.process.channel? descriptor with
    | none => some (t.writeFault descriptor)
    | some channel =>
      match t.station.write channel bytes with
      | (.left left, station) =>
        if left.isEmpty then some ({ t with station }.setStatus status)
        else if left.length = bytes.length then none
        else some ({ t with station }.push [.write descriptor left status])
      | (.broken, _) => some (t.writeFault descriptor)
      | (.failed, _) => some (t.writeFault descriptor)

/-- Take the signals that what is read has brought into account: the process may have changed. -/
def refreshed (t : Turn) (station : Station) : Turn :=
  match station.process? t.process.pid with
  | some p =>
    match p.body with
    | .shell shell => { t with station, shell := { t.shell with arrived := shell.arrived } }
    | body => { t with station, process := p, successor := some body }
  | none => { t with station }

/-- Read one byte of the input. -/
def readByte? (t : Turn) : Option (Option UInt8 × Turn) :=
  match t.process.channel? 0 with
  | none => some (none, t)
  | some channel =>
    match t.station.read channel 1 with
    | (.data bytes, channel, station) =>
      let process := { t.process with channels := t.process.channels.attach 0 channel }
      some (bytes.head?, { t with process }.refreshed station)
    | (.blocked, _, _) => none
    | (_, _, station) => some (none, t.refreshed station)

/-- Read one more byte of a line into variables. -/
def readLine? (t : Turn) (names : List (List Char)) (raw : Bool) (soFar : Bytes) : Option Turn :=
  match t.readByte? with
  | none => none
  | some (none, t) => some ((t.assignLine names raw soFar).setStatus 1)
  | some (some byte, t) =>
    let backslashes := (soFar.reverse.takeWhile (· = 0x5C)).length
    let continues := !raw && backslashes % 2 = 1
    if byte ≠ 0x0A then some (t.push [.readLine names raw (soFar ++ [byte])])
    else if continues then some (t.push [.readLine names raw soFar.dropLast])
    else some ((t.assignLine names raw soFar).setStatus 0)

/-- The text of a prompt: what stands for something else in it is replaced. -/
def promptText (t : Turn) (name : String) : List Char :=
  let text := (t.shell.scope.get? name.toList).getD []
  match Shell.parts? .here text with
  | none => text
  | some (word, _) =>
    match (Shell.expandText word).run t.shell.scope with
    | .ok (shown, _) => shown
    | .error _ => text

/-- Show the prompt, and read a command. -/
def ask (t : Turn) (soFar : List Char) : Turn :=
  let t := t.push [.hear soFar]
  if t.shell.interactive then
    let text := t.promptText (if soFar.isEmpty then "PS1" else "PS2")
    t.push [.write 2 (Utf8.encode text) t.status]
  else t

/-- Read one more line of a command, and run it if it is complete. -/
def hear? (t : Turn) (soFar : List Char) : Option Turn :=
  match t.process.channel? 0 with
  | none => some (t.push [.leave])
  | some channel =>
    let count := if channel = .line then 4096 else 1
    match t.station.read channel count with
    | (.blocked, _, _) => none
    | (.data bytes, channel, station) =>
      let process := { t.process with channels := t.process.channels.attach 0 channel }
      let t := { t with process }.refreshed station
      let text := soFar ++ Utf8.lossy bytes
      if text.getLast? ≠ some '\n' then some (t.push [.hear text])
      else
        let tokens := Shell.tokensAt t.shell.nextLine text
        match Shell.readComplete? tokens with
        | .error (.incomplete _) => some (t.push [.ask text])
        | .error (.unterminated _) => some (t.push [.ask text])
        | _ =>
          let nextLine := t.shell.nextLine + (text.filter (· = '\n')).length
          some ({ t with shell := { t.shell with nextLine } }.push [.script tokens, .ask []])
    | (_, _, station) =>
      let t := t.refreshed station
      let rest := [Task.script (Shell.tokensAt t.shell.nextLine soFar), .leave]
      if t.shell.interactive then some (t.push (.write 2 [0x0A] t.status :: rest))
      else some (t.push rest)

/-! ### The end -/

/-- End, after what is to be done at the end. -/
def leave (t : Turn) : Station :=
  match t.shell.traps.lookup none with
  | some action =>
    let traps := t.shell.traps.filter (·.1 ≠ none)
    let tasks := [Task.script (Shell.tokens action), .setStatus t.status, .leave]
    { t with shell := { t.shell with traps, tasks } }.commit
  | none => t.commit.finish t.process.pid t.status

/-- Read the next command of a script, and run it. -/
def nextCommand (t : Turn) (rest : List Shell.Located) : Turn :=
  match Shell.readComplete? rest with
  | .ok (none, _) => t
  | .ok (some command, []) => t.push [.run command]
  | .ok (some command, rest) => t.push [.run command, .script rest]
  | .error fault =>
    let lastLine := (rest.getLast?.map (·.line)).getD 1
    let (line, text) := fault.message lastLine
    t.abort line text

/-- Send a signal to processes. -/
def send (t : Turn) (signal : Signal) (pids : List Nat) : Station :=
  pids.foldl
    (fun st pid => if pid = 0 then st.signalGroup signal else st.signal signal pid) t.commit

/-! ### Tasks -/

/-- **Do a task**, the others being left in the shell; nothing if it has to wait. -/
def perform? (t : Turn) (task : Task) : Option Station :=
  let done (t : Turn) : Option Station := some t.commit
  match task with
  | .script rest => done (t.nextCommand rest)
  | .ask soFar => done (t.ask soFar)
  | .hear soFar => (t.hear? soFar).map commit
  | .run command => done (t.runOrAsk none command)
  | .runFilled command status => done (t.runOrAsk (some status) command)
  | .endIfFailed =>
    done
      (if t.status = 0 ∨ t.shell.tasks.any asksForOutcome then t
        else { t with shell := { t.shell with tasks := [.leave] } })
  | .ifOk command => done (if t.status = 0 then t.push [.run command] else t)
  | .ifFailed command => done (if t.status = 0 then t else t.push [.run command])
  | .invert => done (t.setStatus (if t.status = 0 then 1 else 0))
  | .branch yes no =>
    done
      (if t.status = 0 then t.push [.run yes]
        else
          match no with
          | .nothing => t.setStatus 0
          | _ => t.push [.run no])
  | .again untilTrue condition body =>
    done (t.push [.run condition, .check untilTrue condition body])
  | .check untilTrue condition body =>
    done
      (if (t.status = 0) = untilTrue then t.setStatus 0
        else t.push [.run body, .again untilTrue condition body])
  | .each name values body =>
    match values with
    | [] => done t
    | value :: rest =>
      done ((t.mapScope (·.set name value)).push [.run body, .each name rest body])
  | .await pids => (t.await? pids none).map commit
  | .awaitOrSignal pids outcome => (t.await? pids outcome).map commit
  | .collect pid pipe soFar command => (t.collect? pid pipe soFar command).map commit
  | .restore channels => done (t.putBack (.restore channels))
  | .restoreVariable name old => done (t.putBack (.restoreVariable name old))
  | .endCall arguments => done (t.putBack (.endCall arguments))
  | .write descriptor bytes status => (t.write? descriptor bytes status).map commit
  | .readLine names raw soFar => (t.readLine? names raw soFar).map commit
  | .setStatus status => done (t.setStatus status)
  | .send signal pids => some (t.send signal pids)
  | .leave => some t.leave

/-! ### Signals -/

/-- The outcome of a command that a signal has interrupted. -/
def signalStatus (signal : Signal) : Nat :=
  128 + ((signalNames.find? (·.2.2 = signal)).map (·.2.1)).getD 0

/-- Whether a task waits for another process, whatever comes. -/
def waitsForProcess : Task → Bool
  | .await _ => true
  | .collect _ _ _ _ => true
  | _ => false

/-- Give up what a signal interrupts. -/
def interrupted (t : Turn) (signal : Signal) : Turn :=
  match t.shell.tasks with
  | .awaitOrSignal _ _ :: rest =>
    { t with shell := { t.shell with tasks := rest } }.setStatus (signalStatus signal)
  | .readLine _ _ _ :: rest => { t with shell := { t.shell with tasks := rest } }.setStatus 1
  | .hear _ :: rest => { t with shell := { t.shell with tasks := .ask [] :: rest } }
  | _ => t

/-- **Act on the first signal that has come**, if there is one and the shell is not waiting for
another process. -/
def heed (t : Turn) : Option Turn :=
  match t.shell.arrived with
  | [] => none
  | signal :: rest =>
    if t.shell.tasks.head?.any waitsForProcess then none
    else
      let t := { t with shell := { t.shell with arrived := rest } }
      match t.shell.traps.lookup (some signal) with
      | some action =>
        let t := t.interrupted signal
        some (t.push [.script (Shell.tokens action), .setStatus t.status])
      | none =>
        some
          { t with
            shell := { t.shell with tasks := [.write 2 [0x0A] 130, .ask []] } }

/-- **One step of a shell**; nothing if it has to wait. -/
def step? (t : Turn) : Option Station :=
  match t.heed with
  | some t => some t.commit
  | none =>
    match t.shell.tasks with
    | [] => some (t.commit.finish t.process.pid t.status)
    | task :: rest => { t with shell := { t.shell with tasks := rest } }.perform? task

end Turn

end GlassTty.Computer
