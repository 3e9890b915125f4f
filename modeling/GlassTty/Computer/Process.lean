import GlassTty.Computer.Filter
import GlassTty.Host.FileSystem
import GlassTty.Shell.Command
import GlassTty.Shell.Scope
import GlassTty.Tty.Line

/-!
# Processes

A process runs a shell or one of the programs that come with the computer, in a directory and with
files attached (`GlassTty.Computer.Process`). A shell is a list of things still to be done
(`GlassTty.Computer.Task`), so that it can stop at any of them and wait; the other programs are
either something to be written, a wait, or a stream of bytes from files through a filter
(`GlassTty.Computer.Utility`).
-/

namespace GlassTty.Computer

/-- What is attached to a process. -/
inductive Channel where
  /-- The line the process is on. -/
  | line
  /-- The end of a pipe that is read. -/
  | pipeEnd (pipe : Nat)
  /-- The end of a pipe that is written. -/
  | pipeStart (pipe : Nat)
  /-- A file that is read: what is left of it. -/
  | content (rest : Bytes)
  /-- A file that is written at its end. -/
  | file (place : Place)
  | sink
  | zeros
  deriving DecidableEq, Repr, Inhabited

/-- The files attached to a process, by descriptor. -/
abbrev Channels := List (Nat × Channel)

/-! ### Programs that are no shells -/

/-- Where a stream of bytes comes from. -/
inductive Source where
  /-- The input of the process. -/
  | input
  /-- A file that is opened when its turn comes. -/
  | named (name : List Char)
  | channel (channel : Channel)
  deriving DecidableEq, Repr, Inhabited

/-- A stream of bytes. -/
structure Stream where
  /-- What messages begin with. -/
  name : String := ""
  /-- What is read, one after the other. -/
  sources : List Source
  filter : Filter
  /-- What is still to be written. -/
  pending : Bytes := []
  /-- Nothing more is read. -/
  finished : Bool := false
  /-- The outcome. -/
  status : Nat := 0
  deriving DecidableEq, Repr, Inhabited

/-- A program that is no shell. -/
inductive Utility where
  /-- Write bytes to a descriptor, and go on with something else. -/
  | say (descriptor : Nat) (bytes : Bytes) (next : Utility)
  | finish (status : Nat)
  /-- Wait until the clock shows a time. -/
  | sleepUntil (time : Nat)
  | stream (stream : Stream)
  deriving Inhabited

/-! ### Shells -/

/-- Something a shell still has to do. -/
inductive Task where
  /-- Run the commands that are left of a script. -/
  | script (rest : List Shell.Located)
  /-- Ask for a command, which goes on from the text read so far. -/
  | ask (soFar : List Char)
  /-- Read the next line of a command. -/
  | hear (soFar : List Char)
  | run (command : Shell.Command)
  /-- Run a command in which the output of another was put in, whose outcome is given. -/
  | runFilled (command : Shell.Command) (status : Nat)
  /-- Run a command if the last one succeeded. -/
  | ifOk (command : Shell.Command)
  /-- Run a command if the last one failed. -/
  | ifFailed (command : Shell.Command)
  | invert
  | branch (yes no : Shell.Command)
  /-- Go round a loop. -/
  | again (untilTrue : Bool) (condition body : Shell.Command)
  /-- Run the body of a loop, if its condition says so. -/
  | check (untilTrue : Bool) (condition body : Shell.Command)
  /-- Run the body for the values that are left. -/
  | each (name : List Char) (values : List (List Char)) (body : Shell.Command)
  /-- Wait for processes; the outcome is that of the last. -/
  | await (pids : List Nat)
  /-- The same, up to the first signal that is acted on; the outcome may be given. -/
  | awaitOrSignal (pids : List Nat) (outcome : Option Nat)
  /-- End the shell if the last command failed and nobody asks whether it has. -/
  | endIfFailed
  /-- Wait for the output of a process through a pipe, and put it into a command. -/
  | collect (pid pipe : Nat) (soFar : Bytes) (command : Shell.Command)
  /-- Put back what was attached. -/
  | restore (channels : Channels)
  /-- Put back the value of a variable. -/
  | restoreVariable (name : List Char) (old : Option Shell.Variable)
  /-- The end of a function, with the arguments to go back to. -/
  | endCall (arguments : List (List Char))
  /-- Write bytes to a descriptor; then the outcome is as given. -/
  | write (descriptor : Nat) (bytes : Bytes) (status : Nat)
  /-- Read a line into variables. -/
  | readLine (names : List (List Char)) (raw : Bool) (soFar : Bytes)
  | setStatus (status : Nat)
  /-- Send a signal to processes, zero being all. -/
  | send (signal : Signal) (pids : List Nat)
  /-- End with the last outcome. -/
  | leave

/-- A shell. -/
structure ShellState where
  scope : Shell.Scope
  functions : List (List Char × Shell.Command) := []
  tasks : List Task
  /-- What is done when a signal comes, or at the end. -/
  traps : List (Option Signal × List Char) := []
  /-- The signals that came and are to be acted on. -/
  arrived : List Signal := []
  /-- Commands are typed by someone. -/
  interactive : Bool := false
  /-- The line of the command that is run. -/
  line : Nat := 1
  /-- The line of the command that is read next. -/
  nextLine : Nat := 1
  /-- The last command of the shell itself. -/
  command : List Char := []

/-! ### Processes -/

/-- What a process runs. -/
inductive Body where
  | shell (shell : ShellState)
  /-- A program that is no shell, and what it says if nobody reads what it writes. -/
  | utility (complaint : Bytes) (utility : Utility)
  | ended (status : Nat)

/-- A process. -/
structure Process where
  pid : Nat
  parent : Nat
  directory : Place
  channels : Channels
  ignored : List Signal := []
  body : Body

namespace Process

/-- The outcome of a process that has ended. -/
def outcome? (p : Process) : Option Nat :=
  match p.body with
  | .ended status => some status
  | _ => none

/-- Whether a process has ended. -/
def hasEnded (p : Process) : Bool :=
  p.outcome?.isSome

/-- What is attached to a descriptor. -/
def channel? (p : Process) (descriptor : Nat) : Option Channel :=
  p.channels.lookup descriptor

end Process

namespace Channels

/-- Attach a channel to a descriptor. -/
def attach (cs : Channels) (descriptor : Nat) (channel : Channel) : Channels :=
  (descriptor, channel) :: cs.filter (·.1 ≠ descriptor)

/-- Attach nothing to a descriptor. -/
def detach (cs : Channels) (descriptor : Nat) : Channels :=
  cs.filter (·.1 ≠ descriptor)

/-- The channels of a process on a line. -/
def onLine : Channels :=
  [(0, .line), (1, .line), (2, .line)]

end Channels

end GlassTty.Computer
