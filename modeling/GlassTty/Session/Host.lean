import GlassTty.Host.FileSystem
import GlassTty.Session.Transfer

/-!
# What sessions need of their host

Sessions run programs, read the clock and touch files. What they need for that is a class
(`GlassTty.SessionHost`): a state, and operations on it that say what came of them. Nothing is
assumed of the outcomes. A child is named by its number (`GlassTty.ChildId`), which whoever asks for
it chooses.
-/

namespace GlassTty

/-- A program that was started on a pseudo-terminal of its own. -/
abbrev ChildId := Nat

/-- What is to be run, and how. -/
structure SpawnRequest where
  arguments : List String
  environment : List (String × String)
  /-- The directory to begin in, if it is there. -/
  directory : Option String
  height : Nat
  width : Nat
  deriving DecidableEq, Repr, Inhabited

/-- What came of one attempt to read the output of a child. -/
inductive ReadOutcome where
  | data (bytes : Bytes)
  | wouldBlock
  /-- All output was read and no more will come. -/
  | ended
  | failed
  deriving DecidableEq, Repr, Inhabited

/-- A host that sessions run on. Times are in nanoseconds. -/
class SessionHost (σ : Type) where
  /-- Read the clock. -/
  clock : σ → Nat × σ
  /-- Make up a secret. -/
  secret : σ → String × σ
  /-- A variable of the environment. -/
  setting? : σ → String → Option String
  files : σ → FileSystem
  withFiles : σ → FileSystem → σ
  /-- Start a child under a new number, or say why it cannot be started. -/
  spawn : σ → ChildId → SpawnRequest → Option String × σ
  /-- Wait for output of some children, at most the given time, and tell which of them have some. -/
  poll : σ → List ChildId → Nat → List ChildId × σ
  /-- Read what a child has written. -/
  read : σ → ChildId → ReadOutcome × σ
  /-- Type bytes for a child, all of them, or say what went wrong. -/
  write : σ → ChildId → Bytes → Option WriteError × σ
  /-- Set the size of a child's terminal to the given height and width, and tell whether that
  worked. -/
  resize : σ → ChildId → Nat → Nat → Bool × σ
  /-- The directory a child is in. -/
  directory? : σ → ChildId → Option String
  /-- Ask a child to end. -/
  terminate : σ → ChildId → σ
  /-- Close the terminal of a child. -/
  close : σ → ChildId → σ
  /-- Collect a child if it has ended, and tell whether it is gone. -/
  collect : σ → ChildId → Bool × σ

end GlassTty
