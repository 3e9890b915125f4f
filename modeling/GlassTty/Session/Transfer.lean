import GlassTty.Text.Utf8

/-!
# Writing all of it

A write to a pseudo-terminal does not block: it takes as many bytes as fit, perhaps none. Writing a
whole text is a machine (`GlassTty.Transfer`) that is told the outcome of one write after the other
(`GlassTty.WriteOutcome`) and says when it is done (`GlassTty.Transfer.step`). When the queue is
full it waits a little and tries again, ten times at most without any progress. An error of the
operating system (`GlassTty.SystemError`) puts an end to it, be it of a write or of a wait.

`GlassTty.Transfer.run` feeds the machine a list of outcomes.
-/

namespace GlassTty

/-- An error of the operating system, by its number. -/
structure SystemError where
  number : Nat
  deriving DecidableEq, Repr, Inhabited

/-- The device is not there any more. -/
def SystemError.inputOutput : SystemError := ⟨5⟩

/-- What came of one attempt to write. -/
inductive WriteOutcome where
  /-- So many bytes were taken. -/
  | took (count : Nat)
  /-- A signal came first. -/
  | interrupted
  /-- The queue is full. After a wait for room one may try again, unless the wait fails. -/
  | full (waitError : Option SystemError)
  | failed (error : SystemError)
  deriving DecidableEq, Repr, Inhabited

/-- The kind of an error, that of the operating system being left open. -/
inductive WriteError where
  /-- A write took nothing at all, though the queue was not full. -/
  | noProgress
  /-- The queue stayed full. -/
  | stayedFull
  | failed
  deriving DecidableEq, Repr, Inhabited

/-- Why not all bytes were written. -/
inductive TransferError where
  | noProgress
  | stayedFull
  /-- A write failed, or a wait for room. -/
  | failed (error : SystemError)
  deriving DecidableEq, Repr, Inhabited

/-- What kind of error it is. -/
def TransferError.kind : TransferError → WriteError
  | .noProgress => .noProgress
  | .stayedFull => .stayedFull
  | .failed _ => .failed

/-- The state of writing a text. -/
structure Transfer where
  /-- The bytes taken so far. -/
  accepted : Bytes := []
  /-- The bytes still to be taken. -/
  rest : Bytes
  /-- The attempts in a row that found the queue full. -/
  retries : Nat := 0
  deriving DecidableEq, Repr, Inhabited

namespace Transfer

/-- How often a full queue is waited for before giving up. -/
def maxRetries : Nat := 10

/-- Begin to write a text. -/
def start (data : Bytes) : Transfer :=
  { rest := data }

/-- Whether all bytes were taken. -/
def isDone (t : Transfer) : Bool :=
  t.rest.isEmpty

/-- **One outcome.** Progress sets the count of retries back, an interruption changes nothing. -/
def step (t : Transfer) (outcome : WriteOutcome) : Except TransferError Transfer :=
  match outcome with
  | .took 0 => .error .noProgress
  | .took count =>
    .ok { accepted := t.accepted ++ t.rest.take count, rest := t.rest.drop count }
  | .interrupted => .ok t
  | .full waitError =>
    if maxRetries < t.retries + 1 then .error .stayedFull
    else
      match waitError with
      | none => .ok { t with retries := t.retries + 1 }
      | some error => .error (.failed error)
  | .failed error => .error (.failed error)

/-- What came of a list of outcomes: all bytes taken, an error, or more outcomes are needed. The
bytes taken are told in each case. -/
inductive Result where
  | done (accepted : Bytes)
  | stopped (error : TransferError) (accepted : Bytes)
  | unfinished (transfer : Transfer)
  deriving DecidableEq, Repr, Inhabited

/-- **Write with the given outcomes**, which are looked at as long as there are bytes to be
taken. -/
def run : Transfer → List WriteOutcome → Result
  | t, [] => if t.isDone then .done t.accepted else .unfinished t
  | t, outcome :: rest =>
    if t.isDone then .done t.accepted
    else
      match t.step outcome with
      | .ok t => t.run rest
      | .error error => .stopped error t.accepted

end Transfer

end GlassTty
