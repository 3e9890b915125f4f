import GlassTty.Computer.Basic

/-!
# Consoles

A console is the other end of a child's line (`GlassTty.Console`). Output is read as it comes, and
kept until it is asked for: up to a text (`GlassTty.Console.readUntil`) or up to its end
(`GlassTty.Console.readToEnd`). Each wait has a bound.
-/

namespace GlassTty

/-- The other end of the line of a child. -/
structure Console where
  computer : Computer
  child : ChildId
  /-- What was read and not asked for yet. -/
  unread : Bytes := []
  /-- The end of the output was seen. -/
  atEnd : Bool := false

namespace Console

/-- The time between two looks, in nanoseconds. -/
def interval : Nat := 1000000

/-- Read once without waiting. -/
def readOnce (c : Console) : ReadOutcome × Console :=
  match c.computer.read c.child with
  | (.data bytes, computer) => (.data bytes, { c with computer, unread := c.unread ++ bytes })
  | (.ended, computer) => (.ended, { c with computer, atEnd := true })
  | (outcome, computer) => (outcome, { c with computer })

/-- Wait a little for output, and read it. -/
def readMore (c : Console) : Console :=
  let (_, computer) := c.computer.poll [c.child] interval
  ({ c with computer }.readOnce).2

/-- What comes up to the end of a text, and what follows it. -/
def cutBehind? (wanted : Bytes) : Bytes → Option (Bytes × Bytes)
  | [] => if wanted.isEmpty then some ([], []) else none
  | byte :: rest =>
    if wanted.isPrefixOf (byte :: rest) then
      some (wanted, (byte :: rest).drop wanted.length)
    else (cutBehind? wanted rest).map fun (before, after) => (byte :: before, after)

/-- **Read up to the end of a text**, looking at most so many times. -/
def readUntil (wanted : Bytes) : Nat → Console → Option Bytes × Console
  | 0, c => (none, c)
  | looks + 1, c =>
    match cutBehind? wanted c.unread with
    | some (found, unread) => (some found, { c with unread })
    | none => if c.atEnd then (none, c) else readUntil wanted looks c.readMore

/-- **Read up to the end of the output**, looking at most so many times. -/
def readToEnd : Nat → Console → Option Bytes × Console
  | 0, c => (none, c)
  | looks + 1, c =>
    if c.atEnd then (some c.unread, { c with unread := [] }) else readToEnd looks c.readMore

/-- Wait until the child has ended, looking at most so many times, and tell whether it has. -/
def waitForEnd : Nat → Console → Bool × Console
  | 0, c => (false, c)
  | looks + 1, c =>
    let computer := c.computer.goOn
    if computer.hasEnded c.child then (true, { c with computer })
    else waitForEnd looks { c with computer := (computer.poll [] interval).2 }

end Console

end GlassTty
