import GlassTty.Session.Loop

/-!
# The owner of sessions

Who owns a multiplexer lets its loop go round, waits for things to happen and looks at what was told
(`GlassTty.Owner`). Each closing of a session and each result of a directive is looked at once
(`GlassTty.Owner.takeClosings`, `GlassTty.Owner.takeDirectives`), while of the updates only the
newest counts (`GlassTty.Owner.updates`).
-/

namespace GlassTty

/-- A multiplexer with its loop, and what its owner has looked at. -/
structure Owner (σ : Type) where
  multiplexer : Multiplexer σ
  loop : Loop := {}
  /-- How many closings were looked at. -/
  closingCount : Nat := 0
  /-- How many results of directives were looked at, for each session. -/
  directiveCounts : List (String × Nat) := []

namespace Owner

variable {σ : Type}

/-! ### Looking -/

/-- The names of the sessions that were closed and not looked at yet, in order. -/
def closings (o : Owner σ) : List String :=
  ((o.multiplexer.told.filter (·.isClosed)).map (·.session)).drop o.closingCount

/-- Look at the closings. -/
def takeClosings (o : Owner σ) : List String × Owner σ :=
  let names := o.closings
  (names, { o with closingCount := o.closingCount + names.length })

/-- What a session has told. -/
def events (o : Owner σ) (name : String) : List TerminalEvent :=
  o.multiplexer.told.filterMap fun
    | .output session event => if session = name then some event else none
    | .closed _ => none

/-- The results of directives that a session has told and that were not looked at yet. -/
def directives (o : Owner σ) (name : String) : List TerminalEvent :=
  ((o.events name).filter (·.directive?.isSome)).drop ((o.directiveCounts.lookup name).getD 0)

/-- Look at the results of directives. -/
def takeDirectives (o : Owner σ) (name : String) : List TerminalEvent × Owner σ :=
  let found := o.directives name
  let count := (o.directiveCounts.lookup name).getD 0 + found.length
  (found,
    { o with directiveCounts := (name, count) :: o.directiveCounts.filter (·.1 ≠ name) })

/-- The updates that a session has told. -/
def updates (o : Owner σ) (name : String) : List TerminalEvent :=
  (o.events name).filter (·.rowUpdate?.isSome)

/-- Whether there is nothing new to be told about a session. -/
def isQuiet (name : String) (o : Owner σ) : Bool :=
  (o.multiplexer.terminal? name).all (!·.needsUpdating)

/-- Whether the screen of a session shows a text, and has its cursor at a row and column if they are
given. -/
def shows (name : String) (text : List Char) (cursor : Option (Nat × Nat)) (o : Owner σ) : Bool :=
  match o.multiplexer.terminal? name with
  | none => false
  | some t =>
    let rows := (List.range t.screen.height).map fun row => (t.screen.rowText row).toList
    (Text.cut? text (Text.join ['\n'] rows)).isSome &&
      cursor.all fun (row, col) => t.cursor.row = row && t.cursor.col = col

/-! ### Waiting -/

variable [SessionHost σ]

/-- Let the loop go round once. -/
def pass (o : Owner σ) : Owner σ :=
  let (loop, multiplexer) := o.multiplexer.pass o.loop
  { o with loop, multiplexer }

/-- **Wait until a condition holds**, at most so many rounds, and tell whether it does. -/
def waitUntil (condition : Owner σ → Bool) : Nat → Owner σ → Bool × Owner σ
  | 0, o => (condition o, o)
  | rounds + 1, o => if condition o then (true, o) else waitUntil condition rounds o.pass

/-- Wait for one thing and then another. -/
def waitForBoth (first second : Owner σ → Bool) (rounds : Nat) (o : Owner σ) : Bool × Owner σ :=
  match waitUntil first rounds o with
  | (true, o) => waitUntil second rounds o
  | (false, o) => (false, o)

end Owner

end GlassTty
