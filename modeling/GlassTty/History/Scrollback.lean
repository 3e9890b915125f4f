/-!
# The scrollback

Lines that leave the top of the screen are kept in groups: a line that began at a prompt opens an
entry, and the output below it belongs to that entry. Entries are what is evicted when there are too
many lines (`GlassTty.Scrollback.push`) and what is taken back when the last command is cleared
(`GlassTty.Scrollback.clearLast?`), so that a command line and its output stay together.

What has been reported is kept as two numbers, the lines ever added and how many those were at the
last report (`GlassTty.Scrollback.takeUnreported`).
-/

namespace GlassTty

/-- A line of the scrollback. -/
structure ScrollbackLine where
  /-- The entry that the line belongs to. -/
  entryIndex : Nat
  /-- The column where the command begins, zero for output. -/
  promptOffset : Nat
  /-- The working directory at the prompt, empty for output. -/
  directory : String
  /-- The markup of a command line. -/
  markup : Option String
  /-- The text. -/
  line : String
  deriving DecidableEq, Repr, Inhabited

/-- The lines kept, oldest first, and what has become of them. -/
structure Scrollback where
  /-- The greatest number of lines. -/
  capacity : Nat
  lines : List ScrollbackLine := []
  /-- The newest entry. -/
  entryIndex : Nat := 0
  /-- The lines ever added, less those taken back. -/
  total : Nat := 0
  /-- What `total` was at the last report. -/
  reported : Nat := 0
  /-- The directory of the first entry taken back since the last fresh command. -/
  clearedDirectory : Option String := none
  /-- The newest entry was taken back and no other has come. -/
  clearedLast : Bool := false
  deriving DecidableEq, Repr, Inhabited

namespace Scrollback

/-- How many lines are kept unless something else is asked for. -/
def defaultCapacity : Nat := 500

/-- The empty scrollback. -/
def empty (capacity : Nat) : Scrollback :=
  { capacity }

/-- Begin a new entry. -/
def beginEntry (s : Scrollback) : Scrollback :=
  { s with
    clearedDirectory := if s.clearedLast then s.clearedDirectory else none
    clearedLast := false
    entryIndex := s.entryIndex + 1 }

/-- Evict entries from the front, whole ones, until the lines fit. -/
def evict (capacity : Nat) : List ScrollbackLine → List ScrollbackLine
  | [] => []
  | first :: rest =>
    if rest.length < capacity then first :: rest
    else evict capacity (rest.dropWhile (·.entryIndex = first.entryIndex))
termination_by lines => lines.length
decreasing_by
  exact Nat.lt_succ_of_le (List.dropWhile_suffix _).length_le

/-- **Add a line** and evict what no longer fits. Without capacity nothing is ever added. -/
def push (s : Scrollback) (line : ScrollbackLine) : Scrollback :=
  if s.capacity = 0 then s
  else { s with lines := evict s.capacity (s.lines ++ [line]), total := s.total + 1 }

/-- How many of the lines kept have not been reported. -/
def unreported (s : Scrollback) : Nat :=
  min (s.total - s.reported) s.lines.length

/-- **The lines not reported yet**, oldest first; from now on they are. -/
def takeUnreported (s : Scrollback) : List ScrollbackLine × Scrollback :=
  (s.lines.drop (s.lines.length - s.unreported), { s with reported := s.total })

/-- Let the next report have all lines kept. -/
def rewind (s : Scrollback) : Scrollback :=
  { s with reported := s.total - s.lines.length }

/-- Whether the newest entry may be taken back: it has lines, and is the one asked for if one is. -/
def mayClearLast (s : Scrollback) (guard : Option Nat) : Bool :=
  s.entryIndex ≠ 0 && s.lines.getLast?.any (·.entryIndex = s.entryIndex) &&
    guard.all (· = s.entryIndex)

/-- The lines before those of the newest entry at the end. -/
def linesBeforeLast (s : Scrollback) : List ScrollbackLine :=
  (s.lines.reverse.dropWhile (·.entryIndex = s.entryIndex)).reverse

/-- **Take the newest entry back**, if it may be. -/
def clearLast? (s : Scrollback) (guard : Option Nat) : Option Scrollback :=
  if s.mayClearLast guard then
    let kept := s.linesBeforeLast
    let total := s.total - (s.lines.length - kept.length)
    some
      { s with
        lines := kept
        total
        reported := min s.reported total
        entryIndex := s.entryIndex - 1
        clearedDirectory := s.clearedDirectory <|> (s.lines[kept.length]?.map (·.directory))
        clearedLast := true }
  else none

/-- Drop all lines and begin to count entries again. -/
def clear (s : Scrollback) : Scrollback :=
  empty s.capacity

end Scrollback

end GlassTty
