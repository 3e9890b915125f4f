/-!
# The settings of a line

How a pseudo-terminal treats what is typed and what is written is a set of flags
(`GlassTty.LineFlag`), each on or off (`GlassTty.LineSettings`). Programs know the flags by short
names (`GlassTty.LineFlag.name`), and some groups of them too (`GlassTty.LineSettings.change?`).
-/

namespace GlassTty

/-- A setting of a line that is on or off. -/
inductive LineFlag where
  /-- A typed carriage return means a line feed. -/
  | returnIsNewline
  /-- A typed line feed means a carriage return. -/
  | newlineIsReturn
  /-- A typed carriage return is dropped. -/
  | dropReturn
  /-- Two controls stop the output and start it again. -/
  | flowControl
  /-- Output is changed on its way. -/
  | postProcess
  /-- A carriage return is put before each line feed of the output. -/
  | returnBeforeNewline
  /-- A carriage return of the output becomes a line feed. -/
  | newlineForReturn
  /-- A carriage return of the output is left out in the first column. -/
  | dropIdleReturn
  /-- Three controls send signals. -/
  | signals
  /-- Lines are edited before they are read. -/
  | canonical
  /-- What is typed is shown. -/
  | echo
  /-- Erasing a character takes it off the screen. -/
  | echoErase
  /-- Erasing a line goes on to the next one. -/
  | echoKill
  /-- A typed line feed is shown even if nothing else is. -/
  | echoNewline
  /-- Controls are shown as a caret and a letter. -/
  | echoControls
  /-- Erasing a line erases its characters one by one. -/
  | echoKillErase
  /-- There are more ways of editing a line. -/
  | extended
  deriving DecidableEq, Repr, Inhabited

/-- The name that programs know a flag by. -/
def LineFlag.name : LineFlag → String
  | .returnIsNewline => "icrnl"
  | .newlineIsReturn => "inlcr"
  | .dropReturn => "igncr"
  | .flowControl => "ixon"
  | .postProcess => "opost"
  | .returnBeforeNewline => "onlcr"
  | .newlineForReturn => "ocrnl"
  | .dropIdleReturn => "onocr"
  | .signals => "isig"
  | .canonical => "icanon"
  | .echo => "echo"
  | .echoErase => "echoe"
  | .echoKill => "echok"
  | .echoNewline => "echonl"
  | .echoControls => "echoctl"
  | .echoKillErase => "echoke"
  | .extended => "iexten"

/-- All flags. -/
def LineFlag.all : List LineFlag :=
  [.returnIsNewline, .newlineIsReturn, .dropReturn, .flowControl, .postProcess,
    .returnBeforeNewline, .newlineForReturn, .dropIdleReturn, .signals, .canonical, .echo,
    .echoErase, .echoKill, .echoNewline, .echoControls, .echoKillErase, .extended]

/-- The settings of a line: the flags that are on. -/
structure LineSettings where
  flags : List LineFlag
  deriving DecidableEq, Repr, Inhabited

namespace LineSettings

/-- The flags of a fresh line. -/
def initial : LineSettings where
  flags :=
    [.returnIsNewline, .flowControl, .postProcess, .returnBeforeNewline, .signals, .canonical,
      .echo, .echoErase, .echoKill, .echoControls, .echoKillErase, .extended]

/-- Whether a flag is on. -/
def has (s : LineSettings) (flag : LineFlag) : Bool :=
  s.flags.contains flag

/-- Turn a flag on or off. -/
def set (s : LineSettings) (on : Bool) (flag : LineFlag) : LineSettings :=
  let others := s.flags.filter (· ≠ flag)
  { flags := if on then flag :: others else others }

/-- The flags that are off when bytes pass through unchanged. -/
def rawFlags : List LineFlag :=
  [.newlineIsReturn, .dropReturn, .returnIsNewline, .flowControl, .canonical, .postProcess,
    .signals]

/-- The flags that are on again after that. -/
def cookedFlags : List LineFlag :=
  [.returnIsNewline, .flowControl, .postProcess, .signals, .canonical]

/-- **Settings by name**: a flag, turned off by a hyphen before its name, or a group of flags. -/
def change? (s : LineSettings) (word : String) : Option LineSettings :=
  match word with
  | "raw" => some (rawFlags.foldl (·.set false ·) s)
  | "-cooked" => some (rawFlags.foldl (·.set false ·) s)
  | "cooked" => some (cookedFlags.foldl (·.set true ·) s)
  | "-raw" => some (cookedFlags.foldl (·.set true ·) s)
  | "sane" => some initial
  | "cbreak" => some (s.set false .canonical)
  | "-cbreak" => some (s.set true .canonical)
  | "nl" => some ((s.set false .returnIsNewline).set false .returnBeforeNewline)
  | "-nl" =>
    some ([LineFlag.returnIsNewline, .returnBeforeNewline].foldl (·.set true ·)
      ([LineFlag.newlineIsReturn, .dropReturn].foldl (·.set false ·) s))
  | "crterase" => some (s.set true .echoErase)
  | "-crterase" => some (s.set false .echoErase)
  | "ctlecho" => some (s.set true .echoControls)
  | "-ctlecho" => some (s.set false .echoControls)
  | "crtkill" => some (s.set true .echoKillErase)
  | "-crtkill" => some (s.set false .echoKillErase)
  | _ =>
    match LineFlag.all.find? (·.name = word) with
    | some flag => some (s.set true flag)
    | none => (LineFlag.all.find? fun flag => "-" ++ flag.name = word).map (s.set false ·)

end LineSettings

end GlassTty
