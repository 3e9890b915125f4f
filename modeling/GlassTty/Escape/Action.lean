/-!
# What a terminal is told to do

The bytes of a session are characters, controls and escape sequences; each of them that means
anything is one action (`GlassTty.Action`). The control sequences that begin with `ESC [` name their
action by a final byte, an optional private marker and numeric parameters; which action that is, is
said by `GlassTty.Action.ofSequence?`.

A count that is missing or zero means one (`GlassTty.Action.count`). Counts and positions are words
of sixteen bits: a greater number means the greatest such word.
-/

namespace GlassTty

/-- One operation of a terminal. Rows and columns are counted from one here. -/
inductive Action where
  | print (char : Char)
  | backspace
  | tab
  | lineFeed
  | carriageReturn
  /-- Down one row, scrolling at the end of the region. -/
  | index
  /-- To the start of the next row. -/
  | nextLine
  /-- Up one row, scrolling at the start of the region. -/
  | reverseIndex
  | saveCursor
  | restoreCursor
  | fullReset
  | deviceAttributes
  | secondaryDeviceAttributes
  | statusReport
  | cursorPositionReport
  | terminalParameters
  | insertBlanks (count : Nat)
  | cursorUp (count : Nat)
  | cursorDown (count : Nat)
  | cursorForward (count : Nat)
  | cursorBackward (count : Nat)
  | cursorNextLine (count : Nat)
  | cursorPrevLine (count : Nat)
  | cursorColumn (col : Nat)
  | cursorRow (row : Nat)
  | cursorPosition (row col : Nat)
  | eraseInDisplay (mode : Nat)
  | eraseInLine (mode : Nat)
  | insertLines (count : Nat)
  | deleteLines (count : Nat)
  | deleteChars (count : Nat)
  | eraseChars (count : Nat)
  /-- The bounds of the scroll region, zero for the first or last row of the screen. -/
  | setScrollRegion (top bottom : Nat)
  | setMode (params : List Nat)
  | resetMode (params : List Nat)
  | selectGraphics (params : List Nat)
  deriving DecidableEq, Repr, Inhabited

namespace Action

/-- The greatest count, row or column. -/
def maxCount : Nat := 0xFFFF

/-- A parameter as a word of sixteen bits, zero if it is missing. -/
def param (params : List Nat) (i : Nat) : Nat :=
  min (params[i]?.getD 0) maxCount

/-- A parameter that counts: missing and zero both mean one. -/
def count (params : List Nat) (i : Nat) : Nat :=
  max (param params i) 1

/-- The action of a control character, if it has one. -/
def ofControl? (byte : UInt8) : Option Action :=
  match byte.toNat with
  | 0x05 => some .deviceAttributes
  | 0x08 => some .backspace
  | 0x09 => some .tab
  | 0x0A => some .lineFeed
  | 0x0B => some .lineFeed
  | 0x0C => some .lineFeed
  | 0x0D => some .carriageReturn
  | _ => none

/-- The action of a control sequence without a private marker. -/
def ofPlainSequence? (final : Char) (params : List Nat) : Option Action :=
  match final with
  | '@' => some (.insertBlanks (count params 0))
  | 'A' => some (.cursorUp (count params 0))
  | 'B' => some (.cursorDown (count params 0))
  | 'e' => some (.cursorDown (count params 0))
  | 'C' => some (.cursorForward (count params 0))
  | 'a' => some (.cursorForward (count params 0))
  | 'D' => some (.cursorBackward (count params 0))
  | 'E' => some (.cursorNextLine (count params 0))
  | 'F' => some (.cursorPrevLine (count params 0))
  | 'G' => some (.cursorColumn (count params 0))
  | '\x60' => some (.cursorColumn (count params 0))
  | 'H' => some (.cursorPosition (count params 0) (count params 1))
  | 'f' => some (.cursorPosition (count params 0) (count params 1))
  | 'J' => some (.eraseInDisplay (param params 0))
  | 'K' => some (.eraseInLine (param params 0))
  | 'L' => some (.insertLines (count params 0))
  | 'M' => some (.deleteLines (count params 0))
  | 'P' => some (.deleteChars (count params 0))
  | 'X' => some (.eraseChars (count params 0))
  | 'c' => if param params 0 = 0 then some .deviceAttributes else none
  | 'd' => some (.cursorRow (count params 0))
  | 'm' => some (.selectGraphics params)
  | 'n' =>
    if param params 0 = 5 then some .statusReport
    else if param params 0 = 6 then some .cursorPositionReport
    else none
  | 'r' => some (.setScrollRegion (param params 0) (param params 1))
  | 's' => some .saveCursor
  | 'u' => some .restoreCursor
  | 'x' => some .terminalParameters
  | _ => none

/-- **The action of a control sequence.** Modes are set and reset with any private marker or none;
apart from them only one sequence with a marker means anything. -/
def ofSequence? (final : Char) (marker : Option Char) (params : List Nat) : Option Action :=
  if final = 'h' then some (.setMode params)
  else if final = 'l' then some (.resetMode params)
  else
    match marker with
    | some marker =>
      if marker = '>' ∧ final = 'c' then some .secondaryDeviceAttributes else none
    | none => ofPlainSequence? final params

end Action

end GlassTty
