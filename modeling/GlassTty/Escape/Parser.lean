import GlassTty.Escape.Action
import GlassTty.Text.Utf8

/-!
# The escape parser

A byte-driven machine turns the output of a session into actions, at most one a byte
(`GlassTty.Parser.advance`). It holds nothing of a screen. What it has to remember differs from
state to state, and each state of `GlassTty.Parser` holds just that: between sequences the bytes of
an unfinished character, inside a control sequence its parameters so far, everywhere else in a
sequence how long it has grown.

A control sequence longer than `GlassTty.Parser.maxSequence` bytes is dropped, and so is an
operating system command longer than `GlassTty.Parser.maxCommand`; sequences of no known meaning are
passed over. Controls inside a sequence take effect at once.
-/

namespace GlassTty

/-- A control sequence in progress. -/
structure ControlSequence where
  /-- The parameters that have ended. -/
  params : List Nat := []
  /-- The parameter in progress. -/
  current : Option Nat := none
  /-- The private marker. -/
  marker : Option Char := none
  /-- The sequence holds a byte that no known sequence has. -/
  unknown : Bool := false
  /-- The bytes so far, the escape among them. -/
  length : Nat
  deriving DecidableEq, Repr, Inhabited

namespace ControlSequence

/-- The greatest value of a parameter; greater numbers count as it. -/
def maxParam : Nat := 0xFFFFFFFFFFFFFFFF

/-- A digit of the parameter in progress. -/
def digit (s : ControlSequence) (value : Nat) : ControlSequence :=
  { s with current := some (min (s.current.getD 0 * 10 + value) maxParam) }

/-- The separator ends the parameter in progress and opens the next one. -/
def separator (s : ControlSequence) : ControlSequence :=
  { s with params := s.params ++ [s.current.getD 0], current := some 0 }

/-- A private marker counts only before everything else. -/
def mark (s : ControlSequence) (marker : Char) : ControlSequence :=
  if s.params.isEmpty ∧ s.current.isNone ∧ s.marker.isNone then { s with marker := some marker }
  else { s with unknown := true }

/-- All parameters, the one in progress among them. -/
def allParams (s : ControlSequence) : List Nat :=
  s.params ++ s.current.toList

/-- The action of the sequence, once it ends. -/
def action? (s : ControlSequence) (final : Char) : Option Action :=
  if s.unknown then none else Action.ofSequence? final s.marker s.allParams

end ControlSequence

/-- The state of the parser. -/
inductive Parser where
  /-- Between sequences, perhaps inside a character. -/
  | ground (decoder : Utf8.Decoder)
  /-- After an escape; controls may have come since. -/
  | escape (length : Nat)
  /-- After an escape and an intermediate byte: one byte more belongs to the sequence. -/
  | intermediate
  /-- Inside a control sequence. -/
  | control (sequence : ControlSequence)
  /-- Inside an operating system command. -/
  | command (length : Nat)
  /-- After an escape inside an operating system command. -/
  | commandEscape (length : Nat)
  deriving DecidableEq, Repr

namespace Parser

/-- The longest control sequence that is not dropped. -/
def maxSequence : Nat := 32

/-- The longest operating system command that is not dropped. -/
def maxCommand : Nat := 1024

/-- The parser before any byte. -/
def start : Parser := .ground {}

instance : Inhabited Parser := ⟨start⟩

/-- Whether the parser is between sequences and between characters. -/
def isGround : Parser → Bool
  | .ground decoder => !decoder.isPending
  | _ => false

/-- The escape character. -/
def esc : UInt8 := 0x1B

/-- The controls that do nothing and are not printed either. -/
def isSilent (byte : UInt8) : Bool :=
  byte = 0x00 || byte = 0x07 || byte = 0x0E || byte = 0x0F

/-- A byte between sequences. A byte of seven bits drops an unfinished character. -/
def onGround (decoder : Utf8.Decoder) (byte : UInt8) : Option Action × Parser :=
  if 0x80 ≤ byte.toNat then
    let (char?, decoder) := decoder.push byte
    (char?.map .print, .ground decoder)
  else if byte = esc then (none, .escape 1)
  else
    match Action.ofControl? byte with
    | some action => (some action, start)
    | none => (if isSilent byte then none else some (.print (Char.ofNat byte.toNat)), start)

/-- A byte after an escape, the `length`-th of its sequence. -/
def onEscape (length : Nat) (byte : UInt8) : Option Action × Parser :=
  if byte = esc then (none, .escape 1)
  else if byte.toNat < 0x20 then (Action.ofControl? byte, .escape length)
  else
    match Char.ofNat byte.toNat with
    | '[' => (none, .control { length })
    | ']' => (none, .command length)
    | '#' => (none, .intermediate)
    | '(' => (none, .intermediate)
    | ')' => (none, .intermediate)
    | '*' => (none, .intermediate)
    | '+' => (none, .intermediate)
    | '7' => (some .saveCursor, start)
    | '8' => (some .restoreCursor, start)
    | 'D' => (some .index, start)
    | 'E' => (some .nextLine, start)
    | 'M' => (some .reverseIndex, start)
    | 'Z' => (some .deviceAttributes, start)
    | 'c' => (some .fullReset, start)
    | _ => (none, start)

/-- A byte of a control sequence. -/
def onControl (s : ControlSequence) (byte : UInt8) : Option Action × Parser :=
  let s := { s with length := s.length + 1 }
  let n := byte.toNat
  let c := Char.ofNat n
  -- a sequence that is too long is dropped, and what is left of it is printed
  if maxSequence < s.length then (none, start)
  else if 0x30 ≤ n ∧ n ≤ 0x39 then (none, .control (s.digit (n - 0x30)))
  else if c = ';' then (none, .control s.separator)
  else if 0x3C ≤ n ∧ n ≤ 0x3F then (none, .control (s.mark c))
  else if 0x20 ≤ n ∧ n ≤ 0x2F ∨ c = ':' then (none, .control { s with unknown := true })
  else if 0x40 ≤ n ∧ n ≤ 0x7E then (s.action? c, start)
  else if byte = esc then (none, .escape 1)
  -- other controls act at once, and the sequence goes on behind them
  else if n < 0x20 then (Action.ofControl? byte, .control s)
  else (none, start)

/-- A byte of an operating system command, the `length`-th of its sequence. The bell ends the
command. -/
def onCommand (length : Nat) (byte : UInt8) : Option Action × Parser :=
  if maxCommand < length then (none, start)
  else if byte = 0x07 then (none, start)
  else if byte = esc then (none, .commandEscape length)
  else (none, .command length)

/-- A byte after an escape inside an operating system command. A backslash ends the command; any
other byte belongs to a new sequence. -/
def onCommandEscape (length : Nat) (byte : UInt8) : Option Action × Parser :=
  if maxCommand < length then (none, start)
  else if byte = 0x07 then (none, start)
  else if Char.ofNat byte.toNat = '\\' then (none, start)
  else onEscape 2 byte

/-- **One byte**: the action it completes, if any, and the state after it. -/
def advance (p : Parser) (byte : UInt8) : Option Action × Parser :=
  match p with
  | .ground decoder => onGround decoder byte
  | .escape length => onEscape (length + 1) byte
  | .intermediate => (none, if byte = esc then .escape 1 else start)
  | .control sequence => onControl sequence byte
  | .command length => onCommand (length + 1) byte
  | .commandEscape length => onCommandEscape (length + 1) byte

/-- **A byte string**: its actions in order, and the state after it. -/
def feed (p : Parser) : Bytes → List Action × Parser
  | [] => ([], p)
  | byte :: rest =>
    let (action?, p) := p.advance byte
    let (actions, p) := feed p rest
    (action?.toList ++ actions, p)

end Parser

end GlassTty
