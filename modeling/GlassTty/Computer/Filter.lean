import GlassTty.Text.Blank
import GlassTty.Text.Utf8

/-!
# Filters

What some programs do with the bytes they read (`GlassTty.Computer.Filter`). A filter is fed piece
by piece: `GlassTty.Computer.Filter.feed` says what comes out of a piece,
`GlassTty.Computer.Filter.atEnd` what comes out when no more bytes follow, and
`GlassTty.Computer.Filter.wanted` how many bytes it looks at next, none when it has seen enough. A
filter that is to see only the first bytes of a stream leaves the others to whoever reads next.
-/

namespace GlassTty.Computer

/-! ### Bytes shown by their values -/

/-- How a byte is shown. -/
inductive DumpFormat where
  | characters
  | hexadecimal
  | octal
  | decimal
  deriving DecidableEq, Repr, Inhabited

/-- Bytes shown by their values, sixteen a line. -/
structure Dump where
  format : DumpFormat
  /-- How many bytes are shown, if not all. -/
  limit : Option Nat := none
  /-- Each line begins with its place. -/
  placed : Bool := true
  /-- Lines like the one before are shown too. -/
  everyLine : Bool := false
  /-- The place of the line. -/
  place : Nat := 0
  /-- The bytes of the line so far. -/
  line : Bytes := []
  /-- The bytes of the line before, and whether it was left out. -/
  previous : Option (Bytes × Bool) := none
  deriving DecidableEq, Repr, Inhabited

/-- The digits of a number, filled up to a width. -/
def digitsTo (base width : Nat) (fill : Char) (n : Nat) : List Char :=
  let digits := Nat.toDigits base n
  List.replicate (width - digits.length) fill ++ digits

/-- A byte as a character: itself, an escape or its value in base eight. -/
def characterText (byte : UInt8) : List Char :=
  match byte.toNat with
  | 0x00 => ['\\', '0']
  | 0x07 => ['\\', 'a']
  | 0x08 => ['\\', 'b']
  | 0x09 => ['\\', 't']
  | 0x0A => ['\\', 'n']
  | 0x0B => ['\\', 'v']
  | 0x0C => ['\\', 'f']
  | 0x0D => ['\\', 'r']
  | n => if 0x20 ≤ n ∧ n < 0x7F then [Char.ofNat n] else digitsTo 8 3 '0' n

namespace DumpFormat

/-- A byte as it is shown, with the blanks before it. -/
def text (format : DumpFormat) (byte : UInt8) : List Char :=
  match format with
  | .characters =>
    let text := characterText byte
    List.replicate (4 - text.length) ' ' ++ text
  | .hexadecimal => ' ' :: digitsTo 16 2 '0' byte.toNat
  | .octal => ' ' :: digitsTo 8 3 '0' byte.toNat
  | .decimal => ' ' :: digitsTo 10 3 ' ' byte.toNat

end DumpFormat

namespace Dump

/-- The bytes in a line. -/
def lineLength : Nat := 16

/-- The text of a place. -/
def placeText (place : Nat) : List Char :=
  digitsTo 8 7 '0' place

/-- The text of the line so far. -/
def lineText (d : Dump) : Bytes :=
  let shown := d.line.flatMap d.format.text
  Utf8.encode ((if d.placed then placeText d.place else []) ++ shown ++ ['\n'])

/-- The end of a line: what comes out, and the next line. -/
def endLine (d : Dump) : Bytes × Dump :=
  let next := { d with place := d.place + d.line.length, line := [] }
  match d.previous with
  | some (line, hidden) =>
    if line = d.line ∧ d.everyLine = false then
      (if hidden then [] else Utf8.encode ['*', '\n'], { next with previous := some (line, true) })
    else (d.lineText, { next with previous := some (d.line, false) })
  | none => (d.lineText, { next with previous := some (d.line, false) })

/-- How many bytes were shown. -/
def shown (d : Dump) : Nat :=
  d.place + d.line.length

/-- One byte: what comes out. -/
def feedByte (d : Dump) (byte : UInt8) : Bytes × Dump :=
  let d := { d with line := d.line ++ [byte] }
  if d.line.length = lineLength then d.endLine else ([], d)

/-- What comes out at the end. -/
def atEnd (d : Dump) : Bytes :=
  (if d.line.isEmpty then [] else d.lineText) ++
    if d.placed then Utf8.encode (placeText d.shown ++ ['\n']) else []

end Dump

/-! ### Counts -/

/-- How many lines, words and bytes there are. -/
structure Count where
  /-- Which of the numbers are told. -/
  lines : Bool
  words : Bool
  bytes : Bool
  /-- The width of a number where there are several. -/
  width : Nat
  /-- What is told behind the numbers. -/
  name : List Char
  lineCount : Nat := 0
  wordCount : Nat := 0
  byteCount : Nat := 0
  /-- The last byte was part of a word. -/
  inWord : Bool := false
  deriving DecidableEq, Repr, Inhabited

namespace Count

/-- One byte. -/
def feedByte (c : Count) (byte : UInt8) : Count :=
  let blank := byte = 0x20 || (0x09 ≤ byte && byte ≤ 0x0D)
  { c with
    lineCount := if byte = 0x0A then c.lineCount + 1 else c.lineCount
    wordCount := if !blank && !c.inWord then c.wordCount + 1 else c.wordCount
    byteCount := c.byteCount + 1
    inWord := !blank }

/-- The numbers that are told. -/
def numbers (c : Count) : List Nat :=
  (if c.lines then [c.lineCount] else []) ++ (if c.words then [c.wordCount] else []) ++
    if c.bytes then [c.byteCount] else []

/-- What comes out at the end. -/
def atEnd (c : Count) : Bytes :=
  let width := if c.numbers.length ≤ 1 then 0 else c.width
  let texts := c.numbers.map (digitsTo 10 width ' ')
  let name := if c.name.isEmpty then [] else ' ' :: c.name
  Utf8.encode (Text.join [' '] texts ++ name ++ ['\n'])

end Count

/-! ### Filters -/

/-- What a stream of bytes is put through. -/
inductive Filter where
  | identity
  /-- The first bytes. -/
  | firstBytes (count : Nat)
  /-- The first lines. -/
  | firstLines (count : Nat)
  /-- Other bytes in place of some; none in place of those that are left out. -/
  | transliterate (table : List (UInt8 × Option UInt8))
  /-- The same bytes in place of each. -/
  | expand (bytes : Bytes)
  | dump (dump : Dump)
  | count (count : Count)
  deriving DecidableEq, Repr, Inhabited

namespace Filter

/-- The most bytes that are read at a time. -/
def chunk : Nat := 1024

/-- **How many bytes the filter looks at next**, at most. -/
def wanted : Filter → Nat
  | .firstBytes n => min chunk n
  | .firstLines n => if n = 0 then 0 else chunk
  | .dump d =>
    match d.limit with
    | some limit => min chunk (limit - d.shown)
    | none => chunk
  | _ => chunk

/-- The first lines of a text, and how many are left to be seen. -/
def takeLines : Nat → Bytes → Bytes × Nat
  | 0, _ => ([], 0)
  | n, [] => ([], n)
  | n + 1, byte :: rest =>
    let (lines, left) := takeLines (if byte = 0x0A then n else n + 1) rest
    (byte :: lines, left)

/-- What stands for a byte in a table. -/
def replacement (table : List (UInt8 × Option UInt8)) (byte : UInt8) : Option UInt8 :=
  (table.lookup byte).getD (some byte)

/-- **Feed a piece** to a filter: what comes out, and the filter after it. -/
def feed (f : Filter) (bytes : Bytes) : Bytes × Filter :=
  match f with
  | .identity => (bytes, f)
  | .firstBytes n => (bytes.take n, .firstBytes (n - bytes.length))
  | .firstLines n =>
    let (lines, left) := takeLines n bytes
    (lines, .firstLines left)
  | .transliterate table => (bytes.filterMap (replacement table), f)
  | .expand each => (bytes.flatMap fun _ => each, f)
  | .dump d =>
    let (out, d) := bytes.foldl
      (fun ((out, d) : Bytes × Dump) byte =>
        let (more, d) := d.feedByte byte
        (out ++ more, d))
      ([], d)
    (out, .dump d)
  | .count c => ([], .count (bytes.foldl Count.feedByte c))

/-- **What comes out at the end.** -/
def atEnd : Filter → Bytes
  | .dump d => d.atEnd
  | .count c => c.atEnd
  | _ => []

end Filter

end GlassTty.Computer
