/-!
# UTF-8, one byte at a time and all at once

A pseudo-terminal hands its bytes over in pieces of any size, so a character may arrive in two
parts. This file holds the three readings of a byte string that the terminal needs.

* `GlassTty.Utf8.charOf?` – the character that a complete sequence encodes. Everything else here
  is built from the table behind it, `GlassTty.Utf8.seqLength?` (how long the sequence of a lead
  byte is) and `GlassTty.Utf8.secondRange` (which bytes may come second).
* `GlassTty.Utf8.Decoder` – the incremental reading. Bytes that can never form a character are
  dropped, and a byte that interrupts a sequence is read on its own
  (`GlassTty.Utf8.Decoder.push`).
* `GlassTty.Utf8.lossy` – the reading of a whole byte string in which every maximal part that
  cannot be continued to a character becomes one replacement character.
-/

namespace GlassTty

/-- A string of bytes, in order. -/
abbrev Bytes := List UInt8

namespace Utf8

/-! ### The shape of a sequence -/

/-- The length of the sequences that start with the byte `lead`, if any does. The leads `C0` and
`C1` could only encode what one byte encodes, and `F5` to `FF` only what is no character. -/
def seqLength? (lead : UInt8) : Option Nat :=
  let n := lead.toNat
  if n < 0x80 then some 1
  else if 0xC2 ≤ n ∧ n ≤ 0xDF then some 2
  else if 0xE0 ≤ n ∧ n ≤ 0xEF then some 3
  else if 0xF0 ≤ n ∧ n ≤ 0xF4 then some 4
  else none

/-- A continuation byte: its two high bits are `10`. -/
def isContinuation (byte : UInt8) : Bool :=
  0x80 ≤ byte.toNat && byte.toNat ≤ 0xBF

/-- The least and the greatest byte that may come second after `lead`. Four leads leave less than
the full range of continuation bytes: it would encode a shorter sequence's character, a surrogate
or a number past the last character. -/
def secondRange (lead : UInt8) : Nat × Nat :=
  match lead.toNat with
  | 0xE0 => (0xA0, 0xBF)
  | 0xED => (0x80, 0x9F)
  | 0xF0 => (0x90, 0xBF)
  | 0xF4 => (0x80, 0x8F)
  | _ => (0x80, 0xBF)

/-- Whether `byte` may come second after `lead`. -/
def allowsSecond (lead byte : UInt8) : Bool :=
  (secondRange lead).1 ≤ byte.toNat && byte.toNat ≤ (secondRange lead).2

/-- The six payload bits of a continuation byte. -/
def payload (byte : UInt8) : Nat :=
  byte.toNat - 0x80

/-- **The character of a complete sequence**, or none when the bytes are not one. -/
def charOf? : Bytes → Option Char
  | [a] => if a.toNat < 0x80 then some (Char.ofNat a.toNat) else none
  | [a, b] =>
    if seqLength? a = some 2 ∧ allowsSecond a b then
      some (Char.ofNat ((a.toNat - 0xC0) * 0x40 + payload b))
    else none
  | [a, b, c] =>
    if seqLength? a = some 3 ∧ allowsSecond a b ∧ isContinuation c then
      some (Char.ofNat ((a.toNat - 0xE0) * 0x1000 + payload b * 0x40 + payload c))
    else none
  | [a, b, c, d] =>
    if seqLength? a = some 4 ∧ allowsSecond a b ∧ isContinuation c ∧ isContinuation d then
      some (Char.ofNat
        ((a.toNat - 0xF0) * 0x40000 + payload b * 0x1000 + payload c * 0x40 + payload d))
    else none
  | _ => none

/-! ### The incremental decoder -/

/-- The state of the incremental reading: the bytes of the sequence in progress, oldest first. -/
structure Decoder where
  /-- The bytes received of an unfinished sequence, none between characters. -/
  pending : Bytes := []
  deriving DecidableEq, Repr, Inhabited

namespace Decoder

/-- Whether a sequence is in progress. -/
def isPending (d : Decoder) : Bool :=
  !d.pending.isEmpty

/-- Read a byte between characters: an ASCII byte is a character, the lead of a longer sequence
opens it, anything else is dropped. -/
def start (byte : UInt8) : Option Char × Decoder :=
  match seqLength? byte with
  | none => (none, {})
  | some 1 => (some (Char.ofNat byte.toNat), {})
  | some _ => (none, { pending := [byte] })

/-- **One byte.** A continuation byte joins the sequence in progress, which is given out (or
dropped, if it encodes nothing) when it has the length its lead announces. Any other byte drops the
sequence in progress and is read on its own. -/
def push (d : Decoder) (byte : UInt8) : Option Char × Decoder :=
  match d.pending with
  | [] => start byte
  | lead :: _ =>
    if isContinuation byte then
      let sequence := d.pending ++ [byte]
      if some sequence.length = seqLength? lead then (charOf? sequence, {})
      else (none, { pending := sequence })
    else start byte

/-- Read a byte string: the characters in the order they are completed, and the state left. -/
def feed (d : Decoder) : Bytes → List Char × Decoder
  | [] => ([], d)
  | byte :: rest =>
    let (char?, d) := d.push byte
    let (chars, d) := feed d rest
    (char?.toList ++ chars, d)

end Decoder

/-! ### Whole byte strings -/

/-- The encoding of a text. -/
def encode (text : List Char) : Bytes :=
  text.flatMap String.utf8EncodeChar

/-- The bytes after `lead` that continue its sequence, at most `missing` of them. -/
def continuationOf (lead : UInt8) (missing : Nat) (rest : Bytes) : Bytes :=
  match missing, rest with
  | missing + 1, second :: rest =>
    if allowsSecond lead second then
      second :: (rest.take missing).takeWhile isContinuation
    else []
  | _, _ => []

/-- The first character of a nonempty byte string and the number of bytes after the first that it
takes up. Where no character stands, it is the replacement character, in place of the longest part
that is the beginning of a sequence, or of a single byte. -/
def firstLossy (lead : UInt8) (rest : Bytes) : Char × Nat :=
  match seqLength? lead with
  | none => ('\uFFFD', 0)
  | some length =>
    let tail := continuationOf lead (length - 1) rest
    match charOf? (lead :: tail) with
    | some char => (char, tail.length)
    | none => ('\uFFFD', tail.length)

/-- **The lossy reading** of a byte string: well-formed sequences are read, and each maximal part
that cannot be completed becomes one replacement character. -/
def lossy : Bytes → List Char
  | [] => []
  | lead :: rest =>
    let (char, taken) := firstLossy lead rest
    char :: lossy (rest.drop taken)
termination_by bytes => bytes.length
decreasing_by
  simp only [List.length_cons, List.length_drop]
  omega

/-- The lossy reading as a string. -/
def lossyString (bytes : Bytes) : String :=
  String.ofList (lossy bytes)

end Utf8

/-- The UTF-8 bytes of a string. -/
def utf8Bytes (text : String) : Bytes :=
  Utf8.encode text.toList

end GlassTty
