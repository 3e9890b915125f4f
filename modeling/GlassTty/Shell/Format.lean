import GlassTty.Shell.Arithmetic
import GlassTty.Text.Utf8

/-!
# Formatted text

The texts that `echo` and `printf` write (`GlassTty.Shell.Format.echo`,
`GlassTty.Shell.Format.printf`). They are strings of bytes, since an escape may stand for any byte.
-/

namespace GlassTty.Shell.Format

/-- The byte of an ASCII character. -/
def byteOf (c : Char) : UInt8 :=
  UInt8.ofNat c.toNat

/-- Whether a byte is a digit of base eight. -/
def isOctal (byte : UInt8) : Bool :=
  0x30 ≤ byte && byte ≤ 0x37

/-- The byte that a number in base eight stands for. -/
def octalByte (digits : Bytes) : UInt8 :=
  UInt8.ofNat (digits.foldl (fun n byte => n * 8 + (byte.toNat - 0x30)) 0)

/-- The first digits of base eight of a text, at most `count`. -/
def octalDigits (count : Nat) (text : Bytes) : Bytes :=
  (text.take count).takeWhile isOctal

/-- The control that a letter behind a backslash stands for. -/
def control? (c : Char) : Option UInt8 :=
  match c with
  | 'a' => some 0x07
  | 'b' => some 0x08
  | 'f' => some 0x0C
  | 'n' => some 0x0A
  | 'r' => some 0x0D
  | 't' => some 0x09
  | 'v' => some 0x0B
  | '\\' => some 0x5C
  | _ => none

/-- What follows a backslash: the bytes it stands for, and how long it is. -/
def escape (rest : Bytes) : Bytes × Nat :=
  match rest with
  | [] => ([0x5C], 0)
  | byte :: _ =>
    if isOctal byte then
      let digits := octalDigits 3 rest
      ([octalByte digits], digits.length)
    else
      match control? (Char.ofNat byte.toNat) with
      | some control => ([control], 1)
      | none => ([0x5C], 0)

/-- A text with its escapes replaced, and whether it was cut short. The number bounds the steps. -/
def unescapeFrom : Nat → Bytes → Bytes × Bool
  | 0, _ => ([], false)
  | _, [] => ([], false)
  | fuel + 1, byte :: rest =>
    let add (bytes : Bytes) (rest : Bytes) : Bytes × Bool :=
      let (more, short) := unescapeFrom fuel rest
      (bytes ++ more, short)
    if byte ≠ 0x5C then add [byte] rest
    else
      match rest with
      | 0x63 :: _ => ([], true)
      | 0x30 :: after =>
        let digits := octalDigits 3 after
        add [octalByte digits] (after.drop digits.length)
      | _ =>
        let (bytes, length) := escape rest
        add bytes (rest.drop length)

/-- **A text with its escapes replaced**: a byte in base eight is written behind `\0`, and `\c` cuts
the text short. -/
def unescape (text : Bytes) : Bytes × Bool :=
  unescapeFrom (text.length + 1) text

/-- **The text that `echo` writes.** -/
def echo (arguments : List (List Char)) : Bytes :=
  let (newline, arguments) :=
    match arguments with
    | ['-', 'n'] :: rest => (false, rest)
    | _ => (true, arguments)
  let (text, short) := unescape (Utf8.encode (Text.join [' '] arguments))
  if newline && !short then text ++ [0x0A] else text

/-! ### Conversions -/

/-- How an argument is written. -/
structure Conversion where
  leftAligned : Bool := false
  zeroFilled : Bool := false
  plus : Bool := false
  width : Nat := 0
  precision : Option Nat := none
  kind : Char
  deriving DecidableEq, Repr, Inhabited

/-- A text filled up to a width. -/
def pad (c : Conversion) (text : Bytes) : Bytes :=
  let fill := c.width - text.length
  if c.leftAligned then text ++ List.replicate fill 0x20
  else if c.zeroFilled then
    match text with
    | 0x2D :: digits => 0x2D :: List.replicate fill 0x30 ++ digits
    | _ => List.replicate fill 0x30 ++ text
  else List.replicate fill 0x20 ++ text

/-- What a part of a format comes to: the text, whether the text ends there, and what is wrong with
the arguments. -/
structure Written where
  text : Bytes := []
  short : Bool := false
  faults : List (List Char) := []
  deriving DecidableEq, Repr, Inhabited

/-- The digits that begin a text, and their base. -/
def numeral (text : List Char) : Nat × List Char :=
  let run (base : Nat) (text : List Char) : List Char :=
    text.takeWhile fun c => (Arithmetic.digit? base c).isSome
  match text with
  | '0' :: x :: rest =>
    if (x = 'x' ∨ x = 'X') ∧ !(run 16 rest).isEmpty then (16, '0' :: x :: run 16 rest)
    else (8, '0' :: run 8 (x :: rest))
  | _ => (10, run 10 text)

/-- The number that an argument is, and what is wrong with it. -/
def numberOf (argument : List Char) : Int × List (List Char) :=
  match argument with
  | '\'' :: c :: _ => (c.toNat, [])
  | '"' :: c :: _ => (c.toNat, [])
  | _ =>
    let text := Text.trimStart argument
    let (negative, rest) :=
      match text with
      | '-' :: rest => (true, rest)
      | '+' :: rest => (false, rest)
      | _ => (false, text)
    let (_, digits) := numeral rest
    let value : Int := ((Arithmetic.constant? digits).getD 0 : Nat)
    let value := if negative then -value else value
    if digits.isEmpty ∧ !argument.isEmpty then
      (0, [argument ++ ": expected numeric value".toList])
    else if digits.length < rest.length then
      (value, [argument ++ ": not completely converted".toList])
    else (value, [])

/-- The digits of a number, as many as are asked for at least. -/
def digits (base n : Nat) (c : Conversion) : Bytes :=
  let text := Utf8.encode (Nat.toDigits base n)
  List.replicate (c.precision.getD 0 - text.length) 0x30 ++ text

/-- An argument as a conversion writes it. -/
def convert (c : Conversion) (argument : List Char) : Written :=
  let bytes := Utf8.encode argument
  let clip (text : Bytes) : Bytes :=
    match c.precision with
    | some n => text.take n
    | none => text
  let (n, faults) := numberOf argument
  match c.kind with
  | 's' => { text := pad c (clip bytes) }
  | 'b' =>
    let (text, short) := unescape bytes
    { text := pad c (clip text), short }
  | 'c' => { text := pad c (bytes.take 1) }
  | 'x' => { text := pad c (digits 16 (Arithmetic.bits n) c), faults }
  | 'X' =>
    let digits := (Nat.toDigits 16 (Arithmetic.bits n)).map Char.toUpper
    { text := pad c (Utf8.encode digits), faults }
  | 'o' => { text := pad c (digits 8 (Arithmetic.bits n) c), faults }
  | 'u' => { text := pad c (digits 10 (Arithmetic.bits n) c), faults }
  | _ =>
    let sign := if n < 0 then [0x2D] else if c.plus then [0x2B] else []
    { text := pad c (sign ++ digits 10 n.natAbs c), faults }

/-- The number at the beginning of a text, and what follows it. -/
def leadingNumber (text : Bytes) : Nat × Bytes :=
  let digits := text.takeWhile fun byte => 0x30 ≤ byte && byte ≤ 0x39
  (digits.foldl (fun n byte => n * 10 + (byte.toNat - 0x30)) 0, text.drop digits.length)

/-- The conversion behind a percent sign, and what follows it. The flags are read first. -/
def conversion? : Conversion → Bytes → Option (Conversion × Bytes)
  | _, [] => none
  | c, byte :: rest =>
    if byte = byteOf '-' then conversion? { c with leftAligned := true } rest
    else if byte = byteOf '0' then conversion? { c with zeroFilled := true } rest
    else if byte = byteOf '+' then conversion? { c with plus := true } rest
    else if byte = byteOf ' ' ∨ byte = byteOf '#' then conversion? c rest
    else
      let (width, rest) := leadingNumber (byte :: rest)
      let (precision, rest) :=
        match rest with
        | 0x2E :: rest =>
          let (precision, rest) := leadingNumber rest
          (some precision, rest)
        | _ => (none, rest)
      match rest with
      | [] => none
      | kind :: rest => some ({ c with width, precision, kind := Char.ofNat kind.toNat }, rest)

/-- Something that is written before something else. -/
def Written.append (first second : Written) : Written where
  text := first.text ++ second.text
  short := second.short
  faults := first.faults ++ second.faults

/-- Write a format once: what comes of it, and the arguments left. The number bounds the steps. -/
def writeOnce : Nat → Bytes → List (List Char) → Written × List (List Char)
  | 0, _, arguments => ({ short := true }, arguments)
  | _, [], arguments => ({}, arguments)
  | fuel + 1, byte :: rest, arguments =>
    let add (first : Written) (rest : Bytes) (arguments : List (List Char)) :
        Written × List (List Char) :=
      let (more, left) := writeOnce fuel rest arguments
      (first.append more, left)
    if byte = 0x5C then
      let (bytes, length) := escape rest
      add { text := bytes } (rest.drop length) arguments
    else if byte = 0x25 then
      match rest with
      | 0x25 :: rest => add { text := [0x25] } rest arguments
      | _ =>
        match conversion? { kind := 's' } rest with
        | none => ({ short := true }, arguments)
        | some (c, rest) =>
          let written := convert c (arguments.head?.getD [])
          if written.short then (written, arguments.drop 1)
          else add written rest (arguments.drop 1)
    else add { text := [byte] } rest arguments

/-- Write a format as often as there are arguments for it. The number bounds the steps. -/
def writeAll : Nat → Bytes → List (List Char) → Written
  | 0, _, _ => {}
  | fuel + 1, format, arguments =>
    let (written, left) := writeOnce (format.length + 1) format arguments
    if written.short ∨ left.isEmpty ∨ left.length = arguments.length then written
    else written.append (writeAll fuel format left)

/-- **The text that `printf` writes**, and what is wrong with its arguments. The format is used
again as long as there are arguments. -/
def printf (format : List Char) (arguments : List (List Char)) : Written :=
  writeAll (arguments.length + 1) (Utf8.encode format) arguments

end GlassTty.Shell.Format
