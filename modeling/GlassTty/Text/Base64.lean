import GlassTty.Text.Utf8

/-!
# Base64

Three bytes are four digits of six bits; a last group of one or two bytes is filled up with zero
bits to two or three digits and padded to four characters with `=`. Reading is strict: the padding
has to be there and the filled-up bits have to be zero, so a byte string has one written form
(`GlassTty.Base64.encode`, `GlassTty.Base64.decode?`).
-/

namespace GlassTty.Base64

/-- The sixty-four digits, by value. -/
def alphabet : List Char :=
  "ABCDEFGHIJKLMNOPQRSTUVWXYZabcdefghijklmnopqrstuvwxyz0123456789+/".toList

/-- The digit of a value below sixty-four. -/
def digit (value : Nat) : Char :=
  alphabet[value]?.getD 'A'

/-- The value of a digit. -/
def value? (c : Char) : Option Nat :=
  alphabet.findIdx? (· == c)

/-- The byte with a given value below 256. -/
def byte (value : Nat) : UInt8 :=
  UInt8.ofNat value

/-- **The written form** of a byte string. -/
def encode : Bytes → List Char
  | a :: b :: c :: rest =>
    let n := a.toNat * 0x10000 + b.toNat * 0x100 + c.toNat
    digit (n / 0x40000) :: digit (n / 0x1000 % 0x40) :: digit (n / 0x40 % 0x40) ::
      digit (n % 0x40) :: encode rest
  | [a, b] =>
    let n := a.toNat * 0x100 + b.toNat
    [digit (n / 0x400), digit (n / 0x10 % 0x40), digit (n % 0x10 * 4), '=']
  | [a] => [digit (a.toNat / 4), digit (a.toNat % 4 * 0x10), '=', '=']
  | [] => []

/-- The bytes of a last group, which may be padded: its spare bits must be zero. -/
def decodeLast? (a b c d : Char) : Option Bytes := do
  let x ← value? a
  let y ← value? b
  if c = '=' then
    if d = '=' ∧ y % 0x10 = 0 then some [byte (x * 4 + y / 0x10)] else none
  else
    let z ← value? c
    if d = '=' then
      if z % 4 = 0 then some [byte (x * 4 + y / 0x10), byte (y % 0x10 * 0x10 + z / 4)] else none
    else
      let w ← value? d
      some [byte (x * 4 + y / 0x10), byte (y % 0x10 * 0x10 + z / 4), byte (z % 4 * 0x40 + w)]

/-- **The byte string of a written form**, or none when the text is not one. -/
def decode? : List Char → Option Bytes
  | [] => some []
  | [a, b, c, d] => decodeLast? a b c d
  | a :: b :: c :: d :: rest => do
    let group ← decodeLast? a b c d
    if group.length = 3 then (decode? rest).map (group ++ ·) else none
  | _ => none

end GlassTty.Base64
