/-!
# Double-precision numbers and their shortest decimal text

A double is kept as its sixty-four bits, so that two of them are the same exactly when they are
written the same. This file gives it the two operations that a data format needs.

* `GlassTty.Double.shortest` – the fewest decimal digits that read back as the same double. On the
  grid of decimals with `n` digits the two neighbours of the value are tried, for `n = 1, 2, …`;
  the first grid with a neighbour inside the rounding interval wins, and of two such neighbours the
  nearer one. All of it is exact arithmetic on natural numbers.
* `GlassTty.Double.text` – those digits, positional from `1e-5` up to below `1e16` and with an
  exponent elsewhere, a whole number with `.0` behind it.

Arithmetic goes through the machine's own doubles (`GlassTty.Double.mul`, `GlassTty.Double.div`).
-/

namespace GlassTty

/-- A double-precision number, by its bits: sign, eleven of exponent, fifty-two of fraction. -/
structure Double where
  bits : UInt64
  deriving DecidableEq, Repr, Inhabited

namespace Double

/-! ### Arithmetic -/

/-- The double nearest to a natural number. -/
def ofNat (n : Nat) : Double :=
  ⟨(Float.ofNat n).toBits⟩

/-- The double nearest to a power of ten. -/
def powerOfTen (exponent : Nat) : Double :=
  ⟨(Float.ofScientific 1 false exponent).toBits⟩

/-- The product, rounded. -/
def mul (x y : Double) : Double :=
  ⟨(Float.ofBits x.bits * Float.ofBits y.bits).toBits⟩

/-- The quotient, rounded. -/
def div (x y : Double) : Double :=
  ⟨(Float.ofBits x.bits / Float.ofBits y.bits).toBits⟩

/-- The number with the other sign. -/
def neg (x : Double) : Double :=
  ⟨x.bits ^^^ 0x8000000000000000⟩

/-! ### The parts of a double -/

/-- Whether the sign bit is set. -/
def isNegative (x : Double) : Bool :=
  0x8000000000000000 ≤ x.bits.toNat

/-- The exponent bits. -/
def exponentBits (x : Double) : Nat :=
  x.bits.toNat / 0x10000000000000 % 0x800

/-- The fraction bits. -/
def fractionBits (x : Double) : Nat :=
  x.bits.toNat % 0x10000000000000

/-- Whether the double is a number: all exponent bits set mark infinities and the like. -/
def isFinite (x : Double) : Bool :=
  x.exponentBits ≠ 2047

/-- Whether the double is zero, of either sign. -/
def isZero (x : Double) : Bool :=
  x.exponentBits = 0 && x.fractionBits = 0

/-- The whole number `m` of `m · 2 ^ q`, the magnitude of a finite double. -/
def mantissa (x : Double) : Nat :=
  if x.exponentBits = 0 then x.fractionBits else 0x10000000000000 + x.fractionBits

/-- The exponent `q` of `m · 2 ^ q`, the magnitude of a finite double. -/
def exponent (x : Double) : Int :=
  (max x.exponentBits 1 : Int) - 1075

/-! ### The shortest digits -/

/-- The reals that round to one double, as fractions over one denominator. -/
structure Interval where
  low : Nat
  value : Nat
  high : Nat
  denominator : Nat
  /-- Whether the ends belong to it. -/
  closed : Bool

/-- The interval around a finite nonzero double: half way to each neighbour. Below a power of two
the neighbour is half as far. The ends belong to it when the mantissa is even. -/
def interval (x : Double) : Interval :=
  let m := x.mantissa
  let down := if x.fractionBits = 0 ∧ 1 < x.exponentBits then 1 else 2
  let q := x.exponent - 2
  let scale := Nat.pow 2 q.toNat
  { low := (4 * m - down) * scale
    value := 4 * m * scale
    high := (4 * m + 2) * scale
    denominator := Nat.pow 2 (-q).toNat
    closed := m % 2 = 0 }

namespace Interval

/-- Whether the decimal `d · 10 ^ s` lies in the interval. -/
def holds (i : Interval) (d : Nat) (s : Int) : Bool :=
  let point := d * Nat.pow 10 s.toNat * i.denominator
  let shift := Nat.pow 10 (-s).toNat
  if i.closed then i.low * shift ≤ point && point ≤ i.high * shift
  else i.low * shift < point && point < i.high * shift

/-- The greatest whole `d` with `d · 10 ^ s` at most the value. -/
def floorAt (i : Interval) (s : Int) : Nat :=
  i.value * Nat.pow 10 (-s).toNat / (Nat.pow 10 s.toNat * i.denominator)

/-- Whether `(d + 1) · 10 ^ s` is nearer to the value than `d · 10 ^ s`, which is at most it. -/
def upperIsNearer (i : Interval) (d : Nat) (s : Int) : Bool :=
  let value := i.value * Nat.pow 10 (-s).toNat
  let step := Nat.pow 10 s.toNat * i.denominator
  (2 * d + 1) * step < 2 * value

/-- The decimal of the grid `s` for the value, if one of its two neighbours there is inside. -/
def onGrid? (i : Interval) (s : Int) : Option Nat :=
  let d := i.floorAt s
  match i.holds d s, i.holds (d + 1) s with
  | true, true => some (if i.upperIsNearer d s then d + 1 else d)
  | true, false => some d
  | false, true => some (d + 1)
  | false, false => none

/-- The first of the grids `s`, `s - 1`, … with a decimal inside, at most `count` of them. -/
def search (i : Interval) : Nat → Int → Nat × Int
  | 0, s => (i.floorAt s, s)
  | count + 1, s =>
    match i.onGrid? s with
    | some d => (d, s)
    | none => search i count (s - 1)

/-- The place of the value's first digit: the greatest `s` with `10 ^ s` at most the value, looked
for downwards from `s + count`. -/
def leadingPlace (i : Interval) : Nat → Int → Int
  | 0, s => s
  | count + 1, s => if i.floorAt (s + count) = 0 then leadingPlace i count s else s + count

end Interval

/-- A number and the power of ten that a zero at its end stands for, with no zero at its end. -/
def stripZeros : Nat → Nat → Int → Nat × Int
  | 0, d, s => (d, s)
  | fuel + 1, d, s => if d % 10 = 0 then stripZeros fuel (d / 10) (s + 1) else (d, s)

/-- **The shortest decimal** `d · 10 ^ s` that reads back as a finite nonzero double. -/
def shortest (x : Double) : Nat × Int :=
  let i := x.interval
  let (d, s) := i.search 17 (i.leadingPlace 650 (-330))
  stripZeros 20 d s

/-! ### The text -/

/-- The decimal digits of a number. -/
def decimalDigits (n : Nat) : List Char :=
  Nat.toDigits 10 n

/-- An integer in decimal, with a minus sign if it needs one. -/
def integerText (n : Int) : List Char :=
  if n < 0 then '-' :: decimalDigits n.natAbs else decimalDigits n.natAbs

/-- The exponent of a decimal, its sign always written. -/
def exponentText (n : Int) : List Char :=
  if n < 0 then integerText n else '+' :: integerText n

/-- The text of the positive decimal `d · 10 ^ s`. Let the point stand `p` places after the first
digit's left side: for `-5 < p ≤ 16` the number is written out, otherwise with an exponent. -/
def decimalText (d : Nat) (s : Int) : List Char :=
  let digits := decimalDigits d
  let point := digits.length + s
  if 0 ≤ s ∧ point ≤ 16 then
    digits ++ List.replicate s.toNat '0' ++ ['.', '0']
  else if 0 < point ∧ point ≤ 16 then
    digits.take point.toNat ++ ['.'] ++ digits.drop point.toNat
  else if -5 < point ∧ point ≤ 0 then
    ['0', '.'] ++ List.replicate (-point).toNat '0' ++ digits
  else
    match digits with
    | [] => []
    | [only] => only :: 'e' :: exponentText (point - 1)
    | first :: rest => first :: '.' :: rest ++ 'e' :: exponentText (point - 1)

/-- **The text** of a finite double. -/
def text (x : Double) : List Char :=
  let magnitude :=
    if x.isZero then ['0', '.', '0']
    else
      let (d, s) := x.shortest
      decimalText d s
  if x.isNegative then '-' :: magnitude else magnitude

end Double

end GlassTty
