import GlassTty.Json.Value
import GlassTty.Text.Utf8

/-!
# Reading JSON texts

The readers work on the bytes of a text; each gives back what it read and the bytes after it. A
refusal has a cause (`GlassTty.Json.Cause`) and a place: most are reported right behind the byte
that was taken last, those about a byte that was only looked at one further
(`GlassTty.Json.Fault`). A place is told as a line and a column in bytes.

* `GlassTty.Json.parse` reads a text that is one value.
* `GlassTty.Json.skipValue` passes over a value of no interest.
* `GlassTty.Json.readMembers` and `GlassTty.Json.readElements` walk a container and leave it to a
  function what its members or elements are; the readers of particular records are built from them.

Containers may be nested 127 deep (`GlassTty.Json.maxNesting`). An integer that fits a 64-bit word
is kept; any other number becomes a double, computed from its first significant digits by one
rounded multiplication or division by a power of ten (`GlassTty.Json.scale`).
-/

namespace GlassTty.Json

/-! ### Refusals -/

/-- Why a text is refused. -/
inductive Cause where
  | unfinishedArray
  | unfinishedObject
  | unfinishedString
  | unfinishedValue
  | missingColon
  | missingArrayComma
  | missingObjectComma
  | misspelledName
  | noValue
  | badEscape
  | badNumber
  | numberOutOfRange
  | controlInString
  | keyNotString
  | loneSurrogate
  | trailingComma
  | trailingCharacters
  | unfinishedEscape
  | nestedTooDeep
  /-- What the reader of a particular record objects to. -/
  | content (message : String)
  deriving DecidableEq, Repr, Inhabited

/-- The wording of a cause. -/
def Cause.message : Cause → String
  | .unfinishedArray => "EOF while parsing a list"
  | .unfinishedObject => "EOF while parsing an object"
  | .unfinishedString => "EOF while parsing a string"
  | .unfinishedValue => "EOF while parsing a value"
  | .missingColon => "expected `:`"
  | .missingArrayComma => "expected `,` or `]`"
  | .missingObjectComma => "expected `,` or `\x7d`"
  | .misspelledName => "expected ident"
  | .noValue => "expected value"
  | .badEscape => "invalid escape"
  | .badNumber => "invalid number"
  | .numberOutOfRange => "number out of range"
  | .controlInString => "control character (\\u0000-\\u001F) found while parsing a string"
  | .keyNotString => "key must be a string"
  | .loneSurrogate => "lone leading surrogate in hex escape"
  | .trailingComma => "trailing comma"
  | .trailingCharacters => "trailing characters"
  | .unfinishedEscape => "unexpected end of hex escape"
  | .nestedTooDeep => "recursion limit exceeded"
  | .content message => message

/-- A refusal: its cause, the number of bytes that were left, and whether the first of them is
counted into the place. -/
structure Fault where
  cause : Cause
  left : Nat
  ahead : Bool
  deriving DecidableEq, Repr, Inhabited

/-- Refuse behind the byte taken last. -/
def refuse {α : Type} (cause : Cause) (rest : Bytes) : Except Fault α :=
  .error ⟨cause, rest.length, false⟩

/-- Refuse at the byte looked at. -/
def refuseAhead {α : Type} (cause : Cause) (rest : Bytes) : Except Fault α :=
  .error ⟨cause, rest.length, true⟩

/-- The line and the column, both told in bytes, of the place behind the first `index` bytes. -/
def place (text : Bytes) (index : Nat) : Nat × Nat :=
  (text.take index).foldl
    (fun (spot : Nat × Nat) (byte : UInt8) =>
      if byte = 10 then (spot.1 + 1, 0) else (spot.1, spot.2 + 1))
    (1, 0)

/-- The wording of a refusal of `text`, with its place. -/
def Fault.message (fault : Fault) (text : Bytes) : String :=
  let index := text.length - fault.left
  let (line, column) := place text (if fault.ahead then min text.length (index + 1) else index)
  fault.cause.message ++ " at line " ++ toString line ++ " column " ++ toString column

/-! ### Bytes -/

/-- The byte of an ASCII character. -/
def ascii (c : Char) : UInt8 :=
  UInt8.ofNat c.toNat

/-- Whether a byte may stand between the parts of a value. -/
def isSpace (byte : UInt8) : Bool :=
  byte = 32 || byte = 10 || byte = 9 || byte = 13

/-- The bytes from the next part of a value on. -/
def skipSpace (bytes : Bytes) : Bytes :=
  bytes.dropWhile isSpace

/-- Whether a byte is a decimal digit. -/
def isDigit (byte : UInt8) : Bool :=
  48 ≤ byte.toNat && byte.toNat ≤ 57

/-- The value of a decimal digit. -/
def digitValue (byte : UInt8) : Nat :=
  byte.toNat - 48

/-- The rest of one of the three names, after its first letter. -/
def readName : List Char → Bytes → Except Fault (Unit × Bytes)
  | [], rest => .ok ((), rest)
  | _ :: _, [] => refuse .unfinishedValue []
  | c :: name, byte :: rest =>
    if byte = ascii c then readName name rest else refuse .misspelledName rest

/-! ### Strings -/

/-- The value of a hexadecimal digit. -/
def hexValue? (byte : UInt8) : Option Nat :=
  let n := byte.toNat
  if 48 ≤ n ∧ n ≤ 57 then some (n - 48)
  else if 65 ≤ n ∧ n ≤ 70 then some (n - 55)
  else if 97 ≤ n ∧ n ≤ 102 then some (n - 87)
  else none

/-- The number of a `\u` escape: four hexadecimal digits. -/
def readHex : Bytes → Except Fault (Nat × Bytes)
  | a :: b :: c :: d :: rest =>
    match hexValue? a, hexValue? b, hexValue? c, hexValue? d with
    | some a, some b, some c, some d => .ok (a * 0x1000 + b * 0x100 + c * 0x10 + d, rest)
    | _, _, _, _ => refuse .badEscape rest
  | _ => refuse .unfinishedString []

/-- The second of two escapes that name a character past the first plane together, after the first
half `high`. -/
def readLowHalf (high : Nat) : Bytes → Except Fault (Char × Bytes)
  | [] => refuse .unfinishedString []
  | byte :: rest =>
    if byte ≠ ascii '\\' then refuse .unfinishedEscape rest
    else
      match rest with
      | [] => refuse .unfinishedString []
      | byte :: rest =>
        if byte ≠ ascii 'u' then refuse .unfinishedEscape rest
        else do
          let (low, rest) ← readHex rest
          if low < 0xDC00 ∨ 0xDFFF < low then refuse .loneSurrogate rest
          else .ok (Char.ofNat ((high - 0xD800) * 0x400 + (low - 0xDC00) + 0x10000), rest)

/-- The character that an escape stands for, after the backslash. -/
def readEscape : Bytes → Except Fault (Char × Bytes)
  | [] => refuse .unfinishedString []
  | byte :: rest =>
    match Char.ofNat byte.toNat with
    | '"' => .ok ('"', rest)
    | '\\' => .ok ('\\', rest)
    | '/' => .ok ('/', rest)
    | 'b' => .ok ('\x08', rest)
    | 'f' => .ok ('\x0c', rest)
    | 'n' => .ok ('\n', rest)
    | 'r' => .ok ('\r', rest)
    | 't' => .ok ('\t', rest)
    | 'u' => do
      let (n, rest) ← readHex rest
      if 0xDC00 ≤ n ∧ n ≤ 0xDFFF then refuse .loneSurrogate rest
      else if n < 0xD800 ∨ 0xDBFF < n then .ok (Char.ofNat n, rest)
      else readLowHalf n rest
    | _ => refuse .badEscape rest

/-- The bytes of a string after its opening quotation mark; `fuel` is at least the number of bytes
left, and `read` holds the bytes of the string so far, the last one first. -/
def readStringFrom : Nat → Bytes → Bytes → Except Fault (Bytes × Bytes)
  | 0, _, rest => refuse .unfinishedString rest
  | _ + 1, _, [] => refuse .unfinishedString []
  | fuel + 1, read, byte :: rest =>
    if byte = ascii '"' then .ok (read.reverse, rest)
    else if byte = ascii '\\' then do
      let (c, rest) ← readEscape rest
      readStringFrom fuel ((String.utf8EncodeChar c).reverse ++ read) rest
    else if byte < 0x20 then refuse .controlInString rest
    else readStringFrom fuel (byte :: read) rest

/-- **A string**, after its opening quotation mark. -/
def readString (rest : Bytes) : Except Fault (String × Bytes) := do
  let (bytes, rest) ← readStringFrom (rest.length + 1) [] rest
  .ok (Utf8.lossyString bytes, rest)

/-! ### Numbers -/

/-- The greatest number of a 64-bit word. -/
def maxWord : Nat :=
  0xFFFFFFFFFFFFFFFF

/-- The greatest power of ten that is a double. -/
def maxPower : Nat :=
  308

/-- Multiply a double by `10 ^ exponent`, or divide it if `negative`. A divisor past the greatest
power of ten is taken in parts of that size; a product past the greatest double is none. -/
def scaleBy (negative : Bool) : Nat → Nat → Double → Option Double
  | 0, _, x => some x
  | fuel + 1, exponent, x =>
    if exponent ≤ maxPower then
      if negative then some (x.div (Double.powerOfTen exponent))
      else
        let product := x.mul (Double.powerOfTen exponent)
        if product.isFinite then some product else none
    else if x.isZero then some x
    else if negative then
      scaleBy negative fuel (exponent - maxPower) (x.div (Double.powerOfTen maxPower))
    else none

/-- The double `significand · 10 ^ exponent`, or none if it is past the greatest one. -/
def scale (significand : Nat) (exponent : Int) : Option Double :=
  scaleBy (exponent < 0) (exponent.natAbs + 1) exponent.natAbs (Double.ofNat significand)

/-- A number of the given sign from its significant digits and its exponent. -/
def finish (positive : Bool) (significand : Nat) (exponent : Int) (rest : Bytes) :
    Except Fault (Number × Bytes) :=
  match scale significand exponent with
  | some x => .ok (.double (if positive then x else x.neg), rest)
  | none => refuse .numberOutOfRange rest

/-- The digits of an exponent, one having been read. An exponent past 31 bits makes zero, or a
number that is out of range. -/
def readExponentDigits (positive : Bool) (significand : Nat) (start : Int) (up : Bool) (e : Nat) :
    Bytes → Except Fault (Number × Bytes)
  | [] => finish positive significand (if up then start + e else start - e) []
  | byte :: rest =>
    if isDigit byte then
      if 0x7FFFFFFF < e * 10 + digitValue byte then
        if significand ≠ 0 ∧ up then refuse .numberOutOfRange rest
        else
          let zero := Double.ofNat 0
          .ok (.double (if positive then zero else zero.neg), rest.dropWhile isDigit)
      else readExponentDigits positive significand start up (e * 10 + digitValue byte) rest
    else finish positive significand (if up then start + e else start - e) (byte :: rest)

/-- An exponent, after its letter. -/
def readExponent (positive : Bool) (significand : Nat) (start : Int) (bytes : Bytes) :
    Except Fault (Number × Bytes) :=
  let (up, bytes) : Bool × Bytes :=
    match bytes with
    | byte :: rest =>
      if byte = ascii '+' then (true, rest)
      else if byte = ascii '-' then (false, rest)
      else (true, bytes)
    | [] => (true, [])
  match bytes with
  | [] => refuse .unfinishedValue []
  | byte :: rest =>
    if isDigit byte then readExponentDigits positive significand start up (digitValue byte) rest
    else refuse .badNumber rest

/-- Whether a byte opens an exponent. -/
def opensExponent (byte : UInt8) : Bool :=
  byte = ascii 'e' || byte = ascii 'E'

/-- What may follow the digits of a number that is a double. -/
def readScale (positive : Bool) (significand : Nat) (exponent : Int) :
    Bytes → Except Fault (Number × Bytes)
  | [] => finish positive significand exponent []
  | byte :: rest =>
    if opensExponent byte then readExponent positive significand exponent rest
    else finish positive significand exponent (byte :: rest)

/-- The digits after a decimal point, of which `count` have been read; those that no longer fit
into a word are passed over. -/
def readFraction (positive : Bool) (significand : Nat) (exponent : Int) (count : Nat) :
    Bytes → Except Fault (Number × Bytes)
  | [] =>
    if count = 0 then refuseAhead .unfinishedValue []
    else finish positive significand (exponent - count) []
  | byte :: rest =>
    if isDigit byte then
      let longer := significand * 10 + digitValue byte
      if maxWord < longer then
        readScale positive significand (exponent - count) (rest.dropWhile isDigit)
      else readFraction positive longer exponent (count + 1) rest
    else if count = 0 then refuseAhead .badNumber (byte :: rest)
    else readScale positive significand (exponent - count) (byte :: rest)

/-- The digits of a whole part that no longer fit into a word: each stands for a power of ten. -/
def readLong (positive : Bool) (significand : Nat) (exponent : Nat) :
    Bytes → Except Fault (Number × Bytes)
  | [] => finish positive significand exponent []
  | byte :: rest =>
    if isDigit byte then readLong positive significand (exponent + 1) rest
    else if byte = ascii '.' then readFraction positive significand exponent 0 rest
    else readScale positive significand exponent (byte :: rest)

/-- The integer of the given sign and size, a double if it does not fit a 64-bit word. -/
def integerOf (positive : Bool) (size : Nat) : Number :=
  if positive then .integer size
  else if size = 0 ∨ 0x8000000000000000 < size then .double (Double.ofNat size).neg
  else .integer (-(size : Int))

/-- What may follow the whole part of a number. -/
def readTail (positive : Bool) (significand : Nat) : Bytes → Except Fault (Number × Bytes)
  | [] => .ok (integerOf positive significand, [])
  | byte :: rest =>
    if byte = ascii '.' then readFraction positive significand 0 0 rest
    else if opensExponent byte then readExponent positive significand 0 rest
    else .ok (integerOf positive significand, byte :: rest)

/-- The digits of the whole part of a number. -/
def readWhole (positive : Bool) (significand : Nat) : Bytes → Except Fault (Number × Bytes)
  | [] => readTail positive significand []
  | byte :: rest =>
    if isDigit byte then
      let longer := significand * 10 + digitValue byte
      if maxWord < longer then readLong positive significand 0 (byte :: rest)
      else readWhole positive longer rest
    else readTail positive significand (byte :: rest)

/-- **A number**, after its sign. A whole part has no leading zero. -/
def readNumber (positive : Bool) : Bytes → Except Fault (Number × Bytes)
  | [] => refuse .unfinishedValue []
  | byte :: rest =>
    if byte = ascii '0' then
      match rest with
      | next :: _ => if isDigit next then refuseAhead .badNumber rest else readTail positive 0 rest
      | [] => readTail positive 0 []
    else if isDigit byte then readWhole positive (digitValue byte) rest
    else refuse .badNumber rest

/-! ### Containers -/

/-- Read the name of the next member, if there is one. -/
def readKey? (first : Bool) (bytes : Bytes) : Except Fault (Option String × Bytes) :=
  match skipSpace bytes with
  | [] => refuseAhead .unfinishedObject []
  | byte :: rest =>
    let named (byte : UInt8) (rest : Bytes) : Except Fault (Option String × Bytes) :=
      if byte = ascii '"' then do
        let (name, rest) ← readString rest
        .ok (some name, rest)
      else refuseAhead .keyNotString (byte :: rest)
    if byte = ascii '\x7d' then .ok (none, byte :: rest)
    else if first then named byte rest
    else if byte = ascii ',' then
      match skipSpace rest with
      | [] => refuseAhead .unfinishedValue []
      | byte :: rest =>
        if byte = ascii '\x7d' then refuseAhead .trailingComma (byte :: rest) else named byte rest
    else refuseAhead .missingObjectComma (byte :: rest)

/-- The colon after a name. -/
def readColon (bytes : Bytes) : Except Fault (Unit × Bytes) :=
  match skipSpace bytes with
  | [] => refuseAhead .unfinishedObject []
  | byte :: rest =>
    if byte = ascii ':' then .ok ((), rest) else refuseAhead .missingColon (byte :: rest)

/-- The members of an object after its opening brace, up to the closing one. What a member does to
the state is up to `member`, which is given its name and reads from behind it. -/
def readMembers {σ : Type} (member : σ → String → Bytes → Except Fault (σ × Bytes)) :
    Nat → Bool → σ → Bytes → Except Fault (σ × Bytes)
  | 0, _, _, rest => refuseAhead .unfinishedObject rest
  | fuel + 1, first, state, bytes => do
    let (name?, rest) ← readKey? first bytes
    match name? with
    | none => .ok (state, rest)
    | some name => do
      let (state, rest) ← member state name rest
      readMembers member fuel false state rest

/-- The end of an object. -/
def readObjectEnd (bytes : Bytes) : Except Fault (Unit × Bytes) :=
  match skipSpace bytes with
  | [] => refuseAhead .unfinishedObject []
  | byte :: rest =>
    if byte = ascii '\x7d' then .ok ((), rest)
    else if byte = ascii ',' then refuseAhead .trailingComma (byte :: rest)
    else refuseAhead .trailingCharacters (byte :: rest)

/-- Whether an array has another element: go to it if so, and stay before the end if not. -/
def readComma? (first : Bool) (bytes : Bytes) : Except Fault (Bool × Bytes) :=
  match skipSpace bytes with
  | [] => refuseAhead .unfinishedArray []
  | byte :: rest =>
    if byte = ascii ']' then .ok (false, byte :: rest)
    else if first then .ok (true, byte :: rest)
    else if byte = ascii ',' then
      match skipSpace rest with
      | [] => refuseAhead .unfinishedValue []
      | byte :: rest =>
        if byte = ascii ']' then refuseAhead .trailingComma (byte :: rest)
        else .ok (true, byte :: rest)
    else refuseAhead .missingArrayComma (byte :: rest)

/-- The elements of an array after its opening bracket, up to the closing one. -/
def readElements (element : Bytes → Except Fault (Value × Bytes)) :
    Nat → Bool → List Value → Bytes → Except Fault (List Value × Bytes)
  | 0, _, _, rest => refuseAhead .unfinishedArray rest
  | fuel + 1, first, read, bytes => do
    let (more, rest) ← readComma? first bytes
    if more then
      let (value, rest) ← element rest
      readElements element fuel false (value :: read) rest
    else .ok (read.reverse, rest)

/-- The end of an array. -/
def readArrayEnd (bytes : Bytes) : Except Fault (Unit × Bytes) :=
  match skipSpace bytes with
  | [] => refuseAhead .unfinishedArray []
  | byte :: rest =>
    if byte = ascii ']' then .ok ((), rest)
    else if byte = ascii ',' then
      let rest := skipSpace rest
      if rest.head? = some (ascii ']') then refuseAhead .trailingComma rest
      else refuseAhead .trailingCharacters rest
    else refuseAhead .trailingCharacters (byte :: rest)

/-! ### Values -/

/-- A member whose value is read by `element` and kept under its name. -/
def readMember (element : Bytes → Except Fault (Value × Bytes)) (members : Object)
    (name : String) (bytes : Bytes) : Except Fault (Object × Bytes) := do
  let (_, rest) ← readColon bytes
  let (value, rest) ← element rest
  .ok (Object.insert name value members, rest)

/-- A value that is a name, a number or a string, `byte` being its first byte. -/
def readAtom (byte : UInt8) (rest : Bytes) : Except Fault (Value × Bytes) :=
  if byte = ascii 'n' then do
    let (_, rest) ← readName "ull".toList rest
    .ok (.null, rest)
  else if byte = ascii 't' then do
    let (_, rest) ← readName "rue".toList rest
    .ok (.bool true, rest)
  else if byte = ascii 'f' then do
    let (_, rest) ← readName "alse".toList rest
    .ok (.bool false, rest)
  else if byte = ascii '-' then do
    let (number, rest) ← readNumber false rest
    .ok (.number number, rest)
  else if isDigit byte then do
    let (number, rest) ← readNumber true (byte :: rest)
    .ok (.number number, rest)
  else if byte = ascii '"' then do
    let (text, rest) ← readString rest
    .ok (.string text, rest)
  else refuseAhead .noValue (byte :: rest)

/-- A value with at most `nesting` containers inside one another. -/
def readValue (nesting : Nat) (bytes : Bytes) : Except Fault (Value × Bytes) :=
  match skipSpace bytes with
  | [] => refuseAhead .unfinishedValue []
  | byte :: rest =>
    if byte = ascii '[' then
      match nesting with
      | 0 => refuseAhead .nestedTooDeep (byte :: rest)
      | inner + 1 => do
        let (elements, rest) ← readElements (readValue inner) (rest.length + 1) true [] rest
        let (_, rest) ← readArrayEnd rest
        .ok (.array elements, rest)
    else if byte = ascii '\x7b' then
      match nesting with
      | 0 => refuseAhead .nestedTooDeep (byte :: rest)
      | inner + 1 => do
        let (members, rest) ←
          readMembers (readMember (readValue inner)) (rest.length + 1) true [] rest
        let (_, rest) ← readObjectEnd rest
        .ok (.object members, rest)
    else readAtom byte rest

/-- How deep containers may be nested. -/
def maxNesting : Nat :=
  127

/-- The end of a text: nothing but space may follow its value. -/
def readEnd (bytes : Bytes) : Except Fault Unit :=
  match skipSpace bytes with
  | [] => .ok ()
  | rest => refuseAhead .trailingCharacters rest

/-- What a whole text holds, as `read` reads it, or the wording of the refusal. -/
def parseWith {α : Type} (read : Bytes → Except Fault (α × Bytes)) (text : String) :
    Except String α :=
  let bytes := utf8Bytes text
  let outcome : Except Fault α := do
    let (result, rest) ← read bytes
    readEnd rest
    .ok result
  match outcome with
  | .ok result => .ok result
  | .error fault => .error (fault.message bytes)

/-- **Read a text** that is one value, or say why it is refused. -/
def parse (text : String) : Except String Value :=
  parseWith (readValue maxNesting) text

/-! ### Passing over a value -/

/-- A container that is being passed over. -/
inductive Frame where
  | array
  | object
  deriving DecidableEq, Repr

/-- Pass over the digits of a fraction and of an exponent. -/
def skipExponent (bytes : Bytes) : Except Fault (Unit × Bytes) :=
  let bytes :=
    match bytes with
    | byte :: rest => if byte = ascii '+' ∨ byte = ascii '-' then rest else bytes
    | [] => []
  match bytes with
  | [] => refuse .badNumber []
  | byte :: rest =>
    if isDigit byte then .ok ((), rest.dropWhile isDigit) else refuse .badNumber rest

/-- Pass over what may follow the whole part of a number. -/
def skipTail : Bytes → Except Fault (Unit × Bytes)
  | [] => .ok ((), [])
  | byte :: rest =>
    if byte = ascii '.' then
      let after := rest.dropWhile isDigit
      if after.length = rest.length then refuseAhead .badNumber rest
      else
        match after with
        | [] => .ok ((), [])
        | byte :: rest => if opensExponent byte then skipExponent rest else .ok ((), byte :: rest)
    else if opensExponent byte then skipExponent rest
    else .ok ((), byte :: rest)

/-- Pass over a number, after its sign. -/
def skipNumber : Bytes → Except Fault (Unit × Bytes)
  | [] => refuse .badNumber []
  | byte :: rest =>
    if byte = ascii '0' then
      match rest with
      | next :: _ => if isDigit next then refuseAhead .badNumber rest else skipTail rest
      | [] => .ok ((), [])
    else if isDigit byte then skipTail (rest.dropWhile isDigit)
    else refuse .badNumber rest

/-- Pass over an escape, after the backslash; the number of a `\u` escape may be any. -/
def skipEscape : Bytes → Except Fault (Unit × Bytes)
  | [] => refuse .unfinishedString []
  | byte :: rest =>
    if byte = ascii 'u' then do
      let (_, rest) ← readHex rest
      .ok ((), rest)
    else if (['"', '\\', '/', 'b', 'f', 'n', 'r', 't'].map ascii).contains byte then .ok ((), rest)
    else refuse .badEscape rest

/-- Pass over a string, after its opening quotation mark. -/
def skipString : Nat → Bytes → Except Fault (Unit × Bytes)
  | 0, rest => refuse .unfinishedString rest
  | _ + 1, [] => refuse .unfinishedString []
  | fuel + 1, byte :: rest =>
    if byte = ascii '"' then .ok ((), rest)
    else if byte = ascii '\\' then do
      let (_, rest) ← skipEscape rest
      skipString fuel rest
    else if byte < 0x20 then refuse .controlInString (byte :: rest)
    else skipString fuel rest

/-- Pass over the name of a member and its colon. -/
def skipKey (bytes : Bytes) : Except Fault (Unit × Bytes) :=
  match skipSpace bytes with
  | [] => refuseAhead .unfinishedObject []
  | byte :: rest =>
    if byte = ascii '"' then do
      let (_, rest) ← skipString (rest.length + 1) rest
      readColon rest
    else refuseAhead .keyNotString (byte :: rest)

/-- Pass over a value that is a name, a number or a string. -/
def skipAtom (byte : UInt8) (rest : Bytes) : Except Fault (Unit × Bytes) :=
  if byte = ascii 'n' then readName "ull".toList rest
  else if byte = ascii 't' then readName "rue".toList rest
  else if byte = ascii 'f' then readName "alse".toList rest
  else if byte = ascii '-' then skipNumber rest
  else if isDigit byte then skipNumber (byte :: rest)
  else if byte = ascii '"' then skipString (rest.length + 1) rest
  else refuseAhead .noValue (byte :: rest)

/-- The refusals of a container that does not end, and of one whose parts are not separated. -/
def Frame.causes : Frame → Cause × Cause
  | .array => (.unfinishedArray, .missingArrayComma)
  | .object => (.unfinishedObject, .missingObjectComma)

/-- The byte that closes a container. -/
def Frame.closer : Frame → UInt8
  | .array => ascii ']'
  | .object => ascii '\x7d'

mutual

/-- Pass over a value inside the containers `frames`, and over the rest of those. -/
def skipInside : Nat → List Frame → Bytes → Except Fault (Unit × Bytes)
  | 0, _, rest => refuseAhead .unfinishedValue rest
  | fuel + 1, frames, bytes =>
    match skipSpace bytes with
    | [] => refuseAhead .unfinishedValue []
    | byte :: rest =>
      if byte = ascii '[' then skipPart fuel false .array frames rest
      else if byte = ascii '\x7b' then skipPart fuel false .object frames rest
      else do
        let (_, rest) ← skipAtom byte rest
        match frames with
        | [] => .ok ((), rest)
        | frame :: frames => skipPart fuel true frame frames rest

/-- Go to the next part of the container `frame`, or to the end of it. After a part a comma may
come, and after a comma a part has to. -/
def skipPart : Nat → Bool → Frame → List Frame → Bytes → Except Fault (Unit × Bytes)
  | 0, _, _, _, rest => refuseAhead .unfinishedValue rest
  | fuel + 1, afterPart, frame, frames, bytes =>
    match skipSpace bytes with
    | [] => refuseAhead frame.causes.1 []
    | byte :: rest =>
      if byte = frame.closer then
        match frames with
        | [] => .ok ((), rest)
        | outer :: frames => skipPart fuel true outer frames rest
      else if afterPart ∧ byte ≠ ascii ',' then refuseAhead frame.causes.2 (byte :: rest)
      else
        let next := if afterPart then rest else byte :: rest
        match frame with
        | .array => skipInside fuel (frame :: frames) next
        | .object => do
          let (_, next) ← skipKey next
          skipInside fuel (frame :: frames) next

end

/-- **Pass over a value**, however deep. -/
def skipValue (bytes : Bytes) : Except Fault (Unit × Bytes) :=
  skipInside (2 * bytes.length + 2) [] bytes

end GlassTty.Json
