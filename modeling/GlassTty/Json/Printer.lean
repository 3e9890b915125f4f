import GlassTty.Json.Value

/-!
# The compact text of a JSON value

No blank stands between the parts of a value (`GlassTty.Json.Value.render`). In a string the
quotation mark, the backslash and the controls are escaped, the common controls by a letter and the
others by number; every other character stands as it is.
-/

namespace GlassTty.Json

/-- The digits of a number in base sixteen, filled up to four. -/
def fourHexDigits (n : Nat) : List Char :=
  let digits := Nat.toDigits 16 n
  List.replicate (4 - digits.length) '0' ++ digits

/-- One character as it stands in a string. -/
def escapeChar (c : Char) : List Char :=
  match c with
  | '"' => ['\\', '"']
  | '\\' => ['\\', '\\']
  | '\x08' => ['\\', 'b']
  | '\x0c' => ['\\', 'f']
  | '\n' => ['\\', 'n']
  | '\r' => ['\\', 'r']
  | '\t' => ['\\', 't']
  | c => if c.toNat < 0x20 then '\\' :: 'u' :: fourHexDigits c.toNat else [c]

/-- The text of a string, with its quotation marks. -/
def renderString (text : String) : List Char :=
  '"' :: text.toList.flatMap escapeChar ++ ['"']

/-- The text of a number. -/
def Number.render : Number → List Char
  | .integer value => Double.integerText value
  | .double value => value.text

namespace Value

mutual

/-- The characters of the compact text of a value. -/
def chars : Value → List Char
  | .null => "null".toList
  | .bool true => "true".toList
  | .bool false => "false".toList
  | .number value => value.render
  | .string text => renderString text
  | .array elements => '[' :: elementChars elements ++ [']']
  | .object members => '\x7b' :: memberChars members ++ ['\x7d']

/-- The characters between the brackets of an array. -/
def elementChars : List Value → List Char
  | [] => []
  | [value] => chars value
  | value :: rest => chars value ++ ',' :: elementChars rest

/-- The characters between the braces of an object. -/
def memberChars : List (String × Value) → List Char
  | [] => []
  | [(name, value)] => renderString name ++ ':' :: chars value
  | (name, value) :: rest => renderString name ++ ':' :: chars value ++ ',' :: memberChars rest

end

/-- **The compact text** of a value. -/
def render (value : Value) : String :=
  String.ofList value.chars

end Value

end GlassTty.Json
