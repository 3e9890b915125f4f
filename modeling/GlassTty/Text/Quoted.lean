import GlassTty.Text.Visible

/-!
# Quoted text

Messages quote the text they complain about so that every character of it can be told apart: the
text stands between double quotes, the six characters with a short name are escaped by it, and a
hidden character is written by its number, `\u` and hexadecimal digits in braces
(`GlassTty.Text.quote`). An apostrophe needs no escape.
-/

namespace GlassTty.Text

/-- The hexadecimal digits of a number, small letters, without leading zeros. -/
def hex (n : Nat) : List Char :=
  Nat.toDigits 16 n

/-- One character as it stands in quoted text. -/
def quoteChar (c : Char) : List Char :=
  match c with
  | '\x00' => ['\\', '0']
  | '\t' => ['\\', 't']
  | '\r' => ['\\', 'r']
  | '\n' => ['\\', 'n']
  | '"' => ['\\', '"']
  | '\\' => ['\\', '\\']
  | c => if isVisible c then [c] else ['\\', 'u', '\x7b'] ++ hex c.toNat ++ ['\x7d']

/-- **The quoted form** of a text. -/
def quote (text : String) : String :=
  String.ofList (['"'] ++ text.toList.flatMap quoteChar ++ ['"'])

end GlassTty.Text
