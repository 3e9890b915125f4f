/-!
# Blank characters, trimming and lines

The blank characters are those with the Unicode property `White_Space`. Trimming and splitting into
words go by them (`GlassTty.Text.trim`, `GlassTty.Text.words`); splitting into lines goes by the
line feed, and a carriage return right before it belongs to the line end (`GlassTty.Text.lines`).

Texts are lists of characters here: every rule below is a recursion over the text.
-/

namespace GlassTty

/-- The characters with the property `White_Space`, as ranges of code points. -/
def blankRanges : List (Nat × Nat) :=
  [(0x09, 0x0D), (0x20, 0x20), (0x85, 0x85), (0xA0, 0xA0), (0x1680, 0x1680), (0x2000, 0x200A),
    (0x2028, 0x2029), (0x202F, 0x202F), (0x205F, 0x205F), (0x3000, 0x3000)]

/-- Whether a character is blank. -/
def isBlank (c : Char) : Bool :=
  blankRanges.any fun (first, last) => first ≤ c.toNat && c.toNat ≤ last

namespace Text

/-- The text without its blank beginning. -/
def trimStart (text : List Char) : List Char :=
  text.dropWhile isBlank

/-- The text without its blank end. -/
def trimEnd (text : List Char) : List Char :=
  (text.reverse.dropWhile isBlank).reverse

/-- The text without its blank beginning and end. -/
def trim (text : List Char) : List Char :=
  trimEnd (trimStart text)

/-- Whether all of a text is blank. -/
def allBlank (text : List Char) : Bool :=
  text.all isBlank

/-- The maximal parts of a text between the characters that satisfy `stop`: one more than there are
such characters. -/
def splitAt (stop : Char → Bool) : List Char → List (List Char)
  | [] => [[]]
  | c :: rest =>
    if stop c then [] :: splitAt stop rest
    else
      match splitAt stop rest with
      | [] => [[c]]
      | part :: parts => (c :: part) :: parts

/-- The words of a text: its maximal parts without a blank. -/
def words (text : List Char) : List (List Char) :=
  (splitAt isBlank text).filter (!·.isEmpty)

/-- The lines of a text. A line feed ends a line, together with one carriage return before it; what
follows the last line feed is a line only if there is any. -/
def lines (text : List Char) : List (List Char) :=
  let ended := splitAt (· == '\n') text
  let unterminated := ended.getLast?.getD []
  let terminated := ended.dropLast.map fun line =>
    if line.getLast? = some '\r' then line.dropLast else line
  if unterminated.isEmpty then terminated else terminated ++ [unterminated]

/-- The rest of a text after `start`, if it begins so. -/
def dropPrefix? (start text : List Char) : Option (List Char) :=
  match start, text with
  | [], rest => some rest
  | _ :: _, [] => none
  | c :: start, d :: rest => if c = d then dropPrefix? start rest else none

/-- Whether a text begins with `start`. -/
def hasPrefix (start text : List Char) : Bool :=
  (dropPrefix? start text).isSome

/-- What stands before the first occurrence of `part` and what follows it. -/
def cut? (part : List Char) : List Char → Option (List Char × List Char)
  | [] => if part.isEmpty then some ([], []) else none
  | c :: rest =>
    match dropPrefix? part (c :: rest) with
    | some after => some ([], after)
    | none => (cut? part rest).map fun (before, after) => (c :: before, after)

/-- Put `new` for each occurrence of `old`, found from the left without overlap. `skip` counts the
characters of an occurrence that are still to be passed over. -/
def replaceFrom (old new : List Char) : Nat → List Char → List Char
  | _, [] => []
  | skip + 1, _ :: rest => replaceFrom old new skip rest
  | 0, c :: rest =>
    if hasPrefix old (c :: rest) then new ++ replaceFrom old new (old.length - 1) rest
    else c :: replaceFrom old new 0 rest

/-- Put `new` for each occurrence of the nonempty text `old`. -/
def replaceAll (old new text : List Char) : List Char :=
  replaceFrom old new 0 text

/-- The text with ASCII capital letters made small. -/
def asciiLower (text : List Char) : List Char :=
  text.map Char.toLower

/-- The parts joined by `between`. -/
def join (between : List Char) : List (List Char) → List Char
  | [] => []
  | [part] => part
  | part :: parts => part ++ between ++ join between parts

end Text

end GlassTty
