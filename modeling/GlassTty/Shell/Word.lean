import GlassTty.Text.Blank

/-!
# The words of the shell language

A word of a command is a list of parts (`GlassTty.Shell.Part`): text, and what stands for text, the
value of a parameter, an arithmetic expression or the output of a command. Each part is quoted or
not. `GlassTty.Shell.parts?` reads the parts of a word up to the character that ends it.
-/

namespace GlassTty.Shell

mutual

/-- A part of a word. -/
inductive Part where
  | text (chars : List Char) (quoted : Bool)
  | parameter (name : List Char) (use : Use) (quoted : Bool)
  | arithmetic (expression : List Part) (quoted : Bool)
  /-- The output of the commands in a script. -/
  | output (script : List Char) (quoted : Bool)
  /-- What commands in its place have put out. -/
  | value (text : List Char) (quoted : Bool)

/-- How the value of a parameter is used. Where a colon is given, an empty value counts as none. -/
inductive Use where
  | value
  | length
  /-- A word for a parameter without a value. -/
  | fallback (colon : Bool) (word : List Part)
  /-- The same, and the parameter is set to the word. -/
  | assign (colon : Bool) (word : List Part)
  /-- A message about a parameter without a value. -/
  | require (colon : Bool) (word : List Part)
  /-- A word for a parameter that has a value. -/
  | alternative (colon : Bool) (word : List Part)
  /-- The value without what matches a pattern at its beginning or its end. -/
  | trim (atEnd : Bool) (longest : Bool) (pattern : List Part)

end

/-- A word. -/
abbrev Word := List Part

instance : Inhabited Part := ⟨.text [] false⟩

namespace Word

/-- Put a character before a word, into its first part if that is text of the same kind. -/
def cons (c : Char) (quoted : Bool) (word : Word) : Word :=
  match word with
  | .text chars q :: rest =>
    if q = quoted then .text (c :: chars) q :: rest else .text [c] quoted :: .text chars q :: rest
  | _ => .text [c] quoted :: word

/-- The text of a word in which nothing is quoted or stands for something else. -/
def bare? : Word → Option (List Char)
  | [.text chars false] => some chars
  | _ => none

end Word

/-! ### Characters -/

/-- Whether a character may begin a name. -/
def isNameStart (c : Char) : Bool :=
  c.isAlpha || c = '_'

/-- Whether a character may go on with a name. -/
def isNameChar (c : Char) : Bool :=
  c.isAlphanum || c = '_'

/-- Whether a text is a name. -/
def isName (text : List Char) : Bool :=
  text.head?.any isNameStart && text.all isNameChar

/-- The parameters with a name of one character that is no letter. -/
def specialParameters : List Char := ['@', '*', '#', '?', '$', '!', '-']

/-- Whether a character ends a word. -/
def isMeta (c : Char) : Bool :=
  [' ', '\t', '\n', ';', '&', '|', '<', '>', '(', ')'].contains c

/-! ### What stands between brackets -/

/-- What stands before a quotation mark, and what follows it. -/
def upTo? (mark : Char) : List Char → Option (List Char × List Char)
  | [] => none
  | c :: rest =>
    if c = mark then some ([], rest)
    else (upTo? mark rest).map fun (inside, after) => (c :: inside, after)

/-- What stands before the closing bracket of the bracket that is open, and what follows it.
Brackets inside nest, and quoted text is passed over. The state is the quotation mark that is
open. -/
def closing? (opener closer : Char) : Nat → Option Char → List Char → Option (List Char × List Char)
  | _, _, [] => none
  | depth, quote, '\\' :: c :: rest =>
    if quote = some '\'' ∧ c = '\'' then
      (closing? opener closer depth none rest).map fun (inside, after) =>
        ('\\' :: c :: inside, after)
    else
      (closing? opener closer depth quote rest).map fun (inside, after) =>
        ('\\' :: c :: inside, after)
  | depth, quote, c :: rest =>
    let keep (depth : Nat) (quote : Option Char) : Option (List Char × List Char) :=
      (closing? opener closer depth quote rest).map fun (inside, after) => (c :: inside, after)
    match quote with
    | some mark => keep depth (if c = mark then none else quote)
    | none =>
      if c = '\'' ∨ c = '"' then keep depth (some c)
      else if c = opener then keep (depth + 1) none
      else if c = closer then
        match depth with
        | 0 => some ([], rest)
        | depth + 1 => keep depth none
      else keep depth none

/-- What stands between back quotes, a backslash taken off the characters it protects: a quotation
mark is one of them between quotation marks. -/
def upToBackquote? (quoted : Bool) : List Char → Option (List Char × List Char)
  | [] => none
  | '\x60' :: rest => some ([], rest)
  | '\\' :: c :: rest =>
    (upToBackquote? quoted rest).map fun (inside, after) =>
      if c = '\x60' ∨ c = '\\' ∨ c = '$' ∨ (quoted ∧ c = '"') then (c :: inside, after)
      else ('\\' :: c :: inside, after)
  | c :: rest => (upToBackquote? quoted rest).map fun (inside, after) => (c :: inside, after)

/-! ### Reading -/

/-- What a text is read as. -/
inductive Mode where
  /-- A word that ends before a character that separates words. -/
  | word
  /-- What stands between double quotes. -/
  | quoted
  /-- The whole of a text, quotes being heeded. -/
  | whole
  /-- The whole of a text that stands between double quotes. -/
  | wholeQuoted
  /-- The whole of a text to be read by a command, in which quotes stand for themselves. -/
  | here
  deriving DecidableEq, Repr, Inhabited

/-- Whether text is quoted where it is read so. -/
def Mode.isQuoted : Mode → Bool
  | .word => false
  | .quoted => true
  | .whole => false
  | .wholeQuoted => true
  | .here => true

/-- The name of the parameter that begins a text. -/
def parameterName (text : List Char) : List Char :=
  match text with
  | [] => []
  | c :: rest =>
    if isNameStart c then c :: rest.takeWhile isNameChar
    else if c.isDigit ∨ specialParameters.contains c then [c]
    else []

/-- The operators behind the name of a parameter, and what they make of the word behind them. A
pattern is read as if nothing around it were quoted. -/
def useOf? (operator : List Char) (read readPattern : List Char → Option Word) : Option Use :=
  match operator with
  | [] => some .value
  | ':' :: '-' :: word => (read word).map (.fallback true)
  | '-' :: word => (read word).map (.fallback false)
  | ':' :: '=' :: word => (read word).map (.assign true)
  | '=' :: word => (read word).map (.assign false)
  | ':' :: '?' :: word => (read word).map (.require true)
  | '?' :: word => (read word).map (.require false)
  | ':' :: '+' :: word => (read word).map (.alternative true)
  | '+' :: word => (read word).map (.alternative false)
  | '#' :: '#' :: word => (readPattern word).map (.trim false true)
  | '#' :: word => (readPattern word).map (.trim false false)
  | '%' :: '%' :: word => (readPattern word).map (.trim true true)
  | '%' :: word => (readPattern word).map (.trim true false)
  | _ => none

/-- The parameter between braces. -/
def braced? (inside : List Char) (quoted : Bool) (read readPattern : List Char → Option Word) :
    Option Part :=
  match inside with
  | '#' :: name =>
    if !name.isEmpty ∧ parameterName name = name then some (.parameter name .length quoted)
    else (useOf? name read readPattern).map (.parameter ['#'] · quoted)
  | _ =>
    let name :=
      if inside.head?.any Char.isDigit then inside.takeWhile Char.isDigit else parameterName inside
    if name.isEmpty then none
    else (useOf? (inside.drop name.length) read readPattern).map (.parameter name · quoted)

/-- **The parts of a text** and what follows them; none if a quotation or a bracket does not end, or
what stands between braces is no parameter. The number bounds the steps. -/
def partsFrom? : Nat → Mode → List Char → Option (Word × List Char)
  | 0, _, _ => none
  | fuel + 1, mode, text =>
    let quoted := mode.isQuoted
    let add (part : Part) (rest : List Char) : Option (Word × List Char) :=
      (partsFrom? fuel mode rest).map fun (word, after) => (part :: word, after)
    let addChar (c : Char) (quoted : Bool) (rest : List Char) : Option (Word × List Char) :=
      (partsFrom? fuel mode rest).map fun (word, after) => (word.cons c quoted, after)
    match text with
    | [] => if mode = .quoted then none else some ([], [])
    | '\\' :: '\n' :: rest => partsFrom? fuel mode rest
    | '\\' :: c :: rest =>
      let isQuote := c = '"' && mode ≠ .here
      if !quoted ∨ isQuote ∨ ['$', '\x60', '\\'].contains c then addChar c true rest
      else addChar '\\' true (c :: rest)
    | '$' :: '(' :: '(' :: rest =>
      match closing? '(' ')' 1 none rest with
      | some (inside, after) =>
        match inside.reverse with
        | ')' :: expression =>
          match partsFrom? fuel .wholeQuoted expression.reverse with
          | some (word, _) => add (.arithmetic word quoted) after
          | none => none
        | _ => add (.output ('(' :: inside) quoted) after
      | none => none
    | '$' :: '(' :: rest =>
      match closing? '(' ')' 0 none rest with
      | some (inside, after) => add (.output inside quoted) after
      | none => none
    | '$' :: '\x7b' :: rest =>
      match closing? '\x7b' '\x7d' 0 none rest with
      | some (inside, after) =>
        let read (mode : Mode) (word : List Char) : Option Word :=
          (partsFrom? fuel mode word).map (·.1)
        let inside? := braced? inside quoted (read (if quoted then .wholeQuoted else .whole))
        match inside? (read .whole) with
        | some part => add part after
        | none => none
      | none => none
    | '$' :: rest =>
      let name := parameterName rest
      if name.isEmpty then addChar '$' quoted rest
      else add (.parameter name .value quoted) (rest.drop name.length)
    | '\x60' :: rest =>
      match upToBackquote? quoted rest with
      | some (inside, after) => add (.output inside quoted) after
      | none => none
    | '"' :: rest =>
      match mode with
      | .quoted => some ([], rest)
      | .wholeQuoted => partsFrom? fuel mode rest
      | .here => addChar '"' true rest
      | _ =>
        match partsFrom? fuel .quoted rest with
        | some (inside, after) =>
          (partsFrom? fuel mode after).map fun (word, after) =>
            (.text [] true :: inside ++ word, after)
        | none => none
    | '\'' :: rest =>
      if quoted then addChar '\'' true rest
      else
        match upTo? '\'' rest with
        | some (inside, after) => add (.text inside true) after
        | none => none
    | c :: rest =>
      if mode = .word ∧ isMeta c then some ([], c :: rest) else addChar c quoted rest

/-- The parts of a text and what follows them. -/
def parts? (mode : Mode) (text : List Char) : Option (Word × List Char) :=
  partsFrom? (2 * text.length + 2) mode text

end GlassTty.Shell
