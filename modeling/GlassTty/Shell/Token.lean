import GlassTty.Shell.Word

/-!
# Tokens

A script is cut into words, operators and the ends of lines (`GlassTty.Shell.Token`), each with the
number of the line it is on. Blanks separate them, and a `#` where a word could begin opens a
comment. `GlassTty.Shell.tokens` cuts up a whole script; a quotation that does not end is a token of
its own, the last one.

Lines of the script itself may be what a command reads. They begin behind the line that asks for
them and go up to a line with a given mark (`GlassTty.Shell.Awaited`); in the tokens they stand
where the mark was given.
-/

namespace GlassTty.Shell

/-- How a file is attached to a command. -/
inductive Direction where
  /-- To be read. -/
  | input
  /-- To be written anew. -/
  | output
  /-- To be written at its end. -/
  | append
  /-- To be read and written. -/
  | both
  /-- Another descriptor is attached in place of a file. -/
  | duplicate
  /-- Text in the script is to be read, up to a line with a given word. -/
  | here
  deriving DecidableEq, Repr, Inhabited

/-- The operators between commands. -/
inductive Operator where
  | semicolon
  | background
  | andThen
  | orElse
  | pipe
  | openParen
  | closeParen
  | endCase
  deriving DecidableEq, Repr, Inhabited

/-- The text of an operator. -/
def Operator.text : Operator → List Char
  | .semicolon => [';']
  | .background => ['&']
  | .andThen => ['&', '&']
  | .orElse => ['|', '|']
  | .pipe => ['|']
  | .openParen => ['(']
  | .closeParen => [')']
  | .endCase => [';', ';']

/-- A token. -/
inductive Token where
  | word (word : Word)
  | operator (operator : Operator)
  | redirect (descriptor : Nat) (direction : Direction)
  /-- The end of a line. -/
  | newline
  /-- Lines of the script that a command reads. -/
  | body (text : Word)
  /-- A quotation or a bracket that does not end. -/
  | unterminated

instance : Inhabited Token := ⟨.newline⟩

/-- A token and the line it is on. -/
structure Located where
  token : Token
  line : Nat
  deriving Inhabited

/-- The operator that begins a text, and its length. -/
def operatorAt? : List Char → Option (Operator × Nat)
  | '&' :: '&' :: _ => some (.andThen, 2)
  | '&' :: _ => some (.background, 1)
  | '|' :: '|' :: _ => some (.orElse, 2)
  | '|' :: _ => some (.pipe, 1)
  | ';' :: ';' :: _ => some (.endCase, 2)
  | ';' :: _ => some (.semicolon, 1)
  | '(' :: _ => some (.openParen, 1)
  | ')' :: _ => some (.closeParen, 1)
  | _ => none

/-- The direction that begins a text, the descriptor it is about and its length. -/
def directionAt? : List Char → Option (Direction × Nat × Nat)
  | '<' :: '<' :: _ => some (.here, 0, 2)
  | '<' :: '&' :: _ => some (.duplicate, 0, 2)
  | '<' :: '>' :: _ => some (.both, 0, 2)
  | '<' :: _ => some (.input, 0, 1)
  | '>' :: '>' :: _ => some (.append, 1, 2)
  | '>' :: '&' :: _ => some (.duplicate, 1, 2)
  | '>' :: '|' :: _ => some (.output, 1, 2)
  | '>' :: _ => some (.output, 1, 1)
  | _ => none

/-- The number that a text of digits is. -/
def decimal? (text : List Char) : Option Nat :=
  if text.isEmpty ∨ !text.all Char.isDigit then none
  else some (text.foldl (fun n c => n * 10 + (c.toNat - 48)) 0)

/-- The number of line ends in a text. -/
def lineCount (text : List Char) : Nat :=
  text.count '\n'

/-! ### Lines that commands read -/

/-- Lines that are asked for. -/
structure Awaited where
  /-- The line behind them. -/
  mark : List Char
  /-- Nothing in them stands for anything else. -/
  literal : Bool
  /-- Tabs that begin a line are left out. -/
  trimmed : Bool
  deriving DecidableEq, Repr, Inhabited

/-- The text of a word that is a mark, and whether some of it is quoted. -/
def markOf (word : Word) : List Char × Bool :=
  (word.flatMap fun part =>
    match part with
    | .text chars _ => chars
    | _ => [],
  word.any fun part =>
    match part with
    | .text _ quoted => quoted
    | _ => false)

/-- The lines up to the mark, what follows it, and the number of lines passed over. -/
def linesTo (awaited : Awaited) : Nat → List Char → List Char × List Char × Nat
  | 0, text => ([], text, 0)
  | fuel + 1, text =>
    if text.isEmpty then ([], [], 0)
    else
      let whole := text.takeWhile (· ≠ '\n')
      let rest := text.drop (whole.length + 1)
      let line := if awaited.trimmed then whole.dropWhile (· = '\t') else whole
      if line = awaited.mark then ([], rest, 1)
      else
        let (lines, after, count) := linesTo awaited fuel rest
        (line ++ '\n' :: lines, after, count + 1)

/-- All lines that are asked for, what follows them, and the number of lines passed over. -/
def bodies : List Awaited → List Char → List Word × List Char × Nat
  | [], text => ([], text, 0)
  | awaited :: more, text =>
    let (lines, rest, count) := linesTo awaited (text.length + 1) text
    let word :=
      if awaited.literal then [.text lines true] else ((parts? .here lines).map (·.1)).getD []
    let (words, rest, others) := bodies more rest
    (word :: words, rest, count + others)

/-- Put lines where they are asked for. -/
def placeBodies : List Located → List Word → List Located
  | ⟨.redirect descriptor .here, line⟩ :: ⟨.word _, other⟩ :: rest, body :: more =>
    ⟨.redirect descriptor .here, line⟩ :: ⟨.word body, other⟩ :: placeBodies rest more
  | ⟨.body _, _⟩ :: rest, more => placeBodies rest more
  | token :: rest, more => token :: placeBodies rest more
  | [], _ => []

/-- The lines among tokens. -/
def bodiesIn (tokens : List Located) : List Word :=
  tokens.filterMap fun located =>
    match located.token with
    | .body text => some text
    | _ => none

/-! ### All tokens -/

/-- The mark behind an operator that asks for lines: the word, what is asked for, and what
follows. -/
def awaitedAt? (text : List Char) : Option (Word × Awaited × List Char) :=
  let trimmed := text.head? = some '-'
  let text := (if trimmed then text.drop 1 else text).dropWhile fun c => c = ' ' || c = '\t'
  match parts? .word text with
  | some (word, after) =>
    let (mark, literal) := markOf word
    some (word, { mark, literal, trimmed }, after)
  | none => none

/-- **The tokens of a text** that begins on the given line; the lines that are asked for begin
behind that line. The first number bounds the steps. -/
def tokensFrom : Nat → Nat → List Awaited → List Char → List Located
  | 0, _, _, _ => []
  | _, _, _, [] => []
  | fuel + 1, line, awaited, c :: rest =>
    let redirect (descriptor : Nat) (direction : Direction) (line : Nat) (after : List Char) :
        List Located :=
      match direction, awaitedAt? after with
      | .here, some (word, asked, after) =>
        ⟨.redirect descriptor .here, line⟩ :: ⟨.word word, line⟩ ::
          tokensFrom fuel line (awaited ++ [asked]) after
      | _, _ => ⟨.redirect descriptor direction, line⟩ :: tokensFrom fuel line awaited after
    if c = ' ' ∨ c = '\t' then tokensFrom fuel line awaited rest
    else if c = '\n' then
      let (words, rest, count) := bodies awaited rest
      ⟨.newline, line⟩ :: words.map (⟨.body ·, line⟩) ++ tokensFrom fuel (line + 1 + count) [] rest
    else if c = '#' then tokensFrom fuel line awaited (rest.dropWhile (· ≠ '\n'))
    else if c = '\\' ∧ rest.head? = some '\n' then
      tokensFrom fuel (line + 1) awaited (rest.drop 1)
    else
      match operatorAt? (c :: rest) with
      | some (operator, length) =>
        ⟨.operator operator, line⟩ :: tokensFrom fuel line awaited ((c :: rest).drop length)
      | none =>
        match directionAt? (c :: rest) with
        | some (direction, descriptor, length) =>
          redirect descriptor direction line ((c :: rest).drop length)
        | none =>
          match parts? .word (c :: rest) with
          | none => [⟨.unterminated, line⟩]
          | some (word, after) =>
            let passed := (c :: rest).take (rest.length + 1 - after.length)
            let next := line + lineCount passed
            match word.bare?.bind decimal?, directionAt? after with
            | some descriptor, some (direction, _, length) =>
              redirect descriptor direction next (after.drop length)
            | _, _ => ⟨.word word, line⟩ :: tokensFrom fuel next awaited after

/-- **The tokens of a script** whose first line has a number. -/
def tokensAt (line : Nat) (script : List Char) : List Located :=
  let found := tokensFrom (script.length + 1) line [] script
  placeBodies found (bodiesIn found)

/-- **The tokens of a script.** -/
def tokens (script : List Char) : List Located :=
  tokensAt 1 script

end GlassTty.Shell
