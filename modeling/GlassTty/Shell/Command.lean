import GlassTty.Shell.Token

/-!
# Commands

What the shell runs (`GlassTty.Shell.Command`), and how it is read from tokens. A script is read one
complete command after the other, each up to the end of its line
(`GlassTty.Shell.readComplete?`), so that what comes first is run even if what follows cannot be
read. A command that is not complete when the tokens end is told apart from one that is wrong
(`GlassTty.Shell.GrammarFault`).
-/

namespace GlassTty.Shell

/-- A file that is attached to a command. -/
structure Redirect where
  descriptor : Nat
  direction : Direction
  target : Word
  deriving Inhabited

/-- A command. -/
inductive Command where
  | nothing
  /-- Words, the first being the name of what is run, behind variables that are set for it. -/
  | simple (line : Nat) (assignments : List (List Char × Word)) (words : List Word)
    (redirects : List Redirect)
  | redirected (body : Command) (redirects : List Redirect)
  | pipeline (commands : List Command)
  | negated (body : Command)
  | andThen (first second : Command)
  | orElse (first second : Command)
  | sequence (first second : Command)
  | background (body : Command)
  | subshell (body : Command)
  | choose (condition yes no : Command)
  /-- The body again and again, while the condition holds or until it does. -/
  | loop (untilTrue : Bool) (condition body : Command)
  /-- The body once for each value, or for each argument of the shell. -/
  | forEach (name : List Char) (values : Option (List Word)) (body : Command)
  /-- The body behind the first pattern that matches. -/
  | byPattern (word : Word) (clauses : List (List Word × Command))
  | define (name : List Char) (body : Command)
  deriving Inhabited

/-- Why no command can be read. -/
inductive GrammarFault where
  /-- A token that cannot stand where it is, and the word that could. -/
  | unexpected (found : List Char) (line : Nat) (expecting : List Char)
  /-- The tokens end before the command does. -/
  | incomplete (expecting : List Char)
  /-- A quotation does not end. -/
  | unterminated (line : Nat)
  deriving DecidableEq, Repr, Inhabited

/-- The words that have a meaning of their own at the beginning of a command. -/
def reservedWords : List (List Char) :=
  ["if", "then", "else", "elif", "fi", "while", "until", "do", "done", "for", "in", "case", "esac",
    "!", "\x7b", "\x7d"].map String.toList

/-- The reserved words that end a list of commands. -/
def closingWords : List (List Char) :=
  ["then", "else", "elif", "fi", "do", "done", "esac", "\x7d"].map String.toList

/-- The text of a token that is a word without anything quoted. -/
def Token.bare? (token : Token) : Option (List Char) :=
  match token with
  | .word parts => Word.bare? parts
  | _ => none

/-- What a token is called in a message. -/
def Token.describe (token : Token) : List Char :=
  match token with
  | .operator op => '"' :: op.text ++ ['"']
  | .redirect _ _ => "redirection".toList
  | .newline => "newline".toList
  | _ =>
    match token.bare? with
    | some text => if reservedWords.contains text then '"' :: text ++ ['"'] else "word".toList
    | none => "word".toList

/-- Whether a token ends a line. -/
def Token.isNewline (token : Token) : Bool :=
  match token with
  | .newline => true
  | _ => false

/-! ### Reading tokens -/

/-- A reader: it takes tokens from the front of those that are left. -/
abbrev Reader := StateT (List Located) (Except GrammarFault)

/-- Object to the first token. -/
def refuse {α : Type} (expecting : String) : Reader α := do
  match ← get with
  | [] => throw (.incomplete expecting.toList)
  | ⟨.unterminated, line⟩ :: _ => throw (.unterminated line)
  | ⟨token, line⟩ :: _ => throw (.unexpected token.describe line expecting.toList)

/-- Pass over so many tokens. -/
def skip (count : Nat) : Reader Unit :=
  modify (·.drop count)

/-- Pass over the ends of lines. -/
def skipNewlines : Reader Unit :=
  modify (·.dropWhile (·.token.isNewline))

/-- The text of the first token, if it is a word without anything quoted. -/
def headWord? : Reader (Option (List Char)) := do
  return (← get).head?.bind (·.token.bare?)

/-- The first token, if it is an operator. -/
def headOperator? : Reader (Option Operator) := do
  match ← get with
  | ⟨.operator operator, _⟩ :: _ => return some operator
  | _ => return none

/-- Read a reserved word. -/
def expectWord (word : String) : Reader Unit := do
  if (← headWord?) = some word.toList then skip 1 else refuse ("\"" ++ word ++ "\"")

/-- Read an operator. -/
def expectOperator (operator : Operator) : Reader Unit := do
  if (← headOperator?) = some operator then skip 1
  else refuse ("\"" ++ String.ofList operator.text ++ "\"")

/-- Read any word. -/
def readWord : Reader Word := do
  match ← get with
  | ⟨.word parts, _⟩ :: rest =>
    set rest
    return parts
  | _ => refuse "word"

/-- Whether a list of commands ends here. -/
def atListEnd : Reader Bool := do
  match ← get with
  | [] => return true
  | ⟨.operator .closeParen, _⟩ :: _ => return true
  | ⟨.operator .endCase, _⟩ :: _ => return true
  | _ => return (← headWord?).any closingWords.contains

/-! ### Simple commands -/

/-- A word that sets a variable: its name and its value. -/
def assignment? (word : Word) : Option (List Char × Word) :=
  match word with
  | .text chars false :: rest =>
    match upTo? '=' chars with
    | some (name, value) =>
      if isName name then
        some (name, if value.isEmpty then rest else .text value false :: rest)
      else none
    | none => none
  | _ => none

/-- Read the redirections behind a compound command. The number bounds the steps. -/
def readRedirects : Nat → Reader (List Redirect)
  | 0 => return []
  | fuel + 1 => do
    match ← get with
    | ⟨.redirect descriptor direction, _⟩ :: _ =>
      skip 1
      let target ← readWord
      return { descriptor, direction, target } :: (← readRedirects fuel)
    | _ => return []

/-- What a simple command consists of. -/
structure SimpleParts where
  assignments : List (List Char × Word) := []
  words : List Word := []
  redirects : List Redirect := []
  deriving Inhabited

/-- Read a simple command: variables, words and redirections in any order, no variables behind the
first word. -/
def readSimple : Nat → SimpleParts → Reader SimpleParts
  | 0, parts => return parts
  | fuel + 1, parts => do
    match ← get with
    | ⟨.word word, _⟩ :: _ =>
      skip 1
      match (if parts.words.isEmpty then assignment? word else none) with
      | some assignment =>
        readSimple fuel { parts with assignments := parts.assignments ++ [assignment] }
      | none => readSimple fuel { parts with words := parts.words ++ [word] }
    | ⟨.redirect descriptor direction, _⟩ :: _ =>
      skip 1
      let target ← readWord
      readSimple fuel
        { parts with redirects := parts.redirects ++ [{ descriptor, direction, target }] }
    | ⟨.unterminated, _⟩ :: _ => refuse ""
    | _ => return parts

/-- Read a simple command, which has to be there. -/
def readSimpleCommand : Reader Command := do
  if (← headWord?).any closingWords.contains then refuse ""
  else
    let tokens ← get
    let parts ← readSimple (tokens.length + 1) {}
    if parts.assignments.isEmpty ∧ parts.words.isEmpty ∧ parts.redirects.isEmpty then refuse ""
    else
      let line := (tokens.head?.map (·.line)).getD 1
      return .simple line parts.assignments parts.words parts.redirects

/-- Read words up to something else. -/
def readWords : Nat → Reader (List Word)
  | 0 => return []
  | fuel + 1 => do
    match ← get with
    | ⟨.word word, _⟩ :: _ =>
      skip 1
      return word :: (← readWords fuel)
    | _ => return []

/-- Pass over one semicolon, and all ends of lines behind it. -/
def skipSeparator : Reader Unit := do
  if (← headOperator?) = some .semicolon then skip 1
  skipNewlines

/-- Read the patterns of a clause up to its closing bracket. -/
def readPatterns : Nat → Reader (List Word)
  | 0 => return []
  | fuel + 1 => do
    let word ← readWord
    if (← headOperator?) = some .pipe then
      skip 1
      return word :: (← readPatterns fuel)
    else
      expectOperator .closeParen
      return [word]

/-! ### Compound commands -/

mutual

/-- Read a list of commands up to a token that ends it. -/
def readList : Nat → Reader Command
  | 0 => refuse "command"
  | fuel + 1 => do
    skipNewlines
    if ← atListEnd then return .nothing
    else
      let first ← readAndOr fuel
      match ← get with
      | ⟨.operator .background, _⟩ :: _ =>
        skip 1
        return .sequence (.background first) (← readList fuel)
      | ⟨.operator .semicolon, _⟩ :: _ =>
        skip 1
        return .sequence first (← readList fuel)
      | ⟨.newline, _⟩ :: _ => return .sequence first (← readList fuel)
      | _ => return first

/-- Read a list of commands of which there has to be one, unless the tokens end. -/
def readBody : Nat → Reader Command
  | 0 => refuse "command"
  | fuel + 1 => do
    skipNewlines
    if !(← get).isEmpty && (← atListEnd) then refuse "" else readList fuel

/-- Read pipelines that depend on each other. -/
def readAndOr : Nat → Reader Command
  | 0 => refuse "command"
  | fuel + 1 => do
    let first ← readPipeline fuel
    readAndOrFrom fuel first

/-- Read the pipelines behind a first one. -/
def readAndOrFrom : Nat → Command → Reader Command
  | 0, _ => refuse "command"
  | fuel + 1, first => do
    match ← headOperator? with
    | some .andThen =>
      skip 1
      skipNewlines
      let second ← readPipeline fuel
      readAndOrFrom fuel (.andThen first second)
    | some .orElse =>
      skip 1
      skipNewlines
      let second ← readPipeline fuel
      readAndOrFrom fuel (.orElse first second)
    | _ => return first

/-- Read a pipeline. -/
def readPipeline : Nat → Reader Command
  | 0 => refuse "command"
  | fuel + 1 => do
    if (← headWord?) = some ['!'] then
      skip 1
      return .negated (← readPipeline fuel)
    else
      let first ← readCommand fuel
      let more ← readPipes fuel
      return if more.isEmpty then first else .pipeline (first :: more)

/-- Read the commands behind the pipes. -/
def readPipes : Nat → Reader (List Command)
  | 0 => refuse "command"
  | fuel + 1 => do
    if (← headOperator?) = some .pipe then
      skip 1
      skipNewlines
      let command ← readCommand fuel
      return command :: (← readPipes fuel)
    else return []

/-- Read a command and the redirections behind it. -/
def readCommand : Nat → Reader Command
  | 0 => refuse "command"
  | fuel + 1 => do
    match ← readCompound fuel with
    | some body =>
      let redirects ← readRedirects ((← get).length + 1)
      return if redirects.isEmpty then body else .redirected body redirects
    | none =>
      match ← get with
      | ⟨.word name, _⟩ :: ⟨.operator .openParen, _⟩ :: ⟨.operator .closeParen, _⟩ :: rest =>
        match Word.bare? name with
        | some name =>
          set rest
          skipNewlines
          return .define name (← readCommand fuel)
        | none => refuse ""
      | _ => readSimpleCommand

/-- Read a compound command, if there is one. -/
def readCompound : Nat → Reader (Option Command)
  | 0 => refuse "command"
  | fuel + 1 => do
    if (← headOperator?) = some .openParen then
      skip 1
      let body ← readBody fuel
      expectOperator .closeParen
      return some (.subshell body)
    else
      match (← headWord?).map String.ofList with
      | some "\x7b" =>
        skip 1
        let body ← readBody fuel
        expectWord "\x7d"
        return some (.sequence .nothing body)
      | some "if" =>
        skip 1
        return some (← readChoice fuel)
      | some "while" =>
        skip 1
        return some (← readLoop fuel false)
      | some "until" =>
        skip 1
        return some (← readLoop fuel true)
      | some "for" =>
        skip 1
        return some (← readForEach fuel)
      | some "case" =>
        skip 1
        return some (← readCase fuel)
      | _ => return none

/-- Read what follows an `if` or `elif`. -/
def readChoice : Nat → Reader Command
  | 0 => refuse "command"
  | fuel + 1 => do
    let condition ← readBody fuel
    expectWord "then"
    let yes ← readBody fuel
    match (← headWord?).map String.ofList with
    | some "elif" =>
      skip 1
      return .choose condition yes (← readChoice fuel)
    | some "else" =>
      skip 1
      let no ← readBody fuel
      expectWord "fi"
      return .choose condition yes no
    | _ =>
      expectWord "fi"
      return .choose condition yes .nothing

/-- Read what stands between `do` and `done`. -/
def readDo : Nat → Reader Command
  | 0 => refuse "command"
  | fuel + 1 => do
    expectWord "do"
    let body ← readBody fuel
    expectWord "done"
    return body

/-- Read what follows a `while` or `until`. -/
def readLoop : Nat → Bool → Reader Command
  | 0, _ => refuse "command"
  | fuel + 1, untilTrue => do
    let condition ← readBody fuel
    let body ← readDo fuel
    return .loop untilTrue condition body

/-- Read what follows a `for`. -/
def readForEach : Nat → Reader Command
  | 0 => refuse "command"
  | fuel + 1 => do
    match ← headWord? with
    | none => refuse "word"
    | some name =>
      skip 1
      skipNewlines
      let values ←
        if (← headWord?) = some ['i', 'n'] then
          skip 1
          some <$> readWords ((← get).length + 1)
        else pure none
      skipSeparator
      return .forEach name values (← readDo fuel)

/-- Read what follows a `case`. -/
def readCase : Nat → Reader Command
  | 0 => refuse "command"
  | fuel + 1 => do
    let word ← readWord
    skipNewlines
    expectWord "in"
    return .byPattern word (← readClauses fuel)

/-- Read the clauses of a `case` and the word that ends them. -/
def readClauses : Nat → Reader (List (List Word × Command))
  | 0 => refuse "command"
  | fuel + 1 => do
    skipNewlines
    if (← headWord?) = some "esac".toList then
      skip 1
      return []
    else
      if (← headOperator?) = some .openParen then skip 1
      let patterns ← readPatterns ((← get).length + 1)
      let body ← readList fuel
      if (← headOperator?) = some .endCase then
        skip 1
        return (patterns, body) :: (← readClauses fuel)
      else
        expectWord "esac"
        return [(patterns, body)]

end

/-! ### Scripts -/

/-- Read commands up to the end of a line. -/
def readLine : Nat → Reader Command
  | 0 => refuse "command"
  | fuel + 1 => do
    let command ← readAndOr fuel
    let command ← separated command
    match ← get with
    | [] => return command
    | ⟨.newline, _⟩ :: rest =>
      set rest
      return command
    | _ => return .sequence command (← readLine fuel)
where
  /-- Read what may stand between two commands on a line. -/
  separated (command : Command) : Reader Command := do
    match ← get with
    | ⟨.operator .background, _⟩ :: _ =>
      skip 1
      return .background command
    | ⟨.operator .semicolon, _⟩ :: _ =>
      skip 1
      return command
    | [] => return command
    | ⟨.newline, _⟩ :: _ => return command
    | _ => refuse ""

/-- **Read one complete command**, none if there is no other: what it is, and the tokens behind
it. -/
def readComplete? (tokens : List Located) :
    Except GrammarFault (Option Command × List Located) :=
  let tokens := tokens.dropWhile (·.token.isNewline)
  if tokens.isEmpty then .ok (none, [])
  else (some <$> readLine (20 * (tokens.length + 1))).run tokens

/-- The message about a script that cannot be read, with the number of the line it is about. -/
def GrammarFault.message (fault : GrammarFault) (lastLine : Nat) : Nat × List Char :=
  let expectation (expecting : List Char) : List Char :=
    if expecting.isEmpty then [] else " (expecting ".toList ++ expecting ++ [')']
  match fault with
  | .unexpected found line expecting =>
    (line, "Syntax error: ".toList ++ found ++ " unexpected".toList ++ expectation expecting)
  | .incomplete expecting =>
    (lastLine, "Syntax error: end of file unexpected".toList ++ expectation expecting)
  | .unterminated line => (line, "Syntax error: Unterminated quoted string".toList)

end GlassTty.Shell
