import GlassTty.Computer.Station
import GlassTty.Shell.Format
import GlassTty.Shell.Pattern

/-!
# Programs

The programs that come with a computer, and how one is begun. A name leads to a program by the rules
of the system (`GlassTty.Computer.image`): it has to be that of a file that may be run, and a file
that begins with `#!` names the program that reads it. What a program does with its arguments is
decided when it begins (`GlassTty.Computer.begin`); from then on it is a process body that runs step
by step.

| program | what it does |
|---|---|
| `sh`, `dash`, `bash` | run commands from an argument, a file or the input |
| `cat`, `head`, `tr`, `od`, `wc`, `yes` | put a stream of bytes through a filter |
| `echo`, `printf`, `seq`, `pwd`, `env`, `printenv`, `ls`, `tty` | write something |
| `sleep` | wait |
| `stty` | show and change the settings of the line |
| `mkdir`, `rm`, `touch` | change files |
| `true`, `false` | end with an outcome |
-/

namespace GlassTty.Computer

/-! ### Finding the program -/

/-- Why a file cannot be run. -/
inductive LaunchFault where
  | notFound
  | notPermitted
  /-- The file is no program, but perhaps a script: its content. -/
  | noProgram (content : Bytes)
  deriving DecidableEq, Repr, Inhabited

/-- The line of a script behind its `#!`: the program that reads it and perhaps an argument. -/
def interpreter? (content : Bytes) : Option (List Char × List (List Char)) :=
  match content with
  | 0x23 :: 0x21 :: rest =>
    let line := Text.trim (Utf8.lossy (rest.takeWhile (· ≠ 0x0A)))
    let path := line.takeWhile fun c => c ≠ ' ' && c ≠ '\t'
    let argument := Text.trim (line.drop path.length)
    if path.isEmpty then none else some (path, if argument.isEmpty then [] else [argument])
  | _ => none

/-- **The program that a file name leads to**, and its arguments. The number bounds how often a
script may be read by another script. -/
def image (files : FileSystem) (directory : Place) :
    Nat → List Char → List (List Char) → Except LaunchFault (String × List (List Char))
  | 0, _, _ => .error .notFound
  | fuel + 1, path, arguments =>
    match files.find directory path with
    | .error .notDirectory => .error .notPermitted
    | .error _ => .error .notFound
    | .ok (_, .program name) => .ok (name, arguments)
    | .ok (_, .file content true) =>
      match interpreter? content with
      | some (reader, extra) =>
        image files directory fuel reader (reader :: extra ++ [path] ++ arguments.drop 1)
      | none => .error (.noProgram content)
    | .ok _ => .error .notPermitted

/-- How often a script may be read by another script, and one more. -/
def maxReaders : Nat := 5

/-- The directories of programs, where nothing else is said. -/
def defaultSearchPath : List Char :=
  "/usr/local/sbin:/usr/local/bin:/usr/sbin:/usr/bin:/sbin:/bin".toList

/-- **The file that is run under a name**: the name itself if it has a slash, else the first file of
that name along the search path. -/
def locate? (files : FileSystem) (directory : Place) (searchPath name : List Char) :
    Option (List Char) :=
  if name.contains '/' then some name
  else if name.isEmpty then none
  else
    let candidates := (Text.splitAt (· = ':') searchPath).map fun entry =>
      if entry.isEmpty then name else Path.join entry name
    candidates.find? (files.isProgram directory)

/-! ### What programs need -/

/-- A variable of the environment. -/
abbrev Environment := List (List Char × List Char)

/-- A text with a line end. -/
def lineOf (text : List Char) : Bytes :=
  Utf8.encode (text ++ ['\n'])

/-- Write to the output and end. -/
def answer (bytes : Bytes) : Utility :=
  .say 1 bytes (.finish 0)

/-- Write a message about an error and end. -/
def complain (text : String) (status : Nat) : Utility :=
  .say 2 (utf8Bytes (text ++ "\n")) (.finish status)

/-- What a program says if nobody reads what it writes. -/
def complaint (program self : String) : Bytes :=
  let what :=
    match program with
    | "yes" => "standard output"
    | "head" => "error writing 'standard output'"
    | _ => "write error"
  utf8Bytes (self ++ ": " ++ what ++ ": Broken pipe\n")

/-- The cause of a failure without its number. -/
def reason : FileError → String
  | .notFound => "No such file or directory"
  | .notDirectory => "Not a directory"
  | .isDirectory => "Is a directory"
  | .nameTooLong => "File name too long"
  | .nulInName => "No such file or directory"

/-- **The options and the operands** among arguments. An option is a letter behind a hyphen; those
in `valued` take what follows as their value, the rest of the argument or the next one. The number
bounds the steps. -/
def options (valued : List Char) :
    Nat → List (List Char) → List (Char × List Char) × List (List Char)
  | 0, arguments => ([], arguments)
  | _, [] => ([], [])
  | _, ['-', '-'] :: rest => ([], rest)
  | fuel + 1, ('-' :: c :: more) :: rest =>
    let (value, rest) :=
      if !valued.contains c then ([], if more.isEmpty then rest else ('-' :: more) :: rest)
      else if !more.isEmpty then (more, rest)
      else (rest.head?.getD [], rest.drop 1)
    let (found, operands) := options valued fuel rest
    ((c, value) :: found, operands)
  | fuel + 1, operand :: rest =>
    let (found, operands) := options valued fuel rest
    (found, operand :: operands)

/-- The options and the operands among arguments. -/
def split (valued : String) (arguments : List (List Char)) :
    List (Char × List Char) × List (List Char) :=
  options valued.toList (arguments.flatten.length + arguments.length + 1) arguments

/-- The number that a value is, with a unit behind it perhaps. -/
def amount? (text : List Char) : Option Nat :=
  match text.reverse with
  | 'k' :: digits => (Shell.decimal? digits.reverse).map (· * 1024)
  | 'K' :: digits => (Shell.decimal? digits.reverse).map (· * 1024)
  | 'M' :: digits => (Shell.decimal? digits.reverse).map (· * 1048576)
  | 'b' :: digits => (Shell.decimal? digits.reverse).map (· * 512)
  | _ => Shell.decimal? text

/-! ### Streams -/

/-- Put files through a filter, or the input if none is named. -/
def streamOf (name : String) (files : List (List Char)) (filter : Filter) : Utility :=
  let sourceOf (file : List Char) : Source := if file = ['-'] then .input else .named file
  .stream { name, sources := if files.isEmpty then [.input] else files.map sourceOf, filter }

/-- What is said about a file that cannot be read. -/
def readFault (name : String) (file : List Char) (cause : FileError) : Bytes :=
  utf8Bytes (name ++ ": " ++ String.ofList file ++ ": " ++ reason cause ++ "\n")

/-- Show the beginnings of files. -/
def head (self : String) (arguments : List (List Char)) : Utility :=
  let arguments := arguments.map fun argument =>
    match argument with
    | '-' :: c :: rest => if c.isDigit then '-' :: 'n' :: c :: rest else argument
    | _ => argument
  let (found, files) := split "nc" arguments
  let filter : Filter :=
    match found.lookup 'c' with
    | some value => .firstBytes ((amount? value).getD 0)
    | none => .firstLines (((found.lookup 'n').bind amount?).getD 10)
  streamOf self files filter

/-- The format that is asked for by its name. -/
def dumpFormat? (text : List Char) : Option DumpFormat :=
  match text with
  | 'c' :: _ => some .characters
  | ['x', '1'] => some .hexadecimal
  | ['o', '1'] => some .octal
  | ['u', '1'] => some .decimal
  | ['d', '1'] => some .decimal
  | _ => none

/-- Show bytes by their values. -/
def dump (self : String) (arguments : List (List Char)) : Utility :=
  let (found, files) := split "AtNjw" arguments
  let format :=
    if (found.lookup 'c').isSome then DumpFormat.characters
    else (((found.lookup 't').bind dumpFormat?).getD .octal)
  let filter : Filter :=
    .dump
      { format
        limit := (found.lookup 'N').bind amount?
        placed := found.lookup 'A' ≠ some ['n']
        everyLine := (found.lookup 'v').isSome }
  streamOf self files filter

/-! ### Sets of bytes -/

/-- The bytes of a class. -/
def classBytes (name : String) : List UInt8 :=
  let all := (List.range 128).map Char.ofNat
  let chars :=
    match name with
    | "upper" => all.filter Char.isUpper
    | "lower" => all.filter Char.isLower
    | "digit" => all.filter Char.isDigit
    | "alpha" => all.filter Char.isAlpha
    | "alnum" => all.filter Char.isAlphanum
    | "space" => ['\t', '\n', '\x0b', '\x0c', '\r', ' ']
    | "blank" => ['\t', ' ']
    | "punct" => all.filter fun c => '!' ≤ c && c ≤ '~' && !c.isAlphanum
    | "cntrl" => all.filter fun c => c < ' ' || c = '\x7f'
    | "print" => all.filter fun c => ' ' ≤ c && c ≤ '~'
    | "graph" => all.filter fun c => '!' ≤ c && c ≤ '~'
    | _ => []
  chars.map fun c => UInt8.ofNat c.toNat

/-- The first byte of a set, and what follows it. -/
def firstOfSet? (text : Bytes) : Option (UInt8 × Bytes) :=
  match text with
  | [] => none
  | 0x5C :: byte :: rest =>
    let (bytes, length) := Shell.Format.escape (byte :: rest)
    if length = 0 then some (byte, rest)
    else some (bytes.head?.getD byte, (byte :: rest).drop length)
  | byte :: rest => some (byte, rest)

/-- The bytes of a set: bytes, ranges and classes. The number bounds the steps. -/
def setBytes : Nat → Bytes → List UInt8
  | 0, _ => []
  | fuel + 1, 0x5B :: 0x3A :: rest =>
    let name := rest.takeWhile (· ≠ 0x3A)
    classBytes (Utf8.lossyString name) ++ setBytes fuel (rest.drop (name.length + 2))
  | fuel + 1, text =>
    match firstOfSet? text with
    | none => []
    | some (first, 0x2D :: rest) =>
      match firstOfSet? rest with
      | some (last, rest) =>
        (List.range (last.toNat + 1 - first.toNat)).map (fun i => first + UInt8.ofNat i) ++
          setBytes fuel rest
      | none => [first, 0x2D]
    | some (first, rest) => first :: setBytes fuel rest

/-- Put bytes in place of others. -/
def transliterate (self : String) (arguments : List (List Char)) : Utility :=
  let (found, sets) := split "" arguments
  let bytesOf (set : List Char) : List UInt8 :=
    let bytes := Utf8.encode set
    setBytes (bytes.length + 1) bytes
  let first := bytesOf (sets.head?.getD [])
  let complement := (found.lookup 'c').isSome || (found.lookup 'C').isSome
  let replaced :=
    if complement then
      ((List.range 256).map UInt8.ofNat).filter (!first.contains ·)
    else first
  if (found.lookup 'd').isSome then
    streamOf self [] (.transliterate (replaced.map (·, none)))
  else
    match sets[1]? with
    | none =>
      complain (self ++ ": missing operand after '" ++ String.ofList (sets.head?.getD []) ++
        "'\nTwo strings must be given when translating.\nTry '" ++ self ++
        " --help' for more information.") 1
    | some second =>
      let second := bytesOf second
      let last := second.getLast?.getD 0
      let table := replaced.zipIdx.map fun (byte, i) => (byte, some (second[i]?.getD last))
      streamOf self [] (.transliterate table.reverse)

/-- Count lines, words and bytes. -/
def countOf (st : Station) (p : Process) (self : String) (arguments : List (List Char)) : Utility :=
  let (found, files) := split "" arguments
  let has (c : Char) : Bool := (found.lookup c).isSome
  let all := !(has 'l' || has 'w' || has 'c')
  let size :=
    match (files.head?.map (st.files.readFrom p.directory)) with
    | some (.ok data) => (Nat.toDigits 10 data.length).length
    | _ => 7
  let missing? :=
    files.head?.bind fun file =>
      match st.openInput p.directory file with
      | .ok _ => none
      | .error cause => if file = ['-'] then none else some (readFault self file cause)
  let count : Count :=
    { lines := all || has 'l'
      words := all || has 'w'
      bytes := all || has 'c'
      width := size
      name := files.head?.getD [] }
  match missing? with
  | some fault => .say 2 fault (.finish 1)
  | none => streamOf self files (.count count)

/-! ### The line -/

/-- Settings that do not matter here. -/
def otherSettings : List String :=
  ["brkint", "imaxbel", "ignbrk", "parmrk", "inpck", "istrip", "ixany", "ixoff", "iuclc", "iutf8",
    "olcuc", "onlret", "ofill", "noflsh", "tostop", "xcase", "echoprt", "cs7", "cs8", "parenb",
    "parodd", "hupcl", "cstopb", "cread", "clocal", "crtscts", "flusho", "extproc", "tabs", "tab0",
    "nl0", "cr0", "bs0", "vt0", "ff0"]

/-- Settings that come with a value and do not matter here. -/
def otherValues : List String :=
  ["min", "time", "intr", "quit", "erase", "kill", "eof", "eol", "eol2", "susp", "start", "stop",
    "rprnt", "werase", "lnext", "discard", "swtch", "ispeed", "ospeed", "line", "-F", "--file"]

/-- Go through settings: the line, what is written, and perhaps a setting that is none. -/
def applySettings : Nat → Line → List (List Char) → Line × List Char × Option String
  | 0, line, _ => (line, [], none)
  | _, line, [] => (line, [], none)
  | fuel + 1, line, word :: rest =>
    let word := String.ofList word
    let number := (rest.head?.bind Shell.decimal?).getD 0
    match word with
    | "size" =>
      let text := Shell.Scope.numberText line.height ++ ' ' :: Shell.Scope.numberText line.width
      let (line, more, fault) := applySettings fuel line rest
      (line, text ++ '\n' :: more, fault)
    | "rows" => applySettings fuel { line with height := number } (rest.drop 1)
    | "cols" => applySettings fuel { line with width := number } (rest.drop 1)
    | "columns" => applySettings fuel { line with width := number } (rest.drop 1)
    | _ =>
      match line.settings.change? word with
      | some settings => applySettings fuel (line.configure settings) rest
      | none =>
        if otherValues.contains word then applySettings fuel line (rest.drop 1)
        else if otherSettings.any fun other => word = other ∨ word = "-" ++ other then
          applySettings fuel line rest
        else (line, [], some word)

/-- Show and change the settings of the line. -/
def settle (st : Station) (p : Process) (self : String) (arguments : List (List Char)) :
    Utility × Station :=
  let named := arguments.head? = some "-F".toList || arguments.head? = some "--file".toList
  if p.channel? 0 ≠ some .line ∧ !named then
    (complain (self ++ ": 'standard input': Inappropriate ioctl for device") 1, st)
  else
    match applySettings (arguments.length + 1) st.line arguments with
    | (line, text, none) =>
      let resized := line.height ≠ st.line.height || line.width ≠ st.line.width
      let st := { st with line }
      (answer (Utf8.encode text), if resized then st.signalEach [.windowChange] else st)
    | (_, _, some word) =>
      (complain (self ++ ": invalid argument '" ++ word ++ "'\nTry '" ++ self ++
        " --help' for more information.") 1, st)

/-! ### Time -/

/-- The nanoseconds in a second. -/
def nanoseconds : Nat := 1000000000

/-- The nanoseconds that a number of seconds is, with a fraction and a unit perhaps. -/
def duration? (text : List Char) : Option Nat :=
  let (digits, unit) :=
    match text.reverse with
    | 's' :: rest => (rest.reverse, 1)
    | 'm' :: rest => (rest.reverse, 60)
    | 'h' :: rest => (rest.reverse, 3600)
    | _ => (text, 1)
  let whole := digits.takeWhile (· ≠ '.')
  let fraction := (digits.drop (whole.length + 1)).take 9
  if (whole ++ fraction).isEmpty then none
  else do
    let n ← Shell.decimal? (whole ++ fraction)
    return n * nanoseconds * unit / Nat.pow 10 fraction.length

/-- Wait. -/
def sleep (st : Station) (self : String) (arguments : List (List Char)) : Utility :=
  match arguments.find? fun text => (duration? text).isNone with
  | some text =>
    if text = "infinity".toList then .sleepUntil (st.now + nanoseconds * 1000000000)
    else
      complain (self ++ ": invalid time interval '" ++ String.ofList text ++ "'\nTry '" ++ self ++
        " --help' for more information.") 1
  | none => .sleepUntil (st.now + (arguments.filterMap duration?).foldl (· + ·) 0)

/-! ### Files -/

/-- Change files one by one; those that cannot be changed are told about. -/
def changeFiles (st : Station) (name : String) (operands : List (List Char))
    (change : FileSystem → List Char → Except String FileSystem) : Utility × Station :=
  let (files, faults) := operands.foldl
    (fun ((files, faults) : FileSystem × List String) operand =>
      match change files operand with
      | .ok files => (files, faults)
      | .error text => (files, faults ++ [name ++ ": " ++ text ++ "\n"]))
    (st.files, [])
  let status := if faults.isEmpty then 0 else 1
  (.say 2 (utf8Bytes (String.join faults)) (.finish status), { st with files })

/-- Make directories. -/
def makeDirectories (st : Station) (p : Process) (self : String) (arguments : List (List Char)) :
    Utility × Station :=
  let (found, operands) := split "m" arguments
  let all := (found.lookup 'p').isSome
  changeFiles st self operands fun files operand =>
    let fault (text : String) : String :=
      "cannot create directory '" ++ String.ofList operand ++ "': " ++ text
    let bare := (operand.reverse.dropWhile (· = '/')).reverse
    if all then
      match files.find p.directory operand with
      | .ok (_, .directory) => .ok files
      | _ => .ok (files.makeDirectories (FileSystem.placeFrom p.directory operand))
    else
      match files.target p.directory (if bare.isEmpty then operand else bare) with
      | .error .isDirectory => .error (fault "File exists")
      | .error cause => .error (fault (reason cause))
      | .ok place =>
        if (files.nodeAt? place).isSome then .error (fault "File exists")
        else .ok (files.put place .directory)

/-- Remove files. -/
def removeFiles (st : Station) (p : Process) (self : String) (arguments : List (List Char)) :
    Utility × Station :=
  let (found, operands) := split "" arguments
  let deep := (found.lookup 'r').isSome || (found.lookup 'R').isSome
  let force := (found.lookup 'f').isSome
  changeFiles st self operands fun files operand =>
    let fault (text : String) : String :=
      "cannot remove '" ++ String.ofList operand ++ "': " ++ text
    match files.find p.directory operand with
    | .error cause => if force then .ok files else .error (fault (reason cause))
    | .ok (place, .directory) =>
      if deep then
        .ok { files with nodes := files.nodes.filter fun (other, _) => !place.isPrefixOf other }
      else .error (fault "Is a directory")
    | .ok (place, _) =>
      .ok { files with nodes := files.nodes.filter fun (other, _) => other ≠ place }

/-- Make files that are not there. -/
def touchFiles (st : Station) (p : Process) (self : String) (arguments : List (List Char)) :
    Utility × Station :=
  changeFiles st self (split "" arguments).2 fun files operand =>
    match files.find p.directory operand with
    | .ok _ => .ok files
    | .error _ =>
      match files.writeFrom p.directory operand [] with
      | .ok files => .ok files
      | .error cause =>
        .error ("cannot touch '" ++ String.ofList operand ++ "': " ++ reason cause)

/-- The names in a directory, or the name of a file itself. -/
def listFiles (st : Station) (p : Process) (self : String) (arguments : List (List Char)) :
    Utility :=
  let (_, operands) := split "" arguments
  let operand := operands.head?.getD ['.']
  match st.files.find p.directory operand with
  | .error cause =>
    complain (self ++ ": cannot access '" ++ String.ofList operand ++ "': " ++ reason cause) 2
  | .ok (place, .directory) =>
    let names := Shell.Pattern.entries st.files place [.anyText]
    if names.isEmpty then answer []
    else if p.channel? 1 = some .line then answer (lineOf (Text.join [' ', ' '] names))
    else answer (names.flatMap lineOf)
  | .ok _ => answer (lineOf operand)

/-! ### Other programs -/

/-- The text that the program `echo` writes: escapes are replaced only if that is asked for. -/
def echoText (arguments : List (List Char)) : Bytes :=
  let isOption (argument : List Char) : Bool :=
    1 < argument.length && argument.head? = some '-' &&
      (argument.drop 1).all fun c => c = 'n' || c = 'e' || c = 'E'
  let found := (arguments.takeWhile isOption).flatten
  let words := Text.join [' '] (arguments.dropWhile isOption)
  let (text, short) :=
    if found.contains 'e' then Shell.Format.unescape (Utf8.encode words)
    else (Utf8.encode words, false)
  if found.contains 'n' || short then text else text ++ [0x0A]

/-- The numbers from one to another. -/
def sequenceText (arguments : List (List Char)) : Bytes :=
  let numbers := arguments.filterMap fun text => (String.ofList text).toInt?
  let (first, step, last) : Int × Int × Int :=
    match numbers with
    | [last] => (1, 1, last)
    | [first, last] => (first, 1, last)
    | [first, step, last] => (first, step, last)
    | _ => (1, 1, 0)
  let count := if step = 0 then 0 else ((last - first).fdiv step + 1).toNat
  (List.range count).flatMap fun i => lineOf (toString (first + step * Int.ofNat i)).toList

/-- The environment as text. -/
def environmentText (environment : Environment) : Bytes :=
  environment.flatMap fun (name, value) => lineOf (name ++ '=' :: value)

/-- The values of variables, or all of them. -/
def printVariables (environment : Environment) (arguments : List (List Char)) : Utility :=
  if arguments.isEmpty then answer (environmentText environment)
  else
    let values := arguments.filterMap fun name => environment.lookup name
    .say 1 (values.flatMap lineOf) (.finish (if values.length = arguments.length then 0 else 1))

/-! ### Shells -/

/-- The variables of a shell: the environment, what it sets itself, and what it needs. -/
def shellVariables (p : Process) (environment : Environment) :
    List (List Char × Shell.Variable) :=
  let given := (environment.filter fun (name, _) => Shell.isName name).map fun (name, value) =>
    (name, { value, exported := true : Shell.Variable })
  let exported (name : String) : Bool := (given.lookup name.toList).isSome
  let own (name : String) (value : List Char) : List Char × Shell.Variable :=
    (name.toList, { value, exported := name = "PWD" || exported name })
  let ifMissing (name : String) (value : List Char) : List (List Char × Shell.Variable) :=
    if exported name then [] else [own name value]
  let fixed :=
    [own "PWD" (FileSystem.placeText p.directory), own "OPTIND" ['1'],
      own "IFS" [' ', '\t', '\n'], own "PPID" (Shell.Scope.numberText p.parent)]
  given.filter (fun (name, _) => (fixed.lookup name).isNone) ++ fixed ++
    ifMissing "PATH" defaultSearchPath ++ ifMissing "PS1" ['#', ' '] ++
    ifMissing "PS2" ['>', ' '] ++ ifMissing "PS4" ['+', ' ']

/-- The options of a shell, and its other arguments. -/
def shellOptions : List (List Char) → List Char × List (List Char)
  | [] => ([], [])
  | ['-'] :: rest => ([], rest)
  | ['-', '-'] :: rest => ([], rest)
  | ('-' :: letters) :: rest =>
    let (more, operands) := shellOptions rest
    (letters ++ more, operands)
  | operands => ([], operands)

/-- A shell that runs a script. -/
def scriptShell (p : Process) (environment : Environment) (options name : List Char)
    (arguments : List (List Char)) (script : List Char) : Body :=
  .shell
    { scope :=
        { name, arguments, bindings := shellVariables p environment, self := p.pid, options }
      tasks := [.script (Shell.tokens script), .leave] }

/-- Begin a shell. -/
def beginShell (st : Station) (p : Process) (arguments : List (List Char))
    (environment : Environment) : Body :=
  let self := arguments.head?.getD ['s', 'h']
  let (letters, operands) := shellOptions (arguments.drop 1)
  let scope : Shell.Scope :=
    { name := self
      bindings := shellVariables p environment
      self := p.pid
      options := letters }
  if letters.contains 'c' then
    match operands with
    | [] => .utility [] (complain (String.ofList self ++ ": 0: -c requires an argument") 2)
    | script :: rest =>
      scriptShell p environment letters (rest.head?.getD self) (rest.drop 1) script
  else
    let onLine := p.channel? 0 = some .line && p.channel? 1 = some .line
    let listening (arguments : List (List Char)) : Body :=
      .shell
        { scope := { scope with arguments }
          tasks := [.ask []]
          interactive := letters.contains 'i' || onLine }
    match operands with
    | file :: rest =>
      if letters.contains 's' then listening operands
      else
        match st.files.readFrom p.directory file with
        | .ok content => scriptShell p environment letters file rest (Utf8.lossy content)
        | .error _ =>
          .utility []
            (complain (String.ofList self ++ ": 0: cannot open " ++ String.ofList file ++
              ": No such file") 2)
    | [] => listening []

/-! ### Beginning -/

/-- The variables that are set before a command, and the command. -/
def settings (arguments : List (List Char)) : Environment × List (List Char) :=
  let isSetting (argument : List Char) : Bool := argument.contains '='
  let set := (arguments.takeWhile isSetting).map fun argument =>
    let name := argument.takeWhile (· ≠ '=')
    (name, argument.drop (name.length + 1))
  (set, arguments.dropWhile isSetting)

/-- **Begin a program** in a process: what the process runs, and the station after it. The arguments
begin with the name of the program. The number bounds how often one program begins another. -/
def begin : Nat → Station → Process → String → List (List Char) → Environment → Body × Station
  | 0, st, _, _, _, _ => (.utility [] (.finish 127), st)
  | fuel + 1, st, p, name, arguments, environment =>
    let operands := arguments.drop 1
    let self := String.ofList (arguments.head?.getD [])
    let changing (result : Utility × Station) : Body × Station :=
      (.utility (complaint name self) result.1, result.2)
    let plain (utility : Utility) : Body × Station := changing (utility, st)
    match name with
    | "sh" => (beginShell st p arguments environment, st)
    | "cat" => plain (streamOf self (split "" operands).2 .identity)
    | "head" => plain (head self operands)
    | "tr" => plain (transliterate self operands)
    | "od" => plain (dump self operands)
    | "wc" => plain (countOf st p self operands)
    | "yes" =>
      let text := if operands.isEmpty then ['y'] else Text.join [' '] operands
      plain (.stream { sources := [.channel .zeros], filter := .expand (lineOf text) })
    | "echo" => plain (answer (echoText operands))
    | "printf" =>
      plain (answer (Shell.Format.printf (operands.head?.getD []) (operands.drop 1)).text)
    | "seq" => plain (answer (sequenceText operands))
    | "pwd" => plain (answer (lineOf (FileSystem.placeText p.directory)))
    | "tty" =>
      plain
        (if p.channel? 0 = some .line then answer (lineOf "/dev/pts/0".toList)
          else .say 1 (lineOf "not a tty".toList) (.finish 1))
    | "printenv" => plain (printVariables environment operands)
    | "sleep" => plain (sleep st self operands)
    | "stty" => changing (settle st p self operands)
    | "mkdir" => changing (makeDirectories st p self operands)
    | "rm" => changing (removeFiles st p self operands)
    | "touch" => changing (touchFiles st p self operands)
    | "ls" => plain (listFiles st p self operands)
    | "true" => plain (.finish 0)
    | "env" =>
      let (kept, operands) :=
        match operands with
        | ['-', 'i'] :: rest => ([], rest)
        | ['-'] :: rest => ([], rest)
        | _ => (environment, operands)
      let (set, command) := settings operands
      let environment := kept.filter (fun (name, _) => (set.lookup name).isNone) ++ set
      match command with
      | [] => plain (answer (environmentText environment))
      | target :: _ =>
        let searchPath := (environment.lookup "PATH".toList).getD "/bin:/usr/bin".toList
        let located := locate? st.files p.directory searchPath target
        match located.map fun path => image st.files p.directory maxReaders path command with
        | some (.ok (name, arguments)) => begin fuel st p name arguments environment
        | some (.error .notPermitted) =>
          plain (complain (self ++ ": '" ++ String.ofList target ++ "': Permission denied") 126)
        | _ =>
          plain
            (complain (self ++ ": '" ++ String.ofList target ++ "': No such file or directory") 127)
    | _ => plain (.finish 1)

/-- How often one program begins another at most. -/
def maxBegun : Nat := 20

/-! ### The files of a computer -/

/-- The programs, by the names of their files. -/
def programNames : List (String × String) :=
  [("sh", "sh"), ("dash", "sh"), ("bash", "sh"), ("cat", "cat"), ("head", "head"), ("tr", "tr"),
    ("od", "od"), ("wc", "wc"), ("yes", "yes"), ("echo", "echo"), ("printf", "printf"),
    ("seq", "seq"), ("pwd", "pwd"), ("tty", "tty"), ("printenv", "printenv"), ("sleep", "sleep"),
    ("stty", "stty"), ("mkdir", "mkdir"), ("rm", "rm"), ("touch", "touch"), ("ls", "ls"),
    ("true", "true"), ("false", "false"), ("env", "env")]

/-- **The files that a computer comes with**: its programs and its devices. -/
def standardFiles (workingDirectory : Place) : FileSystem :=
  let directories : List Place :=
    [["bin".toList], ["usr".toList, "bin".toList], ["dev".toList], ["etc".toList], ["home".toList],
      ["proc".toList], ["root".toList], ["tmp".toList], ["var".toList], workingDirectory]
  let files : FileSystem :=
    directories.foldl (·.makeDirectories ·) { nodes := [], workingDirectory }
  let programs := programNames.flatMap fun (file, name) =>
    [(["bin".toList, file.toList], Node.program name),
      (["usr".toList, "bin".toList, file.toList], Node.program name)]
  let others :=
    [(["dev".toList, "null".toList], Node.sink), (["dev".toList, "zero".toList], .zeros),
      (terminalPlace, .sink), (["etc".toList, "passwd".toList], .file [] false),
      (["etc".toList, "hosts".toList], .file [] false)]
  (programs ++ others).foldl (fun (files : FileSystem) (place, node) => files.put place node) files

end GlassTty.Computer
