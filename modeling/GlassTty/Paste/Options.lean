import GlassTty.Json.Reader
import GlassTty.Text.Quoted

/-!
# The options of a paste

A viewer says with five options how a click is to be pasted (`GlassTty.PasteOptions`), each of which
may be left out. They come as a JSON object with the names of the options, or as an array with their
values in order; other members of an object are passed over.

There are two readers: `GlassTty.PasteOptions.parse` reads a text and tells the place of what it
objects to, `GlassTty.PasteOptions.ofValue` takes a value that has been read already.
-/

namespace GlassTty

/-- How a click is to be pasted. -/
structure PasteOptions where
  /-- The command to put in front of the pasted file on an empty line. -/
  command : String := ""
  /-- The URL of a destination to put behind it. -/
  destUrl : String := ""
  /-- The entry of the scrollback to take back first. -/
  clearLast : Option Nat := none
  /-- Whether files are named as seen from the working directory. -/
  normalize : Option Bool := none
  /-- Whether to run the command at once. -/
  enter : Bool := false
  deriving DecidableEq, Repr, Inhabited

namespace PasteOptions

/-! ### What is objected to -/

/-- What a value is called in a message. -/
def describe : Json.Value → String
  | .null => "null"
  | .bool true => "boolean `true`"
  | .bool false => "boolean `false`"
  | .number (.integer n) => "integer `" ++ String.ofList (Double.integerText n) ++ "`"
  | .number (.double x) => "floating point `" ++ String.ofList x.text ++ "`"
  | .string text => "string " ++ Text.quote text
  | .array _ => "sequence"
  | .object _ => "map"

/-- The message about a value of the wrong type. -/
def wrongType (value : Json.Value) (expected : String) : String :=
  "invalid type: " ++ describe value ++ ", expected " ++ expected

/-- The message about a number that does not fit. -/
def wrongNumber (value : Json.Value) (expected : String) : String :=
  "invalid value: " ++ describe value ++ ", expected " ++ expected

/-- What the whole is called in a message. -/
def typeName : String := "struct PasteOptions"

/-! ### The options as values -/

/-- A value that is a text. -/
def toText : Json.Value → Except String String
  | .string text => .ok text
  | value => .error (wrongType value "a string")

/-- A value that is a truth value. -/
def toFlag : Json.Value → Except String Bool
  | .bool b => .ok b
  | value => .error (wrongType value "a boolean")

/-- A value that is a word of sixty-four bits. -/
def toWord : Json.Value → Except String Nat
  | .number (.integer n) =>
    if 0 ≤ n then .ok n.toNat else .error (wrongNumber (.number (.integer n)) "u64")
  | value => .error (wrongType value "u64")

/-- A value that may be missing: null stands for none. -/
def toOption {α : Type} (read : Json.Value → Except String α) :
    Json.Value → Except String (Option α)
  | .null => .ok none
  | value => (read value).map some

/-- An option by its name. -/
inductive Field where
  | command
  | destUrl
  | clearLast
  | normalize
  | enter
  deriving DecidableEq, Repr, Inhabited

namespace Field

/-- The options in their order. -/
def all : List Field := [.command, .destUrl, .clearLast, .normalize, .enter]

/-- The name of an option. -/
def name : Field → String
  | .command => "command"
  | .destUrl => "dest_url"
  | .clearLast => "clear_last"
  | .normalize => "normalize"
  | .enter => "enter"

/-- The option with a name. -/
def ofName? (name : String) : Option Field :=
  all.find? (·.name = name)

end Field

/-- Set an option to a value. -/
def setField (o : PasteOptions) (field : Field) (value : Json.Value) :
    Except String PasteOptions :=
  match field with
  | .command => (toText value).map fun x => { o with command := x }
  | .destUrl => (toText value).map fun x => { o with destUrl := x }
  | .clearLast => (toOption toWord value).map fun x => { o with clearLast := x }
  | .normalize => (toOption toFlag value).map fun x => { o with normalize := x }
  | .enter => (toFlag value).map fun x => { o with enter := x }

/-- Set the options of an object, in the order of their names. -/
def ofMembers (o : PasteOptions) : Json.Object → Except String PasteOptions
  | [] => .ok o
  | (name, value) :: rest =>
    match Field.ofName? name with
    | none => ofMembers o rest
    | some field => do
      let o ← o.setField field value
      ofMembers o rest

/-- Set the options of an array, which are those of `fields` in order. -/
def ofElements (length : Nat) (o : PasteOptions) :
    List Field → List Json.Value → Except String PasteOptions
  | _, [] => .ok o
  | [], _ :: _ =>
    .error ("invalid length " ++ toString length ++ ", expected fewer elements in array")
  | field :: fields, value :: rest => do
    let o ← o.setField field value
    ofElements length o fields rest

/-- **The options that a value stands for**, or what is wrong with it. -/
def ofValue : Json.Value → Except String PasteOptions
  | .object members => ofMembers {} members
  | .array elements => ofElements elements.length {} Field.all elements
  | value => .error (wrongType value typeName)

/-! ### The options in a text -/

open Json in
/-- Read the value of an option. A value of the wrong type is objected to behind it, and a container
before it. -/
def readField (o : PasteOptions) (field : Field) (bytes : Bytes) :
    Except Fault (PasteOptions × Bytes) :=
  match skipSpace bytes with
  | [] => refuseAhead .unfinishedValue []
  | byte :: rest => do
    let (value, rest) ←
      if byte = ascii '[' then .ok (.array [], byte :: rest)
      else if byte = ascii '\x7b' then .ok (.object [], byte :: rest)
      else readAtom byte rest
    match o.setField field value with
    | .ok o => .ok (o, rest)
    | .error message => refuse (.content message) rest

open Json in
/-- What has been read of an object: the options so far, and the names seen. -/
abbrev Progress := PasteOptions × List Field

open Json in
/-- Read a member of the object. No option may be given twice, and what is no option is passed
over. -/
def readMember (p : Progress) (name : String) (bytes : Bytes) : Except Fault (Progress × Bytes) :=
  match Field.ofName? name with
  | none => do
    let (_, rest) ← readColon bytes
    let (_, rest) ← skipValue rest
    .ok (p, rest)
  | some field =>
    if p.2.contains field then
      let rest := skipSpace bytes
      refuse (.content ("duplicate field `" ++ name ++ "`"))
        (if rest.head? = some (ascii '\x7d') then rest.drop 1 else rest)
    else do
      let (_, rest) ← readColon bytes
      let (o, rest) ← readField p.1 field rest
      .ok ((o, field :: p.2), rest)

open Json in
/-- Read the elements of the array, which are the options `fields` in order. -/
def readElements (o : PasteOptions) :
    Bool → List Field → Bytes → Except Fault (PasteOptions × Bytes)
  | _, [], rest => .ok (o, rest)
  | first, field :: fields, bytes => do
    let (more, rest) ← readComma? first bytes
    if more then
      let (o, rest) ← readField o field rest
      readElements o false fields rest
    else .ok (o, rest)

open Json in
/-- Read the options. -/
def read (bytes : Bytes) : Except Fault (PasteOptions × Bytes) :=
  match skipSpace bytes with
  | [] => refuseAhead .unfinishedValue []
  | byte :: rest =>
    if byte = ascii '\x7b' then do
      let ((o, _), rest) ← readMembers readMember (rest.length + 1) true ({}, []) rest
      let (_, rest) ← readObjectEnd rest
      .ok (o, rest)
    else if byte = ascii '[' then do
      let (o, rest) ← readElements {} true Field.all rest
      let (_, rest) ← readArrayEnd rest
      .ok (o, rest)
    else do
      let (value, rest) ← readAtom byte rest
      refuse (.content (wrongType value typeName)) rest

/-- **The options in a text**, or what is wrong with it and where. -/
def parse (text : String) : Except String PasteOptions :=
  Json.parseWith read text

end PasteOptions

end GlassTty
