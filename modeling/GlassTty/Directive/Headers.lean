import GlassTty.Json.Printer
import GlassTty.Json.Reader
import GlassTty.Text.Blank
import GlassTty.Text.Quoted

/-!
# The headers of a payload

A payload begins with headers and goes on, behind an empty line, with a body
(`GlassTty.Headers.parse`). The headers are one JSON object or lines with a name, a colon and a
value; a payload that begins with `<` has none and is HTML. Headers that cannot be read make a
payload of their own, a message that says why.

Names are compared in small letters with underscores for hyphens. Three names are known; what the
others say is kept as it is.
-/

namespace GlassTty

/-- The headers of a payload. -/
structure Headers where
  contentType : String := ""
  /-- What the payload is to be used for. -/
  response : String := ""
  parameters : Json.Object := []
  /-- All other headers. -/
  extra : Json.Object := []
  deriving Inhabited

namespace Headers

/-- The name of the header that says what the payload is for. -/
def responseKey : String := "x_term_response"

/-- The name of the header with the parameters. -/
def parametersKey : String := "x_term_parameters"

/-- The headers of a piece of output. -/
def pagelet (contentType : String) : Headers :=
  { contentType, response := "pagelet" }

/-- The headers of a message about what went wrong. -/
def errorMessage : Headers :=
  { contentType := "text/plain", response := "error_message" }

/-- The text of a header: a string stands for itself, any other value is written out. -/
def textOf : Option Json.Value → String
  | none => ""
  | some (.string text) => text
  | some value => value.render

/-- The headers in a set of names and values. -/
def ofObject (o : Json.Object) : Headers where
  contentType := textOf (o.get? "content_type")
  response := textOf (o.get? responseKey)
  parameters :=
    match o.get? parametersKey with
    | some (.object members) => members
    | _ => []
  extra := ((o.erase "content_type").erase responseKey).erase parametersKey

/-- The text of a parameter that is a string. -/
def parameter? (h : Headers) (name : String) : Option String :=
  (h.parameters.get? name).bind Json.Value.asString?

/-- The headers as they are reported, with the length of the body they go with. -/
def toObject (h : Headers) (contentLength : Nat) : Json.Object :=
  h.extra
    |> Json.Object.insert "content_type" (.string h.contentType)
    |> Json.Object.insert responseKey (.string h.response)
    |> Json.Object.insert parametersKey (.object h.parameters)
    |> Json.Object.insert "content_length" (.nat contentLength)

/-! ### Reading -/

/-- The three ways to write an empty line. -/
def separators : List (List Char) :=
  [['\r', '\n', '\r', '\n'], ['\n', '\n'], ['\r', '\r']]

/-- The one of two cuts that comes earlier. -/
def earlier (x y : List Char × List Char) : List Char × List Char :=
  if y.1.length < x.1.length then y else x

/-- The headers and the body of a payload, cut at the first empty line. -/
def cutBody (payload : List Char) : List Char × List Char :=
  match separators.filterMap (Text.cut? · payload) with
  | [] => (payload, [])
  | first :: rest => rest.foldl earlier first

/-- The name of a header as it is compared. -/
def normalName (name : List Char) : String :=
  String.ofList ((Text.asciiLower (Text.trim name)).map fun c => if c = '-' then '_' else c)

/-- The value of a header line. Parameters are JSON if they can be read as such. -/
def lineValue (name : String) (value : List Char) : Json.Value :=
  let text := String.ofList (Text.trim value)
  if name = parametersKey then
    match Json.parse text with
    | .ok value => value
    | .error _ => .string text
  else .string text

/-- The headers on lines of their own, or the first line that is none. -/
def readLines : Json.Object → List (List Char) → Except String Json.Object
  | o, [] => .ok o
  | o, line :: rest =>
    match Text.cut? [':'] line with
    | none => .error (String.ofList line)
    | some (name, value) =>
      let name := normalName name
      readLines (o.insert name (lineValue name value)) rest

/-- **The headers and the body of a payload.** -/
def parse (payload : List Char) : Headers × List Char :=
  if payload.head? = some '<' then (pagelet "text/html", payload)
  else
    let (head, body) := cutBody payload
    let head := Text.trim head
    if head.head? = some '\x7b' then
      match Json.parse (String.ofList head) with
      | .ok (.object members) => (ofObject members, body)
      | .ok _ => (errorMessage, [])
      | .error message =>
        (errorMessage, "Error in parsing JSON headers: ".toList ++ message.toList ++ '\n' :: head)
    else
      match readLines [] (Text.lines head) with
      | .ok members => (ofObject members, body)
      | .error line =>
        (errorMessage,
          "Error in parsing headers: no colon in ".toList ++ (Text.quote line).toList)

end Headers

end GlassTty
