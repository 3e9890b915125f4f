import GlassTty.History.Scrollback
import GlassTty.Json.Value
import GlassTty.Screen.Cell
import GlassTty.Text.Base64

/-!
# What a viewer is told

A terminal tells its viewer two kinds of things (`GlassTty.TerminalEvent`): what has changed on the
screen and in the scrollback (`GlassTty.RowUpdate`), and what a directive in the output has come to
(`GlassTty.DirectiveEvent`), a set of parameters with a body that is written in Base64.
-/

namespace GlassTty

/-- A row of the screen that has changed. -/
structure ChangedRow where
  row : Nat
  promptOffset : Nat
  text : RowText
  deriving DecidableEq, Repr, Inhabited

/-- What has changed since the last update. -/
structure RowUpdate where
  altMode : Bool
  /-- Everything is told anew, and what was told before no longer counts. -/
  fullUpdate : Bool
  activeRows : Nat
  width : Nat
  height : Nat
  cursorCol : Nat
  cursorRow : Nat
  /-- The length of the lead of the prompt. -/
  promptOffset : Nat
  rows : List ChangedRow
  scrollback : List ScrollbackLine
  deriving DecidableEq, Repr, Inhabited

/-- The kinds of directive results. -/
inductive DirectiveKind where
  | createBlob
  | graphtermOutput
  | saveStatus
  | alert
  | frameMsg
  deriving DecidableEq, Repr, Inhabited

/-- The name of a kind. -/
def DirectiveKind.name : DirectiveKind → String
  | .createBlob => "create_blob"
  | .graphtermOutput => "graphterm_output"
  | .saveStatus => "save_status"
  | .alert => "alert"
  | .frameMsg => "frame_msg"

/-- The kind with a name. -/
def DirectiveKind.ofName? (name : String) : Option DirectiveKind :=
  [createBlob, graphtermOutput, saveStatus, alert, frameMsg].find? (·.name = name)

/-- The result of a directive. -/
structure DirectiveEvent where
  kind : DirectiveKind
  params : Json.Object
  /-- The body, in Base64. -/
  body : Option String := none
  deriving Inhabited

namespace DirectiveEvent

/-- The event with the given content as its body; without content there is no body. -/
def withBody (e : DirectiveEvent) (content : Bytes) : DirectiveEvent :=
  { e with
    body := if content.isEmpty then none else some (String.ofList (Base64.encode content)) }

/-- The event with a body that is written in Base64 already. -/
def withEncodedBody (e : DirectiveEvent) (body : String) : DirectiveEvent :=
  { e with body := some body }

/-- A message to the user. -/
def alert (message : String) : DirectiveEvent :=
  { kind := .alert, params := Json.Object.ofList [("message", .string message)] }

/-- The content of the body, if there is one and it is Base64. -/
def decodedBody? (e : DirectiveEvent) : Option Bytes :=
  e.body.bind fun body => Base64.decode? body.toList

end DirectiveEvent

/-- Something a viewer is told. -/
inductive TerminalEvent where
  /-- An update. The name is that of the request it answers, empty if it answers none. -/
  | rowUpdate (responseId : String) (update : RowUpdate)
  | directive (event : DirectiveEvent)
  deriving Inhabited

namespace TerminalEvent

/-- The name of the kind of an event. -/
def kind : TerminalEvent → String
  | .rowUpdate _ _ => "row_update"
  | .directive event => event.kind.name

/-- The name of the request that an event answers. -/
def responseId : TerminalEvent → String
  | .rowUpdate responseId _ => responseId
  | .directive _ => ""

/-- The update, if the event is one. -/
def rowUpdate? : TerminalEvent → Option RowUpdate
  | .rowUpdate _ update => some update
  | .directive _ => none

/-- The directive's result, if the event is one. -/
def directive? : TerminalEvent → Option DirectiveEvent
  | .rowUpdate _ _ => none
  | .directive event => some event

end TerminalEvent

end GlassTty
