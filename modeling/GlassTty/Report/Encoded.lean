import GlassTty.Report.Event

/-!
# What a viewer is told, as JSON

Events are sent to a viewer as JSON (`GlassTty.TerminalEvent.toJson`): a directive's result with its
kind, its parameters and its body, an update with the request it answers. A row is a text if all of
it looks the same, and otherwise a list of texts with tags (`GlassTty.RowText.toJson`).
-/

namespace GlassTty

open Json (Value)

namespace Json.Value

/-- The object with the given members. -/
def ofMembers (members : List (String × Value)) : Value :=
  .object (Object.ofList members)

/-- A value that may be missing: null stands for none. -/
def ofOption {α : Type} (encode : α → Value) : Option α → Value
  | some x => encode x
  | none => .null

end Json.Value

/-- Tags as JSON: their names. -/
def Tags.toJson (t : Tags) : Value :=
  .array (t.names.map .string)

/-- The text of a row as JSON. -/
def RowText.toJson : RowText → Value
  | .plain text => .string text
  | .styled spans =>
    .array (spans.map fun span =>
      .ofMembers [("tags", span.tags.toJson), ("text", .string span.text)])

/-- A row that has changed as JSON. -/
def ChangedRow.toJson (r : ChangedRow) : Value :=
  .ofMembers
    [("row", .nat r.row), ("prompt_offset", .nat r.promptOffset), ("text", r.text.toJson)]

/-- A line of the scrollback as JSON. -/
def ScrollbackLine.toJson (l : ScrollbackLine) : Value :=
  .ofMembers
    [("entry_index", .nat l.entryIndex), ("prompt_offset", .nat l.promptOffset),
      ("directory", .string l.directory), ("markup", .ofOption .string l.markup),
      ("line", .string l.line)]

/-- A directive's result as JSON. -/
def DirectiveEvent.toJson (e : DirectiveEvent) : Value :=
  .ofMembers
    [("kind", .string e.kind.name), ("params", .object e.params),
      ("body", .ofOption .string e.body)]

/-- An update as JSON. -/
def RowUpdate.toJson (u : RowUpdate) : Value :=
  .ofMembers
    [("alt_mode", .bool u.altMode), ("full_update", .bool u.fullUpdate),
      ("active_rows", .nat u.activeRows), ("width", .nat u.width), ("height", .nat u.height),
      ("cursor_x", .nat u.cursorCol), ("cursor_y", .nat u.cursorRow),
      ("prompt_offset", .nat u.promptOffset), ("rows", .array (u.rows.map ChangedRow.toJson)),
      ("scrollback", .array (u.scrollback.map ScrollbackLine.toJson))]

/-- **An event as JSON.** -/
def TerminalEvent.toJson : TerminalEvent → Value
  | .rowUpdate responseId update =>
    .ofMembers [("response_id", .string responseId), ("update", update.toJson)]
  | .directive event => event.toJson

end GlassTty
