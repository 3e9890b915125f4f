/-!
# Text inside markup

Six characters could end a piece of text or an attribute value in HTML; each is written as an
entity (`GlassTty.Html.escape`), everything else is copied.
-/

namespace GlassTty.Html

/-- One character as it stands in markup. -/
def escapeChar (c : Char) : List Char :=
  match c with
  | '"' => "&quot;".toList
  | '&' => "&amp;".toList
  | '\'' => "&#x27;".toList
  | '/' => "&#x2f;".toList
  | '<' => "&lt;".toList
  | '>' => "&gt;".toList
  | c => [c]

/-- A text as it stands in markup, between tags or inside a quoted attribute value. -/
def escape (text : List Char) : List Char :=
  text.flatMap escapeChar

end GlassTty.Html
