import GlassTty.Text.Blank

/-!
# Plain text out of markup

What an unauthenticated program sends is shown as plain text. How markup is reduced to it is up to
the terminal's owner (`GlassTty.TextExtractor`); the usual way drops the tags and puts characters
for six entities, one entity after the other, the ampersand's last (`GlassTty.PlainText.strip?`).
-/

namespace GlassTty

/-- A way to reduce markup to plain text; none where the text is to be shown as it is. -/
abbrev TextExtractor := List Char → Option (List Char)

namespace PlainText

/-- The text outside of tags, none if a tag does not end. The flag says whether a tag is open. -/
def dropTags : Bool → List Char → Option (List Char)
  | false, [] => some []
  | true, [] => none
  | false, c :: rest => if c = '<' then dropTags true rest else (dropTags false rest).map (c :: ·)
  | true, c :: rest => dropTags (c ≠ '>') rest

/-- The entities that are known and what they stand for, in the order they are put in. -/
def entities : List (List Char × List Char) :=
  [("&lt;".toList, ['<']), ("&gt;".toList, ['>']), ("&quot;".toList, ['"']),
    ("&#39;".toList, ['\'']), ("&nbsp;".toList, [' ']), ("&amp;".toList, ['&'])]

/-- Put characters for the entities. -/
def decodeEntities (text : List Char) : List Char :=
  entities.foldl (fun text (entity, char) => Text.replaceAll entity char text) text

/-- **Plain text**: the tags dropped and the entities decoded. -/
def strip? : TextExtractor := fun html =>
  (dropTags false html).map decodeEntities

/-- The way that leaves every text as it is. -/
def refuse : TextExtractor := fun _ => none

end PlainText

end GlassTty
