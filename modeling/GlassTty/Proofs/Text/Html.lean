import GlassTty.Text.Html
import GlassTty.Proofs.Directive.PlainText

/-!
# Markup that others have a part in

A piece of markup is put together from a template and from texts that somebody else has chosen.
What it is to a reader is said in two ways.

* **Its text**: the tags dropped (`GlassTty.PlainText.Outside`) and all references decoded
  (`GlassTty.Html.Decodes`), by whatever table of names the reader has.
* **Its tags** (`GlassTty.Html.tagsFrom`): what each of them is outside of quotation marks, and the
  values between them. A reader that finds one of the characters `<`, `>` and `"` where it can mean
  nothing gives up, so that there are tags only if each of these opens or closes a tag or a value.

Both are put together as the markup is (`GlassTty.Html.Shows.append`). An escaped text is its text
and has no tags (`GlassTty.Html.shows_escape`), and so nothing can be said in it that would end the
value or open another tag in the element it is put into (`GlassTty.Html.shows_element`). Nothing is
asked of the escaping but that each special character becomes a reference to it and that any other
character does as well or is copied (`GlassTty.Html.Escapes`).
-/

namespace GlassTty.Html

open PlainText (Outside)

/-! ### Tags and their values -/

/-- **A tag**: its text outside of quotation marks and, in order, the texts between them. -/
structure Tag where
  outline : List Char
  values : List (List Char)
  deriving DecidableEq, Repr

/-- Where a reader of markup is, with what it has read of the tag and of the value there. -/
inductive Place where
  | text
  | tag (read : Tag)
  | value (read : Tag) (value : List Char)

/-- **The tags of markup** from a place on. There are none if a `<`, a `>` or a quotation mark
stands where it opens and closes nothing, or if a tag does not end. -/
def tagsFrom : Place → List Char → Option (List Tag)
  | .text, [] => some []
  | .tag _, [] => none
  | .value _ _, [] => none
  | .text, c :: html =>
    if c = '<' then tagsFrom (.tag ⟨[], []⟩) html
    else if c = '>' ∨ c = '"' then none
    else tagsFrom .text html
  | .tag read, c :: html =>
    if c = '>' then (tagsFrom .text html).map (read :: ·)
    else if c = '"' then tagsFrom (.value read []) html
    else if c = '<' then none
    else tagsFrom (.tag { read with outline := read.outline ++ [c] }) html
  | .value read value, c :: html =>
    if c = '"' then tagsFrom (.tag { read with values := read.values ++ [value] }) html
    else if c = '<' ∨ c = '>' then none
    else tagsFrom (.value read (value ++ [c])) html

/-- **A text that opens and closes nothing.** -/
def Inert (text : List Char) : Prop :=
  '<' ∉ text ∧ '>' ∉ text ∧ '"' ∉ text

instance (text : List Char) : Decidable (Inert text) :=
  inferInstanceAs (Decidable (_ ∧ _))

theorem Inert.append {left right : List Char} (h : Inert left) (h' : Inert right) :
    Inert (left ++ right) := by
  simp only [Inert, List.mem_append, not_or] at *
  exact ⟨⟨h.1, h'.1⟩, ⟨h.2.1, h'.2.1⟩, ⟨h.2.2, h'.2.2⟩⟩

theorem inert_cons {c : Char} {text : List Char} :
    Inert (c :: text) ↔ (c ≠ '<' ∧ c ≠ '>' ∧ c ≠ '"') ∧ Inert text := by
  simp only [Inert, List.mem_cons, not_or]
  tauto

section Inert

variable {text : List Char} (h : Inert text) (html : List Char)

include h

theorem tagsFrom_text : tagsFrom .text (text ++ html) = tagsFrom .text html := by
  induction text with
  | nil => rfl
  | cons c text ih =>
    obtain ⟨⟨hless, hgreater, hquote⟩, htext⟩ := inert_cons.mp h
    rw [List.cons_append, tagsFrom, if_neg hless, if_neg (by simp [hgreater, hquote]), ih htext]

theorem tagsFrom_tag (read : Tag) : tagsFrom (.tag read) (text ++ html) =
    tagsFrom (.tag { read with outline := read.outline ++ text }) html := by
  induction text generalizing read with
  | nil => simp
  | cons c text ih =>
    obtain ⟨⟨hless, hgreater, hquote⟩, htext⟩ := inert_cons.mp h
    rw [List.cons_append, tagsFrom, if_neg hgreater, if_neg hquote, if_neg hless, ih htext]
    simp

theorem tagsFrom_value (read : Tag) (value : List Char) :
    tagsFrom (.value read value) (text ++ html) = tagsFrom (.value read (value ++ text)) html := by
  induction text generalizing value with
  | nil => simp
  | cons c text ih =>
    obtain ⟨⟨hless, hgreater, hquote⟩, htext⟩ := inert_cons.mp h
    rw [List.cons_append, tagsFrom, if_neg hquote, if_neg (by simp [hgreater, hless]), ih htext]
    simp

end Inert

/-! ### Escaped texts -/

section Escapes

variable {named : List Char → Option Char}

/-- **A character in an escaped text**: copied, if it is not a special one, or a reference to it. -/
inductive Escaped (named : List Char → Option Char) (c : Char) : List Char → Prop where
  | copied (h : c ∉ ['&', '<', '>', '"', '\'']) : Escaped named c [c]
  | referenced {name : List Char} (plain : ∀ d ∈ name, d.isAlphanum = true ∨ d = '#')
    (h : named name = some c) : Escaped named c (reference name)

/-- **A function that escapes texts**, one character after the other. -/
def Escapes (named : List Char → Option Char) (escape : List Char → List Char) : Prop :=
  ∃ write : Char → List Char, (∀ text, escape text = text.flatMap write) ∧
    ∀ c, Escaped named c (write c)

theorem Escaped.inert {c : Char} {html : List Char} (h : Escaped named c html) : Inert html := by
  cases h with
  | copied h =>
    simp only [List.mem_cons, List.not_mem_nil, or_false, not_or] at h
    exact inert_cons.mpr ⟨⟨h.2.1, h.2.2.1, h.2.2.2.1⟩, by decide⟩
  | @referenced name plain h =>
    have hname : Inert name := ⟨fun h => absurd (plain _ h) (by decide),
      fun h => absurd (plain _ h) (by decide), fun h => absurd (plain _ h) (by decide)⟩
    exact inert_cons.mpr ⟨by decide, hname.append (by decide)⟩

theorem Escaped.writes {write : Char → List Char} (h : ∀ c, Escaped named c (write c)) :
    Writes named write := by
  intro c
  generalize write c = html, h c = hc
  cases hc with
  | copied hc =>
    simp only [List.mem_cons, not_or] at hc
    exact .inl ⟨rfl, hc.1⟩
  | referenced plain hname =>
    exact .inr ⟨_, rfl, fun hmem => absurd (plain _ hmem) (by decide), hname⟩

variable {escape : List Char → List Char}

theorem Escapes.inert (h : Escapes named escape) (text : List Char) : Inert (escape text) := by
  obtain ⟨write, hescape, hwrite⟩ := h
  rw [hescape]
  induction text with
  | nil => exact ⟨List.not_mem_nil, List.not_mem_nil, List.not_mem_nil⟩
  | cons c text ih => exact (hwrite c).inert.append ih

theorem Escapes.decodes_append (h : Escapes named escape) (source : List Char)
    {html text : List Char} (hrest : Decodes named html text) :
    Decodes named (escape source ++ html) (source ++ text) := by
  obtain ⟨write, hescape, hwrite⟩ := h
  rw [hescape]
  exact hrest.flatMap (Escaped.writes hwrite) source

theorem Escapes.decodes (h : Escapes named escape) (text : List Char) :
    Decodes named (escape text) text := by
  simpa using h.decodes_append text .nil

end Escapes

/-! ### What markup shows -/

/-- **What a piece of markup shows**: its text, whatever follows it, and its tags. -/
structure Shows (named : List Char → Option Char) (html text : List Char) (tags : List Tag) :
    Prop where
  outside : ∃ kept, Outside html kept ∧ ∀ more said, Decodes named more said →
    Decodes named (kept ++ more) (text ++ said)
  tags : ∀ more, tagsFrom .text (html ++ more) = (tagsFrom .text more).map (tags ++ ·)

section Shows

variable {named : List Char → Option Char} {html html' text text' : List Char}
  {tags tags' : List Tag}

theorem Shows.append (h : Shows named html text tags) (h' : Shows named html' text' tags') :
    Shows named (html ++ html') (text ++ text') (tags ++ tags') where
  outside := by
    obtain ⟨kept, hkept, hdecodes⟩ := h.outside
    obtain ⟨kept', hkept', hdecodes'⟩ := h'.outside
    refine ⟨kept ++ kept', hkept.append hkept', fun more said hmore => ?_⟩
    rw [List.append_assoc, List.append_assoc]
    exact hdecodes _ _ (hdecodes' _ _ hmore)
  tags more := by
    rw [List.append_assoc, h.tags, h'.tags, Option.map_map]
    simp [Function.comp_def]

/-- A text without a special character is itself. -/
theorem shows_of_inert (h : Inert text) (hampersand : '&' ∉ text) :
    Shows named text text [] where
  outside := ⟨text, PlainText.outside_of_not_mem h.1, fun _ _ hmore =>
    hmore.append_of_not_mem hampersand⟩
  tags more := by simp [tagsFrom_text h]

/-- **An escaped text** is shown as it was, and has no tags. -/
theorem shows_escape {escape : List Char → List Char} (h : Escapes named escape)
    (text : List Char) : Shows named (escape text) text [] where
  outside := ⟨escape text, PlainText.outside_of_not_mem (h.inert text).1, fun _ _ hmore =>
    h.decodes_append text hmore⟩
  tags more := by simp [tagsFrom_text (h.inert text)]

/-- What is read in one piece of markup. -/
theorem Shows.dropTags (h : Shows named html text tags) :
    ∃ kept, PlainText.dropTags false html = some kept ∧ Decodes named kept text := by
  obtain ⟨kept, hkept, hdecodes⟩ := h.outside
  exact ⟨kept, PlainText.dropTags_eq_some_iff.mpr hkept, by simpa using hdecodes [] [] .nil⟩

theorem Shows.tagsFrom (h : Shows named html text tags) : tagsFrom .text html = some tags := by
  simpa [Html.tagsFrom] using h.tags []

end Shows

/-! ### Elements -/

/-- The attributes of a tag, each given by what stands before its value and by its value. -/
def attributes (given : List (List Char × List Char)) : List Char :=
  given.flatMap fun (before, value) => before ++ '"' :: value ++ ['"']

/-- **An element** around other markup. -/
def element (given : List (List Char × List Char)) (inner name : List Char) : List Char :=
  '<' :: attributes given ++ '>' :: (inner ++ '<' :: '/' :: name ++ ['>'])

/-- **The tag that opens an element**, and the one that closes it. -/
def openTag (given : List (List Char × List Char)) : Tag :=
  ⟨given.flatMap Prod.fst, given.map Prod.snd⟩

@[inherit_doc openTag]
def closeTag (name : List Char) : Tag :=
  ⟨'/' :: name, []⟩

section Element

variable {given : List (List Char × List Char)}
  (h : ∀ entry ∈ given, Inert entry.1 ∧ Inert entry.2)

include h

theorem tagsFrom_attributes (read : Tag) (html : List Char) :
    tagsFrom (.tag read) (attributes given ++ html) =
      tagsFrom (.tag ⟨read.outline ++ given.flatMap Prod.fst, read.values ++ given.map Prod.snd⟩)
        html := by
  induction given generalizing read with
  | nil => simp [attributes]
  | cons entry given ih =>
    obtain ⟨⟨hbefore, hvalue⟩, hgiven⟩ := List.forall_mem_cons.mp h
    have hsplit : attributes (entry :: given) ++ html = entry.1 ++
        '"' :: (entry.2 ++ '"' :: (attributes given ++ html)) := by simp [attributes]
    have hopen : ∀ read rest, tagsFrom (.tag read) ('"' :: rest) = tagsFrom (.value read []) rest :=
      fun _ _ => rfl
    have hclose : ∀ read value rest, tagsFrom (.value read value) ('"' :: rest) =
        tagsFrom (.tag { read with values := read.values ++ [value] }) rest := fun _ _ _ => rfl
    rw [hsplit, tagsFrom_tag hbefore, hopen, tagsFrom_value hvalue, hclose, ih hgiven]
    simp

theorem not_mem_attributes : '>' ∉ attributes given := by
  rw [attributes, List.mem_flatMap]
  rintro ⟨entry, hmem, hgreater⟩
  obtain ⟨hbefore, hvalue⟩ := h entry hmem
  simp [hbefore.2.1, hvalue.2.1] at hgreater

/-- **An element shows what is in it**, and it has its two tags around the tags of that. -/
theorem shows_element {named : List Char → Option Char} {inner text name : List Char}
    {tags : List Tag} (hinner : Shows named inner text tags) (hname : Inert name) :
    Shows named (element given inner name) text
      (openTag given :: (tags ++ [closeTag name])) where
  outside := by
    obtain ⟨kept, hkept, hdecodes⟩ := hinner.outside
    have hclose : '>' ∉ '/' :: name := by simpa using hname.2.1
    have hclosing : Outside ('<' :: '/' :: name ++ ['>']) [] := .tag hclose .nil
    have hwhole : Outside (element given inner name) (kept ++ []) := by
      unfold element
      rw [List.append_assoc _ _ ['>']]
      exact .tag (not_mem_attributes h) (hkept.append hclosing)
    exact ⟨kept, by simpa using hwhole, hdecodes⟩
  tags more := by
    have hsplit : element given inner name ++ more = '<' :: (attributes given ++
        '>' :: (inner ++ '<' :: ('/' :: name ++ '>' :: more))) := by simp [element]
    have hless : ∀ rest, tagsFrom .text ('<' :: rest) = tagsFrom (.tag ⟨[], []⟩) rest :=
      fun _ => rfl
    have hgreater : ∀ read rest, tagsFrom (.tag read) ('>' :: rest) =
        (tagsFrom .text rest).map (read :: ·) := fun _ _ => rfl
    have hslash : Inert ('/' :: name) := inert_cons.mpr ⟨by decide, hname⟩
    rw [hsplit, hless, tagsFrom_attributes h, hgreater, hinner.tags, hless, tagsFrom_tag hslash,
      hgreater, Option.map_map, Option.map_map]
    simp [openTag, closeTag, Function.comp_def]

end Element

/-! ### The table of names

References by a name and references by a number, as a reader of markup knows them.
-/

/-- The value of a digit, up to the base sixteen. -/
def digitValue? (c : Char) : Option Nat :=
  if c.isDigit then some (c.toNat - '0'.toNat)
  else if 'a' ≤ c.toLower ∧ c.toLower ≤ 'f' then some (c.toLower.toNat - 'a'.toNat + 10)
  else none

/-- The number that digits write behind a number that has been read. -/
def numberFrom? (base : Nat) : Nat → List Char → Option Nat
  | n, [] => some n
  | n, digit :: digits =>
    match digitValue? digit with
    | some value => if value < base then numberFrom? base (base * n + value) digits else none
    | none => none

/-- The character with the number that digits write. -/
def numbered? (base : Nat) (digits : List Char) : Option Char :=
  match numberFrom? base 0 digits with
  | some n => if digits ≠ [] ∧ n.isValidChar then some (Char.ofNat n) else none
  | none => none

/-- **The character that a reference stands for**: by its number in base sixteen or ten, or by its
name. -/
def characters : List Char → Option Char
  | '#' :: 'x' :: digits => numbered? 16 digits
  | '#' :: digits => numbered? 10 digits
  | name => namedIn [("quot".toList, '"'), ("amp".toList, '&'), ("apos".toList, '\''),
      ("lt".toList, '<'), ("gt".toList, '>')] name

/-- **A text is escaped** by references that this table has. -/
theorem escapes_escape : Escapes characters escape := by
  have hreference : ∀ (name : List Char) {c : Char},
      name.all (fun d => d.isAlphanum || d == '#') = true → characters name = some c →
      Escaped characters c (reference name) := fun name _ hall hname =>
    .referenced (by simpa using hall) hname
  refine ⟨escapeChar, fun _ => rfl, fun c => ?_⟩
  unfold escapeChar
  split
  · exact hreference "quot".toList (by decide) (by decide)
  · exact hreference "amp".toList (by decide) (by decide)
  · exact hreference "#x27".toList (by decide) (by decide)
  · exact hreference "#x2f".toList (by decide) (by decide)
  · exact hreference "lt".toList (by decide) (by decide)
  · exact hreference "gt".toList (by decide) (by decide)
  · next hquote hampersand hapostrophe _ hless hgreater =>
    refine .copied ?_
    simp only [List.mem_cons, List.not_mem_nil, or_false, not_or]
    exact ⟨hampersand, hless, hgreater, hquote, hapostrophe⟩

end GlassTty.Html
