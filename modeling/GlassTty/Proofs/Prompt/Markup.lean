import GlassTty.Prompt.Markup
import GlassTty.Proofs.Prompt.Words
import GlassTty.Proofs.Text.Html
import Mathlib.Data.List.TakeWhile

/-!
# What the markup of a command line shows

A command line is written by whoever types it, and its directory is named by whoever makes it, but
both are put into markup. Whatever they are (`GlassTty.Markup.commandLine_shows`):

* with the tags dropped and the references decoded, the markup is the command line, but for the way
  to a program of the directory itself, which is left out (`GlassTty.Markup.shown`);
* the tags are those of three templates (`GlassTty.Markup.IsTag`), in which only the values are
  filled in that the templates leave open, and each of these decodes to what belongs there.

Each piece of the line becomes an element or is copied, so both are shown for the pieces one by one
(`GlassTty.Markup.Renders`) and put together along the line. The texts may be escaped by any
function that writes references which the reader knows (`GlassTty.Html.Escapes`).
-/

namespace GlassTty.Markup

open Html (Decodes Escapes Inert Shows Tag)

/-! ### The templates -/

/-- **The tags that there are** in the markup of a command line: the link of a file leads to a part
of the line, seen from the directory. -/
inductive IsTag (named : List Char → Option Char) (entryIndex : Nat) (directory line : List Char) :
    Tag → Prop where
  | prompt {value : List Char} (h : Decodes named value directory) :
    IsTag named entryIndex directory line ⟨"span class= id= data-termdir=".toList,
      ["term-cmd-prompt term-link".toList, "prompt".toList ++ Nat.toDigits 10 entryIndex, value]⟩
  | plain (command : Bool) : IsTag named entryIndex directory line
      ⟨"span class=".toList, ["term-cmd-text term-link".toList ++ commandClass command]⟩
  | path {word value : List Char} (command : Bool) (hword : word <:+: line)
    (h : Decodes named value ("file://".toList ++ Path.join directory word)) :
    IsTag named entryIndex directory line ⟨"a class= href= data-termmime= data-termcmd=".toList,
      ["term-cmd-path term-link".toList ++ commandClass command, value, "x-webterm/path".toList,
        "xpaste".toList]⟩
  | endSpan : IsTag named entryIndex directory line ⟨"/span".toList, []⟩
  | endLink : IsTag named entryIndex directory line ⟨"/a".toList, []⟩

theorem inert_toDigits (n : Nat) : Inert (Nat.toDigits 10 n) := by
  have hdigit : ∀ c ∈ Nat.toDigits 10 n, c.isDigit = true := fun c hc =>
    Nat.isDigit_of_mem_toDigits (by decide) (by decide) hc
  exact ⟨fun h => absurd (hdigit _ h) (by decide), fun h => absurd (hdigit _ h) (by decide),
    fun h => absurd (hdigit _ h) (by decide)⟩

theorem inert_commandClass (command : Bool) : Inert (commandClass command) := by
  revert command
  decide

/-! ### What is shown -/

/-- The command word as it is shown: without the way to a program of the directory itself. -/
def shownWord (directory word : List Char) : List Char :=
  match Text.dropPrefix? ['.', '/'] word with
  | some file => if directory.isEmpty then word else file
  | none => word

/-- The way to a program is told by the command word alone: no other word is behind it. -/
theorem shownWord_append {rest word : List Char} {before behind : List (List Char)}
    (h : Words.split? rest = some (before ++ word :: behind)) (directory : List Char) :
    shownWord directory (word ++ behind.flatten) = shownWord directory word ++ behind.flatten := by
  unfold shownWord
  cases hfile : Text.dropPrefix? ['.', '/'] word with
  | some file =>
    obtain rfl := Text.dropPrefix?_eq_some_iff.mp hfile
    rw [List.append_assoc, Text.dropPrefix?_append]
    dsimp only
    split_ifs
    · rw [List.append_assoc]
    · rfl
  | none =>
    have hnone : Text.dropPrefix? ['.', '/'] (word ++ behind.flatten) = none := by
      rw [Text.dropPrefix?_eq_none_iff] at hfile ⊢
      rintro ⟨file, hwhole⟩
      rcases word with _ | ⟨c, _ | ⟨d, word⟩⟩
      · exact Words.nil_not_mem_of_split? h (by simp)
      · obtain ⟨rfl, hbehind⟩ : '.' = c ∧ '/' :: file = behind.flatten := by simpa using hwhole
        rcases Words.behind_word h (by decide) hbehind.symm with hword | hampersand
        · exact hword (by decide)
        · exact absurd hampersand (by decide)
      · obtain ⟨rfl, rfl, -⟩ : '.' = c ∧ '/' = d ∧ _ := by simpa using hwhole
        exact hfile ⟨word, rfl⟩
    rw [hnone]

/-- **The command line as it is shown** from a column on: all of it, but for the way to a program of
the directory itself in front of the command word. There is no command word where the quoting does
not end. -/
def shown (directory : List Char) (preOffset offset : Nat) (line : List Char) : List Char :=
  let rest := line.drop offset
  match Words.split? rest, Text.dropPrefix? ['.', '/'] (Text.trimStart rest) with
  | some _, some file =>
    if directory.isEmpty then line.drop preOffset
    else (line.take offset).drop preOffset ++ rest.takeWhile isBlank ++ file
  | _, _ => line.drop preOffset

section Shown

variable {directory line : List Char} {preOffset offset : Nat}

/-- The text of the prompt and the command behind it. -/
theorem take_append_drop (h : preOffset ≤ offset) :
    (line.take offset).drop preOffset ++ line.drop offset = line.drop preOffset := by
  have hoffset : preOffset + (offset - preOffset) = offset := by omega
  have hwhole := List.take_append_drop (offset - preOffset) (line.drop preOffset)
  rwa [List.drop_drop, hoffset, ← List.drop_take] at hwhole

theorem shown_of_none (h : Words.split? (line.drop offset) = none) :
    shown directory preOffset offset line = line.drop preOffset := by
  simp only [shown, h]

theorem shown_of_some (hoffset : preOffset ≤ offset) {parts : List (List Char)}
    (h : Words.split? (line.drop offset) = some parts) :
    shown directory preOffset offset line = (line.take offset).drop preOffset ++
      ((line.drop offset).takeWhile isBlank ++
        shownWord directory (Text.trimStart (line.drop offset))) := by
  have hrest : (line.drop offset).takeWhile isBlank ++ Text.trimStart (line.drop offset) =
      line.drop offset := List.takeWhile_append_dropWhile
  simp only [shown, shownWord, h]
  cases Text.dropPrefix? ['.', '/'] (Text.trimStart (line.drop offset)) with
  | none => rw [hrest, take_append_drop hoffset]
  | some file =>
    dsimp only
    split_ifs
    · rw [hrest, take_append_drop hoffset]
    · rw [List.append_assoc]

end Shown

/-! ### Pieces of markup -/

/-- **A piece of markup that renders a text**: it shows the text, and its tags are among those of
the templates. -/
def Renders (named : List Char → Option Char) (entryIndex : Nat)
    (directory line html text : List Char) : Prop :=
  ∃ tags, Shows named html text tags ∧ ∀ tag ∈ tags, IsTag named entryIndex directory line tag

section Renders

variable {named : List Char → Option Char} {entryIndex : Nat}
  {directory line html html' text text' : List Char}

theorem Renders.append (h : Renders named entryIndex directory line html text)
    (h' : Renders named entryIndex directory line html' text') :
    Renders named entryIndex directory line (html ++ html') (text ++ text') := by
  obtain ⟨tags, hshows, htags⟩ := h
  obtain ⟨tags', hshows', htags'⟩ := h'
  exact ⟨tags ++ tags', hshows.append hshows', List.forall_mem_append.mpr ⟨htags, htags'⟩⟩

theorem Renders.of_shows (h : Shows named html text []) :
    Renders named entryIndex directory line html text :=
  ⟨[], h, by simp⟩

theorem renders_nil : Renders named entryIndex directory line [] [] :=
  .of_shows (Html.shows_of_inert (by decide) (by decide))

theorem Renders.element {given : List (List Char × List Char)} {name : List Char}
    (h : Renders named entryIndex directory line html text)
    (hgiven : ∀ entry ∈ given, Inert entry.1 ∧ Inert entry.2) (hname : Inert name)
    (hopen : IsTag named entryIndex directory line (Html.openTag given))
    (hclose : IsTag named entryIndex directory line (Html.closeTag name)) :
    Renders named entryIndex directory line (Html.element given html name) text := by
  obtain ⟨tags, hshows, htags⟩ := h
  refine ⟨_, Html.shows_element hgiven hshows hname, List.forall_mem_cons.mpr ⟨hopen, ?_⟩⟩
  exact List.forall_mem_append.mpr ⟨htags, List.forall_mem_singleton.mpr hclose⟩

/-- Blanks are copied. -/
theorem renders_blank {piece : List Char} (h : Text.allBlank piece = true) :
    Renders named entryIndex directory line piece piece := by
  have hprintable : ['<', '>', '"', '&'].all (!isBlank ·) = true := by decide
  have hspecial : ∀ c ∈ ['<', '>', '"', '&'], c ∉ piece := fun c hc hmem => by
    simpa [List.all_eq_true.mp h c hmem] using List.all_eq_true.mp hprintable c hc
  exact .of_shows (Html.shows_of_inert
    ⟨hspecial _ (by simp), hspecial _ (by simp), hspecial _ (by simp)⟩ (hspecial _ (by simp)))

/-! ### The elements -/

variable {escape : List Char → List Char} (hescape : Escapes named escape)

include hescape

theorem renders_escape (text : List Char) :
    Renders named entryIndex directory line (escape text) text :=
  .of_shows (Html.shows_escape hescape text)

theorem renders_prompt (text : List Char) :
    Renders named entryIndex directory line (prompt text entryIndex directory escape) text := by
  have hbegin : "<span class=\"term-cmd-prompt term-link\" id=\"prompt".toList =
      '<' :: "span class=".toList ++ '"' :: "term-cmd-prompt term-link".toList ++
        '"' :: " id=".toList ++ '"' :: "prompt".toList := by decide
  have hdirectory : "\" data-termdir=\"".toList = '"' :: " data-termdir=".toList ++ ['"'] := by
    decide
  have heq : prompt text entryIndex directory escape = Html.element
      [("span class=".toList, "term-cmd-prompt term-link".toList),
        (" id=".toList, "prompt".toList ++ Nat.toDigits 10 entryIndex),
        (" data-termdir=".toList, escape directory)] (escape text) "span".toList := by
    delta prompt
    rw [hbegin, hdirectory]
    simp [Html.element, Html.attributes]
  rw [heq]
  refine (renders_escape hescape text).element ?_ (by decide)
    (.prompt (hescape.decodes directory)) .endSpan
  simp only [List.forall_mem_cons]
  exact ⟨by decide, ⟨by decide, .append (by decide) (inert_toDigits _)⟩,
    ⟨by decide, hescape.inert _⟩, by simp⟩

theorem renders_plain (text : List Char) (command : Bool) :
    Renders named entryIndex directory line (plain text command escape) text := by
  have hbegin : "<span class=\"term-cmd-text term-link".toList =
      '<' :: "span class=".toList ++ '"' :: "term-cmd-text term-link".toList := by decide
  have heq : plain text command escape = Html.element
      [("span class=".toList, "term-cmd-text term-link".toList ++ commandClass command)]
      (escape text) "span".toList := by
    delta plain
    rw [hbegin]
    simp [Html.element, Html.attributes]
  rw [heq]
  refine (renders_escape hescape text).element ?_ (by decide) (.plain command) .endSpan
  simp only [List.forall_mem_cons]
  exact ⟨⟨by decide, .append (by decide) (inert_commandClass _)⟩, by simp⟩

theorem renders_path {word : List Char} (hword : word <:+: line) (command : Bool) :
    Renders named entryIndex directory line (path word directory command escape) word := by
  have hbegin : "<a class=\"term-cmd-path term-link".toList =
      '<' :: "a class=".toList ++ '"' :: "term-cmd-path term-link".toList := by decide
  have hhref : "\" href=\"file://".toList = '"' :: " href=".toList ++ '"' :: "file://".toList := by
    decide
  have hmime : "\" data-termmime=\"x-webterm/path\" data-termcmd=\"xpaste\">".toList =
      '"' :: " data-termmime=".toList ++ '"' :: "x-webterm/path".toList ++
        '"' :: " data-termcmd=".toList ++ '"' :: "xpaste".toList ++ ['"', '>'] := by decide
  have heq : path word directory command escape = Html.element
      [("a class=".toList, "term-cmd-path term-link".toList ++ commandClass command),
        (" href=".toList, "file://".toList ++ escape (Path.join directory word)),
        (" data-termmime=".toList, "x-webterm/path".toList),
        (" data-termcmd=".toList, "xpaste".toList)] (escape word) "a".toList := by
    delta path
    rw [hbegin, hhref, hmime]
    simp [Html.element, Html.attributes]
  have hvalue : Decodes named ("file://".toList ++ escape (Path.join directory word))
      ("file://".toList ++ Path.join directory word) :=
    (hescape.decodes _).append_of_not_mem (by decide)
  rw [heq]
  refine (renders_escape hescape word).element ?_ (by decide) (.path command hword hvalue) .endLink
  simp only [List.forall_mem_cons]
  exact ⟨⟨by decide, .append (by decide) (inert_commandClass _)⟩,
    ⟨by decide, .append (by decide) (hescape.inert _)⟩, by decide, by decide, by simp⟩

/-! ### The pieces behind the command -/

/-- **Each piece is shown as it is.** -/
theorem renders_arguments {parts : List (List Char)} (h : ∀ piece ∈ parts, piece <:+: line)
    (fileArguments : Bool) : Renders named entryIndex directory line
      (arguments escape directory fileArguments parts) parts.flatten := by
  induction parts generalizing fileArguments with
  | nil => exact renders_nil
  | cons piece rest ih =>
    obtain ⟨hpiece, hrest⟩ := List.forall_mem_cons.mp h
    rw [arguments, List.flatten_cons]
    split_ifs with hblank
    · exact (renders_blank hblank).append (ih hrest fileArguments)
    · exact (renders_plain hescape piece false).append (ih hrest false)
    · exact (renders_path hescape hpiece false).append (ih hrest fileArguments)
    · exact (renders_plain hescape piece false).append (ih hrest fileArguments)

/-! ### The command -/

theorem renders_command {word : List Char} (h : word <:+: line) :
    Renders named entryIndex directory line (command escape directory word)
      (shownWord directory word) := by
  unfold command shownWord
  cases hfile : Text.dropPrefix? ['.', '/'] word with
  | none => exact renders_plain hescape word true
  | some file =>
    have hsuffix : file <:+ word := ⟨_, (Text.dropPrefix?_eq_some_iff.mp hfile).symm⟩
    dsimp only
    split_ifs
    · exact renders_plain hescape word true
    · exact renders_path hescape (hsuffix.isInfix.trans h) true

/-! ### The pieces of a line -/

/-- **A line that is cut into pieces** is shown with its blanks in front and without the way to its
program. -/
theorem renders_pieces {rest : List Char} (hrest : rest <:+: line) {parts : List (List Char)}
    (h : Words.split? rest = some parts) :
    Renders named entryIndex directory line (pieces escape directory parts)
      (rest.takeWhile isBlank ++ shownWord directory (Text.trimStart rest)) := by
  have hflatten : parts.flatten = rest := Words.flatten_of_split? h
  have hpart : ∀ piece ∈ parts, piece <:+: line := by
    intro piece hmem
    obtain ⟨before, behind, rfl⟩ := List.append_of_mem hmem
    exact List.IsInfix.trans ⟨before.flatten, behind.flatten, by simpa using hflatten⟩ hrest
  have hsplit : parts.takeWhile Text.allBlank ++ parts.dropWhile Text.allBlank = parts :=
    List.takeWhile_append_dropWhile
  have hfront : ∀ c ∈ (parts.takeWhile Text.allBlank).flatten, isBlank c = true := by
    intro c hc
    obtain ⟨piece, hpiece, hmem⟩ := List.mem_flatten.mp hc
    have hblank : Text.allBlank piece = true := List.mem_takeWhile_imp hpiece
    exact List.all_eq_true.mp hblank c hmem
  unfold pieces
  dsimp only
  generalize parts.takeWhile Text.allBlank = blanks at *
  cases htail : parts.dropWhile Text.allBlank with
  | nil =>
    -- the line is blank, and no command is in it
    rw [htail, List.append_nil] at hsplit
    subst hsplit hflatten
    have hempty : Text.trimStart blanks.flatten = [] := List.dropWhile_eq_nil_iff.mpr hfront
    have hall : blanks.flatten.takeWhile isBlank = blanks.flatten :=
      List.takeWhile_eq_self_iff.mpr hfront
    rw [hempty, hall]
    exact (renders_blank (List.all_eq_true.mpr hfront)).append renders_nil
  | cons word behind =>
    have hword : Text.allBlank word = false := by
      simpa [htail] using List.head?_dropWhile_not Text.allBlank parts
    rw [htail] at hsplit
    subst hsplit
    obtain ⟨c, more, rfl⟩ : ∃ c more, word = c :: more := List.exists_cons_of_ne_nil fun hnil =>
      Words.nil_not_mem_of_split? h (by simp [hnil])
    have hc : isBlank c = false := by
      by_contra hc
      rw [Bool.not_eq_false] at hc
      exact Bool.false_ne_true (hword.symm.trans (Words.allBlank_of_split? h (by simp) hc))
    have hrest : rest = blanks.flatten ++ (c :: more ++ behind.flatten) := by
      simpa using hflatten.symm
    have hbegin : rest.takeWhile isBlank = blanks.flatten := by
      rw [hrest, List.takeWhile_append_of_pos hfront, List.cons_append,
        List.takeWhile_cons_of_neg (by simp [hc]), List.append_nil]
    have htrim : Text.trimStart rest = c :: more ++ behind.flatten := by
      rw [hrest, Text.trimStart, List.dropWhile_append_of_pos hfront, List.cons_append,
        List.dropWhile_cons_of_neg (by simp [hc])]
    rw [hbegin, htrim, shownWord_append h]
    exact (renders_blank (List.all_eq_true.mpr hfront)).append
      ((renders_command hescape (hpart _ (by simp))).append
        (renders_arguments hescape (fun piece hmem => hpart piece (by simp [hmem])) _))

end Renders

/-- **The markup of a command line** shows the line, whatever is written on it and whatever its
directory is: with the tags dropped and the references decoded it is the line from the column on
where the prompt begins, but for the way to a program of the directory. No character of either opens
or closes a tag or a value: the tags are those of the templates. -/
theorem commandLine_shows {named : List Char → Option Char} {escape : List Char → List Char}
    (hescape : Escapes named escape) (entryIndex : Nat) (directory : List Char)
    {preOffset offset : Nat} (h : preOffset ≤ offset) (line : List Char) :
    let html := commandLine entryIndex directory preOffset offset line escape
    (∃ kept, PlainText.dropTags false html = some kept ∧
        Decodes named kept (shown directory preOffset offset line)) ∧
      ∃ tags, Html.tagsFrom .text html = some tags ∧
        ∀ tag ∈ tags, IsTag named entryIndex directory (line.drop offset) tag := by
  have hrenders : Renders named entryIndex directory (line.drop offset)
      (commandLine entryIndex directory preOffset offset line escape)
      (shown directory preOffset offset line) := by
    have hprompt : (line.drop preOffset).take (offset - preOffset) =
        (line.take offset).drop preOffset := List.drop_take.symm
    unfold commandLine
    dsimp only
    rw [hprompt]
    cases hparts : Words.split? (line.drop offset) with
    | some parts =>
      rw [shown_of_some h hparts]
      exact (renders_prompt hescape _).append (renders_pieces hescape (List.infix_refl _) hparts)
    | none =>
      have hline : (line.take offset).drop preOffset ++ line.drop offset = line.drop preOffset :=
        take_append_drop h
      rw [shown_of_none hparts, ← hline]
      exact (renders_prompt hescape _).append (renders_escape hescape _)
  obtain ⟨tags, hshows, htags⟩ := hrenders
  exact ⟨hshows.dropTags, tags, hshows.tagsFrom, htags⟩

/-- Neither a quotation mark in the directory nor a delimiter in the line ends anything, and what is
quoted is a word with all that is in it. -/
theorem commandLine_shows_quoted :
    let html := commandLine 3 "/a\"><b".toList 2 4 "> $ ./x<y '&lt; >' &".toList
    2 ≤ 4 ∧
      (∃ kept, PlainText.dropTags false html = some kept ∧
        Decodes Html.characters kept "$ x<y '&lt; >' &".toList) ∧
      ∃ tags, Html.tagsFrom .text html = some tags ∧
        ∀ tag ∈ tags, IsTag Html.characters 3 "/a\"><b".toList "./x<y '&lt; >' &".toList tag := by
  have hshown : shown "/a\"><b".toList 2 4 "> $ ./x<y '&lt; >' &".toList =
      "$ x<y '&lt; >' &".toList := by decide
  have hle : 2 ≤ 4 := by decide
  obtain ⟨hkept, htags⟩ := commandLine_shows Html.escapes_escape 3 "/a\"><b".toList hle
    "> $ ./x<y '&lt; >' &".toList
  rw [hshown] at hkept
  exact ⟨hle, hkept, htags⟩

end GlassTty.Markup
