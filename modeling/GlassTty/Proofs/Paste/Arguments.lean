import GlassTty.Proofs.Paste.Composing
import GlassTty.Proofs.Paste.Relative
import GlassTty.Proofs.Prompt.Cutting

/-!
# A pasted file is one word

Behind what is typed a file becomes an argument. Its spaces are escaped, so that the line is cut
before and behind it and nowhere in it (`GlassTty.Paste.compose_file_one_word`): the argument is the
path of the file, or its name as seen from the working directory, once its spaces are read back.

This asks of the path that its other characters stay what they are on a command line
(`GlassTty.Paste.IsPlain`). Nothing is asked of the working directory, of which no character is
written, and of what is typed only that there is something.
-/

namespace GlassTty.Paste

open Words

/-! ### Escaped spaces -/

theorem escapeSpaces_cons (c : Char) (text : List Char) :
    escapeSpaces (c :: text) =
      (if c = ' ' then ['\\', ' '] else [c]) ++ escapeSpaces text :=
  List.flatMap_cons

/-- A text with its spaces no longer escaped. -/
def unescapeSpaces (text : List Char) : List Char :=
  Text.replaceAll ['\\', ' '] [' '] text

theorem unescapeSpaces_of_not_mem {text : List Char} (h : '\\' ∉ text) :
    unescapeSpaces text = text := by
  have hsame : unescapeSpaces (text ++ []) = text ++ unescapeSpaces [] :=
    Text.replaceAll_append_of_not_mem h []
  have hnil : unescapeSpaces [] = [] := rfl
  rwa [List.append_nil, hnil, List.append_nil] at hsame

theorem unescapeSpaces_escapeSpaces {text : List Char} (h : '\\' ∉ text) :
    unescapeSpaces (escapeSpaces text) = text := by
  induction text with
  | nil => rfl
  | cons c text ih =>
    obtain ⟨hc, htext⟩ := List.ne_and_not_mem_of_not_mem_cons h
    rw [escapeSpaces_cons]
    split
    · next hspace =>
      have hfirst : unescapeSpaces (['\\', ' '] ++ escapeSpaces text) =
          [' '] ++ unescapeSpaces (escapeSpaces text) :=
        Text.replaceAll_append (List.cons_ne_nil '\\' [' ']) (escapeSpaces text)
      rw [hfirst, ih htext, hspace, List.singleton_append]
    · have hnone : ¬['\\', ' '] <+: c :: escapeSpaces text := fun hbegins =>
        hc (List.cons_prefix_cons.mp hbegins).1
      rw [List.singleton_append, unescapeSpaces, Text.replaceAll_cons hnone, ← unescapeSpaces,
        ih htext]

/-! ### Words -/

/-- A character that stands for itself: no quotation mark and no backslash. -/
def IsLiteral (c : Char) : Prop :=
  c ∉ ['\\', '\'', '"']

instance (c : Char) : Decidable (IsLiteral c) :=
  inferInstanceAs (Decidable (¬_))

theorem backslash_not_mem {text : List Char} (h : ∀ c ∈ text, IsLiteral c) : '\\' ∉ text :=
  fun hmem => h _ hmem List.mem_cons_self

/-- **A character that stays what it is on a command line**, when spaces are escaped: it does not
quote, it does not separate commands, and it is no blank but the space. -/
structure IsPlain (c : Char) : Prop where
  literal : IsLiteral c
  not_delimiter : c ∉ delimiters
  eq_space : isBlank c = true → c = ' '

instance (c : Char) : Decidable (IsPlain c) :=
  decidable_of_iff (IsLiteral c ∧ c ∉ delimiters ∧ (isBlank c = true → c = ' '))
    ⟨fun h => ⟨h.1, h.2.1, h.2.2⟩, fun h => ⟨h.literal, h.not_delimiter, h.eq_space⟩⟩

theorem IsPlain.kindOf {c : Char} (h : IsPlain c) (hc : c ≠ ' ') : kindOf c = .word :=
  kindOf_eq_word_iff.mpr ⟨eq_false_of_ne_true (mt h.eq_space hc), h.not_delimiter⟩

theorem closed_of_literal {text : List Char} (h : ∀ c ∈ text, IsLiteral c) :
    Closed text := by
  induction text with
  | nil => exact .nil
  | cons c text ih =>
    obtain ⟨hc, htext⟩ := List.forall_mem_cons.mp h
    exact .cons (.char hc) (ih htext)

theorem closed_escapeSpaces {text : List Char} (h : ∀ c ∈ text, IsLiteral c) :
    Closed (escapeSpaces text) := by
  induction text with
  | nil => exact .nil
  | cons c text ih =>
    obtain ⟨hc, htext⟩ := List.forall_mem_cons.mp h
    rw [escapeSpaces_cons]
    split
    · exact .cons (.escape ' ') (ih htext)
    · exact .cons (.char hc) (ih htext)

/-- **With its spaces escaped a plain text is one word.** -/
theorem uniform_escapeSpaces {text : List Char} (h : ∀ c ∈ text, IsPlain c) :
    Uniform .word (escapeSpaces text) := by
  induction text with
  | nil => exact uniform_of_forall nofun
  | cons c text ih =>
    obtain ⟨hc, htext⟩ := List.forall_mem_cons.mp h
    rw [escapeSpaces_cons]
    split
    · exact uniform_escaped_space.append (Atom.escape ' ').closed (ih htext)
    · next hspace =>
      have hword : Uniform .word [c] := hc.kindOf hspace ▸ uniform_singleton c
      exact hword.append (Atom.char hc.literal).closed (ih htext)

theorem escapeSpaces_ne_nil {text : List Char} (h : text ≠ []) : escapeSpaces text ≠ [] := by
  obtain ⟨c, text, rfl⟩ := List.exists_cons_of_ne_nil h
  rw [escapeSpaces_cons]
  split <;> simp

/-! ### A file behind what is typed -/

section Argument

variable {files : FileSystem} {c : CommandLine} {text fileUrl : List Char} {options : PasteOptions}

/-- What stands between the prompt and the cursor. -/
def beforeCursor (c : CommandLine) : List Char :=
  (match c.cursorCol with
    | some col => c.line.take col
    | none => c.line).drop c.promptOffset

/-- One leading space does not count as typed. -/
theorem typed_cases (c : CommandLine) :
    beforeCursor c = typed c ∨ beforeCursor c = ' ' :: typed c := by
  unfold typed beforeCursor
  dsimp only
  generalize List.drop c.promptOffset _ = before
  split
  · exact .inr rfl
  · exact .inl rfl

theorem allBlank_typed (c : CommandLine) :
    Text.allBlank (typed c) = Text.allBlank (beforeCursor c) := by
  have hspace : isBlank ' ' = true := by decide
  rcases typed_cases c with h | h
  · rw [h]
  · rw [h, Text.allBlank, Text.allBlank, List.all_cons, hspace, Bool.true_and]

theorem getLast?_typed (h : Text.allBlank (beforeCursor c) = false) :
    (typed c).getLast? = (beforeCursor c).getLast? := by
  rw [← allBlank_typed] at h
  rcases typed_cases c with hsame | hspace
  · rw [hsame]
  · obtain ⟨d, rest, htyped⟩ : ∃ d rest, typed c = d :: rest := by
      refine List.exists_cons_of_ne_nil fun hnil => ?_
      rw [hnil] at h
      cases h
    rw [hspace, htyped, List.getLast?_cons_cons]

/-- **Behind what is typed the word is an argument**, set apart by a space. -/
theorem compose_of_typed (hprompt : 0 < c.promptOffset)
    (htyped : Text.allBlank (beforeCursor c) = false) :
    compose files c text fileUrl options =
      .ok (finished c fileUrl options (shownParts c fileUrl options
        { space := if (beforeCursor c).getLast? = some ' ' then [] else [' ']
          text := wordOf c text fileUrl options
          isArgument := true })) := by
  rw [compose_eq, if_pos hprompt, partsAtPrompt, allBlank_typed, htyped, getLast?_typed htyped]
  rfl

theorem keepsUrls_of_no_command (h : options.command = "") :
    keepsUrls c fileUrl options = false := by
  have hremote : remoteCommands.contains "" = false := by decide
  rw [keepsUrls, h, hremote, Bool.false_and]

/-- Without a command and a destination, an argument is put down with a space behind it. -/
theorem finished_argument {space shown : List Char} (hcommand : options.command = "")
    (hdest : options.destUrl = "") (hshown : shown ≠ []) :
    finished c fileUrl options { space, text := shown, isArgument := true } =
      some (space ++ escapeSpaces shown ++ [' ']) := by
  have hsubmits : ¬Submits c options := fun h => h.command hcommand
  have hempty : options.destUrl.toList.isEmpty = true := by
    rw [hdest]
    rfl
  have hnone : (Text.cut? placeholder []).isSome = false := rfl
  rw [finished, if_neg (by simp [hshown]), finish, withDestination, if_pos hempty, if_neg hsubmits,
    List.append_nil, assemble, hnone, if_neg (by simp), List.nil_append]

theorem wordOf_file {url : List Char} (hcommand : options.command = "") (hurl : url ≠ []) :
    wordOf c [] url options = FileUrl.pathOf url := by
  rw [wordOf, if_pos (by simp [hurl]), keepsUrls_of_no_command hcommand, if_neg Bool.false_ne_true]

theorem nameOf_eq_relative {url : List Char} (hcommand : options.command = "") :
    nameOf c fileUrl options url = FileUrl.relative url c.cwd := by
  rw [nameOf, keepsUrls_of_no_command hcommand, if_neg Bool.false_ne_true]

theorem not_allBlank_of_uniform {word : List Char} (hne : word ≠ []) (h : Uniform .word word) :
    Text.allBlank word = false := by
  obtain ⟨d, rest, rfl⟩ := List.exists_cons_of_ne_nil hne
  rw [Text.allBlank, List.all_cons, (kindOf_eq_word_iff.mp (h [] d rest rfl .nil)).1,
    Bool.false_and]

/-- Without a command, what is shown of an argument is the word, or the file as seen from the
working directory. -/
theorem exists_shown (c : CommandLine) (fileUrl space word : List Char)
    (hcommand : options.command = "") :
    ∃ shown, (shown = word ∨ shown = FileUrl.relative fileUrl c.cwd) ∧
      shownParts c fileUrl options { space, text := word, isArgument := true } =
        { space, text := shown, isArgument := true } := by
  rcases shownParts_cases c fileUrl options { space, text := word, isArgument := true } with
    hsame | ⟨-, hnamed⟩
  · exact ⟨word, .inl rfl, hsame⟩
  · exact ⟨_, .inr rfl, hnamed.trans (by rw [nameOf_eq_relative hcommand])⟩

/-- **A pasted file is one word.** -/
theorem compose_file_one_word {path : List Char} (hprompt : 0 < c.promptOffset)
    (htyped : Text.allBlank (beforeCursor c) = false) (hcommand : options.command = "")
    (hdest : options.destUrl = "") (habsolute : Path.isAbsolute path = true)
    (hquery : '?' ∉ path) (hplain : ∀ ch ∈ path, IsPlain ch) :
    ∃ s word, compose files c [] (FileUrl.scheme ++ path) options = .ok (some s) ∧
      Words.split? s = some
        ((if (beforeCursor c).getLast? = some ' ' then [] else [[' ']]) ++ [word, [' ']]) ∧
      Text.allBlank word = false ∧
      (unescapeSpaces word = path ∨
        unescapeSpaces word = FileUrl.relative (FileUrl.scheme ++ path) c.cwd) := by
  let url := FileUrl.scheme ++ path
  let space := if (beforeCursor c).getLast? = some ' ' then [] else [' ']
  have hurl : url ≠ [] := List.append_ne_nil_of_left_ne_nil (List.cons_ne_nil _ _) path
  have hpath : FileUrl.pathOf url = path := FileUrl.pathOf_scheme_append habsolute hquery
  obtain ⟨shown, hshown, hparts⟩ := exists_shown c url space path hcommand
  have hplainUrl : ∀ ch ∈ url, IsPlain ch :=
    List.forall_mem_append.mpr ⟨List.all_iff_forall_prop.mp (by decide), hplain⟩
  have hne : shown ≠ [] := by
    rcases hshown with rfl | rfl
    · exact hpath ▸ FileUrl.pathOf_ne_nil hurl
    · exact FileUrl.relative_ne_nil hurl
  have hplainShown : ∀ ch ∈ shown, IsPlain ch :=
    forall_mem_shown hplain (FileUrl.forall_mem_relative (by decide) (by decide) hplainUrl) hshown
  have hword := uniform_escapeSpaces hplainShown
  have hliteral : ∀ ch ∈ shown, IsLiteral ch := fun ch hch => (hplainShown ch hch).literal
  have hclosed := closed_escapeSpaces hliteral
  refine ⟨space ++ escapeSpaces shown ++ [' '], escapeSpaces shown, ?_, ?_, ?_, ?_⟩
  · rw [compose_of_typed hprompt htyped, wordOf_file hcommand hurl, hpath, hparts,
      finished_argument hcommand hdest hne]
  · rw [split?_word_space (ite_eq_or_eq ..) (escapeSpaces_ne_nil hne) hword hclosed]
    by_cases hend : (beforeCursor c).getLast? = some ' ' <;> simp [hend]
  · exact not_allBlank_of_uniform (escapeSpaces_ne_nil hne) hword
  · rwa [unescapeSpaces_escapeSpaces (backslash_not_mem hliteral)]

/-- The space in the name of a file is escaped, and the name of its directory is left out. -/
theorem compose_file_one_word_notes :
    let c : CommandLine :=
      { line := "$ vi".toList, cursorCol := some 4, promptOffset := 2, cwd := "/home/u".toList
        normalizeByDefault := true, localHost := "box".toList, search := {} }
    let path := "/home/u/my notes.txt".toList
    let pasted := " my\\ notes.txt ".toList
    (0 < c.promptOffset ∧ Text.allBlank (beforeCursor c) = false ∧
        Path.isAbsolute path = true ∧ '?' ∉ path ∧ ∀ ch ∈ path, IsPlain ch) ∧
      compose default c [] (FileUrl.scheme ++ path) {} = .ok (some pasted) ∧
      ∃ word, split? pasted = some [[' '], word, [' ']] ∧
        (unescapeSpaces word = path ∨ unescapeSpaces word = "my notes.txt".toList) := by
  intro c path pasted
  have hasked : 0 < c.promptOffset ∧ Text.allBlank (beforeCursor c) = false ∧
      Path.isAbsolute path = true ∧ '?' ∉ path ∧ ∀ ch ∈ path, IsPlain ch :=
    ⟨by decide, by decide, by decide, by decide, List.all_iff_forall_prop.mp (by decide)⟩
  have hpasted : compose default c [] (FileUrl.scheme ++ path) {} = .ok (some pasted) := by
    decide +kernel
  have hname : FileUrl.relative (FileUrl.scheme ++ path) c.cwd = "my notes.txt".toList := by decide
  have ⟨hprompt, htyped, habsolute, hquery, hplain⟩ := hasked
  obtain ⟨s, word, hs, hsplit, -, hword⟩ :=
    @compose_file_one_word default c {} path hprompt htyped rfl rfl habsolute hquery hplain
  obtain rfl : pasted = s := Option.some.inj (Except.ok.inj (hpasted.symm.trans hs))
  exact ⟨hasked, hpasted, word, hsplit, hname ▸ hword⟩

end Argument

end GlassTty.Paste
