import Mathlib.Data.Bool.AllAny
import GlassTty.Paste.Compose
import GlassTty.Proofs.Paste.Letters

/-!
# How a paste comes about

The text that a click types is put together in three steps (`GlassTty.Paste.compose_eq`): the parts
are laid out by what stands on the command line, the file among them is named from the working
directory, and what they make is finished by the destination and the end of the line.

| the command line | the parts (`GlassTty.Paste.Laid`) |
|---|---|
| no prompt | the word alone |
| an empty line, and a command asked for | the command, and the word as its argument |
| an empty line | the word as the command |
| something is typed | the word as an argument behind it |

An argument is the word that was clicked on, or the file as it is named at the prompt. Whatever is
to be shown of all texts that are typed is shown of these cases
(`GlassTty.Paste.exists_laid`).
-/

namespace GlassTty.Paste

/-! ### What is asked for -/

section Asked

variable (c : CommandLine) (text fileUrl : List Char) (options : PasteOptions)

/-- A copy of which both ends are on the host itself is a renaming. -/
def isRenaming : Bool :=
  remoteCommands.contains options.command && isLocal fileUrl c.localHost &&
    isLocal options.destUrl.toList c.localHost

/-- Whether files are named by their whole URLs. -/
def keepsUrls : Bool :=
  remoteCommands.contains options.command && !isRenaming c fileUrl options

/-- The command that is put in front. -/
def commandOf : List Char :=
  (if isRenaming c fileUrl options then renameCommand else options.command).toList

/-- The word that is pasted: the text, or the file if there is none. -/
def wordOf : List Char :=
  if text.isEmpty ∧ !fileUrl.isEmpty then
    if keepsUrls c fileUrl options then fileUrl else FileUrl.pathOf fileUrl
  else text

/-- A file as it is named on the command line. -/
def nameOf (url : List Char) : List Char :=
  if keepsUrls c fileUrl options then url else FileUrl.relative url c.cwd

/-- **The click runs the command**: it asks for it, and nothing is typed yet. -/
structure Submits : Prop where
  enter : options.enter = true
  prompt : 0 < c.promptOffset
  nothing_typed : typed c = []
  command : options.command ≠ ""

instance : Decidable (Submits c options) :=
  decidable_of_iff
    (options.enter = true ∧ 0 < c.promptOffset ∧ typed c = [] ∧ options.command ≠ "")
    ⟨fun h => ⟨h.1, h.2.1, h.2.2.1, h.2.2.2⟩,
      fun h => ⟨h.enter, h.prompt, h.nothing_typed, h.command⟩⟩

/-- A paste with the destination behind it, if there is one. -/
def withDestination (paste : List Char) : List Char :=
  if options.destUrl.toList.isEmpty then paste
  else addDestination paste (nameOf c fileUrl options options.destUrl.toList)

/-- What is typed: the line is ended if the click runs the command. -/
def finish (paste : List Char) : List Char :=
  withDestination c fileUrl options paste ++ if Submits c options then ['\n'] else []

variable (files : FileSystem)

/-! ### The three steps -/

theorem commandOf_eq_nil_iff : commandOf c fileUrl options = [] ↔ options.command = "" := by
  unfold commandOf
  split
  · next hrenames =>
    refine iff_of_false (by decide) fun hnone => ?_
    rw [isRenaming, hnone] at hrenames
    cases hrenames
  · exact String.toList_eq_nil_iff

theorem submits_iff :
    (options.enter && decide (0 < c.promptOffset) &&
      (if 0 < c.promptOffset then typed c else []).isEmpty &&
      !(commandOf c fileUrl options).isEmpty) = true ↔ Submits c options := by
  have hcommand := commandOf_eq_nil_iff c fileUrl options
  constructor
  · intro h
    simp only [Bool.and_eq_true, decide_eq_true_eq, Bool.not_eq_true', List.isEmpty_iff,
      List.isEmpty_eq_false_iff] at h
    obtain ⟨⟨⟨henter, hprompt⟩, htyped⟩, hgiven⟩ := h
    rw [if_pos hprompt] at htyped
    exact ⟨henter, hprompt, htyped, mt hcommand.mpr hgiven⟩
  · intro h
    simp [h.enter, h.prompt, h.nothing_typed, hcommand, h.command]

/-- Whether files are named from the working directory, if that is known. -/
def normalization : Option Bool :=
  if 0 < c.promptOffset ∧ options.normalize = none ∧ c.normalizeByDefault then some true
  else options.normalize

/-- The parts with the file named from the working directory, where it is to be. -/
def shownParts (p : Parts) : Parts :=
  if !c.cwd.isEmpty ∧ normalization c options = some true ∧ p.isArgument ∧ !fileUrl.isEmpty then
    if keepsUrls c fileUrl options then { p with text := fileUrl }
    else if Path.isAbsolute (FileUrl.relative fileUrl c.cwd) then p
    else { p with text := FileUrl.relative fileUrl c.cwd }
  else p

theorem shownParts_cases (p : Parts) :
    shownParts c fileUrl options p = p ∨ p.isArgument = true ∧
      shownParts c fileUrl options p = { p with text := nameOf c fileUrl options fileUrl } := by
  unfold shownParts nameOf
  split_ifs with h
  · exact .inr ⟨h.2.2.1, rfl⟩
  · exact .inl rfl
  · exact .inr ⟨h.2.2.1, rfl⟩
  · exact .inl rfl
  · exact .inl rfl

/-- The text that is typed, none if there is nothing in the parts. -/
def finished (p : Parts) : Option (List Char) :=
  if p.text.isEmpty ∧ p.command.isEmpty then none
  else some (finish c fileUrl options (assemble p))

/-- **The three steps of a paste.** -/
theorem compose_eq :
    compose files c text fileUrl options =
      (if 0 < c.promptOffset then
        partsAtPrompt files c (commandOf c fileUrl options) (wordOf c text fileUrl options)
          (typed c)
      else .ok { text := wordOf c text fileUrl options }).map fun p =>
        finished c fileUrl options (shownParts c fileUrl options p) := by
  let ending (p : Parts) : Except PasteError (Option (List Char)) :=
    if p.text.isEmpty ∧ p.command.isEmpty then .ok none
    else .ok (some (
      if options.enter && decide (0 < c.promptOffset) &&
        (if 0 < c.promptOffset then typed c else []).isEmpty &&
          !(commandOf c fileUrl options).isEmpty then
        withDestination c fileUrl options (assemble p) ++ ['\n']
      else withDestination c fileUrl options (assemble p)))
  have hend (p : Parts) : ending p = .ok (finished c fileUrl options p) := by
    simp only [ending, finished, finish, submits_iff]
    split_ifs
    · rfl
    · rfl
    · rw [List.append_nil]
  -- the two branches of the layout go on alike
  have hcompose : compose files c text fileUrl options =
      if 0 < c.promptOffset then
        partsAtPrompt files c (commandOf c fileUrl options) (wordOf c text fileUrl options)
          (if 0 < c.promptOffset then typed c else []) >>= fun p =>
            ending (shownParts c fileUrl options p)
      else
        Except.ok { text := wordOf c text fileUrl options } >>= fun p =>
          ending (shownParts c fileUrl options p) := by
    rfl
  simp only [hcompose, hend]
  split <;> rfl

end Asked

/-! ### How the parts are laid out -/

/-- **What the parts of a paste can be**, `word` being what is clicked on and `file` the file as it
is named at a prompt. -/
inductive Laid (command word file : List Char) : Parts → Prop where
  /-- Away from a prompt the word stands alone. -/
  | alone : Laid command word file { text := word }
  /-- On an empty line it is the argument of the command. -/
  | withCommand {shown : List Char} (h : shown = word ∨ shown = file) :
    Laid command word file { command := withSpace command, text := shown, isArgument := true }
  /-- On an empty line without a command it is the command. -/
  | asCommand : Laid command word file { command := withSpace (escapeSpaces word), text := [] }
  /-- Behind what is typed it is an argument. -/
  | behind {space shown : List Char} (hspace : space = [] ∨ space = [' '])
    (h : shown = word ∨ shown = file) :
    Laid command word file { space, text := shown, isArgument := true }

variable {files : FileSystem} {c : CommandLine} {command word typed file : List Char}
  {p q : Parts}

/-- What is put together behind a program that is found. -/
theorem eq_of_requireProgram {program : List Char}
    (h : (requireProgram files c program >>= fun _ => .ok p) = .ok q) : p = q := by
  cases hfound : requireProgram files c program with
  | error e => rw [hfound] at h; cases h
  | ok _ => rw [hfound] at h; exact Except.ok.inj h

theorem laid_of_partsAtPrompt (h : partsAtPrompt files c command word typed = .ok p) :
    Laid command word file p := by
  unfold partsAtPrompt at h
  split_ifs at h
  · obtain rfl := eq_of_requireProgram h
    exact .withCommand (.inl rfl)
  · obtain rfl := eq_of_requireProgram h
    exact .asCommand
  · cases h
    exact .asCommand
  · cases h
    exact .alone
  · cases h
    exact .behind (.inl rfl) (.inl rfl)
  · cases h
    exact .behind (.inr rfl) (.inl rfl)

/-- An argument can be named as a file. -/
theorem Laid.named (h : Laid command word file p) (hargument : p.isArgument = true) :
    Laid command word file { p with text := file } := by
  cases h with
  | alone => cases hargument
  | withCommand => exact .withCommand (.inr rfl)
  | asCommand => cases hargument
  | behind hspace => exact .behind hspace (.inr rfl)

theorem Laid.shownParts {fileUrl : List Char} {options : PasteOptions}
    (h : Laid command word (nameOf c fileUrl options fileUrl) p) :
    Laid command word (nameOf c fileUrl options fileUrl) (shownParts c fileUrl options p) := by
  rcases shownParts_cases c fileUrl options p with hsame | ⟨hargument, hnamed⟩
  · rw [hsame]
    exact h
  · rw [hnamed]
    exact h.named hargument

/-- **How a paste comes about**: it is put together from parts that are laid out, and finished. -/
theorem exists_laid {text fileUrl paste : List Char} {options : PasteOptions}
    (h : compose files c text fileUrl options = .ok (some paste)) :
    ∃ p, Laid (commandOf c fileUrl options) (wordOf c text fileUrl options)
        (nameOf c fileUrl options fileUrl) p ∧
      paste = finish c fileUrl options (assemble p) := by
  rw [compose_eq] at h
  have hlaid : ∀ p, (if 0 < c.promptOffset then
      partsAtPrompt files c (commandOf c fileUrl options) (wordOf c text fileUrl options) (typed c)
      else .ok { text := wordOf c text fileUrl options }) = .ok p →
        Laid (commandOf c fileUrl options) (wordOf c text fileUrl options)
          (nameOf c fileUrl options fileUrl) p := by
    intro p hp
    split at hp
    · exact laid_of_partsAtPrompt hp
    · cases hp
      exact .alone
  revert h hlaid
  generalize (if 0 < c.promptOffset then _ else _ : Except PasteError Parts) = parts
  intro h hlaid
  cases parts with
  | error e => cases h
  | ok p =>
    rw [Except.map, Except.ok.injEq, finished] at h
    split at h
    · cases h
    · exact ⟨_, (hlaid p rfl).shownParts, (Option.some.inj h).symm⟩

/-! ### The characters of a paste -/

section Letters

variable {P : Char → Prop} {c : CommandLine} {text fileUrl : List Char} {options : PasteOptions}

theorem forall_mem_nameOf {url : List Char} (hdot : P '.') (hslash : P '/')
    (h : ∀ ch ∈ url, P ch) : ∀ ch ∈ nameOf c fileUrl options url, P ch := by
  unfold nameOf
  split
  · exact h
  · exact FileUrl.forall_mem_relative hdot hslash h

theorem forall_mem_wordOf (hslash : P '/') (htext : ∀ ch ∈ text, P ch)
    (hurl : ∀ ch ∈ fileUrl, P ch) : ∀ ch ∈ wordOf c text fileUrl options, P ch := by
  unfold wordOf
  split_ifs
  · exact hurl
  · intro ch hch
    rcases FileUrl.mem_pathOf hch with hmem | rfl
    · exact hurl ch hmem
    · exact hslash
  · exact htext

theorem forall_mem_commandOf (hrename : ∀ ch ∈ renameCommand.toList, P ch)
    (hcommand : ∀ ch ∈ options.command.toList, P ch) :
    ∀ ch ∈ commandOf c fileUrl options, P ch := by
  unfold commandOf
  split
  · exact hrename
  · exact hcommand

theorem forall_mem_withSpace {command : List Char} (hspace : P ' ') (h : ∀ ch ∈ command, P ch) :
    ∀ ch ∈ withSpace command, P ch := by
  unfold withSpace
  split
  · exact h
  · exact List.forall_mem_append.mpr ⟨h, List.forall_mem_singleton.mpr hspace⟩

theorem forall_mem_escapeSpaces {text : List Char} (hspace : P ' ') (hbackslash : P '\\')
    (h : ∀ ch ∈ text, P ch) : ∀ ch ∈ escapeSpaces text, P ch := by
  intro ch hch
  obtain ⟨d, hd, hch⟩ := List.mem_flatMap.mp hch
  split at hch
  · rcases List.mem_pair.mp hch with rfl | rfl
    · exact hbackslash
    · exact hspace
  · exact List.mem_singleton.mp hch ▸ h d hd

end Letters

/-! ### What an assembled paste looks like -/

/-- An argument goes into the command, or behind it with a space at the end. -/
theorem assemble_cases (p : Parts) :
    (p.isArgument = true ∧ p.command ≠ [] ∧
        assemble p = Text.replaceAll placeholder (escapeSpaces p.text) p.command) ∨
      assemble p = p.command ++ p.space ++ escapeSpaces p.text ++ [' '] := by
  unfold assemble
  dsimp only
  split_ifs with h
  · refine .inl ⟨h.1, fun hnil => ?_, rfl⟩
    rw [hnil] at h
    exact Bool.false_ne_true h.2
  · exact .inr rfl

section Assembled

variable {P : Char → Prop} {command word file : List Char} {p : Parts}

theorem forall_mem_shown {shown : List Char} (hword : ∀ ch ∈ word, P ch)
    (hfile : ∀ ch ∈ file, P ch) (h : shown = word ∨ shown = file) : ∀ ch ∈ shown, P ch := by
  rcases h with rfl | rfl
  · exact hword
  · exact hfile

theorem forall_mem_assemble (hspace : P ' ') (hbackslash : P '\\')
    (hcommand : ∀ ch ∈ p.command, P ch) (hbetween : ∀ ch ∈ p.space, P ch)
    (htext : ∀ ch ∈ p.text, P ch) : ∀ ch ∈ assemble p, P ch := by
  have hescaped := forall_mem_escapeSpaces hspace hbackslash htext
  rcases assemble_cases p with ⟨-, -, hassemble⟩ | hassemble
  · rw [hassemble]
    exact fun ch hch => (Text.mem_replaceAll hch).elim (hescaped ch) (hcommand ch)
  · rw [hassemble]
    simp only [List.forall_mem_append, List.forall_mem_singleton]
    exact ⟨⟨⟨hcommand, hbetween⟩, hescaped⟩, hspace⟩

/-- **An assembled paste is made of** what it is laid out from, and of escaped spaces. -/
theorem Laid.forall_mem_assemble (h : Laid command word file p) (hspace : P ' ')
    (hbackslash : P '\\') (hcommand : ∀ ch ∈ command, P ch) (hword : ∀ ch ∈ word, P ch)
    (hfile : ∀ ch ∈ file, P ch) : ∀ ch ∈ assemble p, P ch := by
  apply Paste.forall_mem_assemble hspace hbackslash
  · cases h with
    | alone => exact nofun
    | withCommand => exact forall_mem_withSpace hspace hcommand
    | asCommand =>
      exact forall_mem_withSpace hspace (forall_mem_escapeSpaces hspace hbackslash hword)
    | behind => exact nofun
  · cases h with
    | alone => exact nofun
    | withCommand => exact nofun
    | asCommand => exact nofun
    | behind hbetween =>
      rcases hbetween with rfl | rfl
      · exact nofun
      · exact List.forall_mem_singleton.mpr hspace
  · cases h with
    | alone => exact hword
    | withCommand hshown => exact forall_mem_shown hword hfile hshown
    | asCommand => exact nofun
    | behind _ hshown => exact forall_mem_shown hword hfile hshown

end Assembled

end GlassTty.Paste
