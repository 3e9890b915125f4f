import GlassTty.Proofs.Paste.Composing

/-!
# When a click ends the line

A click runs its command only if it asks for it (`GlassTty.Paste.Submits`). Only then a line feed is
put behind what is typed, and nothing else that is put there ends a line
(`GlassTty.Paste.exists_body`): spaces, backslashes, steps up and the name of one command.

What the click itself brings is typed as it is: its text, the URLs, the command. A line end in one
of them gets through to the shell, and runs what stands before it
(`GlassTty.Paste.line_ends_pass_through`). A click that brings none ends the line only as its last
character, and only if it is asked to (`GlassTty.Paste.compose_line_ends`).
-/

namespace GlassTty.Paste

section Submitting

variable {files : FileSystem} {c : CommandLine} {text fileUrl paste : List Char}
  {options : PasteOptions}

theorem forall_mem_withDestination {P : Char → Prop} (hspace : P ' ')
    (hpaste : ∀ ch ∈ paste, P ch)
    (hdest : ∀ ch ∈ nameOf c fileUrl options options.destUrl.toList, P ch) :
    ∀ ch ∈ withDestination c fileUrl options paste, P ch := by
  unfold withDestination addDestination
  split
  · exact hpaste
  · refine List.forall_mem_append.mpr ⟨?_, hdest⟩
    split
    · exact hpaste
    · exact List.forall_mem_append.mpr ⟨hpaste, List.forall_mem_singleton.mpr hspace⟩

/-- A character that ends a line. -/
def IsLineEnd (ch : Char) : Prop :=
  ch = '\n' ∨ ch = '\r'

instance (ch : Char) : Decidable (IsLineEnd ch) :=
  inferInstanceAs (Decidable (_ ∨ _))

/-- A character that the click brings with it. -/
def IsGiven (text fileUrl : List Char) (options : PasteOptions) (ch : Char) : Prop :=
  ch ∈ text ∨ ch ∈ fileUrl ∨ ch ∈ options.command.toList ∨ ch ∈ options.destUrl.toList

/-- What a paste has besides what the click brings: separating and escaped spaces, steps up, and the
command that a copy is made into. -/
def added : List Char := " \\./mv".toList

/-- **What is typed is what the click brings**, but for a few characters, and the line may be ended
behind it. -/
theorem exists_body (h : compose files c text fileUrl options = .ok (some paste)) :
    ∃ body, paste = body ++ (if Submits c options then ['\n'] else []) ∧
      ∀ ch ∈ body, IsGiven text fileUrl options ch ∨ ch ∈ added := by
  obtain ⟨p, hlaid, rfl⟩ := exists_laid h
  refine ⟨withDestination c fileUrl options (assemble p), rfl, ?_⟩
  let Made (ch : Char) : Prop := IsGiven text fileUrl options ch ∨ ch ∈ added
  have hspace : Made ' ' := .inr (by decide)
  have hbackslash : Made '\\' := .inr (by decide)
  have hdot : Made '.' := .inr (by decide)
  have hslash : Made '/' := .inr (by decide)
  have hrename : ∀ ch ∈ renameCommand.toList, ch ∈ added :=
    List.all_iff_forall_prop.mp (by decide)
  have hurl : ∀ ch ∈ fileUrl, Made ch := fun ch hch => .inl (.inr (.inl hch))
  have hcommand : ∀ ch ∈ commandOf c fileUrl options, Made ch :=
    forall_mem_commandOf (fun ch hch => .inr (hrename ch hch))
      fun ch hch => .inl (.inr (.inr (.inl hch)))
  have hword : ∀ ch ∈ wordOf c text fileUrl options, Made ch :=
    forall_mem_wordOf hslash (fun ch hch => .inl (.inl hch)) hurl
  have hfile : ∀ ch ∈ nameOf c fileUrl options fileUrl, Made ch :=
    forall_mem_nameOf hdot hslash hurl
  have hdest : ∀ ch ∈ nameOf c fileUrl options options.destUrl.toList, Made ch :=
    forall_mem_nameOf hdot hslash fun ch hch => .inl (.inr (.inr (.inr hch)))
  exact forall_mem_withDestination hspace
    (hlaid.forall_mem_assemble hspace hbackslash hcommand hword hfile) hdest

/-- **A click ends the line only if it brings the line end with it**, or is asked to run a command
on an empty line. -/
theorem compose_line_ends (h : compose files c text fileUrl options = .ok (some paste)) :
    (∃ body, paste = body ++ (if Submits c options then ['\n'] else []) ∧
        ∀ ch ∈ body, IsLineEnd ch → IsGiven text fileUrl options ch) ∧
      ((∀ ch, IsLineEnd ch → ¬IsGiven text fileUrl options ch) →
        ∀ before ch behind, paste = before ++ ch :: behind → IsLineEnd ch →
          Submits c options ∧ behind = []) := by
  obtain ⟨body, rfl, hmade⟩ := exists_body h
  have hbody : ∀ ch ∈ body, IsLineEnd ch → IsGiven text fileUrl options ch := by
    have hnone : ∀ ch ∈ added, ¬IsLineEnd ch := List.all_iff_forall_prop.mp (by decide)
    exact fun ch hch hend => (hmade ch hch).resolve_right fun hadded => hnone ch hadded hend
  refine ⟨⟨body, rfl, hbody⟩, fun hnone before ch behind heq hend => ?_⟩
  have hnot : ch ∉ body := fun hmem => hnone ch hend (hbody ch hmem hend)
  by_cases hsubmits : Submits c options
  · refine ⟨hsubmits, ?_⟩
    rw [if_pos hsubmits] at heq
    rcases List.eq_nil_or_concat behind with hnil | ⟨more, d, rfl⟩
    · exact hnil
    · rw [List.concat_eq_append, ← List.cons_append, ← List.append_assoc] at heq
      obtain ⟨rfl, -⟩ := List.append_inj' heq rfl
      exact absurd (List.mem_append_right before List.mem_cons_self) hnot
  · rw [if_neg hsubmits, List.append_nil] at heq
    exact absurd (heq ▸ List.mem_append_right before List.mem_cons_self) hnot

/-- The line is ended once, though there is a line feed in the name of the working directory. -/
theorem compose_line_ends_cat :
    let files : FileSystem :=
      { nodes := [(["bin".toList], .directory), (["bin".toList, "cat".toList], .file [] true)]
        workingDirectory := [] }
    let c : CommandLine :=
      { line := "$ ".toList, cursorCol := some 2, promptOffset := 2, cwd := "/\n".toList
        normalizeByDefault := true, localHost := [], search := { path := some "/bin" } }
    let fileUrl := "file:///a".toList
    let options : PasteOptions := { command := "cat", enter := true }
    let pasted := "cat ../a \n".toList
    compose files c [] fileUrl options = .ok (some pasted) ∧
      (∀ ch, IsLineEnd ch → ¬IsGiven [] fileUrl options ch) ∧
      ∀ before ch behind, pasted = before ++ ch :: behind → IsLineEnd ch →
        Submits c options ∧ behind = [] := by
  intro files c fileUrl options pasted
  have hpasted : compose files c [] fileUrl options = .ok (some pasted) := by decide +kernel
  have hgiven : ∀ ch, IsLineEnd ch → ¬IsGiven [] fileUrl options ch := by
    rintro ch (rfl | rfl)
    · unfold IsGiven
      decide
    · unfold IsGiven
      decide
  exact ⟨hpasted, hgiven, (compose_line_ends hpasted).2 hgiven⟩

/-- A line feed gets through in the text, in the name of a file, in a destination and in a
command. -/
theorem line_ends_pass_through :
    let files : FileSystem :=
      { nodes := [(["bin".toList], .directory), (["bin".toList, "cat".toList], .file [] true)]
        workingDirectory := [] }
    let c : CommandLine :=
      { line := "$ ".toList, cursorCol := some 2, promptOffset := 2, cwd := "/".toList
        normalizeByDefault := true, localHost := [], search := { path := some "/bin" } }
    let away : CommandLine := { c with promptOffset := 0 }
    compose files away "a\nb".toList [] {} = .ok (some "a\nb ".toList) ∧
      compose files away [] "file:///a\nb".toList {} = .ok (some "/a\nb ".toList) ∧
      compose files away "a".toList [] { destUrl := "file:///b\nc" } =
        .ok (some "a b\nc".toList) ∧
      compose files c "a".toList [] { command := "cat\n" } = .ok (some "cat\n a ".toList) := by
  decide +kernel

end Submitting

end GlassTty.Paste
