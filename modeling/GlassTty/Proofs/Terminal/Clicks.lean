import GlassTty.Proofs.Terminal.Requests

/-!
# Clicks that type nothing

A click may be refused: the terminal has no command line, or a program that the click is to run is
not found. What the terminal is then depends on how far the click came. The entry that the options
name is taken back before the text is put together, since whether files are named from the working
directory depends on what was taken back, and it is not put back when there is no text.

| the click | the terminal afterwards |
|---|---|
| no command line | as it was |
| no entry taken back | as it was |
| the newest entry taken back | without that entry, and all of it is to be told |

So a refused click loses nothing of the scrollback but an entry that it named, the newest one, and
that only on an empty command line (`GlassTty.Terminal.clickPaste_refused`).
-/

namespace GlassTty

/-! ### What is refused -/

namespace Paste

variable {files : FileSystem} {c : CommandLine} {error : PasteError}

/-- What is refused on the way to a result that is not refused itself is refused at its start. -/
theorem error_of_bind {α β : Type} {x : Except PasteError α} {f : α → Except PasteError β}
    (hok : ∀ a, ∃ b, f a = .ok b) (h : x >>= f = .error error) : x = .error error := by
  cases x with
  | error e => exact congrArg Except.error (Except.error.inj h)
  | ok a =>
    obtain ⟨b, hb⟩ := hok a
    exact nomatch hb.symm.trans h

theorem requireProgram_error {program : List Char}
    (h : requireProgram files c program = .error error) :
    error = .commandNotFound (String.ofList (Text.trim program)) := by
  unfold requireProgram at h
  dsimp only at h
  generalize (if c.cwd.isEmpty then ['/'] else c.cwd) = directory at h
  split at h
  · cases h
  · exact (Except.error.inj h).symm

/-- At a prompt only a program can be missing. -/
theorem partsAtPrompt_error {command text typed : List Char}
    (h : partsAtPrompt files c command text typed = .error error) :
    ∃ program, error = .commandNotFound program := by
  unfold partsAtPrompt at h
  split at h
  · split at h
    · exact ⟨_, requireProgram_error (error_of_bind (fun _ => ⟨_, rfl⟩) h)⟩
    · split at h
      · split at h
        · exact ⟨_, requireProgram_error (error_of_bind (fun _ => ⟨_, rfl⟩) h)⟩
        · cases h
      · cases h
  · cases h

/-- **A text is refused only for a program that is not found**, and only at a prompt. -/
theorem compose_error {text fileUrl : List Char} {options : PasteOptions}
    (h : compose files c text fileUrl options = .error error) :
    0 < c.promptOffset ∧ ∃ program, error = .commandNotFound program := by
  unfold compose at h
  dsimp only at h
  split at h
  · next hprompt =>
    -- what comes behind the parts puts them together, which is never refused
    have hparts := error_of_bind (fun _ => ⟨_, (apply_ite Except.ok _ _ _).symm⟩) h
    exact ⟨hprompt, partsAtPrompt_error hparts⟩
  · exact nomatch error_of_bind (fun _ => ⟨_, (apply_ite Except.ok _ _ _).symm⟩) h

end Paste

/-! ### The entry taken back -/

namespace Scrollback

variable {s : Scrollback} {guard : Option Nat}

theorem length_linesBeforeLast_lt (h : s.lines.getLast?.any (·.entryIndex = s.entryIndex)) :
    s.linesBeforeLast.length < s.lines.length := by
  rcases List.eq_nil_or_concat s.lines with hnil | ⟨older, newest, hlines⟩
  · rw [hnil] at h
    cases h
  · rw [hlines, List.concat_eq_append, List.getLast?_concat, Option.any_some] at h
    rw [linesBeforeLast, hlines, List.concat_eq_append, List.reverse_concat,
      List.dropWhile_cons, if_pos h, List.length_reverse, ← List.concat_eq_append,
      List.length_concat]
    exact Nat.lt_succ_of_le ((List.dropWhile_suffix _).length_le.trans_eq List.length_reverse)

/-- **The newest entry is taken back with its lines**, of which there is one at least. -/
theorem clearLast?_of_may (h : s.mayClearLast guard = true) :
    ∃ cleared, s.clearLast? guard = some cleared ∧ cleared.lines = s.linesBeforeLast ∧
      cleared.lines.length < s.lines.length ∧ cleared.entryIndex + 1 = s.entryIndex ∧
      cleared.clearedLast = true := by
  have hmay := h
  simp only [mayClearLast, Bool.and_eq_true, decide_eq_true_eq] at hmay
  obtain ⟨⟨hentry, hlast⟩, -⟩ := hmay
  refine ⟨_, if_pos h, rfl, length_linesBeforeLast_lt hlast, ?_, rfl⟩
  exact Nat.sub_add_cancel (Nat.pos_of_ne_zero hentry)

theorem clearLast?_of_may_not (h : s.mayClearLast guard = false) : s.clearLast? guard = none :=
  if_neg (ne_true_of_eq_false h)

end Scrollback

namespace Terminal

/-- **A click that takes the newest entry back**, with `fallback` for the directory that the command
line does not tell. -/
structure Retracts (t : Terminal) (click : Click) (fallback : Option String) : Prop where
  /-- The click names an entry, and is at a command line on which nothing is typed. -/
  asks : t.takesBack click fallback = true
  /-- The entry is the newest one, and the newest line is of it. -/
  newest : t.scrollback.mayClearLast click.options.clearLast = true

/-- What is left of the terminal when the newest entry was taken back, with `scrollback` for what is
left of the scrollback. -/
def retracted (t : Terminal) (scrollback : Scrollback) : Terminal :=
  { t with
    reporter := { t.reporter with scrollback, fullUpdate := true }
    needsUpdating := true }

section Refused

variable {t : Terminal} {files : FileSystem} {click : Click} {setting : PasteSetting}
  {fallback : Option String} {error : PasteError}

theorem named_of_takesBack (h : t.takesBack click fallback = true) :
    click.options.clearLast.filter (0 < ·) = click.options.clearLast := by
  unfold takesBack at h
  dsimp only at h
  obtain ⟨-, hnamed, -⟩ := of_decide_eq_true h
  cases hlast : click.options.clearLast with
  | none => rfl
  | some guard =>
    rw [hlast, Option.filter_some] at hnamed
    rw [Option.filter_some]
    split at hnamed
    · next hpos => exact if_pos hpos
    · cases hnamed

/-- A click leaves the terminal alone that takes nothing back. -/
theorem clickPaste_snd_of_not (h : ¬ t.Retracts click fallback) :
    (t.clickPaste files click setting fallback).2 = t := by
  rw [clickPaste_snd]
  by_cases hasks : t.takesBack click fallback = true
  · have hnot : t.scrollback.mayClearLast click.options.clearLast = false :=
      eq_false_of_ne_true fun hnewest => h ⟨hasks, hnewest⟩
    rw [if_pos hasks, named_of_takesBack hasks, clearLast, clearLast?, Reporter.clearLast?]
    rw [show t.reporter.scrollback = t.scrollback from rfl, Scrollback.clearLast?_of_may_not hnot]
    rfl
  · rw [if_neg hasks]

/-- A click that takes the newest entry back does nothing else to the terminal. -/
theorem clickPaste_snd_of_retracts (h : t.Retracts click fallback) {cleared : Scrollback}
    (hcleared : t.scrollback.clearLast? click.options.clearLast = some cleared) :
    (t.clickPaste files click setting fallback).2 = t.retracted cleared := by
  rw [clickPaste_snd, if_pos h.asks, named_of_takesBack h.asks, clearLast, clearLast?,
    Reporter.clearLast?, show t.reporter.scrollback = t.scrollback from rfl, hcleared]
  rfl

/-- **Why a click is refused**: there is no command line, or a program is not found. -/
theorem clickPaste_error (h : (t.clickPaste files click setting fallback).1 = .error error) :
    (t.activeRows = 0 ∧ error = .notAtCommandLine) ∨
      (t.activeRows ≠ 0 ∧ ∃ program, error = .commandNotFound program) := by
  unfold clickPaste at h
  dsimp only at h
  split at h
  · next hnone => exact Or.inl ⟨hnone, (Except.error.inj h).symm⟩
  · next hactive =>
    refine Or.inr ⟨hactive, ?_⟩
    cases hpasted : Paste.compose files _ _ _ _ with
    | ok pasted => rw [hpasted] at h; cases h
    | error e =>
      rw [hpasted] at h
      rw [← Except.error.inj h]
      exact (Paste.compose_error hpasted).2

/-- **A refused click changes nothing but what it was to take back.** Without a command line, and
where the click takes no entry back, the terminal is as it was. A click that took one back, and
whose program is not found, leaves the terminal without that entry and its lines, of which there was
one at least, and with all rows to be told; everything else is as it was. -/
theorem clickPaste_refused (h : (t.clickPaste files click setting fallback).1 = .error error) :
    let after := (t.clickPaste files click setting fallback).2
    (error = .notAtCommandLine ↔ t.activeRows = 0) ∧
    (error = .notAtCommandLine → after = t) ∧
    (¬ t.Retracts click fallback → after = t) ∧
    (t.Retracts click fallback →
      (∃ program, error = .commandNotFound program) ∧
      ∃ cleared, t.scrollback.clearLast? click.options.clearLast = some cleared ∧
        after = t.retracted cleared ∧
        cleared.lines = t.scrollback.linesBeforeLast ∧
        cleared.lines.length < t.scrollback.lines.length ∧
        cleared.entryIndex + 1 = t.scrollback.entryIndex ∧ cleared.clearedLast = true) := by
  intro after
  have hasked : t.Retracts click fallback → t.activeRows ≠ 0 := by
    intro hretracts
    have hasks := hretracts.asks
    unfold takesBack at hasks
    exact (of_decide_eq_true hasks).1
  have hnot : ¬ t.Retracts click fallback → after = t := clickPaste_snd_of_not
  rcases clickPaste_error h with ⟨hnone, herror⟩ | ⟨hactive, program, herror⟩
  · have hleft : after = t := hnot fun hretracts => hasked hretracts hnone
    exact ⟨⟨fun _ => hnone, fun _ => herror⟩, fun _ => hleft, hnot,
      fun hretracts => absurd hnone (hasked hretracts)⟩
  · have hother : error ≠ .notAtCommandLine := by
      rw [herror]
      exact nofun
    refine ⟨⟨fun heq => absurd heq hother, fun hnone => absurd hnone hactive⟩,
      fun heq => absurd heq hother, hnot, fun hretracts => ⟨⟨program, herror⟩, ?_⟩⟩
    obtain ⟨cleared, hcleared, hlines⟩ := Scrollback.clearLast?_of_may hretracts.newest
    exact ⟨cleared, hcleared, clickPaste_snd_of_retracts hretracts hcleared, hlines⟩

/-- The program of a click is not found. The entry is taken back all the same, if it is the newest
one. -/
theorem clickPaste_refused_nosuch :
    let config : TerminalConfig :=
      { width := 4, height := 3, cookie := "", prompt := some ⟨"%", "", "$"⟩ }
    let t := ((new "kept" config).run default [.write (utf8Bytes "%$a\r\n%$"), .update]).1
    let click (guard : Nat) : Click :=
      { text := "nosuch", options := { clearLast := some guard } }
    let pasted (guard : Nat) := t.clickPaste default (click guard) {} none
    ((pasted 1).1 = .error (.commandNotFound "nosuch") ∧ t.Retracts (click 1) none ∧
      ∃ cleared, (pasted 1).2 = t.retracted cleared ∧ cleared.lines = [] ∧
        cleared.entryIndex = 0) ∧
    ((pasted 2).1 = .error (.commandNotFound "nosuch") ∧ ¬ t.Retracts (click 2) none ∧
      (pasted 2).2 = t) := by
  intro config t click pasted
  have herror : (pasted 1).1 = .error (.commandNotFound "nosuch") ∧
      (pasted 2).1 = .error (.commandNotFound "nosuch") := by decide +kernel
  have hnewest : t.Retracts (click 1) none := ⟨by decide +kernel, by decide +kernel⟩
  have hother : ¬ t.Retracts (click 2) none := by
    intro h
    have hmay : t.scrollback.mayClearLast (some 2) = false := by decide +kernel
    exact absurd h.newest (ne_true_of_eq_false hmay)
  have hlines : t.scrollback.linesBeforeLast = [] ∧ t.scrollback.entryIndex = 1 := by
    decide +kernel
  obtain ⟨-, -, -, hretracted⟩ := clickPaste_refused herror.1
  obtain ⟨-, -, hsame, -⟩ := clickPaste_refused herror.2
  obtain ⟨-, cleared, -, hafter, hkept, -, hentry, -⟩ := hretracted hnewest
  refine ⟨⟨herror.1, hnewest, cleared, hafter, hkept.trans hlines.1, ?_⟩, herror.2, hother,
    hsame hother⟩
  rw [hlines.2] at hentry
  exact Nat.succ.inj hentry

/-- The entry that a refused click has taken back is not put back, so that the terminal is not as it
was before the click. -/
theorem clickPaste_loses_entry :
    let config : TerminalConfig :=
      { width := 4, height := 3, cookie := "", prompt := some ⟨"%", "", "$"⟩ }
    let t := ((new "lost" config).run default [.write (utf8Bytes "%$a\r\n%$"), .update]).1
    let pasted := t.clickPaste default
      { text := "nosuch", options := { clearLast := some 1 } } {} none
    pasted.1 = .error (.commandNotFound "nosuch") ∧ pasted.2 ≠ t ∧
      (t.scrollback.lines.map (·.line) = ["%$a"] ∧ t.scrollback.entryIndex = 1 ∧
        t.scrollback.clearedLast = false ∧ t.needsUpdating = false ∧
        t.reporter.fullUpdate = false) ∧
      (pasted.2.scrollback.lines = [] ∧ pasted.2.scrollback.entryIndex = 0 ∧
        pasted.2.scrollback.clearedLast = true ∧ pasted.2.needsUpdating = true ∧
        pasted.2.reporter.fullUpdate = true) := by
  intro config t pasted
  have hbefore : t.scrollback.lines.map (·.line) = ["%$a"] ∧ t.scrollback.entryIndex = 1 ∧
      t.scrollback.clearedLast = false ∧ t.needsUpdating = false ∧
      t.reporter.fullUpdate = false := by decide +kernel
  have hafter : pasted.2.scrollback.lines = [] ∧ pasted.2.scrollback.entryIndex = 0 ∧
      pasted.2.scrollback.clearedLast = true ∧ pasted.2.needsUpdating = true ∧
      pasted.2.reporter.fullUpdate = true := by decide +kernel
  refine ⟨by decide +kernel, fun heq => ?_, hbefore, hafter⟩
  have hclean := hbefore.2.2.2.2
  rw [← heq, hafter.2.2.2.2] at hclean
  cases hclean

end Refused

end Terminal

end GlassTty
