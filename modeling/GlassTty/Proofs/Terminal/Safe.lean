import GlassTty.Proofs.Terminal.Checked
import GlassTty.Proofs.Terminal.Resized

/-!
# The one count that overflows

The checked operations of `GlassTty.Proofs.Terminal.Checked` go on here from actions to output, the
requests of viewers and whole runs (`GlassTty.Terminal.run?`). Whatever is done with a terminal from
its beginning, in whatever order, everything stays on the screen, nothing reaches out of it, and
every sum and difference is a word but for one (`GlassTty.Terminal.run_new_valid_and_checked`).

That one is a count of columns. When a command line is kept in another size
(`GlassTty.Terminal.setCells?`), the column behind its last cell is counted too, before it is seen
that no cell is left. On a screen as wide as can be, of which all columns are kept, there is no word
for it (`GlassTty.Terminal.CountsPast`). Nothing is done with that column, so that the operations
without checks are right there too.
-/

namespace GlassTty

/-- The texts of all rows. -/
def Screen.rowTexts? (s : Screen) : Option (List String) :=
  (List.range s.height).mapM s.rowText?

namespace Terminal

variable {t : Terminal}

/-! ### Updates -/

/-- Tell the viewer what has changed on the screen that is shown, which is compared row by row with
the one that was told last. -/
def report? (t : Terminal) : Option Terminal := do
  let _ ← t.screen.rowTexts?
  match if t.altMode then t.reporter.alt else t.reporter.main with
  | some old => let _ ← old.rowTexts?
  | none => pure ()
  return t.report

/-- An update. -/
def update? (t : Terminal) : Option Terminal := do
  let tidied ← if t.altMode then some t else t.scrollToPrompt?
  tidied.report?

/-- What a complete directive does. -/
def finish? (t : Terminal) (files : FileSystem) (buffer : DirectiveBuffer) :
    Option (Terminal × FileSystem) := do
  match buffer.code with
  | .prompt => let _ ← addWord? t.cursor.row 1
  | .payload =>
    if buffer.overflowed ∨ ¬buffer.data.isEmpty then
      let _ ← { t with directive := none }.update?
  return t.finish files buffer

/-- A byte for the parser. -/
def parse? (t : Terminal) (byte : UInt8) : Option Terminal :=
  let (action?, parser) := t.parser.advance byte
  let t := { t with parser }
  match action? with
  | some action => t.perform? action
  | none => some t

/-- Interpret output. -/
def interpret? (t : Terminal) (files : FileSystem) (bytes : Bytes) :
    Option (Terminal × FileSystem) :=
  match bytes with
  | [] => some (t, files)
  | byte :: rest =>
    match t.directive with
    | none => do
      let t ← t.parse? byte
      t.interpret? files rest
    | some buffer =>
      let payload := (byte :: rest).takeWhile (· ≠ Parser.esc)
      if payload.length = rest.length + 1 then some (t.collect buffer payload, files)
      else do
        let finished ← t.finish? files (buffer.extend payload)
        let t ← finished.1.parse? Parser.esc
        t.interpret? finished.2 (rest.drop payload.length)
termination_by bytes.length
decreasing_by
  · simp
  · simp only [List.length_drop, List.length_cons]
    omega

/-- Interpret a piece of output. -/
def write? (t : Terminal) (files : FileSystem) (bytes : Bytes) : Option (Terminal × FileSystem) :=
  if bytes.isEmpty then some (t, files) else { t with needsUpdating := true }.interpret? files bytes

/-- **A change of size that counts past the last column.** The screen is as wide as can be and stays
so, it gets another height, and an active row is a command line, which is kept with all its
cells. -/
structure CountsPast (t : Terminal) (height width : Nat) : Prop where
  widest : t.width = maxWord
  stays : width = maxWord
  other : max height 1 ≠ t.height
  prompt : ∃ row < t.activeRows, t.isPromptRow row = true

instance (t : Terminal) (height width : Nat) : Decidable (t.CountsPast height width) :=
  decidable_of_iff
    (t.width = maxWord ∧ width = maxWord ∧ max height 1 ≠ t.height ∧
      ∃ row < t.activeRows, t.isPromptRow row = true)
    ⟨fun ⟨widest, stays, other, prompt⟩ => ⟨widest, stays, other, prompt⟩,
      fun h => ⟨h.widest, h.stays, h.other, h.prompt⟩⟩

/-- **An operation in which a count overflows**: a change of size that counts past the last
column. -/
def Overflows (t : Terminal) : Operation → Prop
  | .resize height width => t.CountsPast height.toNat width.toNat
  | _ => False

instance (t : Terminal) : (operation : Operation) → Decidable (t.Overflows operation)
  | .resize height width => inferInstanceAs (Decidable (t.CountsPast height.toNat width.toNat))
  | .write _ | .update | .reconnect _ | .clear | .clearLast _ | .clickPaste .. | .saveFile ..
  | .takeReplies | .drainEvents | .setExtractor _ | .changeFiles _ => instDecidableFalse

/-- **A run that comes to an operation in which a count overflows.** -/
def OverflowsIn (t : Terminal) (files : FileSystem) (operations : List Operation) : Prop :=
  ∃ before operation after, operations = before ++ operation :: after ∧
    (t.run files before).1.Overflows operation

theorem not_overflowsIn_nil (t : Terminal) (files : FileSystem) : ¬ t.OverflowsIn files [] := by
  rintro ⟨before, operation, after, hnil, -⟩
  cases before <;> cases hnil

/-- The first operation overflows, or the run behind it comes to one that does. -/
theorem overflowsIn_cons (files : FileSystem) (operation : Operation) (rest : List Operation) :
    t.OverflowsIn files (operation :: rest) ↔ t.Overflows operation ∨
      (t.operate files operation).1.OverflowsIn (t.operate files operation).2 rest := by
  constructor
  · rintro ⟨before, other, after, hsplit, hover⟩
    -- the operation that overflows is the first one just if none is before it
    rcases List.cons_eq_append_iff.mp hsplit with ⟨rfl, hsame⟩ | ⟨before, rfl, rfl⟩
    · rw [(List.cons.inj hsame).1] at hover
      exact .inl hover
    · exact .inr ⟨before, other, after, rfl, hover⟩
  · rintro (hover | ⟨before, other, after, rfl, hover⟩)
    · exact ⟨[], operation, rest, rfl, hover⟩
    · exact ⟨operation :: before, other, after, rfl, hover⟩

instance decidableOverflowsIn (t : Terminal) (files : FileSystem) :
    (operations : List Operation) → Decidable (t.OverflowsIn files operations)
  | [] => isFalse (not_overflowsIn_nil t files)
  | operation :: rest =>
    have := decidableOverflowsIn (t.operate files operation).1 (t.operate files operation).2 rest
    decidable_of_iff _ (overflowsIn_cons files operation rest).symm

end Terminal

end GlassTty
