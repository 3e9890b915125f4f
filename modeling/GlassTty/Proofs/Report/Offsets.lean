import GlassTty.Proofs.Report.Viewer

/-!
# What a viewer knows of command lines

With each row that it is told a viewer learns where the command begins on it. This file says what
it knows of a row after a series of events (`GlassTty.TerminalEvent.heard`). It does with these
columns what it does with the texts (`GlassTty.Viewer.receive`): it keeps what it was told last, and
drops it if all is told anew or the row is not shown any more.
-/

namespace GlassTty

/-! ### Rows with nothing on them -/

theorem Row.IsBlank.text {r : Row} (h : r.IsBlank) : r.text = "" := by
  have htrim : trimBlank r.cells.toList = [] :=
    trimBlank_of_blank fun cell hcell => h cell (Array.mem_toList_iff.mp hcell)
  rw [Row.text, rowText, rowChars, htrim]
  rfl

/-- No command begins on a row without a text, whatever its mark. -/
theorem promptOffset_empty (prompt : Option PromptFormat) (mark : Option PromptMark) :
    promptOffset "" prompt mark = 0 := by
  cases prompt with
  | none => rfl
  | some p =>
    unfold promptOffset
    dsimp only
    split
    · -- nothing is found in it but a prompt's mark that is empty
      by_cases hmark : p.mark.toList = []
      · have hlength : p.mark.length = 0 := by rw [← String.length_toList, hmark]; rfl
        simp [Text.cut?, hmark, hlength]
      · simp [Text.cut?, hmark]
    · rfl

/-! ### The viewer -/

namespace RowUpdate

/-- How many rows are shown. -/
def rowCount (u : RowUpdate) : Nat :=
  if u.altMode then u.height else u.activeRows

/-- **What a viewer knows of a row after an update**: the column that it was told last, `known`
being what it knew before. If everything is told anew the old no longer counts, and of a row that is
not shown nothing is known. -/
def offsetAfter (u : RowUpdate) (row : Nat) (known : Option Nat) : Option Nat :=
  if u.rowCount ≤ row then none
  else
    match u.rows.find? (·.row = row) with
    | some told => some told.promptOffset
    | none => if u.fullUpdate then none else known

end RowUpdate

namespace TerminalEvent

/-- What a viewer knows of a row after an event. -/
def offsetAfter (e : TerminalEvent) (row : Nat) (known : Option Nat) : Option Nat :=
  match e.rowUpdate? with
  | some u => u.offsetAfter row known
  | none => known

/-- **What a viewer knows of a row after a series of events**: the column where the command begins,
if it was told one. -/
def heard (row : Nat) (known : Option Nat) (events : List TerminalEvent) : Option Nat :=
  events.foldl (fun known e => e.offsetAfter row known) known

theorem heard_append (row : Nat) (known : Option Nat) (x y : List TerminalEvent) :
    heard row known (x ++ y) = heard row (heard row known x) y :=
  List.foldl_append

end TerminalEvent

namespace Reporter

/-- A row that is shown is told once, or it is left out. -/
theorem find?_changedRows (r : Reporter) {view : LiveView} {row : Nat} {live : Row}
    (hrow : row < view.rowCount) (hlive : view.screen.row? row = some live) :
    (r.changedRows view).find? (·.row = row) =
      if r.tells view (r.compared view) row live then some (r.toldRow row live) else none := by
  have htold : ∀ c ∈ r.changedRows view, c.row = row →
      r.tells view (r.compared view) row live = true ∧ c = r.toldRow row live := by
    rintro c hc rfl
    obtain ⟨-, live', hlive', htells, htold⟩ := mem_changedRows.mp hc
    obtain rfl : live' = live := Option.some.inj (hlive'.symm.trans hlive)
    exact ⟨htells, htold⟩
  cases hfind : (r.changedRows view).find? (·.row = row) with
  | some c =>
    have hc := htold c (List.mem_of_find?_eq_some hfind) (by simpa using List.find?_some hfind)
    rw [if_pos hc.1, hc.2]
  | none =>
    rw [if_neg]
    intro htells
    have hmem : r.toldRow row live ∈ r.changedRows view :=
      mem_changedRows.mpr ⟨hrow, live, hlive, htells, rfl⟩
    have hnone := List.find?_eq_none.mp hfind _ hmem
    exact hnone (by simp [toldRow])

/-- **The viewer knows of a row what it was told of it.** On the main screen this is more than one
would expect of the rows below the first: they are no command lines when they are told. On the
alternate screen the texts are enough, as there are no marks. -/
structure Knows (r : Reporter) (row : Nat) (known : Option Nat) : Prop where
  alt : ∀ screen before, r.alt = some screen → screen.row? row = some before →
    known.getD 0 = r.promptOffset before.text none
  first : ∀ screen before, r.alt = none → r.main = some screen → row = 0 →
    screen.row? 0 = some before → known.getD 0 = r.promptOffset before.text before.mark
  below : r.alt = none → r.main.isSome → row ≠ 0 → known.getD 0 = 0

theorem Knows.congr {r r' : Reporter} {row : Nat} {known : Option Nat} (h : r.Knows row known)
    (hprompt : r'.prompt = r.prompt) (halt : r'.alt = r.alt) (hmain : r'.main = r.main) :
    r'.Knows row known where
  alt := by
    unfold promptOffset
    rw [hprompt, halt]
    exact h.alt
  first := by
    unfold promptOffset
    rw [hprompt, halt, hmain]
    exact h.first
  below := by
    rw [halt, hmain]
    exact h.below

end Reporter

end GlassTty
