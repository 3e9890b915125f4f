import GlassTty.Proofs.Screen.Size
import GlassTty.Report.Reporter
import Mathlib.Logic.Function.Basic
import Mathlib.Data.List.TakeWhile
import Mathlib.Order.Lattice

/-!
# What a viewer sees

A reporter tells a viewer only the rows that have changed, so a viewer has to keep what it was told
before. This file says how one does it (`GlassTty.Viewer.receive`) and that it is enough: after
every update the viewer shows each row of the screen as it is
(`GlassTty.Reporter.shown_followAll_update`).

The viewer may keep less than the reporter compares with. The reporter keeps whole screens, while
the viewer drops the rows past the active ones, and on a screen that is told a second time those
are not told again unless they have changed. This is right because such rows are blank, and a row
that the viewer holds nothing for is shown as a blank one: the invariant is that *every* row of the
screen that was told last is shown as it was then (`GlassTty.Viewer.InStep`), the dropped ones too.
-/

namespace GlassTty

/-! ### Blank rows -/

theorem trimBlank_of_blank {cells : List Cell} (h : ∀ cell ∈ cells, cell.isBlank = true) :
    trimBlank cells = [] := by
  rw [trimBlank, List.reverse_eq_nil_iff, List.dropWhile_eq_nil_iff]
  exact fun cell hcell => h cell (List.mem_reverse.mp hcell)

/-- A row is blank if nothing stands in any of its cells. -/
def Row.IsBlank (r : Row) : Prop :=
  ∀ cell ∈ r.cells, cell.isBlank = true

/-- A blank row is told as an empty text. -/
theorem Row.IsBlank.encoded {r : Row} (h : r.IsBlank) : r.encoded = .plain "" := by
  have htrim : trimBlank r.cells.toList = [] :=
    trimBlank_of_blank fun cell hcell => h cell (Array.mem_toList_iff.mp hcell)
  rw [Row.encoded, encodeRow, htrim]
  rfl

/-- The rows of a blank screen are blank. -/
theorem Screen.isBlank_of_blank {width height row : Nat} {r : Row}
    (h : (Screen.blank width height).row? row = some r) : r.IsBlank := by
  have hr : r = Row.blank (max width 1) := Array.eq_of_mem_replicate (Array.mem_of_getElem? h)
  subst hr
  intro cell hcell
  rw [Array.eq_of_mem_replicate hcell]
  rfl

/-! ### Views -/

namespace LiveView

/-- The screen that is shown. -/
def screen (view : LiveView) : Screen :=
  view.alt.getD view.main

/-- How many of its rows are shown: the active ones of the main screen, all of the alternate one. -/
def rowCount (view : LiveView) : Nat :=
  if view.alt.isSome then view.height else view.activeRows

/-- **A view of a terminal**: its screens have its size, and the rows of the main one past the
active ones are blank. -/
structure WellFormed (view : LiveView) : Prop where
  main : view.main.HasSize view.width view.height
  alt : ∀ alt, view.alt = some alt → alt.HasSize view.width view.height
  blank : ∀ row r, view.activeRows ≤ row → view.main.row? row = some r → r.IsBlank

/-- A row that is on the shown screen but is not shown is blank. -/
theorem WellFormed.isBlank {view : LiveView} (h : view.WellFormed) {row : Nat} {live : Row}
    (hlive : view.screen.row? row = some live) (hrow : view.rowCount ≤ row) : live.IsBlank := by
  unfold screen at hlive
  unfold rowCount at hrow
  cases halt : view.alt with
  | none =>
    rw [halt] at hlive hrow
    exact h.blank row live hrow hlive
  | some alt =>
    rw [halt] at hlive hrow
    obtain ⟨hlt, -⟩ := Array.getElem?_eq_some_iff.mp hlive
    have hsize := (h.alt alt halt).rows
    simp only [Option.isSome_some, if_true] at hrow
    simp only [Option.getD_some] at hlt
    omega

end LiveView

/-! ### The viewer -/

/-- What a viewer keeps: the text of each row that it holds one for. -/
structure Viewer where
  rows : Nat → Option RowText

namespace Viewer

/-- The viewer that holds nothing. -/
def empty : Viewer :=
  ⟨fun _ => none⟩

/-- What the viewer shows in a row: an empty text if it holds none. -/
def shown (v : Viewer) (row : Nat) : RowText :=
  (v.rows row).getD (.plain "")

/-- Keep the text of a row that was told. -/
def store (v : Viewer) (told : ChangedRow) : Viewer :=
  ⟨Function.update v.rows told.row (some told.text)⟩

/-- Drop the rows from `count` on. -/
def truncate (v : Viewer) (count : Nat) : Viewer :=
  ⟨fun row => if row < count then v.rows row else none⟩

/-- **What a viewer does with an update**: it drops everything if all is told anew, keeps what it
is told, and drops the rows that are not shown any more. -/
def receive (v : Viewer) (diff : ScreenDiff) (count : Nat) : Viewer :=
  (diff.rows.foldl store (if diff.fullUpdate then empty else v)).truncate count

/-! ### Rows that are told and rows that are not -/

theorem rows_store (v : Viewer) (told : ChangedRow) (row : Nat) :
    (v.store told).rows row = if row = told.row then some told.text else v.rows row := by
  simp only [store, Function.update_apply]

/-- A row that is not told stays as it was. -/
theorem rows_foldl_store_of_not_told (v : Viewer) {told : List ChangedRow} {row : Nat}
    (h : ∀ c ∈ told, c.row ≠ row) : (told.foldl store v).rows row = v.rows row := by
  induction told generalizing v with
  | nil => rfl
  | cons c told ih =>
    have hc : row ≠ c.row := (h c List.mem_cons_self).symm
    rw [List.foldl_cons, ih _ fun c' hc' => h c' (List.mem_cons_of_mem _ hc'), rows_store,
      if_neg hc]

/-- A row that is told, always with the same text, is held with that text. -/
theorem rows_foldl_store_of_told (v : Viewer) {told : List ChangedRow} {row : Nat} {text : RowText}
    (hmem : ∃ c ∈ told, c.row = row) (h : ∀ c ∈ told, c.row = row → c.text = text) :
    (told.foldl store v).rows row = some text := by
  induction told generalizing v with
  | nil =>
    obtain ⟨c, hc, -⟩ := hmem
    cases hc
  | cons c told ih =>
    have hrest : ∀ c' ∈ told, c'.row = row → c'.text = text := fun c' hc' =>
      h c' (List.mem_cons_of_mem _ hc')
    rw [List.foldl_cons]
    by_cases hlater : ∃ c' ∈ told, c'.row = row
    · -- what is told later counts
      exact ih _ hlater hrest
    · -- told here for the last time
      have hnot : ∀ c' ∈ told, c'.row ≠ row := fun c' hc' heq => hlater ⟨c', hc', heq⟩
      obtain ⟨c', hc', heq⟩ := hmem
      rcases List.mem_cons.mp hc' with rfl | hin
      · rw [rows_foldl_store_of_not_told _ hnot, rows_store, if_pos heq.symm,
          h c' List.mem_cons_self heq]
      · exact absurd heq (hnot c' hin)

end Viewer

namespace Reporter

variable {r : Reporter} {view : LiveView}

/-! ### What an update tells -/

/-- The screen that was told last. -/
def toldScreen (r : Reporter) : Option Screen :=
  r.alt <|> r.main

/-- The screen that the shown one is compared with. -/
def compared (r : Reporter) (view : LiveView) : Option Screen :=
  if view.alt.isSome then r.alt else r.main

/-- The row as it is told. -/
def toldRow (r : Reporter) (row : Nat) (live : Row) : ChangedRow :=
  { row
    promptOffset := r.promptOffset live.text live.mark
    text := live.encoded }

/-- Both screens are told in one way. -/
theorem changedRows_eq (r : Reporter) (view : LiveView) :
    r.changedRows view =
      (List.range (min view.rowCount view.screen.height)).filterMap fun row =>
        (view.screen.row? row).bind fun live =>
          if r.tells view (r.compared view) row live then some (r.toldRow row live) else none := by
  unfold changedRows LiveView.rowCount LiveView.screen compared
  cases view.alt <;> rfl

/-- **What is told**: rows that are shown, and those of them that `tells` names. -/
theorem mem_changedRows {c : ChangedRow} :
    c ∈ r.changedRows view ↔
      c.row < view.rowCount ∧ ∃ live, view.screen.row? c.row = some live ∧
        r.tells view (r.compared view) c.row live = true ∧ c = r.toldRow c.row live := by
  rw [changedRows_eq, List.mem_filterMap]
  constructor
  · rintro ⟨row, hrow, h⟩
    obtain ⟨live, hlive, h⟩ := Option.bind_eq_some_iff.mp h
    rw [Option.ite_none_right_eq_some] at h
    obtain ⟨htells, htold⟩ := h
    obtain rfl : r.toldRow row live = c := Option.some.inj htold
    exact ⟨lt_of_lt_of_le (List.mem_range.mp hrow) (min_le_left _ _), live, hlive, htells, rfl⟩
  · rintro ⟨hrow, live, hlive, htells, htold⟩
    obtain ⟨hlt, -⟩ := Array.getElem?_eq_some_iff.mp hlive
    refine ⟨c.row, List.mem_range.mpr (lt_min hrow hlt), ?_⟩
    rw [hlive, Option.bind_some, if_pos htells, ← htold]

/-- Unless everything is told anew, the shown screen is compared with the one that was told last. -/
theorem compared_eq (h : r.needsFull view = false) : r.compared view = r.toldScreen := by
  simp only [needsFull, Bool.or_eq_false_iff, decide_eq_false_iff_not, ne_eq, not_not] at h
  have hsame := h.2
  unfold compared toldScreen
  rw [hsame]
  cases r.alt <;> rfl

/-- A row is left out only if it was told before and looks as it did then. -/
theorem told_of_not_tells {old : Option Screen} {row : Nat} {live : Row}
    (h : r.tells view old row live = false) :
    r.needsFull view = false ∧
      ∃ screen before, old = some screen ∧ screen.row? row = some before ∧
        before.cells = live.cells := by
  simp only [tells, Bool.or_eq_false_iff, decide_eq_false_iff_not, ne_eq, not_not] at h
  obtain ⟨⟨hfull, hsame⟩, -⟩ := h
  obtain ⟨before, hbefore, hcells⟩ := Option.map_eq_some_iff.mp hsame
  obtain ⟨screen, hscreen, hrow⟩ := Option.bind_eq_some_iff.mp hbefore
  exact ⟨hfull, screen, before, hscreen, hrow, hcells⟩

end Reporter

/-! ### In step -/

namespace Viewer

variable {r : Reporter} {view : LiveView} {row : Nat} {live : Row}

/-- A row that is shown is held with its text if it is told, and as it was before if it is not. -/
theorem rows_foldl_changedRows (v : Viewer) (hrow : row < view.rowCount)
    (hlive : view.screen.row? row = some live) :
    ((r.changedRows view).foldl store v).rows row =
      if r.tells view (r.compared view) row live then some live.encoded else v.rows row := by
  have hrows : ∀ c ∈ r.changedRows view, c.row = row →
      c = r.toldRow row live ∧ r.tells view (r.compared view) row live = true := by
    rintro c hc rfl
    obtain ⟨-, live', hlive', htells, htold⟩ := Reporter.mem_changedRows.mp hc
    obtain rfl : live' = live := Option.some.inj (hlive'.symm.trans hlive)
    exact ⟨htold, htells⟩
  split
  · next htells =>
    have hmem : r.toldRow row live ∈ r.changedRows view :=
      Reporter.mem_changedRows.mpr ⟨hrow, live, hlive, htells, rfl⟩
    exact rows_foldl_store_of_told v ⟨_, hmem, rfl⟩ fun c hc heq => by
      rw [(hrows c hc heq).1]
      rfl
  · next hnot =>
    exact rows_foldl_store_of_not_told v fun c hc heq => hnot (hrows c hc heq).2

/-- **The viewer is in step**: every row of the screen that was told last is shown as it was. -/
def InStep (v : Viewer) (r : Reporter) : Prop :=
  ∀ screen row before, r.toldScreen = some screen → screen.row? row = some before →
    v.shown row = before.encoded

/-- **An update brings the viewer in step** with the live screen, if it was in step with the screen
that was told last. -/
theorem InStep.shown_receive {v : Viewer} (h : v.InStep r) (hview : view.WellFormed)
    (hlive : view.screen.row? row = some live) :
    (v.receive (r.update view).1 view.rowCount).shown row = live.encoded := by
  have hdiff : (r.update view).1 = ⟨r.needsFull view, r.changedRows view, _⟩ := rfl
  rw [hdiff]
  unfold Viewer.receive shown truncate
  dsimp only
  rcases Nat.lt_or_ge row view.rowCount with hrow | hrow
  · -- the row is shown, and was told now or before
    rw [if_pos hrow, rows_foldl_changedRows _ hrow hlive]
    split
    · rfl
    · next hnot =>
      rw [Bool.not_eq_true] at hnot
      obtain ⟨hneeds, screen, before, hscreen, hbefore, hcells⟩ := Reporter.told_of_not_tells hnot
      rw [Reporter.compared_eq hneeds] at hscreen
      rw [hneeds]
      calc v.shown row = before.encoded := h screen row before hscreen hbefore
        _ = live.encoded := by rw [Row.encoded, Row.encoded, hcells]
  · -- the row is dropped, or was never held, and it is blank
    rw [if_neg (Nat.not_lt.mpr hrow), (hview.isBlank hlive hrow).encoded]
    rfl

/-- After an update the screen that was told last is the live one. -/
theorem toldScreen_update (r : Reporter) (view : LiveView) :
    (r.update view).2.toldScreen = some view.screen := by
  have htold : (r.update view).2.toldScreen = (view.alt <|> some view.main) := rfl
  rw [htold, LiveView.screen]
  cases view.alt <;> rfl

theorem InStep.receive {v : Viewer} (h : v.InStep r) (hview : view.WellFormed) :
    (v.receive (r.update view).1 view.rowCount).InStep (r.update view).2 := by
  intro screen row before hscreen hbefore
  rw [toldScreen_update] at hscreen
  obtain rfl : view.screen = screen := Option.some.inj hscreen
  exact h.shown_receive hview hbefore

end Viewer

/-! ### Runs -/

namespace Reporter

/-- Something that a terminal does with its reporter. -/
inductive Change where
  | update (view : LiveView)
  | scrollOff (line : String) (mark : Option PromptMark)
  | reconnect
  | forceFullUpdate
  | clearLast (guard : Option Nat)
  | clearScrollback

/-- A change whose view, if it has one, is that of a terminal. -/
def Change.WellFormed : Change → Prop
  | .update view => view.WellFormed
  | _ => True

/-- **The reporter and its viewer after a change**: an update goes to the viewer, of anything else
it hears nothing. -/
def follow (r : Reporter) (v : Viewer) : Change → Reporter × Viewer
  | .update view => ((r.update view).2, v.receive (r.update view).1 view.rowCount)
  | .scrollOff line mark => (r.scrollOff line mark, v)
  | .reconnect => (r.reconnect, v)
  | .forceFullUpdate => (r.forceFullUpdate, v)
  | .clearLast guard => ((r.clearLast? guard).getD r, v)
  | .clearScrollback => (r.clearScrollback, v)

/-- The reporter and its viewer after a run. -/
def followAll (r : Reporter) (v : Viewer) : List Change → Reporter × Viewer
  | [] => (r, v)
  | change :: rest => (r.follow v change).1.followAll (r.follow v change).2 rest

theorem followAll_append (r : Reporter) (v : Viewer) (x y : List Change) :
    r.followAll v (x ++ y) = (r.followAll v x).1.followAll (r.followAll v x).2 y := by
  induction x generalizing r v with
  | nil => rfl
  | cons change x ih => exact ih _ _

/-- Lines that go into the scrollback leave alone what was told of the screen. -/
theorem toldScreen_scrollOff (r : Reporter) (line : String) (mark : Option PromptMark) :
    (r.scrollOff line mark).toldScreen = r.toldScreen := by
  unfold scrollOff toldScreen
  dsimp only
  split <;> rfl

theorem toldScreen_clearLast (r : Reporter) (guard : Option Nat) :
    ((r.clearLast? guard).getD r).toldScreen = r.toldScreen := by
  unfold clearLast?
  cases r.scrollback.clearLast? guard <;> rfl

/-- **Every change keeps the viewer in step.** -/
theorem inStep_follow {r : Reporter} {v : Viewer} (h : v.InStep r) {change : Change}
    (hchange : change.WellFormed) : (r.follow v change).2.InStep (r.follow v change).1 := by
  cases change with
  | update view => exact h.receive hchange
  | scrollOff line mark =>
    intro screen row before hscreen
    exact h screen row before ((r.toldScreen_scrollOff line mark).symm.trans hscreen)
  | reconnect => exact h
  | forceFullUpdate => exact h
  | clearLast guard =>
    intro screen row before hscreen
    exact h screen row before ((r.toldScreen_clearLast guard).symm.trans hscreen)
  | clearScrollback => exact h

theorem inStep_followAll {r : Reporter} {v : Viewer} (h : v.InStep r) {changes : List Change}
    (hchanges : ∀ change ∈ changes, change.WellFormed) :
    (r.followAll v changes).2.InStep (r.followAll v changes).1 := by
  induction changes generalizing r v with
  | nil => exact h
  | cons change rest ih =>
    exact ih (inStep_follow h (hchanges change List.mem_cons_self)) fun c hc =>
      hchanges c (List.mem_cons_of_mem _ hc)

/-- **After every update the viewer shows the live screen.** Whatever was done with a new reporter
before, and whatever its viewer held at first, each row of the screen that is shown now has the text
that it has there. This includes the rows that the viewer has dropped: they are blank. -/
theorem shown_followAll_update (prompt : Option PromptFormat) (capacity : Nat) (v : Viewer)
    (changes : List Change) (view : LiveView)
    (hchanges : ∀ change ∈ changes, change.WellFormed) (hview : view.WellFormed) (row : Nat)
    (live : Row) (hlive : view.screen.row? row = some live) :
    ((start prompt capacity).followAll v (changes ++ [.update view])).2.shown row =
      live.encoded := by
  have hstart : v.InStep (start prompt capacity) := fun _ _ _ hscreen => by cases hscreen
  rw [followAll_append]
  exact (inStep_followAll hstart hchanges).shown_receive hview hlive

/-- A row that was told, was given up and is told again: the viewer has dropped it in between, and
the reporter compares it with the blank row that it was then. -/
theorem shown_followAll_update_regrown :
    let tall : LiveView :=
      { activeRows := 2, width := 1, height := 2, cursorRow := 0, cursorCol := 0
        main := (Screen.blank 1 2).setCell 1 0 ⟨'x', .normal⟩, alt := none }
    let short : LiveView := { tall with activeRows := 1, main := .blank 1 2 }
    tall.WellFormed ∧ short.WellFormed ∧
      ((start none 0).followAll .empty [.update tall, .update short, .update tall]).2.shown 1 =
        .plain "x" := by
  intro tall short
  have htall : tall.WellFormed :=
    { main := (Screen.hasSize_blank (by decide) (by decide)).change (.setCell 1 0 _)
      alt := fun _ halt => by cases halt
      blank := fun row r hrow hr => by
        obtain ⟨hlt, -⟩ := Array.getElem?_eq_some_iff.mp hr
        exact absurd (Nat.lt_of_lt_of_le hlt hrow) (Nat.lt_irrefl _) }
  have hshort : short.WellFormed :=
    { main := Screen.hasSize_blank (by decide) (by decide)
      alt := fun _ halt => by cases halt
      blank := fun _ _ _ hr => Screen.isBlank_of_blank hr }
  refine ⟨htall, hshort, ?_⟩
  have hchanges : ∀ change ∈ [Change.update tall, .update short], change.WellFormed := by
    rintro change (_ | ⟨_, _ | ⟨_, ⟨⟩⟩⟩)
    · exact htall
    · exact hshort
  exact shown_followAll_update none 0 .empty [.update tall, .update short] tall hchanges htall 1
    ⟨#[⟨'x', .normal⟩], none⟩ (by decide)

end Reporter

end GlassTty
