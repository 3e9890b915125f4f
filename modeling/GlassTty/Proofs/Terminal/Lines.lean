import GlassTty.Proofs.History.Ledger
import GlassTty.Proofs.Terminal.Offsets

/-!
# What becomes of the lines

What holds of a scrollback is shown for everything that can be done with one
(`GlassTty.Scrollback.Operation`). This file says which of that a terminal does
(`GlassTty.Terminal.exists_run_scrollback`), so that it holds of the scrollback of a terminal too,
whatever that has gone through: its entries are in order and its numbers are
(`GlassTty.Terminal.inOrder_run`, `GlassTty.Terminal.counted_run`).

| what the terminal does | what becomes of the lines |
|---|---|
| an action, another size | some may come |
| an update, also before a payload | some may come, then they are told |
| a request that all is told again | they are to be told again |
| a clean screen | they are dropped |
| an entry taken back, also by a click | those of the entry are dropped |

Lines are told with updates alone (`GlassTty.Terminal.reaches_run`), and an action does nothing but
to add some (`GlassTty.Terminal.AddsLines.perform`).
-/

namespace GlassTty

/-! ### Operations of one kind -/

namespace Scrollback

namespace Operation

/-- Whether a line comes, or the entry for those that come next. -/
def adds : Operation → Bool
  | .beginEntry => true
  | .push _ => true
  | _ => false

/-- Whether the lines are told that were not told yet. -/
def tells : Operation → Bool
  | .takeUnreported => true
  | _ => false

theorem tells_of_adds {operation : Operation} (h : operation.adds = true) :
    operation.tells = false := by
  cases operation with
  | takeUnreported => cases h
  | _ => rfl

end Operation

/-- **Operations of one kind**, any number of them, lead from `s` to `s'`. -/
def Reaches (kind : Operation → Prop) (s s' : Scrollback) : Prop :=
  ∃ operations, (∀ operation ∈ operations, kind operation) ∧ s' = s.run operations

namespace Reaches

variable {kind kind' : Operation → Prop} {s s' s'' : Scrollback}

theorem refl (s : Scrollback) : s.Reaches kind s :=
  ⟨[], by simp, rfl⟩

theorem single (s : Scrollback) (operation : Operation) (h : kind operation) :
    s.Reaches kind (s.operate operation) :=
  ⟨[operation], by simpa using h, rfl⟩

/-- A line that belongs to the newest entry. -/
theorem push {line : ScrollbackLine} (h : line.entryIndex = s.entryIndex) :
    s.Reaches (·.adds) (s.push line) := by
  have hline : s.ofNewest line = line := by rw [ofNewest, ← h]
  rw [← hline]
  exact single s (.push line) rfl

theorem trans (h : s.Reaches kind s') (h' : s'.Reaches kind s'') : s.Reaches kind s'' := by
  obtain ⟨first, hfirst, rfl⟩ := h
  obtain ⟨rest, hrest, rfl⟩ := h'
  refine ⟨first ++ rest, ?_, List.foldl_append.symm⟩
  intro operation hoperation
  exact (List.mem_append.mp hoperation).elim (hfirst operation) (hrest operation)

theorem mono (h : s.Reaches kind s') (hkind : ∀ operation, kind operation → kind' operation) :
    s.Reaches kind' s' := by
  obtain ⟨operations, hoperations, hrun⟩ := h
  exact ⟨operations, fun operation hmem => hkind operation (hoperations operation hmem), hrun⟩

/-- **What operations of the kind keep.** -/
theorem keeps {P : Scrollback → Prop} (h : s.Reaches kind s')
    (step : ∀ s operation, kind operation → P s → P (s.operate operation)) (hs : P s) : P s' := by
  obtain ⟨operations, hoperations, rfl⟩ := h
  induction operations generalizing s with
  | nil => exact hs
  | cons operation rest ih =>
    exact ih (step s operation (hoperations operation List.mem_cons_self) hs) fun other hother =>
      hoperations other (List.mem_cons_of_mem _ hother)

end Reaches

end Scrollback

open Scrollback (Reaches)

/-- A row that leaves the screen is a line that comes, in a new entry if it is a command line. -/
theorem Reporter.reaches_scrollOff (r : Reporter) (line : String) (mark : Option PromptMark) :
    r.scrollback.Reaches (·.adds) (r.scrollOff line mark).scrollback := by
  have hbegun : r.scrollback.Reaches (·.adds) r.scrollback.beginEntry :=
    Reaches.single _ .beginEntry rfl
  unfold scrollOff
  dsimp only
  split
  · exact hbegun.trans (Reaches.push rfl)
  · exact Reaches.push rfl

namespace Terminal

/-! ### Actions -/

/-- **Nothing but lines that come**: between `t` and `u` the scrollback is only added to. -/
def AddsLines (t u : Terminal) : Prop :=
  t.scrollback.Reaches (·.adds) u.scrollback

namespace AddsLines

variable {t u v : Terminal}

theorem of_reporter (h : u.reporter = t.reporter) : t.AddsLines u := by
  rw [AddsLines, scrollback, scrollback, h]
  exact Reaches.refl _

theorem refl (t : Terminal) : t.AddsLines t :=
  of_reporter rfl

theorem trans (h : t.AddsLines u) (h' : u.AddsLines v) : t.AddsLines v :=
  Reaches.trans h h'

theorem scrollOff (t : Terminal) (row : Nat) : t.AddsLines (t.scrollOff row) :=
  t.reporter.reaches_scrollOff _ _

theorem mapScreen (t : Terminal) (change : Screen → Screen) : t.AddsLines (t.mapScreen change) := by
  refine of_reporter ?_
  rw [Terminal.mapScreen]
  split <;> rfl

theorem touch (t : Terminal) (cursor : Cursor) :
    t.AddsLines (t.withCursor cursor).touchCursorRow := by
  refine of_reporter ?_
  rw [touchCursorRow]
  split <;> rfl

theorem scrollRows (t : Terminal) (count : Nat) : t.AddsLines (t.scrollRows count) := by
  have hoff : ∀ (rows : List Nat) (t : Terminal),
      t.AddsLines (rows.foldl Terminal.scrollOff t) := by
    intro rows
    induction rows with
    | nil => exact refl
    | cons row rows ih => exact fun t => (scrollOff t row).trans (ih _)
  rw [Terminal.scrollRows]
  split
  · exact refl t
  · exact (hoff _ t).trans (of_reporter rfl)

theorem tidy (t : Terminal) : t.AddsLines t.tidy := by
  rw [Terminal.tidy]
  split
  · exact refl t
  · exact scrollRows t _

theorem cursorDown (t : Terminal) : t.AddsLines t.cursorDown := by
  have hsave : t.AddsLines t.saveTopRow := by
    rw [saveTopRow]
    split
    · exact scrollOff t _
    · exact refl t
  have hfeed : t.AddsLines t.feedLine := by
    rw [feedLine]
    split
    · exact hsave.trans (mapScreen _ _)
    · split
      · exact of_reporter rfl
      · exact refl t
  exact hfeed.trans (touch _ _)

theorem reverseIndex (t : Terminal) : t.AddsLines t.reverseIndex := by
  have hback : t.AddsLines t.backLine := by
    rw [backLine]
    split
    · exact mapScreen t _
    · exact of_reporter rfl
  exact hback.trans (touch _ _)

theorem print (t : Terminal) (char : Char) : t.AddsLines (t.print char) := by
  have hmark : ∀ (u : Terminal) (mark : Option PromptMark), u.AddsLines (u.markRow mark) := by
    rintro u (_ | mark) <;> exact of_reporter rfl
  have hwrap : t.AddsLines t.wrap := by
    rw [wrap]
    split
    · exact (cursorDown t).trans (hmark _ _)
    · exact refl t
  exact hwrap.trans ((mapScreen _ _).trans (touch _ _))

theorem eraseInDisplay (t : Terminal) (mode : Nat) : t.AddsLines (t.eraseInDisplay mode) := by
  unfold Terminal.eraseInDisplay
  dsimp only
  split
  · split <;> exact mapScreen t _
  · split <;> exact mapScreen t _
  · exact mapScreen t _
  · exact mapScreen t _
  · exact refl t

theorem eraseInLine (t : Terminal) (mode : Nat) : t.AddsLines (t.eraseInLine mode) := by
  unfold Terminal.eraseInLine
  dsimp only
  split
  · exact mapScreen t _
  · exact mapScreen t _
  · exact mapScreen t _
  · exact refl t

/-- Before a payload is opened all active rows go into the scrollback. -/
theorem setMode (t : Terminal) (params : List Nat) (enable : Bool) :
    t.AddsLines (t.setMode params enable) := by
  have hopen : ∀ code presented, t.AddsLines (t.openDirective code presented) := by
    intro code presented
    rw [openDirective]
    split
    · exact refl t
    · cases code with
      | prompt => exact of_reporter rfl
      | payload => exact (scrollRows t _).trans (of_reporter rfl)
  unfold Terminal.setMode
  split
  · exact refl t
  · split
    · cases enable <;> exact of_reporter rfl
    · split
      · split
        · exact hopen _ _
        · exact refl t
      · exact refl t

/-- **An action does nothing with the scrollback but to add lines.** -/
theorem perform (t : Terminal) (action : Action) : t.AddsLines (t.perform action) := by
  cases action with
  | print char => exact print t char
  | lineFeed => exact cursorDown t
  | index => exact cursorDown t
  | nextLine => exact cursorDown t
  | reverseIndex => exact reverseIndex t
  | restoreCursor => exact touch t _
  | insertBlanks count => exact mapScreen t _
  | cursorDown count => exact touch t _
  | cursorNextLine count => exact touch t _
  | cursorRow row => exact touch t _
  | cursorPosition row col => exact touch t _
  | eraseInDisplay mode => exact eraseInDisplay t mode
  | eraseInLine mode => exact eraseInLine t mode
  | insertLines count => exact mapScreen t _
  | deleteLines count => exact mapScreen t _
  | deleteChars count => exact mapScreen t _
  | eraseChars count => exact mapScreen t _
  | setScrollRegion top bottom =>
    refine of_reporter ?_
    unfold Terminal.perform
    dsimp only
    split <;> rfl
  | setMode params => exact setMode t params true
  | resetMode params => exact setMode t params false
  | _ => exact of_reporter rfl

/-- A byte that ends no payload does no more. -/
theorem does {m : Moment} (hu : m.Does u) (h : m.endsPayload = false) : m.terminal.AddsLines u := by
  cases hu with
  | nothing parser directive => exact of_reporter rfl
  | perform parser action => exact perform { m.terminal with parser } action
  | mark parser directory =>
    refine of_reporter ?_
    rw [expectPrompt]
    split <;> rfl
  | update parser event told =>
    rw [told] at h
    cases h

theorem resize (t : Terminal) (height width : Nat) : t.AddsLines (t.resize height width) := by
  unfold Terminal.resize
  dsimp only
  split
  · exact of_reporter rfl
  · exact (scrollRows { t with needsUpdating := true } _).trans
      (of_reporter (frame_rebuild _ _ _).2)

end AddsLines

/-! ### Updates and requests -/

variable (t : Terminal) (files : FileSystem)

/-- With an update lines may come, and then all that were not told are. -/
theorem reaches_update : t.scrollback.Reaches (fun _ => True) t.update.scrollback :=
  (Reaches.mono (AddsLines.tidy t) fun _ _ => trivial).trans
    (Reaches.single _ .takeUnreported trivial)

/-- On a clean screen nothing is left of the scrollback. -/
theorem reaches_clear : t.scrollback.Reaches (·.tells = false) t.clear.scrollback := by
  have hcleared : t.clear.scrollback = t.scrollback.operate .clear := by
    rw [clear]
    split <;> rfl
  rw [hcleared]
  exact Reaches.single _ .clear rfl

/-- An entry that is taken back is taken back in the scrollback. -/
theorem reaches_clearLast (guard : Option Nat) :
    t.scrollback.Reaches (·.tells = false) (t.clearLast guard).scrollback := by
  have hcleared : (t.clearLast guard).scrollback = t.scrollback.operate (.clearLast guard) := by
    change _ = (t.reporter.scrollback.clearLast? guard).getD t.reporter.scrollback
    rw [clearLast, clearLast?, Reporter.clearLast?]
    cases t.reporter.scrollback.clearLast? guard <;> rfl
  rw [hcleared]
  exact Reaches.single _ (.clearLast guard) rfl

/-- **A byte tells lines if it ends a payload**, and only then. -/
theorem reaches_next (m : Moment) :
    m.terminal.scrollback.Reaches (fun operation => operation.tells → m.endsPayload)
      m.next.1.scrollback := by
  cases htold : m.endsPayload with
  | false =>
    refine Reaches.mono (AddsLines.does m.does_next htold) fun operation hadds htells => ?_
    rw [Scrollback.Operation.tells_of_adds hadds] at htells
    cases htells
  | true =>
    obtain ⟨parser, event, hnext⟩ := m.does_next.eq_of_endsPayload htold
    rw [hnext]
    exact (reaches_update m.closed).mono fun _ _ _ => rfl

/-- **An operation tells lines with an update**, and only then. -/
theorem reaches_operate (operation : Operation) :
    t.scrollback.Reaches (fun change => change.tells → t.reportedOf files operation ≠ [])
      (t.operate files operation).1.scrollback := by
  have hquiet : ∀ {s s' : Scrollback} {told : Prop}, s.Reaches (·.tells = false) s' →
      s.Reaches (fun change => change.tells → told) s' := by
    intro s s' told h
    refine h.mono fun change hno hyes => ?_
    rw [hno] at hyes
    cases hyes
  cases operation with
  | write bytes =>
    change t.scrollback.Reaches _ (t.write files bytes).1.scrollback
    rw [write]
    split
    · exact Reaches.refl _
    · refine interpret_of_moments (P := fun u _ _ => t.scrollback.Reaches _ u.scrollback)
        (fun m hm h => h.trans ((reaches_next m).mono fun change hends htells => ?_))
        (Reaches.refl _)
      have hmem : m.closed.tidy ∈ t.reportedOf files (.write bytes) :=
        List.mem_map_of_mem (List.mem_filter.mpr ⟨hm, hends htells⟩)
      exact List.ne_nil_of_mem hmem
  | update => exact t.reaches_update.mono fun _ _ _ => List.cons_ne_nil _ _
  | reconnect responseId => exact hquiet (Reaches.single _ .rewind rfl)
  | resize height width =>
    exact hquiet (Reaches.mono (AddsLines.resize t _ _) fun _ =>
      Scrollback.Operation.tells_of_adds)
  | clear => exact hquiet t.reaches_clear
  | clearLast guard => exact hquiet (t.reaches_clearLast guard)
  | clickPaste click setting fallback =>
    exact hquiet (clickPaste_induction (P := fun u => t.scrollback.Reaches _ u.scrollback) files
      click setting fallback (Reaches.refl _) t.reaches_clearLast)
  | _ => exact Reaches.refl _

/-- So does a run. -/
theorem reaches_run (operations : List Operation) :
    t.scrollback.Reaches (fun change => change.tells → t.reportedOfRun files operations ≠ [])
      (t.run files operations).1.scrollback := by
  induction operations generalizing t files with
  | nil => exact Reaches.refl _
  | cons operation rest ih =>
    refine ((t.reaches_operate files operation).mono fun change htold htells => ?_).trans
      ((ih _ _).mono fun change htold htells => ?_)
    · exact List.append_ne_nil_of_left_ne_nil (htold htells) _
    · exact List.append_ne_nil_of_right_ne_nil _ (htold htells)

/-! ### The scrollback of a terminal -/

section Run

variable (name : String) (config : TerminalConfig) (operations : List Operation)

/-- **A terminal has done nothing with its scrollback but what can be done with one**, and has told
lines only if it has made an update. -/
theorem exists_run_scrollback :
    ∃ changes : List Scrollback.Operation,
      ((new name config).run files operations).1.scrollback =
          (Scrollback.empty config.maxScrollLines).run changes ∧
        ((new name config).reportedOfRun files operations = [] →
          .takeUnreported ∉ changes) := by
  obtain ⟨changes, hkind, hrun⟩ := (new name config).reaches_run files operations
  exact ⟨changes, hrun, fun hquiet htells => hkind _ htells rfl hquiet⟩

theorem inOrder_run : ((new name config).run files operations).1.scrollback.InOrder :=
  ((new name config).reaches_run files operations).keeps (fun _ change _ h => h.operate change)
    (Scrollback.inOrder_empty _)

theorem counted_run : ((new name config).run files operations).1.scrollback.Counted :=
  ((new name config).reaches_run files operations).keeps (fun _ change _ h => h.operate change)
    ⟨le_rfl, le_rfl⟩

end Run

end Terminal

end GlassTty
