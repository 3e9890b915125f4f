import GlassTty.Proofs.Screen.Size
import GlassTty.Proofs.Terminal.Frame
import GlassTty.Proofs.Terminal.Run

/-!
# Everything is on the screen

Whatever a terminal is told, its screens keep their size, the cursor and the scroll region stay on
them (`GlassTty.Terminal.InBounds`), and while the main screen is shown the cursor is on an active
row (`GlassTty.Terminal.Valid`).

The two are told apart because the second does not hold at every moment. Where a row is entered, the
cursor moves first and its row is counted as active afterwards
(`GlassTty.Terminal.touchCursorRow`); in between only the first holds, and it is enough for the
second to hold again (`GlassTty.Terminal.InBounds.touch`).
-/

namespace GlassTty

/-- The greatest word of sixteen bits. -/
def maxWord : Nat := 0xFFFF

/-- The cursor is on a screen of the given size, and a wrap is pending in the last column only. -/
structure Cursor.On (c : Cursor) (width height : Nat) : Prop where
  row : c.row < height
  col : c.col < width
  wrap : c.pendingWrap = true → c.col = width - 1

/-- The region is made of rows of a screen of the given height. -/
structure ScrollRegion.On (r : ScrollRegion) (height : Nat) : Prop where
  ordered : r.top ≤ r.bottom
  bottom : r.bottom < height

namespace Cursor

variable {c : Cursor} {width height : Nat}

theorem on_ofPosition {row col : Nat} (hrow : row < height) (hcol : col < width) :
    (ofPosition row col).On width height :=
  ⟨hrow, hcol, by simp [ofPosition]⟩

theorem On.settled (h : c.On width height) : c.settled.On width height :=
  ⟨h.row, h.col, by simp [Cursor.settled]⟩

theorem On.advanced (h : c.On width height) : (c.advanced width).On width height := by
  unfold Cursor.advanced
  have hcol := h.col
  split
  · exact ⟨h.row, h.col, fun _ => by simp only; omega⟩
  · refine ⟨h.row, by simp only; omega, fun hwrap => ?_⟩
    -- a wrap that is still pending would put the cursor in the last column
    have := h.wrap hwrap
    omega

end Cursor

theorem ScrollRegion.on_full {rows : Nat} (h : 1 ≤ rows) : (full rows).On rows :=
  ⟨Nat.zero_le _, by simp only [full]; omega⟩

theorem ScrollRegion.on_ofRequest {top bottom rows : Nat} {r : ScrollRegion}
    (h : ofRequest? top bottom rows = some r) (hrows : 1 ≤ rows) : r.On rows := by
  simp only [ofRequest?, Option.ite_none_right_eq_some, Option.some.injEq] at h
  obtain ⟨hlt, rfl⟩ := h
  refine ⟨hlt.le, ?_⟩
  dsimp only
  split <;> omega

namespace Terminal

/-- **Everything is on the screen**: the screens have the size of the terminal, which is at least
one by one and fits words of sixteen bits, and the cursor, the scroll region and the active rows are
on them. -/
structure InBounds (t : Terminal) : Prop where
  width_pos : 1 ≤ t.width
  height_pos : 1 ≤ t.height
  width_le : t.width ≤ maxWord
  height_le : t.height ≤ maxWord
  main : t.main.HasSize t.width t.height
  alt : t.alt.HasSize t.width t.height
  cursor : t.cursor.On t.width t.height
  region : t.region.On t.height
  activeRows : t.activeRows ≤ t.height

/-- **Between two operations** the cursor is on an active row besides, as long as the main screen is
shown. With no active row at all it is on the first. -/
structure Valid (t : Terminal) : Prop extends InBounds t where
  cursor_active : t.altMode = false → t.cursor.row < max t.activeRows 1

/-! ### Small changes -/

namespace InBounds

variable {t : Terminal}

theorem withCursor (h : t.InBounds) {cursor : Cursor} (hc : cursor.On t.width t.height) :
    (t.withCursor cursor).InBounds :=
  { h with cursor := hc }

theorem settle (h : t.InBounds) : t.settle.InBounds :=
  h.withCursor h.cursor.settled

theorem toFirstCol (h : t.InBounds) (hwrap : t.cursor.pendingWrap = false) :
    t.toFirstCol.InBounds :=
  h.withCursor ⟨h.cursor.row, h.width_pos, fun hp => by
    rw [show t.cursor.pendingWrap = true from hp] at hwrap
    cases hwrap⟩

/-- What the viewer is told has nothing to do with places on the screen. -/
theorem withReporter (h : t.InBounds) (reporter : Reporter) : { t with reporter }.InBounds :=
  { h with }

theorem mapScreen (h : t.InBounds) {change : Screen → Screen} (hc : Screen.KeepsSize change) :
    (t.mapScreen change).InBounds := by
  unfold Terminal.mapScreen
  split
  · exact { h with alt := h.alt.change hc }
  · exact { h with main := h.main.change hc }

theorem touchCursorRow (h : t.InBounds) : t.touchCursorRow.InBounds := by
  unfold Terminal.touchCursorRow
  split
  · exact h
  · exact { h with activeRows := max_le h.activeRows h.cursor.row }

/-- **A row is entered**: with the row of the cursor counted as active, the cursor is on an active
row. -/
theorem touch (h : t.InBounds) : t.touchCursorRow.Valid := by
  refine ⟨h.touchCursorRow, ?_⟩
  unfold Terminal.touchCursorRow
  split
  · next halt =>
    intro hmain
    rw [halt] at hmain
    cases hmain
  · intro _
    simp only
    omega

/-! ### Rows that leave the screen -/

theorem scrollRegionUp (h : t.InBounds) : t.scrollRegionUp.InBounds := by
  have hsave : t.saveTopRow.InBounds := by
    unfold saveTopRow
    split
    · exact h.withReporter _
    · exact h
  exact hsave.mapScreen (.scrollUp _ _)

theorem feedLine (h : t.InBounds) : t.feedLine.InBounds := by
  unfold Terminal.feedLine
  split
  · exact h.scrollRegionUp
  · split
    · next hrow => exact h.withCursor ⟨hrow, h.cursor.col, h.cursor.wrap⟩
    · exact h

theorem backLine (h : t.InBounds) : t.backLine.InBounds := by
  unfold Terminal.backLine
  split
  · exact h.mapScreen (.scrollDown _ _)
  · have hrow := h.cursor.row
    exact h.withCursor ⟨by dsimp only; omega, h.cursor.col, h.cursor.wrap⟩

end InBounds

namespace Valid

variable {t : Terminal}

theorem withCursor (h : t.Valid) {cursor : Cursor} (hc : cursor.On t.width t.height)
    (hrow : cursor.row ≤ t.cursor.row) : (t.withCursor cursor).Valid :=
  ⟨h.toInBounds.withCursor hc, fun halt => lt_of_le_of_lt hrow (h.cursor_active halt)⟩

theorem withReporter (h : t.Valid) (reporter : Reporter) : { t with reporter }.Valid :=
  ⟨h.toInBounds.withReporter reporter, h.cursor_active⟩

theorem mapScreen (h : t.Valid) {change : Screen → Screen} (hc : Screen.KeepsSize change) :
    (t.mapScreen change).Valid := by
  refine ⟨h.toInBounds.mapScreen hc, ?_⟩
  unfold Terminal.mapScreen
  split <;> exact h.cursor_active

theorem toFirstCol (h : t.Valid) (hwrap : t.cursor.pendingWrap = false) : t.toFirstCol.Valid :=
  ⟨h.toInBounds.toFirstCol hwrap, h.cursor_active⟩

theorem cursorDown (h : t.Valid) : t.cursorDown.Valid :=
  h.feedLine.settle.touch

theorem reverseIndex (h : t.Valid) : t.reverseIndex.Valid :=
  h.backLine.settle.touch

theorem wrap (h : t.Valid) : t.wrap.Valid := by
  have hmark : ∀ {u : Terminal} (mark : Option PromptMark), u.Valid → (u.markRow mark).Valid := by
    rintro u (_ | mark) hu
    · exact hu
    · exact ⟨{ hu with main := hu.main.change (.setMark _ _) }, hu.cursor_active⟩
  unfold Terminal.wrap
  split
  · refine hmark _ (h.cursorDown.toFirstCol ?_)
    rw [Terminal.cursorDown, touchCursorRow_cursor]
    rfl
  · exact h

theorem print (h : t.Valid) (char : Char) : (t.print char).Valid := by
  have hput : (t.wrap.putChar char).Valid := h.wrap.mapScreen (.setCell _ _ _)
  exact (hput.toInBounds.withCursor hput.cursor.advanced).touch

/-- The rows that go are active ones, and the cursor goes up with the others. -/
theorem dropRows (h : t.Valid) {count : Nat} (hcount : count ≤ t.activeRows) :
    (t.dropRows count).Valid := by
  have hrow := h.cursor.row
  have hactive := h.activeRows
  refine ⟨{ h with main := ?main, cursor := ?cursor, activeRows := ?active }, fun halt => ?row⟩
  case main => exact h.main.change (.comp (.eraseLines _ _) (.copyRows _ _ _))
  case active => exact (Nat.sub_le _ _).trans hactive
  -- without active rows the cursor goes to the first column, otherwise up with its row
  case cursor =>
    simp only [Terminal.dropRows]
    split
    · exact Cursor.on_ofPosition (by omega) h.width_pos
    · exact ⟨by dsimp only; omega, h.cursor.col, h.cursor.wrap⟩
  case row =>
    have hlt := h.cursor_active halt
    have : (t.dropRows count).cursor.row = t.cursor.row - count := by
      simp only [Terminal.dropRows]
      split <;> rfl
    rw [this]
    simp only [Terminal.dropRows]
    omega

theorem scrollRows (h : t.Valid) {count : Nat} (hcount : count ≤ t.activeRows) :
    (t.scrollRows count).Valid := by
  unfold Terminal.scrollRows
  split
  · exact h
  · rw [foldl_scrollOff]
    exact (h.withReporter _).dropRows hcount

theorem scrollToPrompt (h : t.Valid) : t.scrollToPrompt.Valid :=
  h.scrollRows t.lastPromptRow_le

/-! ### Actions -/

theorem moveUp (h : t.Valid) (count : Nat) : (t.moveUp count).Valid := by
  have hrow : max (t.cursor.row - count) (if t.region.top ≤ t.cursor.row then t.region.top else 0) ≤
      t.cursor.row := by
    split <;> omega
  exact h.withCursor (Cursor.on_ofPosition (hrow.trans_lt h.cursor.row) h.cursor.col) hrow

theorem moveDown (h : t.Valid) (count : Nat) : (t.moveDown count).Valid := by
  have hrow := h.cursor.row
  have hbottom := h.region.bottom
  refine (h.toInBounds.withCursor (Cursor.on_ofPosition ?_ h.cursor.col)).touch
  split <;> omega

/-- The cursor goes to a column of its row. -/
theorem moveToCol (h : t.Valid) {col : Nat} (hcol : col < t.width) : (t.moveToCol col).Valid :=
  h.withCursor (Cursor.on_ofPosition h.cursor.row hcol) le_rfl

theorem eraseInDisplay (h : t.Valid) (mode : Nat) : (t.eraseInDisplay mode).Valid := by
  unfold Terminal.eraseInDisplay
  dsimp only
  split
  · split
    · exact h.mapScreen (.eraseLines _ _)
    · exact h.mapScreen (.eraseRange _ _ _ _)
  · split
    · exact h.mapScreen (.eraseLines _ _)
    · exact h.mapScreen (.eraseRange _ _ _ _)
  · exact h.mapScreen .clear
  · exact h.mapScreen .clear
  · exact h

theorem eraseInLine (h : t.Valid) (mode : Nat) : (t.eraseInLine mode).Valid := by
  unfold Terminal.eraseInLine
  dsimp only
  split
  · exact h.mapScreen (.eraseRange _ _ _ _)
  · exact h.mapScreen (.eraseRange _ _ _ _)
  · exact h.mapScreen (.eraseLines _ _)
  · exact h

theorem repeatScreen (h : t.Valid) (count : Nat) {change : Screen → Screen}
    (hc : Screen.KeepsSize change) : (t.repeatScreen count change).Valid :=
  h.mapScreen (hc.repeated count)

/-- Showing the other screen may leave the cursor below the active rows, coming back takes it to
one. -/
theorem setAltMode (h : t.Valid) (enable : Bool) : (t.setAltMode enable).Valid := by
  cases enable with
  | true => exact ⟨{ h with alt := h.alt.change .clear }, fun halt => by cases halt⟩
  | false =>
    have hactive := h.activeRows
    have hheight := h.height_pos
    refine ⟨{ h with cursor := Cursor.on_ofPosition ?_ h.width_pos }, fun _ => ?_⟩
    · -- the cursor comes back to the last active row, or to the first row if none is active
      change t.activeRows - 1 < t.height
      omega
    · change t.activeRows - 1 < max t.activeRows 1
      omega

theorem openDirective (h : t.Valid) (code : DirectiveCode) (presented : Option Nat) :
    (t.openDirective code presented).Valid := by
  unfold Terminal.openDirective
  split
  · exact h
  · have hopen : ∀ {u : Terminal} (buffer : Option DirectiveBuffer), u.Valid →
        { u with directive := buffer }.Valid := fun _ hu => ⟨{ hu with }, hu.cursor_active⟩
    cases code with
    | prompt => exact hopen _ h
    -- all active rows go, so that the output of the directive comes below them
    | payload => exact hopen _ (h.scrollRows le_rfl)

theorem setMode (h : t.Valid) (params : List Nat) (enable : Bool) :
    (t.setMode params enable).Valid := by
  unfold Terminal.setMode
  split
  · exact h
  · split
    · exact h.setAltMode enable
    · split
      · split
        · exact h.openDirective _ _
        · exact h
      · exact h

end Valid

/-- A terminal of a size within words is in order again after a reset. -/
theorem valid_reset {t : Terminal} (hw : 1 ≤ t.width) (hh : 1 ≤ t.height) (hw' : t.width ≤ maxWord)
    (hh' : t.height ≤ maxWord) : t.reset.Valid where
  width_pos := hw
  height_pos := hh
  width_le := hw'
  height_le := hh'
  main := Screen.hasSize_blank hw hh
  alt := Screen.hasSize_blank hw hh
  cursor := ⟨hh, hw, fun hwrap => by cases hwrap⟩
  region := ScrollRegion.on_full hh
  activeRows := Nat.zero_le _
  cursor_active := fun _ => Nat.one_pos

namespace Valid

variable {t : Terminal}

/-- **Every action keeps everything on the screen.** -/
theorem perform (h : t.Valid) (action : Action) : (t.perform action).Valid := by
  have hcol := h.cursor.col
  have hrow := h.cursor.row
  have hheight := h.height_pos
  have hwidth := h.width_pos
  cases action with
  | print char => exact h.print char
  | backspace => exact h.moveToCol (by omega)
  | tab => exact h.moveToCol (by omega)
  | lineFeed => exact h.cursorDown
  | index => exact h.cursorDown
  | nextLine =>
    exact h.cursorDown.toFirstCol (by rw [Terminal.cursorDown, touchCursorRow_cursor]; rfl)
  | carriageReturn => exact h.withCursor ⟨hrow, hwidth, fun hp => by cases hp⟩ le_rfl
  | reverseIndex => exact h.reverseIndex
  | restoreCursor =>
    -- a saved cursor is taken back to the screen before it is used
    exact (h.toInBounds.withCursor ⟨by change min _ _ < _; omega, by change min _ _ < _; omega,
      fun hp => by cases hp⟩).touch
  | fullReset => exact valid_reset hwidth hheight h.width_le h.height_le
  | insertBlanks count => exact h.repeatScreen _ (.insertBlank _ _)
  | cursorUp count => exact h.moveUp count
  | cursorDown count => exact h.moveDown count
  | cursorForward count => exact h.moveToCol (by omega)
  | cursorBackward count => exact h.moveToCol (by omega)
  | cursorNextLine count =>
    exact (h.moveDown count).toFirstCol (by rw [Terminal.moveDown, touchCursorRow_cursor]; rfl)
  | cursorPrevLine count => exact (h.moveUp count).toFirstCol rfl
  | cursorColumn col =>
    exact h.withCursor (Cursor.on_ofPosition (by omega) (by omega)) (min_le_left _ _)
  | cursorRow row =>
    exact (h.toInBounds.withCursor (Cursor.on_ofPosition (by omega) (by omega))).touch
  | cursorPosition row col =>
    exact (h.toInBounds.withCursor (Cursor.on_ofPosition (by omega) (by omega))).touch
  | eraseInDisplay mode => exact h.eraseInDisplay mode
  | eraseInLine mode => exact h.eraseInLine mode
  | insertLines count => exact h.repeatScreen _ (.scrollDown _ _)
  | deleteLines count => exact h.repeatScreen _ (.scrollUp _ _)
  | deleteChars count => exact h.mapScreen (.deleteChars _ _ _)
  | eraseChars count => exact h.mapScreen (.eraseChars _ _ _)
  | setScrollRegion top bottom =>
    unfold Terminal.perform
    dsimp only
    split
    · next region hregion =>
      exact ⟨{ h with region := ScrollRegion.on_ofRequest hregion hheight }, h.cursor_active⟩
    · exact h
  | setMode params => exact h.setMode params true
  | resetMode params => exact h.setMode params false
  | _ => exact ⟨{ h with }, h.cursor_active⟩

/-! ### Output -/

theorem parse (h : t.Valid) (byte : UInt8) : (t.parse byte).Valid := by
  have hparser : ∀ parser, { t with parser }.Valid := fun parser => ⟨{ h with }, h.cursor_active⟩
  unfold Terminal.parse
  dsimp only
  split
  · exact (hparser _).perform _
  · exact hparser _

theorem tidy (h : t.Valid) : t.tidy.Valid := by
  unfold Terminal.tidy
  split
  · exact h
  · exact h.scrollToPrompt

theorem update (h : t.Valid) : t.update.Valid :=
  ⟨{ h.tidy with }, h.tidy.cursor_active⟩

theorem tell (h : t.Valid) (event : TerminalEvent) : (t.tell event).Valid :=
  ⟨{ h with }, h.cursor_active⟩

theorem finish (h : t.Valid) (files : FileSystem) (buffer : DirectiveBuffer) :
    (t.finish files buffer).1.Valid := by
  have hclosed : { t with directive := none }.Valid := ⟨{ h with }, h.cursor_active⟩
  rw [finish_eq]
  split
  · exact hclosed.update.tell _
  · rcases t.ended_eq buffer with hended | ⟨directory, hended⟩
    · rw [hended]
      exact hclosed
    · rw [hended]
      unfold expectPrompt
      split
      · exact ⟨{ hclosed with main := h.main.change (.setMark _ _) }, h.cursor_active⟩
      · exact hclosed

/-- **Output keeps everything on the screen**, after each of its bytes. -/
theorem interpret (h : t.Valid) (files : FileSystem) (bytes : Bytes) :
    (t.interpret files bytes).1.Valid :=
  interpret_induction (P := fun t _ => t.Valid) (fun _ _ byte hu => hu.parse byte)
    (fun _ _ _ _ _ hu => ⟨{ hu with }, hu.cursor_active⟩)
    (fun _ files _ _ _ hu => hu.finish files _) t files bytes h

theorem write (h : t.Valid) (files : FileSystem) (bytes : Bytes) :
    (t.write files bytes).1.Valid := by
  unfold Terminal.write
  split
  · exact h
  · have hdue : { t with needsUpdating := true }.Valid := ⟨{ h with }, h.cursor_active⟩
    exact hdue.interpret files bytes

end Valid

/-! ### Requests -/

/-- A terminal that is rebuilt is blank but for the row that is put back, and has the new size. -/
theorem valid_rebuild (t : Terminal) {height width : Nat} (hw : 1 ≤ width) (hh : 1 ≤ height)
    (hw' : width ≤ maxWord) (hh' : height ≤ maxWord) : (t.rebuild height width).Valid := by
  have hblank : ({ t with width, height }.reset : Terminal).Valid := valid_reset hw hh hw' hh'
  unfold rebuild
  dsimp only
  split
  · next kept hkept =>
    -- the cells that fit are written one by one
    have hcells : Screen.KeepsSize fun s =>
        (List.range (kept.cells.extract 0 (min width t.width)).size).foldl
          (fun (main : Screen) col => main.setCell 0 col
            ((kept.cells.extract 0 (min width t.width))[col]?.getD Cell.blank)) s :=
      .foldl (fun col => .setCell 0 col _) _
    have hcol : min kept.written (width - 1) < width := by omega
    exact
      ⟨{ hblank with
          main := hblank.main.change (.comp (.setMark 0 kept.mark) hcells)
          cursor := ⟨hh, hcol, fun hp => by cases hp⟩
          activeRows := hh },
        fun _ => Nat.one_pos⟩
  · exact hblank

namespace Valid

variable {t : Terminal}

theorem resize (h : t.Valid) (height width : UInt16) :
    (t.resize height.toNat width.toNat).Valid := by
  have hheight := height.toNat_lt
  have hwidth := width.toNat_lt
  have hword : maxWord = 65535 := rfl
  unfold Terminal.resize
  dsimp only
  split
  · exact ⟨{ h with }, h.cursor_active⟩
  · exact valid_rebuild _ (by omega) (by omega) (by omega) (by omega)

/-- The row of the cursor becomes the only one that is active, and the cursor stays on it. -/
theorem keepCursorRow (h : t.Valid) : t.keepCursorRow.Valid :=
  ⟨{ h with
      main := h.main.change (.comp (.eraseLines _ _) (.copyRows _ _ _))
      cursor := ⟨h.height_pos, h.cursor.col, h.cursor.wrap⟩
      activeRows := h.height_pos },
    fun _ => Nat.one_pos⟩

theorem clear (h : t.Valid) : t.clear.Valid := by
  unfold Terminal.clear
  dsimp only
  split
  · exact keepCursorRow ⟨{ h with }, h.cursor_active⟩
  · exact ⟨{ h with }, h.cursor_active⟩

theorem clearLast (h : t.Valid) (guard : Option Nat) : (t.clearLast guard).Valid := by
  unfold Terminal.clearLast clearLast?
  cases t.reporter.clearLast? guard with
  | none => exact h
  | some reporter => exact ⟨{ h with }, h.cursor_active⟩

/-- **Every operation keeps everything on the screen.** -/
theorem operate (h : t.Valid) (files : FileSystem) (operation : Operation) :
    (t.operate files operation).1.Valid := by
  cases operation with
  | write bytes => exact h.write files bytes
  | update => exact h.update
  | resize height width => exact h.resize height width
  | clear => exact h.clear
  | clearLast guard => exact h.clearLast guard
  | clickPaste click setting fallback =>
    exact clickPaste_induction (P := Valid) files click setting fallback h h.clearLast
  | _ => exact ⟨{ h with }, h.cursor_active⟩

theorem run (h : t.Valid) (files : FileSystem) (operations : List Operation) :
    (t.run files operations).1.Valid := by
  induction operations generalizing t files with
  | nil => exact h
  | cons operation rest ih => exact ih (h.operate files operation) _

end Valid

/-- A new terminal is in order: a size of zero was raised to one. -/
theorem valid_new (name : String) {config : TerminalConfig} (hw : config.width ≤ maxWord)
    (hh : config.height ≤ maxWord) : (new name config).Valid := by
  have hword : maxWord = 65535 := rfl
  have hw₁ : 1 ≤ max config.width 1 := le_max_right _ _
  have hh₁ : 1 ≤ max config.height 1 := le_max_right _ _
  exact
    { width_pos := hw₁
      height_pos := hh₁
      width_le := by simp only [new]; omega
      height_le := by simp only [new]; omega
      main := Screen.hasSize_blank hw₁ hh₁
      alt := Screen.hasSize_blank hw₁ hh₁
      cursor := ⟨hh₁, hw₁, fun hp => by cases hp⟩
      region := ScrollRegion.on_full hh₁
      activeRows := Nat.zero_le _
      cursor_active := fun _ => Nat.one_pos }

end Terminal

end GlassTty
