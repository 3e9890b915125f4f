import GlassTty.Proofs.Directive.Framing

/-!
# Behind the alternate screen

While the alternate screen is shown, the main one stands behind it. What is written then, and every
update, leaves it alone with its marks, the number of its active rows and the lines of the
scrollback (`GlassTty.Terminal.KeepsMain`), until something is written that shows the main screen
again: a reset of one of the modes that had shown the alternate one, or a full reset of the terminal
(`GlassTty.Action.showsMain`).

There are three ways in which the main screen could be reached from there, and each is barred by the
mode. An action changes the screen that is shown, and only on the main one a row counts as active or
goes into the scrollback (`GlassTty.Terminal.StaysBehind.perform`). An update moves the rows above
the newest prompt, but on the main screen only (`GlassTty.Terminal.StaysBehind.update`). And where a
directive ends, a row of the main screen may be marked, whatever is shown; but none can be open
behind the alternate screen (`GlassTty.Terminal.closedBehind_run`).
-/

namespace GlassTty

/-- Where bytes complete one action, those before it complete none, and those behind it neither. -/
theorem Parser.exists_of_feed_eq_singleton {p q : Parser} {bytes : Bytes} {action : Action}
    (h : p.feed bytes = ([action], q)) :
    ∃ lead byte tail before behind, bytes = lead ++ byte :: tail ∧ p.feed lead = ([], before) ∧
      before.advance byte = (some action, behind) ∧ behind.feed tail = ([], q) := by
  induction bytes generalizing p with
  | nil => cases h
  | cons byte rest ih =>
    simp only [feed, Prod.mk.injEq] at h
    obtain ⟨hactions, hparser⟩ := h
    cases hfirst : (p.advance byte).1 with
    | none =>
      rw [hfirst] at hactions
      obtain ⟨lead, last, tail, before, behind, rfl, hlead, hlast, htail⟩ :=
        ih (Prod.ext hactions hparser)
      refine ⟨byte :: lead, last, tail, before, behind, rfl, ?_, hlast, htail⟩
      simp only [feed, hfirst, hlead]
      rfl
    | some first =>
      rw [hfirst] at hactions
      obtain ⟨rfl, hnone⟩ := List.cons.inj hactions
      exact ⟨[], byte, rest, p, (p.advance byte).2, rfl, rfl, Prod.ext hfirst rfl,
        Prod.ext hnone hparser⟩

/-! ### Actions that show a screen -/

namespace Action

/-- The screen that an action shows by its mode: the alternate one if the mode is set, the main one
if it is reset. -/
def showsAlternate? : Action → Option Bool
  | .setMode (mode :: _) => if Terminal.alternateModes.contains mode then some true else none
  | .resetMode (mode :: _) => if Terminal.alternateModes.contains mode then some false else none
  | _ => none

/-- **Whether an action shows the main screen**, by its mode or with a full reset. -/
def showsMain (action : Action) : Bool :=
  action = .fullReset || action.showsAlternate? = some false

end Action

/-- Whether a byte completes an action that shows the main screen. -/
def Moment.showsMain (m : Moment) : Bool :=
  m.action?.any Action.showsMain

namespace Terminal

variable {t u v : Terminal}

/-- All that an action with such a mode does is to show a screen. -/
theorem perform_of_showsAlternate {action : Action} {enable : Bool}
    (h : action.showsAlternate? = some enable) (t : Terminal) :
    t.perform action = t.setAltMode enable := by
  cases action with
  | setMode params =>
    cases params with
    | nil => cases h
    | cons mode rest =>
      obtain ⟨hmode, henable⟩ := Option.ite_none_right_eq_some.mp h
      cases henable
      exact if_pos hmode
  | resetMode params =>
    cases params with
    | nil => cases h
    | cons mode rest =>
      obtain ⟨hmode, henable⟩ := Option.ite_none_right_eq_some.mp h
      cases henable
      exact if_pos hmode
  | _ => cases h

/-! ### No directive is open -/

/-- **Behind the alternate screen no directive is open.** -/
def ClosedBehind (t : Terminal) : Prop :=
  t.altMode = true → t.directive = none

/-- What opens a directive shows no other screen. -/
theorem altMode_openDirective (t : Terminal) (opening : Opening) :
    (t.openDirective opening.code opening.presented).altMode = t.altMode := by
  unfold openDirective
  split
  · rfl
  · cases opening.code with
    | prompt => rfl
    | payload => exact (frame_scrollRows t _).2.2.1

/-- The screen that is shown changes with no request. -/
theorem altMode_operate (t : Terminal) (files : FileSystem) {operation : Operation}
    (h : operation.isWrite = false) : (t.operate files operation).1.altMode = t.altMode := by
  have hclear : ∀ guard, (t.clearLast guard).altMode = t.altMode := by
    intro guard
    unfold clearLast clearLast?
    cases t.reporter.clearLast? guard <;> rfl
  cases operation with
  | write bytes => cases h
  | update =>
    change t.tidy.altMode = t.altMode
    unfold tidy
    split
    · rfl
    · exact (frame_scrollRows t _).2.2.1
  | resize height width =>
    change (t.resize height.toNat width.toNat).altMode = t.altMode
    unfold resize
    dsimp only
    split
    · rfl
    · exact (frame_rebuild _ _ _).1.trans
        (frame_scrollRows { t with needsUpdating := true } _).2.2.1
  | clear =>
    change t.clear.altMode = t.altMode
    unfold clear
    dsimp only
    split <;> rfl
  | clearLast guard => exact hclear guard
  | clickPaste click setting fallback =>
    exact clickPaste_induction (P := fun u => u.altMode = t.altMode) files click setting fallback
      rfl hclear
  | _ => rfl

namespace ClosedBehind

theorem next {m : Moment} (h : m.terminal.ClosedBehind) : m.next.1.ClosedBehind := by
  intro halt
  have hdirective := m.directive_next
  cases hopen : m.terminal.directive with
  | none =>
    rw [hopen] at hdirective
    cases hopens : m.opens? with
    | none =>
      rw [hopens] at hdirective
      exact hdirective
    | some opening =>
      -- the byte completes an opening, so that the main screen is shown before it and after
      obtain ⟨hmain, hopening⟩ := Moment.opens?_eq_some.mp hopens
      rw [Moment.opening?_of_none hopen] at hopening
      obtain ⟨action, hcompleted, haction⟩ := Option.bind_eq_some_iff.mp hopening
      rw [Moment.next_of_none hopen, parse] at halt
      dsimp only at halt
      rw [hcompleted] at halt
      dsimp only at halt
      rw [perform_opening _ haction, altMode_openDirective, hmain] at halt
      cases halt
  | some buffer =>
    rw [hopen] at hdirective
    by_cases hesc : m.byte = Parser.esc
    · exact hdirective.trans (if_pos hesc)
    · rw [Moment.next_of_payload hesc hopen] at halt
      rw [h halt] at hopen
      cases hopen

theorem operate (h : t.ClosedBehind) (files : FileSystem) (operation : Operation) :
    (t.operate files operation).1.ClosedBehind := by
  obtain ⟨bytes, rfl⟩ | hrequest := operation.write_or_request
  · change (t.write files bytes).1.ClosedBehind
    unfold write
    split
    · exact h
    · exact interpret_of_moments (P := fun u _ _ => u.ClosedBehind) (fun _ _ hm => hm.next) h
  · intro halt
    rw [altMode_operate t files hrequest] at halt
    rw [directive_operate t files hrequest, h halt, ite_self]

theorem run (h : t.ClosedBehind) (files : FileSystem) (operations : List Operation) :
    (t.run files operations).1.ClosedBehind := by
  induction operations generalizing t files with
  | nil => exact h
  | cons operation rest ih => exact ih (h.operate files operation) _

end ClosedBehind

/-- So it is after every run of a new terminal. -/
theorem closedBehind_run (name : String) (config : TerminalConfig) (files : FileSystem)
    (operations : List Operation) : ((new name config).run files operations).1.ClosedBehind :=
  ClosedBehind.run (fun _ => rfl) files operations

/-! ### What is kept -/

/-- **What stands behind is kept** from `t` to `u`. -/
structure KeepsMain (t u : Terminal) : Prop where
  /-- All cells of the main screen and the marks of its rows. -/
  main : u.main = t.main
  activeRows : u.activeRows = t.activeRows
  lines : u.scrollback.lines = t.scrollback.lines

theorem KeepsMain.trans (h : t.KeepsMain u) (h' : u.KeepsMain v) : t.KeepsMain v :=
  ⟨h'.main.trans h.main, h'.activeRows.trans h.activeRows, h'.lines.trans h.lines⟩

/-- The main screen is kept, and the same screen is shown as before. -/
structure StaysBehind (t u : Terminal) : Prop extends KeepsMain t u where
  altMode : u.altMode = t.altMode

namespace StaysBehind

theorem refl (t : Terminal) : t.StaysBehind t :=
  ⟨⟨rfl, rfl, rfl⟩, rfl⟩

theorem trans (h : t.StaysBehind u) (h' : u.StaysBehind v) : t.StaysBehind v :=
  ⟨h.toKeepsMain.trans h'.toKeepsMain, h'.altMode.trans h.altMode⟩

theorem withCursor (t : Terminal) (cursor : Cursor) : t.StaysBehind (t.withCursor cursor) :=
  ⟨⟨rfl, rfl, rfl⟩, rfl⟩

theorem mapScreen (h : t.altMode = true) (change : Screen → Screen) :
    t.StaysBehind (t.mapScreen change) := by
  rw [Terminal.mapScreen, if_pos h]
  exact ⟨⟨rfl, rfl, rfl⟩, rfl⟩

theorem touchCursorRow (h : t.altMode = true) : t.StaysBehind t.touchCursorRow := by
  rw [Terminal.touchCursorRow, if_pos h]
  exact refl t

theorem touch (h : t.altMode = true) (cursor : Cursor) :
    t.StaysBehind (t.withCursor cursor).touchCursorRow :=
  (withCursor t cursor).trans (touchCursorRow h)

theorem cursorDown (h : t.altMode = true) : t.StaysBehind t.cursorDown := by
  have hfeed : t.StaysBehind t.feedLine := by
    unfold feedLine
    split
    · have hsave : t.saveTopRow = t := if_neg (by simp [h])
      rw [scrollRegionUp, hsave]
      exact mapScreen h _
    · split
      · exact withCursor t _
      · exact refl t
  exact hfeed.trans (touch (hfeed.altMode.trans h) _)

theorem reverseIndex (h : t.altMode = true) : t.StaysBehind t.reverseIndex := by
  have hback : t.StaysBehind t.backLine := by
    unfold backLine
    split
    · exact mapScreen h _
    · exact withCursor t _
  exact hback.trans (touch (hback.altMode.trans h) _)

theorem print (h : t.altMode = true) (char : Char) : t.StaysBehind (t.print char) := by
  have hwrap : t.StaysBehind t.wrap := by
    unfold wrap
    split
    · have hmark : t.continuedMark = none := if_pos h
      rw [hmark]
      exact (cursorDown h).trans (withCursor _ _)
    · exact refl t
  have hput : t.StaysBehind (t.wrap.putChar char) :=
    hwrap.trans (mapScreen (hwrap.altMode.trans h) _)
  exact hput.trans (touch (hput.altMode.trans h) _)

theorem eraseInDisplay (h : t.altMode = true) (mode : Nat) :
    t.StaysBehind (t.eraseInDisplay mode) := by
  unfold Terminal.eraseInDisplay
  dsimp only
  split
  · split <;> exact mapScreen h _
  · split <;> exact mapScreen h _
  · exact mapScreen h _
  · exact mapScreen h _
  · exact refl t

theorem eraseInLine (h : t.altMode = true) (mode : Nat) : t.StaysBehind (t.eraseInLine mode) := by
  unfold Terminal.eraseInLine
  dsimp only
  split
  · exact mapScreen h _
  · exact mapScreen h _
  · exact mapScreen h _
  · exact refl t

/-- Showing the alternate screen again makes it blank, and no directive is opened on it. -/
theorem setMode (h : t.altMode = true) (params : List Nat) {enable : Bool}
    (hstay : ∀ mode ∈ params.head?, alternateModes.contains mode = true → enable = true) :
    t.StaysBehind (t.setMode params enable) := by
  unfold Terminal.setMode
  split
  · exact refl t
  · next mode rest =>
    split
    · next hmode =>
      rw [hstay mode rfl hmode]
      exact ⟨⟨rfl, rfl, rfl⟩, h.symm⟩
    · split
      · split
        · rw [openDirective, if_pos h]
          exact refl t
        · exact refl t
      · exact refl t

/-- **No action reaches the main screen** from the alternate one, but those that show it. -/
theorem perform (h : t.altMode = true) {action : Action} (hstay : action.showsMain = false) :
    t.StaysBehind (t.perform action) := by
  cases action with
  | print char => exact print h char
  | lineFeed => exact cursorDown h
  | index => exact cursorDown h
  | nextLine => exact (cursorDown h).trans (withCursor _ _)
  | reverseIndex => exact reverseIndex h
  | restoreCursor => exact touch h _
  | fullReset => cases hstay
  | insertBlanks count => exact mapScreen h _
  | cursorDown count => exact touch h _
  | cursorNextLine count => exact (touch h _).trans (withCursor _ _)
  | cursorRow row => exact touch h _
  | cursorPosition row col => exact touch h _
  | eraseInDisplay mode => exact eraseInDisplay h mode
  | eraseInLine mode => exact eraseInLine h mode
  | insertLines count => exact mapScreen h _
  | deleteLines count => exact mapScreen h _
  | deleteChars count => exact mapScreen h (·.deleteChars _ _ count)
  | eraseChars count => exact mapScreen h (·.eraseChars _ _ count)
  | setScrollRegion top bottom =>
    unfold Terminal.perform
    dsimp only
    split <;> exact ⟨⟨rfl, rfl, rfl⟩, rfl⟩
  | setMode params => exact setMode h params fun _ _ _ => rfl
  | resetMode params =>
    refine setMode h params fun mode hmode halternate => ?_
    cases params with
    | nil => cases hmode
    | cons first rest =>
      cases hmode
      have hshows : (Action.resetMode (mode :: rest)).showsAlternate? = some false :=
        if_pos halternate
      rw [Action.showsMain, hshows] at hstay
      simp at hstay
  | _ => exact ⟨⟨rfl, rfl, rfl⟩, rfl⟩

/-- **An update of the alternate screen** moves no row; the lines that it tells are kept. -/
theorem update (h : t.altMode = true) : t.StaysBehind t.update := by
  have htidy : t.tidy = t := if_pos h
  rw [Terminal.update, htidy]
  exact ⟨⟨rfl, rfl, rfl⟩, rfl⟩

/-- **No byte reaches the main screen**, but one that completes an action that shows it. -/
theorem next {m : Moment} (h : m.terminal.altMode = true) (hclosed : m.terminal.ClosedBehind)
    (hstay : m.showsMain = false) : m.terminal.StaysBehind m.next.1 := by
  have hopen := hclosed h
  have haction : m.action? = (m.terminal.parser.advance m.byte).1 := by
    rw [Moment.action?, hopen]
    rfl
  rw [Moment.next_of_none hopen, parse]
  dsimp only
  rw [← haction]
  cases hcompleted : m.action? with
  | none => exact ⟨⟨rfl, rfl, rfl⟩, rfl⟩
  | some action =>
    have haction : action.showsMain = false := by
      simpa [Moment.showsMain, hcompleted] using hstay
    have hparser : m.terminal.StaysBehind
        { m.terminal with parser := (m.terminal.parser.advance m.byte).2 } :=
      ⟨⟨rfl, rfl, rfl⟩, rfl⟩
    exact hparser.trans
      (perform (t := { m.terminal with parser := (m.terminal.parser.advance m.byte).2 }) h haction)

/-- Behind the alternate screen an operation leaves the main one alone, unless it is about what is
there, or output that shows it. -/
theorem operate (h : t.altMode = true) (hclosed : t.ClosedBehind) (files : FileSystem)
    {operation : Operation} (hkeep : operation.alters = false)
    (hstay : ∀ m ∈ t.momentsOf files operation, m.showsMain = false) :
    t.StaysBehind (t.operate files operation).1 := by
  cases operation with
  | write bytes =>
    change t.StaysBehind (t.write files bytes).1
    unfold write
    split
    · exact refl t
    · have hmarked : t.StaysBehind (t.marked true) := ⟨⟨rfl, rfl, rfl⟩, rfl⟩
      have hend := interpret_of_moments (P := fun u _ _ => t.StaysBehind u ∧ u.ClosedBehind)
        (fun m hm hP => ⟨hP.1.trans (next (hP.1.altMode.trans h) hP.2 (hstay m hm)), hP.2.next⟩)
        ⟨hmarked, hclosed⟩
      exact hend.1
  | update => exact update h
  | resize height width => cases hkeep
  | clear => cases hkeep
  | clearLast guard => cases hkeep
  | clickPaste click setting fallback => cases hkeep
  | _ => exact ⟨⟨rfl, rfl, rfl⟩, rfl⟩

/-- So does a run. -/
theorem run (h : t.altMode = true) (hclosed : t.ClosedBehind) (files : FileSystem)
    {operations : List Operation} (hkeep : ∀ operation ∈ operations, operation.alters = false)
    (hstay : ∀ m ∈ t.momentsOfRun files operations, m.showsMain = false) :
    t.StaysBehind (t.run files operations).1 := by
  induction operations generalizing t files with
  | nil => exact refl t
  | cons operation rest ih =>
    have hfirst := operate h hclosed files (hkeep operation List.mem_cons_self)
      fun m hm => hstay m (List.mem_append_left _ hm)
    exact hfirst.trans (ih (hfirst.altMode.trans h) (hclosed.operate files operation) _
      (fun other hother => hkeep other (List.mem_cons_of_mem _ hother))
      fun m hm => hstay m (List.mem_append_right _ hm))

end StaysBehind

/-! ### From one screen to the other and back -/

/-- Bytes of which nothing comes but that a screen is shown. -/
theorem interpret_of_showsAlternate (hopen : t.directive = none) (files : FileSystem)
    {bytes : Bytes} {action : Action} {p : Parser} {enable : Bool}
    (hfeed : t.parser.feed bytes = ([action], p))
    (hshows : action.showsAlternate? = some enable) :
    t.interpret files bytes = ({ t.setAltMode enable with parser := p }, files) := by
  obtain ⟨lead, byte, tail, before, behind, rfl, hlead, hlast, htail⟩ :=
    Parser.exists_of_feed_eq_singleton hfeed
  have hopen' : (({ t with parser := behind } : Terminal).setAltMode enable).directive = none := by
    cases enable <;> exact hopen
  have htail' : (({ t with parser := behind } : Terminal).setAltMode enable).parser.feed tail =
      ([], p) := by
    cases enable <;> exact htail
  rw [List.append_cons, interpret_append, interpret_of_action hopen files hlead hlast,
    perform_of_showsAlternate hshows]
  dsimp only
  rw [interpret_of_feed hopen' files htail']
  cases enable <;> rfl

/-- So it is if they are written. -/
theorem write_of_showsAlternate (hopen : t.directive = none) (files : FileSystem)
    {bytes : Bytes} {action : Action} {p : Parser} {enable : Bool}
    (hfeed : t.parser.feed bytes = ([action], p))
    (hshows : action.showsAlternate? = some enable) :
    t.write files bytes = ({ (t.marked true).setAltMode enable with parser := p }, files) := by
  have hne : bytes.isEmpty = false := by
    cases bytes with
    | nil => cases hfeed
    | cons byte rest => rfl
  have hopen' : (t.marked true).directive = none := hopen
  rw [write, hne, if_neg Bool.false_ne_true]
  exact interpret_of_showsAlternate hopen' files hfeed hshows

/-- **The main screen is kept behind the alternate one.** Let a terminal show the alternate screen,
whatever it has gone through. Then output, updates and requests that do not ask for another size or
for something to be dropped keep the main screen with its marks, its active rows and the lines of
the scrollback, as long as no byte completes an action that shows the main screen.

So if one of the modes of the alternate screen is set, this goes on, and one of them is reset, all
of that is as it was before; and the cursor is at the start of the last active row, or of the first
row if none is active. -/
theorem main_kept_behind_alternate (name : String) (config : TerminalConfig) (files : FileSystem)
    (before session : List Operation)
    (hsession : ∀ operation ∈ session, operation.alters = false) :
    let t := (new name config).run files before
    (t.1.altMode = true → (∀ m ∈ t.1.momentsOfRun t.2 session, m.showsMain = false) →
      t.1.KeepsMain (t.1.run t.2 session).1 ∧ (t.1.run t.2 session).1.altMode = true) ∧
    ∀ (enter leave : Bytes) (set reset : Action) (p q : Parser), t.1.directive = none →
      t.1.parser.feed enter = ([set], p) → set.showsAlternate? = some true →
      let entered := t.1.write t.2 enter
      (∀ m ∈ entered.1.momentsOfRun entered.2 session, m.showsMain = false) →
      let inside := entered.1.run entered.2 session
      inside.1.parser.feed leave = ([reset], q) → reset.showsAlternate? = some false →
      let left := (inside.1.write inside.2 leave).1
      t.1.KeepsMain left ∧ left.altMode = false ∧
        left.cursor = .ofPosition (max left.activeRows 1 - 1) 0 := by
  intro t
  have hclosed : t.1.ClosedBehind := closedBehind_run name config files before
  refine ⟨fun halt hstay => ?_, ?_⟩
  · have hkept := StaysBehind.run halt hclosed t.2 hsession hstay
    exact ⟨hkept.toKeepsMain, hkept.altMode.trans halt⟩
  · intro enter leave set reset p q hopen henter hset entered hstay inside hleave hreset left
    have hentered : entered = ({ (t.1.marked true).setAltMode true with parser := p }, t.2) :=
      write_of_showsAlternate hopen t.2 henter hset
    have hbefore : t.1.KeepsMain entered.1 := by
      rw [hentered]
      exact ⟨rfl, rfl, rfl⟩
    have halt : entered.1.altMode = true := by
      rw [hentered]
      rfl
    have hclosed' : entered.1.ClosedBehind := hclosed.operate t.2 (.write enter)
    have hkept := StaysBehind.run halt hclosed' entered.2 hsession hstay
    have hopen' : inside.1.directive = none :=
      hclosed'.run entered.2 session (hkept.altMode.trans halt)
    have hleft : left = { (inside.1.marked true).setAltMode false with parser := q } :=
      congrArg Prod.fst (write_of_showsAlternate hopen' inside.2 hleave hreset)
    have hbehind : inside.1.KeepsMain left := by
      rw [hleft]
      exact ⟨rfl, rfl, rfl⟩
    refine ⟨(hbefore.trans hkept.toKeepsMain).trans hbehind, by rw [hleft]; rfl, ?_⟩
    have hrow : max left.activeRows 1 - 1 = inside.1.activeRows - 1 := by
      rw [hbehind.activeRows]
      omega
    rw [hrow, hleft]
    rfl

/-- A session of which one line has gone into the scrollback and two are on the screen. Then the
alternate screen is shown, cleared, written and scrolled, a payload is sent there, and updates are
made; the main screen is shown again with another mode. -/
theorem main_kept_behind_alternate_scrolled :
    let config : TerminalConfig := { width := 2, height := 2, cookie := "" }
    let before : List Operation := [.write (utf8Bytes "a\r\nb\r\nc")]
    let session : List Operation :=
      [.write (utf8Bytes "\x1b[2Jxyz\r\n\n\x1b[?115"), .update, .reconnect "again",
        .write (utf8Bytes "5;0hq\x1b[?1155l\x1bM"), .update]
    let t := (new "kept" config).run default before
    let entered := t.1.write t.2 (utf8Bytes "\x1b[?1049h")
    let inside := entered.1.run entered.2 session
    let left := (inside.1.write inside.2 (utf8Bytes "\x1b[?47l")).1
    ((∀ operation ∈ session, operation.alters = false) ∧ t.1.directive = none ∧
        t.1.parser.feed (utf8Bytes "\x1b[?1049h") = ([.setMode [1049]], .start) ∧
        (∀ m ∈ entered.1.momentsOfRun entered.2 session, m.showsMain = false) ∧
        inside.1.parser.feed (utf8Bytes "\x1b[?47l") = ([.resetMode [47]], .start)) ∧
      t.1.KeepsMain left ∧ left.altMode = false ∧
        left.cursor = .ofPosition (max left.activeRows 1 - 1) 0 := by
  intro config before session t entered inside left
  have hsession : ∀ operation ∈ session, operation.alters = false := by
    simp [session, Operation.alters]
  have hopen : t.1.directive = none := by decide +kernel
  have henter : t.1.parser.feed (utf8Bytes "\x1b[?1049h") = ([.setMode [1049]], .start) := by
    decide +kernel
  have hall : (entered.1.momentsOfRun entered.2 session).all (!·.showsMain) = true := by
    decide +kernel
  have hstay : ∀ m ∈ entered.1.momentsOfRun entered.2 session, m.showsMain = false := by
    simpa using hall
  have hleave : inside.1.parser.feed (utf8Bytes "\x1b[?47l") = ([.resetMode [47]], .start) := by
    decide +kernel
  exact ⟨⟨hsession, hopen, henter, hstay, hleave⟩,
    (main_kept_behind_alternate "kept" config default before session hsession).2 _ _ _ _ _ _ hopen
      henter rfl hstay hleave rfl⟩

end Terminal

end GlassTty
