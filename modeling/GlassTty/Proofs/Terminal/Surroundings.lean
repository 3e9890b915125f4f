import GlassTty.Proofs.Directive.Opening
import GlassTty.Terminal.Write

/-!
# What stands around the screens

Actions change what is shown, what has left the screen and what is sent to the program. Everything
else about a terminal stands around that (`GlassTty.Surroundings`): its name and secret, its limits,
the parser, the directive that is collected, and what is told to the viewer.

An action neither looks at these things nor changes them, but for two: an opening looks at the
cookie and the limit and puts a directive there, a full reset takes it away and says that an update
is due (`GlassTty.Surroundings.after`). So a terminal may be put into other surroundings before an
action or after it (`GlassTty.Terminal.perform_within`), and its own are what they were
(`GlassTty.Terminal.surroundings_perform`).

An update looks at the request it answers and adds to what is told
(`GlassTty.Terminal.update_within`). Where a directive ends it is taken away, and its result is told
behind an update, or there is nothing to tell (`GlassTty.Terminal.finish_eq`).
-/

namespace GlassTty

/-- What an action leaves alone. -/
structure Surroundings where
  name : String
  cookie : String
  maxDirectiveBytes : Nat
  maxFileBytes : Nat
  parser : Parser
  directive : Option DirectiveBuffer
  events : List TerminalEvent
  needsUpdating : Bool
  pendingReconnect : Option String
  extractor : TextExtractor

/-- What is settled when a terminal is made. -/
structure Setup where
  cookie : String
  maxDirectiveBytes : Nat
  maxFileBytes : Nat

namespace Surroundings

/-- What is settled once and for all. -/
def setup (s : Surroundings) : Setup where
  cookie := s.cookie
  maxDirectiveBytes := s.maxDirectiveBytes
  maxFileBytes := s.maxFileBytes

/-- **The surroundings after an action**, with the alternate screen shown or not. -/
def after (s : Surroundings) (altMode : Bool) (action : Action) : Surroundings :=
  match Opening.ofAction? action with
  | some opening =>
    if altMode then s
    else { s with directive := some (opening.buffer s.cookie s.maxDirectiveBytes) }
  | none =>
    match action with
    | .fullReset => { s with directive := none, needsUpdating := true }
    | _ => s

/-- With no directive open, one is open after an opening on the main screen and at no other time. -/
theorem directive_after {s : Surroundings} (h : s.directive = none) (altMode : Bool)
    (action : Action) :
    (s.after altMode action).directive =
      if altMode then none
      else (Opening.ofAction? action).map (·.buffer s.cookie s.maxDirectiveBytes) := by
  unfold after
  cases Opening.ofAction? action with
  | some opening =>
    cases altMode with
    | true => exact h
    | false => rfl
  | none =>
    rw [Option.map_none, ite_self]
    dsimp only
    split
    · rfl
    · exact h

/-- An action changes neither the setup nor the parser, and tells the viewer nothing. -/
theorem frame_after (s : Surroundings) (altMode : Bool) (action : Action) :
    (s.after altMode action).setup = s.setup ∧ (s.after altMode action).parser = s.parser ∧
      (s.after altMode action).events = s.events := by
  unfold after
  split
  · split <;> exact ⟨rfl, rfl, rfl⟩
  · split <;> exact ⟨rfl, rfl, rfl⟩

/-- The surroundings after an update that tells `update`. -/
def told (s : Surroundings) (update : RowUpdate) : Surroundings :=
  { s with
    needsUpdating := false
    pendingReconnect := none
    events := s.events ++ [.rowUpdate (s.pendingReconnect.getD "") update] }

end Surroundings

namespace Terminal

/-- What stands around the screens of a terminal. -/
def surroundings (t : Terminal) : Surroundings where
  name := t.name
  cookie := t.cookie
  maxDirectiveBytes := t.maxDirectiveBytes
  maxFileBytes := t.maxFileBytes
  parser := t.parser
  directive := t.directive
  events := t.events
  needsUpdating := t.needsUpdating
  pendingReconnect := t.pendingReconnect
  extractor := t.extractor

/-- What was settled when the terminal was made. -/
def setup (t : Terminal) : Setup :=
  t.surroundings.setup

/-- The terminal in other surroundings. -/
def within (t : Terminal) (s : Surroundings) : Terminal :=
  { t with
    name := s.name
    cookie := s.cookie
    maxDirectiveBytes := s.maxDirectiveBytes
    maxFileBytes := s.maxFileBytes
    parser := s.parser
    directive := s.directive
    events := s.events
    needsUpdating := s.needsUpdating
    pendingReconnect := s.pendingReconnect
    extractor := s.extractor }

section Within

variable (t : Terminal) (s : Surroundings)

theorem ite_within (p : Prop) [Decidable p] (t u : Terminal) :
    (if p then t else u).within s = if p then t.within s else u.within s :=
  apply_ite (within · s) p t u

theorem mapScreen_within (change : Screen → Screen) :
    (t.within s).mapScreen change = (t.mapScreen change).within s := by
  unfold mapScreen
  rw [ite_within]
  rfl

theorem touchCursorRow_within : (t.within s).touchCursorRow = t.touchCursorRow.within s := by
  unfold touchCursorRow
  rw [ite_within]
  rfl

theorem foldl_scrollOff_within (rows : List Nat) :
    rows.foldl scrollOff (t.within s) = (rows.foldl scrollOff t).within s := by
  induction rows generalizing t with
  | nil => rfl
  | cons row rows ih => exact ih (t.scrollOff row)

theorem scrollRows_within (count : Nat) :
    (t.within s).scrollRows count = (t.scrollRows count).within s := by
  unfold scrollRows
  rw [ite_within, foldl_scrollOff_within]
  rfl

theorem scrollToPrompt_within : (t.within s).scrollToPrompt = t.scrollToPrompt.within s :=
  scrollRows_within t s t.lastPromptRow

theorem cursorDown_within : (t.within s).cursorDown = t.cursorDown.within s := by
  have hsave : (t.within s).saveTopRow = t.saveTopRow.within s := by
    unfold saveTopRow
    rw [ite_within]
    rfl
  have hscroll : (t.within s).scrollRegionUp = t.scrollRegionUp.within s := by
    rw [scrollRegionUp, hsave, mapScreen_within]
    rfl
  have hfeed : (t.within s).feedLine = t.feedLine.within s := by
    unfold feedLine
    rw [hscroll, ite_within, ite_within]
    rfl
  rw [cursorDown, hfeed]
  exact touchCursorRow_within t.feedLine.settle s

theorem reverseIndex_within : (t.within s).reverseIndex = t.reverseIndex.within s := by
  have hback : (t.within s).backLine = t.backLine.within s := by
    unfold backLine
    rw [mapScreen_within, ite_within]
    rfl
  rw [reverseIndex, hback]
  exact touchCursorRow_within t.backLine.settle s

theorem print_within (char : Char) : (t.within s).print char = (t.print char).within s := by
  have hmark : ∀ (u : Terminal) (mark : Option PromptMark),
      (u.within s).markRow mark = (u.markRow mark).within s := by
    rintro u (_ | mark) <;> rfl
  have hwrap : (t.within s).wrap = t.wrap.within s := by
    unfold wrap
    rw [cursorDown_within, ite_within, ← hmark]
    rfl
  have hput : ∀ u : Terminal, (u.within s).putChar char = (u.putChar char).within s :=
    fun u => mapScreen_within u s _
  rw [print, hwrap, hput]
  exact touchCursorRow_within ((t.wrap.putChar char).withCursor _) s

theorem eraseInDisplay_within (mode : Nat) :
    (t.within s).eraseInDisplay mode = (t.eraseInDisplay mode).within s := by
  unfold eraseInDisplay
  simp only [mapScreen_within]
  split
  · rw [ite_within]
    rfl
  · rw [ite_within]
    rfl
  all_goals rfl

theorem eraseInLine_within (mode : Nat) :
    (t.within s).eraseInLine mode = (t.eraseInLine mode).within s := by
  unfold eraseInLine
  simp only [mapScreen_within]
  split <;> rfl

theorem setAltMode_within (enable : Bool) :
    (t.within s).setAltMode enable = (t.setAltMode enable).within s := by
  cases enable <;> rfl

/-- An opening is the one thing that looks at the cookie. -/
theorem openDirective_within (opening : Opening) :
    (t.within s).openDirective opening.code opening.presented =
      (t.openDirective opening.code opening.presented).within
        (if t.altMode then s
          else { s with directive := some (opening.buffer s.cookie s.maxDirectiveBytes) }) := by
  unfold openDirective
  rw [show (t.within s).altMode = t.altMode from rfl]
  cases t.altMode with
  | true => rfl
  | false =>
    rw [scrollRows_within]
    obtain ⟨code | code, presented⟩ := opening <;> rfl

/-- Resetting a mode opens nothing. -/
theorem resetMode_within (params : List Nat) :
    (t.within s).setMode params false = (t.setMode params false).within s := by
  unfold setMode
  simp only [setAltMode_within]
  cases params with
  | nil => rfl
  | cons mode rest =>
    dsimp only
    rw [ite_within]
    cases DirectiveCode.ofMode? mode <;> rfl

end Within

/-- The modes that open a directive show no other screen. -/
theorem perform_opening (t : Terminal) {action : Action} {opening : Opening}
    (h : Opening.ofAction? action = some opening) :
    t.perform action = t.openDirective opening.code opening.presented := by
  cases action with
  | setMode params =>
    cases params with
    | nil => cases h
    | cons mode rest =>
      obtain ⟨code, hcode, rfl⟩ := Option.map_eq_some_iff.mp h
      have hmode : alternateModes.contains mode = false := by
        unfold DirectiveCode.ofMode? at hcode
        split at hcode
        · next heq => rw [heq]; rfl
        · split at hcode
          · next heq => rw [heq]; rfl
          · cases hcode
      change t.setMode (mode :: rest) true = _
      unfold setMode
      dsimp only
      rw [hmode, if_neg Bool.false_ne_true, hcode]
      rfl
  | _ => cases h

/-- Setting any other mode opens nothing. -/
theorem setMode_within (t : Terminal) (s : Surroundings) {params : List Nat}
    (h : Opening.ofAction? (.setMode params) = none) :
    (t.within s).setMode params true = (t.setMode params true).within s := by
  unfold setMode
  cases params with
  | nil => rfl
  | cons mode rest =>
    have hcode : DirectiveCode.ofMode? mode = none := Option.map_eq_none_iff.mp h
    dsimp only
    rw [hcode, setAltMode_within, ite_within]

/-- **What an action does not look at makes no difference to it.** -/
theorem perform_within (t : Terminal) (s : Surroundings) (action : Action) :
    (t.within s).perform action = (t.perform action).within (s.after t.altMode action) := by
  cases action with
  | print char => exact print_within t s char
  | lineFeed => exact cursorDown_within t s
  | index => exact cursorDown_within t s
  | nextLine => exact congrArg toFirstCol (cursorDown_within t s)
  | reverseIndex => exact reverseIndex_within t s
  | restoreCursor => exact touchCursorRow_within (t.withCursor _) s
  | insertBlanks count => exact mapScreen_within t s _
  | cursorDown count => exact touchCursorRow_within (t.withCursor _) s
  | cursorNextLine count => exact congrArg toFirstCol (touchCursorRow_within (t.withCursor _) s)
  | cursorRow row => exact touchCursorRow_within (t.withCursor _) s
  | cursorPosition row col => exact touchCursorRow_within (t.withCursor _) s
  | eraseInDisplay mode => exact eraseInDisplay_within t s mode
  | eraseInLine mode => exact eraseInLine_within t s mode
  | insertLines count => exact mapScreen_within t s _
  | deleteLines count => exact mapScreen_within t s _
  | deleteChars count => exact mapScreen_within t s (·.deleteChars _ _ count)
  | eraseChars count => exact mapScreen_within t s (·.eraseChars _ _ count)
  | setScrollRegion top bottom =>
    unfold perform
    dsimp only
    rw [show (t.within s).height = t.height from rfl]
    cases ScrollRegion.ofRequest? top bottom t.height <;> rfl
  | setMode params =>
    cases hopening : Opening.ofAction? (.setMode params) with
    | some opening =>
      rw [perform_opening _ hopening, perform_opening _ hopening, openDirective_within]
      simp only [Surroundings.after, hopening]
    | none =>
      refine (setMode_within t s hopening).trans ?_
      simp only [Surroundings.after, hopening]
      rfl
  | resetMode params => exact resetMode_within t s params
  | _ => rfl

/-- **The surroundings after an action** are those before it, but for an opening and a full
reset. -/
theorem surroundings_perform (t : Terminal) (action : Action) :
    (t.perform action).surroundings = t.surroundings.after t.altMode action :=
  congrArg surroundings (perform_within t t.surroundings action)

/-! ### Updates -/

/-- What an update tells of the terminal as it is. -/
def told (t : Terminal) : RowUpdate :=
  t.rowUpdate (t.reporter.update t.view).1

theorem tidy_within (t : Terminal) (s : Surroundings) : (t.within s).tidy = t.tidy.within s := by
  unfold tidy
  rw [scrollToPrompt_within, ite_within]
  rfl

/-- **An update in other surroundings** tells the same of the screen. -/
theorem update_within (t : Terminal) (s : Surroundings) :
    (t.within s).update = t.update.within (s.told t.tidy.told) := by
  rw [update, tidy_within]
  rfl

theorem surroundings_update (t : Terminal) :
    t.update.surroundings = t.surroundings.told t.tidy.told :=
  congrArg surroundings (update_within t t.surroundings)

/-! ### The end of a directive -/

/-- **What a payload comes to** that has ended: the event for the viewer, and the files. -/
def outcome (t : Terminal) (files : FileSystem) (buffer : DirectiveBuffer) :
    DirectiveEvent × FileSystem :=
  if buffer.overflowed then
    (Directive.overflowOutput buffer.validated t.maxDirectiveBytes, files)
  else
    Directive.interpret files (Utf8.lossy buffer.data.toList) buffer.validated t.maxFileBytes
      t.extractor

/-- The terminal behind a directive of which nothing is told: a prompt directive that names a
directory may mark a row. -/
def ended (t : Terminal) (buffer : DirectiveBuffer) : Terminal :=
  let directory := Utf8.lossyString buffer.data.toList
  if buffer.code = .payload ∨ directory.isEmpty then { t with directive := none }
  else ({ t with directive := none } : Terminal).expectPrompt directory

/-- **The two ends of a directive**: it is told, behind an update, or it is not. -/
theorem finish_eq (t : Terminal) (files : FileSystem) (buffer : DirectiveBuffer) :
    t.finish files buffer =
      if buffer.isTold then
        (({ t with directive := none } : Terminal).update.tell
            (.directive (t.outcome files buffer).1),
          (t.outcome files buffer).2)
      else (t.ended buffer, files) := by
  unfold finish DirectiveBuffer.isTold outcome ended
  cases buffer.code with
  | prompt => simp
  | payload =>
    cases buffer.overflowed with
    | true => simp
    | false =>
      cases buffer.data.isEmpty <;> simp

theorem ended_eq (t : Terminal) (buffer : DirectiveBuffer) :
    t.ended buffer = { t with directive := none } ∨
      ∃ directory,
        t.ended buffer = ({ t with directive := none } : Terminal).expectPrompt directory := by
  unfold ended
  dsimp only
  split
  · exact Or.inl rfl
  · exact Or.inr ⟨_, rfl⟩

theorem expectPrompt_within (t : Terminal) (s : Surroundings) (directory : String) :
    (t.within s).expectPrompt directory = (t.expectPrompt directory).within s := by
  unfold expectPrompt
  rw [ite_within]
  rfl

theorem ended_within (t : Terminal) (s : Surroundings) (buffer : DirectiveBuffer) :
    (t.within s).ended buffer = (t.ended buffer).within { s with directive := none } := by
  have hclosed := expectPrompt_within { t with directive := none } { s with directive := none }
    (Utf8.lossyString buffer.data.toList)
  unfold ended
  dsimp only
  rw [ite_within]
  split
  · rfl
  · exact hclosed

theorem surroundings_ended (t : Terminal) (buffer : DirectiveBuffer) :
    (t.ended buffer).surroundings = { t.surroundings with directive := none } := by
  have hwithin := congrArg surroundings (ended_within t t.surroundings buffer)
  exact hwithin

end Terminal

end GlassTty
