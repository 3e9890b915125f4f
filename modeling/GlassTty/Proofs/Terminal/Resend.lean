import GlassTty.Proofs.Terminal.Lines
import GlassTty.Proofs.Terminal.Requests

/-!
# Everything is told again

A viewer that has lost what it was told asks for all of it, and the next update answers. Between the
request and the answer much may happen: lines come and others are evicted for them, an entry is
taken back, the screens become blank or another one is shown, another request is made. Still the
answer tells all that is there (`GlassTty.Terminal.everything`): each row that is shown, and each
line of the scrollback, as they are by then. This is so wherever the next update comes from, also
from a payload in the midst of output (`GlassTty.Terminal.reconnect_tells_everything`).

The request only sets the number back that says how many lines were told. What makes it enough is
that, until lines are told again, as many of them are left to tell as there are, whatever becomes of
them (`GlassTty.Scrollback.Untold`). A terminal that has been asked stays so up to the next update
(`GlassTty.Terminal.Awaits`).

Once it was told, everything can be told again, and is the same unless something is written or done
in between (`GlassTty.Terminal.SameContent`). An update moves rows into the scrollback before it
tells them, but the newest prompt is at the top after that and the next update moves none.
-/

namespace GlassTty

/-! ### All lines are left to tell -/

namespace Scrollback

/-- **All lines that are kept are left to tell.** -/
structure Untold (s : Scrollback) : Prop extends Counted s, InOrder s where
  all : s.unreported = s.lines.length

namespace Untold

variable {s : Scrollback}

/-- After a rewind all lines are left to tell, even if they were told before. -/
theorem rewind (hcounted : s.Counted) (horder : s.InOrder) : s.rewind.Untold where
  toCounted := hcounted.operate .rewind
  toInOrder := horder.operate .rewind
  all := unreported_rewind hcounted

/-- **They are until some are told**, whatever comes or goes. -/
theorem operate (h : s.Untold) {operation : Operation} (hquiet : operation.tells = false) :
    (s.operate operation).Untold where
  toCounted := h.toCounted.operate operation
  toInOrder := h.toInOrder.operate operation
  all := by
    cases operation with
    | beginEntry => exact h.all
    | push line =>
      have hlength := s.length_push_le (s.ofNewest line)
      refine (unreported_push h.toCounted h.fits _).trans ?_
      rw [h.all]
      exact min_eq_right hlength
    | takeUnreported => cases hquiet
    | rewind => exact unreported_rewind h.toCounted
    | clearLast guard =>
      have hlength := (s.lines_clearLast_prefix guard).length_le
      refine (unreported_clearLast h.toCounted guard).trans ?_
      rw [h.all]
      exact Nat.sub_sub_self hlength
    | clear => rfl

/-- **So a report tells them all.** -/
theorem takeUnreported_eq (h : s.Untold) : s.takeUnreported.1 = s.lines := by
  rw [takeUnreported, h.all, Nat.sub_self, List.drop_zero]

end Untold

end Scrollback

/-! ### All rows -/

namespace Reporter

variable {r r' : Reporter} {view : LiveView}

/-- The rows that are shown, from the first to the last, each as it is told. -/
def shownRows (r : Reporter) (view : LiveView) : List ChangedRow :=
  (List.range view.rowCount).filterMap fun row => (view.screen.row? row).map (r.toldRow row)

/-- An update of everything tells them all. -/
theorem changedRows_of_needsFull (hfull : r.needsFull view = true)
    (hrows : view.rowCount ≤ view.screen.height) : r.changedRows view = r.shownRows view := by
  rw [changedRows_eq, min_eq_left hrows, shownRows]
  refine List.filterMap_congr fun row _ => ?_
  cases view.screen.row? row with
  | none => rfl
  | some live =>
    have htells : r.tells view (r.compared view) row live = true := by rw [tells, hfull]; rfl
    exact if_pos htells

/-- **Each row is there once**, and they are in their order. -/
theorem map_row_shownRows (r : Reporter) (hrows : view.rowCount ≤ view.screen.height) :
    (r.shownRows view).map (·.row) = List.range view.rowCount := by
  rw [shownRows, List.map_filterMap]
  refine Eq.trans (List.filterMap_congr fun row hrow => ?_) (List.filterMap_some)
  obtain ⟨live, hlive⟩ : ∃ live, view.screen.row? row = some live :=
    ⟨_, Array.getElem?_eq_getElem ((List.mem_range.mp hrow).trans_le hrows)⟩
  rw [hlive]
  rfl

/-- How rows are told is a matter of the prompt that is looked for. -/
theorem shownRows_congr (hprompt : r'.prompt = r.prompt) (view : LiveView) :
    r'.shownRows view = r.shownRows view := by
  unfold shownRows toldRow promptOffset
  rw [hprompt]

end Reporter

namespace Terminal

variable {t u v : Terminal} {id : String}

/-- **An update of everything**: each row that is shown and each line of the scrollback. -/
def everything (t : Terminal) : RowUpdate :=
  t.rowUpdate
    { fullUpdate := true
      rows := t.reporter.shownRows t.view
      scrollback := t.scrollback.lines }

theorem rowCount_view (t : Terminal) :
    t.view.rowCount = if t.altMode then t.height else t.activeRows := by
  rw [LiveView.rowCount, isSome_alt_view]
  rfl

/-- All rows that are shown are on the screen. -/
theorem InBounds.rowCount_le (h : t.InBounds) : t.view.rowCount ≤ t.view.screen.height := by
  rw [rowCount_view, screen_view, screen]
  split
  · exact (Screen.hasSize_iff.mp h.alt).2.ge
  · exact h.activeRows.trans (Screen.hasSize_iff.mp h.main).2.ge

/-- What an update tells comes behind what is there for the viewer already. -/
theorem events_update (t : Terminal) :
    t.update.events = t.events ++ [.rowUpdate (t.pendingReconnect.getD "") t.tidy.told] :=
  congrArg Surroundings.events (surroundings_update t)

/-- So does what is told where a payload ends, with what the payload has come to. -/
theorem events_next {m : Moment} (htold : m.endsPayload = true) :
    ∃ event, m.next.1.events = m.terminal.events ++
      [.rowUpdate (m.terminal.pendingReconnect.getD "") m.closed.tidy.told, .directive event] := by
  obtain ⟨parser, event, hnext⟩ := m.does_next.eq_of_endsPayload htold
  refine ⟨event, ?_⟩
  have hevents : m.next.1.events = m.closed.update.events ++ [.directive event] := by
    rw [hnext]
    rfl
  rw [hevents, events_update, List.append_assoc]
  rfl

/-! ### A request that waits -/

/-- **The terminal has been asked to tell everything**, and the next update will answer. -/
structure Awaits (t : Terminal) (id : String) : Prop where
  pending : t.pendingReconnect = some id
  full : t.reporter.fullUpdate = true
  untold : t.scrollback.Untold

namespace Awaits

theorem reconnect (hcounted : t.scrollback.Counted) (horder : t.scrollback.InOrder) (id : String) :
    (t.reconnect id).Awaits id :=
  ⟨rfl, rfl, .rewind hcounted horder⟩

theorem of_tellsNothing (h : t.Awaits id) (hsilent : t.TellsNothing u) (hadds : t.AddsLines u) :
    u.Awaits id where
  pending := hsilent.pending.trans h.pending
  full := (congrArg Reporter.fullUpdate hsilent.reporter).trans h.full
  untold := hadds.keeps
    (fun _ _ hkind hs => hs.operate (Scrollback.Operation.tells_of_adds hkind)) h.untold

theorem tidy (h : t.Awaits id) : t.tidy.Awaits id :=
  h.of_tellsNothing (.tidy t) (.tidy t)

/-- A byte that ends no payload leaves the request waiting. -/
theorem next {m : Moment} (h : m.terminal.Awaits id) (htold : m.endsPayload = false) :
    m.next.1.Awaits id :=
  h.of_tellsNothing (m.does_next.tellsNothing htold) (.does m.does_next htold)

/-- **The answer tells everything.** -/
theorem told_eq (h : t.Awaits id) (hbounds : t.InBounds) : t.told = t.everything := by
  have hfull : t.reporter.needsFull t.view = true := by rw [Reporter.needsFull, h.full]; rfl
  have hlines : t.reporter.scrollback.takeUnreported.1 = t.scrollback.lines :=
    h.untold.takeUnreported_eq
  rw [told, everything, Reporter.update]
  dsimp only
  rw [hfull, hlines, Reporter.changedRows_of_needsFull hfull hbounds.rowCount_le]

theorem events_update (h : t.Awaits id) (hvalid : t.Valid) :
    t.update.events = t.events ++ [.rowUpdate id t.tidy.everything] := by
  rw [Terminal.events_update, h.pending, h.tidy.told_eq hvalid.tidy.toInBounds]
  rfl

end Awaits

/-! ### The next update -/

/-- What the viewer is told is not taken back by what is written. -/
theorem events_prefix_interpret (t : Terminal) (files : FileSystem) (bytes : Bytes) :
    t.events <+: (t.interpret files bytes).1.events := by
  refine interpret_of_moments (P := fun u _ _ => t.events <+: u.events) (fun m _ h => ?_)
    List.prefix_rfl
  refine h.trans ?_
  cases htold : m.endsPayload with
  | false =>
    have hevents : m.next.1.events = m.terminal.events := (m.does_next.tellsNothing htold).events
    simp only [hevents, List.prefix_rfl]
  | true =>
    obtain ⟨event, hevents⟩ := events_next htold
    rw [hevents]
    exact List.prefix_append _ _

/-- The first update that is made within output answers the request. -/
theorem Awaits.exists_events_interpret {files : FileSystem} {bytes : Bytes} {rest : List Terminal}
    (h : t.Awaits id) (hvalid : t.Valid)
    (hfirst : ((t.moments files bytes).filter (·.endsPayload)).map (·.closed.tidy) = v :: rest) :
    v.InBounds ∧ ∃ more,
      (t.interpret files bytes).1.events = t.events ++ .rowUpdate id v.everything :: more := by
  induction bytes generalizing t files with
  | nil => cases hfirst
  | cons byte bytes ih =>
    set m : Moment := ⟨t, files, byte, bytes⟩
    have hinterpret : t.interpret files (byte :: bytes) = m.next.1.interpret m.next.2 bytes := by
      rw [show byte :: bytes = [byte] ++ bytes from rfl, interpret_append]
      rfl
    have hmoments : t.moments files (byte :: bytes) = m :: m.next.1.moments m.next.2 bytes := rfl
    rw [hinterpret]
    rw [hmoments] at hfirst
    cases htold : m.endsPayload with
    | false =>
      -- the update is made further on, and up to there the request waits
      rw [List.filter_cons_of_neg (by simp [htold])] at hfirst
      have hevents : m.next.1.events = t.events := (m.does_next.tellsNothing htold).events
      rw [← hevents]
      exact ih (Awaits.next (m := m) h htold) (hvalid.interpret files [byte]) hfirst
    | true =>
      rw [List.filter_cons_of_pos htold, List.map_cons] at hfirst
      obtain rfl : m.closed.tidy = v := (List.cons.inj hfirst).1
      have hclosed : m.closed.Awaits id := ⟨h.pending, h.full, h.untold⟩
      have hvalid' : m.closed.Valid := ⟨{ hvalid with }, hvalid.cursor_active⟩
      have htells := hclosed.tidy.told_eq hvalid'.tidy.toInBounds
      obtain ⟨event, hevents⟩ := events_next htold
      -- what comes of the other bytes is told behind that
      obtain ⟨more, hmore⟩ := events_prefix_interpret m.next.1 m.next.2 bytes
      refine ⟨hvalid'.tidy.toInBounds, .directive event :: more, ?_⟩
      rw [← hmore, hevents, htells, List.append_assoc]
      exact congrArg (fun pending : Option String =>
        t.events ++ .rowUpdate (pending.getD "") _ :: .directive event :: more) h.pending

/-- **The first update that an operation makes answers the request.** -/
theorem Awaits.exists_events_operate {files : FileSystem} {operation : Operation}
    {rest : List Terminal} (h : t.Awaits id) (hvalid : t.Valid)
    (hfirst : t.reportedOf files operation = v :: rest) :
    v.InBounds ∧ ∃ more, (t.operate files operation).1.events =
      t.events ++ .rowUpdate id v.everything :: more := by
  cases operation with
  | write bytes =>
    change v.InBounds ∧ ∃ more, (t.write files bytes).1.events = _
    rw [write]
    split
    · next hempty =>
      rw [List.isEmpty_iff.mp hempty] at hfirst
      cases hfirst
    · have hmarked : (t.marked true).Awaits id := ⟨h.pending, h.full, h.untold⟩
      exact hmarked.exists_events_interpret ⟨{ hvalid with }, hvalid.cursor_active⟩ hfirst
  | update =>
    obtain rfl : t.tidy = v := (List.cons.inj hfirst).1
    exact ⟨hvalid.tidy.toInBounds, [], h.events_update hvalid⟩
  | _ => cases hfirst

/-! ### Up to the next update -/

/-- The name of the request that an operation makes. -/
def Operation.request? : Operation → Option String
  | .reconnect responseId => some responseId
  | _ => none

/-- **The newest request**, that of the name `first` having come before the operations. -/
def newestRequest (first : String) (operations : List Operation) : String :=
  (operations.filterMap Operation.request?).getLastD first

namespace Awaits

theorem clearLast (h : t.Awaits id) (guard : Option Nat) :
    (t.clearLast guard).pendingReconnect = some id ∧
      (t.clearLast guard).reporter.fullUpdate = true := by
  rw [Terminal.clearLast, clearLast?]
  cases t.reporter.clearLast? guard with
  | none => exact ⟨h.pending, h.full⟩
  | some reporter => exact ⟨h.pending, rfl⟩

/-- **Without an update a request waits**, or a newer one in its place. -/
theorem operate (h : t.Awaits id) (files : FileSystem) {operation : Operation}
    (hquiet : t.reportedOf files operation = []) :
    (t.operate files operation).1.Awaits (operation.request?.getD id) := by
  have huntold : (t.operate files operation).1.scrollback.Untold := by
    refine (t.reaches_operate files operation).keeps (fun s change htells hs => ?_) h.untold
    exact hs.operate (Bool.eq_false_iff.mpr fun hyes => htells hyes hquiet)
  cases operation with
  | write bytes =>
    have hnone : ∀ m ∈ (t.marked true).moments files bytes, m.endsPayload = false := by
      simpa [reportedOf] using hquiet
    change (t.write files bytes).1.Awaits id
    rw [write]
    split
    · exact h
    · exact interpret_of_moments (P := fun u _ _ => u.Awaits id)
        (fun m hm hawaits => hawaits.next (hnone m hm)) ⟨h.pending, h.full, h.untold⟩
  | update => cases hquiet
  | reconnect responseId => exact ⟨rfl, rfl, huntold⟩
  | resize height width => exact h.of_tellsNothing (.resize t _ _) (.resize t _ _)
  | clear =>
    have hcleared : t.clear.pendingReconnect = some id ∧ t.clear.reporter.fullUpdate = true := by
      rw [Terminal.clear]
      split <;> exact ⟨h.pending, rfl⟩
    exact ⟨hcleared.1, hcleared.2, huntold⟩
  | clearLast guard => exact ⟨(h.clearLast guard).1, (h.clearLast guard).2, huntold⟩
  | clickPaste click setting fallback =>
    have hclicked := clickPaste_induction
      (P := fun u => u.pendingReconnect = some id ∧ u.reporter.fullUpdate = true) files click
      setting fallback ⟨h.pending, h.full⟩ h.clearLast
    exact ⟨hclicked.1, hclicked.2, huntold⟩
  | _ => exact ⟨h.pending, h.full, huntold⟩

theorem run (h : t.Awaits id) (files : FileSystem) {operations : List Operation}
    (hquiet : t.reportedOfRun files operations = []) :
    (t.run files operations).1.Awaits (newestRequest id operations) := by
  induction operations generalizing t files id with
  | nil => exact h
  | cons operation rest ih =>
    obtain ⟨hfirst, hrest⟩ := List.append_eq_nil_iff.mp hquiet
    have hnewest : newestRequest id (operation :: rest) =
        newestRequest (operation.request?.getD id) rest := by
      rw [newestRequest, List.filterMap_cons]
      cases operation.request? with
      | none => rfl
      | some newer => exact List.getLastD_cons
    rw [hnewest]
    exact ih (h.operate files hfirst) _ hrest

end Awaits

/-! ### Once more -/

/-- **The same is there to be told** in `t` and `u`. -/
structure SameContent (t u : Terminal) : Prop where
  view : u.view = t.view
  prompt : u.reporter.prompt = t.reporter.prompt
  lines : u.scrollback.lines = t.scrollback.lines

namespace SameContent

theorem trans (h : t.SameContent u) (h' : u.SameContent v) : t.SameContent v :=
  ⟨h'.view.trans h.view, h'.prompt.trans h.prompt, h'.lines.trans h.lines⟩

theorem everything_eq (h : t.SameContent u) : u.everything = t.everything := by
  have hupdate : ∀ v : Terminal, v.everything =
      { altMode := v.view.alt.isSome
        fullUpdate := true
        activeRows := v.view.activeRows
        width := v.view.width
        height := v.view.height
        cursorCol := v.view.cursorCol
        cursorRow := v.view.cursorRow
        promptOffset := (v.reporter.prompt.map PromptFormat.leadLength).getD 0
        rows := v.reporter.shownRows v.view
        scrollback := v.scrollback.lines } := by
    intro v
    rw [isSome_alt_view]
    rfl
  rw [hupdate, hupdate, h.view, h.prompt, h.lines, Reporter.shownRows_congr h.prompt]

/-- With the newest prompt at the top, updates and requests keep the content, unless they ask for
something else to be there. -/
theorem operate (htop : t.altMode = false → t.lastPromptRow = 0) (files : FileSystem)
    {operation : Operation} (hwrite : operation.isWrite = false)
    (hkeep : operation.alters = false) : t.SameContent (t.operate files operation).1 := by
  cases operation with
  | write bytes => cases hwrite
  | update =>
    change t.SameContent t.tidy.report
    rw [tidy_eq_self htop]
    exact ⟨rfl, rfl, rfl⟩
  | resize height width => cases hkeep
  | clear => cases hkeep
  | clearLast guard => cases hkeep
  | clickPaste click setting fallback => cases hkeep
  | _ => exact ⟨rfl, rfl, rfl⟩

theorem run (htop : t.altMode = false → t.lastPromptRow = 0) (files : FileSystem)
    {operations : List Operation}
    (hsame : ∀ operation ∈ operations, operation.isWrite = false ∧ operation.alters = false) :
    t.SameContent (t.run files operations).1 := by
  induction operations generalizing t files with
  | nil => exact ⟨rfl, rfl, rfl⟩
  | cons operation rest ih =>
    obtain ⟨hwrite, hkeep⟩ := hsame operation List.mem_cons_self
    have hfirst := operate htop files hwrite hkeep
    obtain ⟨halt, hnewest⟩ := lastPromptRow_congr hfirst.view hfirst.prompt
    refine hfirst.trans (ih ?_ _ fun other hother => hsame other (List.mem_cons_of_mem _ hother))
    rw [halt, hnewest]
    exact htop

end SameContent

/-- **With the newest prompt at the top everything is told as it is**, no row being moved. -/
theorem events_update_reconnect (hvalid : t.Valid) (hcounted : t.scrollback.Counted)
    (horder : t.scrollback.InOrder) (htop : t.altMode = false → t.lastPromptRow = 0) (id : String) :
    (t.reconnect id).update.events = t.events ++ [.rowUpdate id t.everything] := by
  have hasked : (t.reconnect id).Awaits id := .reconnect hcounted horder id
  have hvalid' : (t.reconnect id).Valid := ⟨{ hvalid with }, hvalid.cursor_active⟩
  have hsame : t.SameContent (t.reconnect id) := ⟨rfl, rfl, rfl⟩
  have htidy : (t.reconnect id).tidy = t.reconnect id := tidy_eq_self htop
  rw [hasked.events_update hvalid', htidy, hsame.everything_eq]
  rfl

/-- **A request is answered with everything.** Let a terminal be asked to tell everything, whatever
it has gone through, and let anything be done with it then but no update be made. Then the next
update, be it asked for or made within output, answers the newest request that there was by then,
and tells each row that is shown, once and in order, and all lines of the scrollback.

If an update is asked for, and then everything once more with nothing written or changed in between,
the same is told again. -/
theorem reconnect_tells_everything (name : String) (config : TerminalConfig) (files : FileSystem)
    (before : List Operation) (id : String) (after : List Operation)
    (hwidth : config.width ≤ maxWord) (hheight : config.height ≤ maxWord) :
    let t := (new name config).run files before
    let u := (t.1.reconnect id).run t.2 after
    (t.1.reconnect id).reportedOfRun t.2 after = [] →
    (∀ operation v rest, u.1.reportedOf u.2 operation = v :: rest →
      v.everything.rows.map (·.row) = List.range (if v.altMode then v.height else v.activeRows) ∧
        ∃ more, (u.1.operate u.2 operation).1.events =
          u.1.events ++ .rowUpdate (newestRequest id after) v.everything :: more) ∧
    ∀ between again,
      (∀ operation ∈ between, operation.isWrite = false ∧ operation.alters = false) →
      let w := (u.1.update.run u.2 between).1
      (w.reconnect again).update.events =
        w.events ++ [.rowUpdate again u.1.tidy.everything] := by
  intro t u hquiet
  have hnew := valid_new name hwidth hheight
  have hasked : (t.1.reconnect id).Awaits id :=
    .reconnect (counted_run files name config before) (inOrder_run files name config before) id
  have hvalid : u.1.Valid :=
    ((hnew.run files before).operate t.2 (.reconnect id)).run t.2 after
  have hawaits : u.1.Awaits (newestRequest id after) := hasked.run t.2 hquiet
  constructor
  · intro operation v rest hfirst
    obtain ⟨hbounds, hevents⟩ := hawaits.exists_events_operate hvalid hfirst
    refine ⟨?_, hevents⟩
    rw [← rowCount_view]
    exact v.reporter.map_row_shownRows hbounds.rowCount_le
  · intro between again hsame w
    have hw : w = ((new name config).run files
        (before ++ .reconnect id :: (after ++ .update :: between))).1 := by
      rw [run_append]
      exact (congrArg Prod.fst (run_append _ _ after (.update :: between))).symm
    have htop := (settled_update hvalid.toInBounds).prompt
    have hupdate : u.1.tidy.SameContent u.1.update := ⟨rfl, rfl, rfl⟩
    have hcontent : u.1.tidy.SameContent w := hupdate.trans (.run htop u.2 hsame)
    obtain ⟨halt, hnewest⟩ := lastPromptRow_congr hcontent.view hcontent.prompt
    have htop' : w.altMode = false → w.lastPromptRow = 0 := by
      rw [halt, hnewest]
      exact htop
    have hvalid' : w.Valid := hvalid.update.run u.2 between
    -- it is reachable too, so that its lines are in order
    rw [events_update_reconnect hvalid' (hw ▸ counted_run files name config _)
      (hw ▸ inOrder_run files name config _) htop', hcontent.everything_eq]

/-- Of the lines that were told one entry is evicted behind the request and the other is taken back.
Three come with another command line, of which the update moves one more to them, and one entry is
evicted again. A second request is made on the way, and two more behind the update. -/
theorem reconnect_tells_everything_evicted :
    let config : TerminalConfig :=
      { width := 4, height := 3, cookie := "", prompt := some ⟨"%", "", "$"⟩, maxScrollLines := 3 }
    let before : List Operation :=
      [.write (utf8Bytes "%$a\r\n1\r\n%$b\r\n2"), .update, .write (utf8Bytes "\r\n%$c\r\n3")]
    let after : List Operation :=
      [.write (utf8Bytes "\r\n%$d"), .reconnect "two", .clearLast none,
        .write (utf8Bytes "\r\n4\r\n%$e\r\n5")]
    let between : List Operation := [.drainEvents, .reconnect "three", .update]
    let t := (new "again" config).run default before
    let u := (t.1.reconnect "one").run t.2 after
    let w := (u.1.update.run u.2 between).1
    ((config.width ≤ maxWord ∧ config.height ≤ maxWord) ∧
        (t.1.reconnect "one").reportedOfRun t.2 after = [] ∧
        u.1.reportedOf u.2 .update = [u.1.tidy] ∧
        ∀ operation ∈ between, operation.isWrite = false ∧ operation.alters = false) ∧
      u.1.tidy.everything.scrollback.map (·.line) = ["%$d", "4"] ∧
      (u.1.tidy.everything.rows.map (·.row) =
          List.range (if u.1.tidy.altMode then u.1.tidy.height else u.1.tidy.activeRows) ∧
        ∃ more, (u.1.operate u.2 .update).1.events =
          u.1.events ++ .rowUpdate (newestRequest "one" after) u.1.tidy.everything :: more) ∧
      (w.reconnect "four").update.events =
        w.events ++ [.rowUpdate "four" u.1.tidy.everything] := by
  intro config before after between t u w
  have hnone : ((t.1.reconnect "one").reportedOfRun t.2 after).isEmpty = true := by decide +kernel
  have hquiet := List.isEmpty_iff.mp hnone
  have hsame : ∀ operation ∈ between, operation.isWrite = false ∧ operation.alters = false := by
    simp [between, Operation.isWrite, Operation.alters]
  have hlines : u.1.tidy.everything.scrollback.map (·.line) = ["%$d", "4"] := by decide +kernel
  obtain ⟨hnext, hagain⟩ := reconnect_tells_everything "again" config default before "one" after
    (by decide) (by decide) hquiet
  exact ⟨⟨by decide, hquiet, rfl, hsame⟩, hlines, hnext .update _ [] rfl,
    hagain between "four" hsame⟩

end Terminal

end GlassTty
