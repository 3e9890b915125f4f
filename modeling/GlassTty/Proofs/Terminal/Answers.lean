import GlassTty.Proofs.Terminal.Resend

/-!
# Which requests are answered

Several viewers may ask for everything before the next update comes. A terminal keeps one request
alone, the newest, so that an update answers that one, and those that came before it since the last
update are not answered (`GlassTty.Terminal.request_lost_behind_another`).

This is the only way for a request to be lost. Which requests are answered in a run is told by the
operations alone (`GlassTty.Terminal.answers`), and each of these has its answer, an update of
everything with the name of the request (`GlassTty.Terminal.Waits.filterMap_answer_newsOfRun`). So a
request that is followed by an update is answered unless another viewer asks in between
(`GlassTty.Terminal.request_answered`).

What is carried along is which request waits, if any does (`GlassTty.Terminal.Waits`). An update
that is made in the midst of output answers too, and with it no request waits any more.
-/

namespace GlassTty

namespace TerminalEvent

/-- The request that an event answers: it tells everything, and has the name of one. -/
def answer? : TerminalEvent → Option String
  | .rowUpdate responseId update =>
    if update.fullUpdate ∧ responseId ≠ "" then some responseId else none
  | .directive _ => none

theorem answer?_eq_some {e : TerminalEvent} {id : String} :
    e.answer? = some id ↔
      ∃ update, e = .rowUpdate id update ∧ update.fullUpdate = true ∧ id ≠ "" := by
  cases e with
  | directive event => simp [answer?]
  | rowUpdate responseId update =>
    simp only [answer?, Option.ite_none_right_eq_some, Option.some.injEq, rowUpdate.injEq]
    constructor
    · rintro ⟨⟨hfull, hname⟩, rfl⟩
      exact ⟨update, ⟨rfl, rfl⟩, hfull, hname⟩
    · rintro ⟨_, ⟨rfl, rfl⟩, hfull, hname⟩
      exact ⟨⟨hfull, hname⟩, rfl⟩

end TerminalEvent

open TerminalEvent (answer?)

namespace Surroundings

variable (s : Surroundings) {t : Terminal} (files : FileSystem) {operation : Terminal.Operation}

/-- The name of the request that waits is that of the newest, until an update is made. -/
theorem pending_afterRequest (hquiet : t.reportedOf files operation = []) :
    (s.afterRequest t files operation).pendingReconnect =
      (operation.request? <|> s.pendingReconnect) := by
  have hclear : ∀ guard, (s.afterClearLast t guard).pendingReconnect = s.pendingReconnect := by
    intro guard
    unfold afterClearLast
    split <;> rfl
  unfold afterRequest
  cases operation with
  | update => cases hquiet
  | resize height width =>
    dsimp only
    split <;> rfl
  | clearLast guard => exact hclear guard
  | clickPaste click setting fallback =>
    dsimp only
    split
    · exact hclear _
    · rfl
  | _ => rfl

/-- A request that asks for no update tells of files at most. -/
theorem answers_afterRequest (hquiet : t.reportedOf files operation = []) :
    ((s.afterRequest t files operation).events.drop s.events.length).filterMap answer? = [] := by
  have hclear : ∀ guard, (s.afterClearLast t guard).events = s.events := by
    intro guard
    unfold afterClearLast
    split <;> rfl
  unfold afterRequest
  cases operation with
  | update => cases hquiet
  | resize height width =>
    dsimp only
    split <;> simp [due]
  | clearLast guard => simp [hclear]
  | clickPaste click setting fallback =>
    dsimp only
    split <;> simp [hclear]
  | saveFile path content => simp [answer?]
  | _ => simp [due]

/-- Nothing is taken back of what there is to tell, unless all of it is taken. -/
theorem events_prefix_afterRequest (operation : Terminal.Operation) :
    operation = .drainEvents ∨ s.events <+: (s.afterRequest t files operation).events := by
  have hclear : ∀ guard, s.events <+: (s.afterClearLast t guard).events := by
    intro guard
    unfold afterClearLast
    split <;> exact List.prefix_rfl
  unfold afterRequest
  cases operation with
  | drainEvents => exact Or.inl rfl
  | update => exact Or.inr (List.prefix_append _ _)
  | resize height width =>
    right
    dsimp only
    split <;> exact List.prefix_rfl
  | clearLast guard => exact Or.inr (hclear guard)
  | clickPaste click setting fallback =>
    right
    dsimp only
    split
    · exact hclear _
    · exact List.prefix_rfl
  | saveFile path content => exact Or.inr (List.prefix_append _ _)
  | _ => exact Or.inr List.prefix_rfl

end Surroundings

namespace Terminal

variable {t u : Terminal} {waiting : Option String}

/-! ### What is told behind what -/

/-- What an operation has to tell the viewer. -/
def newsOf (t : Terminal) (files : FileSystem) (operation : Operation) : List TerminalEvent :=
  (t.operate files operation).1.events.drop t.events.length

/-- **What a run has to tell the viewer**, behind what was there to be told before it. -/
def newsOfRun (t : Terminal) (files : FileSystem) (operations : List Operation) :
    List TerminalEvent :=
  (t.toldOfRun files operations).drop t.events.length

theorem newsOf_eq {files : FileSystem} {operation : Operation} {news : List TerminalEvent}
    (h : (t.operate files operation).1.events = t.events ++ news) :
    t.newsOf files operation = news := by
  rw [newsOf, h, List.drop_left]

/-- What an operation has to tell comes behind what there is to tell, but for what is taken. -/
theorem drainedOf_append_events (t : Terminal) (files : FileSystem) (operation : Operation) :
    t.drainedOf files operation ++ (t.operate files operation).1.events =
      t.events ++ t.newsOf files operation := by
  have hkept : operation = .drainEvents ∨ t.events <+: (t.operate files operation).1.events := by
    rcases operation.write_or_request with ⟨bytes, rfl⟩ | hwrite
    · right
      change t.events <+: (t.write files bytes).1.events
      rw [write]
      split
      · exact List.prefix_rfl
      · exact events_prefix_interpret (t.marked true) files bytes
    · have haround := congrArg Surroundings.events (t.surroundings_operate files hwrite)
      have hevents := t.surroundings.events_prefix_afterRequest (t := t) files operation
      rw [← haround] at hevents
      exact hevents
  by_cases hdrain : operation = .drainEvents
  · rw [hdrain]
    simp [drainedOf, newsOf, operate, drainEvents]
  · obtain ⟨news, hnews⟩ := hkept.resolve_left hdrain
    rw [newsOf_eq hnews.symm, hnews]
    cases operation with
    | drainEvents => exact absurd rfl hdrain
    | _ => rfl

/-- What a run has to tell is what its operations have, one after the other. -/
theorem newsOfRun_eq (t : Terminal) (files : FileSystem) (operations : List Operation) :
    t.newsOfRun files operations = t.alongRun newsOf files operations := by
  have htold : t.toldOfRun files operations =
      t.events ++ t.alongRun newsOf files operations := by
    induction operations generalizing t files with
    | nil => exact (List.append_nil _).symm
    | cons operation rest ih =>
      have hrest := ih (t.operate files operation).1 (t.operate files operation).2
      have hsplit : t.toldOfRun files (operation :: rest) = t.drainedOf files operation ++
          (t.operate files operation).1.toldOfRun (t.operate files operation).2 rest :=
        List.append_assoc _ _ _
      rw [hsplit, hrest, ← List.append_assoc, drainedOf_append_events, List.append_assoc]
      rfl
  rw [newsOfRun, htold, List.drop_left]

/-! ### The request that waits -/

/-- **The requests that are answered** in a run before which the request `waiting` was made: with
each update the newest that was made since the last one. -/
def answers (t : Terminal) (files : FileSystem) (waiting : Option String) :
    List Operation → List String
  | [] => []
  | operation :: rest =>
    let after := t.operate files operation
    if (t.reportedOf files operation).isEmpty then
      after.1.answers after.2 (operation.request? <|> waiting) rest
    else waiting.toList ++ after.1.answers after.2 none rest

/-- **A request waits** to be answered by the next update, or none does. -/
structure Waits (t : Terminal) (waiting : Option String) : Prop where
  pending : t.pendingReconnect = waiting
  awaits : ∀ id ∈ waiting, t.Awaits id

namespace Waits

theorem of_awaits {id : String} (h : t.Awaits id) : t.Waits (some id) where
  pending := h.pending
  awaits := by
    intro other hother
    rw [← Option.mem_some.mp hother]
    exact h

theorem of_none (h : t.pendingReconnect = none) : t.Waits none :=
  ⟨h, fun _ hid => by cases hid⟩

/-- What an update has to tell answers the request that waits. -/
theorem answer_told (h : t.Waits waiting) (hvalid : t.Valid) :
    answer? (.rowUpdate (t.pendingReconnect.getD "") t.tidy.told) = waiting.filter (· ≠ "") := by
  rw [h.pending]
  cases waiting with
  | none => simp [answer?]
  | some id =>
    have hfull : t.tidy.told.fullUpdate = true := by
      rw [(h.awaits id rfl).tidy.told_eq hvalid.tidy.toInBounds]
      rfl
    by_cases hname : id = "" <;> simp [answer?, hfull, hname, Option.filter]

/-- A byte that ends no payload leaves the request waiting. -/
theorem next {m : Moment} (h : m.terminal.Waits waiting) (htold : m.endsPayload = false) :
    m.next.1.Waits waiting where
  pending := (m.does_next.tellsNothing htold).pending.trans h.pending
  awaits := fun id hid => (h.awaits id hid).next htold

/-- After a byte that ends one no request waits. -/
theorem next_of_endsPayload {m : Moment} (htold : m.endsPayload = true) : m.next.1.Waits none := by
  obtain ⟨parser, event, hnext⟩ := m.does_next.eq_of_endsPayload htold
  rw [hnext]
  exact of_none rfl

/-- **The first payload that ends in a piece of output answers the request**, and no other event
answers any. -/
theorem interpret (h : t.Waits waiting) (hvalid : t.Valid) (files : FileSystem) (bytes : Bytes) :
    let told := (t.moments files bytes).any (·.endsPayload)
    (t.interpret files bytes).1.Waits (if told then none else waiting) ∧
      ∃ news, (t.interpret files bytes).1.events = t.events ++ news ∧
        news.filterMap answer? = if told then (waiting.filter (· ≠ "")).toList else [] := by
  induction bytes generalizing t files waiting with
  | nil =>
    rw [interpret_nil]
    exact ⟨h, [], by simp, rfl⟩
  | cons byte bytes ih =>
    set m : Moment := ⟨t, files, byte, bytes⟩
    have hinterpret : t.interpret files (byte :: bytes) = m.next.1.interpret m.next.2 bytes := by
      rw [show byte :: bytes = [byte] ++ bytes from rfl, interpret_append]
      rfl
    have hmoments : t.moments files (byte :: bytes) = m :: m.next.1.moments m.next.2 bytes := rfl
    have hvalid' : m.next.1.Valid := hvalid.interpret files [byte]
    rw [hinterpret, hmoments, List.any_cons]
    cases htold : m.endsPayload with
    | false =>
      rw [Bool.false_or, ← show m.next.1.events = t.events from
        (m.does_next.tellsNothing htold).events]
      exact ih (next (m := m) h htold) hvalid' m.next.2
    | true =>
      -- the request is answered here, and none waits for the payloads behind
      obtain ⟨hwaits, news, hevents, hnews⟩ := ih (next_of_endsPayload htold) hvalid' m.next.2
      have hquiet : news.filterMap answer? = [] := by simpa using hnews
      obtain ⟨event, hfirst⟩ := events_next htold
      have hclosed : m.closed.Waits waiting :=
        ⟨h.pending, fun id hid => { h.awaits id hid with }⟩
      have hanswer := hclosed.answer_told ⟨{ hvalid with }, hvalid.cursor_active⟩
      refine ⟨by simpa using hwaits, _, by rw [hevents, hfirst, List.append_assoc], ?_⟩
      have hpair : ∀ e, [e, .directive event].filterMap answer? = (answer? e).toList := by
        intro e
        have hevent : answer? (.directive event) = none := rfl
        cases he : answer? e <;> simp [he, hevent]
      rw [List.filterMap_append, hquiet, List.append_nil, Bool.true_or, if_pos rfl, ← hanswer]
      exact hpair _

theorem write (h : t.Waits waiting) (hvalid : t.Valid) (files : FileSystem) (bytes : Bytes) :
    let quiet := (t.reportedOf files (.write bytes)).isEmpty
    (t.operate files (.write bytes)).1.Waits (if quiet then waiting else none) ∧
      (t.newsOf files (.write bytes)).filterMap answer? =
        if quiet then [] else (waiting.filter (· ≠ "")).toList := by
  by_cases hempty : bytes = []
  · subst hempty
    have hnews : t.newsOf files (.write []) = [] := newsOf_eq (List.append_nil _).symm
    rw [hnews]
    exact ⟨h, rfl⟩
  have hwrite : t.operate files (.write bytes) = (t.marked true).interpret files bytes :=
    if_neg (by simpa using hempty)
  have hquiet : (t.reportedOf files (.write bytes)).isEmpty =
      !((t.marked true).moments files bytes).any (·.endsPayload) := by
    rw [Bool.eq_iff_iff]
    simp [reportedOf, List.isEmpty_iff]
  have hmarked : (t.marked true).Waits waiting :=
    ⟨h.pending, fun id hid => { h.awaits id hid with }⟩
  obtain ⟨hwaits, news, hevents, hnews⟩ :=
    hmarked.interpret ⟨{ hvalid with }, hvalid.cursor_active⟩ files bytes
  have hnews' : t.newsOf files (.write bytes) = news := newsOf_eq (by rw [hwrite]; exact hevents)
  rw [hwrite, hnews', hnews, hquiet]
  cases htold : ((t.marked true).moments files bytes).any (·.endsPayload) <;>
    simpa [htold] using hwaits

/-- **A request that asks for no update** may take the place of the one that waits, and answers
none. -/
theorem request (h : t.Waits waiting) (hcounted : t.scrollback.Counted)
    (horder : t.scrollback.InOrder) (files : FileSystem) {operation : Operation}
    (hwrite : operation.isWrite = false) (hquiet : t.reportedOf files operation = []) :
    (t.operate files operation).1.Waits (operation.request? <|> waiting) ∧
      (t.newsOf files operation).filterMap answer? = [] := by
  have haround := t.surroundings_operate files hwrite
  refine ⟨⟨?_, fun id hid => ?_⟩, ?_⟩
  · have hpending : (t.surroundings.afterRequest t files operation).pendingReconnect =
        (operation.request? <|> t.pendingReconnect) :=
      Surroundings.pending_afterRequest _ files hquiet
    rw [← h.pending, ← hpending, ← haround]
    rfl
  · cases waiting with
    | some old =>
      have hold := (h.awaits old rfl).operate files hquiet
      cases hrequest : operation.request? with
      | some new =>
        obtain rfl : new = id := by simpa [hrequest] using hid
        simpa [hrequest] using hold
      | none =>
        obtain rfl : old = id := by simpa [hrequest] using hid
        simpa [hrequest] using hold
    | none =>
      cases operation with
      | reconnect responseId =>
        obtain rfl : responseId = id := by simpa [Operation.request?] using hid
        exact .reconnect hcounted horder responseId
      | _ => simp [Operation.request?] at hid
  · have hevents := congrArg Surroundings.events haround
    have hdrop : t.newsOf files operation =
        (t.surroundings.afterRequest t files operation).events.drop t.events.length := by
      rw [← hevents]
      rfl
    rw [hdrop]
    exact Surroundings.answers_afterRequest t.surroundings files hquiet

/-- **What an operation does with the request that waits.** If it makes an update, that answers the
request and none waits any more. If it makes none, it leaves the request waiting or puts another in
its place. -/
theorem operate (h : t.Waits waiting) (hvalid : t.Valid) (hcounted : t.scrollback.Counted)
    (horder : t.scrollback.InOrder) (files : FileSystem) (operation : Operation) :
    let quiet := (t.reportedOf files operation).isEmpty
    (t.operate files operation).1.Waits
        (if quiet then operation.request? <|> waiting else none) ∧
      (t.newsOf files operation).filterMap answer? =
        if quiet then [] else (waiting.filter (· ≠ "")).toList := by
  rcases operation.write_or_request with ⟨bytes, rfl⟩ | hwrite
  · exact h.write hvalid files bytes
  by_cases hquiet : t.reportedOf files operation = []
  · rw [hquiet]
    exact h.request hcounted horder files hwrite hquiet
  · cases operation with
    | update =>
      have hnews : t.newsOf files .update =
          [.rowUpdate (t.pendingReconnect.getD "") t.tidy.told] := newsOf_eq (events_update t)
      refine ⟨of_none rfl, ?_⟩
      rw [hnews, ← h.answer_told hvalid]
      cases hanswer : answer? (.rowUpdate (t.pendingReconnect.getD "") t.tidy.told) <;>
        simp [hanswer, reportedOf]
    | write bytes => cases hwrite
    | _ => exact absurd rfl hquiet

end Waits

/-! ### Runs -/

/-- **The requests of a run that are answered** are those that its operations tell. -/
theorem Waits.filterMap_answer_newsOfRun (h : t.Waits waiting) (hvalid : t.Valid)
    (hcounted : t.scrollback.Counted) (horder : t.scrollback.InOrder) (files : FileSystem)
    (operations : List Operation) :
    (t.newsOfRun files operations).filterMap answer? =
      (t.answers files waiting operations).filter (· ≠ "") := by
  induction operations generalizing t files waiting with
  | nil => simp [newsOfRun_eq, alongRun, answers]
  | cons operation rest ih =>
    obtain ⟨hwaits, hnews⟩ := h.operate hvalid hcounted horder files operation
    have hreaches := t.reaches_operate files operation
    have hrest := ih hwaits (hvalid.operate files operation)
      (hreaches.keeps (fun _ change _ hs => hs.operate change) hcounted)
      (hreaches.keeps (fun _ change _ hs => hs.operate change) horder)
      (t.operate files operation).2
    rw [newsOfRun_eq] at hrest ⊢
    rw [alongRun, List.filterMap_append, hnews, hrest, answers]
    cases (t.reportedOf files operation).isEmpty with
    | true => rfl
    | false => simp [Option.toList_filter]

/-- **A request is answered that is followed by an update**, if no other viewer asks in between. -/
theorem mem_answers (t : Terminal) (files : FileSystem) {id : String}
    (between rest : List Operation)
    (hsame : ∀ operation ∈ between, ∀ other ∈ operation.request?, other = id) :
    id ∈ t.answers files (some id) (between ++ .update :: rest) := by
  induction between generalizing t files with
  | nil => exact List.mem_cons_self
  | cons operation between ih =>
    have hrest := ih (t.operate files operation).1 (t.operate files operation).2
      fun other hother => hsame other (List.mem_cons_of_mem _ hother)
    rw [List.cons_append, answers]
    split
    · -- a newer request has the same name
      have hwaiting : (operation.request? <|> some id) = some id := by
        cases hrequest : operation.request? with
        | none => rfl
        | some other =>
          have := hsame operation List.mem_cons_self other hrequest
          simp [this]
      rw [hwaiting]
      exact hrest
    · exact List.mem_cons_self

/-- **A request is answered unless another takes its place.** Let a terminal be asked by a viewer to
tell everything, whatever it has gone through. If an update is asked for later, and no other viewer
asks in between, the viewer has its answer: an update of everything, with the name of its request,
that was made after it.

In general it has one exactly if its request, or one of the same name that was made later, is the
newest at some update. -/
theorem request_answered (name : String) (config : TerminalConfig) (files : FileSystem)
    (before : List Operation) (id : String) (after : List Operation) (hid : id ≠ "")
    (hwidth : config.width ≤ maxWord) (hheight : config.height ≤ maxWord) :
    let t := (new name config).run files before
    let u := t.1.reconnect id
    let IsAnswered := ∃ update, .rowUpdate id update ∈ u.newsOfRun t.2 after ∧
      update.fullUpdate = true
    (∀ between rest, after = between ++ .update :: rest →
      (∀ operation ∈ between, ∀ other ∈ operation.request?, other = id) → IsAnswered) ∧
    (IsAnswered ↔ id ∈ u.answers t.2 (some id) after) := by
  intro t u IsAnswered
  have hvalid : t.1.Valid := (valid_new name hwidth hheight).run files before
  have hasked : u.Awaits id :=
    .reconnect (counted_run files name config before) (inOrder_run files name config before) id
  have hanswers := (Waits.of_awaits hasked).filterMap_answer_newsOfRun
    (hvalid.operate t.2 (.reconnect id)) hasked.untold.toCounted hasked.untold.toInOrder t.2 after
  have hiff : IsAnswered ↔ id ∈ u.answers t.2 (some id) after := by
    have hmem : id ∈ (u.newsOfRun t.2 after).filterMap answer? ↔
        id ∈ u.answers t.2 (some id) after := by
      rw [hanswers, List.mem_filter]
      simp [hid]
    rw [← hmem, List.mem_filterMap]
    constructor
    · rintro ⟨update, hupdate, hfull⟩
      exact ⟨_, hupdate, TerminalEvent.answer?_eq_some.mpr ⟨update, rfl, hfull, hid⟩⟩
    · rintro ⟨e, he, hanswer⟩
      obtain ⟨update, rfl, hfull, -⟩ := TerminalEvent.answer?_eq_some.mp hanswer
      exact ⟨update, he, hfull⟩
  refine ⟨?_, hiff⟩
  rintro between rest rfl hsame
  exact hiff.mpr (mem_answers u t.2 between rest hsame)

/-- A payload comes before the update that is asked for, and answers already. The second viewer asks
behind both and has an answer too. -/
theorem request_answered_payload :
    let config : TerminalConfig := { width := 2, height := 2, cookie := "" }
    let before : List Operation := [.write (utf8Bytes "a"), .update]
    let between : List Operation :=
      [.reconnect "one", .write (utf8Bytes "b\x1b[?1155;0hx\x1b[?1155l"), .drainEvents]
    let rest : List Operation := [.reconnect "two", .update]
    let t := (new "asked" config).run default before
    let u := t.1.reconnect "one"
    let after := between ++ .update :: rest
    ("one" ≠ "" ∧ config.width ≤ maxWord ∧ config.height ≤ maxWord ∧
        ∀ operation ∈ between, ∀ other ∈ operation.request?, other = "one") ∧
      u.answers t.2 (some "one") after = ["one", "two"] ∧
      ∃ update, .rowUpdate "one" update ∈ u.newsOfRun t.2 after ∧ update.fullUpdate = true := by
  intro config before between rest t u after
  have hsame : ∀ operation ∈ between, ∀ other ∈ operation.request?, other = "one" := by
    simp [between, Operation.request?]
  exact ⟨⟨by decide, by decide, by decide, hsame⟩, by decide +kernel,
    (request_answered "asked" config default before "one" after (by decide) (by decide)
      (by decide)).1 between rest rfl hsame⟩

/-- **A request is lost behind another** that comes before the next update: the update answers the
second viewer alone, and no event of the run answers the first. -/
theorem request_lost_behind_another :
    let config : TerminalConfig := { width := 2, height := 1, cookie := "" }
    let news := (new "asked" config).newsOfRun default
      [.write [0x61], .update, .reconnect "one", .reconnect "two", .update]
    news.filterMap answer? = ["two"] ∧
      ¬∃ update, .rowUpdate "one" update ∈ news ∧ update.fullUpdate = true := by
  intro config news
  have hanswers : news.filterMap answer? = ["two"] := by decide +kernel
  refine ⟨hanswers, ?_⟩
  rintro ⟨update, hupdate, hfull⟩
  have hanswer : answer? (.rowUpdate "one" update) = some "one" :=
    TerminalEvent.answer?_eq_some.mpr ⟨update, rfl, hfull, by decide⟩
  have hmem := List.mem_filterMap.mpr ⟨_, hupdate, hanswer⟩
  rw [hanswers] at hmem
  simp at hmem

end Terminal

end GlassTty
