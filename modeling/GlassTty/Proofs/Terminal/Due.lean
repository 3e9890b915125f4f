import GlassTty.Proofs.Terminal.Moments
import GlassTty.Proofs.Terminal.Settled

/-!
# The flag that an update is due

The flag is set before a piece of output is interpreted and cleared by an update. A payload that
ends in the piece brings an update with it, and the bytes behind the payload do not set the flag
again: what they do is on the screen with no update due
(`GlassTty.Terminal.not_due_behind_payload`).

This is the only way to miss an update. As long as bytes come in time (`GlassTty.Moment.IsTimely`),
which those of the sequence that closes a payload do, a terminal with no update due is settled
(`GlassTty.Terminal.update_run_of_not_due`). What is carried from byte to byte is that the terminal
is settled *or* that a payload is still to end in the same piece
(`GlassTty.Terminal.SettledBefore`): before that payload anything may happen, as the update that
comes with it tells all of it.
-/

namespace GlassTty

/-! ### Bytes that come in time -/

/-- Whether nothing is seen of an action: it is a reply, keeps a position, or is about what will be
written later. So is a mode that is reset, unless it shows the main screen. -/
def Action.isUnseen : Action → Bool
  | .saveCursor => true
  | .deviceAttributes => true
  | .secondaryDeviceAttributes => true
  | .statusReport => true
  | .cursorPositionReport => true
  | .terminalParameters => true
  | .selectGraphics _ => true
  | .setScrollRegion _ _ => true
  | .resetMode params => params.head?.all fun mode => !Terminal.alternateModes.contains mode
  | _ => false

theorem Terminal.LooksLike.perform (t : Terminal) {action : Action}
    (h : action.isUnseen = true) : t.LooksLike (t.perform action) := by
  cases action with
  | setScrollRegion top bottom =>
    unfold Terminal.perform
    dsimp only
    split <;> exact ⟨rfl, rfl⟩
  | resetMode params =>
    cases params with
    | nil => exact ⟨rfl, rfl⟩
    | cons mode rest =>
      have hmain : Terminal.alternateModes.contains mode = false := by
        simpa [Action.isUnseen] using h
      change t.LooksLike (t.setMode (mode :: rest) false)
      unfold Terminal.setMode
      dsimp only
      rw [hmain, if_neg Bool.false_ne_true]
      split <;> exact ⟨rfl, rfl⟩
  | saveCursor => exact ⟨rfl, rfl⟩
  | deviceAttributes => exact ⟨rfl, rfl⟩
  | secondaryDeviceAttributes => exact ⟨rfl, rfl⟩
  | statusReport => exact ⟨rfl, rfl⟩
  | cursorPositionReport => exact ⟨rfl, rfl⟩
  | terminalParameters => exact ⟨rfl, rfl⟩
  | selectGraphics params => exact ⟨rfl, rfl⟩
  | _ => cases h

namespace Moment

variable {m : Moment}

/-- Behind a payload everything is told. -/
theorem Does.settled {u : Terminal} (hu : m.Does u) (hbounds : m.terminal.InBounds)
    (h : m.endsPayload = true) : u.Settled := by
  obtain ⟨parser, event, rfl⟩ := hu.eq_of_endsPayload h
  have hclosed : m.closed.InBounds := { hbounds with }
  exact (Terminal.settled_update hclosed).of_looksLike ⟨rfl, rfl⟩ rfl rfl

/-- **The byte comes in time**: if it changes anything that is told, then an update is due anyway,
or a payload ends behind it in the same piece. -/
def IsTimely (m : Moment) : Prop :=
  m.terminal.needsUpdating = false →
    m.terminal.LooksLike m.next.1 ∨
      ∃ later ∈ m.terminal.moments m.files (m.byte :: m.rest), later.endsPayload = true

/-- The byte goes to the parser and completes nothing that is seen. -/
def isUnseen (m : Moment) : Bool :=
  m.terminal.directive.isNone && m.action?.all Action.isUnseen

/-- Bytes of which nothing is seen may come at any time: the sequence that closes a payload is made
of such. -/
theorem isTimely_of_isUnseen (h : m.isUnseen = true) : m.IsTimely := by
  intro _
  left
  rw [isUnseen, Bool.and_eq_true, Option.isNone_iff_eq_none] at h
  obtain ⟨hopen, hunseen⟩ := h
  rw [action?, hopen] at hunseen
  have hnext : m.next.1 = m.terminal.parse m.byte := by
    rw [next, Terminal.interpret_of_none hopen, Terminal.interpret_nil]
  rw [hnext]
  unfold Terminal.parse
  dsimp only
  cases hcompleted : (m.terminal.parser.advance m.byte).1 with
  | none => exact ⟨rfl, rfl⟩
  | some action =>
    have hparser : m.terminal.LooksLike
        { m.terminal with parser := (m.terminal.parser.advance m.byte).2 } := ⟨rfl, rfl⟩
    have haction : action.isUnseen = true := by simpa [hcompleted] using hunseen
    exact hparser.trans (.perform _ haction)

end Moment

namespace Terminal

/-- As long as bytes come in time, a terminal with no update due is settled, unless a payload is
still to end in the same piece. -/
def SettledBefore (t : Terminal) (files : FileSystem) (rest : Bytes) : Prop :=
  t.needsUpdating = false →
    t.Settled ∨ ∃ later ∈ t.moments files rest, later.endsPayload = true

theorem SettledBefore.next {m : Moment} (hbounds : m.terminal.InBounds) (htimely : m.IsTimely)
    (h : m.terminal.SettledBefore m.files (m.byte :: m.rest)) :
    m.next.1.SettledBefore m.next.2 m.rest := by
  intro hdue
  cases htold : m.endsPayload with
  | true => exact Or.inl (m.does_next.settled hbounds htold)
  | false =>
    have hsilent := m.does_next.tellsNothing htold
    have hdue' : m.terminal.needsUpdating = false := by
      by_contra hset
      rw [hsilent.due (by simpa using hset)] at hdue
      cases hdue
    -- a payload that was still to end is so behind this byte, which ends none
    have hlater : (∃ later ∈ m.terminal.moments m.files (m.byte :: m.rest),
        later.endsPayload = true) → ∃ later ∈ m.next.1.moments m.next.2 m.rest,
        later.endsPayload = true := by
      rintro ⟨later, hmem, hends⟩
      rcases List.mem_cons.mp hmem with rfl | hmem
      · rw [show (⟨m.terminal, m.files, m.byte, m.rest⟩ : Moment) = m from rfl, htold] at hends
        cases hends
      · exact ⟨later, hmem, hends⟩
    rcases h hdue' with hsettled | hends
    · rcases htimely hdue' with hlooks | hends
      · exact Or.inl (hsettled.of_looksLike hlooks (hsilent.pending.trans hsettled.pending) hdue)
      · exact Or.inr (hlater hends)
    · exact Or.inr (hlater hends)

/-- **With no update due, nothing is left to tell.** -/
def SettledUnlessDue (t : Terminal) : Prop :=
  t.needsUpdating = false → t.Settled

namespace SettledUnlessDue

variable {t u : Terminal}

/-- What an update does not look at may change. -/
theorem of_looksLike (h : t.SettledUnlessDue) (hu : t.LooksLike u)
    (hpending : u.pendingReconnect = t.pendingReconnect)
    (hdue : u.needsUpdating = t.needsUpdating) : u.SettledUnlessDue := by
  intro hclear
  have hsettled := h (hdue.symm.trans hclear)
  exact hsettled.of_looksLike hu (hpending.trans hsettled.pending) hclear

theorem of_due (h : t.needsUpdating = true) : t.SettledUnlessDue := by
  intro hclear
  rw [h] at hclear
  cases hclear

theorem write (h : t.SettledUnlessDue) (hvalid : t.Valid) (files : FileSystem) (bytes : Bytes)
    (htimely : ∀ m ∈ (t.marked true).moments files bytes, m.IsTimely) :
    (t.write files bytes).1.SettledUnlessDue := by
  have hend := hvalid.write_of_moments (P := SettledBefore)
    (fun m hm hm' hbefore => hbefore.next hm'.toInBounds (htimely m hm))
    (fun hdue => Or.inl (h hdue)) (fun hdue => by cases hdue)
  intro hdue
  -- behind the last byte no payload is to end any more
  rcases hend hdue with hsettled | ⟨later, hmem, -⟩
  · exact hsettled
  · cases hmem

theorem resize (t : Terminal) (height width : Nat) : (t.resize height width).SettledUnlessDue := by
  apply of_due
  unfold Terminal.resize
  dsimp only
  split
  · rfl
  · unfold rebuild
    dsimp only
    split <;> rfl

theorem clear (t : Terminal) : t.clear.SettledUnlessDue := by
  apply of_due
  unfold Terminal.clear
  dsimp only
  split <;> rfl

theorem clearLast (h : t.SettledUnlessDue) (guard : Option Nat) :
    (t.clearLast guard).SettledUnlessDue := by
  unfold Terminal.clearLast clearLast?
  cases t.reporter.clearLast? guard with
  | none => exact h
  | some reporter => exact of_due rfl

theorem operate (h : t.SettledUnlessDue) (hvalid : t.Valid) (files : FileSystem)
    (operation : Operation) (htimely : ∀ m ∈ t.momentsOf files operation, m.IsTimely) :
    (t.operate files operation).1.SettledUnlessDue := by
  cases operation with
  | write bytes => exact h.write hvalid files bytes htimely
  | update => exact fun _ => settled_update hvalid.toInBounds
  | reconnect responseId => exact of_due rfl
  | resize height width => exact resize t _ _
  | clear => exact clear t
  | clearLast guard => exact h.clearLast guard
  | clickPaste click setting fallback =>
    exact clickPaste_induction (P := SettledUnlessDue) files click setting fallback h h.clearLast
  | _ => exact h.of_looksLike ⟨rfl, rfl⟩ rfl rfl

end SettledUnlessDue

/-- **A terminal with no update due has nothing to tell**, as long as bytes come in time: an update
is one with nothing in it, and leaves the terminal as it is. -/
theorem update_run_of_not_due (name : String) (config : TerminalConfig) (files : FileSystem)
    (operations : List Operation) (hwidth : config.width ≤ maxWord)
    (hheight : config.height ≤ maxWord)
    (htimely : ∀ m ∈ (new name config).momentsOfRun files operations, m.IsTimely)
    (hdue : ((new name config).run files operations).1.needsUpdating = false) :
    let t := ((new name config).run files operations).1
    t.update = t.tell (.rowUpdate "" (t.rowUpdate .nothing)) := by
  intro t
  have hsettled : t.SettledUnlessDue :=
    (valid_new name hwidth hheight).run_of_moments
      (fun t files operation ht hm h => h.operate ht files operation hm) htimely (.of_due rfl)
  exact (hsettled hdue).update_eq

/-- A payload that is closed at the end of a piece. The sequence that closes it comes after the
update, and there is nothing to tell of it. -/
theorem update_run_closed_payload :
    let config : TerminalConfig := { width := 2, height := 2, cookie := "" }
    let operations : List Operation :=
      [.write (utf8Bytes "ab\x1b[?1155;0hx\x1b[?1155l"), .takeReplies]
    let t := ((new "closed" config).run default operations).1
    ((config.width ≤ maxWord ∧ config.height ≤ maxWord) ∧
      (∀ m ∈ (new "closed" config).momentsOfRun default operations, m.IsTimely) ∧
        t.needsUpdating = false) ∧
      t.update = t.tell (.rowUpdate "" (t.rowUpdate .nothing)) := by
  intro config operations t
  have hunseen : ((new "closed" config).momentsOfRun default operations).all
      (fun m => m.terminal.needsUpdating || m.isUnseen) = true := by decide +kernel
  have htimely : ∀ m ∈ (new "closed" config).momentsOfRun default operations, m.IsTimely := by
    intro m hm
    rcases Bool.or_eq_true_iff.mp (List.all_eq_true.mp hunseen m hm) with hdue | hm
    · intro hclear
      rw [hdue] at hclear
      cases hclear
    · exact Moment.isTimely_of_isUnseen hm
  have hdue : t.needsUpdating = false := by decide +kernel
  exact ⟨⟨by decide, htimely, hdue⟩,
    update_run_of_not_due "closed" config default operations (by decide) (by decide) htimely hdue⟩

/-- **Output behind a payload is not seen to be due**: the character is on the screen, the flag says
that no update is due, and an update would tell the row. -/
theorem not_due_behind_payload :
    let config : TerminalConfig := { width := 1, height := 1, cookie := "" }
    let t := ((new "late" config).run default
      [.write (utf8Bytes "\x1b[?1155;0hx\x1b[?1155lA")]).1
    t.needsUpdating = false ∧
      (t.update.events.getLast?.bind TerminalEvent.rowUpdate?).map (·.rows) =
        some [⟨0, 0, .plain "A"⟩] := by
  decide +kernel

end Terminal

end GlassTty
