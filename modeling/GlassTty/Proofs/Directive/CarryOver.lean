import GlassTty.Proofs.Directive.Collection

/-!
# A payload with requests in between

The bytes of a payload come in pieces, and what a viewer asks for may come between any two of them.
A request does not look at what has been collected and does not change it, so the pieces put
together are the payload, and the requests do what they would have done without it
(`GlassTty.Terminal.run_holding`): nothing of it gets onto a screen, and the escape that comes
behind the last piece ends the directive with all of it.

The one request for which this fails is another size. It makes the terminal anew and drops the
directive that is open; the parser is not told, so the rest of the payload is printed
(`GlassTty.Terminal.payload_printed_behind_resize`). A size that is told again without having
changed does no harm.
-/

namespace GlassTty

namespace Terminal

/-! ### The size -/

/-- A request leaves the size alone, unless it is for another one. -/
theorem size_operate (t : Terminal) (files : FileSystem) {operation : Operation}
    (hwrite : operation.isWrite = false) (hsize : operation.changesSize t = false) :
    (t.operate files operation).1.height = t.height ∧
      (t.operate files operation).1.width = t.width := by
  have hclear : ∀ guard, (t.clearLast guard).height = t.height ∧
      (t.clearLast guard).width = t.width := by
    intro guard
    unfold clearLast clearLast?
    cases t.reporter.clearLast? guard <;> exact ⟨rfl, rfl⟩
  cases operation with
  | write bytes => cases hwrite
  | update =>
    change t.tidy.height = t.height ∧ t.tidy.width = t.width
    unfold tidy scrollToPrompt scrollRows
    split
    · exact ⟨rfl, rfl⟩
    · rw [foldl_scrollOff]
      split <;> exact ⟨rfl, rfl⟩
  | resize height width =>
    have hsame : max height.toNat 1 = t.height ∧ max width.toNat 1 = t.width := by
      simpa [Operation.changesSize, hasSize] using hsize
    change (t.resize height.toNat width.toNat).height = t.height ∧
      (t.resize height.toNat width.toNat).width = t.width
    unfold resize
    dsimp only
    rw [if_pos hsame]
    exact ⟨rfl, rfl⟩
  | clear =>
    change t.clear.height = t.height ∧ t.clear.width = t.width
    unfold clear
    dsimp only
    split <;> exact ⟨rfl, rfl⟩
  | clearLast guard => exact hclear guard
  | clickPaste click setting fallback =>
    change (t.clickPaste files click setting fallback).2.height = t.height ∧
      (t.clickPaste files click setting fallback).2.width = t.width
    rw [clickPaste_snd]
    split
    · exact hclear _
    · exact ⟨rfl, rfl⟩
  | _ => exact ⟨rfl, rfl⟩

/-- So what changes the size does so before a request and behind it. -/
theorem changesSize_operate (t : Terminal) (files : FileSystem) {operation : Operation}
    (hwrite : operation.isWrite = false) (hsize : operation.changesSize t = false)
    (other : Operation) :
    other.changesSize (t.operate files operation).1 = other.changesSize t := by
  obtain ⟨hheight, hwidth⟩ := size_operate t files hwrite hsize
  cases other with
  | resize height width => simp only [Operation.changesSize, hasSize, hheight, hwidth]
  | _ => rfl

/-! ### Requests while a payload is collected -/

/-- The terminal with a directive that is collected, and the flag that an update is due. -/
def holding (t : Terminal) (buffer : DirectiveBuffer) (due : Bool) : Terminal :=
  { t with directive := some buffer, needsUpdating := due }

/-- **A request does the same whatever is collected**, and leaves that alone. -/
theorem operate_holding (t : Terminal) (files : FileSystem) (buffer : DirectiveBuffer)
    (due : Bool) {operation : Operation} (hwrite : operation.isWrite = false)
    (hsize : operation.changesSize t = false) :
    ∃ due', (t.holding buffer due).operate files operation =
      ((t.operate files operation).1.holding buffer due', (t.operate files operation).2) := by
  let s : Surroundings := { t.surroundings with directive := some buffer, needsUpdating := due }
  have hafter : ∃ due', s.afterRequest t files operation =
      { t.surroundings.afterRequest t files operation with
        directive := some buffer, needsUpdating := due' } := by
    have hclear : ∀ guard, ∃ due', s.afterClearLast t guard =
        { t.surroundings.afterClearLast t guard with
          directive := some buffer, needsUpdating := due' } := by
      intro guard
      unfold Surroundings.afterClearLast
      split
      · exact ⟨true, rfl⟩
      · exact ⟨due, rfl⟩
    cases operation with
    | write bytes => cases hwrite
    | resize height width =>
      have hsame : t.hasSize height.toNat width.toNat = true := by
        simpa [Operation.changesSize] using hsize
      refine ⟨true, ?_⟩
      simp only [Surroundings.afterRequest, hsame, if_true]
      rfl
    | clearLast guard => exact hclear guard
    | clickPaste click setting fallback =>
      unfold Surroundings.afterRequest
      dsimp only
      split
      · exact hclear _
      · exact ⟨due, rfl⟩
    | update => exact ⟨false, rfl⟩
    | reconnect responseId => exact ⟨true, rfl⟩
    | clear => exact ⟨true, rfl⟩
    | _ => exact ⟨due, rfl⟩
  obtain ⟨due', hafter⟩ := hafter
  refine ⟨due', ?_⟩
  rw [show t.holding buffer due = t.within s from rfl, operate_within t s files hwrite, hafter,
    ← surroundings_operate t files hwrite]
  rfl

/-- A piece of the payload is collected. -/
theorem write_holding (t : Terminal) (files : FileSystem) {buffer : DirectiveBuffer}
    (hfits : buffer.Fits) (due : Bool) {bytes : Bytes} (hfree : Parser.esc ∉ bytes) :
    ∃ due', (t.holding buffer due).write files bytes =
      (t.holding (buffer.extend bytes) due', files) := by
  rcases eq_or_ne bytes [] with rfl | hne
  · rw [hfits.extend_nil]
    exact ⟨due, rfl⟩
  · refine ⟨true, ?_⟩
    rw [write, if_neg (by simpa using hne)]
    exact interpret_of_payload (t := (t.holding buffer due).marked true) rfl files hne hfree

/-- **The pieces put together are the payload**, and the requests between them do what they would
have done without it. -/
theorem run_holding (t : Terminal) (files : FileSystem) {buffer : DirectiveBuffer}
    (hfits : buffer.Fits) (due : Bool) {operations : List Operation}
    (hfree : ∀ operation ∈ operations, Parser.esc ∉ operation.written)
    (hsize : ∀ operation ∈ operations, operation.changesSize t = false) :
    ∃ due', (t.holding buffer due).run files operations =
      ((t.run files (operations.filter (!·.isWrite))).1.holding
          (buffer.extend (operations.flatMap Operation.written)) due',
        (t.run files (operations.filter (!·.isWrite))).2) := by
  induction operations generalizing t files buffer due with
  | nil =>
    refine ⟨due, ?_⟩
    rw [List.flatMap_nil, hfits.extend_nil]
    rfl
  | cons operation rest ih =>
    have hfree' := fun op hop => hfree op (List.mem_cons_of_mem operation hop)
    have hsize' := fun op hop => hsize op (List.mem_cons_of_mem operation hop)
    rw [List.flatMap_cons, DirectiveBuffer.extend_append]
    obtain ⟨bytes, rfl⟩ | hrequest := operation.write_or_request
    · have hpiece : Parser.esc ∉ bytes := hfree _ List.mem_cons_self
      obtain ⟨due₁, hwritten⟩ := write_holding t files hfits due hpiece
      obtain ⟨due₂, hrest⟩ := ih t files (hfits.extend bytes) due₁ hfree' hsize'
      refine ⟨due₂, ?_⟩
      change ((t.holding buffer due).write files bytes).1.run
        ((t.holding buffer due).write files bytes).2 rest = _
      rw [hwritten]
      exact hrest
    · have hkeeps := hsize operation List.mem_cons_self
      obtain ⟨due₁, hrun⟩ := operate_holding t files buffer due hrequest hkeeps
      obtain ⟨due₂, hrest⟩ := ih (t.operate files operation).1 (t.operate files operation).2 hfits
        due₁ hfree' fun op hop =>
          (changesSize_operate t files hrequest hkeeps op).trans (hsize' op hop)
      refine ⟨due₂, ?_⟩
      rw [Operation.written_of_request hrequest, hfits.extend_nil,
        List.filter_cons_of_pos (by simp [hrequest])]
      change ((t.holding buffer due).operate files operation).1.run
        ((t.holding buffer due).operate files operation).2 rest = _
      rw [hrun]
      exact hrest

/-- **A payload carries over.** Let a directive be open in a terminal that has gone through
anything, and let pieces without an escape be written with any requests in between, none of which is
for another size. Then

* the directive is open still, and holds what it held with all pieces behind it;
* but for that and the flag that an update is due, the terminal is what the requests alone have made
  of it, and so are the files: nothing of the pieces is on a screen;
* a piece with an escape in it ends the directive, with all that has come before the escape. -/
theorem payload_carries_over (name : String) (config : TerminalConfig) (files : FileSystem)
    (before : List Operation) (buffer : DirectiveBuffer) (operations : List Operation) :
    let t := ((new name config).run files before).1
    t.directive = some buffer →
    (∀ operation ∈ operations, Parser.esc ∉ operation.written) →
    (∀ operation ∈ operations, operation.changesSize t = false) →
    ∀ files : FileSystem,
      let u := t.run files operations
      let v := t.run files (operations.filter (!·.isWrite))
      let collected := buffer.extend (operations.flatMap Operation.written)
      u.1.directive = some collected ∧
        u.1 = { v.1 with directive := some collected, needsUpdating := u.1.needsUpdating } ∧
        u.2 = v.2 ∧
        ∀ piece rest, Parser.esc ∉ piece →
          let ended := u.1.finish u.2 (collected.extend piece)
          u.1.interpret u.2 (piece ++ Parser.esc :: rest) =
              (ended.1.parse Parser.esc).interpret ended.2 rest ∧
            ended.1.directive = none := by
  intro t hopen hfree hsize files' u v collected
  have hfits : buffer.Fits := (collecting_run name config files before buffer hopen).fits
  obtain ⟨due, hrun⟩ := run_holding t files' hfits t.needsUpdating hfree hsize
  have hself : t.holding buffer t.needsUpdating = t := by
    rw [holding, ← hopen]
  rw [hself] at hrun
  have hterminal : u.1 = v.1.holding collected due := congrArg Prod.fst hrun
  have hstill : u.1.directive = some collected := by
    rw [hterminal]
    rfl
  have hfiles := congrArg Prod.snd hrun
  refine ⟨hstill, ?_, hfiles, fun piece rest hpiece => ?_⟩
  · rw [hterminal]
    rfl
  · exact ⟨interpret_of_escape hstill u.2 hpiece rest, (frame_finish _ _ _).2.2⟩

/-- Every request comes between three pieces, the size of the window being told again. -/
theorem payload_carries_over_all_requests :
    let config : TerminalConfig := { width := 4, height := 2, cookie := "" }
    let before : List Operation := [.write (utf8Bytes "hi\x1b[?1155;0ha")]
    let operations : List Operation :=
      [.update, .reconnect "again", .resize 2 4, .write (utf8Bytes "b"), .clear, .clearLast none,
        .clickPaste {} {} none, .saveFile "/f" (utf8Bytes "x"), .takeReplies, .drainEvents,
        .write (utf8Bytes "c")]
    let t := ((new "pieces" config).run default before).1
    let buffer : DirectiveBuffer :=
      { code := .payload, validated := false, limit := DirectiveBuffer.defaultLimit, data := #[97] }
    let u := t.run default operations
    let v := t.run default (operations.filter (!·.isWrite))
    let collected : DirectiveBuffer := { buffer with data := #[97, 98, 99] }
    (t.directive = some buffer ∧
        (∀ operation ∈ operations, Parser.esc ∉ operation.written) ∧
        ∀ operation ∈ operations, operation.changesSize t = false) ∧
      u.1.directive = some collected ∧
        u.1 = { v.1 with directive := some collected, needsUpdating := u.1.needsUpdating } ∧
        u.2 = v.2 := by
  intro config before operations t buffer u v collected
  have hopen : t.directive = some buffer := by decide +kernel
  have hfree : ∀ operation ∈ operations, Parser.esc ∉ operation.written := by
    have hall : operations.all (fun operation => Parser.esc ∉ operation.written) = true := by
      decide +kernel
    simpa using hall
  have hsize : ∀ operation ∈ operations, operation.changesSize t = false := by
    have hall : operations.all (fun operation => !operation.changesSize t) = true := by
      decide +kernel
    simpa using hall
  obtain ⟨hstill, hrequests, hfiles, -⟩ :=
    payload_carries_over "pieces" config default before buffer operations hopen hfree hsize default
  have hcollected : buffer.extend (operations.flatMap Operation.written) = collected := by
    decide +kernel
  rw [hcollected] at hstill hrequests
  exact ⟨⟨hopen, hfree, hsize⟩, hstill, hrequests, hfiles⟩

/-- **Another size drops the payload.** One byte of it is collected when the window becomes wider.
The byte behind it is printed, and no directive is open any more. -/
theorem payload_printed_behind_resize :
    let config : TerminalConfig := { width := 2, height := 1, cookie := "" }
    let collecting := ((new "wider" config).run default [.write (utf8Bytes "\x1b[?1155;0ha")]).1
    let resized := (collecting.run default [.resize 1 3]).1
    let printed := (resized.run default [.write (utf8Bytes "b")]).1
    collecting.inDirective = true ∧ resized.inDirective = false ∧
      printed.inDirective = false ∧ printed.main.rowText 0 = "b" := by
  decide +kernel

end Terminal

end GlassTty
