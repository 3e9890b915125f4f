import GlassTty.Proofs.Terminal.Bounds

/-!
# Output byte by byte

Some properties hold of a run only as long as nothing of a certain kind happens in it, and what
happens inside a piece of output is to be seen at its bytes alone. This file lists them: each byte
with the terminal that it comes to and the bytes behind it (`GlassTty.Moment`,
`GlassTty.Terminal.moments`, `GlassTty.Terminal.momentsOfRun`).

A byte does one of four things (`GlassTty.Moment.Does`): nothing but to be kept, in the parser or
in the payload that is collected; an action that it completes; a mark on a row, where it ends a
prompt directive; an update, where it ends a payload that has something in it. What output keeps is
shown for these four and then holds of all output (`GlassTty.Terminal.interpret_of_moments`) and of
all runs (`GlassTty.Terminal.Valid.run_of_moments`).
-/

namespace GlassTty

namespace Parser

/-- An escape begins a sequence and completes none. -/
theorem advance_esc (p : Parser) : (p.advance esc).1 = none := by
  cases p with
  | ground decoder => rfl
  | escape length => rfl
  | intermediate => rfl
  | control sequence =>
    change (onControl sequence esc).1 = none
    unfold onControl
    dsimp only
    split <;> rfl
  | command length =>
    change (onCommand (length + 1) esc).1 = none
    unfold onCommand
    split <;> rfl
  | commandEscape length =>
    change (onCommandEscape (length + 1) esc).1 = none
    unfold onCommandEscape
    split <;> rfl

end Parser

namespace DirectiveBuffer

/-- At the end of a payload nothing comes to it any more. -/
theorem isTold_extend_nil (b : DirectiveBuffer) : (b.extend []).isTold = b.isTold := by
  unfold extend isTold
  split
  · rfl
  · next hover =>
    split
    · next hlimit =>
      -- more was collected than the limit allows, so it was not nothing
      have hdata : b.data ≠ #[] := by
        rintro hempty
        rw [hempty] at hlimit
        exact Nat.not_lt_zero _ hlimit
      simp [hdata]
    · simp

end DirectiveBuffer

/-- A byte of output at the moment when it comes. -/
structure Moment where
  /-- The terminal that it comes to. -/
  terminal : Terminal
  files : FileSystem
  byte : UInt8
  /-- What comes behind it in the same piece. -/
  rest : Bytes

namespace Moment

/-- The terminal and the files behind the byte. -/
def next (m : Moment) : Terminal × FileSystem :=
  m.terminal.interpret m.files [m.byte]

/-- The action that the byte completes. -/
def action? (m : Moment) : Option Action :=
  if m.terminal.directive.isNone then (m.terminal.parser.advance m.byte).1 else none

/-- Whether the byte ends a payload that is told. -/
def endsPayload (m : Moment) : Bool :=
  m.byte = Parser.esc && m.terminal.directive.any (·.isTold)

/-- The terminal with its directive closed. -/
def closed (m : Moment) : Terminal :=
  { m.terminal with directive := none }

/-- **What a byte does.** -/
inductive Does (m : Moment) : Terminal → Prop
  /-- It is kept, or ends a directive with nothing in it. -/
  | nothing (parser : Parser) (directive : Option DirectiveBuffer)
      (told : m.endsPayload = false) : Does m { m.terminal with parser, directive }
  /-- It completes an action. -/
  | perform (parser : Parser) (action : Action) (completed : m.action? = some action)
      (told : m.endsPayload = false) : Does m ({ m.terminal with parser }.perform action)
  /-- It ends a prompt directive. -/
  | mark (parser : Parser) (directory : String) (told : m.endsPayload = false) :
      Does m { m.closed.expectPrompt directory with parser }
  /-- It ends a payload. -/
  | update (parser : Parser) (event : DirectiveEvent) (told : m.endsPayload = true) :
      Does m { m.closed.update.tell (.directive event) with parser }

/-- An escape behind a directive goes to the parser and completes nothing. -/
theorem parse_esc (t : Terminal) :
    t.parse Parser.esc = { t with parser := (t.parser.advance Parser.esc).2 } := by
  unfold Terminal.parse
  dsimp only
  rw [Parser.advance_esc]

/-- What the end of a directive does, with the escape that ends it going to the parser. -/
theorem does_finish {m : Moment} {buffer : DirectiveBuffer} (hesc : m.byte = Parser.esc)
    (hopen : m.terminal.directive = some buffer) :
    m.Does ((m.terminal.finish m.files (buffer.extend [])).1.parse Parser.esc) := by
  have htold : m.endsPayload = (buffer.extend []).isTold := by
    rw [endsPayload, hesc, hopen, DirectiveBuffer.isTold_extend_nil]
    simp
  rw [parse_esc, Terminal.finish_eq, ← htold]
  cases hends : m.endsPayload with
  | true => exact .update _ _ hends
  | false =>
    rcases m.terminal.ended_eq (buffer.extend []) with hended | ⟨directory, hended⟩
    · rw [hended]
      exact .nothing _ _ hends
    · rw [hended]
      exact .mark _ _ hends

/-- While no directive is open a byte goes to the parser. -/
theorem next_of_none {m : Moment} (hclosed : m.terminal.directive = none) :
    m.next = (m.terminal.parse m.byte, m.files) := by
  rw [next, Terminal.interpret_of_none hclosed, Terminal.interpret_nil]

/-- The escape ends the directive that is open and goes to the parser. -/
theorem next_of_escape {m : Moment} {buffer : DirectiveBuffer} (hesc : m.byte = Parser.esc)
    (hopen : m.terminal.directive = some buffer) :
    m.next =
      ((m.terminal.finish m.files (buffer.extend [])).1.parse Parser.esc,
        (m.terminal.finish m.files (buffer.extend [])).2) := by
  rw [next, hesc]
  exact (Terminal.interpret_of_escape hopen m.files List.not_mem_nil []).trans
    (Terminal.interpret_nil _ _)

/-- Any other byte is collected for it. -/
theorem next_of_payload {m : Moment} {buffer : DirectiveBuffer} (hesc : m.byte ≠ Parser.esc)
    (hopen : m.terminal.directive = some buffer) :
    m.next = (m.terminal.collect buffer [m.byte], m.files) := by
  have hfree : Parser.esc ∉ [m.byte] := fun h => hesc (List.mem_singleton.mp h).symm
  rw [next, Terminal.interpret_of_payload hopen m.files (List.cons_ne_nil _ _) hfree]

/-- **What any byte does.** -/
theorem does_next (m : Moment) : m.Does m.next.1 := by
  cases hopen : m.terminal.directive with
  | none =>
    have hquiet : m.endsPayload = false := by simp [endsPayload, hopen]
    have haction : m.action? = (m.terminal.parser.advance m.byte).1 := by
      rw [action?, hopen]
      rfl
    rw [next_of_none hopen]
    unfold Terminal.parse
    dsimp only
    rw [← haction]
    cases hcompleted : m.action? with
    | none => exact .nothing _ m.terminal.directive hquiet
    | some action => exact .perform _ action hcompleted hquiet
  | some buffer =>
    by_cases hesc : m.byte = Parser.esc
    · rw [next_of_escape hesc hopen]
      exact does_finish hesc hopen
    · have hquiet : m.endsPayload = false := by simp [endsPayload, hesc]
      rw [next_of_payload hesc hopen]
      exact .nothing m.terminal.parser _ hquiet

/-- A byte that ends a payload makes an update and tells what the payload has come to. -/
theorem Does.eq_of_endsPayload {m : Moment} {u : Terminal} (hu : m.Does u)
    (h : m.endsPayload = true) :
    ∃ parser event, u = { m.closed.update.tell (.directive event) with parser } := by
  cases hu with
  | update parser event => exact ⟨parser, event, rfl⟩
  | nothing parser directive told => rw [told] at h; cases h
  | perform parser action completed told => rw [told] at h; cases h
  | mark parser directory told => rw [told] at h; cases h

/-- A byte that ends no payload tells the viewer nothing. -/
theorem Does.tellsNothing {m : Moment} {u : Terminal} (hu : m.Does u) (h : m.endsPayload = false) :
    m.terminal.TellsNothing u := by
  cases hu with
  | nothing parser directive => exact ⟨rfl, rfl, id, rfl⟩
  | perform parser action =>
    have hparser : m.terminal.TellsNothing { m.terminal with parser } := ⟨rfl, rfl, id, rfl⟩
    exact hparser.trans (.perform _ action)
  | mark parser directory =>
    unfold Terminal.expectPrompt
    split <;> exact ⟨rfl, rfl, id, rfl⟩
  | update parser event told =>
    rw [told] at h
    cases h

end Moment

namespace Terminal

/-- **The moments of a piece of output**, one for each of its bytes. -/
def moments (t : Terminal) (files : FileSystem) : Bytes → List Moment
  | [] => []
  | byte :: rest =>
    let m : Moment := { terminal := t, files, byte, rest }
    m :: m.next.1.moments m.next.2 rest

/-- The moments of an operation. Only output has any. -/
def momentsOf (t : Terminal) (files : FileSystem) : Operation → List Moment
  | .write bytes => (t.marked true).moments files bytes
  | _ => []

/-- What the operations of a run give, one after the other. -/
def alongRun {α : Type} (of : Terminal → FileSystem → Operation → List α) (t : Terminal)
    (files : FileSystem) : List Operation → List α
  | [] => []
  | operation :: rest =>
    of t files operation ++
      alongRun of (t.operate files operation).1 (t.operate files operation).2 rest

/-- **The moments of a run.** -/
def momentsOfRun (t : Terminal) (files : FileSystem) (operations : List Operation) : List Moment :=
  t.alongRun momentsOf files operations

/-- **What output keeps**, if each of its bytes does; `P` may look at the bytes that are still to
come. The induction is on these. -/
theorem interpret_of_moments {P : Terminal → FileSystem → Bytes → Prop} {t : Terminal}
    {files : FileSystem} {bytes : Bytes}
    (step : ∀ m ∈ t.moments files bytes,
      P m.terminal m.files (m.byte :: m.rest) → P m.next.1 m.next.2 m.rest)
    (h : P t files bytes) : P (t.interpret files bytes).1 (t.interpret files bytes).2 [] := by
  induction bytes generalizing t files with
  | nil =>
    rw [interpret_nil]
    exact h
  | cons byte rest ih =>
    have hfirst := step ⟨t, files, byte, rest⟩ List.mem_cons_self h
    have hrest := ih (fun m hm => step m (List.mem_cons_of_mem _ hm)) hfirst
    rw [show byte :: rest = [byte] ++ rest from rfl, interpret_append]
    exact hrest

/-- **What a piece of output keeps**, if each of its bytes does. -/
theorem Valid.write_of_moments {P : Terminal → FileSystem → Bytes → Prop} {t : Terminal}
    (hvalid : t.Valid) {files : FileSystem} {bytes : Bytes}
    (step : ∀ m ∈ (t.marked true).moments files bytes, m.terminal.Valid →
      P m.terminal m.files (m.byte :: m.rest) → P m.next.1 m.next.2 m.rest)
    (hempty : P t files []) (h : P (t.marked true) files bytes) :
    P (t.write files bytes).1 (t.write files bytes).2 [] := by
  unfold Terminal.write
  split
  · exact hempty
  have hmarked : (t.marked true).Valid := ⟨{ hvalid with }, hvalid.cursor_active⟩
  have hend := interpret_of_moments (P := fun t files rest => t.Valid ∧ P t files rest)
    (fun m hm hP => ⟨hP.1.interpret m.files [m.byte], step m hm hP.1 hP.2⟩) ⟨hmarked, h⟩
  exact hend.2

/-- **What a run keeps**, if each operation does whose moments are as told. -/
theorem Valid.run_of_moments {P : Terminal → Prop} {C : Moment → Prop} {t : Terminal}
    (hvalid : t.Valid) {files : FileSystem} {operations : List Operation}
    (step : ∀ (t : Terminal) files operation, t.Valid →
      (∀ m ∈ t.momentsOf files operation, C m) → P t → P (t.operate files operation).1)
    (hmoments : ∀ m ∈ t.momentsOfRun files operations, C m) (h : P t) :
    P (t.run files operations).1 := by
  induction operations generalizing t files with
  | nil => exact h
  | cons operation rest ih =>
    have hfirst := step t files operation hvalid
      (fun m hm => hmoments m (List.mem_append_left _ hm)) h
    exact ih (hvalid.operate files operation)
      (fun m hm => hmoments m (List.mem_append_right _ hm)) hfirst

/-- **What holds at each moment of a run**, if every byte and every operation keeps it. -/
theorem of_mem_momentsOfRun {P : Terminal → Prop} {t : Terminal} {files : FileSystem}
    {operations : List Operation} {m : Moment} (marked : ∀ t, P t → P (t.marked true))
    (next : ∀ m : Moment, P m.terminal → P m.next.1)
    (operate : ∀ t files operation, P t → P (t.operate files operation).1) (h : P t)
    (hm : m ∈ t.momentsOfRun files operations) : P m.terminal := by
  have hmoments : ∀ (bytes : Bytes) (t : Terminal) (files : FileSystem), P t →
      m ∈ t.moments files bytes → P m.terminal := by
    intro bytes
    induction bytes with
    | nil => exact fun _ _ _ hm => (List.not_mem_nil hm).elim
    | cons byte rest ih =>
      intro t files h hm
      rcases List.mem_cons.mp hm with rfl | hm
      · exact h
      · exact ih _ _ (next ⟨t, files, byte, rest⟩ h) hm
  induction operations generalizing t files with
  | nil => exact (List.not_mem_nil hm).elim
  | cons operation rest ih =>
    rcases List.mem_append.mp hm with hm | hm
    · cases operation with
      | write bytes => exact hmoments bytes _ _ (marked t h) hm
      | _ => exact (List.not_mem_nil hm).elim
    · exact ih (operate t files operation h) hm

end Terminal

end GlassTty
