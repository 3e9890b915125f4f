import GlassTty.Proofs.Terminal.Moments
import GlassTty.Proofs.Terminal.Requests

/-!
# Collecting a directive

What becomes of the directive with each byte of output is a matter of a few cases
(`GlassTty.Moment.directive_next`): while none is open the byte may complete an opening, which
counts on the main screen alone; while one is open the byte is collected, and an escape ends it. A
request leaves the directive alone, unless it is for another size
(`GlassTty.Terminal.directive_operate`).

While a directive is open the parser is between sequences, and no more has been collected than the
limit of the terminal allows (`GlassTty.Terminal.Collecting`).
-/

namespace GlassTty

namespace Parser

/-- A control character asks for no directive. -/
theorem opening_of_control (byte : UInt8) :
    (Action.ofControl? byte).bind Opening.ofAction? = none := by
  unfold Action.ofControl?
  split <;> rfl

/-- Nor does a byte between sequences. -/
theorem opening_of_ground (decoder : Utf8.Decoder) (byte : UInt8) :
    ((ground decoder).advance byte).1.bind Opening.ofAction? = none := by
  have hcontrol := opening_of_control byte
  change (onGround decoder byte).1.bind Opening.ofAction? = none
  unfold onGround
  split
  · dsimp only
    cases (decoder.push byte).1 <;> rfl
  · split
    · rfl
    · split
      · next haction =>
        rw [haction] at hcontrol
        exact hcontrol
      · dsimp only
        split <;> rfl

/-- Nor does a byte right behind an escape. -/
theorem opening_of_escape (length : Nat) (byte : UInt8) :
    (onEscape length byte).1.bind Opening.ofAction? = none := by
  unfold onEscape
  split
  · rfl
  · split
    · exact opening_of_control byte
    · split <;> rfl

/-- Inside a control sequence only the byte that ends it may ask for one. -/
theorem opening_of_onControl (sequence : ControlSequence) (byte : UInt8) :
    (onControl sequence byte).2 = start ∨
      (onControl sequence byte).1.bind Opening.ofAction? = none := by
  unfold onControl
  dsimp only
  split
  · exact Or.inl rfl
  split
  · exact Or.inr rfl
  split
  · exact Or.inr rfl
  split
  · exact Or.inr rfl
  split
  · exact Or.inr rfl
  split
  · exact Or.inl rfl
  split
  · exact Or.inr rfl
  split
  · exact Or.inr (opening_of_control byte)
  · exact Or.inl rfl

/-- Inside an operating system command nothing is asked for. -/
theorem opening_of_onCommand (length : Nat) (byte : UInt8) :
    (onCommand length byte).1.bind Opening.ofAction? = none ∧
      (onCommandEscape length byte).1.bind Opening.ofAction? = none := by
  constructor
  · unfold onCommand
    split
    · rfl
    · split
      · rfl
      · split <;> rfl
  · unfold onCommandEscape
    split
    · rfl
    · split
      · rfl
      · split
        · rfl
        · exact opening_of_escape 2 byte

/-- **Where an opening is complete the sequence has ended.** It is a control sequence. -/
theorem advance_of_opening {p : Parser} {byte : UInt8} {opening : Opening}
    (h : (p.advance byte).1.bind Opening.ofAction? = some opening) :
    (p.advance byte).2 = .start := by
  have hne : (p.advance byte).1.bind Opening.ofAction? ≠ none := by
    rw [h]
    exact Option.some_ne_none opening
  cases p with
  | ground decoder => exact absurd (opening_of_ground decoder byte) hne
  | escape length => exact absurd (opening_of_escape (length + 1) byte) hne
  | intermediate => exact absurd rfl hne
  | control sequence => exact (opening_of_onControl sequence byte).resolve_right hne
  | command length => exact absurd (opening_of_onCommand (length + 1) byte).1 hne
  | commandEscape length => exact absurd (opening_of_onCommand (length + 1) byte).2 hne

end Parser

namespace Terminal

variable (t : Terminal)

/-! ### The directive after a byte -/

/-- **The surroundings after a byte for the parser.** -/
theorem surroundings_parse (byte : UInt8) :
    (t.parse byte).surroundings =
      match (t.parser.advance byte).1 with
      | some action =>
        ({ t.surroundings with parser := (t.parser.advance byte).2 } : Surroundings).after
          t.altMode action
      | none => { t.surroundings with parser := (t.parser.advance byte).2 } := by
  unfold parse
  dsimp only
  cases (t.parser.advance byte).1 with
  | none => rfl
  | some action => exact surroundings_perform { t with parser := (t.parser.advance byte).2 } action

/-- A byte for the parser changes the parser, and not the setup; it tells the viewer nothing. -/
theorem frame_parse (byte : UInt8) :
    (t.parse byte).setup = t.setup ∧ (t.parse byte).parser = (t.parser.advance byte).2 ∧
      (t.parse byte).events = t.events := by
  have hparse := surroundings_parse t byte
  have hsetup : (t.parse byte).setup = (t.parse byte).surroundings.setup := rfl
  have hparser : (t.parse byte).parser = (t.parse byte).surroundings.parser := rfl
  have hevents : (t.parse byte).events = (t.parse byte).surroundings.events := rfl
  rw [hsetup, hparser, hevents, hparse]
  cases (t.parser.advance byte).1 with
  | none => exact ⟨rfl, rfl, rfl⟩
  | some action => exact Surroundings.frame_after _ _ _

/-- **Where a directive ends none is open.** Neither the setup nor the parser changes. -/
theorem frame_finish (files : FileSystem) (buffer : DirectiveBuffer) :
    (t.finish files buffer).1.setup = t.setup ∧ (t.finish files buffer).1.parser = t.parser ∧
      (t.finish files buffer).1.directive = none := by
  have hupdate := surroundings_update { t with directive := none }
  have hended := surroundings_ended t buffer
  rw [finish_eq]
  split
  · exact ⟨(congrArg Surroundings.setup hupdate).trans rfl,
      (congrArg Surroundings.parser hupdate).trans rfl,
      (congrArg Surroundings.directive hupdate).trans rfl⟩
  · exact ⟨(congrArg Surroundings.setup hended).trans rfl,
      (congrArg Surroundings.parser hended).trans rfl,
      (congrArg Surroundings.directive hended).trans rfl⟩

end Terminal

namespace Moment

/-- The directive that the sequence asks for which the byte completes. -/
def opening? (m : Moment) : Option Opening :=
  m.action?.bind Opening.ofAction?

theorem opening?_of_none {m : Moment} (h : m.terminal.directive = none) :
    m.opening? = (m.terminal.parser.advance m.byte).1.bind Opening.ofAction? := by
  rw [opening?, action?, h]
  rfl

/-- While a directive is open none is asked for. -/
theorem opening?_of_some {m : Moment} {buffer : DirectiveBuffer}
    (h : m.terminal.directive = some buffer) : m.opening? = none := by
  rw [opening?, action?, h]
  rfl

/-- The directive that the byte opens. On the alternate screen none is opened. -/
def opens? (m : Moment) : Option Opening :=
  if m.terminal.altMode then none else m.opening?

theorem opens?_eq_some {m : Moment} {opening : Opening} :
    m.opens? = some opening ↔ m.terminal.altMode = false ∧ m.opening? = some opening := by
  rw [opens?, Option.ite_none_left_eq_some, Bool.not_eq_true]

/-- **What becomes of the directive** with a byte. -/
theorem directive_next (m : Moment) :
    m.next.1.directive =
      match m.terminal.directive with
      | none => m.opens?.map (·.buffer m.terminal.cookie m.terminal.maxDirectiveBytes)
      | some buffer => if m.byte = Parser.esc then none else some (buffer.extend [m.byte]) := by
  cases hopen : m.terminal.directive with
  | none =>
    have hclosed : ∀ parser,
        ({ m.terminal.surroundings with parser } : Surroundings).directive = none := fun _ => hopen
    have hparse := congrArg Surroundings.directive
      (Terminal.surroundings_parse m.terminal m.byte)
    rw [next_of_none hopen, opens?, opening?_of_none hopen]
    refine hparse.trans ?_
    cases (m.terminal.parser.advance m.byte).1 with
    | none =>
      refine (hclosed _).trans ?_
      cases m.terminal.altMode <;> rfl
    | some action =>
      refine (Surroundings.directive_after (hclosed _) _ _).trans ?_
      cases m.terminal.altMode <;> rfl
  | some buffer =>
    by_cases hesc : m.byte = Parser.esc
    · rw [next_of_escape hesc hopen, parse_esc]
      dsimp only
      rw [if_pos hesc]
      exact (Terminal.frame_finish _ _ _).2.2
    · rw [next_of_payload hesc hopen]
      dsimp only
      rw [if_neg hesc]
      rfl

/-- Output does not change what was settled when the terminal was made. -/
theorem setup_next (m : Moment) : m.next.1.setup = m.terminal.setup := by
  cases hopen : m.terminal.directive with
  | none =>
    rw [next_of_none hopen]
    exact (Terminal.frame_parse _ _).1
  | some buffer =>
    by_cases hesc : m.byte = Parser.esc
    · rw [next_of_escape hesc hopen]
      exact (Terminal.frame_parse _ _).1.trans (Terminal.frame_finish _ _ _).1
    · rw [next_of_payload hesc hopen]
      rfl

end Moment

namespace Terminal

/-! ### While a directive is open -/

/-- **What is known while the directive `buffer` is open.** -/
structure Collects (t : Terminal) (buffer : DirectiveBuffer) : Prop where
  /-- The parser is between sequences. -/
  parser : t.parser = .start
  limit : buffer.limit = t.maxDirectiveBytes
  fits : buffer.Fits

/-- If a directive is open, it is collected in order. -/
def Collecting (t : Terminal) : Prop :=
  ∀ buffer, t.directive = some buffer → t.Collects buffer

/-- What is known holds after each byte. -/
theorem Collecting.next {m : Moment} (h : m.terminal.Collecting) : m.next.1.Collecting := by
  intro buffer hbuffer
  have hlimit : m.next.1.maxDirectiveBytes = m.terminal.maxDirectiveBytes :=
    congrArg Setup.maxDirectiveBytes m.setup_next
  rw [m.directive_next] at hbuffer
  cases hopen : m.terminal.directive with
  | none =>
    -- the byte completes the opening
    simp only [hopen, Option.map_eq_some_iff] at hbuffer
    obtain ⟨opening, hopens, rfl⟩ := hbuffer
    obtain ⟨-, hopening⟩ := Moment.opens?_eq_some.mp hopens
    rw [Moment.opening?_of_none hopen] at hopening
    refine ⟨?_, hlimit.symm, Nat.zero_le _⟩
    rw [Moment.next_of_none hopen]
    exact (frame_parse _ _).2.1.trans (Parser.advance_of_opening hopening)
  | some collected =>
    simp only [hopen, Option.ite_none_left_eq_some, Option.some.injEq] at hbuffer
    obtain ⟨hesc, rfl⟩ := hbuffer
    obtain ⟨hparser, hcollected, hfits⟩ := h collected hopen
    refine ⟨?_, ?_, hfits.extend _⟩
    · rw [Moment.next_of_payload hesc hopen]
      exact hparser
    · rw [hlimit, DirectiveBuffer.extend_eq]
      exact hcollected

theorem Collecting.interpret {t : Terminal} (h : t.Collecting) (files : FileSystem)
    (bytes : Bytes) : (t.interpret files bytes).1.Collecting :=
  interpret_of_moments (P := fun t _ _ => t.Collecting) (fun _ _ hm => hm.next) h

/-- **Output leaves the setup as it is.** -/
theorem setup_interpret (t : Terminal) (files : FileSystem) (bytes : Bytes) :
    (t.interpret files bytes).1.setup = t.setup :=
  interpret_of_moments (P := fun u _ _ => u.setup = t.setup)
    (fun m _ hm => m.setup_next.trans hm) rfl

/-! ### Runs -/

/-- **All operations leave the setup as it is.** -/
theorem setup_operate (t : Terminal) (files : FileSystem) (operation : Operation) :
    (t.operate files operation).1.setup = t.setup := by
  obtain ⟨bytes, rfl⟩ | hrequest := operation.write_or_request
  · change (t.write files bytes).1.setup = t.setup
    unfold write
    split
    · rfl
    · exact setup_interpret (t.marked true) files bytes
  · exact (congrArg Surroundings.setup (surroundings_operate t files hrequest)).trans
      (Surroundings.frame_afterRequest _ _ _ _).1

/-- The setup of a terminal is what it was made with. -/
theorem setup_run (t : Terminal) (files : FileSystem) (operations : List Operation) :
    (t.run files operations).1.setup = t.setup := by
  induction operations generalizing t files with
  | nil => rfl
  | cons operation rest ih => exact (ih _ _).trans (setup_operate t files operation)

/-- So it is at each byte of a run. -/
theorem setup_of_mem_momentsOfRun {t : Terminal} {files : FileSystem}
    {operations : List Operation} {m : Moment} (h : m ∈ t.momentsOfRun files operations) :
    m.terminal.setup = t.setup :=
  of_mem_momentsOfRun (P := fun u => u.setup = t.setup) (fun _ hu => hu)
    (fun m hm => m.setup_next.trans hm)
    (fun u files operation hu => (setup_operate u files operation).trans hu) rfl h

/-- A request has no moments, and leaves the parser alone. -/
theorem momentsOf_of_request (t : Terminal) (files : FileSystem) {operation : Operation}
    (h : operation.isWrite = false) : t.momentsOf files operation = [] := by
  cases operation with
  | write bytes => cases h
  | _ => rfl

theorem parser_operate (t : Terminal) (files : FileSystem) {operation : Operation}
    (h : operation.isWrite = false) : (t.operate files operation).1.parser = t.parser :=
  (congrArg Surroundings.parser (surroundings_operate t files h)).trans
    (Surroundings.frame_afterRequest _ _ _ _).2

/-- A request leaves the directive alone, but for another size. -/
theorem directive_operate (t : Terminal) (files : FileSystem) {operation : Operation}
    (h : operation.isWrite = false) :
    (t.operate files operation).1.directive =
      if operation.changesSize t then none else t.directive :=
  (congrArg Surroundings.directive (surroundings_operate t files h)).trans
    (Surroundings.directive_afterRequest _ _ _ _)

theorem Collecting.operate {t : Terminal} (h : t.Collecting) (files : FileSystem)
    (operation : Operation) : (t.operate files operation).1.Collecting := by
  obtain ⟨bytes, rfl⟩ | hrequest := operation.write_or_request
  · change (t.write files bytes).1.Collecting
    unfold write
    split
    · exact h
    · exact Collecting.interpret (t := t.marked true) (fun b hb => { h b hb with }) files bytes
  · intro buffer hbuffer
    rw [directive_operate t files hrequest, Option.ite_none_left_eq_some] at hbuffer
    obtain ⟨hparser, hlimit, hfits⟩ := h buffer hbuffer.2
    exact ⟨(parser_operate t files hrequest).trans hparser,
      hlimit.trans (congrArg Setup.maxDirectiveBytes (setup_operate t files operation)).symm, hfits⟩

/-- So it is at each byte of a run. -/
theorem Collecting.of_mem_momentsOfRun {t : Terminal} (h : t.Collecting) {files : FileSystem}
    {operations : List Operation} {m : Moment} (hm : m ∈ t.momentsOfRun files operations) :
    m.terminal.Collecting :=
  Terminal.of_mem_momentsOfRun (fun _ hu buffer hbuffer => { hu buffer hbuffer with })
    (fun _ hm => hm.next) (fun _ files operation hu => hu.operate files operation) h hm

/-- At no time of a run more of a payload is held than the terminal allows. -/
theorem Collecting.size_of_mem_momentsOfRun {t : Terminal} (h : t.Collecting) {files : FileSystem}
    {operations : List Operation} {m : Moment} (hm : m ∈ t.momentsOfRun files operations)
    {buffer : DirectiveBuffer} (hbuffer : m.terminal.directive = some buffer) :
    buffer.data.size ≤ t.maxDirectiveBytes := by
  obtain ⟨-, hlimit, hsize⟩ := h.of_mem_momentsOfRun hm buffer hbuffer
  have hsetup : m.terminal.maxDirectiveBytes = t.maxDirectiveBytes :=
    congrArg Setup.maxDirectiveBytes (setup_of_mem_momentsOfRun hm)
  exact hsize.trans (hlimit.trans hsetup).le

/-- **Whatever a new terminal has gone through**, an open directive is collected in order. -/
theorem collecting_run (name : String) (config : TerminalConfig) (files : FileSystem)
    (operations : List Operation) :
    ((new name config).run files operations).1.Collecting := by
  have hrun : ∀ (operations : List Operation) (t : Terminal) (files : FileSystem), t.Collecting →
      (t.run files operations).1.Collecting := by
    intro operations
    induction operations with
    | nil => exact fun _ _ h => h
    | cons operation rest ih => exact fun _ files h => ih _ _ (h.operate files operation)
  exact hrun operations _ files fun buffer hbuffer => by cases hbuffer

end Terminal

end GlassTty
