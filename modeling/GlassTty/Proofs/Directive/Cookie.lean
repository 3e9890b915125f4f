import GlassTty.Proofs.Directive.Collection
import GlassTty.Proofs.Escape.Feed

/-!
# What depends on the cookie

The cookie of a session decides about one thing, whether a directive is validated, and it is looked
at in one place, where the directive is opened. Two terminals that differ in their cookies alone do
the same as long as no opening tells them apart (`GlassTty.Terminal.run_withCookie`), and one that
shows neither cookie does not.

Which openings a terminal comes to is a matter of the bytes that are written to it, read as if there
were nothing else: the bytes that are collected for a directive are not read by the parser of the
terminal, but there is no opening in them, as they are free of escapes
(`GlassTty.Terminal.opening_mem_openings`). The two readings need not agree on an unfinished
character; they do on sequences (`GlassTty.Parser.InStep`).

Conversely a directive that is open has an opening behind it, which came on the main screen and has
settled whether it is validated (`GlassTty.Terminal.Opened`).
-/

namespace GlassTty

namespace Terminal

/-! ### Another cookie -/

/-- The terminal with another cookie. -/
def withCookie (t : Terminal) (cookie : String) : Terminal :=
  { t with cookie }

section WithCookie

variable (t : Terminal) {cookie : String}

theorem withCookie_eq_within :
    t.withCookie cookie = t.within { t.surroundings with cookie } :=
  rfl

/-- An action does the same with another cookie, unless it is an opening that tells them apart. -/
theorem perform_withCookie {action : Action}
    (h : ∀ o, Opening.ofAction? action = some o →
      presentsCookie o.presented cookie = presentsCookie o.presented t.cookie) :
    (t.withCookie cookie).perform action = (t.perform action).withCookie cookie := by
  have hafter : ({ t.surroundings with cookie } : Surroundings).after t.altMode action =
      { t.surroundings.after t.altMode action with cookie } := by
    unfold Surroundings.after
    cases hopening : Opening.ofAction? action with
    | none =>
      dsimp only
      split <;> rfl
    | some o =>
      dsimp only
      split
      · rfl
      · simp only [Opening.buffer, h o hopening]
        rfl
  rw [withCookie_eq_within, perform_within, hafter, ← surroundings_perform]
  rfl

theorem parse_withCookie {byte : UInt8}
    (h : ∀ action o, (t.parser.advance byte).1 = some action → Opening.ofAction? action = some o →
      presentsCookie o.presented cookie = presentsCookie o.presented t.cookie) :
    (t.withCookie cookie).parse byte = (t.parse byte).withCookie cookie := by
  unfold parse
  rw [show (t.withCookie cookie).parser = t.parser from rfl]
  cases hcompleted : (t.parser.advance byte).1 with
  | none =>
    simp only [hcompleted]
    rfl
  | some action =>
    simp only [hcompleted]
    exact perform_withCookie { t with parser := (t.parser.advance byte).2 }
      (fun o ho => h action o hcompleted ho)

theorem update_withCookie : (t.withCookie cookie).update = t.update.withCookie cookie := by
  rw [withCookie_eq_within, withCookie_eq_within, update_within, surroundings_update]
  rfl

/-- What a directive comes to has been settled when it was opened. -/
theorem finish_withCookie (files : FileSystem) (buffer : DirectiveBuffer) :
    (t.withCookie cookie).finish files buffer =
      ((t.finish files buffer).1.withCookie cookie, (t.finish files buffer).2) := by
  have hupdate : ({ t.withCookie cookie with directive := none } : Terminal).update =
      ({ t with directive := none } : Terminal).update.withCookie cookie :=
    update_withCookie { t with directive := none }
  have hended : (t.withCookie cookie).ended buffer = (t.ended buffer).withCookie cookie :=
    (ended_within t { t.surroundings with cookie } buffer).trans
      (congrArg (withCookie · cookie) (ended_within t t.surroundings buffer)).symm
  rw [finish_eq, finish_eq, hupdate, hended]
  split <;> rfl

end WithCookie

end Terminal

namespace Moment

/-- The cookie is as good as that of the terminal for the opening that the byte completes, if it
completes one. -/
def Alike (m : Moment) (cookie : String) : Prop :=
  ∀ o, m.opening? = some o → (o.Shows cookie ↔ o.Shows m.terminal.cookie)

/-- The byte coming to the terminal with another cookie. -/
def withCookie (m : Moment) (cookie : String) : Moment :=
  { m with terminal := m.terminal.withCookie cookie }

/-- **A byte does the same with another cookie**, unless an opening tells the two apart. -/
theorem next_withCookie {m : Moment} {cookie : String} (h : m.Alike cookie) :
    (m.withCookie cookie).next = (m.next.1.withCookie cookie, m.next.2) := by
  cases hopen : m.terminal.directive with
  | none =>
    have hopen' : (m.withCookie cookie).terminal.directive = none := hopen
    rw [next_of_none hopen', next_of_none hopen]
    refine congrArg (·, m.files) (m.terminal.parse_withCookie fun action o haction ho => ?_)
    have hopening : m.opening? = some o := by
      rw [opening?_of_none hopen]
      exact Option.bind_eq_some_iff.mpr ⟨action, haction, ho⟩
    rw [Bool.eq_iff_iff, o.presentsCookie_iff, o.presentsCookie_iff]
    exact h o hopening
  | some buffer =>
    have hopen' : (m.withCookie cookie).terminal.directive = some buffer := hopen
    by_cases hesc : m.byte = Parser.esc
    · have hfinish : (m.terminal.withCookie cookie).finish m.files (buffer.extend []) = _ :=
        Terminal.finish_withCookie m.terminal m.files (buffer.extend [])
      rw [next_of_escape (m := m.withCookie cookie) hesc hopen', next_of_escape hesc hopen,
        parse_esc, parse_esc]
      dsimp only [withCookie]
      rw [hfinish]
      rfl
    · rw [next_of_payload (m := m.withCookie cookie) hesc hopen', next_of_payload hesc hopen]
      rfl

end Moment

namespace Terminal

variable {cookie : String}

theorem interpret_withCookie (t : Terminal) (files : FileSystem) {bytes : Bytes}
    (h : ∀ m ∈ t.moments files bytes, m.Alike cookie) :
    (t.withCookie cookie).interpret files bytes =
      ((t.interpret files bytes).1.withCookie cookie, (t.interpret files bytes).2) := by
  induction bytes generalizing t files with
  | nil => rw [interpret_nil, interpret_nil]
  | cons byte rest ih =>
    let m : Moment := { terminal := t, files, byte, rest }
    have hfirst : (t.withCookie cookie).interpret files [byte] =
        (m.next.1.withCookie cookie, m.next.2) :=
      Moment.next_withCookie (h m List.mem_cons_self)
    have hrest := ih m.next.1 m.next.2 fun m' hm' => h m' (List.mem_cons_of_mem _ hm')
    rw [show byte :: rest = [byte] ++ rest from rfl, interpret_append, interpret_append, hfirst]
    exact hrest

/-- **An operation does the same with another cookie.** -/
theorem operate_withCookie (t : Terminal) (files : FileSystem) (operation : Operation)
    (h : ∀ m ∈ t.momentsOf files operation, m.Alike cookie) :
    (t.withCookie cookie).operate files operation =
      ((t.operate files operation).1.withCookie cookie, (t.operate files operation).2) := by
  obtain ⟨bytes, rfl⟩ | hrequest := operation.write_or_request
  · change (t.withCookie cookie).write files bytes =
      ((t.write files bytes).1.withCookie cookie, (t.write files bytes).2)
    unfold write
    split
    · rfl
    · exact interpret_withCookie (t.marked true) files h
  · have hafter : ({ t.surroundings with cookie } : Surroundings).afterRequest t files operation =
        { t.surroundings.afterRequest t files operation with cookie } := by
      have hclear : ∀ guard,
          ({ t.surroundings with cookie } : Surroundings).afterClearLast t guard =
            { t.surroundings.afterClearLast t guard with cookie } := by
        intro guard
        unfold Surroundings.afterClearLast
        split <;> rfl
      unfold Surroundings.afterRequest
      cases operation with
      | resize height width =>
        dsimp only
        split <;> rfl
      | clearLast guard => exact hclear guard
      | clickPaste click setting fallback =>
        dsimp only
        split
        · exact hclear _
        · rfl
      | _ => rfl
    rw [withCookie_eq_within, operate_within _ _ _ hrequest, hafter,
      ← surroundings_operate t files hrequest]
    rfl

/-- **A run does the same with another cookie**, as long as no opening tells the two apart. -/
theorem run_withCookie (t : Terminal) (files : FileSystem) {operations : List Operation}
    (h : ∀ m ∈ t.momentsOfRun files operations, m.Alike cookie) :
    (t.withCookie cookie).run files operations =
      ((t.run files operations).1.withCookie cookie, (t.run files operations).2) := by
  induction operations generalizing t files with
  | nil => rfl
  | cons operation rest ih =>
    have hfirst := operate_withCookie t files operation
      fun m hm => h m (List.mem_append_left _ hm)
    have hrest := ih (t.operate files operation).1 (t.operate files operation).2
      fun m hm => h m (List.mem_append_right _ hm)
    change ((t.withCookie cookie).operate files operation).1.run _ rest = _
    rw [hfirst]
    exact hrest

end Terminal

/-! ### The openings of a stream -/

namespace Parser

/-- Two parsers that read the same sequences: they are in the same state, or both between
sequences, though perhaps not in the same character. -/
def InStep (p q : Parser) : Prop :=
  p = q ∨ ∃ d e, p = .ground d ∧ q = .ground e

/-- Between sequences nothing but an escape begins one. -/
theorem ground_advance (decoder : Utf8.Decoder) {byte : UInt8} (h : byte ≠ esc) :
    ∃ d, ((ground decoder).advance byte).2 = .ground d := by
  change ∃ d, (onGround decoder byte).2 = .ground d
  unfold onGround
  rw [if_neg h]
  split
  · exact ⟨_, rfl⟩
  · split <;> exact ⟨_, rfl⟩

theorem ground_advance_esc (decoder : Utf8.Decoder) :
    ((ground decoder).advance esc).2 = .escape 1 :=
  rfl

/-- **A byte leaves two parsers in step**, and asks for the same directive in both. -/
theorem InStep.advance {p q : Parser} (h : p.InStep q) (byte : UInt8) :
    (p.advance byte).2.InStep (q.advance byte).2 ∧
      (p.advance byte).1.bind Opening.ofAction? = (q.advance byte).1.bind Opening.ofAction? := by
  obtain rfl | ⟨d, e, rfl, rfl⟩ := h
  · exact ⟨Or.inl rfl, rfl⟩
  · refine ⟨?_, (opening_of_ground d byte).trans (opening_of_ground e byte).symm⟩
    by_cases hesc : byte = esc
    · rw [hesc, ground_advance_esc, ground_advance_esc]
      exact Or.inl rfl
    · obtain ⟨d', hd⟩ := ground_advance d hesc
      obtain ⟨e', he⟩ := ground_advance e hesc
      exact Or.inr ⟨d', e', hd, he⟩

theorem openings_append (p : Parser) (x y : Bytes) :
    p.openings (x ++ y) = p.openings x ++ (p.feed x).2.openings y := by
  unfold openings
  rw [feed_append, List.filterMap_append]

theorem mem_openings_cons {p : Parser} {byte : UInt8} {rest : Bytes} {o : Opening} :
    o ∈ p.openings (byte :: rest) ↔
      (p.advance byte).1.bind Opening.ofAction? = some o ∨
        o ∈ (p.advance byte).2.openings rest := by
  change o ∈ ((p.advance byte).1.toList ++ ((p.advance byte).2.feed rest).1).filterMap _ ↔ _
  rw [List.filterMap_append, List.mem_append]
  cases (p.advance byte).1 with
  | none => simp [openings]
  | some action => simp [openings]

end Parser

namespace Terminal

/-- A byte leaves a parser that reads all of the stream in step with that of the terminal. -/
theorem inStep_next {m : Moment} {p : Parser} (hcollecting : m.terminal.Collecting)
    (h : p.InStep m.terminal.parser) :
    (p.advance m.byte).2.InStep m.next.1.parser ∧
      ∀ o, m.opening? = some o → (p.advance m.byte).1.bind Opening.ofAction? = some o := by
  cases hopen : m.terminal.directive with
  | none =>
    obtain ⟨hstep, hsame⟩ := h.advance m.byte
    rw [Moment.next_of_none hopen, (frame_parse _ _).2.1, Moment.opening?_of_none hopen, hsame]
    exact ⟨hstep, fun o ho => ho⟩
  | some buffer =>
    refine ⟨?_, fun o ho => by rw [Moment.opening?_of_some hopen] at ho; cases ho⟩
    by_cases hesc : m.byte = Parser.esc
    · rw [Moment.next_of_escape hesc hopen, (frame_parse _ _).2.1,
        (frame_finish _ _ _).2.1, hesc]
      exact (h.advance Parser.esc).1
    · -- the byte is collected, and the other parser stays between sequences
      have hstart := (hcollecting buffer hopen).parser
      have hground : ∃ d, p = .ground d := by
        obtain hp | ⟨d, -, hp, -⟩ := h
        · exact ⟨{}, hp.trans hstart⟩
        · exact ⟨d, hp⟩
      obtain ⟨d, rfl⟩ := hground
      obtain ⟨e, he⟩ := Parser.ground_advance d hesc
      rw [Moment.next_of_payload hesc hopen]
      exact Or.inr ⟨e, {}, he, hstart⟩

/-- **The openings of a piece of output** are those that its bytes ask for. -/
theorem opening_mem_openings {t : Terminal} {p : Parser} (hcollecting : t.Collecting)
    (h : p.InStep t.parser) (files : FileSystem) (bytes : Bytes) :
    (p.feed bytes).2.InStep (t.interpret files bytes).1.parser ∧
      ∀ m ∈ t.moments files bytes, ∀ o, m.opening? = some o → o ∈ p.openings bytes := by
  induction bytes generalizing t files p with
  | nil =>
    rw [interpret_nil]
    exact ⟨h, fun m hm => (List.not_mem_nil hm).elim⟩
  | cons byte rest ih =>
    let m : Moment := { terminal := t, files, byte, rest }
    obtain ⟨hfirst, hopening⟩ := inStep_next (m := m) hcollecting h
    obtain ⟨hrest, hopenings⟩ := ih (Collecting.next (m := m) hcollecting) hfirst m.next.2
    refine ⟨?_, fun m' hm' o ho => Parser.mem_openings_cons.mpr ?_⟩
    · rw [show byte :: rest = [byte] ++ rest from rfl, interpret_append]
      exact hrest
    · rcases List.mem_cons.mp hm' with rfl | hm'
      · exact Or.inl (hopening o ho)
      · exact Or.inr (hopenings m' hm' o ho)

/-- An operation leaves the parsers in step. -/
theorem inStep_operate {t : Terminal} {p : Parser} (hcollecting : t.Collecting)
    (h : p.InStep t.parser) (files : FileSystem) (operation : Operation) :
    (p.feed operation.written).2.InStep (t.operate files operation).1.parser ∧
      ∀ m ∈ t.momentsOf files operation, ∀ o, m.opening? = some o →
        o ∈ p.openings operation.written := by
  obtain ⟨bytes, rfl⟩ | hrequest := operation.write_or_request
  · have hmarked : (t.marked true).Collecting := fun b hb => { hcollecting b hb with }
    obtain ⟨hstep, hopenings⟩ := opening_mem_openings hmarked h files bytes
    refine ⟨?_, hopenings⟩
    change (p.feed bytes).2.InStep (t.write files bytes).1.parser
    unfold write
    split
    · next hempty =>
      rw [List.isEmpty_iff.mp hempty]
      exact h
    · exact hstep
  · rw [parser_operate t files hrequest, momentsOf_of_request t files hrequest,
      Operation.written_of_request hrequest]
    exact ⟨h, fun m hm => (List.not_mem_nil hm).elim⟩

/-- **The openings of a run** are those that all that is written in it asks for. -/
theorem opening_mem_openings_run {t : Terminal} {p : Parser} (hcollecting : t.Collecting)
    (h : p.InStep t.parser) (files : FileSystem) (operations : List Operation) :
    ∀ m ∈ t.momentsOfRun files operations, ∀ o, m.opening? = some o →
      o ∈ p.openings (operations.flatMap Operation.written) := by
  induction operations generalizing t files p with
  | nil => exact fun m hm => (List.not_mem_nil hm).elim
  | cons operation rest ih =>
    obtain ⟨hfirst, hopenings⟩ := inStep_operate hcollecting h files operation
    have hrest := ih (hcollecting.operate files operation) hfirst (t.operate files operation).2
    intro m hm o ho
    rw [List.flatMap_cons, Parser.openings_append, List.mem_append]
    rcases List.mem_append.mp hm with hm | hm
    · exact Or.inl (hopenings m hm o ho)
    · exact Or.inr (hrest m hm o ho)

/-! ### The opening of a directive -/

/-- **The opening behind a directive.** Of all bytes up to now, one has opened the directive that is
open: it came on the main screen, and has settled what the directive is for and whether it is
validated. Behind it no byte has come that a directive was not open for. -/
def Opened (past : List Moment) (t : Terminal) : Prop :=
  ∀ buffer, t.directive = some buffer →
    ∃ before m later o, past = before ++ m :: later ∧
      (∀ m' ∈ later, m'.terminal.inDirective = true) ∧
      m.opens? = some o ∧ buffer.code = o.code ∧ (buffer.validated = true ↔ o.Shows t.cookie)

namespace Opened

variable {past : List Moment} {t u : Terminal}

/-- A directive that is left as it is, or dropped, needs no other opening. -/
theorem of_directive (h : Opened past t) (hcookie : u.cookie = t.cookie)
    (hdirective : ∀ buffer, u.directive = some buffer → t.directive = some buffer) :
    Opened past u := by
  intro buffer hbuffer
  rw [hcookie]
  exact h buffer (hdirective buffer hbuffer)

/-- **Each byte opens a directive or goes on with it.** -/
theorem next {m : Moment} (h : Opened past m.terminal) : Opened (past ++ [m]) m.next.1 := by
  have hcookie : m.next.1.cookie = m.terminal.cookie := congrArg Setup.cookie m.setup_next
  intro buffer hbuffer
  rw [m.directive_next] at hbuffer
  rw [hcookie]
  cases hopen : m.terminal.directive with
  | none =>
    simp only [hopen, Option.map_eq_some_iff] at hbuffer
    obtain ⟨o, ho, rfl⟩ := hbuffer
    exact ⟨past, m, [], o, rfl, by simp, ho, rfl, o.presentsCookie_iff _⟩
  | some collected =>
    simp only [hopen, Option.ite_none_left_eq_some, Option.some.injEq] at hbuffer
    obtain ⟨-, rfl⟩ := hbuffer
    obtain ⟨before, first, later, o, rfl, hlater, ho, hcode, hvalidated⟩ := h collected hopen
    refine ⟨before, first, later ++ [m], o, by simp, fun m' hm' => ?_, ho, ?_, ?_⟩
    · rcases List.mem_append.mp hm' with hm' | hm'
      · exact hlater m' hm'
      · rw [List.mem_singleton.mp hm', inDirective, hopen]
        rfl
    · rw [DirectiveBuffer.code_extend]
      exact hcode
    · rw [DirectiveBuffer.validated_extend]
      exact hvalidated

theorem interpret (h : Opened past t) (files : FileSystem) (bytes : Bytes) :
    Opened (past ++ t.moments files bytes) (t.interpret files bytes).1 := by
  induction bytes generalizing past t files with
  | nil =>
    rw [interpret_nil, moments, List.append_nil]
    exact h
  | cons byte rest ih =>
    let m : Moment := { terminal := t, files, byte, rest }
    have hrest := ih (h.next (m := m)) m.next.2
    rw [List.append_assoc] at hrest
    rw [show byte :: rest = [byte] ++ rest from rfl, interpret_append]
    exact hrest

theorem operate (h : Opened past t) (files : FileSystem) (operation : Operation) :
    Opened (past ++ t.momentsOf files operation) (t.operate files operation).1 := by
  have hcookie : (t.operate files operation).1.cookie = t.cookie :=
    congrArg Setup.cookie (setup_operate t files operation)
  obtain ⟨bytes, rfl⟩ | hrequest := operation.write_or_request
  · have hmarked : Opened past (t.marked true) := h
    change Opened (past ++ (t.marked true).moments files bytes) (t.write files bytes).1
    unfold Terminal.write
    split
    · next hempty =>
      rw [List.isEmpty_iff.mp hempty, moments, List.append_nil]
      exact h
    · exact hmarked.interpret files bytes
  · rw [momentsOf_of_request t files hrequest, List.append_nil]
    refine h.of_directive hcookie fun buffer hbuffer => ?_
    rw [directive_operate t files hrequest, Option.ite_none_left_eq_some] at hbuffer
    exact hbuffer.2

/-- **Whatever has come and been asked for**, an open directive has its opening behind it. -/
theorem run (h : Opened past t) (files : FileSystem) (operations : List Operation) :
    Opened (past ++ t.momentsOfRun files operations) (t.run files operations).1 := by
  induction operations generalizing past t files with
  | nil =>
    rw [momentsOfRun, alongRun, List.append_nil]
    exact h
  | cons operation rest ih =>
    have hrest := ih (h.operate files operation) (t.operate files operation).2
    rw [List.append_assoc] at hrest
    exact hrest

end Opened

/-- Another cookie changes nothing but itself, as long as no opening that is written shows it or the
one before. -/
theorem Collecting.run_withCookie_of_not_shows {t : Terminal} (h : t.Collecting) {cookie : String}
    (files : FileSystem) (operations : List Operation)
    (hshows : ∀ o ∈ t.parser.openings (operations.flatMap Operation.written),
      ¬o.Shows t.cookie ∧ ¬o.Shows cookie) :
    ({ t with cookie } : Terminal).run files operations =
      ({ (t.run files operations).1 with cookie }, (t.run files operations).2) := by
  refine run_withCookie t files fun m hm o ho => ?_
  have hcookie : m.terminal.cookie = t.cookie :=
    congrArg Setup.cookie (setup_of_mem_momentsOfRun hm)
  obtain ⟨hbefore, hafter⟩ :=
    hshows o (opening_mem_openings_run h (Or.inl rfl) files operations m hm o ho)
  rw [hcookie]
  exact iff_of_false hafter hbefore

/-- Behind an opening a validated directive is open just if the main screen is shown and the opening
shows the cookie. -/
theorem validated_next_iff {m : Moment} {o : Opening} (ho : m.opening? = some o) :
    m.next.1.directive.any (·.validated) = true ↔
      m.terminal.altMode = false ∧ o.Shows m.terminal.cookie := by
  have hopen : m.terminal.directive = none := by
    cases hopen : m.terminal.directive with
    | none => rfl
    | some buffer =>
      rw [Moment.opening?_of_some hopen] at ho
      cases ho
  rw [m.directive_next, hopen]
  dsimp only
  rw [Moment.opens?, ho]
  cases m.terminal.altMode with
  | true => simp
  | false =>
    simp only [Bool.false_eq_true, if_false, Option.map_some, Option.any_some, true_and]
    exact o.presentsCookie_iff m.terminal.cookie

/-- **The cookie decides who is believed, and nothing else.** Take a terminal that has gone through
anything.

* With another cookie it does the same, operation by operation, as long as no opening in what is
  written to it shows either of the two cookies.
* The directive that is open has an opening behind it that came on the main screen, and it is
  validated just if that opening has shown the cookie.
* Whatever the terminal, a validated directive is open behind an opening just if the main screen is
  shown and the opening shows the cookie. -/
theorem cookie_decides_validation_alone (name : String) (config : TerminalConfig)
    (files : FileSystem) (before : List Operation) :
    let t := ((new name config).run files before).1
    (∀ (cookie : String) (files : FileSystem) (operations : List Operation),
      (∀ o ∈ t.parser.openings (operations.flatMap Operation.written),
        ¬o.Shows t.cookie ∧ ¬o.Shows cookie) →
      ∀ count, ({ t with cookie } : Terminal).run files (operations.take count) =
        ({ (t.run files (operations.take count)).1 with cookie },
          (t.run files (operations.take count)).2)) ∧
    (∀ buffer, t.directive = some buffer →
      ∃ past m later o, (new name config).momentsOfRun files before = past ++ m :: later ∧
        (∀ m' ∈ later, m'.terminal.inDirective = true) ∧
        m.opening? = some o ∧ m.terminal.altMode = false ∧ buffer.code = o.code ∧
        (buffer.validated = true ↔ o.Shows config.cookie)) ∧
    ∀ (m : Moment) (o : Opening), m.opening? = some o →
      (m.next.1.directive.any (·.validated) = true ↔
        m.terminal.altMode = false ∧ o.Shows m.terminal.cookie) := by
  intro t
  refine ⟨fun cookie files' operations hshows count => ?_, fun buffer hbuffer => ?_,
    fun m o ho => validated_next_iff ho⟩
  · refine (collecting_run name config files before).run_withCookie_of_not_shows files' _
      fun o ho => hshows o ?_
    rw [← List.take_append_drop count operations, List.flatMap_append, Parser.openings_append]
    exact List.mem_append_left _ ho
  · have hopened : Opened [] (new name config) := fun buffer hbuffer => by cases hbuffer
    have hcookie : t.cookie = config.cookie :=
      congrArg Setup.cookie (setup_run (new name config) files before)
    obtain ⟨past, m, later, o, hpast, hlater, ho, hcode, hvalidated⟩ :=
      hopened.run files before buffer hbuffer
    obtain ⟨hmain, ho⟩ := Moment.opens?_eq_some.mp ho
    rw [hcookie] at hvalidated
    exact ⟨past, m, later, o, hpast, hlater, ho, hmain, hcode, hvalidated⟩

/-- A payload that has shown the cookie is closed, the window gets another size, and two directives
come that show no cookie: one has another number, the other has the cookie in the wrong place. -/
theorem cookie_decides_validation_alone_two_payloads :
    let config : TerminalConfig := { width := 4, height := 2, cookie := "12" }
    let before : List Operation := [.write (utf8Bytes "\x1b[?1155;12hab")]
    let t := ((new "secret" config).run default before).1
    let operations : List Operation :=
      [.write (utf8Bytes "c\x1b[?1155l"), .resize 3 5,
        .write (utf8Bytes "\x1b[?1155;13hx\x1b[?1155l\x1b[?1150;0;34h/\x1b[?1150l"), .update]
    let buffer : DirectiveBuffer :=
      { code := .payload, validated := true, limit := DirectiveBuffer.defaultLimit,
        data := #[97, 98] }
    let m : Moment :=
      { terminal := ((new "secret" config).run default [.write (utf8Bytes "\x1b[?1155;12")]).1
        files := default
        byte := 0x68
        rest := [] }
    ((∀ o ∈ t.parser.openings (operations.flatMap Operation.written),
        ¬o.Shows t.cookie ∧ ¬o.Shows "34") ∧
      ∀ count, ({ t with cookie := "34" } : Terminal).run default (operations.take count) =
        ({ (t.run default (operations.take count)).1 with cookie := "34" },
          (t.run default (operations.take count)).2)) ∧
    (t.directive = some buffer ∧
      ∃ past m later o, (new "secret" config).momentsOfRun default before = past ++ m :: later ∧
        (∀ m' ∈ later, m'.terminal.inDirective = true) ∧
        m.opening? = some o ∧ m.terminal.altMode = false ∧ buffer.code = o.code ∧
        (buffer.validated = true ↔ o.Shows config.cookie)) ∧
    m.opening? = some ⟨.payload, some 12⟩ ∧
      (m.next.1.directive.any (·.validated) = true ↔
        m.terminal.altMode = false ∧
          Opening.Shows ⟨.payload, some 12⟩ m.terminal.cookie) := by
  intro config before t operations buffer m
  have hshows : ∀ o ∈ t.parser.openings (operations.flatMap Operation.written),
      ¬o.Shows t.cookie ∧ ¬o.Shows "34" := by decide +kernel
  have hbuffer : t.directive = some buffer := by decide +kernel
  have hopening : m.opening? = some ⟨.payload, some 12⟩ := by decide +kernel
  have hcookie := cookie_decides_validation_alone "secret" config default before
  exact ⟨⟨hshows, hcookie.1 "34" default operations hshows⟩, ⟨hbuffer, hcookie.2.1 buffer hbuffer⟩,
    hopening, hcookie.2.2 m _ hopening⟩

end Terminal

end GlassTty
