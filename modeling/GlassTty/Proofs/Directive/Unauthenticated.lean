import GlassTty.Proofs.Directive.Collection

/-!
# Directives that are not authenticated

Any program can send a directive. One that does not show the cookie of the session may say what it
likes: it is shown to the viewer as plain text, marked as not validated, and no file is touched.

For a single payload this is a matter of its interpretation, which does not come to the headers'
response at all (`GlassTty.Directive.interpret_unvalidated`). For a stream of output it has to be
known besides that no buffer is ever validated in it. That is settled at the opening, and what is
collected or where the output is cut changes nothing about it
(`GlassTty.Terminal.Unprivileged.next`).
-/

namespace GlassTty

/-! ### One payload -/

namespace Directive

/-- The headers and the marker are all that goes along with a content that is shown. -/
theorem params_output (validated : Bool) (headers : Headers) (content : Bytes) :
    (output validated headers content).params =
      [("headers", .object (headers.toObject content.length)), ("validated", .bool validated)] := by
  rfl

theorem toObject_pagelet (contentType : String) (length : Nat) :
    (Headers.pagelet contentType).toObject length =
      [("content_length", .nat length), ("content_type", .string contentType),
        ("x_term_parameters", .object []), ("x_term_response", .string "pagelet")] := by
  rfl

/-- **What an unvalidated payload comes to**: a content that is shown as plain text. The files have
no part in it. -/
theorem interpret_unvalidated (payload : List Char) (maxFileBytes : Nat)
    (extract : TextExtractor) :
    ∃ content, ∀ files, interpret files payload false maxFileBytes extract =
      (output false (.pagelet "text/plain") content, files) :=
  ⟨_, fun _ => rfl⟩

end Directive

/-- The event shows something that is not validated, and says so. -/
def DirectiveEvent.IsUnvalidated (e : DirectiveEvent) : Prop :=
  e.kind = .graphtermOutput ∧ e.params.get? "validated" = some (.bool false)

theorem DirectiveEvent.isUnvalidated_output (headers : Headers) (content : Bytes) :
    (Directive.output false headers content).IsUnvalidated := by
  refine ⟨rfl, ?_⟩
  rw [Directive.params_output]
  rfl

namespace Terminal

/-! ### A stream of output -/

/-- From `t` to `u` the viewer is told of no directive but unvalidated ones. -/
def TellsUnvalidated (t u : Terminal) : Prop :=
  ∃ told, u.events = t.events ++ told ∧ ∀ e, .directive e ∈ told → e.IsUnvalidated

namespace TellsUnvalidated

variable {t u v : Terminal}

theorem of_events_eq (h : u.events = t.events) : t.TellsUnvalidated u :=
  ⟨[], by rw [h, List.append_nil], by simp⟩

theorem trans (htu : t.TellsUnvalidated u) (huv : u.TellsUnvalidated v) : t.TellsUnvalidated v := by
  obtain ⟨first, hfirst, hquiet⟩ := htu
  obtain ⟨rest, hrest, hquiet'⟩ := huv
  refine ⟨first ++ rest, by rw [hrest, hfirst, List.append_assoc], fun e he => ?_⟩
  rcases List.mem_append.mp he with he | he
  · exact hquiet e he
  · exact hquiet' e he

theorem update (t : Terminal) : t.TellsUnvalidated t.update :=
  ⟨_, congrArg Surroundings.events (surroundings_update t), by simp⟩

theorem tell (t : Terminal) {e : DirectiveEvent} (h : e.IsUnvalidated) :
    t.TellsUnvalidated (t.tell (.directive e)) := by
  refine ⟨[.directive e], rfl, fun e' he' => ?_⟩
  cases List.mem_singleton.mp he'
  exact h

end TellsUnvalidated

/-- **The end of a directive that is not validated** touches no file and tells of no other. -/
theorem finish_unvalidated (t : Terminal) (files : FileSystem) {buffer : DirectiveBuffer}
    (h : buffer.validated = false) :
    (t.finish files buffer).2 = files ∧ t.TellsUnvalidated (t.finish files buffer).1 := by
  have hclosed : t.TellsUnvalidated { t with directive := none } := .of_events_eq rfl
  have houtcome : (t.outcome files buffer).2 = files ∧
      (t.outcome files buffer).1.IsUnvalidated := by
    unfold outcome
    rw [h]
    split
    · exact ⟨rfl, DirectiveEvent.isUnvalidated_output _ _⟩
    · obtain ⟨content, hinterpret⟩ := Directive.interpret_unvalidated
        (Utf8.lossy buffer.data.toList) t.maxFileBytes t.extractor
      rw [hinterpret]
      exact ⟨rfl, DirectiveEvent.isUnvalidated_output _ _⟩
  rw [finish_eq]
  split
  · exact ⟨houtcome.1, (hclosed.trans (.update _)).trans (.tell _ houtcome.2)⟩
  · exact ⟨rfl, .of_events_eq (congrArg Surroundings.events (surroundings_ended t buffer))⟩

/-- **What becomes of `t` and the files while no opening shows the cookie.** -/
structure Unprivileged (t : Terminal) (files : FileSystem) (u : Terminal)
    (filesAfter : FileSystem) : Prop where
  setup : u.setup = t.setup
  files_eq : filesAfter = files
  /-- What is collected is not validated. -/
  directive : ∀ buffer, u.directive = some buffer → buffer.validated = false
  told : t.TellsUnvalidated u

/-- So it goes on with each byte. Where a directive is opened it is the opening that counts, where
one ends what the buffer has kept of it. -/
theorem Unprivileged.next {t : Terminal} {files : FileSystem} {m : Moment}
    (h : t.Unprivileged files m.terminal m.files)
    (hopens : ∀ o, m.opens? = some o → ¬o.Shows t.cookie) :
    t.Unprivileged files m.next.1 m.next.2 := by
  obtain ⟨hsetup, hfiles, hunvalidated, htold⟩ := h
  have hcookie : m.terminal.cookie = t.cookie := congrArg Setup.cookie hsetup
  have hdirective := m.directive_next
  have hstep : m.next.2 = m.files ∧ m.terminal.TellsUnvalidated m.next.1 := by
    cases hopen : m.terminal.directive with
    | none =>
      rw [Moment.next_of_none hopen]
      exact ⟨rfl, .of_events_eq (frame_parse _ _).2.2⟩
    | some buffer =>
      by_cases hesc : m.byte = Parser.esc
      · have hbuffer : (buffer.extend []).validated = false :=
          (DirectiveBuffer.validated_extend _ _).trans (hunvalidated buffer hopen)
        obtain ⟨hfinish, hquiet⟩ := finish_unvalidated m.terminal m.files hbuffer
        rw [Moment.next_of_escape hesc hopen]
        exact ⟨hfinish, hquiet.trans (.of_events_eq (frame_parse _ _).2.2)⟩
      · rw [Moment.next_of_payload hesc hopen]
        exact ⟨rfl, .of_events_eq rfl⟩
  refine ⟨m.setup_next.trans hsetup, hstep.1.trans hfiles, fun buffer hbuffer => ?_,
    htold.trans hstep.2⟩
  rw [hdirective] at hbuffer
  cases hopen : m.terminal.directive with
  | none =>
    simp only [hopen, Option.map_eq_some_iff] at hbuffer
    obtain ⟨o, ho, rfl⟩ := hbuffer
    have hshows : ¬presentsCookie o.presented m.terminal.cookie = true := by
      rw [hcookie, o.presentsCookie_iff]
      exact hopens o ho
    exact Bool.eq_false_iff.mpr hshows
  | some collected =>
    simp only [hopen, Option.ite_none_left_eq_some, Option.some.injEq] at hbuffer
    obtain ⟨-, rfl⟩ := hbuffer
    exact (DirectiveBuffer.validated_extend _ _).trans (hunvalidated collected hopen)

/-- **Without the cookie nothing is done but shown.** A payload that is not validated comes to one
event that shows plain text, whatever the files are, and leaves them alone. And a stream of output
in which no opening shows the cookie leaves them alone too, however it is cut; all that it tells of
directives is not validated. -/
theorem unauthenticated_without_effect :
    (∀ (payload : List Char) (maxFileBytes : Nat) (extract : TextExtractor),
      ∃ (event : DirectiveEvent) (length : Nat),
        (∀ files, Directive.interpret files payload false maxFileBytes extract = (event, files)) ∧
        event.kind = .graphtermOutput ∧
        event.params =
          [("headers", .object
              [("content_length", .nat length), ("content_type", .string "text/plain"),
                ("x_term_parameters", .object []), ("x_term_response", .string "pagelet")]),
            ("validated", .bool false)]) ∧
    ∀ (t : Terminal) (files : FileSystem) (chunks : List Bytes), t.directive = none →
      (∀ m ∈ t.moments files chunks.flatten, ∀ o, m.opens? = some o → ¬o.Shows t.cookie) →
      let written := t.run files (chunks.map .write)
      written.2 = files ∧
        ∃ told, written.1.events = t.events ++ told ∧
          ∀ event, .directive event ∈ told →
            event.kind = .graphtermOutput ∧ event.params.get? "validated" = some (.bool false) := by
  constructor
  · intro payload maxFileBytes extract
    obtain ⟨content, hinterpret⟩ :=
      Directive.interpret_unvalidated payload maxFileBytes extract
    refine ⟨_, content.length, hinterpret, rfl, ?_⟩
    rw [Directive.params_output, Directive.toObject_pagelet]
  · intro t files chunks hopen hopens written
    obtain ⟨due, hwritten⟩ := run_writes t files chunks
    have hclosed : ∀ buffer, t.directive = some buffer → buffer.validated = false := by
      simp [hopen]
    have hstart : t.Unprivileged files t files := ⟨rfl, rfl, hclosed, .of_events_eq rfl⟩
    have hend := interpret_of_moments (P := fun u filesAfter _ => t.Unprivileged files u filesAfter)
      (fun m hm h => h.next (hopens m hm)) hstart
    rw [show written = _ from hwritten]
    exact ⟨hend.files_eq, hend.told⟩

/-- A program that tries to save a file: with a number that is not the cookie, with the cookie while
the alternate screen is shown, and with the cookie in the wrong place, too much being sent there. -/
theorem unauthenticated_without_effect_save_file :
    let config : TerminalConfig :=
      { width := 4, height := 2, cookie := "123", maxDirectiveBytes := 80 }
    let t := ((new "forged" config).run default [.write (utf8Bytes "hi")]).1
    let chunks :=
      ["\x1b[?1155;12",
        "4h\x7b\"x_term_response\":\"save_file\",",
        "\"x_term_parameters\":\x7b\"filepath\":\"/f\"\x7d\x7d\n\nx\x1b[?1155l",
        "\x1b[?47h\x1b[?1155;123h\x1b[?47l",
        "\x1b[?1155;0;123hX-Term-Response: save_file\nX-Term-Parameters: ",
        "\x7b\"filepath\":\"/f\"\x7d\n\nmore than there is room for\x1b[?1155l"].map utf8Bytes
    let written := t.run default (chunks.map .write)
    (t.directive = none ∧
        ∀ m ∈ t.moments default chunks.flatten, ∀ o, m.opens? = some o → ¬o.Shows t.cookie) ∧
      written.2 = default ∧
        ∃ told, written.1.events = t.events ++ told ∧
          ∀ event, .directive event ∈ told →
            event.kind = .graphtermOutput ∧
              event.params.get? "validated" = some (.bool false) := by
  intro config t chunks written
  have hopen : t.directive = none := by decide +kernel
  have hall : (t.moments default chunks.flatten).all
      (fun m => m.opens?.all fun o => !decide (o.Shows t.cookie)) = true := by decide +kernel
  have hopens : ∀ m ∈ t.moments default chunks.flatten, ∀ o, m.opens? = some o →
      ¬o.Shows t.cookie := by
    intro m hm o ho
    have hshows := List.all_eq_true.mp hall m hm
    rw [ho] at hshows
    simpa using hshows
  exact ⟨⟨hopen, hopens⟩, unauthenticated_without_effect.2 t default chunks hopen hopens⟩

end Terminal

end GlassTty
