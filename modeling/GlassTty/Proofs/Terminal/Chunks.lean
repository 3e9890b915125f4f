import GlassTty.Proofs.Terminal.Surroundings
import Mathlib.Data.List.TakeWhile

/-!
# Output that comes in pieces

A pseudo-terminal hands the output of a session over in pieces of any size, so a piece may end
inside a sequence, a character, the opening of a directive or its payload. None of this can be
seen: writing two pieces one after the other leaves the terminal as writing them in one piece does
(`GlassTty.Terminal.write_write`).

Two things carry the proof.

* Interpreting output is a matter of the bytes alone
  (`GlassTty.Terminal.interpret_append`). The bytes of an open directive are collected in bulk, and
  the bulk may be cut anywhere, also where it passes the limit
  (`GlassTty.DirectiveBuffer.extend_append`).
* Each write says that an update is due. Nothing looks at that flag while output is interpreted, so
  whatever it says beforehand, the terminal afterwards is the same but for the flag
  (`GlassTty.Terminal.interpret_marked`).
-/

namespace GlassTty

/-! ### Payloads in pieces -/

namespace DirectiveBuffer

/-- **Collecting bytes in two pieces is collecting them in one.** If the first piece passes the
limit so does the whole, and what was collected is dropped either way. -/
theorem extend_append (b : DirectiveBuffer) (x y : Bytes) :
    b.extend (x ++ y) = (b.extend x).extend y := by
  unfold extend
  by_cases hover : b.overflowed
  · simp [hover]
  · rcases Nat.lt_or_ge b.limit (b.data.size + x.length) with hx | hx
    · have hxy : b.limit < b.data.size + (x.length + y.length) := by omega
      simp [hover, hx, hxy]
    · -- the first piece fits, so it is the sum that counts
      have hx' : ¬b.limit < b.data.size + x.length := by omega
      have hassoc : b.data.size + (x.length + y.length) = b.data.size + x.length + y.length := by
        omega
      simp [hover, hx', hassoc]

end DirectiveBuffer

namespace Terminal

/-! ### Interpreting output in pieces -/

theorem interpret_nil (t : Terminal) (files : FileSystem) : t.interpret files [] = (t, files) := by
  rw [interpret]

/-- While no directive is open a byte goes to the parser. -/
theorem interpret_of_none {t : Terminal} (h : t.directive = none) (files : FileSystem)
    (byte : UInt8) (rest : Bytes) :
    t.interpret files (byte :: rest) = (t.parse byte).interpret files rest := by
  rw [interpret, h]

/-- The bytes of an open directive are collected as long as no escape comes. -/
theorem interpret_of_payload {t : Terminal} {buffer : DirectiveBuffer}
    (h : t.directive = some buffer) (files : FileSystem) {bytes : Bytes} (hne : bytes ≠ [])
    (hfree : Parser.esc ∉ bytes) :
    t.interpret files bytes = (t.collect buffer bytes, files) := by
  obtain ⟨byte, rest, rfl⟩ := List.exists_cons_of_ne_nil hne
  have htake : (byte :: rest).takeWhile (· ≠ Parser.esc) = byte :: rest := by
    refine List.takeWhile_eq_self_iff.mpr fun x hx => ?_
    simpa using ne_of_mem_of_not_mem hx hfree
  rw [interpret, h]
  simp only [htake, List.length_cons, if_true]

/-- **An escape ends the directive** that is open, and then begins a sequence. -/
theorem interpret_of_escape {t : Terminal} {buffer : DirectiveBuffer}
    (h : t.directive = some buffer) (files : FileSystem) {payload : Bytes}
    (hfree : Parser.esc ∉ payload) (rest : Bytes) :
    t.interpret files (payload ++ Parser.esc :: rest) =
      ((t.finish files (buffer.extend payload)).1.parse Parser.esc).interpret
        (t.finish files (buffer.extend payload)).2 rest := by
  have htake : (payload ++ Parser.esc :: rest).takeWhile (· ≠ Parser.esc) = payload := by
    rw [List.takeWhile_append_of_pos fun x hx => by simpa using ne_of_mem_of_not_mem hx hfree]
    simp
  obtain ⟨byte, tail, hcons⟩ := List.exists_cons_of_ne_nil
    (show payload ++ Parser.esc :: rest ≠ [] by simp)
  have hlength : payload.length + (rest.length + 1) = tail.length + 1 := by
    simpa using congrArg List.length hcons
  have hdrop : tail.drop payload.length = rest :=
    calc tail.drop payload.length
      _ = (byte :: tail).drop (payload.length + 1) := rfl
      _ = (payload ++ ([Parser.esc] ++ rest)).drop (payload.length + 1) := by rw [← hcons]; simp
      _ = rest := by rw [← List.append_assoc, List.drop_left' (by simp)]
  rw [hcons, interpret, h]
  rw [hcons] at htake
  simp only [htake, hdrop]
  rw [if_neg (by omega)]

/-- A byte string is free of escapes, or has a first one. -/
theorem esc_cases (bytes : Bytes) :
    Parser.esc ∉ bytes ∨
      ∃ payload rest, bytes = payload ++ Parser.esc :: rest ∧ Parser.esc ∉ payload := by
  by_cases h : Parser.esc ∈ bytes
  · exact Or.inr (List.eq_append_cons_of_mem h)
  · exact Or.inl h

/-- What a directive comes to does not depend on what the terminal has collected for it. -/
theorem finish_collect (t : Terminal) (files : FileSystem) (old new : DirectiveBuffer)
    (bytes : Bytes) : (t.collect old bytes).finish files new = t.finish files new := rfl

/-- Bytes that are collected may go on with the next piece. -/
theorem interpret_collect {t : Terminal} {buffer : DirectiveBuffer}
    (h : t.directive = some buffer) (files : FileSystem) {x : Bytes} (hne : x ≠ [])
    (hfree : Parser.esc ∉ x) (y : Bytes) :
    t.interpret files (x ++ y) = (t.collect buffer x).interpret files y := by
  have hopen : (t.collect buffer x).directive = some (buffer.extend x) := rfl
  rcases esc_cases y with hy | ⟨payload, rest, rfl, hpayload⟩
  · rcases eq_or_ne y [] with rfl | hyne
    · rw [List.append_nil, interpret_nil, interpret_of_payload h files hne hfree]
    · -- the bulk goes on through the second piece
      rw [interpret_of_payload hopen files hyne hy,
        interpret_of_payload h files (by simp [hne]) (by simp [hfree, hy])]
      simp only [collect, DirectiveBuffer.extend_append]
  · -- the directive ends in the second piece
    rw [interpret_of_escape hopen files hpayload, ← List.append_assoc,
      interpret_of_escape h files (by simp [hfree, hpayload]), DirectiveBuffer.extend_append,
      finish_collect]

/-- **Interpreting two pieces is interpreting them in one.** The induction is on the first piece;
inside a directive it goes on behind the next escape, or ends in the bulk that is collected. -/
theorem interpret_append (t : Terminal) (files : FileSystem) (x y : Bytes) :
    t.interpret files (x ++ y) =
      (t.interpret files x).1.interpret (t.interpret files x).2 y := by
  induction hn : x.length using Nat.strong_induction_on generalizing t files x with
  | _ n ih =>
    subst hn
    cases x with
    | nil => rw [List.nil_append, interpret_nil]
    | cons byte rest =>
      cases h : t.directive with
      | none =>
        rw [List.cons_append, interpret_of_none h, interpret_of_none h]
        exact ih rest.length (by simp) _ _ _ rfl
      | some buffer =>
        rcases esc_cases (byte :: rest) with hfree | ⟨payload, tail, hx, hfree⟩
        · rw [interpret_collect h files (by simp) hfree,
            interpret_of_payload h files (by simp) hfree]
        · rw [hx, List.append_assoc, List.cons_append, interpret_of_escape h files hfree,
            interpret_of_escape h files hfree]
          exact ih tail.length (by rw [hx]; simp; omega) _ _ _ rfl

/-! ### The flag that an update is due -/

/-- The terminal with the flag that an update is due as told. -/
def marked (t : Terminal) (due : Bool) : Terminal :=
  { t with needsUpdating := due }

section Marked

variable (t : Terminal) (due : Bool)

/-- The flag is one of the things that stand around the screens. -/
theorem marked_eq_within : t.marked due = t.within { t.surroundings with needsUpdating := due } :=
  rfl

/-- Nothing that is performed looks at the flag. A full reset sets it, nothing else changes it. -/
theorem perform_marked (action : Action) :
    ∃ due', (t.marked due).perform action = (t.perform action).marked due' := by
  have hafter : ∃ due',
      ({ t.surroundings with needsUpdating := due } : Surroundings).after t.altMode action =
        { t.surroundings.after t.altMode action with needsUpdating := due' } := by
    unfold Surroundings.after
    split
    · refine ⟨due, ?_⟩
      split <;> rfl
    · split
      · exact ⟨true, rfl⟩
      · exact ⟨due, rfl⟩
  obtain ⟨due', hafter⟩ := hafter
  refine ⟨due', ?_⟩
  rw [marked_eq_within, perform_within, hafter, ← surroundings_perform]
  rfl

/-- An update clears the flag, whatever it said. -/
theorem update_marked : (t.marked due).update = t.update :=
  (update_within t { t.surroundings with needsUpdating := due }).trans
    (update_within t t.surroundings).symm

theorem parse_marked (byte : UInt8) :
    ∃ due', (t.marked due).parse byte = (t.parse byte).marked due' := by
  unfold parse
  rw [show (t.marked due).parser = t.parser from rfl]
  cases h : (t.parser.advance byte).1 with
  | none => exact ⟨due, by simp only [h]; rfl⟩
  | some action =>
    obtain ⟨due', hperform⟩ :=
      perform_marked { t with parser := (t.parser.advance byte).2 } due action
    exact ⟨due', by simp only [h]; exact hperform⟩

theorem finish_marked (files : FileSystem) (buffer : DirectiveBuffer) :
    ∃ due', (t.marked due).finish files buffer =
      ((t.finish files buffer).1.marked due', (t.finish files buffer).2) := by
  have hupdate : ({ t.marked due with directive := none } : Terminal).update =
      ({ t with directive := none } : Terminal).update :=
    update_marked { t with directive := none } due
  have hended : (t.marked due).ended buffer = (t.ended buffer).marked due :=
    (ended_within t { t.surroundings with needsUpdating := due } buffer).trans
      (congrArg (marked · due) (ended_within t t.surroundings buffer)).symm
  rw [finish_eq, finish_eq, hupdate, hended]
  split
  · exact ⟨_, rfl⟩
  · exact ⟨due, rfl⟩

/-- **The flag makes no difference to what output does.** -/
theorem interpret_marked (files : FileSystem) (bytes : Bytes) :
    ∃ due', (t.marked due).interpret files bytes =
      ((t.interpret files bytes).1.marked due', (t.interpret files bytes).2) := by
  induction hn : bytes.length using Nat.strong_induction_on generalizing t due files bytes with
  | _ n ih =>
    subst hn
    cases bytes with
    | nil => exact ⟨due, by simp only [interpret_nil]⟩
    | cons byte rest =>
      cases h : t.directive with
      | none =>
        have h' : (t.marked due).directive = none := h
        obtain ⟨due₁, hparse⟩ := parse_marked t due byte
        rw [interpret_of_none h, interpret_of_none h', hparse]
        exact ih rest.length (by simp) _ _ _ _ rfl
      | some buffer =>
        have h' : (t.marked due).directive = some buffer := h
        rcases esc_cases (byte :: rest) with hfree | ⟨payload, tail, hx, hfree⟩
        · rw [interpret_of_payload h files (by simp) hfree,
            interpret_of_payload h' files (by simp) hfree]
          exact ⟨due, rfl⟩
        · obtain ⟨due₁, hfinish⟩ := finish_marked t due files (buffer.extend payload)
          obtain ⟨due₂, hparse⟩ :=
            parse_marked (t.finish files (buffer.extend payload)).1 due₁ Parser.esc
          rw [hx, interpret_of_escape h files hfree, interpret_of_escape h' files hfree, hfinish,
            hparse]
          exact ih tail.length (by rw [hx]; simp; omega) _ _ _ _ rfl

end Marked

/-! ### Writing in pieces -/

/-- **Writing two pieces is writing them in one**, wherever the output is cut: the files come to
the same, and so does everything in the terminal but the flag that an update is due. -/
theorem write_write (t : Terminal) (files : FileSystem) (x y : Bytes) :
    let first := t.write files x
    let second := first.1.write first.2 y
    let whole := t.write files (x ++ y)
    { second.1 with needsUpdating := whole.1.needsUpdating } = whole.1 ∧ second.2 = whole.2 := by
  intro first second whole
  -- an empty piece does not even set the flag
  rcases eq_or_ne x [] with rfl | hx
  · exact ⟨rfl, rfl⟩
  rcases eq_or_ne y [] with rfl | hy
  · have hwhole : whole = second := by
      simp only [whole, second, first, List.append_nil]
      rfl
    rw [hwhole]
    exact ⟨rfl, rfl⟩
  have hwrite : ∀ (u : Terminal) (g : FileSystem) {z : Bytes}, z ≠ [] →
      u.write g z = (u.marked true).interpret g z := by
    intro u g z hz
    rw [write, if_neg (by simpa using hz)]
    rfl
  obtain ⟨due, hsecond⟩ := interpret_marked first.1 true first.2 y
  have hwhole : whole = first.1.interpret first.2 y := by
    have hxy : x ++ y ≠ [] := List.append_ne_nil_of_left_ne_nil hx y
    simp only [whole, first, hwrite t files hx, hwrite t files hxy]
    exact interpret_append _ files x y
  have hsecond' : second = (whole.1.marked due, whole.2) := by
    rw [hwhole, ← hsecond]
    exact hwrite _ _ hy
  rw [hsecond']
  exact ⟨rfl, rfl⟩

end Terminal

end GlassTty
