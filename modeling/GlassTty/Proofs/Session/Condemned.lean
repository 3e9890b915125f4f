import GlassTty.Proofs.Session.Children

/-!
# What condemns a session

A session is condemned by what happens to it, and the next sweep removes it. What can happen to it
is listed here once for all moves (`GlassTty.Service.EndedBy`), and it is shown that a session is
condemned behind a move exactly if it was before or if one of these has happened
(`GlassTty.Service.Accounted.condemned_step`).

| what happens | the session is condemned |
|---|---|
| `kill`, `killAll`, `shutdown` | always |
| `input`, `clickPaste` | if the bytes cannot be typed |
| `resize`, and `openSession` for a live session | if the window cannot be given the size |
| the loop reads it | if no more output comes, if reading fails, or if an answer cannot be typed |
-/

namespace GlassTty

variable {σ : Type}

/-! ### Marks -/

namespace Registry

variable {r r' r'' : Registry} {name : String} {reason reason' : Prop}

/-- Whether a live session is condemned. -/
def mark? (r : Registry) (name : String) : Option Bool :=
  (r.session? name).map (·.condemned)

/-- **From one registry to the next the session of the given name is condemned for the reason that
is given**, and for no other. Without it sessions are still opened if they were. -/
structure Marks (name : String) (reason : Prop) (r r' : Registry) : Prop where
  spared : ¬ reason → r'.mark? name = r.mark? name ∧ r'.alive = r.alive
  condemned : reason → r'.mark? name = (r.mark? name).map fun _ => true

namespace Marks

/-- Nothing is done to the session. -/
theorem spare (hmark : r'.mark? name = r.mark? name) (halive : r'.alive = r.alive) :
    Marks name False r r' where
  spared := fun _ => ⟨hmark, halive⟩
  condemned := False.elim

theorem refl (r : Registry) : Marks name False r r :=
  spare rfl rfl

theorem of_iff (h : Marks name reason r r') (hiff : reason ↔ reason') :
    Marks name reason' r r' where
  spared := fun hnot => h.spared fun hreason => hnot (hiff.mp hreason)
  condemned := fun hreason => h.condemned (hiff.mpr hreason)

/-- There is no reason, and nothing is done to the session. -/
theorem of_not (h : Marks name False r r') (hnot : ¬ reason) : Marks name reason r r' :=
  h.of_iff (iff_of_false id hnot)

theorem trans (h : Marks name reason r r') (h' : Marks name reason' r' r'') :
    Marks name (reason ∨ reason') r r'' where
  spared := by
    intro hnot
    obtain ⟨hmark, halive⟩ := h.spared fun hreason => hnot (.inl hreason)
    obtain ⟨hmark', halive'⟩ := h'.spared fun hreason => hnot (.inr hreason)
    exact ⟨hmark'.trans hmark, halive'.trans halive⟩
  condemned := by
    intro hreason
    by_cases hlast : reason'
    · rw [h'.condemned hlast]
      by_cases hfirst : reason
      · rw [h.condemned hfirst, Option.map_map]
        rfl
      · rw [(h.spared hfirst).1]
    · rw [(h'.spared hlast).1]
      exact h.condemned (hreason.resolve_right hlast)

/-- Before or behind the reason nothing is done to the session. -/
theorem then_spare (h : Marks name reason r r') (h' : Marks name False r' r'') :
    Marks name reason r r'' :=
  (h.trans h').of_iff (or_iff_left id)

theorem after_spare (h : Marks name False r r') (h' : Marks name reason r' r'') :
    Marks name reason r r'' :=
  (h.trans h').of_iff (or_iff_right id)

end Marks

theorem mark?_put (r : Registry) (other : String) (t : Session) (name : String) :
    (r.put other t).mark? name = if name = other then some t.condemned else r.mark? name := by
  rw [mark?, session?_put]
  split <;> rfl

/-- What is done to a live session for a reason of its own, and not without it. -/
theorem marks_of_live {other : String} {P : Session → Bool}
    (hnone : r.session? other = none → r' = r)
    (hlive : ∀ s, r.session? other = some s → Marks name (name = other ∧ P s = true) r r') :
    Marks name (name = other ∧ (r.session? name).any P = true) r r' := by
  cases hs : r.session? other with
  | none =>
    rw [hnone hs]
    refine (Marks.refl r).of_not ?_
    rintro ⟨rfl, hany⟩
    rw [hs] at hany
    cases hany
  | some s =>
    refine (hlive s hs).of_iff (and_congr_right ?_)
    rintro rfl
    rw [hs, Option.any_some]

/-- A session that is put back with its mark. -/
theorem marks_put {other : String} {s t : Session} (hs : r.session? other = some s)
    (hmark : t.condemned = s.condemned) : Marks name False r (r.put other t) := by
  refine .spare ?_ rfl
  rw [mark?_put]
  split
  · next heq => rw [heq, mark?, hs, Option.map_some, hmark]
  · rfl

/-- A session of another name is put among the others. -/
theorem marks_put_other {other : String} (hother : name ≠ other) (t : Session) :
    Marks name False r (r.put other t) :=
  .spare ((r.mark?_put other t name).trans (if_neg hother)) rfl

theorem marks_modify (r : Registry) (other : String) {change : Session → Session}
    (hmark : ∀ s, (change s).condemned = s.condemned) :
    Marks name False r (r.modify other change) := by
  unfold modify
  split
  · next s hs => exact marks_put hs (hmark s)
  · exact .refl r

theorem marks_condemn (r : Registry) (other : String) :
    Marks name (name = other) r (r.condemn other) := by
  cases hs : r.session? other with
  | none =>
    rw [condemn_of_none hs]
    refine ⟨fun _ => ⟨rfl, rfl⟩, ?_⟩
    rintro rfl
    rw [mark?, hs]
    rfl
  | some s =>
    rw [condemn_of_some hs]
    have hput := r.mark?_put other { s with condemned := true } name
    refine ⟨fun hother => ⟨hput.trans (if_neg hother), rfl⟩, ?_⟩
    rintro rfl
    refine (hput.trans (if_pos rfl)).trans ?_
    rw [mark?, hs]
    rfl

theorem marks_condemnAll (r : Registry) : Marks name True r r.condemnAll where
  spared := fun hnot => absurd trivial hnot
  condemned := fun _ => by
    rw [mark?, session?_condemnAll, mark?, Option.map_map, Option.map_map]
    rfl

/-- The name of the session that is asked for, which is made up if none is given. -/
def chosenName (r : Registry) (asked : Option String) : String :=
  (asked.filter (!·.isEmpty)).getD r.makeName.1

/-- The count of names behind that. -/
def chosenCount (r : Registry) (asked : Option String) : Nat :=
  if (asked.filter (!·.isEmpty)).isSome then r.nameCount else r.makeName.2.nameCount

end Registry

/-! ### What may happen to a session -/

namespace Multiplexer

open Registry (Marks)
open SessionHost

variable [SessionHost σ]

/-- Whether bytes cannot be typed for a live session. -/
def typingFails (m : Multiplexer σ) (name : String) (bytes : Bytes) : Bool :=
  (m.registry.session? name).any fun s => (write m.host s.child bytes).1.isSome

/-- Whether a live session cannot be given a size. -/
def resizingFails (m : Multiplexer σ) (name : String) (height width : Nat) : Bool :=
  (m.registry.session? name).any fun s => !(SessionHost.resize m.host s.child height width).1

/-- What becomes of a click on a session: the text that is typed, and the terminal. -/
def pasting (m : Multiplexer σ) (s : Session) (click : Terminal.Click) :
    Except PasteError (Option String) × Terminal :=
  s.terminal.clickPaste (files m.host) click
    { localHost := m.config.localHost
      search := { extra := m.config.binDir, path := setting? m.host "PATH" } }
    (if s.terminal.needsDirectory then directory? m.host s.child else none)

/-- Whether the text of a click on a live session cannot be typed. -/
def pastingFails (m : Multiplexer σ) (name : String) (click : Terminal.Click) : Bool :=
  (m.registry.session? name).any fun s =>
    match (m.pasting s click).1 with
    | .ok (some text) => (write m.host s.child (utf8Bytes text)).1.isSome
    | _ => false

/-- Whether what the terminal of a session answers to output cannot be typed. -/
def answerFails (host : σ) (s : Session) (bytes : Bytes) : Bool :=
  let host := (clock host).2
  let (terminal, files) := s.terminal.write (files host) bytes
  (write (withFiles host files) s.child terminal.takeReplies.1).1.isSome

/-- **Whether a live session comes to its end when it is read**: no more output comes, reading
fails, or an answer cannot be typed. -/
def readingEnds (m : Multiplexer σ) (name : String) : Bool :=
  (m.registry.session? name).any fun s =>
    match read m.host s.child with
    | (.data bytes, host) => answerFails host s bytes
    | (.wouldBlock, _) => false
    | (.ended, _) => true
    | (.failed, _) => true

/-- **A request that ends a session** with the next sweep. -/
def EndedBy (m : Multiplexer σ) (name : String) : SessionRequest → Prop
  | .kill other => name = other
  | .killAll => True
  | .shutdown => True
  | .input other bytes => name = other ∧ m.typingFails name bytes = true
  | .clickPaste other click => name = other ∧ m.pastingFails name click = true
  | .resize other height width =>
    name = other ∧ m.resizingFails name height.toNat width.toNat = true
  | .openSession asked _ height width =>
    m.registry.alive = true ∧ name = m.registry.chosenName asked ∧
      m.resizingFails name (max height.toNat 1) (max width.toNat 1) = true
  | _ => False

variable {m : Multiplexer σ} {name other : String} {s : Session}

omit [SessionHost σ] in
theorem marks_forward (m : Multiplexer σ) (other : String) :
    Marks name False m.registry (m.forward other).registry := by
  unfold forward
  split
  · next s hs => exact Registry.marks_put hs rfl
  · exact .refl _

theorem marks_type (m : Multiplexer σ) (other : String) (s : Session) (bytes : Bytes) :
    Marks name (name = other ∧ (write m.host s.child bytes).1.isSome = true) m.registry
      (m.type other s bytes).registry := by
  unfold type
  dsimp only
  split
  · next hfails =>
    exact (m.registry.marks_condemn other).of_iff (and_iff_left hfails).symm
  · next hworks =>
    exact (Marks.refl m.registry).of_not fun h => hworks h.2

theorem marks_input (m : Multiplexer σ) (other : String) (bytes : Bytes) :
    Marks name (name = other ∧ m.typingFails name bytes = true) m.registry
      (m.input other bytes).registry := by
  unfold input
  refine Registry.marks_of_live (fun hnone => by rw [hnone]) fun s hs => ?_
  rw [hs]
  exact m.marks_type other s bytes

theorem marks_resizeSession (hs : m.registry.session? other = some s) (height width : Nat) :
    Marks name (name = other ∧ (!(SessionHost.resize m.host s.child height width).1) = true)
      m.registry (m.resizeSession other s height width).registry := by
  have hput : Marks name False m.registry
      (m.registry.put other { s with terminal := s.terminal.resize height width }) :=
    Registry.marks_put hs rfl
  unfold resizeSession
  dsimp only
  split
  · next hworked =>
    refine hput.of_not fun h => ?_
    rw [hworked] at h
    cases h.2
  · next hworked =>
    exact (hput.after_spare (Registry.marks_condemn _ other)).of_iff
      (and_iff_left (by simpa using hworked)).symm

theorem marks_resize (m : Multiplexer σ) (other : String) (height width : Nat) :
    Marks name (name = other ∧ m.resizingFails name height width = true) m.registry
      (m.resize other height width).registry := by
  unfold resize
  refine Registry.marks_of_live (fun hnone => by rw [hnone]) fun s hs => ?_
  rw [hs]
  exact marks_resizeSession hs height width

theorem marks_saveFile (m : Multiplexer σ) (other path : String) (content : Bytes) :
    Marks name False m.registry (m.saveFile other path content).registry := by
  unfold saveFile
  split
  · next s hs =>
    have hput (t : Terminal) : Marks name False m.registry
        (m.registry.put other { s with terminal := t }) := Registry.marks_put hs rfl
    exact (hput (s.terminal.saveFile (files m.host) path content).1).then_spare
      (marks_forward { m with host := withFiles m.host _, registry := m.registry.put other _ }
        other)
  · exact .refl _

theorem clickPaste_of_session (hs : m.registry.session? other = some s) (click : Terminal.Click) :
    m.clickPaste other click =
      let s' : Session := { s with terminal := (m.pasting s click).2 }
      let m' := m.mapRegistry (·.put other s')
      match (m.pasting s click).1 with
      | .ok (some text) => m'.type other s' (utf8Bytes text)
      | .ok none => m'
      | .error error => m'.tell (.output other (.directive (.alert error.message))) := by
  unfold clickPaste
  rw [hs]
  rfl

theorem marks_clickPaste (m : Multiplexer σ) (other : String) (click : Terminal.Click) :
    Marks name (name = other ∧ m.pastingFails name click = true) m.registry
      (m.clickPaste other click).registry := by
  refine Registry.marks_of_live (fun hnone => ?_) fun s hs => ?_
  · unfold clickPaste
    rw [hnone]
  · have hput : Marks name False m.registry
        (m.registry.put other { s with terminal := (m.pasting s click).2 }) :=
      Registry.marks_put hs rfl
    rw [clickPaste_of_session hs]
    generalize m.pasting s click = result at hput ⊢
    obtain ⟨pasted, terminal⟩ := result
    match pasted with
    | .ok (some text) =>
      exact hput.after_spare (marks_type (m.mapRegistry (·.put other _)) other
        { s with terminal } (utf8Bytes text))
    | .ok none => exact hput.of_not fun h => Bool.false_ne_true h.2
    | .error _ => exact hput.of_not fun h => Bool.false_ne_true h.2

/-- A new session is put among the others. -/
theorem marks_openNew (hother : name ≠ other) (command : Option String) (height width : Nat) :
    Marks name False m.registry (m.openNew other command height width).2.registry := by
  unfold openNew
  dsimp only
  rcases spawnNext_cases { m with host := (secret m.host).2 }
      (spawnRequest { m with host := (secret m.host).2 } other (secret m.host).1 command
        height width) with
    ⟨error, m', -, hregistry, heq⟩ | ⟨host, -, heq⟩
  · rw [heq]
    dsimp only
    rw [hregistry]
    exact .refl m.registry
  · rw [heq]
    have hstarted : Marks name False m.registry
        { m.registry with spawnCount := m.registry.spawnCount + 1 } := .spare rfl rfl
    exact hstarted.then_spare (Registry.marks_put_other hother _)

/-- A name has been counted, or none. -/
def counted (m : Multiplexer σ) (count : Nat) : Multiplexer σ :=
  { m with registry := { m.registry with nameCount := count } }

/-- The session of the name that is asked for is resized, or opened. -/
theorem openSized_of_alive (halive : m.registry.alive = true) (asked command : Option String)
    (height width : UInt16) :
    m.openSized asked command height width =
      let name := m.registry.chosenName asked
      let m' := m.counted (m.registry.chosenCount asked)
      match m.registry.session? name with
      | some s => (.ok (name, s.terminal.cookie),
          m'.resizeSession name s (max height.toNat 1) (max width.toNat 1))
      | none => m'.openNew name command (max height.toNat 1) (max width.toNat 1) := by
  unfold openSized openSession Registry.chosenName Registry.chosenCount
  rw [halive]
  cases asked.filter (!·.isEmpty) <;> rfl

theorem marks_openSized (hlive : m.registry.isLive name = true) (asked command : Option String)
    (height width : UInt16) :
    Marks name (m.EndedBy name (.openSession asked command height width)) m.registry
      (m.openSized asked command height width).2.registry := by
  cases halive : m.registry.alive with
  | false =>
    rw [openSized_of_stopped halive]
    refine (Marks.refl m.registry).of_not fun h => ?_
    exact Bool.false_ne_true (halive.symm.trans h.1)
  | true =>
    have heq := openSized_of_alive halive asked command height width
    generalize m.registry.chosenCount asked = count at heq
    have hcount : Marks name False m.registry (m.counted count).registry := .spare rfl rfl
    have hreason : m.EndedBy name (.openSession asked command height width) ↔
        name = m.registry.chosenName asked ∧
          m.resizingFails name (max height.toNat 1) (max width.toNat 1) = true :=
      and_iff_right halive
    rw [heq]
    dsimp only
    split
    · next s hs =>
      have hresized : Marks name _ _ _ := marks_resizeSession (m := m.counted count) hs
        (max height.toNat 1) (max width.toNat 1)
      refine (hcount.after_spare hresized).of_iff (Iff.trans (and_congr_right ?_) hreason.symm)
      rintro rfl
      rw [resizingFails, hs, Option.any_some]
      rfl
    · next hnone =>
      have hother : name ≠ m.registry.chosenName asked := by
        rintro rfl
        rw [Registry.isLive, hnone] at hlive
        cases hlive
      have hopened := marks_openNew (m := m.counted count) hother command
        (max height.toNat 1) (max width.toNat 1)
      exact (hcount.then_spare hopened).of_not fun h => hother (hreason.mp h).1

theorem marks_showOutput (hs : m.registry.session? other = some s) (bytes : Bytes) :
    Marks name (name = other ∧ answerFails m.host s bytes = true) m.registry
      (m.showOutput other s bytes).registry := by
  unfold showOutput
  dsimp only
  rw [forward_of_session ((Registry.session?_put ..).trans (if_pos rfl))]
  dsimp only
  rw [Registry.session?_put, if_pos rfl]
  dsimp only
  have hshown {t : Session} (hmark : t.condemned = s.condemned) :
      Marks name False m.registry (m.registry.put other t) := Registry.marks_put hs hmark
  have hagain {r : Registry} {t t' : Session} (hmark : t'.condemned = t.condemned) :
      Marks name False (r.put other t) ((r.put other t).put other t') :=
    Registry.marks_put ((Registry.session?_put ..).trans (if_pos rfl)) hmark
  refine Marks.of_iff (Marks.after_spare ?_ (marks_type _ other _ _)) Iff.rfl
  refine .then_spare (.then_spare (hshown ?_) (hagain ?_)) (hagain ?_) <;> rfl

theorem marks_finishOutput (hs : m.registry.session? other = some s) :
    Marks name (name = other) m.registry (m.finishOutput other s).registry := by
  have hput (updateTime : Option Nat) : Marks name False m.registry
      (m.registry.put other { s with terminal := s.terminal.update, updateTime }) :=
    Registry.marks_put hs rfl
  exact ((hput (some (clock m.host).1)).then_spare (marks_forward
    { m with host := (clock m.host).2, registry := m.registry.put other _ } other)).after_spare
      (Registry.marks_condemn _ other)

theorem marks_readSession (m : Multiplexer σ) (other : String) :
    Marks name (name = other ∧ m.readingEnds name = true) m.registry
      (m.readSession other).registry := by
  unfold readSession
  refine Registry.marks_of_live (fun hnone => by rw [hnone]) fun s hs => ?_
  rw [hs]
  dsimp only
  generalize read m.host s.child = result
  obtain ⟨outcome, host⟩ := result
  cases outcome with
  | data bytes => exact marks_showOutput (m := { m with host }) hs bytes
  | wouldBlock => exact (Marks.refl m.registry).of_not fun h => Bool.false_ne_true h.2
  | ended => exact (marks_finishOutput (m := { m with host }) hs).of_iff (and_iff_left rfl).symm
  | failed => exact (m.registry.marks_condemn other).of_iff (and_iff_left rfl).symm

omit [SessionHost σ] in
theorem marks_flushSession (m : Multiplexer σ) (now : Nat) (other : String) :
    Marks name False m.registry (flushSession now m other).registry := by
  have hchanged {change : Session → Session} (hmark : ∀ s, (change s).condemned = s.condemned) :
      Marks name False m.registry
        ((m.mapRegistry (·.modify other change)).forward other).registry :=
    (m.registry.marks_modify other hmark).then_spare
      (marks_forward (m.mapRegistry (·.modify other change)) other)
  refine hchanged fun s => ?_
  split <;> rfl

omit [SessionHost σ] in
/-- **Updates condemn no session.** -/
theorem marks_flush (m : Multiplexer σ) (now : Nat) :
    Marks name False m.registry (m.flush now).registry := by
  unfold flush
  induction m.names generalizing m with
  | nil => exact .refl _
  | cons first rest ih => exact (m.marks_flushSession now first).then_spare (ih _)

/-- **What a request does to the mark of a live session.** -/
theorem marks_serve (hlive : m.registry.isLive name = true) (request : SessionRequest) :
    Marks name (m.EndedBy name request) m.registry (m.serve request).registry := by
  have hasked (other : String) (change : Terminal → Terminal) :
      Marks name False m.registry (m.registry.modifyTerminal other change) :=
    m.registry.marks_modify other fun _ => rfl
  cases request with
  | openSession asked command height width => exact marks_openSized hlive asked command height width
  | input other bytes => exact m.marks_input other bytes
  | resize other height width => exact m.marks_resize other height.toNat width.toNat
  | clear other => exact hasked other Terminal.clear
  | clearLast other guard => exact hasked other (·.clearLast guard)
  | kill other => exact m.registry.marks_condemn other
  | killAll => exact m.registry.marks_condemnAll
  | clickPaste other click => exact m.marks_clickPaste other click
  | reconnect other responseId => exact hasked other (·.reconnect responseId)
  | saveFile other path content => exact m.marks_saveFile other path content
  | inspect other => exact .refl m.registry
  | shutdown =>
    exact ⟨fun hnot => absurd trivial hnot,
      (Registry.marks_condemnAll { m.registry with alive := false }).condemned⟩

end Multiplexer

namespace Service

open Registry (Marks)

variable [SessionHost σ] {s : Service σ} {name : String} {session session' : Session}

/-- **A move that ends a session** with the next sweep. -/
def EndedBy (s : Service σ) (name : String) : Move σ → Prop
  | .request request => s.multiplexer.EndedBy name request
  | .loop =>
    (∃ rest, s.loop.phase = .reading (name :: rest)) ∧ s.multiplexer.readingEnds name = true
  | .elsewhere _ => False

/-- **What a move does to the mark of a session** that is live before it and behind it. -/
theorem Accounted.marks_step (h : s.Accounted) (move : Move σ)
    (hs : s.multiplexer.registry.session? name = some session)
    (hs' : (s.step move).multiplexer.registry.session? name = some session') :
    Marks name (s.EndedBy name move) s.multiplexer.registry
      (s.step move).multiplexer.registry := by
  cases move with
  | request request => exact Multiplexer.marks_serve (Option.isSome_of_eq_some hs) request
  | elsewhere change => exact .refl s.multiplexer.registry
  | loop =>
    have hstep : (s.step .loop).multiplexer = (s.multiplexer.loopStep s.loop).2 := rfl
    have hmark : session.condemned = true → session'.condemned = true := by
      rcases h.session_step .loop hs with ⟨t, ht, -, hmark⟩ | ⟨hgone, -⟩
      · obtain rfl : t = session' := Option.some.inj (ht.symm.trans hs')
        exact hmark
      · rw [hs'] at hgone
        cases hgone
    rw [hstep] at hs' ⊢
    unfold Multiplexer.loopStep at hs' ⊢
    unfold EndedBy
    cases hphase : s.loop.phase with
    | stopped => exact (Marks.refl s.multiplexer.registry).of_not (by simp)
    | waiting =>
      rw [hphase] at hs'
      dsimp only at hs' ⊢
      split at hs'
      · next halive =>
        rw [if_pos halive]
        exact (Marks.refl s.multiplexer.registry).of_not (by simp)
      · have hmem : name ∈ s.multiplexer.names :=
          Registry.isLive_iff_mem_names.mp (Option.isSome_of_eq_some hs)
        rw [s.multiplexer.removes_stop.session?, if_pos hmem] at hs'
        cases hs'
    | reading names =>
      cases names with
      | nil => exact (Marks.refl s.multiplexer.registry).of_not (by simp)
      | cons first rest =>
        refine (s.multiplexer.marks_readSession first).of_iff (and_congr_left fun _ => ?_)
        simp [eq_comm]
    | finishing now =>
      -- the sweep leaves none that is condemned
      rw [hphase] at hs'
      have hafter : session'.condemned = false :=
        condemned_finishPass h.inOrder h.marksAsk now s.loop.lastSweep hs'
      have hbefore : session.condemned = false := by
        refine Bool.eq_false_iff.mpr fun hcondemned => ?_
        rw [hmark hcondemned] at hafter
        cases hafter
      obtain ⟨names, hremoves, -⟩ := s.multiplexer.removes_finishPass now s.loop.lastSweep
      have hflushed : Marks name False s.multiplexer.registry (s.multiplexer.flush now).registry :=
        s.multiplexer.marks_flush now
      refine (Marks.spare ?_ (hremoves.alive.trans (hflushed.spared id).2)).of_not (by simp)
      refine (congrArg (Option.map (·.condemned)) hs').trans ?_
      rw [Registry.mark?, hs, Option.map_some, Option.map_some, hafter, hbefore]

/-- **A session is condemned behind a move exactly if it was before or if the move ends it.** -/
theorem Accounted.condemned_step (h : s.Accounted) (move : Move σ)
    (hs : s.multiplexer.registry.session? name = some session)
    (hs' : (s.step move).multiplexer.registry.session? name = some session') :
    session'.condemned = true ↔ session.condemned = true ∨ s.EndedBy name move := by
  have hmarks := h.marks_step move hs hs'
  by_cases hend : s.EndedBy name move
  · have hafter := hmarks.condemned hend
    rw [Registry.mark?, hs', Registry.mark?, hs] at hafter
    exact ⟨fun _ => .inr hend, fun _ => Option.some.inj hafter⟩
  · have hafter := (hmarks.spared hend).1
    rw [Registry.mark?, hs', Registry.mark?, hs] at hafter
    have hsame : session'.condemned = session.condemned := Option.some.inj hafter
    rw [hsame, or_iff_left hend]

end Service

end GlassTty
