import GlassTty.Proofs.Terminal.Chunks
import GlassTty.Terminal.Request

/-!
# What a terminal goes through

The owner of a terminal hands it output, asks for updates, passes the requests of viewers on and
takes what the terminal has to say, in any order (`GlassTty.Terminal.Operation`,
`GlassTty.Terminal.run`). Other programs may change the files in between.

What holds after every run is shown in two layers: output is bytes that are parsed and payloads that
are collected and finished (`GlassTty.Terminal.interpret_induction`), and a run is operations one
after the other.
-/

namespace GlassTty.Terminal

/-! ### Output -/

/-- **What output keeps.** A property that a byte for the parser, the collection of payload and the
end of a directive keep is kept by all output. -/
theorem interpret_induction {P : Terminal → FileSystem → Prop}
    (parse : ∀ t files byte, P t files → P (t.parse byte) files)
    (collect : ∀ t files buffer bytes, t.directive = some buffer → P t files →
      P (t.collect buffer bytes) files)
    (finish : ∀ t files buffer bytes, t.directive = some buffer → P t files →
      P (t.finish files (buffer.extend bytes)).1 (t.finish files (buffer.extend bytes)).2)
    (t : Terminal) (files : FileSystem) (bytes : Bytes) (h : P t files) :
    P (t.interpret files bytes).1 (t.interpret files bytes).2 := by
  induction hn : bytes.length using Nat.strong_induction_on generalizing t files bytes with
  | _ n ih =>
    subst hn
    cases bytes with
    | nil =>
      rw [interpret_nil]
      exact h
    | cons byte rest =>
      cases hopen : t.directive with
      | none =>
        rw [interpret_of_none hopen]
        exact ih rest.length (by simp) _ _ _ (parse t files byte h) rfl
      | some buffer =>
        rcases esc_cases (byte :: rest) with hfree | ⟨payload, tail, hx, hfree⟩
        · rw [interpret_of_payload hopen files (by simp) hfree]
          exact collect t files buffer _ hopen h
        · rw [hx, interpret_of_escape hopen files hfree]
          exact ih tail.length (by rw [hx]; simp; omega) _ _ _
            (parse _ _ _ (finish t files buffer payload hopen h)) rfl

/-! ### Bytes of one action -/

section Action

variable {t : Terminal}

/-- Bytes that complete nothing change the parser alone. -/
theorem interpret_of_feed (hopen : t.directive = none) (files : FileSystem) {bytes : Bytes}
    {p : Parser} (hfeed : t.parser.feed bytes = ([], p)) :
    t.interpret files bytes = ({ t with parser := p }, files) := by
  induction bytes generalizing t with
  | nil =>
    obtain rfl : t.parser = p := congrArg Prod.snd hfeed
    exact interpret_nil t files
  | cons byte rest ih =>
    simp only [Parser.feed, Prod.mk.injEq, List.append_eq_nil_iff,
      Option.toList_eq_nil_iff] at hfeed
    obtain ⟨⟨hnone, hactions⟩, hparser⟩ := hfeed
    have hparse : t.parse byte = { t with parser := (t.parser.advance byte).2 } := by
      unfold parse
      dsimp only
      rw [hnone]
    rw [interpret_of_none hopen, hparse]
    exact ih hopen (Prod.ext hactions hparser)

/-- Bytes the last of which completes an action. -/
theorem interpret_of_action (hopen : t.directive = none) (files : FileSystem) {lead : Bytes}
    {byte : UInt8} {p p' : Parser} {action : Action} (hfeed : t.parser.feed lead = ([], p))
    (hlast : p.advance byte = (some action, p')) :
    t.interpret files (lead ++ [byte]) = ({ t with parser := p' }.perform action, files) := by
  have hopen' : ({ t with parser := p } : Terminal).directive = none := hopen
  rw [interpret_append, interpret_of_feed hopen files hfeed]
  dsimp only
  rw [interpret_of_none hopen', interpret_nil, parse]
  dsimp only
  rw [hlast]

/-- The same between sequences, where the parser is left as it was. -/
theorem interpret_of_start (hopen : t.directive = none) (hstart : t.parser = .start)
    (files : FileSystem) {lead : Bytes} {byte : UInt8} {p : Parser} {action : Action}
    (hfeed : Parser.start.feed lead = ([], p))
    (hlast : p.advance byte = (some action, .start)) :
    t.interpret files (lead ++ [byte]) = (t.perform action, files) := by
  have hself : { t with parser := .start } = t := by rw [← hstart]
  rw [interpret_of_action hopen files (hstart ▸ hfeed) hlast, hself]

end Action

/-! ### Operations -/

/-- Something that its owner does with a terminal. -/
inductive Operation where
  | write (bytes : Bytes)
  | update
  | reconnect (responseId : String)
  | resize (height width : UInt16)
  | clear
  | clearLast (guard : Option Nat)
  | clickPaste (click : Click) (setting : PasteSetting) (fallback : Option String)
  | saveFile (path : String) (content : Bytes)
  | takeReplies
  | drainEvents
  | setExtractor (extractor : TextExtractor)
  /-- Nothing is done with the terminal, but the files are others now. -/
  | changeFiles (files : FileSystem)

/-- **The terminal and the files after an operation.** What an operation answers is left out. -/
def operate (t : Terminal) (files : FileSystem) : Operation → Terminal × FileSystem
  | .write bytes => t.write files bytes
  | .update => (t.update, files)
  | .reconnect responseId => (t.reconnect responseId, files)
  | .resize height width => (t.resize height.toNat width.toNat, files)
  | .clear => (t.clear, files)
  | .clearLast guard => (t.clearLast guard, files)
  | .clickPaste click setting fallback => ((t.clickPaste files click setting fallback).2, files)
  | .saveFile path content => t.saveFile files path content
  | .takeReplies => (t.takeReplies.2, files)
  | .drainEvents => (t.drainEvents.2, files)
  | .setExtractor extractor => ({ t with extractor }, files)
  | .changeFiles files => (t, files)

/-- **What a click keeps.** It does nothing to a terminal but to take the newest entry of the
scrollback back. -/
theorem clickPaste_induction {P : Terminal → Prop} {t : Terminal} (files : FileSystem)
    (click : Click) (setting : PasteSetting) (fallback : Option String) (same : P t)
    (taken : ∀ guard, P (t.clearLast guard)) :
    P (t.clickPaste files click setting fallback).2 := by
  have hguard : ∀ (p : Prop) [Decidable p] (guard : Option Nat),
      P (if p then t.clearLast guard else t) := by
    intro p _ guard
    split
    · exact taken guard
    · exact same
  unfold clickPaste
  split
  · exact same
  · exact hguard _ _

/-- **The terminal and the files after a run.** -/
def run (t : Terminal) (files : FileSystem) : List Operation → Terminal × FileSystem
  | [] => (t, files)
  | operation :: rest => (t.operate files operation).1.run (t.operate files operation).2 rest

theorem run_append (t : Terminal) (files : FileSystem) (x y : List Operation) :
    t.run files (x ++ y) = (t.run files x).1.run (t.run files x).2 y := by
  induction x generalizing t files with
  | nil => rfl
  | cons operation x ih => exact ih _ _

/-- **Output in any number of pieces** comes to what it comes to in one, but for the flag that an
update is due. -/
theorem run_writes (t : Terminal) (files : FileSystem) (chunks : List Bytes) :
    ∃ due, t.run files (chunks.map .write) =
      ((t.interpret files chunks.flatten).1.marked due, (t.interpret files chunks.flatten).2) := by
  have hwrite : ∀ (t : Terminal) files bytes, ∃ due, t.write files bytes =
      ((t.interpret files bytes).1.marked due, (t.interpret files bytes).2) := by
    intro t files bytes
    unfold write
    split
    · next hempty =>
      rw [List.isEmpty_iff.mp hempty, interpret_nil]
      exact ⟨t.needsUpdating, rfl⟩
    · exact interpret_marked t true files bytes
  induction chunks generalizing t files with
  | nil =>
    rw [List.flatten_nil, interpret_nil]
    exact ⟨t.needsUpdating, rfl⟩
  | cons bytes rest ih =>
    obtain ⟨due₁, hfirst⟩ := hwrite t files bytes
    obtain ⟨due₂, hrest⟩ := ih (t.write files bytes).1 (t.write files bytes).2
    rw [hfirst] at hrest
    obtain ⟨due₃, hmarked⟩ := interpret_marked (t.interpret files bytes).1 due₁
      (t.interpret files bytes).2 rest.flatten
    refine ⟨due₂, ?_⟩
    rw [List.flatten_cons, interpret_append]
    change (t.write files bytes).1.run (t.write files bytes).2 (rest.map .write) = _
    rw [hfirst, hrest, hmarked]
    rfl

end GlassTty.Terminal
