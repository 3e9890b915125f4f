import GlassTty.Proofs.Terminal.Frame
import GlassTty.Proofs.Terminal.Run

/-!
# What requests leave alone

What is asked of a terminal besides interpreting output is about its screens, its scrollback and
what is told to the viewer. The rest of what stands around the screens is not looked at, and is what
it was afterwards, but that another size drops the directive that is open
(`GlassTty.Surroundings.afterRequest`). So a request does the same in other surroundings
(`GlassTty.Terminal.operate_within`).
-/

namespace GlassTty

namespace Terminal

variable (t : Terminal)

/-- Whether a window has the size of the terminal already. -/
def hasSize (height width : Nat) : Bool :=
  max height 1 = t.height ∧ max width 1 = t.width

/-- Whether a click takes the newest entry of the scrollback back, if it may be: it names an entry,
and nothing is typed on the command line. -/
def takesBack (click : Click) (fallback : Option String) : Bool :=
  let row := t.activeRows - 1
  let line := t.main.rowText row
  let rowMark := t.main.mark? row
  let cwd := (markedDirectory? rowMark <|> fallback).getD ""
  let mark := rowMark <|> (if cwd.isEmpty then none else some (.prompt cwd))
  t.activeRows ≠ 0 ∧ (click.options.clearLast.filter (0 < ·)).isSome ∧
    isEmptyCommand line (t.reporter.promptOffset line mark)

/-- **The terminal after a click**, which types nothing itself. -/
theorem clickPaste_snd (files : FileSystem) (click : Click) (setting : PasteSetting)
    (fallback : Option String) :
    (t.clickPaste files click setting fallback).2 =
      if t.takesBack click fallback then t.clearLast (click.options.clearLast.filter (0 < ·))
      else t := by
  unfold clickPaste takesBack
  dsimp only
  split
  · next hnone => simp [hnone]
  · next hactive =>
    simp only [decide_eq_true_eq, ne_eq, hactive, not_false_eq_true, true_and]

end Terminal

namespace Terminal.Operation

/-- Whether the operation is output. -/
def isWrite : Operation → Bool
  | .write _ => true
  | _ => false

/-- Whether the operation is for another size than that of the terminal. -/
def changesSize (t : Terminal) : Operation → Bool
  | .resize height width => !t.hasSize height.toNat width.toNat
  | _ => false

/-- Whether the operation is for something else to be there: another size, a clean screen, or an
entry taken back, which a click may be for too. -/
def alters : Operation → Bool
  | .resize _ _ => true
  | .clear => true
  | .clearLast _ => true
  | .clickPaste _ _ _ => true
  | _ => false

/-- The output of an operation. -/
def written : Operation → Bytes
  | .write bytes => bytes
  | _ => []

/-- An operation is output or a request. -/
theorem write_or_request (operation : Operation) :
    (∃ bytes, operation = .write bytes) ∨ operation.isWrite = false := by
  cases operation with
  | write bytes => exact Or.inl ⟨bytes, rfl⟩
  | _ => exact Or.inr rfl

theorem written_of_request {operation : Operation} (h : operation.isWrite = false) :
    operation.written = [] := by
  cases operation with
  | write bytes => cases h
  | _ => rfl

end Terminal.Operation

namespace Surroundings

/-- An update is due. -/
def due (s : Surroundings) : Surroundings :=
  { s with needsUpdating := true }

/-- The surroundings after the newest entry was to be taken back. -/
def afterClearLast (s : Surroundings) (t : Terminal) (guard : Option Nat) : Surroundings :=
  if (t.clearLast? guard).isSome then s.due else s

/-- **The surroundings after a request** of a terminal with the screens of `t`. -/
def afterRequest (s : Surroundings) (t : Terminal) (files : FileSystem) :
    Terminal.Operation → Surroundings
  | .write _ => s
  | .update => s.told t.tidy.told
  | .reconnect responseId => { s.due with pendingReconnect := some responseId }
  | .resize height width =>
    if t.hasSize height.toNat width.toNat then s.due else { s.due with directive := none }
  | .clear => s.due
  | .clearLast guard => s.afterClearLast t guard
  | .clickPaste click _ fallback =>
    if t.takesBack click fallback then
      s.afterClearLast t (click.options.clearLast.filter (0 < ·))
    else s
  | .saveFile path content =>
    { s with events := s.events ++ [.directive (Directive.saveFile files path content).1] }
  | .takeReplies => s
  | .drainEvents => { s with events := [] }
  | .setExtractor extractor => { s with extractor }
  | .changeFiles _ => s

/-- A request changes neither the setup nor the parser. -/
theorem frame_afterRequest (s : Surroundings) (t : Terminal) (files : FileSystem)
    (operation : Terminal.Operation) :
    (s.afterRequest t files operation).setup = s.setup ∧
      (s.afterRequest t files operation).parser = s.parser := by
  have hclear : ∀ guard, (s.afterClearLast t guard).setup = s.setup ∧
      (s.afterClearLast t guard).parser = s.parser := by
    intro guard
    unfold afterClearLast
    split <;> exact ⟨rfl, rfl⟩
  unfold afterRequest
  cases operation with
  | resize height width =>
    dsimp only
    split <;> exact ⟨rfl, rfl⟩
  | clearLast guard => exact hclear guard
  | clickPaste click setting fallback =>
    dsimp only
    split
    · exact hclear _
    · exact ⟨rfl, rfl⟩
  | _ => exact ⟨rfl, rfl⟩

/-- **A request leaves the directive alone**, but for another size. -/
theorem directive_afterRequest (s : Surroundings) (t : Terminal) (files : FileSystem)
    (operation : Terminal.Operation) :
    (s.afterRequest t files operation).directive =
      if operation.changesSize t then none else s.directive := by
  have hclear : ∀ guard, (s.afterClearLast t guard).directive = s.directive := by
    intro guard
    unfold afterClearLast
    split <;> rfl
  unfold afterRequest Terminal.Operation.changesSize
  cases operation with
  | resize height width =>
    by_cases hsame : t.hasSize height.toNat width.toNat = true
    · simp [hsame, due]
    · simp [hsame]
  | clearLast guard => exact hclear guard
  | clickPaste click setting fallback =>
    dsimp only
    split
    · exact hclear _
    · rfl
  | _ => rfl

end Surroundings

namespace Terminal

section Within

variable (t : Terminal) (s : Surroundings)

theorem resize_within (height width : Nat) :
    (t.within s).resize height width =
      (t.resize height width).within
        (if t.hasSize height width then s.due else { s.due with directive := none }) := by
  have hrebuild : ∀ u : Terminal, (u.within s.due).rebuild (max height 1) (max width 1) =
      (u.rebuild (max height 1) (max width 1)).within { s.due with directive := none } := by
    intro u
    unfold rebuild
    rw [show (u.within s.due).keptRow? = u.keptRow? from rfl]
    cases u.keptRow? <;> rfl
  have hscroll : ({ t.within s with needsUpdating := true } : Terminal).scrollToPrompt =
      ({ t with needsUpdating := true } : Terminal).scrollToPrompt.within s.due :=
    scrollToPrompt_within { t with needsUpdating := true } s.due
  by_cases hsame : max height 1 = t.height ∧ max width 1 = t.width
  · rw [hasSize, decide_eq_true hsame, if_pos rfl]
    unfold resize
    dsimp only
    rw [if_pos hsame]
    exact if_pos hsame
  · rw [hasSize, decide_eq_false hsame, if_neg Bool.false_ne_true]
    unfold resize
    dsimp only
    rw [if_neg hsame, hscroll]
    exact (if_neg hsame).trans (hrebuild _)

theorem clear_within : (t.within s).clear = t.clear.within s.due := by
  unfold clear
  dsimp only
  rw [ite_within]
  rfl

theorem clearLast_within (guard : Option Nat) :
    (t.within s).clearLast guard = (t.clearLast guard).within (s.afterClearLast t guard) := by
  unfold Surroundings.afterClearLast clearLast clearLast?
  rw [show (t.within s).reporter = t.reporter from rfl]
  cases t.reporter.clearLast? guard <;> rfl

theorem clickPaste_within (files : FileSystem) (click : Click) (setting : PasteSetting)
    (fallback : Option String) :
    ((t.within s).clickPaste files click setting fallback).2 =
      (t.clickPaste files click setting fallback).2.within
        (if t.takesBack click fallback then
          s.afterClearLast t (click.options.clearLast.filter (0 < ·))
        else s) := by
  rw [clickPaste_snd, clickPaste_snd, clearLast_within,
    show (t.within s).takesBack click fallback = t.takesBack click fallback from rfl]
  split <;> rfl

/-- **What a request does not look at makes no difference to it.** -/
theorem operate_within (files : FileSystem) {operation : Operation}
    (h : operation.isWrite = false) :
    (t.within s).operate files operation =
      ((t.operate files operation).1.within (s.afterRequest t files operation),
        (t.operate files operation).2) := by
  cases operation with
  | write bytes => cases h
  | update => exact congrArg (·, files) (update_within t s)
  | resize height width => exact congrArg (·, files) (resize_within t s _ _)
  | clear => exact congrArg (·, files) (clear_within t s)
  | clearLast guard => exact congrArg (·, files) (clearLast_within t s guard)
  | clickPaste click setting fallback =>
    exact congrArg (·, files) (clickPaste_within t s files click setting fallback)
  | _ => rfl

/-- **The surroundings after a request** are those before it, but for what it is about. -/
theorem surroundings_operate (files : FileSystem) {operation : Operation}
    (h : operation.isWrite = false) :
    (t.operate files operation).1.surroundings =
      t.surroundings.afterRequest t files operation :=
  congrArg (·.1.surroundings) (operate_within t t.surroundings files h)

end Within

end Terminal

end GlassTty
