import GlassTty.Screen.Row
import GlassTty.Text.Blank

/-!
# Where a command line begins

The prompt of a shell has three parts: a lead by which its row is recognised, a body that the shell
expands, and a mark behind which the command begins (`GlassTty.PromptFormat`). A row is a command
line if it begins with the lead, or if the shell reported a prompt on it and it does not continue
another row; the command begins behind the first occurrence of the mark
(`GlassTty.promptOffset`).
-/

namespace GlassTty

/-- The parts of a shell prompt. -/
structure PromptFormat where
  lead : String
  body : String
  mark : String
  deriving DecidableEq, Repr, Inhabited

namespace PromptFormat

/-- The column where the body of the prompt begins. -/
def leadLength (p : PromptFormat) : Nat :=
  p.lead.length

/-- The prompt as the shell is told it. -/
def shellPrompt (p : PromptFormat) : String :=
  p.lead ++ p.body ++ p.mark ++ " "

/-- Whether a row with this text and this mark is a command line. -/
def recognises (p : PromptFormat) (line : List Char) (mark : Option PromptMark) : Bool :=
  mark.any (!·.isContinuation) || (!p.lead.isEmpty && Text.hasPrefix p.lead.toList line)

end PromptFormat

/-- **The column where the command begins** on a row, zero if the row is no command line. -/
def promptOffset (line : String) (prompt : Option PromptFormat) (mark : Option PromptMark) : Nat :=
  match prompt with
  | none => 0
  | some p =>
    if p.recognises line.toList mark then
      match Text.cut? p.mark.toList line.toList with
      | some (before, _) => before.length + p.mark.length
      | none => 0
    else 0

end GlassTty
