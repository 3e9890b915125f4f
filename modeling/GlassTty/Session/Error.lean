import GlassTty.Text.Quoted
import GlassTty.Text.Utf8

/-!
# What can go wrong with sessions

A session cannot be opened if its program cannot be given to the system
(`GlassTty.SpawnFault`) or when no session is opened any more, and a session can only be asked about
while it lives (`GlassTty.SessionError`).

Texts for the system end at a NUL character, so none may hold one: the program, its arguments, the
variables and the directory to begin in are looked at in this order (`GlassTty.spawnFault?`).
-/

namespace GlassTty

/-- Why a program cannot be run. -/
inductive SpawnFault where
  | emptyCommand
  /-- A text for the system holds a NUL character behind so many bytes. -/
  | nulByte (position : Nat)
  /-- The system has no process or no terminal to give. -/
  | refused (reason : String)
  deriving DecidableEq, Repr, Inhabited

/-- The wording of such a reason. -/
def SpawnFault.message : SpawnFault → String
  | .emptyCommand => "empty command"
  | .nulByte position =>
    "nul byte found in provided data at position: " ++ toString position
  | .refused reason => reason

/-- Why a session is not to be had. -/
inductive SessionError where
  | spawn (command : String) (fault : SpawnFault)
  | shuttingDown
  | unknownSession (name : String)
  deriving DecidableEq, Repr, Inhabited

/-- The wording of a refusal. -/
def SessionError.message : SessionError → String
  | .spawn command fault => "failed to spawn " ++ Text.quote command ++ ": " ++ fault.message
  | .shuttingDown => "multiplexer is shutting down"
  | .unknownSession name => "no session named " ++ Text.quote name

/-- The number of bytes before the first NUL character. -/
def nulPosition? (text : String) : Option Nat :=
  (utf8Bytes text).findIdx? (· = 0)

/-- **Why a program with these arguments, this environment and this directory to begin in cannot be
run**, as far as that can be told beforehand. -/
def spawnFault? (arguments : List String) (environment : List (String × String))
    (directory : Option String) : Option SpawnFault :=
  match arguments with
  | [] => some .emptyCommand
  | _ =>
    let texts :=
      arguments ++ environment.map (fun (name, value) => name ++ "=" ++ value) ++ directory.toList
    (texts.findSome? nulPosition?).map .nulByte

/-- The refusal of such a program, if it cannot be run. -/
def spawnError? (arguments : List String) (environment : List (String × String))
    (directory : Option String) : Option SessionError :=
  (spawnFault? arguments environment directory).map
    (.spawn (" ".intercalate arguments))

end GlassTty
