import GlassTty.Shell.Word

/-!
# Parameters

What words of a script can refer to (`GlassTty.Shell.Scope`): the variables, the arguments of the
script and the outcome of the last command.
-/

namespace GlassTty.Shell

/-- A variable of the shell. -/
structure Variable where
  value : List Char
  /-- Programs are given the variable. -/
  exported : Bool := false
  deriving DecidableEq, Repr, Inhabited

/-- What words can refer to. -/
structure Scope where
  /-- The name of the script or of the shell. -/
  name : List Char
  arguments : List (List Char) := []
  bindings : List (List Char × Variable) := []
  /-- The outcome of the last command. -/
  status : Nat := 0
  /-- The number of the shell's process. -/
  self : Nat := 0
  /-- The number of the last command that was not waited for. -/
  lastBackground : Option Nat := none
  /-- The letters of the options that are on. -/
  options : List Char := []
  deriving DecidableEq, Repr, Inhabited

namespace Scope

/-- Whether parameters have to be set before they are used. -/
def strict (s : Scope) : Bool :=
  s.options.contains 'u'

/-- The value of a variable. -/
def get? (s : Scope) (name : List Char) : Option (List Char) :=
  (s.bindings.lookup name).map (·.value)

/-- Set a variable; whether programs are given it does not change. -/
def set (s : Scope) (name value : List Char) : Scope :=
  let exported := ((s.bindings.lookup name).map (·.exported)).getD false
  let others := s.bindings.filter fun (other, _) => other ≠ name
  { s with bindings := others ++ [(name, { value, exported })] }

/-- Let programs be given a variable. -/
def share (s : Scope) (name : List Char) : Scope :=
  let value := (s.get? name).getD []
  let others := s.bindings.filter fun (other, _) => other ≠ name
  { s with bindings := others ++ [(name, { value, exported := true })] }

/-- Remove a variable. -/
def unset (s : Scope) (name : List Char) : Scope :=
  { s with bindings := s.bindings.filter fun (other, _) => other ≠ name }

/-- The variables that programs are given. -/
def environment (s : Scope) : List (List Char × List Char) :=
  (s.bindings.filter (·.2.exported)).map fun (name, v) => (name, v.value)

/-- The text of a number. -/
def numberText (n : Nat) : List Char :=
  Nat.toDigits 10 n

/-- The value of a parameter, if it is set. The arguments together are no single value. -/
def parameter? (s : Scope) (name : List Char) : Option (List Char) :=
  match name with
  | ['#'] => some (numberText s.arguments.length)
  | ['?'] => some (numberText s.status)
  | ['$'] => some (numberText s.self)
  | ['!'] => s.lastBackground.map numberText
  | ['-'] => some s.options
  | ['0'] => some s.name
  | ['@'] => if s.arguments.isEmpty then none else some (Text.join [' '] s.arguments)
  | ['*'] => if s.arguments.isEmpty then none else some (Text.join [' '] s.arguments)
  | _ =>
    if name.all Char.isDigit then
      s.arguments[(String.ofList name).toNat?.getD 0 - 1]?
    else s.get? name

/-- The characters that separate fields. -/
def separators (s : Scope) : List Char :=
  (s.get? "IFS".toList).getD [' ', '\t', '\n']

end Scope

end GlassTty.Shell
