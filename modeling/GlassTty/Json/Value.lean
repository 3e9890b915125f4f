import GlassTty.Number.Double

/-!
# JSON values

A value is one of six kinds. The members of an object are kept in increasing order of their names,
one member a name; `GlassTty.Json.Object.insert` keeps the order and lets the last member of a name
win. A number is an integer where the text allows it and a double otherwise.
-/

namespace GlassTty.Json

/-- A number: an integer that fits a 64-bit word, or a double. -/
inductive Number where
  | integer (value : Int)
  | double (value : Double)
  deriving DecidableEq, Repr, Inhabited

/-- A JSON value. -/
inductive Value where
  | null
  | bool (value : Bool)
  | number (value : Number)
  | string (value : String)
  | array (elements : List Value)
  | object (members : List (String × Value))
  deriving Inhabited

/-- The members of an object, in increasing order of their names. -/
abbrev Object := List (String × Value)

namespace Value

/-- A natural number as a value. -/
def nat (n : Nat) : Value :=
  .number (.integer n)

/-- The text of a value that is a string. -/
def asString? : Value → Option String
  | .string text => some text
  | _ => none

end Value

namespace Object

/-- The value of a member. -/
def get? (o : Object) (name : String) : Option Value :=
  o.lookup name

/-- Add a member, in place of one of the same name. -/
def insert (name : String) (value : Value) : Object → Object
  | [] => [(name, value)]
  | (other, old) :: rest =>
    if name = other then (name, value) :: rest
    else if name < other then (name, value) :: (other, old) :: rest
    else (other, old) :: insert name value rest

/-- Remove a member. -/
def erase (o : Object) (name : String) : Object :=
  o.filter fun (other, _) => other ≠ name

/-- The object with the given members, a later one in place of an earlier one. -/
def ofList (members : List (String × Value)) : Object :=
  members.foldl (fun o (name, value) => insert name value o) []

end Object

end GlassTty.Json
