import GlassTty.Shell.Word

/-!
# Arithmetic

The value of an arithmetic expression (`GlassTty.Shell.Arithmetic.evaluate`): integers of sixty-four
bits, the usual operators with the usual precedence, and names of variables, which count as zero
without a value. An expression may set variables; what it has set is told with its value. In a part
that does not count, such as the second operand of `&&` behind a zero, nothing is set and nothing is
divided by zero.
-/

namespace GlassTty.Shell.Arithmetic

/-- A symbol of an expression. -/
inductive Symbol where
  | number (value : Int)
  | name (name : List Char)
  | operator (text : String)
  deriving DecidableEq, Repr, Inhabited

/-- The operators, longer ones first. -/
def operators : List String :=
  ["<<=", ">>=", "<<", ">>", "<=", ">=", "==", "!=", "&&", "||", "+=", "-=", "*=", "/=", "%=", "&=",
    "|=", "^=", "+", "-", "*", "/", "%", "<", ">", "&", "|", "^", "~", "!", "(", ")", "?", ":", "="]

/-- The value of a digit in a base of up to sixteen. -/
def digit? (base : Nat) (c : Char) : Option Nat :=
  let value :=
    if c.isDigit then c.toNat - 48
    else if 'a' ≤ c ∧ c ≤ 'f' then c.toNat - 87
    else if 'A' ≤ c ∧ c ≤ 'F' then c.toNat - 55
    else 99
  if value < base then some value else none

/-- The number that all of a text is, in some base. -/
def inBase? (base : Nat) (text : List Char) : Option Nat :=
  if text.isEmpty then none
  else
    text.foldl (fun n? c => do return (← n?) * base + (← digit? base c)) (some 0)

/-- The number that a text is: in base sixteen behind `0x`, in base eight behind `0`, else in base
ten. -/
def constant? (text : List Char) : Option Nat :=
  match text with
  | '0' :: 'x' :: rest => inBase? 16 rest
  | '0' :: 'X' :: rest => inBase? 16 rest
  | '0' :: c :: rest => inBase? 8 (c :: rest)
  | _ => inBase? 10 text

/-- The symbols of an expression, the number bounding the steps. -/
def symbols? : Nat → List Char → Option (List Symbol)
  | 0, _ => none
  | _, [] => some []
  | fuel + 1, c :: rest =>
    if isBlank c then symbols? fuel rest
    else if c.isDigit then do
      let text := (c :: rest).takeWhile Char.isAlphanum
      let value ← constant? text
      let more ← symbols? fuel ((c :: rest).drop text.length)
      return .number value :: more
    else if isNameStart c then do
      let text := (c :: rest).takeWhile isNameChar
      let more ← symbols? fuel ((c :: rest).drop text.length)
      return .name text :: more
    else do
      let operator ← operators.find? fun op => Text.hasPrefix op.toList (c :: rest)
      let more ← symbols? fuel ((c :: rest).drop operator.length)
      return .operator operator :: more

/-- How tightly an operator between two values binds. -/
def precedence? (operator : String) : Option Nat :=
  match operator with
  | "||" => some 1
  | "&&" => some 2
  | "|" => some 3
  | "^" => some 4
  | "&" => some 5
  | "==" => some 6
  | "!=" => some 6
  | "<" => some 7
  | ">" => some 7
  | "<=" => some 7
  | ">=" => some 7
  | "<<" => some 8
  | ">>" => some 8
  | "+" => some 9
  | "-" => some 9
  | "*" => some 10
  | "/" => some 10
  | "%" => some 10
  | _ => none

/-- A number as a word of sixty-four bits with a sign. -/
def wrap (n : Int) : Int :=
  Int.bmod n 0x10000000000000000

/-- A number for a truth value. -/
def ofBool (b : Bool) : Int :=
  if b then 1 else 0

/-- The bits of a number. -/
def bits (n : Int) : Nat :=
  (n % 0x10000000000000000).toNat

/-- The value of an operator between two values; there is none for a division by zero. -/
def combine? (operator : String) (x y : Int) : Option Int :=
  match operator with
  | "||" => some (ofBool (x ≠ 0 ∨ y ≠ 0))
  | "&&" => some (ofBool (x ≠ 0 ∧ y ≠ 0))
  | "|" => some (wrap (bits x ||| bits y))
  | "^" => some (wrap (bits x ^^^ bits y))
  | "&" => some (wrap (bits x &&& bits y))
  | "==" => some (ofBool (x = y))
  | "!=" => some (ofBool (x ≠ y))
  | "<" => some (ofBool (x < y))
  | ">" => some (ofBool (y < x))
  | "<=" => some (ofBool (x ≤ y))
  | ">=" => some (ofBool (y ≤ x))
  | "<<" => some (wrap (x * Nat.pow 2 (bits y % 64)))
  | ">>" => some (x / Nat.pow 2 (bits y % 64))
  | "+" => some (wrap (x + y))
  | "-" => some (wrap (x - y))
  | "*" => some (wrap (x * y))
  | "/" => if y = 0 then none else some (wrap (x.tdiv y))
  | "%" => if y = 0 then none else some (wrap (x.tmod y))
  | _ => none

/-! ### Evaluation -/

/-- Why an expression has no value. -/
inductive Fault where
  /-- Something else is expected. -/
  | expecting (what : String)
  | divisionByZero
  /-- The value of a variable is no number. -/
  | badNumber (text : List Char)
  deriving DecidableEq, Repr, Inhabited

/-- The wording of a fault in an expression. -/
def Fault.message (fault : Fault) (expression : List Char) : List Char :=
  let about (reason : String) : List Char :=
    "arithmetic expression: ".toList ++ reason.toList ++ ": \"".toList ++ expression ++ ['"']
  match fault with
  | .expecting what => about ("expecting " ++ what)
  | .divisionByZero => about "division by zero"
  | .badNumber text => "Illegal number: ".toList ++ text

/-- The state of an evaluation. -/
structure State where
  /-- The symbols that are left. -/
  symbols : List Symbol
  /-- The variables that were set, the last one first. -/
  assigned : List (List Char × Int) := []
  /-- The part that is read counts. -/
  counts : Bool := true

/-- An evaluation. -/
abbrev Evaluation := StateT State (Except Fault)

/-- The values of variables. -/
abbrev Values := List Char → Option (List Char)

/-- The number that the value of a variable is. -/
def numberOf? (text : List Char) : Option Int :=
  match Text.trim text with
  | [] => some 0
  | '-' :: digits => (constant? digits).map fun n => wrap (-(n : Int))
  | '+' :: digits => (constant? digits).map fun n => wrap n
  | digits => (constant? digits).map fun n => wrap n

/-- The value of a variable. -/
def valueOf (values : Values) (name : List Char) : Evaluation Int := do
  match (← get).assigned.lookup name with
  | some value => return value
  | none =>
    match values name with
    | none => return 0
    | some text =>
      match numberOf? text with
      | some value => return value
      | none => throw (.badNumber text)

/-- Set a variable, if that counts. -/
def assign (name : List Char) (value : Int) : Evaluation Int := do
  modify fun s => if s.counts then { s with assigned := (name, value) :: s.assigned } else s
  return value

/-- The value of an operator between two values; in a part that does not count any value will do. -/
def combine (operator : String) (x y : Int) : Evaluation Int := do
  match combine? operator x y with
  | some value => return value
  | none => if (← get).counts then throw .divisionByZero else return 0

/-- The operator that a setting goes by; none for a plain one. -/
def assigning? (operator : String) : Option (Option String) :=
  match operator with
  | "=" => some none
  | "+=" => some (some "+")
  | "-=" => some (some "-")
  | "*=" => some (some "*")
  | "/=" => some (some "/")
  | "%=" => some (some "%")
  | "<<=" => some (some "<<")
  | ">>=" => some (some ">>")
  | "&=" => some (some "&")
  | "|=" => some (some "|")
  | "^=" => some (some "^")
  | _ => none

/-- Evaluate a part that counts only under some condition. -/
def onlyIf (condition : Bool) (part : Evaluation Int) : Evaluation Int := do
  let counts := (← get).counts
  modify ({ · with counts := counts && condition })
  let value ← part
  modify ({ · with counts })
  return value

/-- Pass over an operator that has to be there. -/
def expect (operator : String) : Evaluation Unit := do
  match (← get).symbols with
  | .operator found :: rest =>
    if found = operator then modify ({ · with symbols := rest })
    else throw (.expecting ("'" ++ operator ++ "'"))
  | _ => throw (.expecting ("'" ++ operator ++ "'"))

mutual

/-- The value of a setting, or of an expression without one. The number bounds the steps. -/
def setting (values : Values) : Nat → Evaluation Int
  | 0 => throw (.expecting "primary")
  | fuel + 1 => do
    match (← get).symbols with
    | .name name :: .operator operator :: rest =>
      match assigning? operator with
      | some none =>
        modify ({ · with symbols := rest })
        assign name (← setting values fuel)
      | some (some operator) =>
        modify ({ · with symbols := rest })
        let y ← setting values fuel
        assign name (← combine operator (← valueOf values name) y)
      | none => choice values fuel
    | _ => choice values fuel

/-- The value of an expression that may depend on a condition. -/
def choice (values : Values) : Nat → Evaluation Int
  | 0 => throw (.expecting "primary")
  | fuel + 1 => do
    let x ← operand values fuel
    let x ← operations values fuel 1 x
    match (← get).symbols with
    | .operator "?" :: rest =>
      modify ({ · with symbols := rest })
      let yes ← onlyIf (x ≠ 0) (setting values fuel)
      expect ":"
      let no ← onlyIf (x = 0) (choice values fuel)
      return if x ≠ 0 then yes else no
    | _ => return x

/-- Go on with the operators behind a value that bind at least as tightly as `least`. -/
def operations (values : Values) : Nat → Nat → Int → Evaluation Int
  | 0, _, _ => throw (.expecting "primary")
  | fuel + 1, least, x => do
    match (← get).symbols with
    | .operator operator :: rest =>
      match precedence? operator with
      | some precedence =>
        if precedence < least then return x
        else
          modify ({ · with symbols := rest })
          let matters := (operator ≠ "&&" || x ≠ 0) && (operator ≠ "||" || x = 0)
          let y ← onlyIf matters do
            let y ← operand values fuel
            operations values fuel (precedence + 1) y
          operations values fuel least (← combine operator x y)
      | none => return x
    | _ => return x

/-- The value of an operand. -/
def operand (values : Values) : Nat → Evaluation Int
  | 0 => throw (.expecting "primary")
  | fuel + 1 => do
    match (← get).symbols with
    | .number value :: rest =>
      modify ({ · with symbols := rest })
      return wrap value
    | .name name :: rest =>
      modify ({ · with symbols := rest })
      valueOf values name
    | .operator "-" :: rest =>
      modify ({ · with symbols := rest })
      return wrap (-(← operand values fuel))
    | .operator "+" :: rest =>
      modify ({ · with symbols := rest })
      operand values fuel
    | .operator "!" :: rest =>
      modify ({ · with symbols := rest })
      return ofBool ((← operand values fuel) = 0)
    | .operator "~" :: rest =>
      modify ({ · with symbols := rest })
      return -(← operand values fuel) - 1
    | .operator "(" :: rest =>
      modify ({ · with symbols := rest })
      let value ← setting values fuel
      expect ")"
      return value
    | _ => throw (.expecting "primary")

end

/-- **The value of an expression**, and the variables it sets, in order. -/
def evaluate (values : Values) (text : List Char) :
    Except Fault (Int × List (List Char × Int)) :=
  match symbols? (text.length + 1) text with
  | none => .error (.expecting "primary")
  | some [] => .ok (0, [])
  | some symbols =>
    match (setting values (4 * (symbols.length + 2))).run { symbols } with
    | .ok (value, { symbols := [], assigned, .. }) => .ok (value, assigned.reverse)
    | .ok _ => .error (.expecting "EOF")
    | .error fault => .error fault

end GlassTty.Shell.Arithmetic
