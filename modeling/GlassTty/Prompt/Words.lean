import GlassTty.Text.Blank

/-!
# The words of a command line

A command line is cut into pieces whose concatenation is the line: runs of blanks, runs of one
delimiter, and words (`GlassTty.Words.split?`). Between quotes and behind a backslash a character
belongs to its word whatever it is; a line that ends there is not cut at all. An ampersand at the
end of the last piece stands alone.

The reading is a machine with two parts: the quoting (`GlassTty.Words.Quoting`), and the kind of the
piece in progress (`GlassTty.Words.Kind`).
-/

namespace GlassTty.Words

/-- The characters that separate commands and redirections. -/
def delimiters : List Char := ['<', '>', ';']

/-- Where a character stands with respect to quotes and backslashes. -/
inductive Quoting where
  | bare
  /-- Behind a backslash outside quotes. -/
  | escaped
  | single
  | double
  /-- Behind a backslash between double quotes. -/
  | doubleEscaped
  deriving DecidableEq, Repr, Inhabited

/-- The quoting after a character. -/
def Quoting.next (q : Quoting) (c : Char) : Quoting :=
  match q with
  | .bare =>
    if c = '\\' then .escaped else if c = '\'' then .single else if c = '"' then .double else .bare
  | .escaped => .bare
  | .single => if c = '\'' then .bare else .single
  | .double => if c = '\\' then .doubleEscaped else if c = '"' then .bare else .double
  | .doubleEscaped => .double

/-- The kind of a piece. -/
inductive Kind where
  | space
  | word
  | delimiter (char : Char)
  deriving DecidableEq, Repr, Inhabited

/-- The kind of piece that an unquoted character belongs to. -/
def kindOf (c : Char) : Kind :=
  if isBlank c then .space else if delimiters.contains c then .delimiter c else .word

/-- Cut the rest of a line, its `quoting` and the `kind` of the piece in progress being given. The
first piece of the result is the rest of the one in progress; a quoted character continues it. -/
def splitFrom : Quoting → Kind → List Char → List (List Char) × Quoting
  | quoting, _, [] => ([[]], quoting)
  | quoting, kind, c :: rest =>
    let fresh := quoting = .bare ∧ kindOf c ≠ kind
    let (pieces, last) :=
      splitFrom (quoting.next c) (if quoting = .bare then kindOf c else kind) rest
    match pieces with
    | [] => ([[c]], last)
    | piece :: pieces =>
      if fresh then ([] :: (c :: piece) :: pieces, last) else ((c :: piece) :: pieces, last)

/-- The pieces of a line and the quoting at its end. -/
def pieces : List Char → List (List Char) × Quoting
  | [] => ([], .bare)
  | c :: rest => splitFrom .bare (kindOf c) (c :: rest)

/-- Cut an ampersand off the end of a longer piece. -/
def cutAmpersand (piece : List Char) : List (List Char) :=
  if 1 < piece.length ∧ piece.getLast? = some '&' then [piece.dropLast, ['&']] else [piece]

/-- Do something to the last piece. -/
def mapLast (change : List Char → List (List Char)) : List (List Char) → List (List Char)
  | [] => []
  | [last] => change last
  | piece :: rest => piece :: mapLast change rest

/-- **The pieces of a command line**, none if it ends between quotes or behind a backslash. -/
def split? (line : List Char) : Option (List (List Char)) :=
  let (parts, last) := pieces line
  if last = .bare then some (mapLast cutAmpersand parts) else none

end GlassTty.Words
