import GlassTty.Text.Utf8

/-!
# Collecting a directive

A program inside the terminal talks to the viewer by putting a payload between a mode that is set
and the same mode reset. Two modes are reserved for it (`GlassTty.DirectiveCode`). A directive that
names the secret of its session, the cookie, is validated (`GlassTty.presentsCookie`).

The bytes of an open directive are collected up to a limit; past it nothing is kept
(`GlassTty.DirectiveBuffer.extend`).
-/

namespace GlassTty

/-- What a directive is for. -/
inductive DirectiveCode where
  /-- The shell tells its working directory, before a prompt. -/
  | prompt
  /-- Headers and a body. -/
  | payload
  deriving DecidableEq, Repr, Inhabited

namespace DirectiveCode

/-- The mode that opens a prompt directive. -/
def promptMode : Nat := 1150

/-- The mode that opens a payload directive. -/
def payloadMode : Nat := 1155

/-- The directive that a mode opens. -/
def ofMode? (mode : Nat) : Option DirectiveCode :=
  if mode = promptMode then some .prompt
  else if mode = payloadMode then some .payload
  else none

end DirectiveCode

/-- **Whether a presented cookie is that of the session.** An empty cookie is presented by none. All
bytes are looked at, whether they agree or not. -/
def cookieMatches (presented cookie : String) : Bool :=
  let p := utf8Bytes presented
  let c := utf8Bytes cookie
  !c.isEmpty && p.length == c.length &&
    (p.zip c).foldl (fun seen (x, y) => seen ||| (x ^^^ y)) (0 : UInt8) == 0

/-- Whether a parameter presents the cookie: written in decimal, it is the cookie. -/
def presentsCookie (param : Option Nat) (cookie : String) : Bool :=
  param.any fun n => cookieMatches (toString n) cookie

/-- The bytes collected for an open directive. -/
structure DirectiveBuffer where
  code : DirectiveCode
  validated : Bool
  /-- The greatest number of bytes. -/
  limit : Nat
  data : Array UInt8 := #[]
  /-- There were more bytes than the limit. -/
  overflowed : Bool := false
  deriving DecidableEq, Repr, Inhabited

namespace DirectiveBuffer

/-- The limit unless another is asked for. -/
def defaultLimit : Nat := 10 * 1024 * 1024

/-- **Collect bytes.** With the limit passed, what was collected is dropped, and so is all that
comes. -/
def extend (b : DirectiveBuffer) (bytes : Bytes) : DirectiveBuffer :=
  if b.overflowed then b
  else if b.limit < b.data.size + bytes.length then { b with data := #[], overflowed := true }
  else { b with data := b.data ++ bytes.toArray }

end DirectiveBuffer

end GlassTty
