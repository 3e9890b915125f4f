import GlassTty.Host.Path
import GlassTty.Text.Blank

/-!
# File URLs

A clicked file is named by a URL with a host, a path and perhaps a query (`GlassTty.FileUrl`). On
the command line it is better named as seen from the working directory, unless the way there climbs
too far (`GlassTty.FileUrl.relative`).
-/

namespace GlassTty

/-- The parts of a URL that names a file. -/
structure FileUrl where
  host : List Char
  path : List Char
  /-- The query, with its question mark. -/
  query : List Char
  deriving DecidableEq, Repr, Inhabited

namespace FileUrl

/-- How every such URL begins. -/
def scheme : List Char := "file://".toList

/-- **The parts of a URL**, if it names a file. A URL without a path names the root. -/
def parse? (url : List Char) : Option FileUrl :=
  (Text.dropPrefix? scheme url).map fun rest =>
    let name := rest.takeWhile (· ≠ '?')
    let path := name.dropWhile (· ≠ '/')
    { host := name.takeWhile (· ≠ '/')
      path := if path.isEmpty then ['/'] else path
      query := rest.dropWhile (· ≠ '?') }

/-- What follows the last slash of the path. -/
def fileName (u : FileUrl) : List Char :=
  (u.path.reverse.takeWhile (· ≠ '/')).reverse

/-- Whether the file is on the host with the given name. -/
def isLocal (u : FileUrl) (localHost : List Char) : Bool :=
  u.host.isEmpty || u.host = "localhost".toList || u.host = localHost

/-- The path that a URL names; a text that is no such URL is taken for a path. -/
def pathOf (url : List Char) : List Char :=
  match parse? url with
  | some u => u.path
  | none => url

/-- Three steps up: a name that begins so is no shorter way to write an absolute one. -/
def farUp : List Char := "../../../".toList

/-- **The file as seen from the directory `cwd`**, a dot for the directory itself. -/
def relative (url cwd : List Char) : List Char :=
  let path := pathOf url
  if path = cwd then ['.']
  else
    match Path.relative? path cwd with
    | some way => if Text.hasPrefix farUp way ∨ way.isEmpty then path else way
    | none => path

end FileUrl

end GlassTty
