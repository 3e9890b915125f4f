import GlassTty.Host.FileSystem
import GlassTty.Text.Blank

/-!
# Finding programs

Where a program is looked for depends on its name (`GlassTty.Lookup.candidates`). A name of more
than one component is one place, seen from the working directory of the one who asks; any other name
is tried in each directory of the search path, and a relative directory of it is seen from that
working directory too.
-/

namespace GlassTty.Lookup

/-- The name as seen from a directory: an absolute name stays, and dots at its beginning are
dropped. -/
def under (directory path : List Char) : List Char :=
  if Path.isAbsolute path then path
  else
    ((Path.components path).dropWhile (· = .current)).foldl
      (fun name c => Path.join name c.text) directory

/-- The names under which a program may be found. -/
def candidates (searchPath : List (List Char)) (directory program : List Char) :
    List (List Char) :=
  if 1 < (Path.components program).length then [under directory program]
  else searchPath.map fun entry => Path.join (under directory entry) program

/-- The directories of a search path that is written with colons. -/
def searchPathOf (text : List Char) : List (List Char) :=
  Text.splitAt (· = ':') text

/-- **Whether a program is found**, searched in the directory `extra` before those of the search
path `path`, for someone in `directory`. A colon in `extra` cannot be written into a search path;
the program is then looked for along `path` alone, from the host's own working directory. -/
def isFound (fs : FileSystem) (path : Option String) (extra : Option String)
    (directory program : List Char) : Bool :=
  let entries := (path.map fun p => searchPathOf p.toList).getD []
  let here := FileSystem.placeText fs.workingDirectory
  let found (searchPath : List (List Char)) (directory : List Char) : Bool :=
    (candidates searchPath directory program).any (fs.isProgram fs.workingDirectory ·)
  match extra with
  | none => found (if path.isNone then [[]] else entries) directory
  | some extra =>
    if extra.toList.contains ':' then found entries here
    else found (extra.toList :: entries) directory

end GlassTty.Lookup
