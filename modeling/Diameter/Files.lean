import Diameter.Octets
import Diameter.SystemError

/-!
# Files of a working directory

A daemon reads a few files by paths that start from its working directory. A path may
name that directory itself by a dot.
-/

namespace Diameter

/-- What reading the file at a path leads to. -/
abbrev FileReader := String → Except SystemError Octets

/-- The files below the working directory, by path. -/
structure Files where
  /-- Path and content of each file. -/
  entries : List (String × Octets)
  deriving DecidableEq, Repr

namespace Files

/-- The parts of a path that lead somewhere. -/
def parts (path : String) : List String :=
  (path.splitOn "/").filter fun part => part != "" && part != "."

/-- Reads these files and no others. -/
def read (files : Files) : FileReader := fun path =>
  let wanted := parts path
  let stored := files.entries.map fun e => (parts e.1, e.2)
  match stored.lookup wanted with
  | some content => .ok content
  | none =>
    if path = "" then .error .notFound
    else if wanted.isEmpty then .error .isDirectory
    else if path.startsWith "/" then .error .notFound
    else if stored.any (wanted.isPrefixOf ·.1) then .error .isDirectory
    else if stored.any (·.1.isPrefixOf wanted) then .error .notDirectory
    else .error .notFound

end Files

end Diameter
