import Diameter.CommandLine.Acceptor

/-!
# The daemon as a program

The program reads the files that its arguments and its settings name, runs the command on
them and prints what it leaves behind. It has no sockets to listen on, so of its commands
those that check settings are of use.
-/

namespace Diameter.Acceptor

/-- An error of the operating system, as far as it can be told apart. -/
def systemError : IO.Error → SystemError
  | .noFileOrDirectory .. => .notFound
  | .permissionDenied .. => .permissionDenied
  | .inappropriateType .. => .isDirectory
  | e => ⟨.other, toString e⟩

/-- What reading the file at a path leads to. -/
def readFile (path : String) : IO (Except SystemError Octets) := do
  try
    let content ← IO.FS.readBinFile path
    return .ok content.data.toList
  catch e => return .error (systemError e)

/-- Reads the files at these paths, and knows no others. -/
def readFiles (paths : List String) : IO FileReader := do
  let found ← paths.mapM fun path => return (path, ← readFile path)
  return fun path => (found.lookup path).getD (.error .notFound)

end Diameter.Acceptor

open Diameter in
/-- Runs the command. -/
def main (arguments : List String) : IO UInt32 := do
  let named := Acceptor.configPaths arguments
  let settings ← Acceptor.readFiles named
  let files ← Acceptor.readFiles (named ++ Acceptor.credentialPaths settings arguments)
  match Acceptor.run ⟨.none, files⟩ arguments with
  | none => return 0
  | some output =>
    (← IO.getStdout).putStr output.out
    (← IO.getStderr).putStr output.err
    return .ofNat output.code
