/-!
# Errors of the operating system

An error has a kind, by which the program decides, and a text, which it reports.
-/

namespace Diameter

/-- The kinds of error that are told apart. -/
inductive SystemErrorKind where
  | connectionReset
  | connectionAborted
  | interrupted
  | wouldBlock
  | permissionDenied
  | brokenPipe
  | unexpectedEnd
  | timedOut
  | addressInUse
  | notConnected
  | invalidData
  | notFound
  | isDirectory
  | notDirectory
  | other
  deriving DecidableEq, Repr

/-- The usual text of a kind. -/
def SystemErrorKind.text : SystemErrorKind → String
  | .connectionReset => "connection reset"
  | .connectionAborted => "connection aborted"
  | .interrupted => "operation interrupted"
  | .wouldBlock => "operation would block"
  | .permissionDenied => "permission denied"
  | .brokenPipe => "broken pipe"
  | .unexpectedEnd => "unexpected end of file"
  | .timedOut => "timed out"
  | .addressInUse => "address in use"
  | .notConnected => "not connected"
  | .invalidData => "invalid data"
  | .notFound => "entity not found"
  | .isDirectory => "is a directory"
  | .notDirectory => "not a directory"
  | .other => "other error"

/-- An error of the operating system. -/
structure SystemError where
  /-- What went wrong. -/
  kind : SystemErrorKind
  /-- How it is reported. -/
  text : String
  deriving DecidableEq, Repr

namespace SystemError

/-- The error of a kind with its usual text. -/
def ofKind (kind : SystemErrorKind) : SystemError := ⟨kind, kind.text⟩

/-- The error that the system reports by number. -/
def numbered (kind : SystemErrorKind) (text : String) (number : Nat) : SystemError :=
  ⟨kind, s!"{text} (os error {number})"⟩

/-- A path that leads to nothing. -/
def notFound : SystemError := numbered .notFound "No such file or directory" 2

/-- An operation that the user may not do. -/
def permissionDenied : SystemError := numbered .permissionDenied "Permission denied" 13

/-- A file where a directory was expected. -/
def notDirectory : SystemError := numbered .notDirectory "Not a directory" 20

/-- A directory where a file was expected. -/
def isDirectory : SystemError := numbered .isDirectory "Is a directory" 21

/-- An address that another socket holds. -/
def addressInUse : SystemError := numbered .addressInUse "Address already in use" 98

/-- Octets that should have been text. -/
def notUtf8 : SystemError := ⟨.invalidData, "stream did not contain valid UTF-8"⟩

/-- A stream that ended too soon. -/
def earlyEnd : SystemError := ⟨.unexpectedEnd, "early eof"⟩

/-- The accept loop outlives errors that concern one connection or one moment only. -/
def isTransient (e : SystemError) : Bool :=
  match e.kind with
  | .connectionAborted | .connectionReset | .interrupted | .wouldBlock => true
  | _ => false

end SystemError

end Diameter
