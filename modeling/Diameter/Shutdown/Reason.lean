/-!
# Why a daemon stops
-/

namespace Diameter

/-- Why a daemon stops. -/
inductive ShutdownReason where
  /-- The system sent a signal. -/
  | signal (name : String)
  /-- Somebody asked for it. -/
  | requested
  /-- A listener could not start, or can no longer accept. -/
  | listenerFailed (listener : String)
  /-- Our own logic or resources broke. -/
  | internal (what : String)
  deriving DecidableEq, Repr

namespace ShutdownReason

/-- The wording of a reason. -/
def message : ShutdownReason → String
  | signal name => s!"received {name}"
  | requested => "shutdown requested"
  | listenerFailed listener => s!"listener {listener} failed"
  | internal what => s!"internal error: {what}"

/-- Whether the process should report a failure. -/
def isFatal : ShutdownReason → Bool
  | listenerFailed _ | internal _ => true
  | signal _ | requested => false

end ShutdownReason

end Diameter
