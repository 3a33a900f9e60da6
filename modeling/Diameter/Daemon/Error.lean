import Diameter.Credential.Loading
import Diameter.Listener.Status
import Diameter.Queue.Error
import Diameter.Shutdown.Reason

/-!
# Why a daemon fails
-/

namespace Diameter

/-- Why metrics cannot be offered. -/
inductive MetricsError where
  /-- What is set is not the address of a socket. -/
  | address
  /-- The exporter cannot offer them there, for the reason that it gives. -/
  | exporter (text : String)
  deriving DecidableEq, Repr

/-- The wording of why metrics cannot be offered. -/
def MetricsError.message : MetricsError → String
  | address => "invalid socket address syntax"
  | exporter text => text

/-- Why a daemon cannot start, or stops. -/
inductive DaemonError where
  /-- The credentials cannot be loaded. -/
  | credentials (cause : CredentialError)
  /-- A listener cannot start. -/
  | listener (cause : ListenerError)
  /-- The event queue cannot be set up, or not be given up. -/
  | queue (cause : QueueError)
  /-- The metrics cannot be offered. -/
  | metrics (cause : MetricsError)
  /-- Something failed while the daemon was running. -/
  | stopped (reason : ShutdownReason)
  deriving DecidableEq, Repr

/-- The wording of why a daemon fails. -/
def DaemonError.message : DaemonError → String
  | credentials cause => s!"TLS credentials: {cause.message}"
  | listener cause => cause.message
  | queue cause => s!"event queue: {cause.message}"
  | metrics cause => s!"metrics exporter: {cause.message}"
  | stopped reason => s!"daemon stopped: {reason.message}"

end Diameter
