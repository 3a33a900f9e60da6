import Diameter.Endpoint
import Diameter.SystemError

/-!
# The life of a listener

A listener starts at most once and never comes back from its end, which is either a stop
or a failure.
-/

namespace Diameter

/-- How far a listener has come. -/
inductive ListenerStatus where
  | notStarted
  | running
  | terminated
  | failed
  deriving DecidableEq, Repr

namespace ListenerStatus

/-- The name of a status in an error message. -/
def name : ListenerStatus → String
  | notStarted => "NotStarted"
  | running => "Running"
  | terminated => "Terminated"
  | failed => "Error"

/-- Whether a listener may go from one status to another. -/
def canBecome : ListenerStatus → ListenerStatus → Bool
  | notStarted, running | notStarted, terminated | notStarted, failed => true
  | running, terminated | running, failed => true
  | _, _ => false

/-- The status after an attempt to change it. -/
def advance (status next : ListenerStatus) : ListenerStatus :=
  if status.canBecome next then next else status

end ListenerStatus

/-- Why a listener fails. Addresses are given as they are written. -/
inductive ListenerError where
  /-- The address cannot be taken. -/
  | bind (address : String) (cause : SystemError)
  /-- The socket does not tell its address, or no more connections can be accepted. -/
  | accept (cause : SystemError)
  /-- The transport cannot be listened on. -/
  | unsupported (transport : Transport) (address : String)
  /-- TLS should start at once, but there are no credentials. -/
  | tlsNotConfigured (address : String)
  /-- The listener has been started or stopped before. -/
  | notStartable (label : String) (status : ListenerStatus)
  deriving DecidableEq, Repr

namespace ListenerError

/-- The wording of a listener error. -/
def message : ListenerError → String
  | bind address cause => s!"failed to bind {address}: {cause.text}"
  | accept cause => s!"failed to accept: {cause.text}"
  | unsupported transport address =>
    s!"{transport.name} listeners are not supported ({address})"
  | tlsNotConfigured address => s!"TLS listener on {address} has no credentials"
  | notStartable label status => s!"listener {label} cannot start from status {status.name}"

/-- Whether another socket holds the address. -/
def isAddressInUse : ListenerError → Bool
  | bind _ cause => cause.kind = .addressInUse
  | _ => false

end ListenerError

end Diameter
