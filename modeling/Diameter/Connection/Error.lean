import Diameter.Octets
import Diameter.SystemError

/-!
# Errors of a connection

A connection fails because of the system, because of TLS, or because of what the peer
sends.
-/

namespace Diameter

/-- How the start of a frame can be wrong. -/
inductive FrameFault where
  /-- The version is not the one in use. -/
  | version (found : UInt8)
  /-- The length is less than that of a header. -/
  | short (length : Nat)
  /-- The length is more than the receiver takes. -/
  | tooLong (length most : Nat)
  /-- A fault that another connection describes in its own words. -/
  | described (text : String)
  deriving DecidableEq, Repr

/-- The wording of a frame fault. -/
def FrameFault.message : FrameFault → String
  | .version found => s!"unsupported version {found.toNat}"
  | .short length => s!"length {length} shorter than the header"
  | .tooLong length most => s!"length {length} exceeds limit {most}"
  | .described text => text

/-- Why an operation on a connection fails. -/
inductive ConnectionError where
  /-- The system reports an error. -/
  | system (error : SystemError)
  /-- The TLS handshake fails. -/
  | tls (error : SystemError)
  /-- The connection has no credentials to start TLS with. -/
  | tlsUnavailable
  /-- The peer sends something that is no frame. -/
  | framing (fault : FrameFault)
  /-- The connection is closed. -/
  | closed
  deriving DecidableEq, Repr

/-- The wording of a connection error. -/
def ConnectionError.message : ConnectionError → String
  | .system error => s!"I/O error: {error.text}"
  | .tls error => s!"TLS handshake failed: {error.text}"
  | .tlsUnavailable => "no TLS credentials for this connection"
  | .framing fault => s!"invalid frame: {fault.message}"
  | .closed => "connection closed"

end Diameter
