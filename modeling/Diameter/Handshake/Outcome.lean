import Diameter.Connection.Error
import Diameter.Message.Basic

/-!
# How the wait for the first message ends

A connection is handed to the peer layer if its first message is the request that opens
the exchange. Otherwise it is closed: because of the peer, because the listener or the
daemon stops, or because of a failure of our own.
-/

namespace Diameter

/-- Why a connection is turned away. -/
inductive RejectReason where
  /-- The TLS handshake failed. -/
  | tlsFailed (text : String)
  /-- The deadline came first. -/
  | timeout
  /-- No frame could be received. -/
  | receive (text : String)
  /-- The frame is no message. -/
  | parse (text : String)
  /-- The message breaks the grammar of its command. -/
  | validation (text : String)
  /-- The message is not the one that opens a connection. -/
  | notCapabilities (command application : UInt32) (request : Bool)
  deriving DecidableEq, Repr

/-- The wording of a reason. -/
def RejectReason.message : RejectReason → String
  | .tlsFailed text => s!"TLS handshake failed: {text}"
  | .timeout => "no message before the deadline"
  | .receive text => s!"receive failed: {text}"
  | .parse text => s!"unparsable message: {text}"
  | .validation text => s!"invalid message: {text}"
  | .notCapabilities command application request =>
    s!"first message is not a CER (command {command.toNat}, " ++
      s!"application {application.toNat}, request {request})"

/-- How a handshake ends. -/
inductive HandshakeOutcome where
  /-- The peer layer owns message and connection. -/
  | handedOff
  /-- The connection was closed because of the peer. -/
  | rejected (reason : RejectReason)
  /-- The connection was closed because we stop. -/
  | cancelled
  /-- The connection was closed because our side failed. -/
  | fatal (what : String)
  deriving DecidableEq, Repr

/-- The label under which an outcome is counted. -/
def HandshakeOutcome.label : HandshakeOutcome → String
  | .handedOff => "handed_off"
  | .rejected .timeout => "timeout"
  | .rejected _ => "rejected"
  | .cancelled => "cancelled"
  | .fatal _ => "fatal"

end Diameter
