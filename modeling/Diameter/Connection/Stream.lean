import Diameter.Frame

/-!
# Connections over a stream

A connection starts in the clear, may go over to TLS once, and is closed at most once. It is
closed for good: nothing opens it again. While TLS is being negotiated the connection counts
as closed, so that a negotiation that fails, or that nobody waits for any more, leaves it
closed.
-/

namespace Diameter

/-- How far a stream has come. -/
inductive StreamPhase where
  | clear
  | tls
  | closed
  deriving DecidableEq, Repr

/-- How the negotiation of TLS goes. -/
inductive Negotiation where
  | succeeded
  | failed (cause : SystemError)
  /-- Nobody waits for its end. -/
  | abandoned
  deriving DecidableEq, Repr

/-- A connection over a stream. -/
structure StreamConnection where
  /-- How far the stream has come. -/
  phase : StreamPhase
  /-- Whether there are credentials to negotiate TLS with. -/
  secured : Bool
  /-- The length of the longest message that is taken. -/
  maxMessageSize : Nat
  /-- The failing reads that are repeated inside a message. -/
  patience : Patience
  /-- What the stream still has to deliver. -/
  incoming : Deliveries
  /-- What was sent. -/
  sent : Octets
  /-- How often the stream was shut down. -/
  shutdowns : Nat
  deriving DecidableEq, Repr

namespace StreamConnection

/-- A connection that has just been accepted. -/
def new (secured : Bool) (maxMessageSize : Nat) (patience : Patience) (incoming : Deliveries) :
    StreamConnection :=
  ⟨.clear, secured, maxMessageSize, patience, incoming, [], 0⟩

/-- Whether a session of TLS is established. -/
def isTls (c : StreamConnection) : Bool := c.phase == .tls

/-- Whether the connection is closed. -/
def isClosed (c : StreamConnection) : Bool := c.phase == .closed

/-- Negotiates TLS. Nothing is returned if nobody waits for the end. -/
def handshake (c : StreamConnection) (negotiation : Negotiation) :
    Option (Except ConnectionError Unit) × StreamConnection :=
  if c.secured = false then (some (.error .tlsUnavailable), c)
  else
    match c.phase, negotiation with
    | .closed, _ => (some (.error .closed), c)
    | .tls, _ => (some (.ok ()), c)
    | .clear, .succeeded => (some (.ok ()), { c with phase := .tls })
    | .clear, .failed cause => (some (.error (.tls cause)), { c with phase := .closed })
    | .clear, .abandoned => (none, { c with phase := .closed })

/-- Receives one message. -/
def receive (c : StreamConnection) : Except ConnectionError Octets × StreamConnection :=
  match c.phase with
  | .closed => (.error .closed, c)
  | .clear | .tls =>
    let (result, incoming) := Frame.read c.patience c.maxMessageSize c.incoming
    (result, { c with incoming })

/-- Sends octets, unless the system reports an error. -/
def send (c : StreamConnection) (bs : Octets) (failure : Option SystemError) :
    Except ConnectionError Unit × StreamConnection :=
  match c.phase, failure with
  | .closed, _ => (.error .closed, c)
  | .clear, some e | .tls, some e => (.error (.system e), c)
  | .clear, none | .tls, none => (.ok (), { c with sent := c.sent ++ bs })

/-- Closes the connection. A closed one stays as it is. -/
def close (c : StreamConnection) : StreamConnection :=
  match c.phase with
  | .closed => c
  | .clear | .tls => { c with phase := .closed, shutdowns := c.shutdowns + 1 }

end StreamConnection

end Diameter
