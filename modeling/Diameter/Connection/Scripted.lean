import Diameter.Connection.Error

/-!
# Connections whose far end follows a script

A script says how the TLS handshake goes and what can be received. What was received is
used up; when nothing is left the connection waits, unless the far end has closed it.
Calls are counted, so that it can be seen how often a connection was closed.
-/

namespace Diameter

/-- How the far end behaves in the TLS handshake. -/
structure TlsScript where
  /-- How long it takes. -/
  delay : Nat
  /-- Why it fails, if it does. -/
  failure : Option ConnectionError
  deriving DecidableEq, Repr

/-- A connection and the script of its far end. -/
structure Connection where
  /-- What it is called. -/
  name : String
  /-- How it is described. -/
  description : String
  /-- The TLS handshake. -/
  tls : TlsScript
  /-- What can be received, first things first. -/
  inbox : List (Except ConnectionError Octets)
  /-- Whether nothing will be added to the inbox. -/
  ended : Bool
  /-- How often a TLS handshake was started. -/
  handshakes : Nat
  /-- How often a message was asked for. -/
  receives : Nat
  /-- How often it was closed. -/
  closes : Nat
  /-- Whether somebody still holds it. -/
  held : Bool

namespace Connection

/-- A connection that has just been made. -/
def new (name description : String) (tls : TlsScript) : Connection :=
  ⟨name, description, tls, [], false, 0, 0, 0, true⟩

/-- What can be received at once, and the connection after that. -/
def receive (c : Connection) : Option (Except ConnectionError Octets × Connection) :=
  match c.inbox with
  | result :: rest => some (result, { c with inbox := rest })
  | [] => if c.ended then some (.error .closed, c) else none

/-- The connection after it was closed. -/
def close (c : Connection) : Connection := { c with closes := c.closes + 1 }

/-- The connection after nobody holds it any more. -/
def release (c : Connection) : Connection := { c with held := false }

end Connection

end Diameter
