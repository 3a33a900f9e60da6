import Diameter.Address.Text

/-!
# Endpoints

An endpoint is where a listener listens: a transport, an address, and whether TLS starts
as soon as a connection is accepted.
-/

namespace Diameter

/-- A transport protocol. -/
inductive Transport where
  | tcp
  | sctp
  deriving DecidableEq, Repr

/-- The name of a transport. -/
def Transport.name : Transport → String
  | .tcp => "TCP"
  | .sctp => "SCTP"

/-- When TLS starts on an accepted connection. -/
inductive Security where
  /-- Right after the connection is accepted. -/
  | tls
  /-- Not by itself. -/
  | clear
  deriving DecidableEq, Repr

/-- The name of a security mode. -/
def Security.name : Security → String
  | .tls => "tls"
  | .clear => "clear"

/-- Where a listener listens. -/
structure Endpoint where
  /-- The address and port. -/
  address : SocketAddress
  /-- The transport. -/
  transport : Transport
  /-- When TLS starts. -/
  security : Security
  deriving DecidableEq, Repr

/-- The label of a listener at the address that is written as `address`. -/
def endpointLabel (transport : Transport) (security : Security) (address : String) : String :=
  match security with
  | .tls => s!"{transport.name}/TLS {address}"
  | .clear => s!"{transport.name} {address}"

/-- The label of an endpoint. -/
def Endpoint.label (e : Endpoint) : String :=
  endpointLabel e.transport e.security e.address.text

end Diameter
