import Diameter.Address.Basic
import Diameter.SystemError

/-!
# Addresses to listen on

The system decides which addresses a daemon may take, and the exporter where it can offer metrics.
In a network of which some addresses are taken, ports below a limit are not for everyone, an
address can be taken once, and port zero stands for any port that is free.
-/

namespace Diameter

/-- Why a listener gets no address. -/
inductive Network.Refusal where
  /-- The address cannot be taken. -/
  | untaken (cause : SystemError)
  /-- It is taken, but the socket does not tell which address that is. -/
  | untold (cause : SystemError)
  deriving DecidableEq, Repr

/-- The addresses of a machine, as far as a daemon can listen on them. -/
structure Network where
  /-- Takes an address, beside those that the daemon holds already. The answer is the
  address with its port. -/
  bind : (held : List SocketAddress) → SocketAddress → Except Network.Refusal SocketAddress
  /-- Offers metrics at an address. If that fails, the exporter says why. -/
  exportMetrics : SocketAddress → Except String Unit

namespace Network

/-- The first port that everyone may take. -/
def firstOpenPort : Nat := 1024

/-- The first of the ports that stand for port zero. -/
def firstFreePort : Nat := 32768

/-- Whether a socket on one host receives what is meant for the other. A socket on every
interface of the second family receives for both families. -/
def covers (host other : Address) : Bool :=
  host == other || host == .anyV6 || (host == .anyV4 && other.isV4)

/-- Whether two addresses cannot be taken both. -/
def conflict (a b : SocketAddress) : Bool :=
  a.port == b.port && (covers a.ip b.ip || covers b.ip a.ip)

/-- Takes an address beside those that are taken. -/
def take (all : List SocketAddress) (address : SocketAddress) :
    Except SystemError SocketAddress :=
  if address.port = 0 then .ok { address with port := .ofNat (firstFreePort + all.length) }
  else if address.port.toNat < firstOpenPort then .error .permissionDenied
  else if all.any (conflict address) then .error .addressInUse
  else .ok address

/-- What the exporter of metrics says if its address cannot be taken. -/
def exporterText (cause : SystemError) : String :=
  s!"failed to create HTTP listener: {cause.text}"

/-- The network in which others have taken some addresses. -/
def ofTaken (taken : List SocketAddress) : Network where
  bind held address := (take (taken ++ held) address).mapError .untaken
  exportMetrics address := ((take taken address).mapError exporterText).map fun _ => ()

/-- What a machine without sockets answers. -/
def notImplemented : SystemError := .numbered .other "Function not implemented" 38

/-- The network of a machine without sockets. -/
def none : Network where
  bind _ _ := .error (.untaken notImplemented)
  exportMetrics _ := .error (exporterText notImplemented)

end Network

end Diameter
