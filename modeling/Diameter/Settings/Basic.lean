import Diameter.Endpoint

/-!
# Settings

What a daemon can be told. Every setting has a default, apart from the two paths that are
needed as soon as credentials are mentioned at all.
-/

namespace Diameter

/-- Where to listen. -/
structure ListenerSettings where
  /-- The port for connections that start in the clear, if there is one. -/
  port : Option UInt16
  /-- The port for connections that start with TLS, if there is one. -/
  portTls : Option UInt16
  /-- The addresses as they were written. None means every interface. -/
  listenOn : List String
  /-- No addresses of the first family. -/
  noIp4 : Bool
  /-- No addresses of the second family. -/
  noIp6 : Bool
  /-- No TCP. -/
  noTcp : Bool
  /-- No SCTP. -/
  noSctp : Bool
  /-- The length of the longest message that is taken. -/
  maxMessageSize : Nat
  deriving DecidableEq, Repr

/-- Where the credentials are. -/
structure TlsSettings where
  /-- The certificate chain. -/
  certPath : String
  /-- The private key. -/
  keyPath : String
  /-- The authorities that peers have to be certified by, if they have to. -/
  caPath : Option String
  deriving DecidableEq, Repr

/-- How long to wait. -/
structure TimeoutSettings where
  /-- Seconds from the accept of a connection until its first message is there. -/
  incomingSeconds : Nat
  deriving DecidableEq, Repr

/-- How large queues may grow. -/
structure QueueSettings where
  /-- The most events that wait for the peer layer, or zero for no limit. -/
  capacity : Nat
  /-- The high threshold of the alarm, or zero for no alarm. -/
  highWatermark : Nat
  /-- The low threshold of the alarm. -/
  lowWatermark : Nat
  deriving DecidableEq, Repr

/-- What can be watched from outside. -/
structure ObservabilitySettings where
  /-- Which log lines are written. -/
  logLevel : String
  /-- Whether metrics are offered. -/
  metricsEnabled : Bool
  /-- Where metrics are offered, as it was written. -/
  metricsAddress : String
  deriving DecidableEq, Repr

/-- Everything that a daemon can be told. -/
structure Settings where
  /-- Where to listen. -/
  listener : ListenerSettings
  /-- Where the credentials are, if there are any. -/
  tls : Option TlsSettings
  /-- How long to wait. -/
  timeouts : TimeoutSettings
  /-- How large queues may grow. -/
  queues : QueueSettings
  /-- What can be watched from outside. -/
  observability : ObservabilitySettings
  deriving DecidableEq, Repr

/-- The defaults for listeners. -/
def ListenerSettings.default : ListenerSettings :=
  { port := some 3868, portTls := none, listenOn := [], noIp4 := false, noIp6 := false,
    noTcp := false, noSctp := true, maxMessageSize := 65536 }

/-- The default timeouts. -/
def TimeoutSettings.default : TimeoutSettings := ⟨20⟩

/-- The default queues. -/
def QueueSettings.default : QueueSettings := ⟨0, 0, 0⟩

/-- The defaults for what can be watched. -/
def ObservabilitySettings.default : ObservabilitySettings := ⟨"info", false, "127.0.0.1:9090"⟩

/-- The settings of a daemon that is told nothing. -/
def Settings.default : Settings := ⟨.default, none, .default, .default, .default⟩

namespace ListenerSettings

/-- Whether addresses of the family of `ip` may be listened on. -/
def allowsFamily (s : ListenerSettings) (ip : Address) : Bool :=
  if ip.isV4 then !s.noIp4 else !s.noIp6

/-- The addresses to listen on. Entries that are no addresses are passed over. Of the
addresses that stand for every interface, that of the second family comes first. -/
def addresses (s : ListenerSettings) : List Address :=
  let all :=
    if s.listenOn.isEmpty then [Address.anyV6, Address.anyV4]
    else s.listenOn.filterMap Address.ofText?
  all.filter s.allowsFamily

/-- The transports to listen with. -/
def transports (s : ListenerSettings) : List Transport :=
  (if s.noTcp then [] else [.tcp]) ++ (if s.noSctp then [] else [.sctp])

/-- The ports to listen on, and when TLS starts on each. -/
def ports (s : ListenerSettings) : List (UInt16 × Security) :=
  (s.port.map fun p => (p, Security.clear)).toList ++
    (s.portTls.map fun p => (p, Security.tls)).toList

/-- Where to listen: for each transport, on each port, at each address. -/
def plan (s : ListenerSettings) : List Endpoint :=
  s.transports.flatMap fun transport =>
    s.ports.flatMap fun port =>
      s.addresses.map fun ip => ⟨⟨ip, port.1, 0⟩, transport, port.2⟩

end ListenerSettings

end Diameter
