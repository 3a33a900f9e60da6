import Diameter.Listener.Running
import Diameter.Network
import Diameter.Settings.Basic

/-!
# All listeners of a daemon

The listeners of a plan are started one after another. The first that cannot start ends
that: those before it are stopped, those after it are never tried, and the daemon stops.
A listener on every interface of the second family may stand for one of the first family
that finds its address taken.
-/

namespace Diameter

/-- A listener of a daemon, and the address that it took. -/
structure Registered where
  /-- The address. -/
  taken : SocketAddress
  /-- The listener. -/
  state : ListenerState

/-- The listeners of a daemon in the order of their start, and what they share. -/
structure Registry where
  /-- The listeners. -/
  listeners : List Registered
  /-- What they share. -/
  surroundings : Surroundings

namespace Registry

/-- The addresses that the listeners hold. -/
def held (r : Registry) : List SocketAddress := r.listeners.map Registered.taken

/-- Whether a listener on every interface stands for this endpoint too. -/
def standsFor (r : Registry) (e : Endpoint) : Bool :=
  e.address.ip == .anyV4 && r.listeners.any fun x =>
    x.taken.ip == .anyV6 && x.taken.port == e.address.port && x.state.transport == e.transport

/-- A listener in the surroundings of all. -/
def listener? (r : Registry) (i : Nat) : Option Listener :=
  r.listeners[i]?.map fun x => ⟨x.state, r.surroundings⟩

/-- The registry after one listener did something. -/
def modify (r : Registry) (i : Nat) (f : Listener → Listener) : Registry :=
  match r.listeners[i]? with
  | none => r
  | some x =>
    let l := f ⟨x.state, r.surroundings⟩
    ⟨r.listeners.set i { x with state := l.toListenerState }, l.toSurroundings⟩

/-- The registry after every listener did something, in order. -/
def modifyAll (r : Registry) (f : Listener → Listener) : Registry :=
  (List.range r.listeners.length).foldl (fun r i => r.modify i f) r

/-- The registry with one more listener. -/
def add (r : Registry) (taken : SocketAddress) (l : Listener) : Registry :=
  ⟨r.listeners ++ [⟨taken, l.toListenerState⟩], l.toSurroundings⟩

/-- Stops every listener. -/
def stop (r : Registry) : Registry := r.modifyAll Listener.stop

/-- Raises the shutdown, and tells whether this was the first time. -/
def trigger (r : Registry) (reason : ShutdownReason) : Bool × Registry :=
  let (first, shutdown) := r.surroundings.shutdown.trigger reason
  let r := { r with surroundings := { r.surroundings with shutdown } }
  (first, r.modifyAll Listener.scheduleCancelled)

/-- Gives a turn to everything that can run, listener by listener. What one of them wakes in
another runs in a later round, of which there are at most `rounds`. -/
def settleWithin (r : Registry) : (rounds : Nat) → Registry
  | 0 => r
  | rounds + 1 =>
    let r := (r.modifyAll Listener.scheduleWoken).modifyAll Listener.settle
    if r.surroundings.events.runnable.isEmpty then r else r.settleWithin rounds

/-- Runs all listeners until nothing can run. Every round ends a call to the event queue. -/
def settle (r : Registry) : Registry :=
  r.settleWithin (r.surroundings.events.callers.length + r.surroundings.connections.length + 1)

/-- Starts the listener of an endpoint, unless another one stands for it. `secured` tells
whether there are credentials. -/
def startOne (r : Registry) (network : Network) (secured : Bool) (terms : AcceptTerms)
    (e : Endpoint) : Except ListenerError Registry :=
  if e.transport = .sctp then .error (.unsupported e.transport e.address.text)
  else if e.security = .tls ∧ secured = false then .error (.tlsNotConfigured e.address.text)
  else
    match network.bind r.held e.address with
    | .error (.untaken cause) =>
      if cause.kind = .addressInUse ∧ r.standsFor e then .ok r
      else .error (.bind e.address.text cause)
    | .error (.untold cause) => .error (.accept cause)
    | .ok taken =>
      match (Listener.new taken.text e.transport e.security terms r.surroundings).start with
      | (.ok _, l) => .ok (r.add taken l)
      | (.error error, _) => .error error

/-- Starts the listeners of a plan. If one cannot start, the result tells why, and the
listeners before it have been stopped. -/
def startAll (network : Network) (secured : Bool) (terms : AcceptTerms) :
    List Endpoint → Registry → Except ListenerError Unit × Registry
  | [], r => (.ok (), r)
  | e :: rest, r =>
    match r.startOne network secured terms e with
    | .ok r => startAll network secured terms rest r
    | .error error => (.error error, (r.stop.trigger (.listenerFailed e.label)).2)

/-- Starts the listeners that the settings ask for. -/
def start (network : Network) (secured : Bool) (terms : AcceptTerms)
    (settings : ListenerSettings) (surroundings : Surroundings) :
    Except ListenerError Unit × Registry :=
  startAll network secured terms settings.plan ⟨[], surroundings⟩

end Registry

end Diameter
