import Diameter.Daemon.Error
import Diameter.Registry

/-!
# A daemon

A daemon has an event queue, listeners that put accepted peers into it, and a consumer that
takes them out and closes their connections. The queue is set up first and the listeners
last. When the shutdown is raised the listeners are stopped first; then the consumer ends,
what is left in the queue is closed, and the queue is destroyed.
-/

namespace Diameter

/-- What a daemon finds on the machine it is started on. -/
structure Machine where
  /-- The addresses to listen on. -/
  network : Network
  /-- The files. -/
  files : FileReader

/-- Who takes accepted peers out of the event queue. -/
structure Consumer where
  /-- What cancels it. -/
  token : TokenId
  /-- Whether it is at work. -/
  working : Bool
  /-- How many peers it took. -/
  handled : Nat
  deriving DecidableEq, Repr

/-- A daemon that was started. -/
structure Daemon where
  /-- The listeners and what they share. -/
  registry : Registry
  /-- The consumer of the event queue. -/
  consumer : Consumer

namespace Daemon

/-- The name of the event queue in metrics. -/
def eventsName : String := "peer_events"

/-- Surroundings with an event queue as the settings ask for. The alarm is attached only if
there is a high threshold. -/
def prepare (settings : QueueSettings) (shutdown : Shutdown) : Except QueueError Surroundings :=
  let surroundings := { Surroundings.new settings.capacity with shutdown }
  if settings.highWatermark = 0 then .ok surroundings
  else surroundings.withAlarm eventsName settings.highWatermark settings.lowWatermark

/-- Gives up the event queue. It stays as it is if it holds anything. -/
def abandonEvents (s : Surroundings) : Surroundings :=
  let (_, events) := s.events.clearThresholds 0
  { s with events := (events.destroy 0).2 }

/-- The registry after the event queue was given up. Those who wait there are woken. -/
def abandon (r : Registry) : Registry :=
  ({ r with surroundings := abandonEvents r.surroundings }).settle

/-- How the listeners of a daemon treat connections. -/
def terms (settings : TimeoutSettings) : AcceptTerms :=
  ⟨Clock.ofSeconds settings.incomingSeconds, .base, .events⟩

/-- Starts a daemon. The second part of the result is what is left if that fails. -/
def start (machine : Machine) (settings : Settings) (shutdown : Shutdown) :
    Except DaemonError Daemon × Registry :=
  let nothing : Registry := ⟨[], { Surroundings.new 0 with shutdown }⟩
  match prepare settings.queues shutdown with
  | .error cause => (.error (.queue cause), nothing)
  | .ok surroundings =>
    match settings.tls.mapM (Credentials.load machine.files) with
    | .error cause => (.error (.credentials cause), ⟨[], surroundings⟩)
    | .ok credentials =>
      match Registry.start machine.network credentials.isSome (terms settings.timeouts)
          settings.listener surroundings with
      | (.error cause, r) => (.error (.listener cause), abandon r)
      | (.ok _, r) =>
        let (token, shutdown) := r.surroundings.shutdown.child Shutdown.root
        let r := { r with surroundings := { r.surroundings with shutdown } }
        (.ok ⟨r, ⟨token, true, 0⟩⟩, r)

/-- Closes the connection of a peer that was taken out of the queue. -/
def release (s : Surroundings) (arrival : Listener.Arrival) : Surroundings :=
  let note : Listener.Note := .released arrival.message.originHost? arrival.message.originRealm?
  (s.write note).closeConnection arrival.connection

/-- The consumer takes what there is, at most `most` peers. A cancellation ends it before it
takes another one. -/
def consumeWithin (d : Daemon) : (most : Nat) → Daemon
  | 0 => d
  | most + 1 =>
    let s := d.registry.surroundings
    if d.consumer.working = false then d
    else if s.shutdown.isCancelled d.consumer.token then
      { d with consumer := { d.consumer with working := false } }
    else
      match s.popEvent with
      | (.ok arrival, s) =>
        let registry := { d.registry with surroundings := release s arrival }
        let consumer := { d.consumer with handled := d.consumer.handled + 1 }
        (Daemon.mk registry consumer).consumeWithin most
      | (.error .closed, _) => { d with consumer := { d.consumer with working := false } }
      | (.error _, _) => d

/-- A turn of the consumer. -/
def consume (d : Daemon) : Daemon :=
  d.consumeWithin ((d.registry.surroundings.events.queue 0).items.length + 1)

/-- Raises the shutdown, and tells whether this was the first time. -/
def trigger (d : Daemon) (reason : ShutdownReason) : Bool × Daemon :=
  let (first, registry) := d.registry.trigger reason
  (first, { d with registry })

/-- Closes the connections of what waits in the event queue, at most `most` of them. -/
def discardWithin (s : Surroundings) : (most : Nat) → Surroundings
  | 0 => s
  | most + 1 =>
    match s.popEvent with
    | (.ok arrival, s) => discardWithin (s.closeConnection arrival.connection) most
    | (.error _, s) => s

/-- Closes the connections of what waits in the event queue. -/
def discardAll (s : Surroundings) : Surroundings :=
  discardWithin s (s.events.queue 0).items.length

/-- Empties and destroys the event queue. Every hand-over that comes in between costs one
more round, of which there are at most `rounds`. -/
def closeEvents (r : Registry) : (rounds : Nat) → Except QueueError Unit × Registry
  | 0 => (.ok (), r)
  | rounds + 1 =>
    let s := discardAll r.surroundings
    match s.events.destroy 0 with
    | (.ok _, events) => (.ok (), { r with surroundings := { s with events } }.settle)
    | (.error (.notEmpty _), events) =>
      closeEvents { r with surroundings := { s with events } }.settle rounds
    | (.error e, events) => (.error e, { r with surroundings := { s with events } })

/-- Stops everything after the shutdown was raised. The result tells whether that happened
because something failed. -/
def wait (d : Daemon) : Except DaemonError Unit × Daemon :=
  let r := d.registry.stop
  let shutdown := r.surroundings.shutdown.cancel d.consumer.token
  let d := Daemon.consume ⟨{ r with surroundings := { r.surroundings with shutdown } }, d.consumer⟩
  let s := d.registry.surroundings
  let (_, events) := s.events.clearThresholds 0
  let r := { d.registry with surroundings := { s with events } }
  match closeEvents r (events.callers.length + 1) with
  | (.error e, r) => (.error (.queue e), { d with registry := r })
  | (.ok _, r) =>
    let result := match r.surroundings.shutdown.reason with
      | some reason => if reason.isFatal then .error (.stopped reason) else .ok ()
      | none => .ok ()
    (result, { d with registry := r })

end Daemon

end Diameter
