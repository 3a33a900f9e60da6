import Diameter.Daemon.Basic
import Diameter.Proofs.Listener.Stopping
import Diameter.Proofs.Queue.Course

/-!
# Every order in which a daemon comes to its end

Three parties take turns at the event queue of a daemon: the handshakes that hand connections
over, the consumer that takes them out and closes them, and whoever waits for the shutdown to
stop everything. A move is what one of them does between two points at which others may come
in. So a statement about all lists of moves is one about every order in which hand-overs are
slow, the consumer is cancelled, room is made for those who wait, and the queue is destroyed.
A move that cannot be made changes nothing.

The consumer asks the queue by a call of its own, which may have to wait. It looks at its
token before it asks and whenever it waits; a cancellation that comes in between is
overlooked. A call that is given up leaves the count first and the line after it.

Waiting goes on in steps: it stops every listener, waits until the consumer has ended, takes
the alarm off the queue, closes the connections that it finds in there one after another, and
destroys the queue, which fails as long as there is something in it.
-/

namespace Diameter.Daemon

open Listener (Arrival ConnectionId Deed StopStage Event)

/-- Who closed a connection. -/
inductive Closer where
  /-- The handshake, which turned it away. -/
  | handshake
  /-- The hand-over, which the queue refused. -/
  | handOver
  /-- The consumer. -/
  | consumer
  /-- Whoever waits for the shutdown. -/
  | wait
  deriving DecidableEq, Repr

/-- What the consumer does. -/
inductive Consuming where
  /-- It looks at its token and asks the queue next. -/
  | looking
  /-- It waits for an answer. -/
  | asking (caller : Queue.CallerId)
  /-- It gives its call up. -/
  | leaving (caller : Queue.CallerId)
  /-- It is about to close a connection. -/
  | holding (arrival : Arrival)

/-- How far the wait for the end has come. -/
inductive WaitStage where
  /-- The shutdown has not been seen. -/
  | idle
  /-- All listeners are being stopped. -/
  | stopping
  /-- The consumer is waited for. -/
  | joining
  /-- The alarm is taken off next. -/
  | clearing
  /-- It looks into the queue next. -/
  | discarding
  /-- It is about to close a connection. -/
  | closing (arrival : Arrival)
  /-- It has found the queue empty and destroys it next. -/
  | destroying
  /-- The queue is destroyed, and those who wait there are woken next. -/
  | waking (side : Queue.Side)
  /-- It has returned. -/
  | returned
  /-- The queue could not be destroyed. -/
  | failed (error : QueueError)

/-- A daemon on its way to the end. -/
structure Closedown where
  /-- The daemon. -/
  daemon : Daemon
  /-- What the consumer does, as long as it works. -/
  consuming : Consuming
  /-- How far the stop of each listener has come. -/
  stops : List StopStage
  /-- How far the wait has come. -/
  stage : WaitStage
  /-- The hand-overs that were not over when all listeners had been stopped. -/
  inFlight : Nat
  /-- How often the wait has begun to empty the queue. -/
  rounds : Nat
  /-- The connections that were passed to be handed over. -/
  passed : List ConnectionId
  /-- The connections that were closed, and by whom. -/
  closed : List (Closer × ConnectionId)

/-- What happens next. -/
inductive Move where
  /-- Something happens to a listener. -/
  | listener (i : Nat) (event : Event)
  /-- The stop of a listener goes on. -/
  | stop (i : Nat)
  /-- A call to the event queue goes on. -/
  | turn (caller : Queue.CallerId)
  /-- Other calls to the event queue have a turn next. -/
  | arrange (runnable : List Queue.CallerId)
  /-- Somebody raises the shutdown. -/
  | trigger (reason : ShutdownReason)
  /-- The consumer goes on. -/
  | consume (overlooks : Bool)
  /-- The wait goes on. -/
  | wait

/-- Whether neither the consumer nor the wait goes on. -/
def Move.isBeside : Move → Bool
  | .consume _ | .wait => false
  | _ => true

namespace Closedown

variable (k : Closedown)

/-- The listeners and what they share. -/
def registry : Registry := k.daemon.registry

/-- What the listeners share. -/
def surroundings : Surroundings := k.registry.surroundings

/-- All calls to the event queue, and the queue. -/
def events : Queue.System Arrival String := k.surroundings.events

/-- All handshakes. -/
def handshakes : List Listener.Accepted := k.registry.listeners.flatMap (·.state.handshakes)

/-- The daemon goes on in other surroundings. -/
def withSurroundings (surroundings : Surroundings) : Closedown :=
  { k with daemon.registry.surroundings := surroundings }

/-- The daemon goes on with another event queue. -/
def withEvents (events : Queue.System Arrival String) : Closedown :=
  k.withSurroundings { k.surroundings with events }

/-- Somebody has closed a connection. -/
def note (closer : Closer) (c : ConnectionId) : Closedown :=
  { k with closed := k.closed ++ [(closer, c)] }

end Closedown

/-- The connection that a deed passes to be handed over. -/
def passed? : Deed → Option ConnectionId
  | .handed c => some c
  | _ => none

/-- The connection that a deed closes. -/
def closed? : Deed → Option (Closer × ConnectionId)
  | .closed c => some (.handshake, c)
  | .released c => some (.handOver, c)
  | _ => none

/-- Whether a handshake is about to pass its connection to be handed over. -/
def isHanding (x : Listener.Accepted) : Bool :=
  match x.phase with
  | .handing _ => true
  | _ => false

/-- Whether a call is a push that is not over. -/
def isPushing (c : Queue.Caller Arrival) : Bool :=
  match c with
  | ⟨.push _, .ready _ _⟩ | ⟨.push _, .parked _⟩ | ⟨.push _, .woken _ _⟩ => true
  | _ => false

namespace Closedown

/-- The hand-overs that are not over: their handshakes have left the set, and the queue has
neither stored nor refused the connection. -/
def pending (k : Closedown) : Nat :=
  k.handshakes.countP isHanding + k.events.callers.countP isPushing

/-- An event of a listener, and what is done by it. -/
def perform (k : Closedown) (i : Nat) (e : Event) : Closedown :=
  let deeds := ((k.registry.listener? i).map (·.deeds e)).getD []
  { k with
    daemon.registry := k.registry.modify i (·.perform e)
    passed := k.passed ++ deeds.filterMap passed?
    closed := k.closed ++ deeds.filterMap closed? }

/-- The stop of a listener goes on, if it need not wait. -/
def stop (k : Closedown) (i : Nat) : Closedown :=
  match k.registry.listener? i, k.stops[i]? with
  | some l, some stage =>
    match stage with
    | .ahead => if l.acceptor = .idle then k
        else { k.perform i .cancelAll with stops := k.stops.set i .joining }
    | .joining => if l.acceptor = .accepting then k
        else { k.perform i .drain with stops := k.stops.set i (.awaiting l.outstanding) }
    | .awaiting taken => if taken.all l.hasEnded then
          { k.perform i (.conclude taken) with stops := k.stops.set i (.returned taken) }
        else k
    | .returned _ => k
  | _, _ => k

/-- Whether the stop of every listener has returned. -/
def hasStopped (k : Closedown) : Bool :=
  k.stops.all fun stage => match stage with
    | .returned _ => true
    | _ => false

/-- A call to the event queue goes on. -/
def turn (k : Closedown) (c : Queue.CallerId) : Closedown :=
  let (events, crossing) := k.events.turn c
  k.withSurroundings ({ k.surroundings with events }.tell crossing)

/-- The consumer ends. -/
def endConsumer (k : Closedown) : Closedown := { k with daemon.consumer.working := false }

/-- The consumer goes on. `cancelled` tells what it sees of its token. -/
def consumeSeeing (k : Closedown) (cancelled : Bool) : Closedown :=
  match k.consuming with
  | .looking =>
    if cancelled then k.endConsumer
    else
      let (caller, events) := k.events.addCaller 0 (.pop none)
      { k.withEvents events with consuming := .asking caller }
  | .asking caller =>
    match k.events.outcome? caller with
    | some (.took arrival) =>
      { k with
        daemon.consumer.handled := k.daemon.consumer.handled + 1
        consuming := .holding arrival }
    | some _ => k.endConsumer
    | none =>
      if cancelled then
        match k.events.callers[caller]? with
        | some ⟨_, .ready _ true⟩ => k
        | _ => { k.withEvents ((k.events.abandon caller).withdraw caller false) with
            consuming := .leaving caller }
      else k
  | .leaving caller => (k.withEvents (k.events.depart caller)).endConsumer
  | .holding arrival =>
    { (k.withSurroundings (release k.surroundings arrival)).note .consumer arrival.connection with
      consuming := .looking }

/-- The consumer goes on, if it works. -/
def consume (k : Closedown) (overlooks : Bool) : Closedown :=
  if k.daemon.consumer.working then
    k.consumeSeeing (!overlooks && k.surroundings.shutdown.isCancelled k.daemon.consumer.token)
  else k

/-- The wait goes on, if it need not wait. -/
def wait (k : Closedown) : Closedown :=
  match k.stage with
  | .idle => if k.surroundings.shutdown.isTriggered then { k with stage := .stopping } else k
  | .stopping =>
    if k.hasStopped then
      let shutdown := k.surroundings.shutdown.cancel k.daemon.consumer.token
      { k.withSurroundings { k.surroundings with shutdown } with
        stage := .joining
        inFlight := k.pending }
    else k
  | .joining => if k.daemon.consumer.working then k else { k with stage := .clearing }
  | .clearing =>
    { k.withEvents (k.events.clearThresholds 0).2 with
      stage := .discarding
      rounds := k.rounds + 1 }
  | .discarding =>
    match k.surroundings.popEvent with
    | (.ok arrival, s) => { k.withSurroundings s with stage := .closing arrival }
    | (.error _, s) => { k.withSurroundings s with stage := .destroying }
  | .closing arrival =>
    { (k.withSurroundings (k.surroundings.closeConnection arrival.connection)).note .wait
        arrival.connection with
      stage := .discarding }
  | .destroying =>
    match k.events.close 0 with
    | (.ok _, events) => { k.withEvents events with stage := .waking .consumer }
    | (.error (.notEmpty _), events) =>
      { k.withEvents events with stage := .discarding, rounds := k.rounds + 1 }
    | (.error e, events) => { k.withEvents events with stage := .failed e }
  | .waking .consumer =>
    { k.withEvents (k.events.wakeAll 0 .consumer) with stage := .waking .producer }
  | .waking .producer => { k.withEvents (k.events.wakeAll 0 .producer) with stage := .returned }
  | .returned => k
  | .failed _ => k

/-- What a move leads to. -/
def next (k : Closedown) : Move → Closedown
  | .listener i e => if e.isOwn then k.perform i e else k
  | .stop i => if k.stage matches .stopping then k.stop i else k
  | .turn c => k.turn c
  | .arrange runnable => k.withEvents { k.events with runnable }
  | .trigger reason =>
    let shutdown := (k.surroundings.shutdown.trigger reason).2
    k.withSurroundings { k.surroundings with shutdown }
  | .consume overlooks => k.consume overlooks
  | .wait => k.wait

/-- What moves lead to. -/
def extend (k : Closedown) (moves : List Move) : Closedown := moves.foldl next k

/-- A daemon that has just been started. -/
def start (d : Daemon) : Closedown where
  daemon := d
  consuming := .looking
  stops := d.registry.listeners.map fun _ => .ahead
  stage := .idle
  inFlight := 0
  rounds := 0
  passed := []
  closed := []

theorem extend_append (k : Closedown) (moves more : List Move) :
    k.extend (moves ++ more) = (k.extend moves).extend more := List.foldl_append

/-- What every move keeps holds after all moves. -/
theorem extend_induction {P : Closedown → Prop} {k : Closedown} (hk : P k)
    (step : ∀ k m, P k → P (k.next m)) (moves : List Move) : P (k.extend moves) := by
  induction moves generalizing k with
  | nil => exact hk
  | cons m moves ih => exact ih (step k m hk)

end Closedown

end Diameter.Daemon
