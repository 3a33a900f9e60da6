import Diameter.Clock
import Diameter.Handshake.Basic
import Diameter.Listener.Status
import Diameter.Metrics
import Diameter.Queue.System
import Diameter.Shutdown.Basic

/-!
# A listener and its handshakes

The accept loop takes connections from the acceptor and starts a handshake for each. The
listener keeps the set of handshakes that are outstanding. Leaving that set decides who
owns a connection: a handshake that leaves it by itself may hand its connection over, and
no cancellation or deadline reaches it any more; one whose entry was taken by a stop has to
close its connection.

Each function here is one step between two points at which other tasks may come in: a turn
of the wait, leaving the set, closing, raising the shutdown, handing over.
-/

namespace Diameter

namespace Listener

/-- A connection, by its place among all connections. -/
abbrev ConnectionId := Nat

/-- A handshake, by its place among all handshakes. -/
abbrev HandshakeId := Nat

/-- A connection on its way to the peer layer, with its first message. -/
structure Arrival where
  /-- The message. -/
  message : Message
  /-- The connection. -/
  connection : ConnectionId
  deriving DecidableEq, Repr

/-- How far a handshake has come. -/
inductive Phase where
  /-- It waits for the first message. -/
  | waiting (wait : Handshake.Wait)
  /-- The wait is over, and the entry has not been given up yet. -/
  | leaving (decision : Handshake.Decision)
  /-- The connection is about to be closed. A late one had its message when a stop came. -/
  | closing (outcome : HandshakeOutcome) (late : Bool)
  /-- The connection is closed, and the daemon is about to be stopped. -/
  | raising (what : String)
  /-- The peer layer is about to get the connection. -/
  | handing (arrival : Arrival)
  /-- The peer layer takes its time. -/
  | keeping (arrival : Arrival) (done : Nat)
  /-- The connection is on its way into the event queue. -/
  | storing (caller : Queue.CallerId)
  /-- It is over. -/
  | ended (outcome : HandshakeOutcome)

/-- An accepted connection and its handshake. -/
structure Accepted where
  /-- The connection. -/
  connection : ConnectionId
  /-- When its first message has to be there. -/
  deadline : Nat
  /-- What cancels it. -/
  token : TokenId
  /-- How far it has come. -/
  phase : Phase

/-- Who holds the acceptor. -/
inductive AcceptorState where
  /-- The listener, which has not started. -/
  | idle
  /-- The accept loop. -/
  | accepting
  /-- Nobody: it is gone, and with it what it had not yet accepted. -/
  | dropped
  deriving DecidableEq, Repr

/-- Who gets connections after their first message. -/
inductive PeerLayer where
  /-- Somebody who keeps them, and takes some time for each. -/
  | keeper (delay : Nat)
  /-- The event queue. -/
  | events
  deriving DecidableEq, Repr

/-- A task of a listener. -/
inductive Task where
  | acceptLoop
  | handshake (h : HandshakeId)
  deriving DecidableEq, Repr

/-- What a listener writes down as it happens. -/
inductive Note where
  /-- A connection was turned away. -/
  | rejected (peer : String) (reason : RejectReason)
  /-- A connection is handed over. -/
  | arrived (peer : String) (host realm : Option String)
  /-- Our side failed. -/
  | failed (what : String)
  /-- A handshake was cancelled while it waited. -/
  | cancelledWaiting
  /-- A message came after a stop had taken the entry. -/
  | cancelledLate
  /-- The event queue refused a connection. -/
  | dropped (text : String)
  /-- A connection was taken from the event queue and closed. -/
  | released (host realm : Option String)
  /-- The listener was stopped with so many entries outstanding. -/
  | stopped (label : String) (outstanding : Nat)
  /-- Accepting failed for a moment. -/
  | transient (text : String)
  /-- Accepting failed for good. -/
  | acceptFailed (text : String)
  deriving DecidableEq, Repr

end Listener

open Listener

/-- What the listeners of a daemon share. -/
structure Surroundings where
  /-- The time. -/
  now : Nat
  /-- The shutdown event. -/
  shutdown : Shutdown
  /-- All connections. -/
  connections : List Connection
  /-- The event queue, which is the only queue there is. -/
  events : Queue.System Arrival String
  /-- What the peer layer has kept. -/
  kept : List Arrival
  /-- What was written down. -/
  notes : List Note
  /-- What was counted. -/
  metrics : Metrics

/-- Surroundings in which nothing has happened. The event queue holds at most `capacity`
events, or any number if that is zero. -/
def Surroundings.new (capacity : Nat) : Surroundings :=
  { now := 0, shutdown := .new, connections := []
    events := ((Queue.System.empty).addQueue capacity).2
    kept := [], notes := [], metrics := .empty }

namespace Surroundings

/-- Attaches the alarm of the event queue, which goes by this name in metrics. -/
def withAlarm (s : Surroundings) (name : String) (high low : Nat) :
    Except QueueError Surroundings :=
  match s.events.setThresholds 0 high low name with
  | (.error e, _) => .error e
  | (.ok _, events) => .ok { s with events }

/-- Writes something down. -/
def write (s : Surroundings) (note : Note) : Surroundings := { s with notes := s.notes ++ [note] }

/-- The surroundings with one connection changed. -/
def modifyConnection (s : Surroundings) (c : ConnectionId) (f : Connection → Connection) :
    Surroundings :=
  { s with connections := s.connections.modify c f }

/-- How a connection is described. -/
def describe (s : Surroundings) (c : ConnectionId) : String :=
  ((s.connections[c]?).map Connection.description).getD ""

/-- Counts a crossing of the event queue. -/
def tell (s : Surroundings) (crossing : Option (Queue.Crossing String)) : Surroundings :=
  match crossing with
  | none => s
  | some x =>
    let depth := (s.events.queue (s.events.serving x.queue)).items.length
    { s with metrics := s.metrics.crossing x.handler x.level depth }

/-- Takes an event out of the queue. -/
def popEvent (s : Surroundings) : Except QueueError Arrival × Surroundings :=
  match s.events.tryPop 0 with
  | (.error e, events, crossing) => (.error e, { s with events }.tell crossing)
  | (.ok arrival, events, crossing) => (.ok arrival, { s with events }.tell crossing)

/-- Closes a connection and lets go of it. -/
def closeConnection (s : Surroundings) (c : ConnectionId) : Surroundings :=
  s.modifyConnection c fun x => x.close.release

end Surroundings

/-- How a listener treats the connections that it accepts. -/
structure AcceptTerms where
  /-- How long a first message may take. -/
  timeout : Nat
  /-- Reads and judges messages. -/
  codec : Codec
  /-- Who gets connections. -/
  peers : PeerLayer

/-- What a listener holds by itself. -/
structure ListenerState extends AcceptTerms where
  /-- The label. -/
  label : String
  /-- The address, as it is written. -/
  address : String
  /-- The transport. -/
  transport : Transport
  /-- When TLS starts. -/
  security : Security
  /-- How far the listener has come. -/
  status : ListenerStatus
  /-- Who holds the acceptor. -/
  acceptor : AcceptorState
  /-- Whether the accept loop has been started. -/
  hasLoop : Bool
  /-- What the acceptor will give, first things first. -/
  backlog : List (Except SystemError ConnectionId)
  /-- Whether the acceptor fails once the backlog is used up. -/
  exhausted : Bool
  /-- What cancels the accept loop, and every handshake with it. -/
  token : TokenId
  /-- All handshakes. -/
  handshakes : List Accepted
  /-- The handshakes that are outstanding, oldest first. -/
  outstanding : List HandshakeId
  /-- The tasks that can run, first woken first. -/
  runnable : List Task

/-- A listener in its surroundings. -/
structure Listener extends ListenerState, Surroundings

namespace Listener

/-- A listener that has not been started. -/
def new (address : String) (transport : Transport) (security : Security) (terms : AcceptTerms)
    (surroundings : Surroundings) : Listener :=
  let (token, shutdown) := surroundings.shutdown.child Shutdown.root
  { toAcceptTerms := terms
    label := endpointLabel transport security address
    address, transport, security
    status := .notStarted
    acceptor := .idle
    hasLoop := false
    backlog := []
    exhausted := false
    token
    handshakes := []
    outstanding := []
    runnable := []
    toSurroundings := { surroundings with shutdown } }

/-- The listener in other surroundings. -/
def mapSurroundings (l : Listener) (f : Surroundings → Surroundings) : Listener :=
  { l with toSurroundings := f l.toSurroundings }

/-- Writes something down. -/
def write (l : Listener) (note : Note) : Listener := l.mapSurroundings (·.write note)

/-- The task can run. It keeps its turn if it has one. -/
def schedule (l : Listener) (task : Task) : Listener :=
  if task ∈ l.runnable then l else { l with runnable := l.runnable ++ [task] }

/-- The listener with one connection changed. -/
def modifyConnection (l : Listener) (c : ConnectionId) (f : Connection → Connection) : Listener :=
  l.mapSurroundings (·.modifyConnection c f)

/-- The listener with one handshake in another phase. -/
def setPhase (l : Listener) (h : HandshakeId) (phase : Phase) : Listener :=
  { l with handshakes := l.handshakes.modify h fun x => { x with phase } }

/-- Shows how many handshakes are outstanding. -/
def showOutstanding (l : Listener) (count : Nat) : Listener :=
  let key := Metrics.key "diameter_pending_handshakes" [("listener", l.label)]
  { l with metrics := l.metrics.set key count }

/-- Whether a handshake waits for its first message. -/
def isWaiting (h : Accepted) : Bool :=
  match h.phase with
  | .waiting _ => true
  | _ => false

/-- Gives a turn to everything that a cancellation reaches. -/
def scheduleCancelled (l : Listener) : Listener :=
  let waiting := (List.range l.handshakes.length).filter fun h => l.handshakes[h]?.any isWaiting
  let l := waiting.foldl (fun l h => l.schedule (.handshake h)) l
  if l.acceptor = .accepting then l.schedule .acceptLoop else l

/-- Raises the shutdown, and tells whether this was the first time. -/
def trigger (l : Listener) (reason : ShutdownReason) : Bool × Listener :=
  match l.shutdown.trigger reason with
  | (true, shutdown) => (true, { l with shutdown }.scheduleCancelled)
  | (false, _) => (false, l)

/-- Counts an accepted connection. -/
def countAccepted (l : Listener) : Listener :=
  let key := Metrics.key "diameter_connections_accepted_total"
    [("protocol", l.transport.name), ("security", l.security.name)]
  { l with metrics := l.metrics.count key }

/-- Starts a handshake for an accepted connection. -/
def dispatch (l : Listener) (c : ConnectionId) (deadline : Nat) : Listener :=
  let h := l.handshakes.length
  let (token, shutdown) := l.shutdown.child l.token
  let l := { l with
    shutdown
    handshakes := l.handshakes ++ [Accepted.mk c deadline token (.waiting .turn)]
    outstanding := l.outstanding ++ [h] }
  (l.showOutstanding l.outstanding.length).schedule (.handshake h)

/-- The acceptor goes away. What it had not accepted is gone. -/
def dropAcceptor (l : Listener) : Listener :=
  let lost := l.backlog.filterMap Except.toOption
  let l := lost.foldl (fun l c => l.modifyConnection c Connection.release) l
  { l with acceptor := .dropped, backlog := [] }

/-- Accepting failed for good. -/
def failAccept (l : Listener) (e : SystemError) : Listener :=
  let l := { l with status := l.status.advance .failed }.write (.acceptFailed e.text)
  (l.trigger (.listenerFailed l.label)).2.dropAcceptor

/-- The error of an acceptor that is used up. -/
def exhaustedError : SystemError := ⟨.other, "acceptor socket failed"⟩

/-- The accept loop breaks down: the connection has a deadline that the clock cannot show.
Nobody closes it. -/
def breakLoop (l : Listener) (c : ConnectionId) : Listener :=
  (l.modifyConnection c Connection.release).dropAcceptor

/-- What one result of the acceptor leads to. Transient errors are passed over; any other ends
the loop. -/
def acceptResult (l : Listener) : Except SystemError ConnectionId → Listener
  | .ok c =>
    let l := l.countAccepted
    match Clock.after? l.now l.timeout with
    | some deadline => l.dispatch c deadline
    | none => l.breakLoop c
  | .error e => if e.isTransient then l.write (.transient e.text) else l.failAccept e

/-- One round of the accept loop, which does nothing if there is nothing to accept. -/
def acceptNext (l : Listener) : Listener :=
  match l.backlog with
  | [] => if l.exhausted then l.failAccept exhaustedError else l
  | result :: rest => { l with backlog := rest }.acceptResult result

/-- Accepts what there is, in order, and then looks once more. -/
def acceptAll (l : Listener) : List (Except SystemError ConnectionId) → Listener
  | [] => l.acceptNext
  | _ :: rest =>
    let l := l.acceptNext
    if l.acceptor = .accepting then l.acceptAll rest else l

/-- A turn of the accept loop. A cancellation ends it before anything is accepted. -/
def runAcceptLoop (l : Listener) : Listener :=
  if l.acceptor ≠ .accepting then l
  else if l.shutdown.isCancelled l.token then l.dropAcceptor
  else l.acceptAll l.backlog

/-- Whether a handshake is cancelled. -/
def isCancelled (l : Listener) (h : HandshakeId) : Bool :=
  l.handshakes[h]?.any fun x => l.shutdown.isCancelled x.token

/-- A turn of the wait of a handshake. `cancelled` tells what it saw of its token. -/
def pollSeeing (l : Listener) (h : HandshakeId) (cancelled : Bool) : Listener :=
  match l.handshakes[h]? with
  | some ⟨c, deadline, _, .waiting wait⟩ =>
    match l.connections[c]? with
    | none => l
    | some connection =>
      let terms : Handshake.Terms := ⟨l.security, l.codec, deadline⟩
      let (next, connection) := Handshake.poll terms l.now cancelled wait connection
      let l := l.modifyConnection c fun _ => connection
      match next with
      | .inl wait => l.setPhase h (.waiting wait)
      | .inr decision => l.setPhase h (.leaving decision)
  | _ => l

/-- A turn of the wait of a handshake. -/
def pollHandshake (l : Listener) (h : HandshakeId) : Listener := l.pollSeeing h (l.isCancelled h)

/-- What a handshake does after it left the set. `claimed` tells that it left by itself. -/
def afterClaim (l : Listener) (c : ConnectionId) (claimed : Bool) :
    Handshake.Decision → Phase × Listener
  | .cancelled => (.closing .cancelled false, l)
  | .judged (.rejected reason) => (.closing (.rejected reason) false, l)
  | .judged (.failed what) => (.closing (.fatal what) false, l)
  | .judged (.accepted m) =>
    if claimed then
      (.handing ⟨m, c⟩, l.write (.arrived (l.toSurroundings.describe c) m.originHost? m.originRealm?))
    else (.closing .cancelled true, l)

/-- The handshake leaves the set of outstanding ones, if it is still in there. -/
def claim (l : Listener) (h : HandshakeId) : Listener :=
  match l.handshakes[h]? with
  | some ⟨c, _, _, .leaving decision⟩ =>
    let claimed := l.outstanding.contains h
    let l :=
      if claimed then
        let outstanding := l.outstanding.filter (· != h)
        { l with outstanding }.showOutstanding outstanding.length
      else l
    let (phase, l) := l.afterClaim c claimed decision
    l.setPhase h phase
  | _ => l

/-- The handshake is over. -/
def finish (l : Listener) (h : HandshakeId) (outcome : HandshakeOutcome) : Listener :=
  let labels := [("outcome", outcome.label)]
  let metrics := (l.metrics.count (Metrics.key "diameter_handshakes_total" labels)).count
    (Metrics.key "diameter_handshake_duration_seconds" labels)
  { l with metrics }.setPhase h (.ended outcome)

/-- What is written down when a connection is closed. -/
def closingNote (peer : String) (late : Bool) : HandshakeOutcome → List Note
  | .handedOff => []
  | .cancelled => [if late then .cancelledLate else .cancelledWaiting]
  | .rejected reason => [.rejected peer reason]
  | .fatal what => [.failed what]

/-- The handshake closes its connection and lets go of it. -/
def close (l : Listener) (h : HandshakeId) : Listener :=
  match l.handshakes[h]? with
  | some ⟨c, _, _, .closing outcome late⟩ =>
    let l := l.mapSurroundings (·.closeConnection c)
    let l := { l with notes := l.notes ++ closingNote (l.toSurroundings.describe c) late outcome }
    match outcome with
    | .fatal what => l.setPhase h (.raising what)
    | outcome => l.finish h outcome
  | _ => l

/-- A failure of our own stops the daemon. -/
def raise (l : Listener) (h : HandshakeId) : Listener :=
  match l.handshakes[h]? with
  | some ⟨_, _, _, .raising what⟩ => (l.trigger (.internal what)).2.finish h (.fatal what)
  | _ => l

/-- The handshake whose call to the event queue is `caller`. -/
def storingHandshake (l : Listener) (caller : Queue.CallerId) : Option HandshakeId :=
  (List.range l.handshakes.length).find? fun h =>
    match l.handshakes[h]? with
    | some ⟨_, _, _, .storing c⟩ => c = caller
    | _ => false

/-- Gives a turn to every handshake that the event queue woke. Those of other listeners are
left to them. -/
def scheduleWoken (l : Listener) : Listener :=
  let woken := l.events.runnable.filterMap l.storingHandshake
  let others := l.events.runnable.filter fun caller => (l.storingHandshake caller).isNone
  let l := { l with events := { l.events with runnable := others } }
  woken.foldl (fun l h => l.schedule (.handshake h)) l

/-- Gives the connection to the peer layer. -/
def handOver (l : Listener) (h : HandshakeId) : Listener :=
  match l.handshakes[h]? with
  | some ⟨_, _, _, .handing arrival⟩ =>
    match l.peers with
    | .keeper delay => l.setPhase h (.keeping arrival (l.now + delay))
    | .events =>
      let (caller, events) := l.events.addCaller 0 (.push arrival)
      let runnable := events.runnable.filter (· != caller)
      { l with events := { events with runnable } }.setPhase h (.storing caller)
  | _ => l

/-- The event queue refused the connection, which is closed. -/
def discard (l : Listener) (arrival : Arrival) (e : QueueError) : Listener :=
  (l.write (.dropped e.pushMessage)).mapSurroundings (·.closeConnection arrival.connection)

/-- The peer layer takes the connection, as soon as it can. -/
def completeHandOver (l : Listener) (h : HandshakeId) : Listener :=
  match l.handshakes[h]? with
  | some ⟨_, _, _, .keeping arrival done⟩ =>
    if l.now < done then l else { l with kept := l.kept ++ [arrival] }.finish h .handedOff
  | some ⟨_, _, _, .storing caller⟩ =>
    let (events, crossing) := l.events.run caller l.now
    let l : Listener := { l with events }
    let l := (l.mapSurroundings (·.tell crossing)).scheduleWoken
    match l.events.callers[caller]? with
    | some ⟨_, .ended (.refused arrival e)⟩ => (l.discard arrival e).finish h .handedOff
    | some ⟨_, .ended _⟩ => l.finish h .handedOff
    | _ => l
  | _ => l

/-- A turn of a handshake: it goes on until it has to wait or is over. -/
def runHandshake (l : Listener) (h : HandshakeId) : Listener :=
  ((((((l.pollHandshake h).claim h).close h).raise h).handOver h).completeHandOver h)

/-- A turn of a task. -/
def run (l : Listener) : Task → Listener
  | .acceptLoop => l.runAcceptLoop
  | .handshake h => l.runHandshake h

/-- Starts the accept loop. The acceptor is used up by the attempt. -/
def start (l : Listener) : Except ListenerError Unit × Listener :=
  if l.acceptor = .idle ∧ l.status.canBecome .running then
    (.ok (), { l with status := .running, acceptor := .accepting, hasLoop := true }.schedule
      .acceptLoop)
  else
    let l' := if l.acceptor = .idle then l.dropAcceptor else l
    (.error (.notStartable l.label l.status), l')

/-- The first step of a stop: the loop and all handshakes are cancelled. -/
def cancelAll (l : Listener) : Listener :=
  { l with shutdown := l.shutdown.cancel l.token }.scheduleCancelled

/-- The second step of a stop, after the loop has ended: the acceptor goes away and every
entry is taken out of the set. -/
def drain (l : Listener) : List HandshakeId × Listener :=
  let l' := if l.acceptor = .idle then l.dropAcceptor else l
  (l.outstanding, { l' with outstanding := [] }.showOutstanding 0)

/-- The last step of a stop, after the taken handshakes have ended. -/
def conclude (l : Listener) (taken : List HandshakeId) : Listener :=
  if l.status.canBecome .terminated then
    { l with status := .terminated }.write (.stopped l.label taken.length)
  else l

end Listener

end Diameter
