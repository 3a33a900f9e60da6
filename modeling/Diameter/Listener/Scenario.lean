import Diameter.Listener.Running
import Diameter.Queue.Scenario
import Diameter.Text.Quoted

/-!
# A listener under a virtual clock

A scenario connects scripted peers to one listener, lets time pass, and stops it. Unless a
step holds them back, all tasks that can run do so after it.
-/

namespace Diameter.Listener

/-- What a step does. Connections go by their names. -/
inductive Action where
  | start
  | connect (name description : String) (tls : TlsScript)
  | acceptError (error : SystemError)
  | dropAcceptor
  | receive (name : String) (result : Except ConnectionError Octets)
  | finishInbox (name : String)
  | advance (time : Nat)
  | trigger (reason : ShutdownReason)
  | stop
  | popEvent (discard : Bool)
  | clearAlarm
  | destroyEvents
  | settle

/-- What a step answers by itself. -/
inductive Reply where
  | nothing
  | done
  | flag (value : Bool)
  | event (text : String)
  | refusedStart (error : ListenerError)
  | refusedQueue (error : QueueError)

/-- An entry of the set of outstanding handshakes. -/
structure Entry where
  /-- The connection. -/
  name : String
  /-- How it is described. -/
  description : String
  /-- The time that is left. -/
  remaining : Nat

/-- What a step leads to. -/
structure Report where
  /-- The answer of the step itself. -/
  reply : Reply
  /-- How far the listener has come. -/
  status : ListenerStatus
  /-- The handshakes that are outstanding. -/
  outstanding : List Entry
  /-- The connections. -/
  connections : List Connection
  /-- What the peer layer has kept. -/
  kept : List (Connection × Message)
  /-- Why the shutdown was raised, if it was. -/
  shutdown : Option ShutdownReason
  /-- What was written down in this step. -/
  notes : List Note
  /-- The time. -/
  now : Nat
  /-- The event queue. -/
  events : Queue.Stats

/-- The connection of a name that was made last. -/
def find? (l : Listener) (name : String) : Option ConnectionId :=
  ((List.range l.connections.length).filter fun c =>
    l.connections[c]?.any (·.name == name)).getLast?

/-- The handshake that waits for a message on a connection. -/
def receiver? (l : Listener) (c : ConnectionId) : Option HandshakeId :=
  (List.range l.handshakes.length).find? fun h =>
    match l.handshakes[h]? with
    | some ⟨connection, _, _, .waiting .message⟩ => connection = c
    | _ => false

/-- Changes what can be received on a connection, if somebody holds it. -/
def feed (l : Listener) (name : String) (f : Connection → Connection) : Listener × Reply :=
  match l.find? name with
  | none => (l, .flag false)
  | some c =>
    if l.connections[c]?.any Connection.held then
      let l := l.modifyConnection c f
      match l.receiver? c with
      | some h => (l.schedule (.handshake h), .flag true)
      | none => (l, .flag true)
    else (l, .flag false)

/-- Gives the acceptor something to accept, if it is still there. -/
def offer (l : Listener) (result : Except SystemError ConnectionId) : Listener × Reply :=
  if l.acceptor = .dropped ∨ l.exhausted then
    match result with
    | .ok c => (l.modifyConnection c Connection.release, .flag false)
    | .error _ => (l, .flag false)
  else
    let l := { l with backlog := l.backlog ++ [result] }
    (if l.acceptor = .accepting then l.schedule .acceptLoop else l, .flag true)

/-- How an event is shown. -/
def showArrival (l : Listener) (arrival : Arrival) : String :=
  let host := match arrival.message.originHost? with
    | some host => "Some(" ++ Text.quoted host ++ ")"
    | none => "None"
  "IncomingCer \x7b origin_host: " ++ host ++ ", connection: " ++
    Text.quoted (l.toSurroundings.describe arrival.connection) ++ " \x7d"

/-- Takes an event out of the queue, and closes its connection if it is discarded. -/
def popEvent (l : Listener) (discard : Bool) : Listener × Reply :=
  match l.toSurroundings.popEvent with
  | (.error e, surroundings) => ({ l with toSurroundings := surroundings }, .refusedQueue e)
  | (.ok arrival, surroundings) =>
    let l := { l with toSurroundings := surroundings }.scheduleWoken
    let l' := if discard then l.mapSurroundings (·.closeConnection arrival.connection) else l
    (l', .event (l.showArrival arrival))

/-- Carries out a step, before any task runs. -/
def act (l : Listener) : Action → Listener × Reply
  | .start =>
    match l.start with
    | (.ok _, l) => (l, .done)
    | (.error e, l) => (l, .refusedStart e)
  | .connect name description tls =>
    let c := l.connections.length
    { l with connections := l.connections ++ [Connection.new name description tls] }.offer (.ok c)
  | .acceptError e => l.offer (.error e)
  | .dropAcceptor =>
    let l := { l with exhausted := true }
    (if l.acceptor = .accepting then l.schedule .acceptLoop else l, .nothing)
  | .receive name result => l.feed name fun c => { c with inbox := c.inbox ++ [result] }
  | .finishInbox name => ((l.feed name fun c => { c with ended := true }).1, .nothing)
  | .advance time => (l.advance time, .nothing)
  | .trigger reason =>
    let (first, l) := l.trigger reason
    (l, .flag first)
  | .stop => (l.stop, .nothing)
  | .popEvent discard => l.popEvent discard
  | .clearAlarm =>
    let (attached, events) := l.events.clearThresholds 0
    ({ l with events }, .flag attached)
  | .destroyEvents =>
    match l.events.destroy 0 with
    | (.error e, events) => ({ l with events }, .refusedQueue e)
    | (.ok _, events) => ({ l with events }.scheduleWoken, .done)
  | .settle => (l, .nothing)

/-- What can be seen of an outstanding handshake. -/
def entry? (l : Listener) (h : HandshakeId) : Option Entry := do
  let accepted ← l.handshakes[h]?
  let c ← l.connections[accepted.connection]?
  return ⟨c.name, c.description, accepted.deadline - l.now⟩

/-- What can be seen of a kept connection. -/
def kept? (l : Listener) (arrival : Arrival) : Option (Connection × Message) := do
  return (← l.connections[arrival.connection]?, arrival.message)

/-- Carries out a step. Unless it holds the tasks back they run afterwards. -/
def step (l : Listener) (action : Action) (hold : Bool) : Listener × Report :=
  let (l, reply) := { l with notes := [] }.act action
  let l := if hold then l else l.settle
  (l, {
    reply
    status := l.status
    outstanding := l.outstanding.filterMap l.entry?
    connections := l.connections
    kept := l.kept.filterMap l.kept?
    shutdown := l.shutdown.reason
    notes := l.notes
    now := l.now
    events := l.events.stats 0 })

/-- Carries out the steps, and what each leads to. -/
def play (l : Listener) : List (Action × Bool) → Listener × List Report
  | [] => (l, [])
  | (action, hold) :: rest =>
    let (l, report) := l.step action hold
    let (l, reports) := l.play rest
    (l, report :: reports)

end Diameter.Listener
