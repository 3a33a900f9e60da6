import Diameter.Listener.Scenario

/-!
# Every interleaving of a listener

An event is what one task does between two points at which others may come in, or something
from outside. A course is what a list of events leads to, so a statement about all lists of
events is one about every order in which the accept loop, the handshakes, the clock, the far
ends, the peer layer, the shutdown and any number of stops come in. An event that cannot
happen changes nothing.

A task looks at its token when its turn begins. A cancellation that comes between this look
and the rest of the turn is overlooked by it. The steps of a stop are events of their own,
and each of them may happen at any time, so that several stops may overlap.

Registering a handshake, starting it and noting its task are one event. In between only a
stop that did not wait for the accept loop could take the entry, and for a handshake that
has not looked at anything it is the same whether its entry was taken before it started.
-/

namespace Diameter.Listener

/-- What happens at one point in time. -/
inductive Event where
  /-- A far end connects. -/
  | connect (name description : String) (tls : TlsScript)
  /-- Accepting is going to fail once. -/
  | acceptError (error : SystemError)
  /-- The acceptor is going to fail for good. -/
  | exhaust
  /-- Something can be received on a connection. -/
  | deliver (c : ConnectionId) (result : Except ConnectionError Octets)
  /-- A far end sends nothing more. -/
  | finishInbox (c : ConnectionId)
  /-- The clock shows another time. -/
  | clock (now : Nat)
  /-- Somebody raises the shutdown. -/
  | trigger (reason : ShutdownReason)
  /-- Somebody cancels a token. -/
  | cancel (token : TokenId)
  /-- The accept loop is started. -/
  | start
  /-- The accept loop goes round once. -/
  | accept (overlooks : Bool)
  /-- A handshake has a turn of its wait. -/
  | poll (h : HandshakeId) (overlooks : Bool)
  /-- A handshake leaves the set. -/
  | claim (h : HandshakeId)
  /-- A handshake closes its connection. -/
  | close (h : HandshakeId)
  /-- A handshake stops the daemon. -/
  | raise (h : HandshakeId)
  /-- A handshake gives its connection to the peer layer. -/
  | handOver (h : HandshakeId)
  /-- The peer layer takes the connection of a handshake, if it can. -/
  | completeHandOver (h : HandshakeId)
  /-- An event is taken from the queue, and its connection may be closed. -/
  | popEvent (discard : Bool)
  /-- The alarm of the event queue is detached. -/
  | clearAlarm
  /-- The event queue is destroyed. -/
  | destroyEvents
  /-- A stop cancels everything. -/
  | cancelAll
  /-- A stop takes every entry out of the set. -/
  | drain
  /-- A stop returns. -/
  | conclude (taken : List HandshakeId)
  /-- A stop has seen the accept loop end. -/
  | join
  /-- Other tasks have a turn next. -/
  | arrange (runnable : List Task)
  /-- What was written down is taken away. -/
  | forget

/-- Whether an event is about a listener, and not something that others do to the event queue. -/
def Event.isOwn : Event → Bool
  | .popEvent _ | .clearAlarm | .destroyEvents => false
  | _ => true

/-- What was done to a connection or to the entry of a handshake. -/
inductive Deed where
  /-- The accept loop took the connection. -/
  | accepted (c : ConnectionId)
  /-- The accept loop broke down over the connection. -/
  | stranded (c : ConnectionId)
  /-- The handshake left the set by itself. -/
  | claimed (h : HandshakeId)
  /-- A stop took the entry of the handshake. -/
  | drained (h : HandshakeId)
  /-- A handshake closed the connection. -/
  | closed (c : ConnectionId)
  /-- The peer layer was given the connection. -/
  | handed (c : ConnectionId)
  /-- The peer layer closed the connection. -/
  | released (c : ConnectionId)
  deriving DecidableEq, Repr

/-- One round of the accept loop. `cancelled` tells what it saw of its token. -/
def acceptSeeing (l : Listener) (cancelled : Bool) : Listener :=
  if l.acceptor ≠ .accepting then l
  else if cancelled then l.dropAcceptor
  else l.acceptNext

/-- What an event leads to. -/
def perform (l : Listener) : Event → Listener
  | .connect name description tls => (l.act (.connect name description tls)).1
  | .acceptError error => (l.act (.acceptError error)).1
  | .exhaust => (l.act .dropAcceptor).1
  | .deliver c result => l.modifyConnection c fun x => { x with inbox := x.inbox ++ [result] }
  | .finishInbox c => l.modifyConnection c fun x => { x with ended := true }
  | .clock now => { l with now }
  | .trigger reason => (l.trigger reason).2
  | .cancel token => { l with shutdown := l.shutdown.cancel token }
  | .start => l.start.2
  | .accept overlooks => l.acceptSeeing (!overlooks && l.shutdown.isCancelled l.token)
  | .poll h overlooks => l.pollSeeing h (!overlooks && l.isCancelled h)
  | .claim h => l.claim h
  | .close h => l.close h
  | .raise h => l.raise h
  | .handOver h => l.handOver h
  | .completeHandOver h => l.completeHandOver h
  | .popEvent discard => (l.popEvent discard).1
  | .clearAlarm => (l.act .clearAlarm).1
  | .destroyEvents => (l.act .destroyEvents).1
  | .cancelAll => l.cancelAll
  | .drain => l.drain.2
  | .conclude taken => l.conclude taken
  | .join => { l with hasLoop := false }
  | .arrange runnable => { l with runnable }
  | .forget => { l with notes := [] }

/-- What the accept loop does with the next result. -/
def nextDeeds (l : Listener) : List Deed :=
  match l.backlog with
  | .ok c :: _ =>
    match Clock.after? l.now l.timeout with
    | some _ => [.accepted c]
    | none => [.accepted c, .stranded c]
  | _ => []

/-- What one round of the accept loop does. -/
def acceptDeeds (l : Listener) (cancelled : Bool) : List Deed :=
  if l.acceptor ≠ .accepting then []
  else if cancelled then []
  else l.nextDeeds

/-- A handshake that finds its entry claims it. -/
def claimDeeds (l : Listener) (h : HandshakeId) : List Deed :=
  match l.handshakes[h]? with
  | some ⟨_, _, _, .leaving _⟩ => if l.outstanding.contains h then [.claimed h] else []
  | _ => []

/-- A handshake closes its own connection. -/
def closeDeeds (l : Listener) (h : HandshakeId) : List Deed :=
  match l.handshakes[h]? with
  | some ⟨c, _, _, .closing _ _⟩ => [.closed c]
  | _ => []

/-- The peer layer is given the connection of the arrival. -/
def handOverDeeds (l : Listener) (h : HandshakeId) : List Deed :=
  match l.handshakes[h]? with
  | some ⟨_, _, _, .handing arrival⟩ => [.handed arrival.connection]
  | _ => []

/-- The peer layer closes a connection, if it is one. -/
def releaseDeeds (l : Listener) (c : ConnectionId) : List Deed :=
  if c < l.connections.length then [.released c] else []

/-- A connection that the event queue refuses is closed. -/
def completeDeeds (l : Listener) (h : HandshakeId) : List Deed :=
  match l.handshakes[h]? with
  | some ⟨_, _, _, .storing caller⟩ =>
    match (l.events.run caller l.now).1.callers[caller]? with
    | some ⟨_, .ended (.refused arrival _)⟩ => l.releaseDeeds arrival.connection
    | _ => []
  | _ => []

/-- The connection of an event that is discarded is closed. -/
def popDeeds (l : Listener) (discard : Bool) : List Deed :=
  match l.toSurroundings.popEvent.1 with
  | .ok arrival => if discard then l.releaseDeeds arrival.connection else []
  | .error _ => []

/-- What an event does to connections and entries. -/
def deeds (l : Listener) : Event → List Deed
  | .accept overlooks => l.acceptDeeds (!overlooks && l.shutdown.isCancelled l.token)
  | .claim h => l.claimDeeds h
  | .close h => l.closeDeeds h
  | .handOver h => l.handOverDeeds h
  | .completeHandOver h => l.completeDeeds h
  | .popEvent discard => l.popDeeds discard
  | .drain => l.outstanding.map .drained
  | _ => []

/-- What a list of events has led to. -/
structure Course where
  /-- The listener. -/
  listener : Listener
  /-- What was done, first to last. -/
  deeds : List Deed

namespace Course

/-- A listener that has just been made. -/
def start (address : String) (transport : Transport) (security : Security)
    (terms : AcceptTerms) (surroundings : Surroundings) : Course :=
  ⟨.new address transport security terms surroundings, []⟩

/-- The course after one more event. -/
def next (k : Course) (e : Event) : Course :=
  ⟨k.listener.perform e, k.deeds ++ k.listener.deeds e⟩

/-- The course after more events. -/
def extend (k : Course) (events : List Event) : Course := events.foldl next k

theorem extend_append (k : Course) (events more : List Event) :
    k.extend (events ++ more) = (k.extend events).extend more := List.foldl_append

/-- What every event keeps holds after all events. -/
theorem extend_induction {P : Course → Prop} {k : Course} (hk : P k)
    (step : ∀ k e, P k → P (k.next e)) (events : List Event) : P (k.extend events) := by
  induction events generalizing k with
  | nil => exact hk
  | cons e events ih => exact ih (step k e hk)

end Course

end Diameter.Listener
