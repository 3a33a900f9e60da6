import Diameter.Proofs.Listener.Course

/-!
# The roster of a listener

The roster keeps what matters for the ownership of connections: where each handshake stands,
who is in the set, which connections are still to be accepted, how often each connection was
closed, and who holds the acceptor. Time, tokens, messages, queues and turns are forgotten.

A step of the roster says what can happen to it and which deeds go with that. Every event of
a listener is a path of at most two steps.
-/

namespace Diameter.Listener

/-- Where a handshake stands. -/
inductive Stand where
  /-- It waits, or it has not left the set yet. -/
  | pending
  /-- It is about to close its connection. -/
  | closing (outcome : HandshakeOutcome)
  /-- It has closed its connection and is about to stop the daemon. -/
  | raising
  /-- It is about to give a connection to the peer layer. -/
  | handing (c : ConnectionId)
  /-- The peer layer has been given the connection. -/
  | given
  /-- It is over. -/
  | ended (outcome : HandshakeOutcome)
  deriving DecidableEq, Repr

/-- Where a handshake in this phase stands. -/
def Phase.stand : Phase → Stand
  | .waiting _ | .leaving _ => .pending
  | .closing outcome _ => .closing outcome
  | .raising _ => .raising
  | .handing arrival => .handing arrival.connection
  | .keeping _ _ | .storing _ => .given
  | .ended outcome => .ended outcome

/-- A connection with its handshake. -/
structure Place where
  /-- The connection. -/
  connection : ConnectionId
  /-- Where the handshake stands. -/
  stand : Stand
  deriving DecidableEq, Repr

/-- What matters for the ownership of connections. -/
structure Roster where
  /-- All handshakes. -/
  places : List Place
  /-- The handshakes in the set. -/
  outstanding : List HandshakeId
  /-- The connections that are still to be accepted. -/
  coming : List ConnectionId
  /-- How often each connection was closed. -/
  closes : List Nat
  /-- Who holds the acceptor. -/
  acceptor : AcceptorState

/-- The roster of a listener. -/
def roster (l : Listener) : Roster where
  places := l.handshakes.map fun x => ⟨x.connection, x.phase.stand⟩
  outstanding := l.outstanding
  coming := l.backlog.filterMap Except.toOption
  closes := l.connections.map Connection.closes
  acceptor := l.acceptor

namespace Roster

/-- The roster with one handshake standing elsewhere. -/
def put (r : Roster) (h : HandshakeId) (stand : Stand) : Roster :=
  { r with places := r.places.modify h fun x => { x with stand } }

/-- The roster after a connection was closed. -/
def close (r : Roster) (c : ConnectionId) : Roster :=
  { r with closes := r.closes.modify c (· + 1) }

/-- The roster after the acceptor has gone. -/
def drop (r : Roster) : Roster := { r with coming := [], acceptor := .dropped }

/-- The roster after an entry has left the set. -/
def leave (r : Roster) (h : HandshakeId) : Roster :=
  { r with outstanding := r.outstanding.filter (· != h) }

/-- The roster after a handshake was started for a connection. -/
def dispatch (r : Roster) (c : ConnectionId) : Roster :=
  { r with
    places := r.places ++ [⟨c, .pending⟩]
    outstanding := r.outstanding ++ [r.places.length] }

/-- What can happen to a roster, with the deeds that go with it. -/
inductive Step : Roster → List Deed → Roster → Prop
  /-- A far end connects, and the acceptor may or may not be there. -/
  | connect (r : Roster) {coming : List ConnectionId}
      (hc : coming = r.coming ∨ coming = r.coming ++ [r.closes.length]) :
      Step r [] { r with coming, closes := r.closes ++ [0] }
  /-- The accept loop starts. -/
  | start (r : Roster) (hr : r.acceptor = .idle) : Step r [] { r with acceptor := .accepting }
  /-- The acceptor goes away. -/
  | drop (r : Roster) : Step r [] r.drop
  /-- A connection gets its handshake. -/
  | accept (r : Roster) {c : ConnectionId} {rest : List ConnectionId}
      (hr : r.acceptor = .accepting) (hc : r.coming = c :: rest) :
      Step r [.accepted c] ({ r with coming := rest }.dispatch c)
  /-- The accept loop breaks down over a connection. -/
  | strand (r : Roster) {c : ConnectionId} {rest : List ConnectionId}
      (hr : r.acceptor = .accepting) (hc : r.coming = c :: rest) :
      Step r [.accepted c, .stranded c] r.drop
  /-- A handshake leaves the set by itself, with its connection to close. -/
  | claimClosing (r : Roster) {h : HandshakeId} {c : ConnectionId} {outcome : HandshakeOutcome}
      (hr : r.places[h]? = some ⟨c, .pending⟩) (hs : h ∈ r.outstanding)
      (ho : outcome ≠ .handedOff) :
      Step r [.claimed h] ((r.leave h).put h (.closing outcome))
  /-- A handshake leaves the set by itself, with its connection to hand over. -/
  | claimHanding (r : Roster) {h : HandshakeId} {c : ConnectionId}
      (hr : r.places[h]? = some ⟨c, .pending⟩) (hs : h ∈ r.outstanding) :
      Step r [.claimed h] ((r.leave h).put h (.handing c))
  /-- A handshake finds that its entry has been taken. -/
  | yield (r : Roster) {h : HandshakeId} {c : ConnectionId} {outcome : HandshakeOutcome}
      (hr : r.places[h]? = some ⟨c, .pending⟩) (hs : h ∉ r.outstanding)
      (ho : outcome ≠ .handedOff) :
      Step r [] (r.put h (.closing outcome))
  /-- A handshake closes its connection. -/
  | close (r : Roster) {h : HandshakeId} {c : ConnectionId} {outcome : HandshakeOutcome}
      {stand : Stand} (hr : r.places[h]? = some ⟨c, .closing outcome⟩)
      (hs : stand = .raising ∨ stand = .ended outcome) :
      Step r [.closed c] ((r.close c).put h stand)
  /-- A handshake has stopped the daemon. -/
  | raise (r : Roster) {h : HandshakeId} {c : ConnectionId} {outcome : HandshakeOutcome}
      (hr : r.places[h]? = some ⟨c, .raising⟩) (ho : outcome ≠ .handedOff) :
      Step r [] (r.put h (.ended outcome))
  /-- The peer layer is given a connection. -/
  | handOver (r : Roster) {h : HandshakeId} {c d : ConnectionId}
      (hr : r.places[h]? = some ⟨c, .handing d⟩) :
      Step r [.handed d] (r.put h .given)
  /-- The peer layer has taken a connection. -/
  | complete (r : Roster) {h : HandshakeId} {c : ConnectionId}
      (hr : r.places[h]? = some ⟨c, .given⟩) :
      Step r [] (r.put h (.ended .handedOff))
  /-- The peer layer closes a connection. -/
  | release (r : Roster) {c : ConnectionId} (hc : c < r.closes.length) :
      Step r [.released c] (r.close c)
  /-- A stop takes every entry out of the set. -/
  | drain (r : Roster) : Step r (r.outstanding.map .drained) { r with outstanding := [] }

/-- Steps one after another, with all their deeds. -/
inductive Path : Roster → List Deed → Roster → Prop
  | nil (r : Roster) : Path r [] r
  | snoc {r s t : Roster} {ds es : List Deed} (path : Path r ds s) (step : Step s es t) :
      Path r (ds ++ es) t

theorem Step.path {r s : Roster} {ds : List Deed} (step : Step r ds s) : Path r ds s :=
  .snoc (.nil r) step

end Roster

/-! ## What leaves the roster as it is -/

theorem roster_write (l : Listener) (note : Note) : (l.write note).roster = l.roster := rfl

theorem roster_showOutstanding (l : Listener) (count : Nat) :
    (l.showOutstanding count).roster = l.roster := rfl

theorem roster_countAccepted (l : Listener) : l.countAccepted.roster = l.roster := rfl

theorem roster_schedule (l : Listener) (task : Task) : (l.schedule task).roster = l.roster := by
  unfold schedule
  split <;> rfl

theorem toSurroundings_schedule (l : Listener) (task : Task) :
    (l.schedule task).toSurroundings = l.toSurroundings := by
  unfold schedule
  split <;> rfl

theorem toSurroundings_foldl_schedule (hs : List HandshakeId) (l : Listener) :
    (hs.foldl (fun l h => l.schedule (.handshake h)) l).toSurroundings = l.toSurroundings := by
  induction hs generalizing l with
  | nil => rfl
  | cons h hs ih => exact (ih _).trans (toSurroundings_schedule l _)

theorem roster_foldl_schedule (hs : List HandshakeId) (l : Listener) :
    (hs.foldl (fun l h => l.schedule (.handshake h)) l).roster = l.roster := by
  induction hs generalizing l with
  | nil => rfl
  | cons h hs ih => exact (ih _).trans (roster_schedule l _)

theorem roster_scheduleCancelled (l : Listener) : l.scheduleCancelled.roster = l.roster := by
  unfold scheduleCancelled
  dsimp only
  split
  · rw [roster_schedule, roster_foldl_schedule]
  · rw [roster_foldl_schedule]

theorem roster_trigger (l : Listener) (reason : ShutdownReason) :
    (l.trigger reason).2.roster = l.roster := by
  unfold trigger
  split
  · exact roster_scheduleCancelled _
  · rfl

theorem roster_scheduleWoken (l : Listener) : l.scheduleWoken.roster = l.roster :=
  roster_foldl_schedule _ _

theorem roster_tell (l : Listener) (crossing : Option (Queue.Crossing String)) :
    (l.mapSurroundings (·.tell crossing)).roster = l.roster := by
  cases crossing <;> rfl

/-- A handshake that finishes stands as ended, and what it notes is not on the roster. -/
theorem roster_finish (l : Listener) (h : HandshakeId) (outcome : HandshakeOutcome) :
    (l.finish h outcome).roster = (l.setPhase h (.ended outcome)).roster := rfl

/-! ## What changes it in one place -/

/-- A change that a function does not see is none for it. -/
theorem map_modify_of_eq {α β : Type} (xs : List α) (i : Nat) {f : α → α} {g : α → β}
    (h : ∀ x, xs[i]? = some x → g (f x) = g x) : (xs.modify i f).map g = xs.map g := by
  apply List.ext_getElem?
  intro j
  rw [List.getElem?_map, List.getElem?_map, List.getElem?_modify]
  by_cases hj : i = j
  · subst hj
    cases hx : xs[i]? with
    | none => rfl
    | some x => simp [h x hx]
  · simp [hj]

/-- A change that a function sees is a change of what it shows. -/
theorem map_modify_comm {α β : Type} (xs : List α) (i : Nat) {f : α → α} {g : α → β}
    {f' : β → β} (h : ∀ x, g (f x) = f' (g x)) :
    (xs.modify i f).map g = (xs.map g).modify i f' := by
  apply List.ext_getElem?
  intro j
  rw [List.getElem?_map, List.getElem?_modify, List.getElem?_modify, List.getElem?_map]
  cases xs[j]? with
  | none => rfl
  | some x => by_cases hj : i = j <;> simp [hj, h]

/-- Of a connection the roster has only how often it was closed. -/
theorem roster_modifyConnection (l : Listener) (c : ConnectionId) {f : Connection → Connection}
    (h : ∀ x, l.connections[c]? = some x → (f x).closes = x.closes) :
    (l.modifyConnection c f).roster = l.roster := by
  have hcloses : (l.connections.modify c f).map Connection.closes =
      l.connections.map Connection.closes := map_modify_of_eq _ _ h
  exact congrArg (fun closes => { l.roster with closes }) hcloses

/-- A connection that is closed is closed on the roster. -/
theorem roster_closeConnection (l : Listener) (c : ConnectionId) :
    (l.mapSurroundings (·.closeConnection c)).roster = l.roster.close c := by
  have hcloses : (l.connections.modify c fun x => x.close.release).map Connection.closes =
      (l.connections.map Connection.closes).modify c (· + 1) :=
    map_modify_comm _ _ fun _ => rfl
  exact congrArg (fun closes => { l.roster with closes }) hcloses

/-- A handshake in another phase stands elsewhere on the roster. -/
theorem roster_setPhase (l : Listener) (h : HandshakeId) (phase : Phase) :
    (l.setPhase h phase).roster = l.roster.put h phase.stand := by
  have hplaces : (l.handshakes.modify h fun x => { x with phase }).map
      (fun x => (⟨x.connection, x.phase.stand⟩ : Place)) =
      (l.handshakes.map fun x => ⟨x.connection, x.phase.stand⟩).modify h
        fun x => { x with stand := phase.stand } :=
    map_modify_comm _ _ fun _ => rfl
  exact congrArg (fun places => { l.roster with places }) hplaces

/-- Letting go of the acceptor drops what was coming. -/
theorem roster_dropAcceptor (l : Listener) : l.dropAcceptor.roster = l.roster.drop := by
  have hlost (lost : List ConnectionId) (l : Listener) :
      (lost.foldl (fun l c => l.modifyConnection c Connection.release) l).roster =
        l.roster := by
    induction lost generalizing l with
    | nil => rfl
    | cons c lost ih => exact (ih _).trans (roster_modifyConnection l c fun _ _ => rfl)
  exact congrArg Roster.drop (hlost _ l)

/-- Accepting a connection places a handshake for it. -/
theorem roster_dispatch (l : Listener) (c : ConnectionId) (deadline : Nat) :
    (l.dispatch c deadline).roster = l.roster.dispatch c := by
  unfold dispatch
  dsimp only
  rw [roster_schedule, roster_showOutstanding]
  simp [roster, Roster.dispatch, Phase.stand]

/-- The roster has every handshake with its connection and where it stands. -/
theorem places_roster (l : Listener) {h : HandshakeId} {x : Accepted}
    (hx : l.handshakes[h]? = some x) :
    l.roster.places[h]? = some ⟨x.connection, x.phase.stand⟩ := by
  simp [roster, hx]

/-- Every place is the one of a handshake. -/
theorem exists_of_place {l : Listener} {h : HandshakeId} {place : Place}
    (hplace : l.roster.places[h]? = some place) :
    ∃ x, l.handshakes[h]? = some x ∧ place = ⟨x.connection, x.phase.stand⟩ := by
  have hmap : (l.handshakes[h]?).map (fun x => (⟨x.connection, x.phase.stand⟩ : Place)) =
      some place := (List.getElem?_map ..).symm.trans hplace
  obtain ⟨x, hx, hsame⟩ := Option.map_eq_some_iff.mp hmap
  exact ⟨x, hx, hsame.symm⟩

end Diameter.Listener
