import Diameter.Proofs.Daemon.Listeners

/-!
# What every move keeps

The connections that were taken out of the queue are in the hand of the consumer or of the
wait, and the consumer has the only call that asks for one. At each stage of the wait something
is known about the queue and about the hand-overs that are not over: until it is destroyed the
queue can be used, and after that it stays empty; and every time the wait begins to empty the
queue again, a hand-over that was in flight has come to its end.
-/

namespace Diameter.Daemon

open Listener (Accepted Arrival ConnectionId Event StopStage)
open Queue (CallerId Outcome Request Spot)

/-- The connection that the consumer is about to close. -/
def Consuming.hand (calls : List Call) : Consuming → Multiset ConnectionId
  | .looking | .leaving _ => 0
  | .asking caller => Books.took calls caller
  | .holding arrival => {arrival.connection}

/-- The connection that the wait is about to close. -/
def WaitStage.hand : WaitStage → Multiset ConnectionId
  | .closing arrival => {arrival.connection}
  | _ => 0

/-- Whether all listeners have been stopped. -/
def WaitStage.isPastStops : WaitStage → Bool
  | .idle | .stopping => false
  | _ => true

/-- What is known at a stage. `working` tells whether the consumer works. -/
def WaitStage.Suits (b : Books) (working : Bool) (rounds inFlight : Nat) : WaitStage → Prop
  | .idle | .stopping => b.lifecycle = .usable ∧ rounds = 0
  | .joining => b.lifecycle = .usable ∧ rounds = 0 ∧ b.pending ≤ inFlight
  | .clearing => b.lifecycle = .usable ∧ working = false ∧ rounds = 0 ∧ b.pending ≤ inFlight
  | .discarding | .closing _ => b.lifecycle = .usable ∧ b.alarm = false ∧ working = false ∧
      rounds + b.pending ≤ inFlight + 1
  | .destroying => b.lifecycle = .usable ∧ b.alarm = false ∧ working = false ∧
      rounds + (b.pending + b.items.length) ≤ inFlight + 1
  | .waking _ | .returned => b.lifecycle = .destroyed ∧ b.items = [] ∧ working = false ∧
      rounds ≤ inFlight + 1
  | .failed _ => False

/-- No call waits for a connection. -/
def NobodyAsks (calls : List Call) : Prop :=
  ∀ (i : CallerId) (deadline : Option Nat) (q : Queue.QueueId),
    calls[i]? ≠ some (Request.pop deadline, .facing q)

/-- What the calls have to do with the consumer. -/
structure Asks (consuming : Consuming) (working : Bool) (calls : List Call) : Prop where
  /-- Only the consumer asks for a connection. -/
  alone : ∀ (i : CallerId) (deadline : Option Nat) (q : Queue.QueueId),
    calls[i]? = some (Request.pop deadline, .facing q) → consuming = .asking i
  /-- It does so by its own call. -/
  own : ∀ i, consuming = .asking i → ∃ spot : Spot Arrival, calls[i]? = some (Request.pop none, spot)
  /-- Once it does not work any more it asks for nothing and has nothing. -/
  later : working = false → consuming.hand calls = 0 ∧ NobodyAsks calls

section Steps

variable {b b' : Books} {working working' : Bool} {consuming : Consuming}

/-- What others do suits the stage. -/
theorem WaitStage.Suits.path {rounds inFlight : Nat} {stage : WaitStage}
    (hs : stage.Suits b working rounds inFlight) (path : Books.Path (!stage.isPastStops) b b')
    (hworking : working = false → working' = false) :
    stage.Suits b' working' rounds inFlight := by
  have hstays := path.stays
  cases stage with
  | idle | stopping => exact ⟨hstays.lifecycle.trans hs.1, hs.2⟩
  | joining =>
    obtain ⟨hl, hrounds, hbound⟩ := hs
    exact ⟨hstays.lifecycle.trans hl, hrounds, Nat.le_trans path.pending_le.1 hbound⟩
  | clearing =>
    obtain ⟨hl, hw, hrounds, hbound⟩ := hs
    exact ⟨hstays.lifecycle.trans hl, hworking hw, hrounds,
      Nat.le_trans path.pending_le.1 hbound⟩
  | discarding | closing =>
    obtain ⟨hl, ha, hw, hbound⟩ := hs
    exact ⟨hstays.lifecycle.trans hl, hstays.alarm.trans ha, hworking hw,
      Nat.le_trans (Nat.add_le_add_left path.pending_le.1 _) hbound⟩
  | destroying =>
    obtain ⟨hl, ha, hw, hbound⟩ := hs
    exact ⟨hstays.lifecycle.trans hl, hstays.alarm.trans ha, hworking hw,
      Nat.le_trans (Nat.add_le_add_left path.pending_le.2 _) hbound⟩
  | waking | returned =>
    obtain ⟨hl, hi, hw, hbound⟩ := hs
    exact ⟨hstays.lifecycle.trans hl, hstays.empty hl hi, hworking hw, hbound⟩
  | failed => exact hs

/-- What the consumer has depends on the calls that ask for a connection alone. -/
theorem Consuming.hand_congr {calls calls' : List Call}
    (hpops : ∀ (i : CallerId) (deadline : Option Nat) (spot : Spot Arrival),
      calls'[i]? = some (Request.pop deadline, spot) ↔
        calls[i]? = some (Request.pop deadline, spot)) :
    consuming.hand calls' = consuming.hand calls := by
  cases consuming with
  | asking caller => exact Books.took_congr (hpops caller)
  | _ => rfl

/-- What consumers ask for depends on the calls that pop. -/
theorem Asks.congr {calls calls' : List Call} (ha : Asks consuming working calls)
    (hpops : ∀ (i : CallerId) (deadline : Option Nat) (spot : Spot Arrival),
      calls'[i]? = some (Request.pop deadline, spot) ↔
        calls[i]? = some (Request.pop deadline, spot)) : Asks consuming working calls' := by
  refine ⟨fun i deadline q hi => ha.alone i deadline q ((hpops _ _ _).mp hi), fun i hi => ?_,
    fun hw => ⟨(Consuming.hand_congr hpops).trans (ha.later hw).1, fun i deadline q hi =>
      (ha.later hw).2 i deadline q ((hpops _ _ _).mp hi)⟩⟩
  obtain ⟨spot, hspot⟩ := ha.own i hi
  exact ⟨spot, (hpops _ _ _).mpr hspot⟩

/-- Nobody asks unless the consumer does. -/
theorem Asks.nobody {calls : List Call} (ha : Asks consuming working calls)
    (hother : ∀ i, consuming ≠ .asking i) : NobodyAsks calls := fun i deadline q hi =>
  hother i (ha.alone i deadline q hi)

/-- Nobody asks any more when the call of the consumer is over. -/
theorem Asks.nobody_after {calls calls' : List Call} {caller : CallerId}
    (ha : Asks (.asking caller) working calls) (hsame : ∀ i, i ≠ caller → calls'[i]? = calls[i]?)
    (hover : ∀ (deadline : Option Nat) (q : Queue.QueueId),
      calls'[caller]? ≠ some (Request.pop deadline, .facing q)) : NobodyAsks calls' := by
  intro i deadline q hi
  by_cases hic : i = caller
  · subst hic
    exact hover _ _ hi
  · rw [hsame i hic] at hi
    exact hic (Consuming.asking.inj (ha.alone i deadline q hi)).symm

/-- The consumer works and does not ask. -/
theorem NobodyAsks.asks {calls : List Call} (hnone : NobodyAsks calls)
    (hother : ∀ i, consuming ≠ .asking i) (hworking : working = true) :
    Asks consuming working calls :=
  ⟨fun i _ _ hi => absurd hi (hnone i _ _), fun i hi => absurd hi (hother i), fun hw => by
    cases hworking.symm.trans hw⟩

/-- Whatever call goes on, what it takes is in the hand of the consumer. -/
theorem Asks.turned (ha : Asks consuming working b.calls) {c : CallerId}
    (hturned : Books.Turned c b b') {others : Multiset ConnectionId}
    (hhand : b.hand = consuming.hand b.calls + others) :
    Asks consuming working b'.calls ∧ b'.hand = consuming.hand b'.calls + others := by
  by_cases hopen : ∃ deadline q, b.calls[c]? = some (Request.pop deadline, .facing q)
  · obtain ⟨deadline, q, hopen⟩ := hopen
    obtain rfl := ha.alone c deadline q hopen
    refine ⟨⟨fun i d p hi => ?_, fun i hi => ?_, fun hw => absurd hopen ((ha.later hw).2 _ _ _)⟩, ?_⟩
    · by_cases hic : i = c
      · rw [hic]
      · rw [hturned.others i hic] at hi
        exact ha.alone i d p hi
    · obtain rfl := Consuming.asking.inj hi
      obtain ⟨spot, hspot⟩ := ha.own c rfl
      have hlt := hturned.length ▸ (List.getElem?_eq_some_iff.mp hspot).1
      have hafter : b'.calls[c]? = some (b'.calls[c].1, b'.calls[c].2) :=
        List.getElem?_eq_getElem hlt
      obtain ⟨before, hbefore, -⟩ := hturned.own _ _ hafter
      rw [hspot] at hbefore
      obtain ⟨hrequest, -⟩ := Prod.mk.inj (Option.some.inj hbefore)
      exact ⟨b'.calls[c].2, hrequest ▸ hafter⟩
    · have hsum := hturned.hand
      rw [hhand, Consuming.hand, add_assoc, add_comm] at hsum
      rw [Consuming.hand]
      rw [add_left_cancel hsum, add_comm]
  · have hclosed (deadline : Option Nat) (q : Queue.QueueId) :
        b.calls[c]? ≠ some (Request.pop deadline, .facing q) := fun h => hopen ⟨deadline, q, h⟩
    obtain ⟨hsame, hpops⟩ := hturned.pops hclosed
    exact ⟨ha.congr hpops, by rw [hsame, hhand, Consuming.hand_congr hpops]⟩

end Steps

namespace Closedown

variable {k k' : Closedown} {b b' : Books}

/-- What holds of a daemon on its way to the end, and of the books on it. -/
structure Holds (k : Closedown) (b : Books) : Prop where
  /-- The listeners do not meddle with each other. -/
  ordered : k.Ordered
  /-- The stops are as far as they say. -/
  stopped : k.Stopped
  /-- After the stops nobody accepts and nobody is in a set. -/
  nobody : k.stage.isPastStops = true → k.HasNobody
  /-- The books tell what has become of every connection. -/
  tells : k.Tells b
  /-- What was taken out of the queue is with the consumer or with the wait. -/
  hand : b.hand = k.consuming.hand b.calls + k.stage.hand
  /-- Only the consumer asks for connections. -/
  asks : Asks k.consuming k.daemon.consumer.working b.calls
  /-- The stage of the wait is one that suits. -/
  suits : k.stage.Suits b k.daemon.consumer.working k.rounds k.inFlight

/-! ## What depends on little -/

/-- The order of the connections depends on the listeners, on the connections and on what was
closed. -/
theorem Ordered.congr (hk : k.Ordered) (hlisteners : k'.registry.listeners = k.registry.listeners)
    (hconnections : k'.surroundings.connections = k.surroundings.connections)
    (hclosed : k'.closed = k.closed) : k'.Ordered := by
  have hreserved : k'.reserved = k.reserved := by rw [reserved, hlisteners, reserved]
  refine ⟨hlisteners ▸ hk.peers, hreserved ▸ hk.apart, ?_, fun c => ?_⟩
  · rw [hreserved, hconnections]
    exact hk.known
  · rw [closes, hconnections, hclosed]
    exact hk.counted c

/-- A connection that was closed is written down. -/
theorem Ordered.close (hk : k.Ordered) (hlisteners : k'.registry.listeners = k.registry.listeners)
    {closer : Closer} {c : ConnectionId} (hc : c ∈ k.reserved)
    (hconnections : k'.surroundings.connections =
      k.surroundings.connections.modify c fun x => x.close.release)
    (hclosed : k'.closed = k.closed ++ [(closer, c)]) : k'.Ordered := by
  have hreserved : k'.reserved = k.reserved := by rw [reserved, hlisteners, reserved]
  have hcloses : k'.surroundings.connections.map Connection.closes =
      (k.surroundings.connections.map Connection.closes).modify c (· + 1) := by
    rw [hconnections]
    exact Listener.map_modify_comm _ _ fun _ => rfl
  refine ⟨hlisteners ▸ hk.peers, hreserved ▸ hk.apart, ?_, fun d => ?_⟩
  · rw [hreserved, hconnections, List.length_modify]
    exact hk.known
  · have hlt : c < (k.surroundings.connections.map Connection.closes).length := by
      rw [List.length_map]
      exact hk.known c hc
    have hcount : (k.surroundings.connections.map Connection.closes).getD d 0 =
        (k.closed.map Prod.snd).count d := hk.counted d
    rw [closes, hcloses, Listener.getD_modify_succ _ hlt, hcount, hclosed, List.map_append,
      List.count_append, List.map_singleton, List.count_singleton]
    simp only [beq_iff_eq]

/-- How far the stops have come is written in the listeners and the stops. -/
theorem Stopped.congr (hk : k.Stopped) (hlisteners : k'.registry.listeners = k.registry.listeners)
    (hstops : k'.stops = k.stops) : k'.Stopped := by
  refine ⟨hlisteners ▸ hk.started, ?_, ?_⟩
  · rw [hstops, hlisteners]
    exact hk.length
  · rw [hstops, hlisteners]
    exact hk.drained

/-- Whether anybody is in a set is written in the listeners. -/
theorem HasNobody.congr (hk : k.HasNobody) (hlisteners : k'.registry.listeners = k.registry.listeners) :
    k'.HasNobody := by
  rw [HasNobody, hlisteners]
  exact hk

/-- The handshakes, their connections and the log are as they were. -/
theorem Holds.congr (hk : k.Holds b) (hlisteners : k'.registry.listeners = k.registry.listeners)
    (hconnections : k'.surroundings.connections = k.surroundings.connections)
    (hpassed : k'.passed = k.passed) (hclosed : k'.closed = k.closed) (hshows : b.Shows k'.events)
    (hstopped : k'.Stopped) (hnobody : k'.stage.isPastStops = true → k.HasNobody)
    (hhand : b.hand = k'.consuming.hand b.calls + k'.stage.hand)
    (hasks : Asks k'.consuming k'.daemon.consumer.working b.calls)
    (hsuits : k'.stage.Suits b k'.daemon.consumer.working k'.rounds k'.inFlight) :
    k'.Holds b := by
  have hhandshakes : k'.handshakes = k.handshakes := by rw [handshakes, hlisteners, handshakes]
  exact ⟨hk.ordered.congr hlisteners hconnections hclosed, hstopped,
    fun h => (hnobody h).congr hlisteners, ⟨hk.tells.right, hshows, hhandshakes ▸ hk.tells.holders,
      hk.tells.passed.trans hpassed.symm, hk.tells.closed.trans hclosed.symm⟩, hhand, hasks, hsuits⟩

/-- A connection about to be closed has a handshake. -/
theorem Holds.reserved_of_hand (hk : k.Holds b) {c : ConnectionId} (hc : c ∈ b.hand) :
    c ∈ k.reserved := by
  have habroad : b.abroad c ≠ 0 := by
    have hpositive := Multiset.count_pos.mpr hc
    unfold Books.abroad
    omega
  have hheld := hk.tells.right.held c habroad
  rw [hk.tells.holders] at hheld
  exact Multiset.mem_of_le (held_le_reserved k) hheld

/-- What the wait counts is what the books say. -/
theorem Tells.pending (hk : k.Tells b) : k.pending = b.pending := by
  have hhandshakes : k.handshakes.countP isHanding =
      b.holders.countP (fun x => x.2.isHanding) := by
    rw [hk.holders, held, Multiset.coe_countP, List.countP_map]
    refine List.countP_congr fun x _ => ?_
    obtain ⟨c, deadline, token, phase⟩ := x
    cases phase with
    | ended outcome => cases outcome <;> exact Iff.rfl
    | closing outcome late => cases outcome <;> exact Iff.rfl
    | _ => exact Iff.rfl
  have hcalls : k.events.callers.countP isPushing = b.calls.countP isOpenPush := by
    have houtline : k.events.outline.calls = b.calls := congrArg _ hk.shows.outline
    rw [← houtline, Queue.System.outline, List.countP_map]
    refine List.countP_congr fun x _ => ?_
    obtain ⟨request, stage⟩ := x
    cases request with
    | push arrival =>
      cases stage with
      | leaving q cause late => cases late <;> exact Iff.rfl
      | _ => exact Iff.rfl
    | pop deadline => cases stage <;> exact Iff.rfl
  rw [Closedown.pending, hhandshakes, hcalls, Books.pending]

/-! ## Listeners and stops -/

/-- Every event of a listener keeps it. -/
theorem Holds.perform (hk : k.Holds b) (i : Nat) {e : Event} (he : e.isOwn = true) :
    ∃ b', Books.Path (!k.stage.isPastStops) b b' ∧ (k.perform i e).Holds b' := by
  have hpassing (h : (!k.stage.isPastStops) = false) : k.HasNobody :=
    hk.nobody (by simpa using h)
  obtain ⟨b', hpath, htells, hhand, hpops⟩ := hk.tells.perform hk.ordered hpassing i he
  refine ⟨b', hpath, hk.ordered.perform i e, hk.stopped.perform i e,
    fun h => (hk.nobody h).perform i e, htells, ?_, hk.asks.congr hpops, hk.suits.path hpath id⟩
  rw [hhand, hk.hand]
  exact congrArg (· + k.stage.hand) (Consuming.hand_congr hpops).symm

/-- A stop that goes on is an event of its listener. -/
theorem stop_cases (k : Closedown) (i : Nat) : k.stop i = k ∨ ∃ e stage,
    e.isOwn = true ∧
      k.stop i = { k.perform i e with stops := k.stops.set i stage } := by
  unfold Closedown.stop
  split
  · split
    · split
      · exact .inl rfl
      · exact .inr ⟨_, _, rfl, rfl⟩
    · split
      · exact .inl rfl
      · exact .inr ⟨_, _, rfl, rfl⟩
    · split
      · exact .inr ⟨_, _, rfl, rfl⟩
      · exact .inl rfl
    · exact .inl rfl
  · exact .inl rfl

/-- A step of a stop keeps the invariant, along some entries in the books. -/
theorem Holds.stop (hk : k.Holds b) (i : Nat) :
    ∃ b', Books.Path (!k.stage.isPastStops) b b' ∧ (k.stop i).Holds b' := by
  have hstopped := hk.stopped.stop i
  obtain hsame | ⟨e, stage, he, hperform⟩ := stop_cases k i
  · rw [hsame]
    exact ⟨b, .refl, hk⟩
  · rw [hperform] at hstopped ⊢
    obtain ⟨b', hpath, hafter⟩ := hk.perform i he
    exact ⟨b', hpath, hafter.congr rfl rfl rfl rfl hafter.tells.shows hstopped hafter.nobody
      hafter.hand hafter.asks hafter.suits⟩

/-! ## Calls and the shutdown -/

/-- Whatever call goes on keeps it. -/
theorem Holds.turn (hk : k.Holds b) (c : CallerId) :
    ∃ b', Books.Path (!k.stage.isPastStops) b b' ∧ (k.turn c).Holds b' := by
  obtain ⟨b', hstep, hshows, hturned⟩ := hk.tells.shows.turn (!k.stage.isPastStops) c
  obtain ⟨hasks, hhand⟩ := hk.asks.turned hturned hk.hand
  have hpath : Books.Path (!k.stage.isPastStops) b b' := .single hstep
  obtain ⟨hconnections, hevents⟩ :=
    Books.tell_same { k.surroundings with events := (k.events.turn c).1 } (k.events.turn c).2
  refine ⟨b', hpath, hk.ordered.congr rfl hconnections rfl, hk.stopped.congr rfl rfl, hk.nobody,
    ⟨hpath.right hk.tells.right, ?_, hturned.holders.trans hk.tells.holders,
      hturned.passed.trans hk.tells.passed, hturned.closed.trans hk.tells.closed⟩, hhand, hasks,
    hk.suits.path hpath id⟩
  exact (congrArg b'.Shows hevents).mpr hshows

/-- Nothing but the shutdown changes. -/
theorem Holds.withShutdown (hk : k.Holds b) (shutdown : Shutdown) :
    (k.withSurroundings { k.surroundings with shutdown }).Holds b :=
  hk.congr rfl rfl rfl rfl hk.tells.shows (hk.stopped.congr rfl rfl) hk.nobody hk.hand hk.asks
    hk.suits

/-- Nothing but the event queue changes, and the books show it as before. -/
theorem Holds.withEvents (hk : k.Holds b) {events : Queue.System Arrival String}
    (hshows : b.Shows events) : (k.withEvents events).Holds b :=
  hk.congr rfl rfl rfl rfl hshows (hk.stopped.congr rfl rfl) hk.nobody hk.hand hk.asks hk.suits

/-- What is neither the consumer nor the wait is a path in the books. -/
theorem Holds.beside (hk : k.Holds b) {m : Move} (hm : m.isBeside = true) :
    ∃ b', Books.Path (!k.stage.isPastStops) b b' ∧ (k.next m).Holds b' := by
  cases m with
  | listener i e =>
    unfold Closedown.next
    dsimp only
    split
    · next he => exact hk.perform i he
    · exact ⟨b, .refl, hk⟩
  | stop i =>
    unfold Closedown.next
    dsimp only
    split
    · exact hk.stop i
    · exact ⟨b, .refl, hk⟩
  | turn c => exact hk.turn c
  | arrange runnable =>
    exact ⟨b, .refl,
      hk.withEvents ⟨hk.tells.shows.outline, hk.tells.shows.aims, hk.tells.shows.fittings⟩⟩
  | trigger reason => exact ⟨b, .refl, hk.withShutdown _⟩
  | consume overlooks | wait => cases hm

/-! ## The consumer -/

/-- The consumer ends when it asks for nothing and has nothing. -/
theorem Holds.endConsumer (hk : k.Holds b) (hhand : k.consuming.hand b.calls = 0)
    (hnone : NobodyAsks b.calls) : k.endConsumer.Holds b :=
  hk.congr rfl rfl rfl rfl hk.tells.shows (hk.stopped.congr rfl rfl) hk.nobody hk.hand
    ⟨hk.asks.alone, hk.asks.own, fun _ => ⟨hhand, hnone⟩⟩ (hk.suits.path .refl fun _ => rfl)

/-- A call that has no outcome has taken nothing. -/
theorem took_of_open {s : Queue.System Arrival String} (hs : b.Shows s) {c : CallerId}
    (hc : s.outcome? c = none) : Books.took b.calls c = 0 := by
  have hcall := s.outline_calls_getElem? c
  rw [hs.outline] at hcall
  have hcall : b.calls[c]? = s.callers[c]?.map fun x => (x.request, x.stage.spot) := hcall
  rw [Books.took, hcall]
  unfold Queue.System.outcome? at hc
  rcases hcaller : s.callers[c]? with _ | ⟨request, stage⟩
  · rfl
  · rw [hcaller] at hc
    cases request with
    | push arrival => cases stage <;> rfl
    | pop deadline =>
      cases stage with
      | ended outcome => cases hc
      | leaving q cause late => cases late <;> rfl
      | _ => rfl

/-- The consumer looks at its token, and asks the queue or ends. -/
theorem Holds.looking (hk : k.Holds b) (hworking : k.daemon.consumer.working = true)
    (hconsuming : k.consuming = .looking) (cancelled : Bool) :
    ∃ b', (k.consumeSeeing cancelled).Holds b' := by
  have hnone := hk.asks.nobody (by simp [hconsuming])
  have hhand : b.hand = k.stage.hand := by
    rw [hk.hand, hconsuming]
    exact zero_add _
  unfold consumeSeeing
  rw [hconsuming]
  dsimp only
  split
  · exact ⟨b, hk.endConsumer (by rw [hconsuming]; rfl) hnone⟩
  · obtain ⟨hcaller, hshows⟩ := hk.tells.shows.addCaller (.pop none)
    have hpath : Books.Path (!k.stage.isPastStops) b _ := .single .ask
    have hnew : (b.calls ++ [(Request.pop none, Spot.facing 0)])[b.calls.length]? =
        some (Request.pop none, Spot.facing 0) := List.getElem?_concat_length
    refine ⟨_, hk.ordered.congr rfl rfl rfl, hk.stopped.congr rfl rfl, hk.nobody,
      ⟨hpath.right hk.tells.right, hshows, hk.tells.holders, hk.tells.passed, hk.tells.closed⟩,
      ?_, ⟨fun i deadline q hi => ?_, fun i hi => ?_, fun hw => ?_⟩, hk.suits.path hpath id⟩
    · dsimp only
      rw [hcaller, Consuming.hand, Books.took, hnew]
      exact hhand.trans (zero_add _).symm
    · dsimp only at hi
      rw [List.getElem?_append] at hi
      split at hi
      · exact absurd hi (hnone _ _ _)
      · next hge =>
        rw [List.getElem?_singleton] at hi
        split at hi
        · next hzero =>
          refine congrArg _ (hcaller.trans ?_)
          exact Nat.le_antisymm (Nat.le_of_not_lt hge) (Nat.sub_eq_zero_iff_le.mp hzero)
        · cases hi
    · obtain rfl := Consuming.asking.inj hi
      refine ⟨.facing 0, ?_⟩
      rw [hcaller]
      exact hnew
    · exact absurd (hworking.symm.trans hw) (by decide)

/-- The consumer gives up a call that has no answer, unless it has just been woken. -/
theorem Holds.giveUp (hk : k.Holds b) (hworking : k.daemon.consumer.working = true)
    {caller : CallerId} (hconsuming : k.consuming = .asking caller)
    (houtcome : k.events.outcome? caller = none)
    (hrecalled : ∀ request q, k.events.callers[caller]? ≠ some ⟨request, .ready q true⟩) :
    ∃ b', Holds { k.withEvents ((k.events.abandon caller).withdraw caller false) with
      consuming := .leaving caller } b' := by
  obtain ⟨spot, hspot⟩ := hk.asks.own caller hconsuming
  have hasks := hk.asks
  rw [hconsuming] at hasks
  obtain ⟨b', hstep, hshows, hturned, after, hover, hspotover, htook⟩ :=
    hk.tells.shows.giveUp (!k.stage.isPastStops) hspot houtcome hrecalled
  have hpath : Books.Path (!k.stage.isPastStops) b b' := .single hstep
  have hnone := hasks.nobody_after hturned.others fun deadline q h => by
    rw [hover] at h
    cases h
    exact hspotover q rfl
  have hbefore := took_of_open hk.tells.shows houtcome
  have hafter : Books.took b'.calls caller = 0 := by
    rw [Books.took, hover]
    exact htook
  have hhand : b'.hand = 0 + k.stage.hand := by
    have hsum := hturned.hand
    rw [hbefore, hafter, add_zero, add_zero] at hsum
    rw [hsum, hk.hand, hconsuming, Consuming.hand, hbefore]
  exact ⟨b', hk.ordered.congr rfl rfl rfl, hk.stopped.congr rfl rfl, hk.nobody,
    ⟨hpath.right hk.tells.right, hshows, hturned.holders.trans hk.tells.holders,
      hturned.passed.trans hk.tells.passed, hturned.closed.trans hk.tells.closed⟩,
    hhand, hnone.asks (by simp) hworking, hk.suits.path hpath id⟩

/-- The consumer sees the answer of the queue. -/
theorem Holds.answered (hk : k.Holds b) (hworking : k.daemon.consumer.working = true)
    {caller : CallerId} (hconsuming : k.consuming = .asking caller) {outcome : Outcome Arrival}
    (houtcome : k.events.outcome? caller = some outcome) (cancelled : Bool) :
    (k.consumeSeeing cancelled).Holds b := by
  obtain ⟨spot, hspot⟩ := hk.asks.own caller hconsuming
  have hasks := hk.asks
  rw [hconsuming] at hasks
  obtain ⟨request, hended⟩ :
      ∃ request, k.events.callers[caller]? = some ⟨request, .ended outcome⟩ := by
    unfold Queue.System.outcome? at houtcome
    split at houtcome
    · next hcaller =>
      cases houtcome
      exact ⟨_, hcaller⟩
    · cases houtcome
  have hcall := hk.tells.shows.call hended
  rw [hspot] at hcall
  obtain ⟨rfl, rfl⟩ := Prod.mk.inj (Option.some.inj hcall)
  have hnone := hasks.nobody_after (fun _ _ => rfl) fun deadline q h => by
    rw [hspot] at h
    cases h
  have hhand : k.consuming.hand b.calls = Books.tookOf (.pop none, .ended outcome) := by
    rw [hconsuming, Consuming.hand, Books.took, hspot]
    rfl
  unfold consumeSeeing
  rw [hconsuming]
  dsimp only
  rw [houtcome]
  cases outcome with
  | took arrival =>
    exact hk.congr rfl rfl rfl rfl hk.tells.shows (hk.stopped.congr rfl rfl) hk.nobody
      (hk.hand.trans (congrArg (· + k.stage.hand) hhand)) (hnone.asks (by simp) hworking) hk.suits
  | stored | refused _ _ | failed _ => exact hk.endConsumer hhand hnone

/-- The consumer looks at the answer of the queue, and gives its call up if there is none and
it is cancelled. -/
theorem Holds.asking (hk : k.Holds b) (hworking : k.daemon.consumer.working = true)
    {caller : CallerId} (hconsuming : k.consuming = .asking caller) (cancelled : Bool) :
    ∃ b', (k.consumeSeeing cancelled).Holds b' := by
  rcases houtcome : k.events.outcome? caller with _ | outcome
  · unfold consumeSeeing
    rw [hconsuming]
    dsimp only
    rw [houtcome]
    dsimp only
    split
    · split
      · exact ⟨b, hk⟩
      · next hready =>
        exact hk.giveUp hworking hconsuming houtcome fun _ _ h => hready _ _ h
    · exact ⟨b, hk⟩
  · exact ⟨b, hk.answered hworking hconsuming houtcome cancelled⟩

/-- The call that was given up leaves the line, and the consumer ends. -/
theorem Holds.leaving (hk : k.Holds b) {caller : CallerId}
    (hconsuming : k.consuming = .leaving caller) (cancelled : Bool) :
    (k.consumeSeeing cancelled).Holds b := by
  have hnone := hk.asks.nobody (by simp [hconsuming])
  have hleft : (k.withEvents (k.events.depart caller)).Holds b :=
    hk.withEvents (hk.tells.shows.depart caller)
  unfold consumeSeeing
  rw [hconsuming]
  exact hleft.endConsumer (congrArg (Consuming.hand b.calls) hconsuming) hnone

/-- The consumer closes the connection that it took. -/
theorem Holds.holding (hk : k.Holds b) (hworking : k.daemon.consumer.working = true)
    {arrival : Arrival} (hconsuming : k.consuming = .holding arrival) (cancelled : Bool) :
    ∃ b', (k.consumeSeeing cancelled).Holds b' := by
  have hhand : b.hand = arrival.connection ::ₘ k.stage.hand := by
    rw [hk.hand, hconsuming, Consuming.hand, Multiset.singleton_add]
  have hreserved := hk.reserved_of_hand (hhand ▸ Multiset.mem_cons_self _ _)
  have hpath : Books.Path (!k.stage.isPastStops) b _ :=
    .single (.release (.inl rfl) hhand)
  have hnone := hk.asks.nobody (by simp [hconsuming])
  unfold consumeSeeing
  rw [hconsuming]
  exact ⟨_, hk.ordered.close rfl hreserved rfl rfl, hk.stopped.congr rfl rfl, hk.nobody,
    ⟨hpath.right hk.tells.right,
      ⟨hk.tells.shows.outline, hk.tells.shows.aims, hk.tells.shows.fittings⟩, hk.tells.holders,
      hk.tells.passed, congrArg (· ++ _) hk.tells.closed⟩,
    (zero_add _).symm, hnone.asks (by simp) hworking, hk.suits.path hpath id⟩

/-- Every step of the consumer keeps it. -/
theorem Holds.consume (hk : k.Holds b) (overlooks : Bool) : ∃ b', (k.consume overlooks).Holds b' := by
  unfold Closedown.consume
  split
  · next hworking =>
    cases hconsuming : k.consuming with
    | looking => exact hk.looking hworking hconsuming _
    | asking caller => exact hk.asking hworking hconsuming _
    | leaving caller => exact ⟨b, hk.leaving hconsuming _⟩
    | holding arrival => exact hk.holding hworking hconsuming _
  · exact ⟨b, hk⟩

/-! ## The wait -/

/-- The wait goes on to a stage that suits, and nothing else happens. -/
theorem Holds.goTo (hk : k.Holds b) {stage : WaitStage} {inFlight rounds : Nat}
    (hhand : stage.hand = k.stage.hand) (hnobody : stage.isPastStops = true → k.HasNobody)
    (hsuits : stage.Suits b k.daemon.consumer.working rounds inFlight) :
    Holds { k with stage, inFlight, rounds } b :=
  hk.congr rfl rfl rfl rfl hk.tells.shows (hk.stopped.congr rfl rfl) hnobody
    (hk.hand.trans (congrArg _ hhand.symm)) hk.asks hsuits

/-- The alarm is taken off the queue. -/
theorem Holds.takeAlarm (hk : k.Holds b) :
    (k.withEvents (k.events.clearThresholds 0).2).Holds { b with alarm := false } := by
  have hright : Books.Right { b with alarm := false } :=
    hk.tells.right.keep rfl (fun _ _ _ => Iff.rfl) (fun _ => rfl) rfl hk.tells.right.closed
      hk.tells.right.refused
  have hsuits : k.stage.Suits { b with alarm := false } k.daemon.consumer.working k.rounds
      k.inFlight := by
    have hsuits := hk.suits
    cases hstage : k.stage with
    | discarding | closing | destroying =>
      rw [hstage] at hsuits
      exact ⟨hsuits.1, rfl, hsuits.2.2⟩
    | _ =>
      rw [hstage] at hsuits
      exact hsuits
  exact ⟨hk.ordered.congr rfl rfl rfl, hk.stopped.congr rfl rfl, hk.nobody,
    ⟨hright, hk.tells.shows.clearThresholds, hk.tells.holders, hk.tells.passed, hk.tells.closed⟩,
    hk.hand, hk.asks, hsuits⟩

/-- The alarm is taken off the queue, and the wait begins to empty it. -/
theorem Holds.clear (hk : k.Holds b) (hstage : k.stage = .clearing) : ∃ b', k.wait.Holds b' := by
  have hsuits := hk.suits
  have hnobody := hk.nobody
  rw [hstage] at hsuits hnobody
  obtain ⟨hlifecycle, hworking, hrounds, hbound⟩ := hsuits
  have hbound' : k.rounds + 1 + b.pending ≤ k.inFlight + 1 := by omega
  unfold Closedown.wait
  rw [hstage]
  exact ⟨_, hk.takeAlarm.goTo (by rw [Closedown.withEvents, withSurroundings, hstage]; rfl)
    (fun _ => (hnobody rfl).congr rfl) ⟨hlifecycle, rfl, hworking, hbound'⟩⟩

/-- The wait takes a connection out of the queue, or finds none. -/
theorem Holds.discard (hk : k.Holds b) (hstage : k.stage = .discarding) :
    ∃ b', k.wait.Holds b' := by
  have hsuits := hk.suits
  have hnobody := hk.nobody
  have hhand := hk.hand
  rw [hstage] at hsuits hnobody hhand
  obtain ⟨hlifecycle, halarm, hworking, hbound⟩ := hsuits
  unfold Closedown.wait
  rw [hstage]
  obtain ⟨arrival, rest, after, hpop, hitems, hconnections, hshows⟩ | ⟨e, hpop, hitems⟩ :=
    Books.Shows.popEvent (s := k.surroundings) hk.tells.shows hlifecycle
  · dsimp only
    rw [hpop]
    have hstep : Books.Step (!k.stage.isPastStops) b { b with
        items := rest, hand := arrival.connection ::ₘ b.hand } := .takeNow hitems
    have hmoved : arrival.connection ::ₘ b.hand =
        k.consuming.hand b.calls + {arrival.connection} := by
      rw [hhand.trans (add_zero _), ← Multiset.singleton_add, add_comm]
    exact ⟨_, hk.ordered.congr rfl hconnections rfl, hk.stopped.congr rfl rfl, hnobody,
      ⟨hstep.right hk.tells.right, hshows _, hk.tells.holders, hk.tells.passed, hk.tells.closed⟩,
      hmoved, hk.asks, hlifecycle, halarm, hworking, hbound⟩
  · dsimp only
    rw [hpop]
    have hbound' : k.rounds + (b.pending + b.items.length) ≤ k.inFlight + 1 := by
      rw [hitems]
      exact hbound
    exact ⟨b, hk.goTo (by rw [hstage]; rfl) hnobody ⟨hlifecycle, halarm, hworking, hbound'⟩⟩

/-- The wait closes the connection that it took. -/
theorem Holds.close (hk : k.Holds b) {arrival : Arrival} (hstage : k.stage = .closing arrival) :
    ∃ b', k.wait.Holds b' := by
  have hsuits := hk.suits
  have hnobody := hk.nobody
  have hhand := hk.hand
  rw [hstage] at hsuits hnobody hhand
  obtain ⟨hlifecycle, halarm, hworking, hbound⟩ := hsuits
  have htaken : b.hand = arrival.connection ::ₘ k.consuming.hand b.calls := by
    rw [hhand, ← Multiset.singleton_add, add_comm]
    rfl
  have hreserved := hk.reserved_of_hand (htaken ▸ Multiset.mem_cons_self _ _)
  have hstep : Books.Step (!k.stage.isPastStops) b _ :=
    .release (.inr rfl) htaken
  unfold Closedown.wait
  rw [hstage]
  refine ⟨_, hk.ordered.close rfl hreserved rfl rfl, hk.stopped.congr rfl rfl, hnobody,
    ⟨hstep.right hk.tells.right,
      ⟨hk.tells.shows.outline, hk.tells.shows.aims, hk.tells.shows.fittings⟩, hk.tells.holders,
      hk.tells.passed, congrArg (· ++ _) hk.tells.closed⟩,
    (add_zero _).symm, hk.asks, hlifecycle, halarm, hworking, hbound⟩

/-- The queue is destroyed, which is empty, and nobody is left who is about to close anything. -/
theorem Holds.closed (hk : k.Holds b) (hnobody : k.HasNobody) (hhand : k.stage.hand = 0)
    (hworking : k.daemon.consumer.working = false) (hrounds : k.rounds ≤ k.inFlight + 1)
    (hitems : b.items = []) {after : Queue.System Arrival String}
    (hshows : Books.Shows { b with lifecycle := .destroyed } after) :
    Holds { k.withEvents after with stage := .waking .consumer }
      { b with lifecycle := .destroyed } := by
  have hright : Books.Right { b with lifecycle := .destroyed } :=
    hk.tells.right.keep rfl (fun _ _ _ => Iff.rfl) (fun _ => rfl) rfl hk.tells.right.closed
      hk.tells.right.refused
  exact ⟨hk.ordered.congr rfl rfl rfl, hk.stopped.congr rfl rfl, fun _ => hnobody.congr rfl,
    ⟨hright, hshows, hk.tells.holders, hk.tells.passed, hk.tells.closed⟩,
    hk.hand.trans (congrArg _ hhand), hk.asks, rfl, hitems, hworking, hrounds⟩

/-- The wait destroys the queue, or begins to empty it again. -/
theorem Holds.destroy (hk : k.Holds b) (hstage : k.stage = .destroying) :
    ∃ b', k.wait.Holds b' := by
  have hsuits := hk.suits
  have hnobody := hk.nobody
  rw [hstage] at hsuits hnobody
  obtain ⟨hlifecycle, halarm, hworking, hbound⟩ := hsuits
  unfold Closedown.wait
  rw [hstage]
  obtain ⟨hitems, after, hclose, hshows⟩ | ⟨hitems, hclose⟩ :=
    hk.tells.shows.close hlifecycle halarm
  · dsimp only
    rw [hclose]
    have hrounds : k.rounds ≤ k.inFlight + 1 := by omega
    exact ⟨_, hk.closed (hnobody rfl) (by rw [hstage]; rfl) hworking hrounds hitems hshows⟩
  · dsimp only
    rw [hclose]
    have hlanded : 0 < b.items.length := List.length_pos_of_ne_nil hitems
    have hbound' : k.rounds + 1 + b.pending ≤ k.inFlight + 1 := by omega
    exact ⟨b, hk.goTo (by rw [hstage]; rfl) hnobody ⟨hlifecycle, halarm, hworking, hbound'⟩⟩

/-- Those who wait at the destroyed queue are woken. -/
theorem Holds.wake (hk : k.Holds b) {side : Queue.Side} (hstage : k.stage = .waking side) :
    ∃ b', k.wait.Holds b' := by
  have hsuits := hk.suits
  have hnobody := hk.nobody
  have hhand := hk.hand
  rw [hstage] at hsuits hnobody hhand
  unfold Closedown.wait
  rw [hstage]
  cases side <;>
  exact ⟨b, hk.congr rfl rfl rfl rfl (hk.tells.shows.wakeAll _) (hk.stopped.congr rfl rfl) hnobody
    hhand hk.asks hsuits⟩

/-- Every step of the wait keeps it. -/
theorem Holds.wait (hk : k.Holds b) : ∃ b', k.wait.Holds b' := by
  have hsuits := hk.suits
  cases hstage : k.stage with
  | idle =>
    rw [hstage] at hsuits
    unfold Closedown.wait
    rw [hstage]
    dsimp only
    split
    · exact ⟨b, hk.goTo (by rw [hstage]; rfl) (fun h => by cases h) hsuits⟩
    · exact ⟨b, hk⟩
  | stopping =>
    rw [hstage] at hsuits
    unfold Closedown.wait
    rw [hstage]
    dsimp only
    split
    · next hstops =>
      have hpending : b.pending ≤ k.pending := Nat.le_of_eq hk.tells.pending.symm
      refine ⟨b, (hk.withShutdown _).goTo (by rw [withSurroundings, hstage]; rfl)
        (fun _ => (hk.stopped.hasNobody hstops).congr rfl) ⟨hsuits.1, hsuits.2, hpending⟩⟩
    · exact ⟨b, hk⟩
  | joining =>
    have hnobody := hk.nobody
    rw [hstage] at hsuits hnobody
    unfold Closedown.wait
    rw [hstage]
    dsimp only
    split
    · exact ⟨b, hk⟩
    · next hworking =>
      exact ⟨b, hk.goTo (by rw [hstage]; rfl) hnobody
        ⟨hsuits.1, Bool.eq_false_iff.mpr hworking, hsuits.2⟩⟩
  | clearing => exact hk.clear hstage
  | discarding => exact hk.discard hstage
  | closing arrival => exact hk.close hstage
  | destroying => exact hk.destroy hstage
  | waking side => exact hk.wake hstage
  | returned =>
    unfold Closedown.wait
    rw [hstage]
    exact ⟨b, hk⟩
  | failed e =>
    rw [hstage] at hsuits
    exact absurd hsuits id

/-- Every move keeps it. -/
theorem Holds.next (hk : k.Holds b) (m : Move) : ∃ b', (k.next m).Holds b' := by
  have hbeside (hm : m.isBeside = true) : ∃ b', (k.next m).Holds b' := by
    obtain ⟨b', -, hafter⟩ := hk.beside hm
    exact ⟨b', hafter⟩
  cases m with
  | consume overlooks => exact hk.consume overlooks
  | wait => exact hk.wait
  | _ => exact hbeside rfl

/-- All moves keep it. -/
theorem Holds.extend (hk : k.Holds b) (moves : List Move) : ∃ b', (k.extend moves).Holds b' :=
  extend_induction (P := fun k => ∃ b, k.Holds b) ⟨b, hk⟩ (fun _ m ⟨_, hk⟩ => hk.next m) moves

end Closedown

end Diameter.Daemon
