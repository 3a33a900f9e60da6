import Diameter.Message.Draft
import Diameter.Proofs.Daemon.Runs

/-!
# A daemon comes to its end

Whatever is slow and whoever comes first: the wait for the end never fails because of the event
queue, it empties the queue at most once more than hand-overs were in flight when all listeners
had been stopped, and it leaves the queue destroyed and empty. Every connection that was passed
to be handed over is closed once, by the consumer, by the wait, or, if the queue refused it, by
its hand-over. What a daemon does under the virtual clock is one of these orders.
-/

namespace Diameter.Daemon

open Listener (Accepted Arrival ConnectionId Event)
open Queue (Spot)

namespace Closedown

/-- Who closed a connection, first to last. -/
def closers (k : Closedown) (c : ConnectionId) : List Closer :=
  (k.closed.filter fun x => x.2 = c).map Prod.fst

/-- Whether the handshakes of a connection are over, and with them their hand-overs. -/
def IsOver (k : Closedown) (c : ConnectionId) : Prop :=
  ∀ x ∈ k.handshakes, x.connection = c → ∃ outcome, x.phase = .ended outcome

/-- Whether the event queue has refused a connection. -/
def Refused (k : Closedown) (c : ConnectionId) : Prop :=
  ∃ (i : Queue.CallerId) (arrival : Arrival) (e : QueueError), k.events.callers[i]? =
    some ⟨.push arrival, .ended (.refused arrival e)⟩ ∧ arrival.connection = c

/-! ## The books at the start -/

/-- The books on a daemon that has just been started. -/
def emptyBooks (d : Daemon) : Books where
  holders := 0
  calls := []
  lifecycle := .usable
  items := []
  alarm := (d.registry.surroundings.events.fittings 0).1
  capacity := (d.registry.surroundings.events.fittings 0).2
  hand := 0
  passed := []
  closed := []

/-- Books in which nothing is written yet are right. -/
theorem right_emptyBooks (d : Daemon) : (emptyBooks d).Right where
  distinct := Multiset.nodup_zero
  held _ hc := absurd rfl hc
  fits _ hx := absurd hx (Multiset.notMem_zero _)
  lent _ _ _ hi := by cases hi
  passed _ hc := by cases hc
  closed _ hc := by cases hc
  refused _ hc := by cases hc

/-- The invariant holds when the listeners have just started, with empty books. -/
theorem holds_start {d : Daemon} (hd : d.registry.Fresh) :
    (start d).Holds (emptyBooks d) := by
  have hhandshakes : (start d).handshakes = [] :=
    List.flatMap_eq_nil_iff.mpr fun x hx => (hd.listeners x hx).handshakes
  have hreserved : (start d).reserved = 0 := by
    refine congrArg _ (List.flatMap_eq_nil_iff.mpr fun x hx => ?_)
    rw [Daemon.reserved, (hd.listeners x hx).handshakes, (hd.listeners x hx).backlog]
    rfl
  have hshows : (emptyBooks d).Shows (start d).events := by
    refine ⟨hd.outline, fun i request q hi => ?_, rfl⟩
    cases hi
  have hasks : Asks .looking d.consumer.working (emptyBooks d).calls := by
    refine ⟨fun i deadline q hi => ?_, fun i hi => ?_, fun _ => ⟨rfl, fun i deadline q hi => ?_⟩⟩ <;>
      cases hi
  refine ⟨⟨fun x hx => (hd.listeners x hx).peers, ?_, fun c hc => ?_, fun c => ?_⟩,
    ⟨fun x hx h => ?_, List.length_map _, fun i stage x hi hdrained _ => ?_⟩, fun h => ?_,
    ⟨right_emptyBooks d, hshows, ?_, rfl, rfl⟩, rfl, hasks, ⟨rfl, rfl⟩⟩
  · rw [hreserved]
    exact Multiset.nodup_zero
  · rw [hreserved] at hc
    exact absurd hc (Multiset.notMem_zero _)
  · have hconnections : (start d).surroundings.connections = [] := hd.connections
    rw [closes, hconnections]
    rfl
  · rw [(hd.listeners x hx).acceptor] at h
    cases h
  · have hi : (d.registry.listeners.map fun _ => Listener.StopStage.ahead)[i]? = some stage := hi
    rw [List.getElem?_map] at hi
    obtain ⟨_, -, rfl⟩ := Option.map_eq_some_iff.mp hi
    cases hdrained
  · cases h
  · rw [hhandshakes]
    rfl

/-! ## Who closed what -/

variable {k : Closedown} {b : Books} {c : ConnectionId}

/-- A connection that no handshake closed was closed as often as others closed it. -/
theorem count_foreign {closed : List (Closer × ConnectionId)} (hc : (.handshake, c) ∉ closed) :
    (closed.filterMap Books.foreign?).count c = (closed.map Prod.snd).count c := by
  induction closed with
  | nil => rfl
  | cons x closed ih =>
    obtain ⟨closer, d⟩ := x
    have hrest := ih fun hm => hc (List.mem_cons_of_mem _ hm)
    by_cases hcloser : closer = .handshake
    · subst hcloser
      have hd : d ≠ c := fun hd => hc (hd ▸ List.mem_cons_self)
      rw [show ((Closer.handshake, d) :: closed).filterMap Books.foreign? =
        closed.filterMap Books.foreign? from rfl, List.map_cons, List.count_cons_of_ne hd, hrest]
    · have hforeign : Books.foreign? (closer, d) = some d := if_neg hcloser
      rw [List.filterMap_cons_some hforeign, List.map_cons, List.count_cons, List.count_cons, hrest]

/-- A connection that was passed is closed by others than handshakes, as often as it is not
somewhere else abroad. -/
theorem Holds.passed (hk : k.Holds b) (hc : c ∈ k.passed) : ∃ share : Share,
    (c, share) ∈ b.holders ∧ share.isPassed = true ∧ (.handshake, c) ∉ k.closed ∧
      b.abroad c = (b.items.map Arrival.connection).count c + b.hand.count c + k.closes c := by
  obtain ⟨share, hshare, hpassed⟩ := hk.tells.right.passed c (hk.tells.passed.symm ▸ hc)
  have hforeign : (.handshake, c) ∉ k.closed := fun hm => by
    have haside := hk.tells.right.closed c (hk.tells.closed.symm ▸ hm)
    obtain ⟨-, rfl⟩ := Prod.mk.inj (hk.tells.right.unique hshare haside rfl)
    cases hpassed
  refine ⟨share, hshare, hpassed, hforeign, ?_⟩
  rw [Books.abroad, hk.tells.closed, count_foreign hforeign, hk.ordered.counted]

/-- A connection that was passed is not closed twice. -/
theorem Holds.closes_le (hk : k.Holds b) (hc : c ∈ k.passed) : k.closes c ≤ 1 := by
  obtain ⟨share, hshare, hpassed, -, habroad⟩ := hk.passed hc
  have hone : b.abroad c ≤ 1 := by
    have hfits := hk.tells.right.fits _ hshare
    cases share with
    | given => exact Nat.le_of_eq hfits
    | lent i =>
      obtain ⟨arrival, spot, -, -, haccounts⟩ := hfits
      cases spot with
      | facing q => exact haccounts.trans_le (Nat.zero_le 1)
      | gone => exact absurd haccounts id
      | ended outcome =>
        cases outcome with
        | stored => exact Nat.le_of_eq haccounts
        | refused given e => exact haccounts.2.trans_le (Nat.zero_le 1)
        | took _ | failed _ => exact absurd haccounts id
    | own | handing _ | aside | odd => cases hpassed
  omega

/-- When the wait has returned and the hand-over of a connection is over, somebody has closed it
once, and not the handshake: this one has seen that its push is over. -/
theorem Holds.closes_eq (hk : k.Holds b) (hc : c ∈ k.passed) (hreturned : k.stage = .returned)
    (hover : k.IsOver c) : k.closes c = 1 ∧ (.handshake, c) ∉ k.closed := by
  obtain ⟨share, hshare, hpassed, hforeign, habroad⟩ := hk.passed hc
  have hsuits := hk.suits
  have hhand := hk.hand
  rw [hreturned] at hsuits hhand
  obtain ⟨-, hitems, hworking, -⟩ := hsuits
  have hnothing : b.hand = 0 := by
    rw [hhand, (hk.asks.later hworking).1]
    rfl
  have hgiven : share = .given := by
    have hheld := hshare
    rw [hk.tells.holders] at hheld
    obtain ⟨x, hx, hholder⟩ := List.mem_map.mp (Multiset.mem_coe.mp hheld)
    obtain ⟨hconnection, rfl⟩ := Prod.mk.inj hholder
    obtain ⟨outcome, hphase⟩ := hover x hx hconnection
    rw [hphase] at hpassed ⊢
    cases outcome with
    | handedOff => rfl
    | _ => cases hpassed
  subst hgiven
  have hone : b.abroad c = 1 := hk.tells.right.fits _ hshare
  rw [hitems, hnothing] at habroad
  refine ⟨?_, hforeign⟩
  rw [← hone, habroad]
  simp

/-- A connection that was closed once was closed by one of those who close it. -/
theorem exists_closer (hcount : (k.closed.map Prod.snd).count c = 1)
    (hforeign : (.handshake, c) ∉ k.closed) :
    ∃ closer, k.closers c = [closer] ∧ closer ≠ .handshake ∧ (closer, c) ∈ k.closed := by
  have hlength : (k.closers c).length = 1 := by
    rw [closers, List.length_map, ← List.countP_eq_length_filter, ← hcount, List.count,
      List.countP_map]
    exact List.countP_congr fun x _ => by simp
  obtain ⟨closer, hcloser⟩ := List.length_eq_one_iff.mp hlength
  have hmem : closer ∈ k.closers c := hcloser ▸ List.mem_singleton_self closer
  obtain ⟨⟨_, d⟩, hx, rfl⟩ := List.mem_map.mp hmem
  obtain ⟨hclosed, hd⟩ := List.mem_filter.mp hx
  obtain rfl : d = c := by simpa using hd
  refine ⟨_, hcloser, ?_, hclosed⟩
  rintro rfl
  exact hforeign hclosed

/-- What a hand-over has closed the queue has refused. -/
theorem Holds.refused (hk : k.Holds b) (hc : (.handOver, c) ∈ k.closed) : k.Refused c := by
  obtain ⟨i, arrival, e, hi, hconnection⟩ :=
    hk.tells.right.refused c (hk.tells.closed.symm ▸ hc)
  refine ⟨i, arrival, e, ?_, hconnection⟩
  have hcall := k.events.outline_calls_getElem? i
  rw [hk.tells.shows.outline] at hcall
  obtain ⟨⟨request, stage⟩, hcaller, hspot⟩ := Option.map_eq_some_iff.mp (hcall.symm.trans hi)
  obtain ⟨rfl, hspot⟩ := Prod.mk.inj hspot
  cases stage with
  | ended outcome =>
    obtain rfl := Spot.ended.inj hspot
    exact hcaller
  | leaving q cause late => cases late <;> cases hspot
  | _ => cases hspot

/-! ## The end -/

/-- For every machine, all settings with which a daemon starts, and every order in which
listeners, handshakes, hand-overs, the consumer and the wait go on: the wait never fails
because of the event queue; it begins to empty the queue at most once more than hand-overs were
not over when all listeners had been stopped; when it returns, the queue is destroyed and
empty; and a connection that was passed to be handed over is never closed twice. Once the wait
has returned and the handshake of the connection is over, it was closed exactly once, by the
consumer, by the wait, or by its hand-over; and the last only if the queue refused it. -/
theorem closes_down (machine : Machine) (settings : Settings) (shutdown : Shutdown) {d : Daemon}
    {r : Registry} (hstart : Daemon.start machine settings shutdown = (.ok d, r))
    (moves : List Move) :
    let k := (start d).extend moves
    (∀ e, k.stage ≠ .failed e) ∧ k.rounds ≤ k.inFlight + 1 ∧
    (k.stage = .returned →
      (k.events.queue 0).lifecycle = .destroyed ∧ (k.events.queue 0).items = []) ∧
    ∀ c ∈ k.passed, k.closes c ≤ 1 ∧ (k.stage = .returned → k.IsOver c →
      k.closes c = 1 ∧ ∃ closer, k.closers c = [closer] ∧ closer ≠ .handshake ∧
        (closer = .handOver → k.Refused c)) := by
  intro k
  obtain ⟨b, hk⟩ := (holds_start (Daemon.fresh_of_start hstart).1).extend moves
  have hsuits := hk.suits
  refine ⟨fun e he => ?_, ?_, fun hreturned => ?_, fun c hc =>
    ⟨hk.closes_le hc, fun hreturned hover => ?_⟩⟩
  · rw [he] at hsuits
    exact hsuits
  · cases hstage : k.stage with
    | idle | stopping =>
      rw [hstage] at hsuits
      exact hsuits.2 ▸ Nat.zero_le _
    | joining =>
      rw [hstage] at hsuits
      exact hsuits.2.1 ▸ Nat.zero_le _
    | clearing =>
      rw [hstage] at hsuits
      exact hsuits.2.2.1 ▸ Nat.zero_le _
    | discarding | closing | destroying =>
      rw [hstage] at hsuits
      exact Nat.le_trans (Nat.le_add_right _ _) hsuits.2.2.2
    | waking | returned =>
      rw [hstage] at hsuits
      exact hsuits.2.2.2
    | failed =>
      rw [hstage] at hsuits
      exact hsuits.elim
  · rw [hreturned] at hsuits
    rw [hk.tells.shows.lifecycle, hk.tells.shows.items]
    exact ⟨hsuits.1, hsuits.2.1⟩
  · obtain ⟨hcloses, hforeign⟩ := hk.closes_eq hc hreturned hover
    obtain ⟨closer, hclosers, hother, hclosed⟩ :=
      exists_closer ((hk.ordered.counted c).symm.trans hcloses) hforeign
    refine ⟨hcloses, closer, hclosers, hother, ?_⟩
    rintro rfl
    exact hk.refused hclosed

/-- A machine on which nothing else runs. -/
def bareMachine : Machine := ⟨.ofTaken [], fun _ => .error .notFound⟩

/-- Settings with an event queue that holds one connection. -/
def narrowSettings : Settings := { Settings.default with queues := ⟨1, 0, 0⟩ }

/-- The daemon that is started with them. -/
def narrowDaemon : Daemon :=
  match Daemon.start bareMachine narrowSettings .new with
  | (.ok d, _) => d
  | (.error _, r) => ⟨r, ⟨Shutdown.root, false, 0⟩⟩

/-- A client connects and sends its first message, and its handshake leaves the set. -/
def arriving (n : Nat) : List Move :=
  let greeting := (Draft.capabilitiesRequest 7 "h" "r" Address.anyV4).write
  [.connect "c" "d" ⟨0, none⟩, .accept false, .deliver n (.ok greeting), .poll n false,
    .claim n].map (.listener 0)

/-- A handshake passes its connection and looks at its push. -/
def handing (n : Nat) : List Move :=
  [.listener 0 (.handOver n), .listener 0 (.completeHandOver n)]

/-- The consumer takes the first of four connections. The wait finds the second. The third has
to wait for room and lands when the queue was found empty. The fourth comes too late. -/
def slowHandOvers : List Move :=
  arriving 0 ++ arriving 1 ++ arriving 2 ++ arriving 3 ++
    [.consume false] ++ handing 0 ++ [.turn 0, .consume false, .consume false] ++
    handing 1 ++ handing 2 ++
    [.trigger .requested, .wait, .stop 0, .listener 0 (.accept false), .stop 0, .stop 0, .wait] ++
    [.consume false] ++ List.replicate 5 .wait ++ [.listener 0 (.completeHandOver 2)] ++
    List.replicate 7 .wait ++ handing 3

/-- The daemon after that. -/
def narrowEnd : Closedown := (start narrowDaemon).extend slowHandOvers

/-- Four connections are passed to a queue that holds one. The consumer closes the first, the wait
two more in two rounds, and the hand-over that comes too late closes the last, so that each of
them is closed once. -/
theorem closes_down_despite_slow_hand_overs :
    Daemon.start bareMachine narrowSettings .new = (.ok narrowDaemon, narrowDaemon.registry) ∧
      narrowEnd.stage = .returned ∧ (narrowEnd.events.queue 0).lifecycle = .destroyed ∧
      narrowEnd.inFlight = 2 ∧ narrowEnd.rounds = 2 ∧
      narrowEnd.closed = [(.consumer, 0), (.wait, 1), (.wait, 2), (.handOver, 3)] ∧
      (∀ c ∈ [0, 1, 2, 3], c ∈ narrowEnd.passed ∧ narrowEnd.IsOver c ∧ narrowEnd.closes c = 1) ∧
      narrowEnd.Refused 3 := by
  have hstart : Daemon.start bareMachine narrowSettings .new =
      (.ok narrowDaemon, narrowDaemon.registry) := rfl
  have hseen : (narrowEnd.stage matches .returned) = true ∧ narrowEnd.inFlight = 2 ∧
      narrowEnd.rounds = 2 ∧ narrowEnd.passed = [0, 1, 2, 3] ∧
      narrowEnd.closed = [(.consumer, 0), (.wait, 1), (.wait, 2), (.handOver, 3)] ∧
      ∀ x ∈ narrowEnd.handshakes, x.phase.stand = .ended .handedOff := by decide +kernel
  obtain ⟨hstage, hinFlight, hrounds, hpassed, hclosed, hstands⟩ := hseen
  have hreturned : narrowEnd.stage = .returned := by
    revert hstage
    cases narrowEnd.stage <;> simp
  have hover (c : ConnectionId) : narrowEnd.IsOver c := fun x hx _ => by
    have hstand := hstands x hx
    cases hphase : x.phase with
    | ended outcome => exact ⟨outcome, rfl⟩
    | _ => simp [Listener.Phase.stand, hphase] at hstand
  obtain ⟨-, -, hdestroyed, hcloses⟩ := closes_down bareMachine narrowSettings .new hstart
    slowHandOvers
  have honce (c : ConnectionId) (hc : c ∈ [0, 1, 2, 3]) :
      c ∈ narrowEnd.passed ∧ narrowEnd.IsOver c ∧ narrowEnd.closes c = 1 :=
    ⟨hpassed ▸ hc, hover c, ((hcloses c (hpassed ▸ hc)).2 hreturned (hover c)).1⟩
  obtain ⟨-, closer, hclosers, -, hrefused⟩ :=
    (hcloses 3 (hpassed ▸ by decide)).2 hreturned (hover 3)
  have hlate : narrowEnd.closers 3 = [.handOver] := by
    rw [closers, hclosed]
    rfl
  obtain rfl : closer = .handOver := List.singleton_injective (hclosers.symm.trans hlate)
  exact ⟨hstart, hreturned, (hdestroyed hreturned).1, hinFlight, hrounds, hclosed, honce,
    hrefused rfl⟩

/-! ## The virtual clock -/

/-- The wait of a started daemon under the virtual clock is one of these orders. It does not fail
because of the event queue, and it leaves the queue destroyed and empty. -/
theorem exists_moves_of_wait {machine : Machine} {settings : Settings} {shutdown : Shutdown}
    {d : Daemon} {r : Registry} (hstart : Daemon.start machine settings shutdown = (.ok d, r))
    (reason : ShutdownReason)
    (hraised : (d.trigger reason).2.registry.surroundings.shutdown.isTriggered = true) :
    (∃ moves, ((start d).extend (.trigger reason :: moves)).stage = .returned ∧
      ((start d).extend (.trigger reason :: moves)).daemon = (d.trigger reason).2.wait.2) ∧
    (∀ e, (d.trigger reason).2.wait.1 ≠ .error (.queue e)) ∧
    ((d.trigger reason).2.wait.2.registry.surroundings.events.queue 0).lifecycle = .destroyed ∧
    ((d.trigger reason).2.wait.2.registry.surroundings.events.queue 0).items = [] := by
  obtain ⟨hfresh, hworking, htoken⟩ := Daemon.fresh_of_start hstart
  have hlength := d.registry.surroundings.shutdown.length_trigger reason
  have hdaemon : (d.trigger reason).2 = ((start d).extend [.trigger reason]).daemon :=
    congrArg (Daemon.mk · d.consumer) (Registry.trigger_of_fresh hfresh reason)
  have hfresh' : ((start d).extend [.trigger reason]).registry.Fresh :=
    ⟨hfresh.listeners, hfresh.connections, hfresh.outline, fun x hx =>
      Nat.lt_of_lt_of_eq (hfresh.tokens x hx) hlength.symm⟩
  rw [hdaemon] at hraised ⊢
  have hahead : ((start d).extend [.trigger reason]).IsAhead := by
    refine ⟨rfl, hraised, fun stage hstage => ?_, rfl, hworking,
      Nat.lt_of_lt_of_eq htoken hlength.symm⟩
    obtain ⟨_, -, rfl⟩ := List.mem_map.mp hstage
    rfl
  obtain ⟨b, hk⟩ := (holds_start hfresh).extend [.trigger reason]
  exact hk.exists_moves_of_wait hahead (Registry.stopsInTime_of_fresh hfresh')

end Closedown

end Diameter.Daemon
