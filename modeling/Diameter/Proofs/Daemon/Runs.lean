import Diameter.Proofs.Daemon.Moves
import Diameter.Proofs.Listener.Runs
import Diameter.Proofs.Listener.Sheet

/-!
# What the scheduler does with a daemon is one of these orders

Stopping the listeners one after another, letting the consumer come to its end, emptying and
destroying the event queue, and running what is woken by that are lists of moves. So what holds
of every order of moves holds of the wait for the end under the virtual clock.

A stop under the virtual clock gives every task that can run a number of turns and goes on. That
the accept loop and the handshakes whose entries it took have ended by then is what it means that
the stop is in time.
-/

namespace Diameter

open Listener (Runs StopStage)

/-! ## Tokens -/

namespace Listener

/-- No token gets lost. -/
theorem tokens_le_perform (l : Listener) (e : Event) :
    l.shutdown.tokens.length ≤ (l.perform e).shutdown.tokens.length := by
  have hstep {s : Sheet} (step : Sheet.Step l e s) :
      l.shutdown.tokens.length ≤ s.shutdown.tokens.length := by
    cases step with
    | triggered | failed | raised => exact Nat.le_of_eq (Shutdown.length_trigger _ _).symm
    | cancelled | cancelledAll => exact Nat.le_of_eq (Shutdown.length_cancel _ _).symm
    | dispatched =>
      exact Nat.le_trans (Nat.le_succ _) (Nat.le_of_eq (l.shutdown.length_child l.token).symm)
    | _ => exact Nat.le_refl _
  exact hstep (sheet_perform l e)

/-- What runs of a listener makes tokens and removes none. -/
theorem Runs.tokens_le {l after : Listener} (h : Runs l after) :
    l.shutdown.tokens.length ≤ after.shutdown.tokens.length := by
  obtain ⟨events, -, rfl⟩ := h
  induction events generalizing l with
  | nil => exact Nat.le_refl _
  | cons e events ih => exact Nat.le_trans (tokens_le_perform l e) ih

end Listener

/-! ## Stops that are in time -/

/-- When a stop of the listener goes on, what it waits for has come. -/
structure Listener.StopsInTime (l : Listener) : Prop where
  /-- The accept loop has ended. -/
  loop : l.cancelAll.joinLoop.acceptor ≠ .accepting
  /-- The handshakes whose entries were taken have ended. -/
  taken : l.cancelAll.joinLoop.outstanding.all
    (l.cancelAll.joinLoop.drain.2.joinTaken l.cancelAll.joinLoop.outstanding).hasEnded = true

/-- Nobody who is unused waits for a turn that a cancellation would give him. -/
theorem Listener.scheduleCancelled_of_unused {l : Listener} (hl : l.toListenerState.Unused) :
    l.scheduleCancelled = l := by
  have hscheduled : l.schedule .acceptLoop = l := if_pos (hl.runnable ▸ List.mem_singleton_self _)
  unfold scheduleCancelled
  rw [hl.handshakes]
  exact (if_pos hl.acceptor).trans hscheduled

/-- The only task of a listener that is unused is its accept loop, which ends when it sees the
token. -/
theorem Listener.joinLoop_of_unused {l : Listener} (hl : l.toListenerState.Unused)
    (htoken : l.token < l.shutdown.tokens.length) : l.cancelAll.joinLoop = { l with
      shutdown := l.shutdown.cancel l.token
      acceptor := .dropped
      backlog := []
      runnable := []
      hasLoop := false } := by
  let cancelled : Listener := { l with shutdown := l.shutdown.cancel l.token }
  let ended : Listener := { cancelled with acceptor := .dropped, backlog := [], runnable := [] }
  have hcancelled : l.cancelAll = cancelled := scheduleCancelled_of_unused (l := cancelled) hl
  have hrun : cancelled.runFirst = ended := by
    have hdropped : { cancelled with runnable := [] }.dropAcceptor = ended := by
      unfold dropAcceptor
      rw [show cancelled.backlog = [] from hl.backlog]
      rfl
    unfold runFirst
    rw [show cancelled.runnable = [.acceptLoop] from hl.runnable]
    exact ((if_neg (not_not_intro hl.acceptor)).trans
      (if_pos (Shutdown.isCancelled_cancel htoken))).trans hdropped
  have hsettled : cancelled.settle = ended := by
    have hidle (turns : Nat) : ended.settleWithin turns = ended := by cases turns <;> rfl
    obtain ⟨turns, hturns⟩ : ∃ turns, 4 * (cancelled.connections.length + 2) *
        (cancelled.connections.length + 2) = turns + 1 :=
      Nat.exists_eq_add_one_of_ne_zero (by simp)
    unfold settle
    dsimp only
    rw [hturns, settleWithin, show cancelled.runnable = [.acceptLoop] from hl.runnable, hrun]
    exact hidle turns
  rw [hcancelled]
  exact (if_pos hl.hasLoop).trans (congrArg (fun l : Listener => { l with hasLoop := false }) hsettled)

/-- A listener that has accepted nothing stops in time. -/
theorem Listener.stopsInTime_of_unused {l : Listener} (hl : l.toListenerState.Unused)
    (htoken : l.token < l.shutdown.tokens.length) : l.StopsInTime := by
  have hjoined := joinLoop_of_unused hl htoken
  have hnobody : l.cancelAll.joinLoop.outstanding = [] := hjoined ▸ hl.outstanding
  refine ⟨fun h => ?_, hnobody ▸ rfl⟩
  rw [hjoined] at h
  cases h

/-! ## Moves beside the wait -/

namespace Daemon.Closedown

/-- The listeners have gone on, and their stops. The consumer and the wait are where they were. -/
structure Beside (k : Closedown) (r : Registry) (stops : List StopStage) (k' : Closedown) :
    Prop where
  registry : k'.registry = r
  stops : k'.stops = stops
  consumer : k'.daemon.consumer = k.daemon.consumer
  consuming : k'.consuming = k.consuming
  stage : k'.stage = k.stage
  inFlight : k'.inFlight = k.inFlight
  rounds : k'.rounds = k.rounds

/-- Moves beside the consumer and the wait lead there. -/
def Comes (k : Closedown) (r : Registry) (stops : List StopStage) : Prop :=
  ∃ moves, (∀ m ∈ moves, Move.isBeside m = true) ∧ k.Beside r stops (k.extend moves)

/-- No moves lead to what is there already. -/
theorem Comes.refl (k : Closedown) : k.Comes k.registry k.stops :=
  ⟨[], fun m hm => (by cases hm), rfl, rfl, rfl, rfl, rfl, rfl, rfl⟩

/-- One move leads there. -/
theorem Comes.of_next {k : Closedown} {r : Registry} {stops : List StopStage} (m : Move)
    (hm : m.isBeside = true) (h : k.Beside r stops (k.next m)) : k.Comes r stops :=
  ⟨[m], fun _ hmem => List.mem_singleton.mp hmem ▸ hm, h⟩

/-- Moves that lead to a registry, and from it to another one, lead to that one. -/
theorem Comes.trans {k : Closedown} {r r' : Registry} {stops stops' : List StopStage}
    (h : k.Comes r stops)
    (h' : ∀ k', k.Beside r stops k' → k'.Comes r' stops') : k.Comes r' stops' := by
  obtain ⟨moves, hbeside, hmoves⟩ := h
  obtain ⟨more, hbeside', hmore⟩ := h' _ hmoves
  refine ⟨moves ++ more, fun m hm => (List.mem_append.mp hm).elim (hbeside m) (hbeside' m), ?_⟩
  rw [extend_append]
  exact ⟨hmore.registry, hmore.stops, hmore.consumer.trans hmoves.consumer,
    hmore.consuming.trans hmoves.consuming, hmore.stage.trans hmoves.stage,
    hmore.inFlight.trans hmoves.inFlight, hmore.rounds.trans hmoves.rounds⟩

end Daemon.Closedown

namespace Registry

variable {r r' r'' : Registry} {i : Nat} {l : Listener} {f g : Listener → Listener}

/-! ## One listener among others -/

theorem modify_of_none (hx : r.listeners[i]? = none) (f : Listener → Listener) :
    r.modify i f = r := by
  unfold modify
  rw [hx]

/-- A listener that exists is replaced, with what it did to its surroundings. -/
theorem modify_of_some {x : Registered} (hx : r.listeners[i]? = some x) (f : Listener → Listener) :
    r.modify i f = ⟨r.listeners.set i { x with
      state := (f ⟨x.state, r.surroundings⟩).toListenerState },
      (f ⟨x.state, r.surroundings⟩).toSurroundings⟩ := by
  unfold modify
  rw [hx]

theorem listener?_modify (r : Registry) (i : Nat) (f : Listener → Listener) :
    (r.modify i f).listener? i = (r.listener? i).map f := by
  unfold listener?
  rcases hx : r.listeners[i]? with _ | x
  · rw [modify_of_none hx, hx]
    rfl
  · rw [modify_of_some hx, List.getElem?_set_self (List.getElem?_eq_some_iff.mp hx).1]
    rfl

theorem getElem?_modify_other (r : Registry) {i j : Nat} (hij : i ≠ j) (f : Listener → Listener) :
    (r.modify i f).listeners[j]? = r.listeners[j]? := by
  rcases hx : r.listeners[i]? with _ | x
  · rw [modify_of_none hx]
  · rw [modify_of_some hx]
    exact List.getElem?_set_ne hij

/-- A change of a listener depends on what it makes of this very listener. -/
theorem modify_congr (hfg : ∀ l, r.listener? i = some l → f l = g l) :
    r.modify i f = r.modify i g := by
  rcases hx : r.listeners[i]? with _ | x
  · rw [modify_of_none hx, modify_of_none hx]
  · have hl : r.listener? i = some ⟨x.state, r.surroundings⟩ := congrArg (Option.map _) hx
    rw [modify_of_some hx, modify_of_some hx, hfg _ hl]

/-- Two changes of one listener are one change. -/
theorem modify_modify (r : Registry) (i : Nat) (f g : Listener → Listener) :
    (r.modify i f).modify i g = r.modify i fun l => g (f l) := by
  rcases hx : r.listeners[i]? with _ | x
  · rw [modify_of_none hx, modify_of_none hx, modify_of_none hx]
  · have hset := List.getElem?_set_self (a := { x with
      state := (f ⟨x.state, r.surroundings⟩).toListenerState }) (List.getElem?_eq_some_iff.mp hx).1
    rw [modify_of_some hx, modify_of_some hset, List.set_set, modify_of_some hx]

/-- What leaves the listener as it is leaves the registry. -/
theorem modify_self (hf : ∀ l, r.listener? i = some l → f l = l) : r.modify i f = r := by
  rcases hx : r.listeners[i]? with _ | x
  · exact modify_of_none hx f
  · have hl : r.listener? i = some ⟨x.state, r.surroundings⟩ := congrArg (Option.map _) hx
    obtain ⟨hlt, rfl⟩ := List.getElem?_eq_some_iff.mp hx
    rw [modify_of_some hx, hf _ hl]
    dsimp only
    rw [List.set_getElem_self]

/-! ## Listeners that run -/

/-- Whatever the consumer and the wait are about, moves beside them lead from one registry to the
other. -/
def Leads (r after : Registry) : Prop :=
  ∀ k : Daemon.Closedown, k.registry = r → k.Comes after k.stops

namespace Leads

theorem refl (r : Registry) : Leads r r := fun k hk => hk ▸ .refl k

theorem trans (h : Leads r r') (h' : Leads r' r'') : Leads r r'' := fun k hk =>
  (h k hk).trans fun k' hk' => hk'.stops ▸ h' k' hk'.registry

/-- One turn after the other leads on if every turn does. -/
theorem foldl {α : Type} {f : Registry → α → Registry} (hf : ∀ r x, Leads r (f r x)) (xs : List α)
    (r : Registry) : Leads r (xs.foldl f r) := by
  induction xs generalizing r with
  | nil => exact refl r
  | cons x xs ih => exact (hf r x).trans (ih (f r x))

end Leads

/-- What the events of a listener lead to is a list of moves. -/
theorem leads_modify (hf : ∀ l, Runs l (f l)) (r : Registry) (i : Nat) :
    Leads r (r.modify i f) := by
  rcases hl : r.listener? i with _ | l
  · rw [modify_self fun l h => by cases hl.symm.trans h]
    exact .refl r
  · obtain ⟨events, hown, hevents⟩ := hf l
    have hfold : r.modify i f = r.modify i fun l => events.foldl Listener.perform l :=
      modify_congr fun l' hl' => by
        obtain rfl := Option.some.inj (hl.symm.trans hl')
        exact hevents.symm
    rw [hfold]
    clear hfold hevents hl
    induction events generalizing r with
    | nil =>
      have hsame : (r.modify i fun l => [].foldl Listener.perform l) = r :=
        modify_self fun _ _ => rfl
      rw [hsame]
      exact .refl r
    | cons e events ih =>
      have hfirst : Leads r (r.modify i (·.perform e)) := fun k hk => by
        subst hk
        have hone : k.next (.listener i e) = k.perform i e := if_pos (hown e List.mem_cons_self)
        exact .of_next (.listener i e) rfl (hone.symm ▸ ⟨rfl, rfl, rfl, rfl, rfl, rfl, rfl⟩)
      have hrest := ih (r.modify i (·.perform e)) fun e he => hown e (List.mem_cons_of_mem _ he)
      rw [modify_modify] at hrest
      exact hfirst.trans hrest

/-- A turn of every listener leads on if a turn of each does. -/
theorem leads_modifyAll (hf : ∀ (r : Registry) (i : Nat), Leads r (r.modify i f)) (r : Registry) :
    Leads r (r.modifyAll f) := Leads.foldl hf _ r

/-- The handshakes of a listener that were woken get their turn. They are taken out of the queue
of who can run, and each is given its turn after that. -/
theorem leads_scheduleWoken (r : Registry) (i : Nat) :
    Leads r (r.modify i Listener.scheduleWoken) := by
  rcases hx : r.listeners[i]? with _ | x
  · rw [modify_of_none hx]
    exact .refl r
  · let l : Listener := ⟨x.state, r.surroundings⟩
    let woken := l.events.runnable.filterMap l.storingHandshake
    let others := l.events.runnable.filter fun caller => (l.storingHandshake caller).isNone
    let left : Registry :=
      { r with surroundings.events := { r.surroundings.events with runnable := others } }
    have hleft : Leads r left := fun k hk => by
      subst hk
      exact .of_next (.arrange others) rfl ⟨rfl, rfl, rfl, rfl, rfl, rfl, rfl⟩
    have hscheduled : Leads left
        (left.modify i fun l => woken.foldl (fun l h => l.schedule (.handshake h)) l) :=
      leads_modify (fun l => Runs.foldl (fun l h => Listener.runs_schedule l _) woken l) left i
    have hwoken : r.modify i Listener.scheduleWoken =
        left.modify i fun l => woken.foldl (fun l h => l.schedule (.handshake h)) l := by
      rw [modify_of_some hx, modify_of_some (show left.listeners[i]? = some x from hx)]
      rfl
    exact hwoken ▸ hleft.trans hscheduled

/-- Everything that can go on by itself is led to. -/
theorem leads_settle (r : Registry) : Leads r r.settle := by
  have hwithin (rounds : Nat) (r : Registry) : Leads r (r.settleWithin rounds) := by
    induction rounds generalizing r with
    | zero => exact .refl r
    | succ rounds ih =>
      have hround := (leads_modifyAll leads_scheduleWoken r).trans
        (leads_modifyAll (leads_modify Listener.runs_settle) _)
      unfold settleWithin
      dsimp only
      split
      · exact hround
      · exact hround.trans (ih _)
  exact hwithin _ r

/-! ## Stops -/

/-- The first `n` listeners are stopped, one after another. -/
def stopFirst (r : Registry) (n : Nat) : Registry :=
  (List.range n).foldl (fun r i => r.modify i Listener.stop) r

theorem stopFirst_succ (r : Registry) (n : Nat) :
    r.stopFirst (n + 1) = (r.stopFirst n).modify n Listener.stop := by
  rw [stopFirst, List.range_succ, List.foldl_append]
  rfl

/-- Those whose turn is still to come have not been stopped. -/
theorem getElem?_stopFirst (r : Registry) {n i : Nat} (hi : n ≤ i) :
    (r.stopFirst n).listeners[i]? = r.listeners[i]? := by
  induction n with
  | zero => rfl
  | succ n ih =>
    rw [stopFirst_succ, getElem?_modify_other _ (Nat.ne_of_lt hi), ih (Nat.le_of_succ_le hi)]

/-- Stopping listeners removes no tokens. -/
theorem tokens_le_stopFirst (r : Registry) (n : Nat) : r.surroundings.shutdown.tokens.length ≤
    (r.stopFirst n).surroundings.shutdown.tokens.length := by
  induction n with
  | zero => exact Nat.le_refl _
  | succ n ih =>
    rw [stopFirst_succ]
    rcases hx : (r.stopFirst n).listeners[n]? with _ | x
    · rw [modify_of_none hx]
      exact ih
    · rw [modify_of_some hx]
      exact Nat.le_trans ih (Listener.runs_stop ⟨x.state, _⟩).tokens_le

/-- Every stop is in time. -/
def StopsInTime (r : Registry) : Prop :=
  ∀ (i : Nat) (l : Listener), (r.stopFirst i).listener? i = some l → l.StopsInTime

/-- Listeners that have just started all stop in time. -/
theorem stopsInTime_of_fresh (hr : r.Fresh) : r.StopsInTime := by
  intro i l hl
  obtain ⟨x, hx, rfl⟩ := Option.map_eq_some_iff.mp hl
  rw [r.getElem?_stopFirst (Nat.le_refl i)] at hx
  have hmem := List.mem_of_getElem? hx
  exact Listener.stopsInTime_of_unused (hr.listeners x hmem).toUnused
    (Nat.lt_of_lt_of_le (hr.tokens x hmem) (r.tokens_le_stopFirst i))

/-- Raising the shutdown of fresh listeners changes nothing else. -/
theorem trigger_of_fresh (hr : r.Fresh) (reason : ShutdownReason) :
    (r.trigger reason).2 = { r with
      surroundings.shutdown := (r.surroundings.shutdown.trigger reason).2 } := by
  let raised : Registry :=
    { r with surroundings.shutdown := (r.surroundings.shutdown.trigger reason).2 }
  have hsame (i : Nat) : raised.modify i Listener.scheduleCancelled = raised :=
    modify_self fun l hl => by
      obtain ⟨x, hx, rfl⟩ := Option.map_eq_some_iff.mp hl
      exact Listener.scheduleCancelled_of_unused (hr.listeners x (List.mem_of_getElem? hx)).toUnused
  exact List.foldl_fixed' hsame _

end Registry

namespace Daemon

/-- What the listeners share when they have been stopped, the consumer is cancelled and the alarm
is taken off. -/
def cleared (s : Surroundings) (token : TokenId) : Surroundings :=
  { s with
    shutdown := s.shutdown.cancel token
    events := (s.events.clearThresholds 0).2 }

/-- The wait, if the queue that the discarding leaves can be destroyed. -/
theorem wait_of_destroy {d : Daemon} {events : Queue.System Listener.Arrival String}
    (hworking : d.consumer.working = true)
    (hcancelled : (cleared d.registry.stop.surroundings d.consumer.token).shutdown.isCancelled
      d.consumer.token = true)
    (hdestroy : (discardAll (cleared d.registry.stop.surroundings d.consumer.token)).events.destroy 0 =
      (.ok (), events)) :
    d.wait.2 = ⟨Registry.settle ⟨d.registry.stop.listeners,
      { discardAll (cleared d.registry.stop.surroundings d.consumer.token) with events }⟩,
      { d.consumer with working := false }⟩ ∧ ∀ e, d.wait.1 ≠ .error (.queue e) := by
  let stopped : Registry := { d.registry.stop with
    surroundings.shutdown := d.registry.stop.surroundings.shutdown.cancel d.consumer.token }
  have hconsume : Daemon.consume ⟨stopped, d.consumer⟩ =
      ⟨stopped, { d.consumer with working := false }⟩ := by
    unfold consume consumeWithin
    dsimp only
    rw [if_neg (by rw [hworking]; decide)]
    exact if_pos hcancelled
  have hclose (rounds : Nat) : closeEvents ⟨d.registry.stop.listeners,
      cleared d.registry.stop.surroundings d.consumer.token⟩ (rounds + 1) = (.ok (),
        Registry.settle ⟨d.registry.stop.listeners,
          { discardAll (cleared d.registry.stop.surroundings d.consumer.token) with events }⟩) := by
    unfold closeEvents
    dsimp only
    rw [hdestroy]
  unfold wait
  dsimp only
  generalize hconsumed : Daemon.consume _ = consumed
  obtain rfl := hconsumed.symm.trans hconsume
  generalize hclosed : closeEvents _ _ = closed
  obtain rfl := hclosed.symm.trans (hclose _)
  refine ⟨rfl, fun e he => ?_⟩
  dsimp only at he
  split at he
  · split at he <;> cases he
  · cases he

end Daemon

namespace Daemon.Closedown

open Registry (Leads)

variable {k : Closedown} {b : Books}

/-- Moves that lead to a registry also lead to what this registry leads to. -/
theorem Comes.leads {r r' : Registry} {stops : List StopStage} (h : k.Comes r stops)
    (h' : Leads r r') : k.Comes r' stops :=
  h.trans fun k' hk' => hk'.stops ▸ h' k' hk'.registry

/-- A stop goes on by an event of its listener. -/
theorem Comes.stop {r : Registry} {stops : List StopStage} (h : k.Comes r stops)
    (hstopping : k.stage = .stopping) {i : Nat} (e : Listener.Event) (stage : StopStage)
    (hgo : ∀ k' : Closedown, k'.registry = r → k'.stops = stops →
      k'.stop i = { k'.perform i e with stops := k'.stops.set i stage }) :
    k.Comes (r.modify i (·.perform e)) (stops.set i stage) :=
  h.trans fun k' hk' => by
    have hone : k'.next (.stop i) = k'.stop i := if_pos (by
      rewrite [hk'.stage, hstopping]
      rfl)
    obtain ⟨rfl, rfl, -⟩ := hk'
    refine .of_next (.stop i) rfl ?_
    rw [hone, hgo k' rfl rfl]
    exact ⟨rfl, rfl, rfl, rfl, rfl, rfl, rfl⟩

/-- The stop of a listener, from its first step to its last. -/
theorem Comes.stopped {r : Registry} {stops : List StopStage} (h : k.Comes r stops)
    (hstopping : k.stage = .stopping) {i : Nat} {l : Listener} (hl : r.listener? i = some l)
    (hahead : stops[i]? = some .ahead) (hstarted : l.acceptor ≠ .idle) (htime : l.StopsInTime) :
    ∃ taken, k.Comes (r.modify i Listener.stop) (stops.set i (.returned taken)) := by
  have hlt : i < stops.length := (List.getElem?_eq_some_iff.mp hahead).1
  let taken := l.cancelAll.joinLoop.outstanding
  have hcancelled : k.Comes (r.modify i Listener.cancelAll) (stops.set i .joining) :=
    h.stop hstopping .cancelAll .joining fun k' hr hs => by
      unfold Closedown.stop
      rw [hr, hs, hl, hahead]
      exact if_neg hstarted
  have hjoined := hcancelled.leads (Registry.leads_modify Listener.runs_joinLoop _ i)
  rw [Registry.modify_modify] at hjoined
  have hdrained := hjoined.stop hstopping .drain (.awaiting taken) fun k' hr hs => by
    unfold Closedown.stop
    rw [hr, hs, Registry.listener?_modify, hl, List.getElem?_set_self hlt]
    exact if_neg htime.loop
  rw [Registry.modify_modify, List.set_set] at hdrained
  have hended := hdrained.leads
    (Registry.leads_modify (fun l => Listener.runs_joinTaken l taken) _ i)
  rw [Registry.modify_modify] at hended
  have hconcluded := hended.stop hstopping (.conclude taken) (.returned taken)
    fun k' hr hs => by
      unfold Closedown.stop
      rw [hr, hs, Registry.listener?_modify, hl, List.getElem?_set_self hlt]
      exact if_pos htime.taken
  rw [Registry.modify_modify, List.set_set] at hconcluded
  refine ⟨taken, ?_⟩
  have hsame : r.modify i Listener.stop = r.modify i fun l =>
      (((l.cancelAll.joinLoop.perform .drain).joinTaken taken).perform (.conclude taken)) :=
    Registry.modify_congr fun l' hl' => by
      obtain rfl := Option.some.inj (hl.symm.trans hl')
      rfl
  exact hsame ▸ hconcluded

/-- The stops of the first `n` listeners. -/
theorem Comes.stoppedFirst (hstopping : k.stage = .stopping)
    (hstarted : ∀ x ∈ k.registry.listeners, x.state.acceptor ≠ .idle)
    (htime : k.registry.StopsInTime) (hlength : k.stops.length = k.registry.listeners.length)
    (hahead : ∀ stage ∈ k.stops, stage = .ahead) {n : Nat} (hn : n ≤ k.registry.listeners.length) :
    ∃ stops, k.Comes (k.registry.stopFirst n) stops ∧ stops.length = k.stops.length ∧
      (∀ i < n, ∃ taken, stops[i]? = some (.returned taken)) ∧
      ∀ i, n ≤ i → stops[i]? = k.stops[i]? := by
  induction n with
  | zero => exact ⟨k.stops, .refl k, rfl, fun i hi => absurd hi (Nat.not_lt_zero i), fun _ _ => rfl⟩
  | succ n ih =>
    obtain ⟨stops, hcomes, hsame, hreturned, hleft⟩ := ih (Nat.le_of_succ_le hn)
    have hx : (k.registry.stopFirst n).listeners[n]? = some k.registry.listeners[n] := by
      rw [k.registry.getElem?_stopFirst (Nat.le_refl n)]
      exact List.getElem?_eq_getElem hn
    have hl : (k.registry.stopFirst n).listener? n =
        some ⟨k.registry.listeners[n].state, (k.registry.stopFirst n).surroundings⟩ :=
      congrArg (Option.map _) hx
    have hlt : n < k.stops.length := hlength ▸ hn
    have hstage : stops[n]? = some .ahead := by
      rw [hleft n (Nat.le_refl n), List.getElem?_eq_getElem hlt]
      exact congrArg some (hahead _ (List.getElem_mem hlt))
    obtain ⟨taken, hstopped⟩ := hcomes.stopped hstopping hl hstage
      (hstarted _ (List.getElem_mem hn)) (htime n _ hl)
    rw [← Registry.stopFirst_succ] at hstopped
    refine ⟨_, hstopped, (List.length_set ..).trans hsame, fun i hi => ?_, fun i hi => ?_⟩
    · obtain rfl | hne := eq_or_ne i n
      · exact ⟨taken, List.getElem?_set_self (hsame.symm ▸ hlt)⟩
      · rw [List.getElem?_set_ne hne.symm]
        exact hreturned i (Nat.lt_of_le_of_ne (Nat.le_of_lt_succ hi) hne)
    · rw [List.getElem?_set_ne (Nat.ne_of_lt hi)]
      exact hleft i (Nat.le_of_succ_le hi)

/-- All listeners have been stopped. -/
theorem Comes.stoppedAll (hstopping : k.stage = .stopping)
    (hstarted : ∀ x ∈ k.registry.listeners, x.state.acceptor ≠ .idle)
    (htime : k.registry.StopsInTime) (hlength : k.stops.length = k.registry.listeners.length)
    (hahead : ∀ stage ∈ k.stops, stage = .ahead) :
    ∃ moves, (∀ m ∈ moves, Move.isBeside m = true) ∧
      k.Beside k.registry.stop (k.extend moves).stops (k.extend moves) ∧
      (k.extend moves).hasStopped = true := by
  obtain ⟨stops, ⟨moves, hbeside, hmoves⟩, hsame, hreturned, -⟩ :=
    Comes.stoppedFirst hstopping hstarted htime hlength hahead (Nat.le_refl _)
  refine ⟨moves, hbeside, hmoves.stops.symm ▸ hmoves, ?_⟩
  rw [hasStopped, hmoves.stops, List.all_eq_true]
  intro stage hstage
  obtain ⟨i, hi, rfl⟩ := List.mem_iff_getElem.mp hstage
  obtain ⟨taken, htaken⟩ := hreturned i (by omega)
  obtain ⟨_, hget⟩ := List.getElem?_eq_some_iff.mp htaken
  rewrite [hget]
  rfl

/-! ## The wait -/

/-- All listeners have been stopped. The consumer ends, and the wait takes the alarm off. -/
theorem clears (hstage : k.stage = .stopping) (hstopped : k.hasStopped = true)
    (hconsuming : k.consuming = .looking) (hworking : k.daemon.consumer.working = true)
    (hcancelled : (k.surroundings.shutdown.cancel k.daemon.consumer.token).isCancelled
      k.daemon.consumer.token = true) :
    (k.extend [.wait, .consume false, .wait, .wait]).stage = .discarding ∧
      (k.extend [.wait, .consume false, .wait, .wait]).daemon =
        ⟨⟨k.registry.listeners, cleared k.surroundings k.daemon.consumer.token⟩,
          { k.daemon.consumer with working := false }⟩ := by
  let joining : Closedown :=
    { k.withSurroundings { k.surroundings with
        shutdown := k.surroundings.shutdown.cancel k.daemon.consumer.token } with
      stage := .joining, inFlight := k.pending }
  have hwait : k.wait = joining := by
    unfold Closedown.wait
    rw [hstage]
    exact if_pos hstopped
  have hconsume : joining.consume false = joining.endConsumer := by
    have hseen : joining.consume false = joining.consumeSeeing true :=
      (if_pos hworking).trans (congrArg joining.consumeSeeing hcancelled)
    rw [hseen]
    unfold consumeSeeing
    rw [show joining.consuming = .looking from hconsuming]
    rfl
  rw [show k.extend [.wait, .consume false, .wait, .wait] = ((k.wait.consume false).wait).wait
    from rfl, hwait, hconsume]
  exact ⟨rfl, rfl⟩

/-- The wait finds the first connection in the queue, if there is one. -/
theorem Holds.looks (hk : k.Holds b) (hstage : k.stage = .discarding) :
    (∃ arrival rest popped, k.surroundings.popEvent = (.ok arrival, popped) ∧
      (k.events.queue 0).items = arrival :: rest ∧ (popped.events.queue 0).items = rest) ∨
    ∃ e, k.surroundings.popEvent = (.error e, k.surroundings) ∧ (k.events.queue 0).items = [] := by
  have hsuits := hk.suits
  rw [hstage] at hsuits
  rw [hk.tells.shows.items]
  obtain ⟨arrival, rest, popped, hpop, hitems, -, hshows⟩ | ⟨e, hpop, hitems⟩ :=
    Books.Shows.popEvent (s := k.surroundings) hk.tells.shows hsuits.1
  · exact .inl ⟨arrival, rest, popped, hpop, hitems, (hshows b.hand).items⟩
  · exact .inr ⟨e, hpop, hitems⟩

/-- The wait closes what it finds in the queue, and finds it empty. -/
theorem Holds.discards (hk : k.Holds b) (hstage : k.stage = .discarding) :
    ∃ moves, (k.extend moves).stage = .destroying ∧
      (k.extend moves).daemon =
        ⟨⟨k.registry.listeners, discardAll k.surroundings⟩, k.daemon.consumer⟩ ∧
      ((k.extend moves).events.queue 0).items = [] := by
  have hwithin (n : Nat) {k : Closedown} {b : Books} (hk : k.Holds b)
      (hstage : k.stage = .discarding) (hn : (k.events.queue 0).items.length = n) :
      ∃ moves, (k.extend moves).stage = .destroying ∧
        (k.extend moves).daemon =
          ⟨⟨k.registry.listeners, discardWithin k.surroundings n⟩, k.daemon.consumer⟩ ∧
        ((k.extend moves).events.queue 0).items = [] := by
    induction n generalizing k b with
    | zero =>
      obtain ⟨arrival, rest, _, -, hfound, -⟩ | ⟨e, hpop, hempty⟩ := hk.looks hstage
      · rw [hfound] at hn
        cases hn
      · have hwait : k.wait = { k with stage := .destroying } := by
          unfold Closedown.wait
          rw [hstage]
          dsimp only
          rw [hpop]
          rfl
        refine ⟨[.wait], ?_⟩
        rw [show k.extend [.wait] = k.wait from rfl, hwait]
        exact ⟨rfl, rfl, hempty⟩
    | succ n ih =>
      obtain ⟨arrival, rest, popped, hpop, hfound, hrest⟩ | ⟨_, -, hempty⟩ := hk.looks hstage
      · have hwait : k.extend [.wait, .wait] =
            { (k.withSurroundings (popped.closeConnection arrival.connection)).note .wait
              arrival.connection with stage := .discarding } := by
          have hfirst : k.wait = { k.withSurroundings popped with stage := .closing arrival } := by
            unfold Closedown.wait
            rw [hstage]
            dsimp only
            rw [hpop]
          rw [show k.extend [.wait, .wait] = k.wait.wait from rfl, hfirst]
          rfl
        have hlength : (popped.events.queue 0).items.length = n := by
          rw [hfound] at hn
          exact hrest ▸ Nat.succ.inj hn
        obtain ⟨b', hk'⟩ := hk.extend [.wait, .wait]
        rw [hwait] at hk'
        obtain ⟨moves, hdestroying, hdaemon, hempty⟩ := ih hk' rfl hlength
        refine ⟨[.wait, .wait] ++ moves, ?_⟩
        rw [extend_append, hwait]
        refine ⟨hdestroying, hdaemon.trans ?_, hempty⟩
        rw [discardWithin, hpop]
        rfl
      · rw [hempty] at hn
        cases hn
  exact hwithin _ hk hstage rfl

/-- The wait destroys the empty queue. -/
theorem Holds.destroys (hk : k.Holds b) (hstage : k.stage = .destroying)
    (hempty : (k.events.queue 0).items = []) : ∃ events, k.events.destroy 0 = (.ok (), events) ∧
      k.extend [.wait, .wait, .wait] = { k.withEvents events with stage := .returned } := by
  have hsuits := hk.suits
  rw [hstage] at hsuits
  obtain ⟨-, after, hclose, -⟩ | ⟨hitems, -⟩ := hk.tells.shows.close hsuits.1 hsuits.2.1
  · refine ⟨(after.wakeAll 0 .consumer).wakeAll 0 .producer, ?_, ?_⟩
    · unfold Queue.System.destroy
      rw [hclose]
    · have hwait : k.wait = { k.withEvents after with stage := .waking .consumer } := by
        unfold Closedown.wait
        rw [hstage]
        dsimp only
        rw [hclose]
      rw [show k.extend [.wait, .wait, .wait] = k.wait.wait.wait from rfl, hwait]
      rfl
  · exact absurd (hk.tells.shows.items.symm.trans hempty) hitems

/-- The shutdown was raised before the wait begins, nobody has been stopped, and the consumer
does not wait for the queue. -/
structure IsAhead (k : Closedown) : Prop where
  idle : k.stage = .idle
  raised : k.surroundings.shutdown.isTriggered = true
  stops : ∀ stage ∈ k.stops, stage = .ahead
  looking : k.consuming = .looking
  working : k.daemon.consumer.working = true
  token : k.daemon.consumer.token < k.surroundings.shutdown.tokens.length

/-- The consumer sees that it is cancelled once the wait has stopped all listeners. -/
theorem IsAhead.isCancelled (hk : k.IsAhead) :
    (cleared k.registry.stop.surroundings k.daemon.consumer.token).shutdown.isCancelled
      k.daemon.consumer.token = true :=
  Shutdown.isCancelled_cancel (Nat.lt_of_lt_of_le hk.token (k.registry.tokens_le_stopFirst _))

/-- All listeners are stopped, the consumer ends, and the wait takes the alarm off. -/
theorem Holds.stops (hk : k.Holds b) (hahead : k.IsAhead) (htime : k.registry.StopsInTime) :
    ∃ moves, (k.extend moves).stage = .discarding ∧ (k.extend moves).daemon =
      ⟨⟨k.registry.stop.listeners, cleared k.registry.stop.surroundings k.daemon.consumer.token⟩,
        { k.daemon.consumer with working := false }⟩ := by
  have hbegun : k.extend [.wait] = { k with stage := .stopping } := by
    show k.wait = _
    unfold Closedown.wait
    rw [hahead.idle]
    exact if_pos hahead.raised
  obtain ⟨moves, -, hbeside, hstopped⟩ := Comes.stoppedAll (k := { k with stage := .stopping }) rfl
    hk.stopped.started htime hk.stopped.length hahead.stops
  refine ⟨[.wait] ++ moves ++ [.wait, .consume false, .wait, .wait], ?_⟩
  rw [extend_append, extend_append, hbegun]
  generalize Closedown.extend { k with stage := .stopping } moves = k' at *
  have hregistry : k'.registry = k.registry.stop := hbeside.registry
  have hconsumer : k'.daemon.consumer = k.daemon.consumer := hbeside.consumer
  have hsurroundings : k'.surroundings = k.registry.stop.surroundings := congrArg _ hregistry
  obtain ⟨hdiscarding, hdaemon⟩ := clears hbeside.stage hstopped
    (hbeside.consuming.trans hahead.looking) (hconsumer ▸ hahead.working) (by
      rw [hsurroundings, hconsumer]
      exact hahead.isCancelled)
  rw [hregistry, hsurroundings, hconsumer] at hdaemon
  exact ⟨hdiscarding, hdaemon⟩

/-- The wait under the virtual clock is a list of moves, if every stop is in time. It does not
fail because of the event queue, and it leaves the queue destroyed and empty. -/
theorem Holds.exists_moves_of_wait (hk : k.Holds b) (hahead : k.IsAhead)
    (htime : k.registry.StopsInTime) :
    (∃ moves, (k.extend moves).stage = .returned ∧
      (k.extend moves).daemon = k.daemon.wait.2) ∧
    (∀ e, k.daemon.wait.1 ≠ .error (.queue e)) ∧
    (k.daemon.wait.2.registry.surroundings.events.queue 0).lifecycle = .destroyed ∧
    (k.daemon.wait.2.registry.surroundings.events.queue 0).items = [] := by
  obtain ⟨stopping, hdiscarding, hstopped⟩ := hk.stops hahead htime
  obtain ⟨b₁, hk₁⟩ := hk.extend stopping
  obtain ⟨emptying, hdestroying, hemptied, hempty⟩ := hk₁.discards hdiscarding
  obtain ⟨b₂, hk₂⟩ := hk₁.extend emptying
  obtain ⟨events, hdestroy, hreturned⟩ := hk₂.destroys hdestroying hempty
  obtain ⟨settling, -, hsettled⟩ :=
    Registry.leads_settle _ (((k.extend stopping).extend emptying).extend [.wait, .wait, .wait]) rfl
  have hdaemon : ((k.extend stopping).extend emptying).daemon = ⟨⟨k.registry.stop.listeners,
      discardAll (cleared k.registry.stop.surroundings k.daemon.consumer.token)⟩,
      { k.daemon.consumer with working := false }⟩ := by
    rw [hemptied, surroundings, registry, hstopped]
  have hevents : ((k.extend stopping).extend emptying).events = (discardAll
      (cleared k.registry.stop.surroundings k.daemon.consumer.token)).events :=
    congrArg (fun d : Daemon => d.registry.surroundings.events) hdaemon
  obtain ⟨hwait, hresult⟩ := wait_of_destroy hahead.working hahead.isCancelled (hevents ▸ hdestroy)
  let moves := stopping ++ emptying ++ [.wait, .wait, .wait] ++ settling
  have hmoves : (k.extend moves).stage = .returned ∧ (k.extend moves).daemon = k.daemon.wait.2 := by
    rw [extend_append, extend_append, extend_append]
    refine ⟨hsettled.stage.trans (hreturned ▸ rfl), ?_⟩
    refine (congrArg₂ Daemon.mk hsettled.registry hsettled.consumer).trans (Eq.trans ?_ hwait.symm)
    rewrite [hreturned, Closedown.registry, Closedown.withEvents, withSurroundings, surroundings,
      registry, hdaemon]
    rfl
  obtain ⟨b₃, hk₃⟩ := hk.extend moves
  have hsuits := hk₃.suits
  rw [hmoves.1] at hsuits
  have hshows : b₃.Shows k.daemon.wait.2.registry.surroundings.events := by
    rw [← hmoves.2]
    exact hk₃.tells.shows
  rw [hshows.lifecycle, hshows.items]
  exact ⟨⟨moves, hmoves⟩, hresult, hsuits.1, hsuits.2.1⟩

end Daemon.Closedown

end Diameter
