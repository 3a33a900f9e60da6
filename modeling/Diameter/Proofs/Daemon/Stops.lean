import Diameter.Proofs.Daemon.Life
import Diameter.Proofs.Listener.Aftermath

/-!
# The stops of all listeners

The stops of several listeners go on side by side, and each of them at its own pace. From the
stage of a stop one can tell how far its listener is: whether it has begun to accept, whether it
is cancelled, whether the set is empty, and at last whether it is over with it.

Whatever the listeners are doing when the stops begin, the stops can go on until all of them have
returned: no client has to do anything for that, and no deadline has to come.
-/

namespace Diameter.Listener

open Shutdown (Agrees Extends)

variable {l : Listener} {e : Event} {stage : StopStage} {calls : List Shutdown.Call}

/-- What is known of a listener from the stage of its stop. -/
def StopStage.Suits (l : Listener) : StopStage → Prop
  | .ahead => l.acceptor ≠ .idle
  | .joining => l.acceptor ≠ .idle ∧ l.shutdown.isCancelled l.token = true
  | .awaiting taken => (l.acceptor = .dropped ∧ l.outstanding = []) ∧
      l.shutdown.isCancelled l.token = true ∧ ∀ h ∈ taken, ∃ c stand,
        l.roster.places[h]? = some ⟨c, stand⟩ ∧ stand.isHome = true
  | .returned _ => l.toListenerState.IsOver

/-- A listener whose stop suits it was started. -/
theorem StopStage.Suits.started (h : stage.Suits l) : l.acceptor ≠ .idle := by
  cases stage with
  | ahead => exact h
  | joining => exact h.1
  | awaiting taken => exact h.1.1 ▸ nofun
  | returned taken => exact h.acceptor ▸ nofun

/-- Every event keeps it. -/
theorem StopStage.Suits.perform (h : stage.Suits l) (htree : l.shutdown.IsTree)
    (htree' : (l.perform e).shutdown.IsTree) : stage.Suits (l.perform e) := by
  have hpath := path_perform l e
  have hcancelled (hl : l.shutdown.isCancelled l.token = true) :
      (l.perform e).shutdown.isCancelled (l.perform e).token = true := by
    rw [token_perform]
    exact (l.extends_perform e).isCancelled htree htree' hl
  cases stage with
  | ahead => exact hpath.started h
  | joining => exact ⟨hpath.started h.1, hcancelled h.2⟩
  | awaiting taken =>
    obtain ⟨hempty, hl, htaken⟩ := h
    exact ⟨hpath.emptied hempty, hcancelled hl, fun h hh => hpath.home hempty (htaken h hh)⟩
  | returned taken => exact isOver_perform h e

/-- What others do keeps it. -/
theorem StopStage.Suits.around (h : stage.Suits l) {surroundings : Surroundings}
    (hextends : Extends l.shutdown surroundings.shutdown) (htree : l.shutdown.IsTree)
    (htree' : surroundings.shutdown.IsTree) :
    stage.Suits { l with toSurroundings := surroundings } := by
  cases stage with
  | ahead => exact h
  | joining => exact ⟨h.1, hextends.isCancelled htree htree' h.2⟩
  | awaiting taken => exact ⟨h.1, hextends.isCancelled htree htree' h.2.1, h.2.2⟩
  | returned taken => exact h

/-- How many steps of a stop are left. -/
def StopStage.left : StopStage → Nat
  | .ahead => 3
  | .joining => 2
  | .awaiting _ => 1
  | .returned _ => 0

/-- No connection gets lost. -/
theorem connections_le_perform (l : Listener) (e : Event) :
    l.connections.length ≤ (l.perform e).connections.length := by
  have hmore := (path_perform l e).reserved.1
  have hlength (l : Listener) : l.roster.closes.length = l.connections.length := List.length_map _
  rwa [hlength, hlength] at hmore

/-- The first step of a stop cancels the listener. -/
theorem isCancelled_cancelAll (htoken : l.token < l.shutdown.tokens.length) :
    l.cancelAll.shutdown.isCancelled l.cancelAll.token = true := by
  have hsheet : l.cancelAll.sheet = { l with shutdown := l.shutdown.cancel l.token }.sheet :=
    sheet_scheduleCancelled _
  rw [show l.cancelAll.shutdown = l.shutdown.cancel l.token from congrArg Sheet.shutdown hsheet,
    show l.cancelAll.token = l.token from congrArg Sheet.token hsheet]
  exact Shutdown.isCancelled_cancel htoken

/-- The second step leaves nobody in the set, and has to do with those who were in there. -/
theorem suits_drain (h : StopStage.Suits l .joining) (hgone : l.acceptor ≠ .accepting)
    (hl : l.Tied) : StopStage.Suits l.drain.2 (.awaiting l.outstanding) := by
  obtain ⟨hidle, hcancelled⟩ := h
  have hsheet := sheet_drain l
  have hhandshakes : l.drain.2.handshakes = l.handshakes := congrArg Sheet.handshakes hsheet
  have hplaces : l.drain.2.roster.places = l.roster.places :=
    congrArg (List.map fun x : Accepted => Place.mk x.connection x.phase.stand) hhandshakes
  have hdropped : l.acceptor = .dropped := by
    cases hacceptor : l.acceptor with
    | idle => exact absurd hacceptor hidle
    | accepting => exact absurd hacceptor hgone
    | dropped => rfl
  refine ⟨⟨?_, congrArg Sheet.outstanding hsheet⟩, ?_, fun h hh => ?_⟩
  · unfold drain
    rw [if_neg hidle]
    exact hdropped
  · rw [show l.drain.2.shutdown = l.shutdown from congrArg Sheet.shutdown hsheet,
      show l.drain.2.token = l.token from congrArg Sheet.token hsheet]
    exact hcancelled
  · obtain ⟨c, hc⟩ := hl.pending h hh
    exact ⟨c, .pending, hplaces ▸ hc, rfl⟩

/-- When the last step of a stop has been made, it is over with the listener. -/
theorem isOver_conclude {taken : List HandshakeId} (h : StopStage.Suits l (.awaiting taken)) :
    (l.conclude taken).toListenerState.IsOver := by
  obtain ⟨hempty, -, -⟩ := h
  obtain ⟨hacceptor, houtstanding⟩ := (path_perform l (.conclude taken)).emptied hempty
  refine ⟨hacceptor, houtstanding, ?_⟩
  rw [conclude_eq]
  exact ListenerStatus.isFinal_advance_terminated _

/-! ## The stop of one listener comes to its end -/

/-- What a listener needs so that a stop can wait for it. -/
structure Attainable (l : Listener) (calls : List Shutdown.Call) (stage : StopStage) : Prop where
  agrees : Agrees calls l.shutdown
  token : l.HasToken
  tied : l.Tied
  suits : stage.Suits l

/-- An event that leaves the root alone keeps the end of a stop attainable. -/
theorem Attainable.perform (h : Attainable l calls stage) (he : e.sparesRoot = true) :
    Attainable (l.perform e) calls stage := by
  have hagrees := agrees_perform h.token he h.agrees
  exact ⟨hagrees, h.token.perform e, h.tied.perform e, h.suits.perform h.agrees.tree hagrees.tree⟩

/-- A handshake whose entry was taken goes on until it is over. -/
theorem Attainable.exists_turn {taken : List HandshakeId} {h : HandshakeId} {x : Accepted}
    (hl : Attainable l calls (.awaiting taken)) (hh : h ∈ taken)
    (hx : l.handshakes[h]? = some x) (hended : l.hasEnded h = false) :
    ∃ e phase, e.isOwn = true ∧ e.sparesRoot = true ∧
      (l.perform e).handshakes[h]? = some { x with phase } ∧ phase.turns < x.phase.turns := by
  obtain ⟨⟨-, hout⟩, hcancelled, hhome⟩ := hl.suits
  obtain ⟨c, stand, hplace, hstand⟩ := hhome h hh
  have hmine := places_roster l hx
  obtain rfl : stand = x.phase.stand :=
    congrArg Place.stand (Option.some.inj (hplace.symm.trans hmine))
  have hknown := (hl.tied.placed.known x.connection (List.mem_append_left _
    (List.mem_map_of_mem (f := Place.connection) (List.mem_of_getElem? hmine)))).2
  rw [show l.roster.closes.length = l.connections.length from List.length_map _] at hknown
  have hbelow := hl.tied.below x.token (List.mem_map_of_mem (List.mem_of_getElem? hx))
  exact Listener.exists_turn hx hstand hended hknown
    (hl.agrees.tree.isCancelled_of_reaches hcancelled hbelow) hout

/-- It can come to its end. -/
theorem Attainable.exists_ended {taken : List HandshakeId} {h : HandshakeId} {x : Accepted}
    {n : Nat} (hl : Attainable l calls (.awaiting taken)) (hh : h ∈ taken)
    (hx : l.handshakes[h]? = some x) (hn : x.phase.turns ≤ n) : ∃ events : List Event,
      (∀ e ∈ events, e.isOwn = true ∧ e.sparesRoot = true) ∧
        (events.foldl Listener.perform l).hasEnded h = true := by
  induction n generalizing l x with
  | zero =>
    cases hended : l.hasEnded h with
    | true => exact ⟨[], fun e he => absurd he List.not_mem_nil, hended⟩
    | false =>
      obtain ⟨e, phase, -, -, -, hless⟩ := hl.exists_turn hh hx hended
      exact absurd (Nat.lt_of_lt_of_le hless hn) (Nat.not_lt_zero _)
  | succ n ih =>
    cases hended : l.hasEnded h with
    | true => exact ⟨[], fun e he => absurd he List.not_mem_nil, hended⟩
    | false =>
      obtain ⟨e, phase, hown, hspares, hx', hless⟩ := hl.exists_turn hh hx hended
      obtain ⟨events, hevents, hover⟩ := ih (hl.perform hspares) hx'
        (Nat.le_of_lt_succ (Nat.lt_of_lt_of_le hless hn))
      exact ⟨e :: events, List.forall_mem_cons.mpr ⟨⟨hown, hspares⟩, hevents⟩, hover⟩

/-- Events of the listener that leave the root alone keep the end of a stop attainable. -/
theorem Attainable.extend (hl : Attainable l calls stage) {events : List Event}
    (hevents : ∀ e ∈ events, e.isOwn = true ∧ e.sparesRoot = true) :
    Attainable (events.foldl Listener.perform l) calls stage := by
  induction events generalizing l with
  | nil => exact hl
  | cons e events ih =>
    obtain ⟨⟨-, he⟩, hrest⟩ := List.forall_mem_cons.mp hevents
    exact ih (hl.perform he) hrest

theorem hasEnded_foldl {h : HandshakeId} (hl : l.hasEnded h = true) (events : List Event) :
    (events.foldl Listener.perform l).hasEnded h = true := by
  induction events generalizing l with
  | nil => exact hl
  | cons e events ih => exact ih (hasEnded_perform hl e)

/-- All of them can come to their end, one after another. -/
theorem Attainable.exists_all_ended {taken : List HandshakeId}
    (hl : Attainable l calls (.awaiting taken)) {hs : List HandshakeId} (hsub : hs ⊆ taken) :
    ∃ events : List Event, (∀ e ∈ events, e.isOwn = true ∧ e.sparesRoot = true) ∧
      ∀ h ∈ hs, (events.foldl Listener.perform l).hasEnded h = true := by
  induction hs with
  | nil => exact ⟨[], fun e he => absurd he List.not_mem_nil, fun h hh => absurd hh List.not_mem_nil⟩
  | cons h hs ih =>
    obtain ⟨hh, hrest⟩ := List.cons_subset.mp hsub
    obtain ⟨events, hevents, hover⟩ := ih hrest
    have hafter := hl.extend hevents
    obtain ⟨c, stand, hplace, -⟩ := hafter.suits.2.2 h hh
    obtain ⟨x, hx, -⟩ := exists_of_place hplace
    obtain ⟨more, hmore, hlast⟩ := hafter.exists_ended hh hx (Nat.le_refl _)
    refine ⟨events ++ more, fun e he => (List.mem_append.mp he).elim (hevents e) (hmore e),
      fun i hi => ?_⟩
    rw [List.foldl_append]
    obtain rfl | hi := List.mem_cons.mp hi
    · exact hlast
    · exact hasEnded_foldl (hover i hi) more

end Diameter.Listener

namespace Diameter.Daemon.Closedown

open Listener (Attainable Event StopStage Tied)
open Shutdown (Extends)

variable {k k' : Closedown} {calls calls' : List Shutdown.Call}

/-! ## All listeners -/

/-- What holds of all listeners and their stops. -/
structure Halted (k : Closedown) : Prop where
  /-- Every listener has its stop. -/
  length : k.stops.length = k.registry.listeners.length
  /-- Every listener is as far as its stop says. -/
  suits : ∀ (i : Nat) (x : Registered) (stage : StopStage), k.registry.listeners[i]? = some x →
    k.stops[i]? = some stage → stage.Suits ⟨x.state, k.surroundings⟩
  /-- The handshakes of each are tied to it. -/
  tied : ∀ x ∈ k.registry.listeners, Tied ⟨x.state, k.surroundings⟩
  /-- Every listener was started. -/
  begun : ∀ x ∈ k.registry.listeners, x.state.status ≠ .notStarted

/-- What others do leaves it so. -/
theorem Halted.around (hk : k.Halted) (hguarded : k.Guarded calls) (hguarded' : k'.Guarded calls')
    (hlisteners : k'.registry.listeners = k.registry.listeners) (hstops : k'.stops = k.stops)
    (hextends : Extends k.surroundings.shutdown k'.surroundings.shutdown)
    (hconnections : k'.surroundings.connections = k.surroundings.connections) : k'.Halted := by
  refine ⟨?_, fun i x stage hx hstage => ?_, fun x hx => ?_, ?_⟩
  · rw [hstops, hlisteners]
    exact hk.length
  · rw [hlisteners] at hx
    rw [hstops] at hstage
    exact StopStage.Suits.around (l := ⟨x.state, k.surroundings⟩) (hk.suits i x stage hx hstage)
      hextends hguarded.agrees.tree hguarded'.agrees.tree
  · rw [hlisteners] at hx
    exact Tied.around (l := ⟨x.state, k.surroundings⟩) (hk.tied x hx) hextends
      (Nat.le_of_eq (congrArg List.length hconnections).symm)
  · rw [hlisteners]
    exact hk.begun

/-- Every event of a listener keeps it. -/
theorem Halted.perform (hk : k.Halted) (hguarded : k.Guarded calls) (i : Nat) {e : Event}
    (he : e.sparesRoot = true) : (k.perform i e).Halted := by
  have hguarded' := hguarded.perform i he
  rcases hx : k.registry.listeners[i]? with _ | x
  · rw [perform_of_none hx]
    exact hk
  · have hmem := List.mem_of_getElem? hx
    have htree := hguarded.agrees.tree
    have htree' := hguarded'.agrees.tree
    have hextends := k.extends_perform i e
    have hmore := Listener.connections_le_perform ⟨x.state, k.surroundings⟩ e
    rw [perform_of_some hx] at htree' hextends ⊢
    refine ⟨hk.length.trans (List.length_set ..).symm, fun j y stage hy hstage => ?_,
      fun y hy => ?_, fun y hy => ?_⟩
    · obtain ⟨rfl, rfl⟩ | ⟨-, hother⟩ := Listener.getElem?_set_cases hy
      · exact (hk.suits _ x stage hx hstage).perform htree htree'
      · exact (hk.suits j y stage hother hstage).around hextends htree htree'
    · obtain hy | rfl := List.mem_or_eq_of_mem_set hy
      · exact (hk.tied y hy).around hextends hmore
      · exact (hk.tied x hmem).perform e
    · obtain hy | rfl := List.mem_or_eq_of_mem_set hy
      · exact hk.begun y hy
      · exact Listener.status_perform_ne_notStarted (l := ⟨x.state, k.surroundings⟩)
          (hk.begun x hmem) e

/-- A stop goes on to a stage that suits. -/
theorem Halted.set (hk : k.Halted) {i : Nat} {stage : StopStage}
    (hstage : ∀ x, k.registry.listeners[i]? = some x → stage.Suits ⟨x.state, k.surroundings⟩) :
    Halted { k with stops := k.stops.set i stage } := by
  refine ⟨(List.length_set ..).trans hk.length, fun j x other hx hother => ?_, hk.tied, hk.begun⟩
  obtain ⟨rfl, rfl⟩ | ⟨-, hbefore⟩ := Listener.getElem?_set_cases hother
  · exact hstage x hx
  · exact hk.suits j x other hx hbefore

/-- What is known of the listener after an event of it. -/
theorem getElem?_perform {i : Nat} {x y : Registered} {e : Event}
    (hx : k.registry.listeners[i]? = some x)
    (hy : (k.perform i e).registry.listeners[i]? = some y) :
    (⟨y.state, (k.perform i e).surroundings⟩ : Listener) =
      (⟨x.state, k.surroundings⟩ : Listener).perform e := by
  rw [perform_of_some hx] at hy ⊢
  replace hy : (k.registry.listeners.set i _)[i]? = some y := hy
  rw [List.getElem?_set_self (List.getElem?_eq_some_iff.mp hx).1] at hy
  obtain rfl := Option.some.inj hy
  rfl

/-- The listener to which something happens is the one to which it has happened. -/
theorem listener?_perform {i : Nat} {l : Listener} (hl : k.registry.listener? i = some l)
    (e : Event) : (k.perform i e).registry.listener? i = some (l.perform e) :=
  (Registry.listener?_modify k.registry i (·.perform e)).trans (congrArg _ hl)

/-- A stop that goes on keeps it. -/
theorem Halted.stop (hk : k.Halted) (hguarded : k.Guarded calls) (i : Nat) :
    (k.stop i).Halted := by
  unfold Closedown.stop
  split
  · next l stage hl hstage =>
    obtain ⟨x, hx, rfl⟩ := Option.map_eq_some_iff.mp hl
    have hmem := List.mem_of_getElem? hx
    have hsuits := hk.suits i x stage hx hstage
    have htoken := hguarded.tokens x hmem
    cases stage with
    | ahead =>
      dsimp only
      split
      · exact hk
      · refine (hk.perform hguarded i rfl).set fun y hy => ?_
        rw [getElem?_perform hx hy]
        exact ⟨(Listener.path_perform _ .cancelAll).started hsuits,
          Listener.isCancelled_cancelAll htoken.known⟩
    | joining =>
      dsimp only
      split
      · exact hk
      · next hgone =>
        refine (hk.perform hguarded i rfl).set fun y hy => ?_
        rw [getElem?_perform hx hy]
        exact Listener.suits_drain hsuits hgone (hk.tied x hmem)
    | awaiting taken =>
      dsimp only
      split
      · refine (hk.perform hguarded i rfl).set fun y hy => ?_
        have hover : ((⟨x.state, k.surroundings⟩ : Listener).conclude taken).toListenerState.IsOver :=
          Listener.isOver_conclude hsuits
        rw [show (⟨x.state, k.surroundings⟩ : Listener).conclude taken =
          ⟨y.state, (k.perform i (.conclude taken)).surroundings⟩ from
            (getElem?_perform hx hy).symm] at hover
        exact hover
      · exact hk
    | returned taken => exact hk
  · exact hk

theorem connections_tell (s : Surroundings) (crossing : Option (Queue.Crossing String)) :
    (s.tell crossing).connections = s.connections := by
  cases crossing <;> rfl

/-- What goes on beside the consumer and the wait keeps it. -/
theorem Halted.beside (hk : k.Halted) (hguarded : k.Guarded calls) {m : Move}
    (hm : m.isBeside = true) (hroot : m.sparesRoot = true) : (k.next m).Halted := by
  have hguarded' := hguarded.beside hm hroot
  cases m with
  | listener i e =>
    unfold Closedown.next
    dsimp only
    split
    · exact hk.perform hguarded i hroot
    · exact hk
  | stop i =>
    unfold Closedown.next
    dsimp only
    split
    · exact hk.stop hguarded i
    · exact hk
  | turn c =>
    exact hk.around hguarded hguarded' rfl rfl (k.untouched_turn c).extends_shutdown
      (connections_tell _ _)
  | arrange runnable => exact hk.around hguarded hguarded' rfl rfl (.refl _) rfl
  | trigger reason =>
    exact hk.around hguarded hguarded' rfl rfl (Shutdown.extends_trigger _ reason) rfl
  | consume overlooks | wait => cases hm

/-- One more listener is enrolled, or another one stands for it. -/
theorem Halted.enrol (hk : k.Halted) {network : Network} {secured : Bool} {terms : AcceptTerms}
    {e : Endpoint} {r : Registry}
    (hone : k.registry.startOne network secured terms e = .ok r) : (k.enrol r).Halted := by
  have hstarted : ∀ x ∈ k.registry.listeners, x.state.acceptor ≠ .idle := fun x hx => by
    obtain ⟨i, hi, hget⟩ := List.mem_iff_getElem.mp hx
    have hlt : i < k.stops.length := hk.length ▸ hi
    exact (hk.suits i x k.stops[i] (List.getElem?_eq_some_iff.mpr ⟨hi, hget⟩)
      (List.getElem?_eq_getElem hlt)).started
  have hahead (hall : ∀ x ∈ r.listeners, x.state.acceptor ≠ .idle)
      (htied : ∀ x ∈ r.listeners, Tied ⟨x.state, r.surroundings⟩)
      (hbegun : ∀ x ∈ r.listeners, x.state.status ≠ .notStarted) : (k.enrol r).Halted := by
    refine ⟨List.length_map _, fun i x stage hx hstage => ?_, htied, hbegun⟩
    replace hstage : (r.listeners.map fun _ => StopStage.ahead)[i]? = some stage := hstage
    rw [List.getElem?_map] at hstage
    obtain ⟨_, -, rfl⟩ := Option.map_eq_some_iff.mp hstage
    exact hall x (List.mem_of_getElem? hx)
  obtain ⟨-, -, -, -, rfl⟩ | ⟨taken, -, rfl⟩ := Registry.exists_of_startOne hone
  · exact hahead hstarted hk.tied hk.begun
  · have hextends := k.surroundings.shutdown.extends_child Shutdown.root
    refine hahead (fun x hx => ?_) (fun x hx => ?_) fun x hx => ?_
    all_goals obtain hx | hx := List.mem_append.mp hx
    · exact hstarted x hx
    · obtain rfl := List.mem_singleton.mp hx
      nofun
    · exact (hk.tied x hx).around hextends (Nat.le_refl _)
    · obtain rfl := List.mem_singleton.mp hx
      exact ⟨⟨List.nodup_nil, fun c hc => absurd hc List.not_mem_nil, Nat.zero_le _⟩,
        fun t ht => absurd ht List.not_mem_nil, fun h hh => absurd hh List.not_mem_nil⟩
    · exact hk.begun x hx
    · obtain rfl := List.mem_singleton.mp hx
      nofun

/-- When all stops have returned, it is over with all listeners. -/
theorem Halted.isOver (hk : k.Halted) (hstops : k.hasStopped = true) :
    ∀ x ∈ k.registry.listeners, x.state.IsOver := by
  intro x hx
  obtain ⟨i, hi, hget⟩ := List.mem_iff_getElem.mp hx
  have hlt : i < k.stops.length := hk.length ▸ hi
  have hsuits := hk.suits i x k.stops[i] (List.getElem?_eq_some_iff.mpr ⟨hi, hget⟩)
    (List.getElem?_eq_getElem hlt)
  have hreturned := List.all_eq_true.mp hstops k.stops[i] (List.getElem_mem hlt)
  cases hs : k.stops[i] with
  | returned taken =>
    rw [hs] at hsuits
    exact hsuits
  | _ =>
    rw [hs] at hreturned
    cases hreturned

/-! ## All stops come to their end -/

/-- A daemon whose listeners are being stopped. -/
structure Halts (k : Closedown) (calls : List Shutdown.Call) : Prop where
  stage : k.stage = .stopping
  guarded : k.Guarded calls
  halted : k.Halted

/-- What happens beside the wait leaves how far it has come. -/
theorem stage_next {m : Move} (hm : m.isBeside = true) : (k.next m).stage = k.stage := by
  obtain ⟨i, e, stops, hnext⟩ | ⟨surroundings, hnext⟩ := beside_cases k hm
  all_goals
    rw [hnext]
    rfl

/-- What every move keeps that is beside the end and spares the root holds after all of them. -/
theorem extend_beside_induction {P : Closedown → Prop} (hk : P k)
    (step : ∀ k m, m.isBeside = true → m.sparesRoot = true → P k → P (k.next m)) {moves : List Move}
    (hmoves : ∀ m ∈ moves, m.isBeside = true ∧ m.sparesRoot = true) : P (k.extend moves) := by
  induction moves generalizing k with
  | nil => exact hk
  | cons m moves ih =>
    obtain ⟨⟨hm, hroot⟩, hrest⟩ := List.forall_mem_cons.mp hmoves
    exact ih (step k m hm hroot hk) hrest

/-- That every stop can still return is kept by moves beside the wait that leave the root alone.
-/
theorem Halts.extend (hk : k.Halts calls) {moves : List Move}
    (hmoves : ∀ m ∈ moves, m.isBeside = true ∧ m.sparesRoot = true) :
    (k.extend moves).Halts calls :=
  extend_beside_induction (P := fun k => k.Halts calls) hk
    (fun _ _ hm hroot hk => ⟨(stage_next hm).trans hk.stage, hk.guarded.beside hm hroot,
      hk.halted.beside hk.guarded hm hroot⟩) hmoves

/-- A stop that has returned does nothing more. -/
theorem stop_of_returned {i : Nat} {taken : List Listener.HandshakeId}
    (hi : k.stops[i]? = some (.returned taken)) : k.stop i = k := by
  unfold Closedown.stop
  rw [hi]
  cases k.registry.listener? i <;> rfl

/-- At most one stop goes on, and none that has returned. -/
theorem stops_next (k : Closedown) {m : Move} (hm : m.isBeside = true) :
    (k.next m).stops = k.stops ∨ ∃ i stage, (∀ taken, k.stops[i]? ≠ some (.returned taken)) ∧
      (k.next m).stops = k.stops.set i stage := by
  cases m with
  | stop i =>
    unfold Closedown.next
    dsimp only
    split
    · by_cases hover : ∃ taken, k.stops[i]? = some (.returned taken)
      · obtain ⟨taken, hi⟩ := hover
        exact .inl (congrArg Closedown.stops (stop_of_returned hi))
      · obtain hsame | ⟨e, stage, -, hperform⟩ := stop_cases k i
        · exact .inl (congrArg Closedown.stops hsame)
        · exact .inr ⟨i, stage, fun taken hi => hover ⟨taken, hi⟩,
            congrArg Closedown.stops hperform⟩
    · exact .inl rfl
  | listener i e =>
    unfold Closedown.next
    dsimp only
    split <;> exact .inl rfl
  | turn c | arrange runnable | trigger reason => exact .inl rfl
  | consume overlooks | wait => cases hm

/-- A stop that has returned has returned for good. -/
theorem returned_extend {i : Nat} {taken : List Listener.HandshakeId} {moves : List Move}
    (hmoves : ∀ m ∈ moves, m.isBeside = true ∧ m.sparesRoot = true)
    (hi : k.stops[i]? = some (.returned taken)) :
    (k.extend moves).stops[i]? = some (.returned taken) := by
  refine extend_beside_induction (P := fun k => k.stops[i]? = some (.returned taken)) hi
    (fun k m hm _ hi => ?_) hmoves
  obtain hsame | ⟨j, stage, hgoes, hset⟩ := stops_next k hm
  · rwa [hsame]
  · have hji : j ≠ i := by
      rintro rfl
      exact hgoes taken hi
    rw [hset, List.getElem?_set_ne hji]
    exact hi

/-- No move beside the wait adds a stop. -/
theorem length_stops_extend {moves : List Move}
    (hmoves : ∀ m ∈ moves, m.isBeside = true ∧ m.sparesRoot = true) :
    (k.extend moves).stops.length = k.stops.length := by
  refine extend_beside_induction (P := fun k' => k'.stops.length = k.stops.length) rfl
    (fun k' m hm _ hlength => Eq.trans ?_ hlength) hmoves
  obtain hsame | ⟨j, stage, -, hset⟩ := stops_next k' hm
  · rw [hsame]
  · rw [hset, List.length_set]

/-- Events of one listener. -/
theorem extend_listener {i : Nat} {l : Listener} (hl : k.registry.listener? i = some l)
    {events : List Event} (hevents : ∀ e ∈ events, e.isOwn = true ∧ e.sparesRoot = true) :
    (k.extend (events.map (.listener i))).registry.listener? i =
        some (events.foldl Listener.perform l) ∧
      (k.extend (events.map (.listener i))).stops = k.stops := by
  induction events generalizing k l with
  | nil => exact ⟨hl, rfl⟩
  | cons e events ih =>
    obtain ⟨⟨hown, -⟩, hrest⟩ := List.forall_mem_cons.mp hevents
    have hnext : k.next (.listener i e) = k.perform i e := if_pos hown
    rw [List.map_cons, show k.extend (.listener i e :: events.map (.listener i)) =
      (k.next (.listener i e)).extend (events.map (.listener i)) from rfl, hnext]
    exact ih (listener?_perform hl e) hrest

/-- While the wait stops listeners, a step of a stop is one of its moves. -/
theorem next_stop (hstage : k.stage = .stopping) (i : Nat) : k.next (.stop i) = k.stop i :=
  if_pos (by rw [hstage])

/-- What a stop of a listener can wait for. -/
theorem Halts.attainable (hk : k.Halts calls) {i : Nat} {l : Listener} {stage : StopStage}
    (hl : k.registry.listener? i = some l) (hstage : k.stops[i]? = some stage) :
    Attainable l calls stage := by
  obtain ⟨x, hx, rfl⟩ := Option.map_eq_some_iff.mp hl
  have hmem := List.mem_of_getElem? hx
  exact ⟨hk.guarded.agrees, hk.guarded.tokens x hmem, hk.halted.tied x hmem,
    hk.halted.suits i x stage hx hstage⟩

/-- A stop that waits for the loop goes on once the loop has seen that it is cancelled. -/
theorem exists_drained (hk : k.stage = .stopping) {i : Nat} {l : Listener}
    (hl : k.registry.listener? i = some l) (hstage : k.stops[i]? = some .joining)
    (hcancelled : l.shutdown.isCancelled l.token = true) :
    ∃ moves taken, (∀ m ∈ moves, m.isBeside = true ∧ m.sparesRoot = true) ∧
      (k.extend moves).stops[i]? = some (.awaiting taken) := by
  have hlt := (List.getElem?_eq_some_iff.mp hstage).1
  have hgone {k : Closedown} {l : Listener} (hk : k.stage = .stopping)
      (hl : k.registry.listener? i = some l) (hstage : k.stops[i]? = some .joining)
      (hgone : l.acceptor ≠ .accepting) :
      (k.next (.stop i)).stops[i]? = some (.awaiting l.outstanding) := by
    rw [next_stop hk]
    unfold Closedown.stop
    rw [hl, hstage]
    dsimp only
    rw [if_neg hgone]
    exact List.getElem?_set_self (List.getElem?_eq_some_iff.mp hstage).1
  by_cases haccepting : l.acceptor = .accepting
  · have hlooks : ∀ e ∈ [Event.accept false], e.isOwn = true ∧ e.sparesRoot = true :=
      List.forall_mem_singleton.mpr ⟨rfl, rfl⟩
    obtain ⟨hafter, hstops⟩ := extend_listener hl hlooks
    have hdropped : (l.perform (.accept false)).acceptor = .dropped := by
      show (l.acceptSeeing (!false && l.shutdown.isCancelled l.token)).acceptor = .dropped
      rw [hcancelled, Listener.acceptSeeing_of_accepting haccepting]
      exact congrArg Prod.fst (Listener.gate_dropAcceptor l)
    have hmoves : ∀ m ∈ [Move.listener i (.accept false), .stop i],
        m.isBeside = true ∧ m.sparesRoot = true := by
      simp [Move.isBeside, Move.sparesRoot, Event.sparesRoot]
    refine ⟨[.listener i (.accept false), .stop i], _, hmoves,
      hgone ((stage_next rfl).trans hk) hafter (hstops ▸ hstage) ?_⟩
    exact hdropped ▸ nofun
  · exact ⟨[.stop i], _, List.forall_mem_singleton.mpr ⟨rfl, rfl⟩,
      hgone hk hl hstage haccepting⟩

/-- A stop that has not returned can go on. -/
theorem Halts.exists_further (hk : k.Halts calls) {i : Nat} {stage : StopStage}
    (hstage : k.stops[i]? = some stage) (hleft : 0 < stage.left) :
    ∃ moves stage', (∀ m ∈ moves, m.isBeside = true ∧ m.sparesRoot = true) ∧
      (k.extend moves).stops[i]? = some stage' ∧ stage'.left < stage.left := by
  have hlt := (List.getElem?_eq_some_iff.mp hstage).1
  obtain ⟨x, hx⟩ : ∃ x, k.registry.listeners[i]? = some x :=
    ⟨_, List.getElem?_eq_getElem (hk.halted.length ▸ hlt)⟩
  have hl : k.registry.listener? i = some ⟨x.state, k.surroundings⟩ := congrArg (Option.map _) hx
  have hattainable := hk.attainable hl hstage
  generalize (⟨x.state, k.surroundings⟩ : Listener) = l at hl hattainable
  have hone : ∀ m ∈ [Move.stop i], m.isBeside = true ∧ m.sparesRoot = true :=
    List.forall_mem_singleton.mpr ⟨rfl, rfl⟩
  cases stage with
  | ahead =>
    refine ⟨[.stop i], .joining, hone, ?_, Nat.lt_succ_self 2⟩
    show (k.next (.stop i)).stops[i]? = _
    rw [next_stop hk.stage]
    unfold Closedown.stop
    rw [hl, hstage]
    dsimp only
    rw [if_neg hattainable.suits]
    exact List.getElem?_set_self hlt
  | joining =>
    obtain ⟨moves, taken, hmoves, hdrained⟩ :=
      exists_drained hk.stage hl hstage hattainable.suits.2
    exact ⟨moves, _, hmoves, hdrained, Nat.lt_succ_self 1⟩
  | awaiting taken =>
    obtain ⟨events, hevents, hended⟩ := hattainable.exists_all_ended (List.Subset.refl taken)
    obtain ⟨hafter, hstops⟩ := extend_listener hl hevents
    have hmoves : ∀ m ∈ events.map (Move.listener i), m.isBeside = true ∧ m.sparesRoot = true :=
      List.forall_mem_map.mpr fun e he => ⟨rfl, (hevents e he).2⟩
    refine ⟨events.map (.listener i) ++ [.stop i], .returned taken,
      fun m hm => (List.mem_append.mp hm).elim (hmoves m) (hone m), ?_, Nat.lt_succ_self 0⟩
    rw [extend_append]
    show ((k.extend (events.map (.listener i))).next (.stop i)).stops[i]? = _
    rw [next_stop (hk.extend hmoves).stage]
    unfold Closedown.stop
    rw [hafter, hstops, hstage]
    dsimp only
    rw [if_pos (List.all_eq_true.mpr hended)]
    exact List.getElem?_set_self hlt
  | returned taken => cases hleft

/-- A stop can come to its end. -/
theorem Halts.exists_returned (hk : k.Halts calls) {i n : Nat} {stage : StopStage}
    (hstage : k.stops[i]? = some stage) (hn : stage.left ≤ n) :
    ∃ moves taken, (∀ m ∈ moves, m.isBeside = true ∧ m.sparesRoot = true) ∧
      (k.extend moves).stops[i]? = some (.returned taken) := by
  induction n generalizing k stage with
  | zero =>
    cases stage with
    | returned taken => exact ⟨[], taken, fun m hm => absurd hm List.not_mem_nil, hstage⟩
    | _ => cases hn
  | succ n ih =>
    by_cases hleft : 0 < stage.left
    · obtain ⟨moves, stage', hmoves, hstage', hless⟩ := hk.exists_further hstage hleft
      obtain ⟨more, taken, hmore, hreturned⟩ := ih (hk.extend hmoves) hstage'
        (Nat.le_of_lt_succ (Nat.lt_of_lt_of_le hless hn))
      refine ⟨moves ++ more, taken, fun m hm => (List.mem_append.mp hm).elim (hmoves m) (hmore m), ?_⟩
      rwa [extend_append]
    · exact ih hk hstage (Nat.le_trans (Nat.le_of_not_lt hleft) (Nat.zero_le n))

/-- All of them can, one after another. -/
theorem Halts.exists_stopped (hk : k.Halts calls) :
    ∃ moves, (∀ m ∈ moves, m.isBeside = true ∧ m.sparesRoot = true) ∧
      (k.extend moves).hasStopped = true := by
  have hfirst (n : Nat) (hn : n ≤ k.stops.length) :
      ∃ moves, (∀ m ∈ moves, m.isBeside = true ∧ m.sparesRoot = true) ∧
        ∀ i < n, ∃ taken, (k.extend moves).stops[i]? = some (.returned taken) := by
    induction n with
    | zero =>
      exact ⟨[], fun m hm => absurd hm List.not_mem_nil, fun i hi => absurd hi (Nat.not_lt_zero i)⟩
    | succ n ih =>
      obtain ⟨moves, hmoves, hreturned⟩ := ih (Nat.le_of_succ_le hn)
      have hlt : n < (k.extend moves).stops.length :=
        Nat.lt_of_lt_of_eq hn (length_stops_extend hmoves).symm
      obtain ⟨more, taken, hmore, hlast⟩ := (hk.extend hmoves).exists_returned
        (List.getElem?_eq_getElem hlt) (Nat.le_refl _)
      refine ⟨moves ++ more, fun m hm => (List.mem_append.mp hm).elim (hmoves m) (hmore m),
        fun i hi => ?_⟩
      rw [extend_append]
      obtain hbefore | rfl := Nat.lt_succ_iff_lt_or_eq.mp hi
      · exact (hreturned i hbefore).imp fun taken => returned_extend hmore
      · exact ⟨taken, hlast⟩
  obtain ⟨moves, hmoves, hreturned⟩ := hfirst k.stops.length (Nat.le_refl _)
  refine ⟨moves, hmoves, List.all_eq_true.mpr fun stage hstage => ?_⟩
  obtain ⟨i, hi, rfl⟩ := List.mem_iff_getElem.mp hstage
  obtain ⟨taken, htaken⟩ := hreturned i (Nat.lt_of_lt_of_eq hi (length_stops_extend hmoves))
  rw [(List.getElem?_eq_some_iff.mp htaken).2]

end Diameter.Daemon.Closedown
