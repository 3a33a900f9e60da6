import Diameter.Proofs.Daemon.Runs

/-!
# Every order in which the start of a daemon goes on

A daemon that is being started has its event queue and some of its listeners, and the clients
of these do not wait for the others. So between two listeners, and between two steps of giving
up after one that could not start, handshakes and hand-overs go on as they do when a daemon
comes to its end. The consumer is started last, so there is none yet.

Giving up takes the way of the wait for the end, but leaves out a part of it: the event queue
is not emptied before it is destroyed. If something is in there it cannot be destroyed, and
nobody asks what has come of that.

What the start does under the virtual clock, where nobody connects in between, is one of these
orders.
-/

namespace Diameter.Daemon

/-- How far the start of a daemon has come. -/
inductive StartStage where
  /-- The listeners of these endpoints are to be started. -/
  | listening (rest : List Endpoint)
  /-- The listener of this label could not start. Those before it are being stopped. -/
  | stopping (cause : ListenerError) (label : String)
  /-- The alarm is taken off next. -/
  | clearing (cause : ListenerError)
  /-- The event queue is destroyed next. -/
  | destroying (cause : ListenerError)
  /-- The queue is destroyed, and those who wait there are woken next. -/
  | waking (cause : ListenerError) (side : Queue.Side)
  /-- The start has failed. The result is what nobody asks for: whether the queue could be
  destroyed. -/
  | failed (cause : ListenerError) (result : Except QueueError Unit)
  /-- All listeners have been started. -/
  | started

/-- A daemon that is being started. -/
structure Startup where
  /-- The addresses to listen on. -/
  network : Network
  /-- Whether there are credentials. -/
  secured : Bool
  /-- How listeners treat connections. -/
  terms : AcceptTerms
  /-- The daemon so far. It is on its way to the end when a listener could not start. -/
  scene : Closedown
  /-- How far the start has come. -/
  stage : StartStage

/-- What happens next. -/
inductive StartMove where
  /-- Something goes on beside the start, which is neither the consumer nor a wait. -/
  | beside (move : Move)
  /-- The start goes on. -/
  | goOn

namespace Closedown

/-- These are the listeners now, and none of them is being stopped. -/
def enrol (k : Closedown) (r : Registry) : Closedown :=
  { k with daemon.registry := r, stops := r.listeners.map fun _ => .ahead }

end Closedown

namespace Startup

/-- The start goes on, if it need not wait. -/
def goOn (s : Startup) : Startup :=
  match s.stage with
  | .listening [] => { s with stage := .started }
  | .listening (e :: rest) =>
    match s.scene.registry.startOne s.network s.secured s.terms e with
    | .ok r => { s with scene := s.scene.enrol r, stage := .listening rest }
    | .error cause => { s with scene.stage := .stopping, stage := .stopping cause e.label }
  | .stopping cause label =>
    if s.scene.hasStopped then
      let shutdown := (s.scene.surroundings.shutdown.trigger (.listenerFailed label)).2
      { s with
        scene := s.scene.withSurroundings { s.scene.surroundings with shutdown }
        stage := .clearing cause }
    else s
  | .clearing cause =>
    { s with
      scene := s.scene.withEvents (s.scene.events.clearThresholds 0).2
      stage := .destroying cause }
  | .destroying cause =>
    match s.scene.events.close 0 with
    | (.ok _, events) =>
      { s with
        scene := { s.scene.withEvents events with stage := .waking .consumer }
        stage := .waking cause .consumer }
    | (.error e, events) =>
      { s with scene := s.scene.withEvents events, stage := .failed cause (.error e) }
  | .waking cause .consumer =>
    { s with
      scene := { s.scene.withEvents (s.scene.events.wakeAll 0 .consumer) with
        stage := .waking .producer }
      stage := .waking cause .producer }
  | .waking cause .producer =>
    { s with
      scene := { s.scene.withEvents (s.scene.events.wakeAll 0 .producer) with stage := .returned }
      stage := .failed cause (.ok ()) }
  | .failed _ _ => s
  | .started => s

/-- What a move leads to. -/
def next (s : Startup) : StartMove → Startup
  | .beside move => if move.isBeside then { s with scene := s.scene.next move } else s
  | .goOn => s.goOn

/-- What moves lead to. -/
def extend (s : Startup) (moves : List StartMove) : Startup := moves.foldl next s

/-- The start of a daemon whose event queue has been set up. -/
def start (network : Network) (secured : Bool) (settings : Settings)
    (surroundings : Surroundings) : Startup where
  network := network
  secured := secured
  terms := Daemon.terms settings.timeouts
  scene := .start ⟨⟨[], surroundings⟩, ⟨Shutdown.root, false, 0⟩⟩
  stage := .listening settings.listener.plan

theorem extend_append (s : Startup) (moves more : List StartMove) :
    s.extend (moves ++ more) = (s.extend moves).extend more := List.foldl_append

/-- What every move keeps holds after all moves. -/
theorem extend_induction {P : Startup → Prop} {s : Startup} (hs : P s)
    (step : ∀ s m, P s → P (s.next m)) (moves : List StartMove) : P (s.extend moves) := by
  induction moves generalizing s with
  | nil => exact hs
  | cons m moves ih => exact ih (step s m hs)

/-! ## The virtual clock -/

/-- Moves beside the start are moves of the daemon so far. -/
theorem extend_beside (s : Startup) {moves : List Move} (hm : ∀ m ∈ moves, m.isBeside = true) :
    s.extend (moves.map .beside) = { s with scene := s.scene.extend moves } := by
  induction moves generalizing s with
  | nil => rfl
  | cons m moves ih =>
    have hone : s.next (.beside m) = { s with scene := s.scene.next m } :=
      if_pos (hm m List.mem_cons_self)
    have hrest := ih (s.next (.beside m)) fun m' hm' => hm m' (List.mem_cons_of_mem _ hm')
    rw [hone] at hrest
    rw [List.map_cons, show s.extend (.beside m :: moves.map .beside) =
      (s.next (.beside m)).extend (moves.map .beside) from rfl, hone]
    exact hrest

/-- Listeners start one after another, until one of them cannot. -/
theorem exists_moves_of_startAll {endpoints : List Endpoint} {cause : ListenerError}
    {r : Registry} {s : Startup} (hterms : s.terms.peers = .events)
    (hfresh : s.scene.registry.Fresh) (henrol : s.scene.enrol s.scene.registry = s.scene)
    (hstage : s.stage = .listening endpoints)
    (h : Registry.startAll s.network s.secured s.terms endpoints s.scene.registry =
      (.error cause, r)) :
    ∃ (moves : List StartMove) (label : String) (before : Registry),
      s.extend moves = { s with
        scene := { s.scene.enrol before with stage := .stopping }
        stage := .stopping cause label } ∧
      before.Fresh ∧ r = (before.stop.trigger (.listenerFailed label)).2 := by
  induction endpoints generalizing s with
  | nil => cases (Prod.mk.inj h).1
  | cons e rest ih =>
    rcases hone : s.scene.registry.startOne s.network s.secured s.terms e with error | after
    · rw [Registry.startAll, hone] at h
      obtain ⟨herror, rfl⟩ := Prod.mk.inj h
      obtain rfl := Except.error.inj herror
      have hnext : s.goOn = { s with scene.stage := .stopping, stage := .stopping error e.label } := by
        unfold goOn
        rw [hstage]
        dsimp only
        rw [hone]
      refine ⟨[.goOn], e.label, s.scene.registry, ?_, hfresh, rfl⟩
      rw [henrol]
      exact hnext
    · rw [Registry.startAll, hone] at h
      have hnext : s.goOn = { s with scene := s.scene.enrol after, stage := .listening rest } := by
        unfold goOn
        rw [hstage]
        dsimp only
        rw [hone]
      obtain ⟨moves, label, before, hmoves, hrest⟩ := ih (s := s.goOn) (by rw [hnext]; exact hterms)
        (by rw [hnext]; exact hfresh.startOne hterms hone) (by rw [hnext]; rfl) (by rw [hnext])
        (by rw [hnext]; exact h)
      refine ⟨.goOn :: moves, label, before, ?_, hrest⟩
      rw [show s.extend (.goOn :: moves) = s.goOn.extend moves from rfl, hmoves, hnext]
      rfl

/-- The listeners that were started are stopped, and the shutdown is raised. -/
theorem exists_moves_of_stop {cause : ListenerError} {label : String} {s : Startup}
    (hstage : s.stage = .stopping cause label) (hstopping : s.scene.stage = .stopping)
    (hfresh : s.scene.registry.Fresh) (henrol : s.scene.enrol s.scene.registry = s.scene) :
    ∃ moves, (s.extend moves).stage = .clearing cause ∧ (s.extend moves).scene.registry =
      (s.scene.registry.stop.trigger (.listenerFailed label)).2 := by
  have hstops : s.scene.stops = s.scene.registry.listeners.map fun _ => .ahead :=
    (congrArg Closedown.stops henrol).symm
  obtain ⟨stopping, hmoves, hbeside, hstopped⟩ := Closedown.Comes.stoppedAll hstopping
    (fun x hx h => by rw [(hfresh.listeners x hx).acceptor] at h; cases h)
    (Registry.stopsInTime_of_fresh hfresh) (by rw [hstops, List.length_map])
    (fun stage hstage => by
      rw [hstops] at hstage
      obtain ⟨_, -, rfl⟩ := List.mem_map.mp hstage
      rfl)
  let raised : Startup :=
    { s with
      scene := (s.scene.extend stopping).withSurroundings
        { (s.scene.extend stopping).surroundings with
          shutdown := ((s.scene.extend stopping).surroundings.shutdown.trigger
            (.listenerFailed label)).2 }
      stage := .clearing cause }
  have hraised : s.extend (stopping.map .beside ++ [.goOn]) = raised := by
    rw [extend_append, extend_beside s hmoves]
    show goOn _ = raised
    unfold goOn
    rw [hstage]
    exact if_pos hstopped
  have hregistry : (s.scene.extend stopping).registry = s.scene.registry.stop := hbeside.registry
  obtain ⟨told, htold, hcancelled⟩ := Registry.leads_modifyAll
    (Registry.leads_modify Listener.runs_scheduleCancelled) _ raised.scene rfl
  refine ⟨stopping.map .beside ++ [.goOn] ++ told.map .beside, ?_⟩
  rw [extend_append, hraised, extend_beside raised htold]
  refine ⟨rfl, hcancelled.registry.trans ?_⟩
  rw [← hregistry]
  rfl

/-- The event queue is given up: it is destroyed if it can be. -/
theorem exists_moves_of_abandonEvents {cause : ListenerError} {s : Startup}
    (hstage : s.stage = .clearing cause) : ∃ moves result,
      (s.extend moves).stage = .failed cause result ∧ (s.extend moves).scene.registry =
        { s.scene.registry with surroundings := abandonEvents s.scene.surroundings } := by
  let cleared : Startup :=
    { s with
      scene := s.scene.withEvents (s.scene.events.clearThresholds 0).2
      stage := .destroying cause }
  have hcleared : s.goOn = cleared := by
    unfold goOn
    rw [hstage]
  rcases hclose : (s.scene.events.clearThresholds 0).2.close 0 with ⟨e | done, events⟩
  · have hgiven : cleared.goOn =
        { cleared with
          scene := cleared.scene.withEvents events
          stage := .failed cause (.error e) } := by
      unfold goOn
      dsimp only [cleared]
      rw [show (s.scene.withEvents (s.scene.events.clearThresholds 0).2).events.close 0 =
        (.error e, events) from hclose]
    have habandon : abandonEvents s.scene.surroundings = { s.scene.surroundings with events } := by
      unfold abandonEvents Queue.System.destroy
      dsimp only
      rw [show (s.scene.surroundings.events.clearThresholds 0).2.close 0 = (.error e, events)
        from hclose]
    refine ⟨[.goOn, .goOn], .error e, ?_⟩
    rw [show s.extend [.goOn, .goOn] = s.goOn.goOn from rfl, hcleared, hgiven, habandon]
    exact ⟨rfl, rfl⟩
  · have hclosed : cleared.goOn = { cleared with
        scene := { cleared.scene.withEvents events with stage := .waking .consumer }
        stage := .waking cause .consumer } := by
      unfold goOn
      dsimp only [cleared]
      rw [show (s.scene.withEvents (s.scene.events.clearThresholds 0).2).events.close 0 =
        (.ok done, events) from hclose]
    have habandon : abandonEvents s.scene.surroundings = { s.scene.surroundings with
        events := (events.wakeAll 0 .consumer).wakeAll 0 .producer } := by
      unfold abandonEvents Queue.System.destroy
      dsimp only
      rw [show (s.scene.surroundings.events.clearThresholds 0).2.close 0 = (.ok done, events)
        from hclose]
    refine ⟨[.goOn, .goOn, .goOn, .goOn], .ok (), ?_⟩
    rw [show s.extend [.goOn, .goOn, .goOn, .goOn] = s.goOn.goOn.goOn.goOn from rfl, hcleared,
      hclosed, habandon]
    exact ⟨rfl, rfl⟩

/-- Where the start of a daemon fails because of a listener, moves come to a failure because of
this listener, and to what is left then. -/
theorem exists_moves_of_start {machine : Machine} {settings : Settings} {shutdown : Shutdown}
    {cause : ListenerError} {r : Registry}
    (h : Daemon.start machine settings shutdown = (.error (.listener cause), r)) :
    ∃ surroundings secured moves result,
      Daemon.prepare settings.queues shutdown = .ok surroundings ∧
      ((start machine.network secured settings surroundings).extend moves).stage =
        .failed cause result ∧
      ((start machine.network secured settings surroundings).extend moves).scene.registry = r := by
  obtain ⟨_, -, herror⟩ | ⟨_, -, herror⟩ | ⟨surroundings, credentials, error, left, hprepare, -,
    hregistry, herror, rfl⟩ := Daemon.start_error_cases h
  · cases herror
  · cases herror
  · obtain rfl := DaemonError.listener.inj herror
    let s := start machine.network credentials.isSome settings surroundings
    obtain ⟨listening, label, before, hlistening, hfresh, rfl⟩ :=
      exists_moves_of_startAll (s := s) rfl (fresh_of_prepare hprepare) rfl rfl hregistry
    obtain ⟨stopping, hclearing, hstopped⟩ :=
      exists_moves_of_stop (s := s.extend listening) (by rw [hlistening]) (by rw [hlistening])
        (by rw [hlistening]; exact hfresh) (by rw [hlistening]; rfl)
    obtain ⟨abandoning, result, hfailed, habandoned⟩ := exists_moves_of_abandonEvents hclearing
    obtain ⟨settling, hsettling, hbeside⟩ := Registry.leads_settle _
      (((s.extend listening).extend stopping).extend abandoning).scene rfl
    refine ⟨surroundings, credentials.isSome,
      listening ++ stopping ++ abandoning ++ settling.map .beside, result, hprepare, ?_⟩
    rw [extend_append, extend_append, extend_append, extend_beside _ hsettling]
    refine ⟨hfailed, hbeside.registry.trans ?_⟩
    rw [habandoned, show ((s.extend listening).extend stopping).scene.surroundings =
      ((s.extend listening).extend stopping).scene.registry.surroundings from rfl, hstopped,
      hlistening]
    rfl

end Startup

end Diameter.Daemon
