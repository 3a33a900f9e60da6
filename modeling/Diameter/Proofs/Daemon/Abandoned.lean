import Diameter.Proofs.Daemon.Ending
import Diameter.Proofs.Daemon.Startup
import Diameter.Proofs.Daemon.Unattended

/-!
# A daemon that could not be started

Whichever listener cannot start, and whatever clients of the others do in the meantime: when the
start returns its error all listeners have been stopped, and every handshake that has turned its
connection away has closed it. What becomes of the connections that were passed to be handed
over depends on one look at the event queue, as nobody empties it. If nothing is in there it is
destroyed, and hand-overs close their connections. If anything is in there the queue stays as it
is for good: none of these connections is ever closed, and if the queue is full, a hand-over
that waits for room waits for ever.
-/

namespace Diameter.Daemon

open Listener (Accepted Arrival ConnectionId StopStage)
open Queue (CallerId)

/-- Whether all listeners have been stopped. -/
def StartStage.isPastStops : StartStage → Bool
  | .listening _ | .stopping _ _ | .started => false
  | _ => true

/-- How many connections kept the event queue from being destroyed. -/
def StartStage.left? : StartStage → Option Nat
  | .failed _ (.error (.notEmpty n)) => some n
  | _ => none

/-- Items are left by a start only where the queue was not empty when it was to be destroyed. -/
theorem StartStage.exists_of_left? {stage : StartStage} {n : Nat} (h : stage.left? = some n) :
    ∃ cause, stage = .failed cause (.error (.notEmpty n)) := by
  unfold left? at h
  split at h
  · obtain rfl := Option.some.inj h
    exact ⟨_, rfl⟩
  · cases h

/-- What is known at a stage. `stage` tells how far the daemon is on its way to the end. -/
def StartStage.Suits (b : Books) (stage : WaitStage) : StartStage → Prop
  | .listening _ | .started => stage = .idle
  | .stopping _ _ | .clearing _ => stage = .stopping
  | .destroying _ => stage = .stopping ∧ b.alarm = false
  | .waking _ side => stage = .waking side
  | .failed _ (.ok _) => stage = .returned
  | .failed _ (.error e) =>
    stage = .stopping ∧ ∃ n, e = .notEmpty n ∧ 0 < n ∧ n ≤ b.items.length

namespace StartStage.Suits

variable {b b' : Books} {stage : WaitStage} {start : StartStage}

/-- The wait has taken nothing out of the queue. -/
theorem hand (hs : start.Suits b stage) : stage.hand = 0 := by
  cases start with
  | listening | started | stopping | clearing | waking =>
    obtain rfl : stage = _ := hs
    rfl
  | destroying =>
    obtain ⟨rfl, -⟩ := hs
    rfl
  | failed cause result =>
    cases result with
    | ok =>
      obtain rfl : stage = _ := hs
      rfl
    | error e =>
      obtain ⟨rfl, -⟩ := hs
      rfl

/-- What others do suits the stage, as they take nothing out of the queue. -/
theorem grows (hs : start.Suits b stage) (halarm : b'.alarm = b.alarm) (h : Books.Grows b b') :
    start.Suits b' stage := by
  cases start with
  | destroying => exact ⟨hs.1, halarm.trans hs.2⟩
  | failed cause result =>
    cases result with
    | ok => exact hs
    | error e =>
      obtain ⟨hstage, n, he, hn, hitems⟩ := hs
      exact ⟨hstage, n, he, hn, Nat.le_trans hitems h.items.length_le⟩
  | _ => exact hs

end StartStage.Suits

/-! ## The daemon so far -/

namespace Closedown

variable {k : Closedown} {b : Books}

/-- Listeners that are fresh change nothing else. -/
theorem Holds.enrol (hk : k.Holds b) (hidle : k.stage = .idle) {r : Registry}
    {fresh : List Registered} (hlisteners : r.listeners = k.registry.listeners ++ fresh)
    (hfresh : ∀ x ∈ fresh, x.state.Fresh)
    (hconnections : r.surroundings.connections = k.surroundings.connections)
    (hevents : r.surroundings.events = k.events) :
    (k.enrol r).Holds b ∧ (k.enrol r).handshakes = k.handshakes := by
  have hnone {β : Type} (f : Registered → List β) (hf : ∀ x ∈ fresh, f x = []) :
      r.listeners.flatMap f = k.registry.listeners.flatMap f := by
    rw [hlisteners, List.flatMap_append, List.flatMap_eq_nil_iff.mpr hf, List.append_nil]
  have hhandshakes : (k.enrol r).handshakes = k.handshakes :=
    hnone _ fun x hx => (hfresh x hx).handshakes
  have hreserved : (k.enrol r).reserved = k.reserved := by
    refine congrArg Multiset.ofList (hnone Daemon.reserved fun x hx => ?_)
    rw [Daemon.reserved, (hfresh x hx).handshakes, (hfresh x hx).backlog]
    rfl
  have hall {P : ListenerState → Prop} (hold : ∀ x ∈ k.registry.listeners, P x.state)
      (hnew : ∀ x ∈ fresh, P x.state) : ∀ x ∈ (k.enrol r).registry.listeners, P x.state := by
    intro x hx
    have hx : x ∈ r.listeners := hx
    rw [hlisteners] at hx
    exact (List.mem_append.mp hx).elim (hold x) (hnew x)
  have hordered : (k.enrol r).Ordered := by
    refine ⟨hall (P := fun x => x.peers = .events) hk.ordered.peers fun x hx => (hfresh x hx).peers,
      hreserved ▸ hk.ordered.apart, fun c hc => ?_, fun c => ?_⟩
    · rw [hreserved] at hc
      exact Nat.lt_of_lt_of_eq (hk.ordered.known c hc) (congrArg List.length hconnections).symm
    · refine Eq.trans ?_ (hk.ordered.counted c)
      exact congrArg (fun cs => (cs.map Connection.closes).getD c 0) hconnections
  have hstopped : (k.enrol r).Stopped := by
    refine ⟨hall (P := fun x => x.acceptor ≠ .idle) hk.stopped.started fun x hx h => ?_,
      List.length_map _, fun i stage x hi hdrained _ => ?_⟩
    · rw [(hfresh x hx).acceptor] at h
      cases h
    · have hi : (r.listeners.map fun _ => StopStage.ahead)[i]? = some stage := hi
      rw [List.getElem?_map] at hi
      obtain ⟨_, -, rfl⟩ := Option.map_eq_some_iff.mp hi
      cases hdrained
  refine ⟨⟨hordered, hstopped, fun h => ?_, ⟨hk.tells.right, ?_, ?_, hk.tells.passed,
    hk.tells.closed⟩, hk.hand, hk.asks, hk.suits⟩, hhandshakes⟩
  · rw [show (k.enrol r).stage = k.stage from rfl, hidle] at h
    cases h
  · exact (congrArg b.Shows hevents).mpr hk.tells.shows
  · rw [hhandshakes]
    exact hk.tells.holders

/-- The books on a daemon whose consumer and wait have done nothing. -/
theorem Holds.unattended (hk : k.Holds b) (hquiet : k.Quiet) (hhand : k.stage.hand = 0) :
    b.Unattended := by
  refine ⟨?_, hk.tells.closed ▸ hquiet.closers⟩
  rw [hk.hand, hhand, hquiet.looking]
  rfl

/-- A handshake that is over and has not handed its connection over has closed it. -/
theorem Holds.closes_pos (hk : k.Holds b) (hquiet : k.Quiet) {x : Accepted} (hx : x ∈ k.handshakes)
    {outcome : HandshakeOutcome} (hphase : x.phase = .ended outcome)
    (houtcome : outcome ≠ .handedOff) : 0 < k.closes x.connection := by
  have hclosed : x.phase.stand.hasClosed = true := by
    rw [hphase]
    exact decide_eq_true houtcome
  have hlog := List.mem_map_of_mem (f := Prod.snd) (hquiet.turned x hx hclosed)
  rw [hk.ordered.counted]
  exact List.count_pos_iff.mpr hlog

/-- A connection that was passed to a queue that can be used is not closed, as the queue has
refused nobody and nobody takes anything out. -/
theorem Holds.closes_zero (hk : k.Holds b) (hquiet : k.Quiet) (hwelcome : b.Welcome)
    {c : ConnectionId} (hc : c ∈ k.passed) : k.closes c = 0 := by
  obtain ⟨-, -, -, hhandshake, -⟩ := hk.passed hc
  rw [hk.ordered.counted]
  refine List.count_eq_zero.mpr fun hm => ?_
  obtain ⟨⟨closer, d⟩, hx, rfl⟩ := List.mem_map.mp hm
  obtain h | h := hquiet.closers _ hx
  · obtain rfl : closer = .handshake := h
    exact hhandshake hx
  · obtain rfl : closer = .handOver := h
    exact hwelcome _ (hk.tells.right.refused _ (hk.tells.closed.symm ▸ hx))

/-- The connection that a call hands over, if it is a push that is not over. -/
def handsOver? (c : Queue.Caller Arrival) : Option ConnectionId :=
  match c with
  | ⟨.push arrival, .ready _ _⟩ | ⟨.push arrival, .parked _⟩ | ⟨.push arrival, .woken _ _⟩ =>
    some arrival.connection
  | _ => none

/-- Whether a call hands over a connection and is not over. -/
def Suspends (k : Closedown) (i : CallerId) (c : ConnectionId) : Prop :=
  k.events.callers[i]?.bind handsOver? = some c

/-- The books say which pushes are not over. -/
theorem Tells.suspends_iff (hk : k.Tells b) {i : CallerId} {c : ConnectionId} :
    k.Suspends i c ↔ ∃ arrival : Arrival,
      b.calls[i]? = some (.push arrival, .facing 0) ∧ arrival.connection = c := by
  have hcall := k.events.outline_calls_getElem? i
  rw [hk.shows.outline] at hcall
  have hcall : b.calls[i]? = k.events.callers[i]?.map fun x => (x.request, x.stage.spot) := hcall
  have haims := hk.shows.aims i
  rw [hcall] at haims ⊢
  unfold Suspends
  generalize k.events.callers[i]? = caller at haims ⊢
  rcases caller with _ | ⟨request, stage⟩
  · simp
  · cases request with
    | pop deadline => simp [handsOver?]
    | push arrival =>
      cases stage with
      | ready q recalled | parked q | woken q cause =>
        obtain rfl := haims (.push arrival) q rfl
        simp [handsOver?, Queue.Stage.spot]
      | leaving q cause late => cases late <;> simp [handsOver?, Queue.Stage.spot]
      | ended | dropped => simp [handsOver?, Queue.Stage.spot]

end Closedown

/-! ## What every move keeps -/

namespace Startup

variable {s : Startup} {b : Books}

/-- What holds of a daemon that is being started, and of the books on it. -/
structure Holds (s : Startup) (b : Books) : Prop where
  /-- It holds of the daemon so far. -/
  scene : s.scene.Holds b
  /-- Listeners give connections to the event queue. -/
  peers : s.terms.peers = .events
  /-- There is no consumer, and no wait has emptied the queue. -/
  quiet : s.scene.Quiet
  /-- After the stops nobody accepts and nobody is in a set. -/
  nobody : s.stage.isPastStops = true → s.scene.HasNobody
  /-- As long as the queue can be used it has refused nobody. -/
  welcome : b.lifecycle = .usable → b.Welcome
  /-- The stage is one that suits. -/
  suits : s.stage.Suits b s.scene.stage

/-- What suits the stage at which it is. -/
theorem Holds.suits_at (hs : s.Holds b) {stage : StartStage} (hstage : s.stage = stage) :
    stage.Suits b s.scene.stage := hstage ▸ hs.suits

/-- What goes on beside the start keeps it, and only puts something into the queue. -/
theorem Holds.beside (hs : s.Holds b) {m : Move} (hm : m.isBeside = true) :
    ∃ b', Books.Grows b b' ∧ Holds { s with scene := s.scene.next m } b' := by
  obtain ⟨b', hpath, hscene⟩ := hs.scene.beside hm
  obtain ⟨hquiet, hstage⟩ := hs.quiet.next hm
  have hunattended : b'.Unattended := hscene.unattended hquiet (hstage ▸ hs.suits.hand)
  have hgrows := Books.Path.grows hpath hunattended
  refine ⟨b', hgrows, hscene, hs.peers, hquiet, fun h => (hs.nobody h).next hm, fun hl => ?_, ?_⟩
  · have hbefore := hgrows.lifecycle.symm.trans hl
    exact Books.Path.welcome hpath hbefore (hs.welcome hbefore)
  · exact hstage.symm ▸ hs.suits.grows (Books.Path.stays hpath).alarm hgrows

/-- Listeners are started one after another. -/
theorem Holds.listen (hs : s.Holds b) {endpoints : List Endpoint}
    (hstage : s.stage = .listening endpoints) : s.goOn.Holds b := by
  have hidle : s.scene.stage = .idle := hs.suits_at hstage
  have henrol {r : Registry} (rest : List Endpoint)
      (h : (s.scene.enrol r).Holds b ∧ (s.scene.enrol r).handshakes = s.scene.handshakes) :
      Holds { s with scene := s.scene.enrol r, stage := .listening rest } b :=
    ⟨h.1, hs.peers, hs.quiet.congr rfl rfl rfl h.2, fun h => (by cases h), hs.welcome, hidle⟩
  cases endpoints with
  | nil =>
    unfold goOn
    rw [hstage]
    exact ⟨hs.scene, hs.peers, hs.quiet, fun h => (by cases h), hs.welcome, hidle⟩
  | cons e rest =>
    unfold goOn
    rw [hstage]
    dsimp only
    rcases hone : s.scene.registry.startOne s.network s.secured s.terms e with cause | r
    · have hsuits := hs.scene.suits
      rw [hidle] at hsuits
      exact ⟨hs.scene.goTo (by rw [hidle]; rfl) (fun h => by cases h) hsuits, hs.peers,
        hs.quiet.congr rfl rfl rfl rfl, fun h => (by cases h), hs.welcome, rfl⟩
    · obtain ⟨-, -, -, -, rfl⟩ | ⟨taken, -, rfl⟩ := Registry.exists_of_startOne hone
      · exact henrol rest (hs.scene.enrol hidle (List.append_nil _).symm (fun x hx => by cases hx)
          rfl rfl)
      · refine henrol rest (hs.scene.enrol hidle rfl (fun x hx => ?_) rfl rfl)
        obtain rfl := List.mem_singleton.mp hx
        exact ⟨Listener.unused_launched, hs.peers⟩

/-- The queue is destroyed, or there is something in it. -/
theorem Holds.destroy (hs : s.Holds b) {cause : ListenerError}
    (hstage : s.stage = .destroying cause) : ∃ b', s.goOn.Holds b' := by
  obtain ⟨hstopping, halarm⟩ : s.scene.stage = .stopping ∧ b.alarm = false :=
    hs.suits_at hstage
  have hnobody := hs.nobody (by rw [hstage]; rfl)
  have hsuits := hs.scene.suits
  rw [hstopping] at hsuits
  unfold goOn
  rw [hstage]
  dsimp only
  obtain ⟨hitems, after, hclose, hshows⟩ | ⟨hitems, hclose⟩ :=
    hs.scene.tells.shows.close hsuits.1 halarm
  · rw [hclose]
    have hscene := hs.scene.closed hnobody hs.suits.hand hs.quiet.working
      (hsuits.2 ▸ Nat.zero_le _) hitems hshows
    exact ⟨_, hscene, hs.peers, hs.quiet.congr rfl rfl rfl rfl, fun _ => hnobody.congr rfl,
      fun h => (by cases h), rfl⟩
  · rw [hclose]
    exact ⟨b, hs.scene, hs.peers, hs.quiet, fun _ => hnobody, hs.welcome, hstopping, _, rfl,
      List.length_pos_of_ne_nil hitems, Nat.le_refl _⟩

/-- Those who wait at the destroyed queue are woken. -/
theorem Holds.wake (hs : s.Holds b) {cause : ListenerError} {side : Queue.Side}
    (hstage : s.stage = .waking cause side) : ∃ b', s.goOn.Holds b' := by
  have hwaking : s.scene.stage = .waking side := hs.suits_at hstage
  have hnobody := hs.nobody (by rw [hstage]; rfl)
  obtain ⟨b', hscene⟩ := hs.scene.wake hwaking
  unfold goOn
  rw [hstage]
  unfold Closedown.wait at hscene
  rw [hwaking] at hscene
  have hwelcome (hdestroyed : b'.lifecycle = .destroyed) :
      b'.lifecycle = .usable → b'.Welcome := fun h => by cases hdestroyed.symm.trans h
  cases side <;>
  exact ⟨b', hscene, hs.peers, hs.quiet.congr rfl rfl rfl rfl, fun _ => hnobody.congr rfl,
    hwelcome hscene.suits.1, rfl⟩

/-- Whatever the start does keeps it. -/
theorem Holds.goOn (hs : s.Holds b) : ∃ b', s.goOn.Holds b' := by
  cases hstage : s.stage with
  | listening endpoints => exact ⟨b, hs.listen hstage⟩
  | stopping cause label =>
    have hsuits := hs.suits_at hstage
    unfold Startup.goOn
    rw [hstage]
    dsimp only
    split
    · next hstops =>
      exact ⟨b, hs.scene.withShutdown _, hs.peers, hs.quiet.congr rfl rfl rfl rfl,
        fun _ => (hs.scene.stopped.hasNobody hstops).congr rfl, hs.welcome, hsuits⟩
    · exact ⟨b, hs⟩
  | clearing cause =>
    have hsuits := hs.suits_at hstage
    have hnobody := hs.nobody (by rw [hstage]; rfl)
    unfold Startup.goOn
    rw [hstage]
    exact ⟨_, hs.scene.takeAlarm, hs.peers, hs.quiet.congr rfl rfl rfl rfl,
      fun _ => hnobody.congr rfl, hs.welcome, hsuits, rfl⟩
  | destroying cause => exact hs.destroy hstage
  | waking cause side => exact hs.wake hstage
  | failed cause result =>
    unfold Startup.goOn
    rw [hstage]
    exact ⟨b, hs⟩
  | started =>
    unfold Startup.goOn
    rw [hstage]
    exact ⟨b, hs⟩

/-- Every move keeps it. -/
theorem Holds.next (hs : s.Holds b) (m : StartMove) : ∃ b', (s.next m).Holds b' := by
  cases m with
  | beside m =>
    unfold Startup.next
    dsimp only
    split
    · next hm =>
      obtain ⟨b', -, hafter⟩ := hs.beside hm
      exact ⟨b', hafter⟩
    · exact ⟨b, hs⟩
  | goOn => exact hs.goOn

/-- All moves keep it. -/
theorem Holds.extend (hs : s.Holds b) (moves : List StartMove) : ∃ b', (s.extend moves).Holds b' :=
  extend_induction (P := fun s => ∃ b, s.Holds b) ⟨b, hs⟩ (fun _ m ⟨_, hs⟩ => hs.next m) moves

/-- It holds at the start. -/
theorem holds_start (network : Network) (secured : Bool) {settings : Settings}
    {shutdown : Shutdown} {surroundings : Surroundings}
    (hprepare : Daemon.prepare settings.queues shutdown = .ok surroundings) :
    ∃ b, (start network secured settings surroundings).Holds b := by
  have hscene := Closedown.holds_start
    (d := ⟨⟨[], surroundings⟩, ⟨Shutdown.root, false, 0⟩⟩) (fresh_of_prepare hprepare)
  refine ⟨_, hscene, rfl, ⟨rfl, rfl, fun x hx => ?_, fun x hx => ?_⟩, fun h => (by cases h),
    fun _ c hc => ?_, rfl⟩
  · cases hx
  · cases hx
  · obtain ⟨i, arrival, e, hi, -⟩ := hc
    cases hi

/-! ## After the failure -/

/-- A move after the failure only puts something into the queue. -/
theorem Holds.next_failed (hs : s.Holds b) {cause : ListenerError}
    {result : Except QueueError Unit} (hstage : s.stage = .failed cause result) (m : StartMove) :
    ∃ b', Books.Grows b b' ∧ (s.next m).Holds b' ∧ (s.next m).stage = .failed cause result := by
  have hsame : ∃ b', Books.Grows b b' ∧ s.Holds b' ∧ s.stage = .failed cause result :=
    ⟨b, .refl b, hs, hstage⟩
  cases m with
  | beside m =>
    unfold Startup.next
    dsimp only
    split
    · next hm =>
      obtain ⟨b', hgrows, hafter⟩ := hs.beside hm
      exact ⟨b', hgrows, hafter, hstage⟩
    · exact hsame
  | goOn =>
    have hgoOn : s.goOn = s := by
      unfold Startup.goOn
      rw [hstage]
    rw [show s.next .goOn = s.goOn from rfl, hgoOn]
    exact hsame

/-- So do all moves after it. -/
theorem Holds.extend_failed (hs : s.Holds b) {cause : ListenerError}
    {result : Except QueueError Unit} (hstage : s.stage = .failed cause result)
    (later : List StartMove) : ∃ b', Books.Grows b b' ∧ (s.extend later).Holds b' ∧
      (s.extend later).stage = .failed cause result := by
  induction later generalizing s b with
  | nil => exact ⟨b, .refl b, hs, hstage⟩
  | cons m later ih =>
    obtain ⟨b₁, hfirst, hnext, hfailed⟩ := hs.next_failed hstage m
    obtain ⟨b₂, hrest, hlast⟩ := ih hnext hfailed
    exact ⟨b₂, hfirst.trans hrest, hlast⟩

/-- Where the queue was destroyed, every connection that was passed is closed by its hand-over,
which the queue refuses. -/
theorem Holds.closed_by_handOver (hs : s.Holds b) (hreturned : s.scene.stage = .returned)
    {c : ConnectionId} (hc : c ∈ s.scene.passed) (hover : s.scene.IsOver c) :
    s.scene.closes c = 1 ∧ s.scene.closers c = [.handOver] ∧ s.scene.Refused c := by
  obtain ⟨hcloses, hforeign⟩ := hs.scene.closes_eq hc hreturned hover
  obtain ⟨closer, hclosers, hother, hclosed⟩ := Closedown.exists_closer
    ((hs.scene.ordered.counted c).symm.trans hcloses) hforeign
  obtain h | h := hs.quiet.closers _ hclosed
  · exact absurd h hother
  · obtain rfl : closer = .handOver := h
    exact ⟨hcloses, hclosers, hs.scene.refused hclosed⟩

/-- For every network, all settings, whichever listener cannot start, and every order in which
the start, the listeners before that one, handshakes and hand-overs go on: when the start has
failed it stays so, all listeners have been stopped, and every handshake that is over and has
not handed its connection over has closed it. Either the queue was found empty. Then it is
destroyed and empty, and every connection that was passed to be handed over is closed once, by
its hand-over. Or there were connections in it. Then they stay there, the queue is not
destroyed, and no connection that was passed is closed, however long one waits; and if the queue
is full, every push that waits for room waits for ever. -/
theorem failed_start_destroys_or_strands (network : Network) (secured : Bool)
    {settings : Settings} {shutdown : Shutdown} {surroundings : Surroundings}
    (hprepare : Daemon.prepare settings.queues shutdown = .ok surroundings)
    (moves : List StartMove) {s : Startup}
    (hs : s = (start network secured settings surroundings).extend moves) {cause : ListenerError}
    {result : Except QueueError Unit} (hfailed : s.stage = .failed cause result)
    (later : List StartMove) :
    let k := (s.extend later).scene
    (s.extend later).stage = .failed cause result ∧ k.HasNobody ∧ s.scene.passed <+: k.passed ∧
    (∀ x ∈ k.handshakes, ∀ outcome, x.phase = .ended outcome → outcome ≠ .handedOff →
      0 < k.closes x.connection) ∧
    (result = .ok () ∧
        (k.events.queue 0).lifecycle = .destroyed ∧ (k.events.queue 0).items = [] ∧
        (∀ c ∈ k.passed, k.closes c ≤ 1 ∧ (k.IsOver c →
          k.closes c = 1 ∧ k.closers c = [.handOver] ∧ k.Refused c)) ∨
      ∃ n, result = .error (.notEmpty n) ∧ 0 < n ∧ n ≤ (s.scene.events.queue 0).items.length ∧
        (k.events.queue 0).lifecycle = .usable ∧
        (s.scene.events.queue 0).items <+: (k.events.queue 0).items ∧
        (∀ c ∈ k.passed, k.closes c = 0) ∧
        ((s.scene.events.queue 0).isFull = true →
          (k.events.queue 0).items = (s.scene.events.queue 0).items ∧
          ∀ i c, s.scene.Suspends i c → k.Suspends i c)) := by
  intro k
  obtain ⟨b₀, hstart⟩ := holds_start network secured hprepare
  obtain ⟨b, hs⟩ : ∃ b, s.Holds b := hs ▸ hstart.extend moves
  obtain ⟨b', hgrows, hafter, hstage⟩ := hs.extend_failed hfailed later
  have hshows : b.Shows s.scene.events := hs.scene.tells.shows
  have hshows' : b'.Shows k.events := hafter.scene.tells.shows
  have hsuits := hafter.suits_at hstage
  have hscene := hafter.scene.suits
  have hpassed : s.scene.passed <+: k.passed := by
    rw [← hs.scene.tells.passed, ← hafter.scene.tells.passed]
    exact hgrows.passed
  refine ⟨hstage, hafter.nobody (by rw [hstage]; rfl), hpassed,
    fun x hx outcome hphase houtcome =>
      hafter.scene.closes_pos hafter.quiet hx hphase houtcome, ?_⟩
  rw [hshows'.lifecycle, hshows'.items, hshows.items, hshows.isFull]
  cases result with
  | ok =>
    left
    have hreturned : k.stage = .returned := hsuits
    rw [hreturned] at hscene
    exact ⟨rfl, hscene.1, hscene.2.1, fun c hc =>
      ⟨hafter.scene.closes_le hc, hafter.closed_by_handOver hreturned hc⟩⟩
  | error e =>
    right
    obtain ⟨hstopping, -⟩ := hsuits
    rw [hstopping] at hscene
    obtain ⟨-, n, rfl, hn, hitems⟩ := hs.suits_at hfailed
    refine ⟨n, rfl, hn, hitems, hscene.1, hgrows.items, fun c hc =>
      hafter.scene.closes_zero hafter.quiet (hafter.welcome hscene.1) hc, fun hfull =>
      ⟨hgrows.full hfull, fun i c hi => ?_⟩⟩
    obtain ⟨arrival, hcall, hc⟩ := hs.scene.tells.suspends_iff.mp hi
    have hwaits := hgrows.waits (hgrows.lifecycle.symm.trans hscene.1) hfull i arrival hcall
    exact hafter.scene.tells.suspends_iff.mpr ⟨arrival, hwaits, hc⟩

/-- Settings with two ports, of which the second is not for everyone, and an event queue that
holds one connection. -/
def privilegedSettings : Settings :=
  { Closedown.narrowSettings with
    listener := { ListenerSettings.default with portTls := some 443, noIp6 := true } }

/-- What a daemon with these settings starts with. -/
def privilegedSurroundings : Surroundings :=
  match Daemon.prepare privilegedSettings.queues .new with
  | .ok surroundings => surroundings
  | .error _ => .new 0

/-- Two clients of the first listener are handed over before the second listener cannot start.
The first connection fills the queue, and the push of the second waits for room. -/
def handOversMeanwhile : List StartMove :=
  [.goOn] ++ (Closedown.arriving 0 ++ Closedown.arriving 1 ++ Closedown.handing 0 ++
    Closedown.handing 1).map .beside ++ [.goOn] ++
    [Move.stop 0, .listener 0 (.accept false), .stop 0, .stop 0].map .beside ++
    [.goOn, .goOn, .goOn]

/-- The start after that. -/
def privilegedStart : Startup :=
  (start Closedown.bareMachine.network true privilegedSettings privilegedSurroundings).extend
    handOversMeanwhile

/-- The second listener cannot start after two clients of the first were handed over. The queue
stays usable with the first connection in it, the push of the second stays suspended, and nobody
ever closes either of them. -/
theorem handed_over_and_left :
    Daemon.prepare privilegedSettings.queues .new = .ok privilegedSurroundings ∧
      (∃ cause, privilegedStart.stage = .failed cause (.error (.notEmpty 1))) ∧
      privilegedStart.scene.passed = [0, 1] ∧ ∀ later : List StartMove,
        let k := (privilegedStart.extend later).scene
        (k.events.queue 0).lifecycle = .usable ∧ (k.events.queue 0).items.length = 1 ∧
          k.closes 0 = 0 ∧ k.closes 1 = 0 ∧ k.Suspends 1 1 := by
  have hprepare : Daemon.prepare privilegedSettings.queues .new = .ok privilegedSurroundings := rfl
  have hseen : privilegedStart.stage.left? = some 1 ∧ privilegedStart.scene.passed = [0, 1] ∧
      (privilegedStart.scene.events.queue 0).isFull = true ∧
      (privilegedStart.scene.events.queue 0).items.length = 1 ∧
      privilegedStart.scene.events.callers[1]?.bind Closedown.handsOver? = some 1 := by
    decide +kernel
  obtain ⟨hleft, hpassed, hfull, hitems, hwaits⟩ := hseen
  obtain ⟨cause, hfailed⟩ := StartStage.exists_of_left? hleft
  refine ⟨hprepare, ⟨cause, hfailed⟩, hpassed, fun later => ?_⟩
  obtain ⟨-, -, hkept, -, ⟨h, -⟩ | ⟨n, -, -, -, husable, -, hclosed, hstays⟩⟩ :=
    failed_start_destroys_or_strands Closedown.bareMachine.network true hprepare
      handOversMeanwhile (s := privilegedStart) rfl hfailed later
  · cases h
  · obtain ⟨hsame, hwaiting⟩ := hstays hfull
    rw [hpassed] at hkept
    have hopen (c : ConnectionId) (hc : c ∈ [0, 1]) :
        (privilegedStart.extend later).scene.closes c = 0 := hclosed c (hkept.mem hc)
    exact ⟨husable, (congrArg List.length hsame).trans hitems, hopen 0 (by decide),
      hopen 1 (by decide), hwaiting 1 1 hwaits⟩

end Startup

end Diameter.Daemon
