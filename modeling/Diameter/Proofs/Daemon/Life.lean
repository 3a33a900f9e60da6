import Diameter.Proofs.Daemon.Abandoned
import Diameter.Proofs.Daemon.Enlisting
import Diameter.Proofs.Listener.Tokens

/-!
# The life of a daemon in every order

A daemon is started, which may fail, and then somebody waits for its end. All this time others
may raise the shutdown by calls of their own, each of which takes its two steps whenever it goes
on. A life is what has come of all this so far, so a statement about all lists of steps is one
about every order in which the start, the listeners, handshakes, hand-overs, the consumer, the
wait and those calls go on.

A listener that raises the shutdown notes its reason and cancels the root in one step here. The
time between the two is covered nevertheless: a call that notes the same reason right before, and
cancels the root at any time after, does the same.
-/

namespace Diameter.Daemon

open Shutdown (Agrees Extends)

/-- How far the life of a daemon has come. -/
inductive LifeStage where
  /-- It is being started. -/
  | starting (s : Startup)
  /-- It has been started, and somebody waits for its end. -/
  | serving (k : Closedown)

/-- The life of a daemon so far. -/
structure Life where
  /-- How far it has come. -/
  stage : LifeStage
  /-- The calls that raise the shutdown, first to last. -/
  calls : List Shutdown.Call

/-- What happens next. -/
inductive LifeMove where
  /-- Something goes on while the daemon is being started. -/
  | start (move : StartMove)
  /-- The consumer is started, which is the last thing that a start does. -/
  | launch
  /-- Something goes on after that. -/
  | serve (move : Move)
  /-- Somebody raises the shutdown by a call. -/
  | call (reason : ShutdownReason)
  /-- A call goes on. -/
  | turn (i : Nat)

/-- Nobody outside is given the root, so no move cancels it. -/
def Move.sparesRoot : Move → Bool
  | .listener _ e => e.sparesRoot
  | _ => true

/-- The same is true of what goes on beside a start. -/
def StartMove.sparesRoot : StartMove → Bool
  | .beside m => m.sparesRoot
  | .goOn => true

/-- What is returned to whoever waited for the end, if this reason was noted. -/
def verdict (reason : Option ShutdownReason) : Except DaemonError Unit :=
  match reason with
  | some reason => if reason.isFatal then .error (.stopped reason) else .ok ()
  | none => .ok ()

namespace Closedown

/-- The consumer is started. Nobody has waited for the end. -/
def launch (k : Closedown) : Closedown :=
  let (token, shutdown) := k.surroundings.shutdown.child Shutdown.root
  { k.withSurroundings { k.surroundings with shutdown } with
    daemon.consumer := ⟨token, true, 0⟩
    consuming := .looking
    stage := .idle }

end Closedown

namespace Life

/-- The daemon so far. -/
def scene (x : Life) : Closedown :=
  match x.stage with
  | .starting s => s.scene
  | .serving k => k

/-- The shutdown. -/
def shutdown (x : Life) : Shutdown := x.scene.surroundings.shutdown

/-- The life goes on with another daemon so far. -/
def withScene (x : Life) (k : Closedown) : Life :=
  match x.stage with
  | .starting s => { x with stage := .starting { s with scene := k } }
  | .serving _ => { x with stage := .serving k }

/-- A call goes on. -/
def turn (x : Life) (i : Nat) : Life :=
  let (calls, shutdown) := x.shutdown.turn x.calls i
  { x.withScene (x.scene.withSurroundings { x.scene.surroundings with shutdown }) with calls }

/-- What a move leads to. One that cannot be made changes nothing. -/
def next (x : Life) : LifeMove → Life
  | .start m =>
    match x.stage with
    | .starting s => if m.sparesRoot then { x with stage := .starting (s.next m) } else x
    | .serving _ => x
  | .launch =>
    match x.stage with
    | .starting s =>
      if s.stage matches .started then { x with stage := .serving s.scene.launch } else x
    | .serving _ => x
  | .serve m =>
    match x.stage with
    | .starting _ => x
    | .serving k => if m.sparesRoot then { x with stage := .serving (k.next m) } else x
  | .call reason => { x with calls := x.calls ++ [⟨reason, .called⟩] }
  | .turn i => x.turn i

/-- What moves lead to. -/
def extend (x : Life) (moves : List LifeMove) : Life := moves.foldl next x

/-- The life of a daemon whose event queue and credentials are there. -/
def start (network : Network) (secured : Bool) (settings : Settings)
    (surroundings : Surroundings) (calls : List Shutdown.Call) : Life :=
  ⟨.starting (.start network secured settings surroundings), calls⟩

/-- What was returned, as soon as something is. -/
def result? (x : Life) : Option (Except DaemonError Unit) :=
  match x.stage with
  | .starting s =>
    match s.stage with
    | .failed cause _ => some (.error (.listener cause))
    | _ => none
  | .serving k =>
    match k.stage with
    | .returned => some (verdict k.surroundings.shutdown.reason)
    | .failed e => some (.error (.queue e))
    | _ => none

/-- What every move keeps holds after all moves. -/
theorem extend_induction {P : Life → Prop} {x : Life} (hx : P x)
    (step : ∀ x m, P x → P (x.next m)) (moves : List LifeMove) : P (x.extend moves) := by
  induction moves generalizing x with
  | nil => exact hx
  | cons m moves ih => exact ih (step x m hx)

end Life

/-! ## The shutdown goes on -/

namespace Closedown

theorem extends_perform (k : Closedown) (i : Nat) (e : Listener.Event) :
    Extends k.surroundings.shutdown (k.perform i e).surroundings.shutdown := by
  rcases hx : k.registry.listeners[i]? with _ | x
  · rw [perform_of_none hx]
    exact .refl _
  · rw [perform_of_some hx]
    exact Listener.extends_perform ⟨x.state, k.surroundings⟩ e

/-- A stop that goes on is an event of its listener, by which nobody outside cancels a token. -/
theorem stop_spares (k : Closedown) (i : Nat) : k.stop i = k ∨ ∃ e stage,
    e.sparesRoot = true ∧ k.stop i = { k.perform i e with stops := k.stops.set i stage } := by
  unfold Closedown.stop
  split
  · split
    · split
      · exact .inl rfl
      · exact .inr ⟨_, _, rfl, rfl⟩
    · split
      · exact .inl rfl
      · exact .inr ⟨_, _, rfl, rfl⟩
    · split
      · exact .inr ⟨_, _, rfl, rfl⟩
      · exact .inl rfl
    · exact .inl rfl
  · exact .inl rfl

theorem extends_stop (k : Closedown) (i : Nat) :
    Extends k.surroundings.shutdown (k.stop i).surroundings.shutdown := by
  obtain hsame | ⟨e, stage, -, hperform⟩ := stop_spares k i
  · rw [hsame]
    exact .refl _
  · rw [hperform]
    exact k.extends_perform i e

/-- The shutdown and who has which token are as they were. -/
structure Untouched (k k' : Closedown) : Prop where
  shutdown : k'.surroundings.shutdown = k.surroundings.shutdown
  listeners : k'.registry.listeners = k.registry.listeners
  consumer : k'.daemon.consumer.token = k.daemon.consumer.token

/-- Who leaves the shutdown untouched adds nothing to it. -/
theorem Untouched.extends_shutdown {k k' : Closedown} (h : Untouched k k') :
    Extends k.surroundings.shutdown k'.surroundings.shutdown := by
  rw [h.shutdown]
  exact .refl _

theorem shutdown_tell (s : Surroundings) (crossing : Option (Queue.Crossing String)) :
    (s.tell crossing).shutdown = s.shutdown := by
  cases crossing <;> rfl

theorem shutdown_popEvent (s : Surroundings) : s.popEvent.2.shutdown = s.shutdown := by
  unfold Surroundings.popEvent
  split <;> exact shutdown_tell _ _

/-- A turn of a call in the queue leaves the shutdown and the tokens. -/
theorem untouched_turn (k : Closedown) (c : Queue.CallerId) : Untouched k (k.turn c) :=
  ⟨shutdown_tell _ _, rfl, rfl⟩

/-- The consumer leaves the shutdown, the tokens and how far the wait has come. -/
theorem untouched_consume (k : Closedown) (overlooks : Bool) :
    Untouched k (k.consume overlooks) ∧ (k.consume overlooks).stage = k.stage := by
  unfold consume
  split
  · unfold consumeSeeing
    split
    · split <;> exact ⟨⟨rfl, rfl, rfl⟩, rfl⟩
    · split
      · exact ⟨⟨rfl, rfl, rfl⟩, rfl⟩
      · exact ⟨⟨rfl, rfl, rfl⟩, rfl⟩
      · split
        · split <;> exact ⟨⟨rfl, rfl, rfl⟩, rfl⟩
        · exact ⟨⟨rfl, rfl, rfl⟩, rfl⟩
    · exact ⟨⟨rfl, rfl, rfl⟩, rfl⟩
    · exact ⟨⟨rfl, rfl, rfl⟩, rfl⟩
  · exact ⟨⟨rfl, rfl, rfl⟩, rfl⟩

/-- The wait leaves the shutdown alone but for the token of the consumer, and it begins only when
it has seen the shutdown raised. -/
theorem wait_cases (k : Closedown) :
    (Untouched k k.wait ∧ (k.stage = .idle → k.wait.stage ≠ .idle →
      k.surroundings.shutdown.isTriggered = true)) ∨
    (k.stage = .stopping ∧ k.wait.registry.listeners = k.registry.listeners ∧
      k.wait.daemon.consumer = k.daemon.consumer ∧
      k.wait.surroundings.shutdown = k.surroundings.shutdown.cancel k.daemon.consumer.token) := by
  unfold wait
  cases hstage : k.stage with
  | idle =>
    dsimp only
    split
    · next ht => exact .inl ⟨⟨rfl, rfl, rfl⟩, fun _ _ => ht⟩
    · exact .inl ⟨⟨rfl, rfl, rfl⟩, fun _ h => absurd hstage h⟩
  | stopping =>
    dsimp only
    split
    · exact .inr ⟨rfl, rfl, rfl, rfl⟩
    · exact .inl ⟨⟨rfl, rfl, rfl⟩, fun h => (by cases h)⟩
  | joining =>
    dsimp only
    split <;> exact .inl ⟨⟨rfl, rfl, rfl⟩, fun h => (by cases h)⟩
  | discarding =>
    have hpop := shutdown_popEvent k.surroundings
    dsimp only
    split
    all_goals
      next heq =>
      rw [heq] at hpop
      exact .inl ⟨⟨hpop, rfl, rfl⟩, fun h => (by cases h)⟩
  | destroying =>
    dsimp only
    split <;> exact .inl ⟨⟨rfl, rfl, rfl⟩, fun h => (by cases h)⟩
  | waking side => cases side <;> exact .inl ⟨⟨rfl, rfl, rfl⟩, fun h => (by cases h)⟩
  | clearing | closing | returned | failed =>
    exact .inl ⟨⟨rfl, rfl, rfl⟩, fun h => (by cases h)⟩

/-- Whatever goes on, the shutdown only goes on. -/
theorem extends_next (k : Closedown) (m : Move) :
    Extends k.surroundings.shutdown (k.next m).surroundings.shutdown := by
  cases m with
  | listener i e =>
    unfold Closedown.next
    dsimp only
    split
    · exact k.extends_perform i e
    · exact .refl _
  | stop i =>
    unfold Closedown.next
    dsimp only
    split
    · exact k.extends_stop i
    · exact .refl _
  | turn c => exact (k.untouched_turn c).extends_shutdown
  | arrange runnable => exact .refl _
  | trigger reason => exact Shutdown.extends_trigger _ reason
  | consume overlooks => exact (k.untouched_consume overlooks).1.extends_shutdown
  | wait =>
    show Extends _ k.wait.surroundings.shutdown
    obtain ⟨huntouched, -⟩ | ⟨-, -, -, hshutdown⟩ := wait_cases k
    · exact huntouched.extends_shutdown
    · rw [hshutdown]
      exact Shutdown.extends_cancel _ _

/-- Any moves only add to the shutdown. -/
theorem extends_extend (k : Closedown) (moves : List Move) :
    Extends k.surroundings.shutdown (k.extend moves).surroundings.shutdown :=
  extend_induction (P := fun k' => Extends k.surroundings.shutdown k'.surroundings.shutdown)
    (.refl _) (fun k' m hk => hk.trans (k'.extends_next m)) moves

end Closedown

/-! ## What is known of the shutdown -/

namespace Closedown

variable {k k' : Closedown} {calls calls' : List Shutdown.Call}

/-- Those who raise the shutdown agree with it, and no listener has the root for its token. -/
structure Guarded (k : Closedown) (calls : List Shutdown.Call) : Prop where
  /-- The calls agree with the shutdown. -/
  agrees : Agrees calls k.surroundings.shutdown
  /-- Every listener has a token of its own. -/
  tokens : ∀ x ∈ k.registry.listeners, (⟨x.state, k.surroundings⟩ : Listener).HasToken

/-- The shutdown has gone on, and the listeners have the tokens that they had. -/
theorem Guarded.later (h : k.Guarded calls) (hagrees : Agrees calls' k'.surroundings.shutdown)
    (hlisteners : k'.registry.listeners = k.registry.listeners)
    (hextends : Extends k.surroundings.shutdown k'.surroundings.shutdown) :
    k'.Guarded calls' := by
  refine ⟨hagrees, fun x hx => ?_⟩
  have hbefore := h.tokens x (hlisteners ▸ hx)
  exact ⟨hbefore.derived, Nat.lt_of_lt_of_le hbefore.known hextends.length_le⟩

/-- Who leaves the shutdown and the tokens keeps the listeners guarded. -/
theorem Guarded.untouched (h : k.Guarded calls) (hk : Untouched k k') : k'.Guarded calls := by
  refine h.later ?_ hk.listeners hk.extends_shutdown
  rw [hk.shutdown]
  exact h.agrees

/-- An event that leaves the root alone keeps the listeners guarded. -/
theorem Guarded.perform (h : k.Guarded calls) (i : Nat) {e : Listener.Event}
    (he : e.sparesRoot = true) : (k.perform i e).Guarded calls := by
  have hextends := k.extends_perform i e
  rcases hx : k.registry.listeners[i]? with _ | x
  · rw [perform_of_none hx]
    exact h
  · rw [perform_of_some hx] at hextends ⊢
    have htoken := h.tokens x (List.mem_of_getElem? hx)
    refine ⟨Listener.agrees_perform htoken he h.agrees, fun y hy => ?_⟩
    obtain hy | rfl := List.mem_or_eq_of_mem_set hy
    · have hbefore := h.tokens y hy
      exact ⟨hbefore.derived, Nat.lt_of_lt_of_le hbefore.known hextends.length_le⟩
    · exact htoken.perform e

/-- A step of a stop keeps the listeners guarded. -/
theorem Guarded.stop (h : k.Guarded calls) (i : Nat) : (k.stop i).Guarded calls := by
  obtain hsame | ⟨e, stage, he, hperform⟩ := stop_spares k i
  · rw [hsame]
    exact h
  · rw [hperform]
    exact (h.perform i he).later (h.perform i he).agrees rfl (.refl _)

/-- What goes on beside the consumer and the wait keeps it. -/
theorem Guarded.beside (h : k.Guarded calls) {m : Move} (hm : m.isBeside = true)
    (hroot : m.sparesRoot = true) : (k.next m).Guarded calls := by
  cases m with
  | listener i e =>
    unfold Closedown.next
    dsimp only
    split
    · exact h.perform i hroot
    · exact h
  | stop i =>
    unfold Closedown.next
    dsimp only
    split
    · exact h.stop i
    · exact h
  | turn c => exact h.untouched (k.untouched_turn c)
  | arrange runnable => exact h.later h.agrees rfl (.refl _)
  | trigger reason =>
    exact h.later (h.agrees.trigger reason) rfl (Shutdown.extends_trigger _ reason)
  | consume overlooks | wait => cases hm

/-- What holds of a daemon that was started. -/
structure Serves (k : Closedown) (calls : List Shutdown.Call) : Prop where
  /-- It is guarded. -/
  guarded : k.Guarded calls
  /-- The consumer has a token of its own. -/
  consumer : k.daemon.consumer.token ≠ Shutdown.root
  /-- Whoever waits for the end has gone on only after a reason was noted. -/
  noted : k.stage ≠ .idle → ∃ r, k.surroundings.shutdown.reason = some r

/-- A reason that was noted has been noted after the next move too. -/
theorem Serves.later (h : k.Serves calls) (hguarded : k'.Guarded calls')
    (hconsumer : k'.daemon.consumer.token = k.daemon.consumer.token)
    (hextends : Extends k.surroundings.shutdown k'.surroundings.shutdown)
    (hidle : k.stage = .idle → k'.stage ≠ .idle → k.surroundings.shutdown.isTriggered = true) :
    k'.Serves calls' := by
  refine ⟨hguarded, hconsumer ▸ h.consumer, fun hstage => ?_⟩
  have hnoted : ∃ r, k.surroundings.shutdown.reason = some r := by
    by_cases hk : k.stage = .idle
    · exact h.guarded.agrees.raised (hidle hk hstage)
    · exact h.noted hk
  exact hnoted.imp fun r => hextends.reason r

/-- Every move keeps it. -/
theorem Serves.next (h : k.Serves calls) (m : Move) (hroot : m.sparesRoot = true) :
    (k.next m).Serves calls := by
  have hextends := k.extends_next m
  have hbeside (hm : m.isBeside = true) : (k.next m).Serves calls := by
    have hsame : (k.next m).daemon.consumer = k.daemon.consumer ∧ (k.next m).stage = k.stage := by
      obtain ⟨i, e, stops, hnext⟩ | ⟨surroundings, hnext⟩ := beside_cases k hm
      all_goals
        rw [hnext]
        exact ⟨rfl, rfl⟩
    exact h.later (h.guarded.beside hm hroot) (congrArg _ hsame.1) hextends
      fun hk hk' => absurd (hsame.2.trans hk) hk'
  cases m with
  | consume overlooks =>
    obtain ⟨huntouched, hstage⟩ := k.untouched_consume overlooks
    exact h.later (h.guarded.untouched huntouched) huntouched.consumer hextends
      fun hk hk' => absurd (hstage.trans hk) hk'
  | wait =>
    obtain ⟨huntouched, hseen⟩ | ⟨hstopping, hlisteners, hconsumer, hshutdown⟩ := wait_cases k
    · exact h.later (h.guarded.untouched huntouched) huntouched.consumer hextends hseen
    · refine h.later (h.guarded.later ?_ hlisteners hextends) (congrArg _ hconsumer) hextends
        fun hk => absurd (hstopping.symm.trans hk) nofun
      rw [show (k.next .wait).surroundings.shutdown = _ from hshutdown]
      exact h.guarded.agrees.cancel h.consumer
  | listener | stop | turn | arrange | trigger => exact hbeside rfl

/-- The consumer gets a token below the root. -/
theorem Guarded.launch (h : k.Guarded calls) : k.launch.Serves calls := by
  have hlength := h.agrees.tree.length_pos
  have hextends := k.surroundings.shutdown.extends_child Shutdown.root
  exact ⟨h.later (h.agrees.child hlength) rfl hextends, Nat.ne_of_gt hlength,
    fun hidle => absurd rfl hidle⟩

end Closedown

namespace Startup

variable {s : Startup} {calls : List Shutdown.Call}

/-- A listener gets a token below the root. -/
theorem guarded_enrol (h : s.scene.Guarded calls) {e : Endpoint} {r : Registry}
    (hone : s.scene.registry.startOne s.network s.secured s.terms e = .ok r) :
    (s.scene.enrol r).Guarded calls ∧
      Extends s.scene.surroundings.shutdown r.surroundings.shutdown := by
  obtain ⟨-, -, -, -, rfl⟩ | ⟨taken, -, rfl⟩ := Registry.exists_of_startOne hone
  · exact ⟨h.later h.agrees rfl (.refl _), .refl _⟩
  · have hlength := h.agrees.tree.length_pos
    have hextends := s.scene.surroundings.shutdown.extends_child Shutdown.root
    refine ⟨⟨h.agrees.child hlength, fun x hx => ?_⟩, hextends⟩
    obtain hx | hx := List.mem_append.mp hx
    · have hbefore := h.tokens x hx
      exact ⟨hbefore.derived, Nat.lt_of_lt_of_le hbefore.known hextends.length_le⟩
    · obtain rfl := List.mem_singleton.mp hx
      refine ⟨Nat.ne_of_gt hlength, ?_⟩
      exact Nat.lt_of_lt_of_eq (Nat.lt_succ_self _)
        (s.scene.surroundings.shutdown.length_child Shutdown.root).symm

/-- The start keeps it, and only goes on with the shutdown. -/
theorem guarded_goOn (h : s.scene.Guarded calls) :
    s.goOn.scene.Guarded calls ∧
      Extends s.scene.surroundings.shutdown s.goOn.scene.surroundings.shutdown := by
  have hsame : s.scene.Guarded calls ∧
      Extends s.scene.surroundings.shutdown s.scene.surroundings.shutdown := ⟨h, .refl _⟩
  have hquiet {k : Closedown} (hlisteners : k.registry.listeners = s.scene.registry.listeners)
      (hshutdown : k.surroundings.shutdown = s.scene.surroundings.shutdown) : k.Guarded calls ∧
        Extends s.scene.surroundings.shutdown k.surroundings.shutdown := by
    rw [hshutdown]
    exact ⟨h.later (hshutdown ▸ h.agrees) hlisteners (hshutdown ▸ .refl _), .refl _⟩
  unfold goOn
  split
  · exact hsame
  · split
    · next hone => exact guarded_enrol h hone
    · exact hquiet rfl rfl
  · split
    · have hextends := s.scene.surroundings.shutdown.extends_trigger
      exact ⟨h.later (h.agrees.trigger _) rfl (hextends _), hextends _⟩
    · exact hsame
  · exact hquiet rfl rfl
  · split <;> exact hquiet rfl rfl
  all_goals exact hquiet rfl rfl

/-- Every move of the start keeps it that does not cancel the root. -/
theorem guarded_next (h : s.scene.Guarded calls) (m : StartMove) (hroot : m.sparesRoot = true) :
    (s.next m).scene.Guarded calls ∧
      Extends s.scene.surroundings.shutdown (s.next m).scene.surroundings.shutdown := by
  cases m with
  | goOn => exact guarded_goOn h
  | beside m =>
    unfold next
    dsimp only
    split
    · next hm => exact ⟨h.beside hm hroot, s.scene.extends_next m⟩
    · exact ⟨h, .refl _⟩

/-- The consumer finds nobody else who asks the event queue. -/
theorem Holds.launch {b : Books} (hs : s.Holds b) (hstage : s.stage = .started) :
    s.scene.launch.Holds b := by
  have hidle : s.scene.stage = .idle := hs.suits_at hstage
  have hhand := hs.scene.hand
  have hsuits := hs.scene.suits
  rw [hs.quiet.looking, hidle] at hhand
  rw [hidle] at hsuits
  have hnobody := hs.scene.asks.nobody (by rw [hs.quiet.looking]; nofun)
  exact hs.scene.congr rfl rfl rfl rfl hs.scene.tells.shows (hs.scene.stopped.congr rfl rfl)
    (fun h => by cases h) hhand (hnobody.asks nofun rfl) hsuits

end Startup

/-- The shutdown is the one that the daemon was given. -/
theorem shutdown_of_prepare {settings : QueueSettings} {shutdown : Shutdown}
    {surroundings : Surroundings} (h : prepare settings shutdown = .ok surroundings) :
    surroundings.shutdown = shutdown := by
  unfold prepare at h
  dsimp only at h
  split at h
  · cases h
    rfl
  · unfold Surroundings.withAlarm at h
    dsimp only at h
    split at h <;> cases h
    rfl

namespace Life

variable {x : Life}

/-- What holds of the life of a daemon at any time. -/
def Sound (x : Life) : Prop :=
  match x.stage with
  | .starting s => s.scene.Guarded x.calls ∧ ∃ b, s.Holds b
  | .serving k => k.Serves x.calls ∧ ∃ b, k.Holds b

/-- A call to the shutdown is nothing to the daemon. -/
theorem Sound.turn (h : x.Sound) (i : Nat) : (x.turn i).Sound := by
  have hextends := x.shutdown.extends_turn x.calls i
  obtain ⟨stage, calls⟩ := x
  cases stage with
  | starting s =>
    obtain ⟨hguarded, b, hs⟩ := h
    refine ⟨hguarded.later (hguarded.agrees.turn i) rfl hextends, b, hs.scene.withShutdown _,
      hs.peers, hs.quiet.congr rfl rfl rfl rfl, fun h => (hs.nobody h).congr rfl, hs.welcome,
      hs.suits⟩
  | serving k =>
    obtain ⟨hserves, b, hk⟩ := h
    exact ⟨hserves.later (hserves.guarded.later (hserves.guarded.agrees.turn i) rfl hextends) rfl
      hextends fun h h' => absurd h h', b, hk.withShutdown _⟩

/-- Every move keeps it, and only goes on with the shutdown. -/
theorem Sound.next (h : x.Sound) (m : LifeMove) :
    (x.next m).Sound ∧ Extends x.shutdown (x.next m).shutdown := by
  have hsame : x.Sound ∧ Extends x.shutdown x.shutdown := ⟨h, .refl _⟩
  obtain ⟨stage, calls⟩ := x
  cases m with
  | start m =>
    unfold Life.next
    cases stage with
    | serving k => exact hsame
    | starting s =>
      dsimp only
      split
      · next hroot =>
        obtain ⟨hguarded, b, hs⟩ := h
        obtain ⟨hnext, hextends⟩ := Startup.guarded_next hguarded m hroot
        exact ⟨⟨hnext, hs.next m⟩, hextends⟩
      · exact hsame
  | launch =>
    unfold Life.next
    cases stage with
    | serving k => exact hsame
    | starting s =>
      dsimp only
      split
      · next hstarted =>
        obtain ⟨hguarded, b, hs⟩ := h
        refine ⟨⟨hguarded.launch, b, hs.launch ?_⟩, Shutdown.extends_child _ _⟩
        revert hstarted
        cases s.stage <;> simp
      · exact hsame
  | serve m =>
    unfold Life.next
    cases stage with
    | starting s => exact hsame
    | serving k =>
      dsimp only
      split
      · next hroot =>
        obtain ⟨hserves, b, hk⟩ := h
        exact ⟨⟨hserves.next m hroot, hk.next m⟩, k.extends_next m⟩
      · exact hsame
  | call reason =>
    refine ⟨?_, .refl _⟩
    cases stage with
    | starting s =>
      obtain ⟨hguarded, hs⟩ := h
      exact ⟨hguarded.later (hguarded.agrees.call reason) rfl (.refl _), hs⟩
    | serving k =>
      obtain ⟨hserves, hk⟩ := h
      exact ⟨hserves.later (hserves.guarded.later (hserves.guarded.agrees.call reason) rfl (.refl _))
        rfl (.refl _) fun h h' => absurd h h', hk⟩
  | turn i =>
    refine ⟨h.turn i, ?_⟩
    cases stage <;> exact Shutdown.extends_turn _ _ _

/-- It holds after all moves, and the shutdown has only gone on. -/
theorem Sound.extend (h : x.Sound) (moves : List LifeMove) :
    (x.extend moves).Sound ∧ Extends x.shutdown (x.extend moves).shutdown :=
  extend_induction (P := fun y => y.Sound ∧ Extends x.shutdown y.shutdown) ⟨h, .refl _⟩
    (fun _ m ⟨hy, hextends⟩ => ⟨(hy.next m).1, hextends.trans (hy.next m).2⟩) moves

/-- It holds at the start, if the calls agree with the shutdown. -/
theorem sound_start (network : Network) (secured : Bool) {settings : Settings}
    {shutdown : Shutdown} {surroundings : Surroundings} {calls : List Shutdown.Call}
    (hprepare : Daemon.prepare settings.queues shutdown = .ok surroundings)
    (hagrees : Agrees calls shutdown) :
    (start network secured settings surroundings calls).Sound := by
  refine ⟨⟨?_, fun x hx => (by cases hx)⟩, Startup.holds_start network secured hprepare⟩
  show Agrees calls surroundings.shutdown
  rw [shutdown_of_prepare hprepare]
  exact hagrees

end Life

end Diameter.Daemon
