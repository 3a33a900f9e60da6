import Diameter.Proofs.Daemon.Stops
import Diameter.Proofs.Listener.Lifecycle

/-!
# An attempt to start a daemon

The listeners of a plan are started one after another, and those that have been started accept
and let handshakes go on while the next one is started, others raise the shutdown, and calls to
the event queue go on. None of this changes what others see of a listener, so whether the next
endpoint can be listened on is settled by the plan.

What was tried, and what the start found when it raised the shutdown, cannot be read off its
state, so an attempt keeps a record of it beside the life of the daemon.
-/

namespace Diameter

open Shutdown (Agrees Attended Clamour Extends)

/-! ## The root while a daemon is started -/

namespace Listener

variable {l : Listener} {e : Event} {s : Sheet} {calls : List Shutdown.Call}

/-- A listener leaves no root uncancelled for which there is a reason. -/
theorem Sheet.Step.attended (step : Sheet.Step l e s) (hl : l.HasToken)
    (he : e.sparesRoot = true) (htree : l.shutdown.IsTree)
    (h : Attended calls l.shutdown False) : Attended calls s.shutdown False := by
  have hcancel {t : TokenId} (ht : t ≠ Shutdown.root) : Attended calls (l.shutdown.cancel t) False :=
    h.later rfl (Agrees.isTriggered_cancel htree ht) fun c hc _ => hc
  cases step with
  | triggered | failed | raised => exact h.trigger htree _
  | cancelled => exact hcancel (bne_iff_ne.mp he)
  | cancelledAll => exact hcancel hl.derived
  | dispatched => exact h.later rfl (Agrees.isTriggered_child htree hl.known) fun c hc _ => hc
  | _ => exact h

end Listener

namespace Daemon

namespace Closedown

variable {k : Closedown} {calls : List Shutdown.Call}

/-- An event of a listener that leaves the root alone cancels it for no call. -/
theorem attended_perform (h : Attended calls k.surroundings.shutdown False)
    (hguarded : k.Guarded calls) (i : Nat) {e : Listener.Event} (he : e.sparesRoot = true) :
    Attended calls (k.perform i e).surroundings.shutdown False := by
  rcases hx : k.registry.listeners[i]? with _ | x
  · rw [perform_of_none hx]
    exact h
  · rw [perform_of_some hx]
    exact (Listener.sheet_perform ⟨x.state, k.surroundings⟩ e).attended
      (hguarded.tokens x (List.mem_of_getElem? hx)) he hguarded.agrees.tree h

/-- What happens beside the daemon and leaves the root alone cancels it for no call. -/
theorem attended_beside (h : Attended calls k.surroundings.shutdown False)
    (hguarded : k.Guarded calls) {m : Move} (hm : m.isBeside = true) (hroot : m.sparesRoot = true) :
    Attended calls (k.next m).surroundings.shutdown False := by
  cases m with
  | listener i e =>
    unfold Closedown.next
    dsimp only
    split
    · exact attended_perform h hguarded i hroot
    · exact h
  | stop i =>
    unfold Closedown.next
    dsimp only
    split
    · obtain hsame | ⟨e, stage, he, hperform⟩ := stop_spares k i
      · rw [hsame]
        exact h
      · rw [hperform]
        exact attended_perform h hguarded i he
    · exact h
  | turn c =>
    rw [show (k.next (.turn c)).surroundings.shutdown = k.surroundings.shutdown from
      (k.untouched_turn c).shutdown]
    exact h
  | arrange runnable => exact h
  | trigger reason => exact h.trigger hguarded.agrees.tree reason
  | consume overlooks | wait => cases hm

/-- The listeners are those that were there, or one of them has had an event. This is the move, or
the stop of this listener has gone on. -/
theorem registry_next (k : Closedown) (m : Move) :
    (k.next m).registry.listeners = k.registry.listeners ∨
      ∃ i e, (m = .listener i e ∨ m = .stop i) ∧
        (k.next m).registry = (k.perform i e).registry := by
  cases m with
  | listener i e =>
    unfold Closedown.next
    dsimp only
    split
    · exact .inr ⟨i, e, .inl rfl, rfl⟩
    · exact .inl rfl
  | stop i =>
    unfold Closedown.next
    dsimp only
    split
    · obtain hsame | ⟨e, stage, -, hperform⟩ := stop_cases k i
      · exact .inl (congrArg (fun k => k.registry.listeners) hsame)
      · refine .inr ⟨i, e, .inr rfl, ?_⟩
        show (k.stop i).registry = (k.perform i e).registry
        rw [hperform]
        rfl
    · exact .inl rfl
  | turn c => exact .inl (k.untouched_turn c).listeners
  | arrange runnable | trigger reason => exact .inl rfl
  | consume overlooks => exact .inl (k.untouched_consume overlooks).1.listeners
  | wait =>
    obtain ⟨huntouched, -⟩ | ⟨-, hlisteners, -⟩ := wait_cases k
    · exact .inl huntouched.listeners
    · exact .inl hlisteners

/-- Whatever happens, others see the listeners that they saw. -/
theorem profiles_next (k : Closedown) (m : Move) :
    (k.next m).registry.profiles = k.registry.profiles := by
  obtain hsame | ⟨i, e, -, hperform⟩ := registry_next k m
  · exact congrArg (List.map Registered.profile) hsame
  · rw [hperform]
    exact Registry.profiles_modify (f := (·.perform e))
      (fun l taken => Listener.profile_perform l e taken) k.registry i

/-- What every event of a listener keeps is kept of all. -/
theorem forall_next {P : ListenerState → Prop}
    (hP : ∀ (l : Listener) (e : Listener.Event), P l.toListenerState →
      P (l.perform e).toListenerState)
    (hk : ∀ x ∈ k.registry.listeners, P x.state) (m : Move) :
    ∀ x ∈ (k.next m).registry.listeners, P x.state := by
  obtain hsame | ⟨i, e, -, hperform⟩ := registry_next k m
  · rw [hsame]
    exact hk
  · rw [hperform]
    rcases hx : k.registry.listeners[i]? with _ | x
    · rw [perform_of_none hx]
      exact hk
    · rw [perform_of_some hx]
      intro y hy
      obtain hy | rfl := List.mem_or_eq_of_mem_set hy
      · exact hk y hy
      · exact hP ⟨x.state, k.surroundings⟩ e (hk x (List.mem_of_getElem? hx))

end Closedown

/-! ## Plans -/

/-- What the start of a daemon begins with. -/
structure Outset where
  /-- The addresses to listen on. -/
  network : Network
  /-- Whether there are credentials. -/
  secured : Bool
  /-- How listeners treat connections. -/
  terms : AcceptTerms
  /-- The endpoints to listen on. -/
  plan : List Endpoint
  /-- What the listeners will share. -/
  surroundings : Surroundings

namespace Outset

variable (o : Outset)

/-- The listeners of endpoints, when nothing happens in between. -/
def startAll (endpoints : List Endpoint) : Except ListenerError Unit × Registry :=
  Registry.startAll o.network o.secured o.terms endpoints ⟨[], o.surroundings⟩

/-- The listener of one more endpoint. -/
def startOne (r : Registry) (e : Endpoint) : Except ListenerError Registry :=
  r.startOne o.network o.secured o.terms e

/-- The life of a daemon that begins with this. -/
def life (calls : List Shutdown.Call) : Life where
  stage := .starting ⟨o.network, o.secured, o.terms,
    .start ⟨⟨[], o.surroundings⟩, ⟨Shutdown.root, false, 0⟩⟩, .listening o.plan⟩
  calls := calls

/-- These endpoints can be listened on, and this is what is seen of their listeners. -/
def Musters (endpoints : List Endpoint) (ps : List Profile) : Prop :=
  ∃ r, o.startAll endpoints = (.ok (), r) ∧ r.profiles = ps

/-- This endpoint is the first of the plan that cannot be listened on. -/
structure FailsAt (before : List Endpoint) (e : Endpoint) (cause : ListenerError)
    (ps : List Profile) : Prop where
  /-- It comes after these. -/
  planned : ∃ after, o.plan = before ++ e :: after
  /-- Those before it have their listeners, and it cannot have one. -/
  refused : ∃ r, o.startAll before = (.ok (), r) ∧ r.profiles = ps ∧ o.startOne r e = .error cause

variable {o} {before tried rest : List Endpoint} {e e' : Endpoint} {cause cause' : ListenerError}
  {ps ps' : List Profile} {r r' : Registry}

/-- A plan without endpoints is mustered without listeners. -/
theorem musters_nil : o.Musters [] [] := ⟨_, rfl, rfl⟩

/-- How an endpoint fares after others depends on what is seen of their listeners. -/
theorem Musters.concat (h : o.Musters before ps) (hr : r.profiles = ps)
    (hone : o.startOne r e = .ok r') : o.Musters (before ++ [e]) r'.profiles := by
  obtain ⟨s, hall, hs⟩ := h
  obtain ⟨s', hone', hs'⟩ := Registry.startOne_ok_of_profiles (hr.trans hs.symm) hone
  exact ⟨s', Registry.startAll_concat hall hone', hs'.symm⟩

/-- Where all endpoints before one were mustered and this one is refused, the plan fails at it. -/
theorem Musters.failsAt (h : o.Musters before ps) (hr : r.profiles = ps)
    (hone : o.startOne r e = .error cause) (hplan : o.plan = before ++ e :: rest) :
    o.FailsAt before e cause ps := by
  obtain ⟨s, hall, hs⟩ := h
  exact ⟨⟨rest, hplan⟩, s, hall, hs,
    Registry.startOne_error_of_profiles (hr.trans hs.symm) hone⟩

/-- The same endpoints are mustered with one outcome. -/
theorem Musters.unique (h : o.Musters before ps) (h' : o.Musters before ps') : ps = ps' := by
  obtain ⟨s, hall, rfl⟩ := h
  obtain ⟨s', hall', rfl⟩ := h'
  exact congrArg Registry.profiles (Prod.mk.inj (hall.symm.trans hall')).2

/-- The endpoints before the one at which the plan fails were mustered. -/
theorem FailsAt.musters (h : o.FailsAt before e cause ps) : o.Musters before ps := by
  obtain ⟨r, hall, hr, -⟩ := h.refused
  exact ⟨r, hall, hr⟩

/-- No endpoint from the first on that cannot be listened on is mustered. -/
theorem FailsAt.not_musters (h : o.FailsAt before e cause ps) (rest : List Endpoint) :
    ¬o.Musters (before ++ e :: rest) ps' := by
  rintro ⟨s, hall, -⟩
  obtain ⟨r, hbefore, -, hone⟩ := h.refused
  have herror : o.startAll (before ++ e :: rest) = _ :=
    Registry.startAll_of_error hbefore hone rest
  cases (Prod.mk.inj (herror.symm.trans hall)).1

/-- A plan that fails somewhere is never mustered as a whole. -/
theorem FailsAt.not_musters_plan (h : o.FailsAt before e cause ps) : ¬o.Musters o.plan ps' := by
  obtain ⟨after, hplan⟩ := h.planned
  rw [hplan]
  exact h.not_musters after

/-- What is mustered of the plan comes before. -/
theorem FailsAt.before_of_musters (h : o.FailsAt before e cause ps) (hplan : o.plan = tried ++ rest)
    (hmusters : o.Musters tried ps') : tried <+: before := by
  obtain ⟨after, hafter⟩ := h.planned
  obtain ⟨more, hmore, -⟩ | ⟨more, hmore, hlater⟩ :=
    List.append_eq_append_iff.mp (hplan.symm.trans hafter)
  · exact ⟨more, hmore.symm⟩
  · cases more with
    | nil => exact ⟨[], hmore.symm ▸ by simp⟩
    | cons d more =>
      obtain ⟨rfl, -⟩ := List.cons.inj hlater
      rw [hmore] at hmusters
      exact absurd hmusters (h.not_musters more)

/-- A plan fails at one endpoint only, for one reason. -/
theorem FailsAt.unique {before' : List Endpoint} (h : o.FailsAt before e cause ps)
    (h' : o.FailsAt before' e' cause' ps') :
    before = before' ∧ e = e' ∧ cause = cause' ∧ ps = ps' := by
  obtain ⟨after, hplan⟩ := h.planned
  obtain ⟨after', hplan'⟩ := h'.planned
  have hmusters := h.musters
  have hmusters' := h'.musters
  obtain ⟨r, hall, -, hone⟩ := h.refused
  obtain ⟨r', hall', -, hone'⟩ := h'.refused
  obtain ⟨rfl, rfl, rfl⟩ := Registry.first_unique (hplan.symm.trans hplan') hall hone hall' hone'
  exact ⟨rfl, rfl, rfl, hmusters.unique hmusters'⟩

/-- A plan is mustered, or there is a first endpoint that cannot be listened on. -/
theorem musters_or_failsAt (o : Outset) :
    (∃ ps, o.Musters o.plan ps) ∨ ∃ before e cause ps, o.FailsAt before e cause ps := by
  rcases hall : o.startAll o.plan with ⟨cause | done, r⟩
  · obtain ⟨before, e, after, s, hplan, hbefore, hone⟩ := Registry.exists_of_startAll_error hall
    exact .inr ⟨before, e, cause, _, ⟨after, hplan⟩, s, hbefore, rfl, hone⟩
  · exact .inl ⟨_, r, hall, rfl⟩

end Outset

/-! ## An attempt -/

namespace Startup

/-- The endpoint that is tried when the start goes on. -/
def tries (s : Startup) : List Endpoint :=
  match s.stage with
  | .listening (e :: _) => [e]
  | _ => []

/-- Whether the shutdown is raised when the start goes on. -/
def raises (s : Startup) : Bool :=
  match s.stage with
  | .stopping _ _ => s.scene.hasStopped
  | _ => false

end Startup

/-- The life of a daemon, and a record of its start. -/
structure Attempt where
  /-- The life. -/
  life : Life
  /-- The endpoints that were tried, first to last. -/
  tried : List Endpoint
  /-- The reason that there was when the start raised the shutdown, if it has. -/
  found : Option (Option ShutdownReason)

namespace Attempt

/-- What a move leads to. -/
def next (a : Attempt) (m : LifeMove) : Attempt :=
  match a.life.stage, m with
  | .starting s, .start .goOn =>
    { life := a.life.next m
      tried := a.tried ++ s.tries
      found := if s.raises then some s.scene.surroundings.shutdown.reason else a.found }
  | _, _ => { a with life := a.life.next m }

/-- What moves lead to. -/
def extend (a : Attempt) (moves : List LifeMove) : Attempt := moves.foldl next a

/-- Nothing has been tried. -/
def start (o : Outset) (calls : List Shutdown.Call) : Attempt := ⟨o.life calls, [], none⟩

theorem extend_append (a : Attempt) (moves more : List LifeMove) :
    a.extend (moves ++ more) = (a.extend moves).extend more := List.foldl_append

theorem life_next (a : Attempt) (m : LifeMove) : (a.next m).life = a.life.next m := by
  unfold next
  split <;> rfl

/-- The life of an attempt is the life with the same moves. -/
theorem life_extend (a : Attempt) (moves : List LifeMove) :
    (a.extend moves).life = a.life.extend moves := by
  induction moves generalizing a with
  | nil => rfl
  | cons m moves ih => exact (ih (a.next m)).trans (congrArg (Life.extend · moves) (a.life_next m))

/-- What every move keeps holds after all moves. -/
theorem extend_induction {P : Attempt → Prop} {a : Attempt} (ha : P a)
    (step : ∀ a m, P a → P (a.next m)) (moves : List LifeMove) : P (a.extend moves) := by
  induction moves generalizing a with
  | nil => exact ha
  | cons m moves ih => exact ih (step a m ha)

end Attempt

/-! ## What is known at each stage -/

namespace Outset

/-- The start has given up: all listeners have been stopped, and the shutdown was raised. -/
structure GivenUp (o : Outset) (tried : List Endpoint) (found : Option (Option ShutdownReason))
    (k : Closedown) (before : List Endpoint) (e : Endpoint) (cause : ListenerError) : Prop where
  failsAt : o.FailsAt before e cause k.registry.profiles
  tried : tried = before ++ [e]
  isOver : ∀ x ∈ k.registry.listeners, x.state.IsOver
  reason : ∃ earlier, found = some earlier ∧
    k.surroundings.shutdown.reason = some (earlier.getD (.listenerFailed e.label))

/-- What is known at a stage of the start. -/
def Fits (o : Outset) (tried : List Endpoint) (found : Option (Option ShutdownReason))
    (k : Closedown) : StartStage → Prop
  | .listening rest => o.plan = tried ++ rest ∧ o.Musters tried k.registry.profiles
  | .started => tried = o.plan ∧ o.Musters o.plan k.registry.profiles
  | .stopping cause label => k.stage = .stopping ∧ ∃ before e,
      o.FailsAt before e cause k.registry.profiles ∧ tried = before ++ [e] ∧ label = e.label
  | .clearing cause | .destroying cause | .waking cause _ | .failed cause _ =>
    ∃ before e, o.GivenUp tried found k before e cause

/-- What holds while the daemon is being started. -/
structure Starts (o : Outset) (calls : List Shutdown.Call) (tried : List Endpoint)
    (found : Option (Option ShutdownReason)) (s : Startup) : Prop where
  network : s.network = o.network
  secured : s.secured = o.secured
  terms : s.terms = o.terms
  guarded : s.scene.Guarded calls
  halted : s.scene.Halted
  attended : Attended calls s.scene.surroundings.shutdown False
  fits : o.Fits tried found s.scene s.stage

/-- What holds when it has been started. -/
structure Serves (o : Outset) (tried : List Endpoint) (k : Closedown) : Prop where
  tried : tried = o.plan
  musters : o.Musters o.plan k.registry.profiles
  begun : ∀ x ∈ k.registry.listeners, x.state.status ≠ .notStarted

variable {o : Outset} {calls calls' : List Shutdown.Call} {tried : List Endpoint}
  {found : Option (Option ShutdownReason)} {k k' : Closedown} {s : Startup} {stage : StartStage}
  {before : List Endpoint} {e : Endpoint} {cause : ListenerError}

/-- That a start has been given up depends on the profiles, on listeners that are over, and on a
shutdown that has only grown. -/
theorem GivenUp.congr (h : o.GivenUp tried found k before e cause)
    (hprofiles : k'.registry.profiles = k.registry.profiles)
    (hover : ∀ x ∈ k'.registry.listeners, x.state.IsOver)
    (hextends : Extends k.surroundings.shutdown k'.surroundings.shutdown) :
    o.GivenUp tried found k' before e cause := by
  obtain ⟨earlier, hfound, hreason⟩ := h.reason
  exact ⟨hprofiles ▸ h.failsAt, h.tried, hover, earlier, hfound, hextends.reason _ hreason⟩

/-- What others do is no matter for what is known. -/
theorem Fits.congr (h : o.Fits tried found k stage) (hstage : k'.stage = k.stage)
    (hprofiles : k'.registry.profiles = k.registry.profiles)
    (hover : (∀ x ∈ k.registry.listeners, x.state.IsOver) →
      ∀ x ∈ k'.registry.listeners, x.state.IsOver)
    (hextends : Extends k.surroundings.shutdown k'.surroundings.shutdown) :
    o.Fits tried found k' stage := by
  cases stage with
  | listening rest => exact ⟨h.1, hprofiles ▸ h.2⟩
  | started => exact ⟨h.1, hprofiles ▸ h.2⟩
  | stopping cause label =>
    obtain ⟨hstopping, before, e, hfails, hrest⟩ := h
    exact ⟨hstage.trans hstopping, before, e, hprofiles ▸ hfails, hrest⟩
  | clearing cause | destroying cause | waking cause side | failed cause result =>
    obtain ⟨before, e, hgiven⟩ := h
    exact ⟨before, e, hgiven.congr hprofiles (hover hgiven.isOver) hextends⟩

/-- What goes on beside the start keeps it. -/
theorem Starts.beside (h : o.Starts calls tried found s) {m : Move} (hm : m.isBeside = true)
    (hroot : m.sparesRoot = true) :
    o.Starts calls tried found { s with scene := s.scene.next m } :=
  ⟨h.network, h.secured, h.terms, h.guarded.beside hm hroot, h.halted.beside h.guarded hm hroot,
    Closedown.attended_beside h.attended h.guarded hm hroot,
    h.fits.congr (Closedown.stage_next hm) (s.scene.profiles_next m)
      (fun hover => Closedown.forall_next (fun _ e hl => Listener.isOver_perform hl e) hover m)
      (s.scene.extends_next m)⟩

/-- A call to the shutdown keeps it. -/
theorem Starts.turn (h : o.Starts calls tried found s) (i : Nat) :
    let after := s.scene.surroundings.shutdown.turn calls i
    o.Starts after.1 tried found { s with
      scene := s.scene.withSurroundings { s.scene.surroundings with shutdown := after.2 } } := by
  have hextends := s.scene.surroundings.shutdown.extends_turn calls i
  have hguarded : Closedown.Guarded (s.scene.withSurroundings { s.scene.surroundings with
      shutdown := (s.scene.surroundings.shutdown.turn calls i).2 }) _ :=
    h.guarded.later (h.guarded.agrees.turn i) rfl hextends
  exact ⟨h.network, h.secured, h.terms, hguarded,
    h.halted.around h.guarded hguarded rfl rfl hextends rfl,
    h.attended.turn h.guarded.agrees.tree i, h.fits.congr rfl rfl id hextends⟩

/-- Those who look after the start find nothing that they did not know. -/
theorem Starts.goTo (h : o.Starts calls tried found s) {tried' : List Endpoint}
    {found' : Option (Option ShutdownReason)}
    (hlisteners : k.registry.listeners = s.scene.registry.listeners)
    (hstops : k.stops = s.scene.stops)
    (hconnections : k.surroundings.connections = s.scene.surroundings.connections)
    (hextends : Extends s.scene.surroundings.shutdown k.surroundings.shutdown)
    (hagrees : Agrees calls k.surroundings.shutdown)
    (hattended : Attended calls k.surroundings.shutdown False)
    (hfits : o.Fits tried' found' k stage) :
    o.Starts calls tried' found' { s with scene := k, stage := stage } := by
  have hguarded := h.guarded.later hagrees hlisteners hextends
  exact ⟨h.network, h.secured, h.terms, hguarded,
    h.halted.around h.guarded hguarded hlisteners hstops hextends hconnections, hattended, hfits⟩

/-- One endpoint more is tried. -/
theorem Starts.listen (h : o.Starts calls tried found s) {rest : List Endpoint}
    (hstage : s.stage = .listening (e :: rest)) :
    o.Starts calls (tried ++ [e]) found s.goOn := by
  have hfits := h.fits
  rw [hstage] at hfits
  obtain ⟨hplan, hmusters⟩ := hfits
  obtain ⟨network, secured, terms, scene, stage⟩ := s
  obtain rfl : stage = .listening (e :: rest) := hstage
  obtain rfl : network = o.network := h.network
  obtain rfl : secured = o.secured := h.secured
  obtain rfl : terms = o.terms := h.terms
  unfold Startup.goOn
  dsimp only
  rcases hone : scene.registry.startOne o.network o.secured o.terms e with cause | r
  · exact h.goTo (k := { scene with stage := .stopping }) rfl rfl rfl (.refl _) h.guarded.agrees
      h.attended ⟨rfl, tried, e, hmusters.failsAt rfl hone hplan, rfl, rfl⟩
  · have hguarded := (Startup.guarded_enrol h.guarded hone).1
    refine ⟨rfl, rfl, rfl, hguarded, h.halted.enrol hone, ?_, ?_, hmusters.concat rfl hone⟩
    · obtain ⟨-, -, -, -, rfl⟩ | ⟨taken, -, rfl⟩ := Registry.exists_of_startOne hone
      · exact h.attended
      · have htree := h.guarded.agrees.tree
        exact h.attended.later rfl (Agrees.isTriggered_child htree htree.length_pos) fun c hc _ => hc
    · rw [hplan, List.append_assoc]
      rfl

/-- When all stops have returned the shutdown is raised. -/
theorem Starts.raise (h : o.Starts calls tried found s) {label : String}
    (hstage : s.stage = .stopping cause label) (hstopped : s.scene.hasStopped = true) :
    o.Starts calls tried (some s.scene.surroundings.shutdown.reason) s.goOn := by
  have hfits := h.fits
  rw [hstage] at hfits
  obtain ⟨-, before, e, hfails, htried, rfl⟩ := hfits
  have hextends := s.scene.surroundings.shutdown.extends_trigger (.listenerFailed e.label)
  unfold Startup.goOn
  rw [hstage]
  dsimp only
  rw [if_pos hstopped]
  exact h.goTo rfl rfl rfl hextends (h.guarded.agrees.trigger _)
    (h.attended.trigger h.guarded.agrees.tree _) ⟨before, e, hfails, htried,
      h.halted.isOver hstopped, _, rfl, Shutdown.reason_trigger _ _⟩

/-- What the start does after that has nothing to do with the listeners and the shutdown. -/
theorem Starts.giveUp (h : o.Starts calls tried found s)
    (hgiven : ∃ before e, o.GivenUp tried found s.scene before e cause)
    (hlisteners : k.registry.listeners = s.scene.registry.listeners)
    (hstops : k.stops = s.scene.stops)
    (hconnections : k.surroundings.connections = s.scene.surroundings.connections)
    (hshutdown : k.surroundings.shutdown = s.scene.surroundings.shutdown)
    (hfits : (∃ before e, o.GivenUp tried found k before e cause) → o.Fits tried found k stage) :
    o.Starts calls tried found { s with scene := k, stage := stage } := by
  obtain ⟨before, e, hgiven⟩ := hgiven
  have hsame : Extends s.scene.surroundings.shutdown k.surroundings.shutdown := by
    rw [hshutdown]
    exact .refl _
  exact h.goTo hlisteners hstops hconnections hsame (hshutdown ▸ h.guarded.agrees)
    (hshutdown ▸ h.attended) (hfits ⟨before, e, hgiven.congr
      (congrArg (List.map Registered.profile) hlisteners) (hlisteners ▸ hgiven.isOver) hsame⟩)

/-- The start keeps it. -/
theorem Starts.goOn (h : o.Starts calls tried found s) : o.Starts calls (tried ++ s.tries)
    (if s.raises then some s.scene.surroundings.shutdown.reason else found) s.goOn := by
  have hfits := h.fits
  have hnothing (htries : s.tries = []) (hraises : s.raises = false)
      (hgo : o.Starts calls tried found s.goOn) : o.Starts calls (tried ++ s.tries)
        (if s.raises then some s.scene.surroundings.shutdown.reason else found) s.goOn := by
    rw [htries, hraises, List.append_nil]
    exact hgo
  cases hstage : s.stage with
  | listening endpoints =>
    cases endpoints with
    | nil =>
      rw [hstage] at hfits
      obtain ⟨hplan, hmusters⟩ := hfits
      rw [List.append_nil] at hplan
      refine hnothing (by rw [Startup.tries, hstage]) (by rw [Startup.raises, hstage]) ?_
      unfold Startup.goOn
      rw [hstage]
      exact h.goTo rfl rfl rfl (.refl _) h.guarded.agrees h.attended ⟨hplan.symm, hplan ▸ hmusters⟩
    | cons e rest =>
      rw [show s.tries = [e] by rw [Startup.tries, hstage],
        show s.raises = false by rw [Startup.raises, hstage]]
      exact h.listen hstage
  | stopping cause label =>
    rw [show s.tries = [] by rw [Startup.tries, hstage], List.append_nil,
      show s.raises = s.scene.hasStopped by rw [Startup.raises, hstage]]
    by_cases hstopped : s.scene.hasStopped = true
    · rw [if_pos hstopped]
      exact h.raise hstage hstopped
    · rw [if_neg hstopped]
      unfold Startup.goOn
      rw [hstage]
      dsimp only
      rw [if_neg hstopped]
      exact h
  | clearing cause =>
    refine hnothing (by rw [Startup.tries, hstage]) (by rw [Startup.raises, hstage]) ?_
    rw [hstage] at hfits
    unfold Startup.goOn
    rw [hstage]
    exact h.giveUp hfits rfl rfl rfl rfl id
  | destroying cause =>
    refine hnothing (by rw [Startup.tries, hstage]) (by rw [Startup.raises, hstage]) ?_
    rw [hstage] at hfits
    unfold Startup.goOn
    rw [hstage]
    dsimp only
    split
    · exact h.giveUp hfits rfl rfl rfl rfl id
    · exact h.giveUp hfits rfl rfl rfl rfl id
  | waking cause side =>
    refine hnothing (by rw [Startup.tries, hstage]) (by rw [Startup.raises, hstage]) ?_
    rw [hstage] at hfits
    unfold Startup.goOn
    rw [hstage]
    cases side <;> exact h.giveUp hfits rfl rfl rfl rfl id
  | failed cause result | started =>
    refine hnothing (by rw [Startup.tries, hstage]) (by rw [Startup.raises, hstage]) ?_
    unfold Startup.goOn
    rw [hstage]
    exact h

end Outset

namespace Attempt

variable {o : Outset} {a : Attempt}

/-- What holds of an attempt at any time. -/
def Keeps (o : Outset) (a : Attempt) : Prop :=
  match a.life.stage with
  | .starting s => o.Starts a.life.calls a.tried a.found s
  | .serving k => o.Serves a.tried k

/-- The invariant holds when the attempt begins, whatever was raised before. -/
theorem keeps_start {calls : List Shutdown.Call} (hagrees : Agrees calls o.surroundings.shutdown)
    (hattended : Attended calls o.surroundings.shutdown False) : (start o calls).Keeps o :=
  ⟨rfl, rfl, rfl, ⟨hagrees, fun x hx => absurd hx List.not_mem_nil⟩,
    ⟨rfl, fun i x stage hx => (by cases hx), fun x hx => absurd hx List.not_mem_nil,
      fun x hx => absurd hx List.not_mem_nil⟩, hattended, rfl, Outset.musters_nil⟩

/-- Every move keeps it. -/
theorem Keeps.next (h : a.Keeps o) (m : LifeMove) : (a.next m).Keeps o := by
  obtain ⟨⟨stage, calls⟩, tried, found⟩ := a
  cases stage with
  | starting s =>
    replace h : o.Starts calls tried found s := h
    cases m with
    | start m =>
      cases m with
      | goOn => exact h.goOn
      | beside m =>
        unfold Attempt.next Life.next Startup.next
        dsimp only
        split
        · next hroot =>
          by_cases hm : m.isBeside = true
          · rw [if_pos hm]
            exact h.beside hm hroot
          · rw [if_neg hm]
            exact h
        · exact h
    | launch =>
      unfold Attempt.next Life.next
      dsimp only
      split
      · next hstarted =>
        have hstage : s.stage = .started := by
          revert hstarted
          cases s.stage <;> simp
        have hfits := h.fits
        rw [hstage] at hfits
        exact ⟨hfits.1, hfits.2, h.halted.begun⟩
      · exact h
    | serve m => exact h
    | call reason =>
      exact ⟨h.network, h.secured, h.terms,
        h.guarded.later (h.guarded.agrees.call reason) rfl (.refl _), h.halted,
        h.attended.later rfl rfl fun c hc _ => List.mem_append_left _ hc, h.fits⟩
    | turn i => exact h.turn i
  | serving k =>
    replace h : o.Serves tried k := h
    cases m with
    | serve m =>
      unfold Attempt.next Life.next
      dsimp only
      split
      · exact ⟨h.tried, (k.profiles_next m).symm ▸ h.musters, Closedown.forall_next
          (P := fun x => x.status ≠ .notStarted)
          (fun _ e hl => Listener.status_perform_ne_notStarted hl e) h.begun m⟩
      · exact h
    | start m => exact h
    | launch => exact h
    | call reason => exact h
    | turn i => exact ⟨h.tried, h.musters, h.begun⟩

/-- The invariant holds after any moves. -/
theorem Keeps.extend (h : a.Keeps o) (moves : List LifeMove) : (a.extend moves).Keeps o :=
  extend_induction h (fun _ m ha => ha.next m) moves

end Attempt

end Daemon

end Diameter
