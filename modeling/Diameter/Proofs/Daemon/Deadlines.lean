import Diameter.Proofs.Daemon.Attempt
import Diameter.Proofs.Daemon.Ending
import Diameter.Proofs.Daemon.Plan
import Diameter.Proofs.Listener.Gate

/-!
# How far off a deadline may be

The deadline of a connection is the time at which it is accepted and the seconds of the settings.
The rules ask for one second at least, and for no end; the clock has an end. Main statement: as
long as the clock can show the deadline, the connection gets its handshake and the accept loop goes
on. Otherwise the loop breaks down over the connection, which gets no handshake and is let go of
unclosed; the listener never starts a handshake again, and neither its status nor the shutdown
tells. From 2 ^ 63 seconds on this happens to the first connection, and no rule is broken by so
many.
-/

namespace Diameter

/-! ## The clock -/

namespace Clock

/-- The last moment that the clock shows, in milliseconds. -/
theorem last_eq : last = 2 ^ 63 * 1000 - 1 := by decide

/-- What the clock shows after some seconds, if they fit. -/
theorem after?_of_lt {now seconds : Nat} (h : now / 1000 + seconds < 2 ^ 63) :
    after? now (ofSeconds seconds) = some (now + ofSeconds seconds) := by
  have hle : now + ofSeconds seconds ≤ last := by
    rw [last_eq, ofSeconds]
    omega
  exact if_pos hle

/-- Otherwise it cannot show them. -/
theorem after?_of_le {now seconds : Nat} (h : 2 ^ 63 ≤ now / 1000 + seconds) :
    after? now (ofSeconds seconds) = none := by
  have hlt : ¬ now + ofSeconds seconds ≤ last := by
    rw [last_eq, ofSeconds]
    omega
  exact if_neg hlt

end Clock

/-! ## The rules -/

/-- The rules ask for one second at least. -/
theorem Settings.seconds_pos_of_violations {s : Settings} (h : s.violations = []) :
    0 < s.timeouts.incomingSeconds := by
  simp only [violations, limitViolations, List.append_eq_nil_iff, violationIf_eq_nil] at h
  obtain ⟨⟨-, ⟨-, hseconds⟩, -⟩, -⟩ := h
  exact Nat.pos_of_ne_zero (ne_of_beq_false hseconds)

/-- They do not ask for more. -/
theorem Settings.violations_of_seconds {s : Settings} (h : s.violations = []) {seconds : Nat}
    (hpositive : 0 < seconds) : ({ s with timeouts := ⟨seconds⟩ } : Settings).violations = [] := by
  have hseconds : (seconds == 0) = false := beq_false_of_ne (Nat.ne_of_gt hpositive)
  simp only [violations, limitViolations, List.append_eq_nil_iff, violationIf_eq_nil] at h ⊢
  obtain ⟨⟨⟨htransports, haddresses⟩, ⟨hsize, -⟩, hthresholds⟩, hmetrics⟩ := h
  exact ⟨⟨⟨htransports, haddresses⟩, ⟨hsize, hseconds⟩, hthresholds⟩, hmetrics⟩

/-! ## One round of the accept loop -/

namespace Listener

/-- The accept loop takes this connection when it goes round. -/
structure Takes (l : Listener) (overlooks : Bool) (c : ConnectionId) : Prop where
  /-- It holds the acceptor. -/
  acceptor : l.acceptor = .accepting
  /-- It sees no cancellation. -/
  unseen : (!overlooks && l.shutdown.isCancelled l.token) = false
  /-- The connection is the first to be accepted. -/
  next : ∃ later, l.backlog = .ok c :: later

/-- The connection has got its handshake. -/
structure Serves (l : Listener) (c : ConnectionId) (deadline : Nat) (after : Listener) : Prop where
  /-- The handshake waits, and has this deadline. -/
  handshakes : ∃ token, after.handshakes = l.handshakes ++ [⟨c, deadline, token, .waiting .turn⟩]
  /-- It is in the set. -/
  outstanding : after.outstanding = l.outstanding ++ [l.handshakes.length]
  /-- The loop goes on. -/
  acceptor : after.acceptor = .accepting
  /-- The listener is as far as it was. -/
  status : after.status = l.status

/-- The accept loop has broken down over the connection. -/
structure Strands (l : Listener) (c : ConnectionId) (after : Listener) : Prop where
  /-- No handshake was started. -/
  handshakes : after.handshakes = l.handshakes
  /-- Nobody has closed the connection. -/
  closes : after.connections.map Connection.closes = l.connections.map Connection.closes
  /-- Nobody holds it. -/
  held : ∀ x, after.connections[c]? = some x → x.held = false
  /-- The loop is gone. -/
  acceptor : after.acceptor = .dropped
  /-- So is all that it had not accepted. -/
  backlog : after.backlog = []
  /-- The status does not tell. -/
  status : after.status = l.status
  /-- Nor is the daemon told to stop. -/
  shutdown : after.shutdown = l.shutdown

variable {l : Listener} {overlooks : Bool} {c : ConnectionId} {deadline : Nat} {e : Event}

/-- A connection whose deadline the clock can show gets its handshake. -/
theorem acceptResult_of_some (hd : Clock.after? l.now l.timeout = some deadline) :
    l.acceptResult (.ok c) = l.countAccepted.dispatch c deadline := by
  have hcounted : Clock.after? l.countAccepted.now l.countAccepted.timeout = some deadline := hd
  rw [acceptResult, hcounted]

/-- A connection whose deadline the clock cannot show breaks the loop down. -/
theorem acceptResult_of_none (hd : Clock.after? l.now l.timeout = none) :
    l.acceptResult (.ok c) = l.countAccepted.breakLoop c := by
  have hcounted : Clock.after? l.countAccepted.now l.countAccepted.timeout = none := hd
  rw [acceptResult, hcounted]

/-- Such a round is about this connection. -/
theorem Takes.exists_perform_eq (h : l.Takes overlooks c) : ∃ later,
    l.perform (.accept overlooks) = { l with backlog := later }.acceptResult (.ok c) := by
  obtain ⟨later, hnext⟩ := h.next
  refine ⟨later, ?_⟩
  show l.acceptSeeing _ = _
  rw [h.unseen, acceptSeeing, if_neg (not_not.mpr h.acceptor), if_neg Bool.false_ne_true,
    acceptNext, hnext]

/-- A connection whose deadline can be shown gets its handshake. -/
theorem Takes.serves (h : l.Takes overlooks c) (hd : Clock.after? l.now l.timeout = some deadline) :
    l.Serves c deadline (l.perform (.accept overlooks)) := by
  obtain ⟨later, hperform⟩ := h.exists_perform_eq
  have hdispatch : l.perform (.accept overlooks) =
      ({ l with backlog := later }.countAccepted).dispatch c deadline :=
    hperform.trans (acceptResult_of_some hd)
  have hsheet := sheet_dispatch ({ l with backlog := later }.countAccepted) c deadline
  have hgate := gate_dispatch ({ l with backlog := later }.countAccepted) c deadline
  rw [← hdispatch] at hsheet hgate
  exact ⟨⟨_, congrArg Sheet.handshakes hsheet⟩, congrArg Sheet.outstanding hsheet,
    (congrArg Prod.fst hgate).trans h.acceptor, congrArg Sheet.status hsheet⟩

/-- Nobody holds a connection any more that was let go of, whatever else is let go of. -/
theorem held_dropAcceptor (hl : ∀ x, l.connections[c]? = some x → x.held = false) :
    ∀ x, l.dropAcceptor.connections[c]? = some x → x.held = false := by
  have hlost (lost : List ConnectionId) (m : Listener)
      (hm : ∀ x, m.connections[c]? = some x → x.held = false) :
      ∀ x, (lost.foldl (fun l c => l.modifyConnection c Connection.release) m).connections[c]? =
        some x → x.held = false := by
    induction lost generalizing m with
    | nil => exact hm
    | cons other lost ih =>
      refine ih _ fun x hx => ?_
      replace hx : (m.connections.modify other Connection.release)[c]? = some x := hx
      rw [List.getElem?_modify] at hx
      obtain ⟨y, hy, rfl⟩ := Option.map_eq_some_iff.mp hx
      split_ifs
      · rfl
      · exact hm y hy
  exact hlost _ l hl

/-- The loop breaks down over a connection whose deadline cannot be shown. -/
theorem Takes.strands (h : l.Takes overlooks c) (hd : Clock.after? l.now l.timeout = none) :
    l.Strands c (l.perform (.accept overlooks)) := by
  obtain ⟨later, hperform⟩ := h.exists_perform_eq
  have hbreak : l.perform (.accept overlooks) =
      ({ l with backlog := later }.countAccepted).breakLoop c :=
    hperform.trans (acceptResult_of_none hd)
  have hsheet := sheet_dropAcceptor
    (({ l with backlog := later }.countAccepted).modifyConnection c Connection.release)
  have hroster := roster_breakLoop ({ l with backlog := later }.countAccepted) c
  have hheld : ∀ x, (({ l with backlog := later }.countAccepted).breakLoop c).connections[c]? =
      some x → x.held = false := by
    refine held_dropAcceptor fun x hx => ?_
    replace hx : (l.connections.modify c Connection.release)[c]? = some x := hx
    rw [List.getElem?_modify_eq] at hx
    obtain ⟨y, -, rfl⟩ := Option.map_eq_some_iff.mp hx
    rfl
  rw [hbreak]
  exact ⟨congrArg Sheet.handshakes hsheet, congrArg Roster.closes hroster, hheld,
    congrArg Roster.acceptor hroster, rfl, congrArg Sheet.status hsheet,
    congrArg Sheet.shutdown hsheet⟩

/-! ## After the loop has gone -/

/-- Without an acceptor no handshake is started, and no acceptor comes back. -/
theorem Roster.Step.of_dropped {r s : Roster} {ds : List Deed} (step : Roster.Step r ds s)
    (hr : r.acceptor = .dropped) : s.acceptor = .dropped ∧ s.places.length = r.places.length := by
  cases step with
  | start hidle => cases hr.symm.trans hidle
  | accept haccepting => cases hr.symm.trans haccepting
  | drop | strand => exact ⟨rfl, rfl⟩
  | connect | release | drain => exact ⟨hr, rfl⟩
  | claimClosing | claimHanding | yield | close | raise | handOver | complete =>
    exact ⟨hr, List.length_modify ..⟩

/-- Without an acceptor there is none after any number of deeds, and no connection is added. -/
theorem Roster.Path.of_dropped {r s : Roster} {ds : List Deed} (path : Roster.Path r ds s)
    (hr : r.acceptor = .dropped) : s.acceptor = .dropped ∧ s.places.length = r.places.length := by
  induction path with
  | nil => exact ⟨hr, rfl⟩
  | snoc path step ih =>
    obtain ⟨hacceptor, hlength⟩ := ih
    obtain ⟨hacceptor', hlength'⟩ := step.of_dropped hacceptor
    exact ⟨hacceptor', hlength'.trans hlength⟩

/-- Without an acceptor no event brings one back or adds a handshake. -/
theorem perform_of_dropped (hl : l.acceptor = .dropped) (e : Event) :
    (l.perform e).acceptor = .dropped ∧ (l.perform e).handshakes.length = l.handshakes.length := by
  obtain ⟨hacceptor, hlength⟩ := (path_perform l e).of_dropped hl
  simp only [roster, List.length_map] at hlength
  exact ⟨hacceptor, hlength⟩

/-- Only a stop that returns changes the status then. -/
theorem status_perform_of_dropped (hl : l.acceptor = .dropped)
    (he : ∀ taken, e ≠ .conclude taken) : (l.perform e).status = l.status := by
  by_cases hstart : e = .start
  · subst hstart
    show l.start.2.status = l.status
    unfold Listener.start
    rw [hl, if_neg fun h => nomatch h.1]
    rfl
  · have hstep := sheet_perform l e
    show (l.perform e).sheet.status = l.status
    generalize (l.perform e).sheet = s at hstep
    cases hstep with
    | started => exact absurd rfl hstart
    | concluded => exact absurd rfl (he _)
    | failed ha => cases hl.symm.trans ha
    | _ => rfl

/-- A round that fails lets go of the acceptor. -/
theorem acceptor_of_nextError {error : SystemError} (ha : l.acceptor = .accepting)
    (hnext : l.nextError? = some error) (htransient : error.isTransient = false)
    (cancelled : Bool) : (l.acceptSeeing cancelled).acceptor = .dropped := by
  have hfail (m : Listener) (error : SystemError) : (m.failAccept error).acceptor = .dropped :=
    congrArg Prod.fst (gate_failAccept m error)
  rw [acceptSeeing, if_neg (not_not.mpr ha)]
  split_ifs
  · rfl
  · unfold nextError? at hnext
    unfold acceptNext
    rcases hbacklog : l.backlog with _ | ⟨_ | c, rest⟩
    · rw [hbacklog] at hnext
      dsimp only at hnext ⊢
      split_ifs at hnext ⊢
      exact hfail l _
    · rw [hbacklog] at hnext
      obtain rfl := Option.some.inj hnext
      dsimp only [acceptResult]
      rw [htransient]
      exact hfail _ _
    · rw [hbacklog] at hnext
      cases hnext

end Listener

/-- The listener has been started, and it is running as long as it accepts. -/
structure ListenerState.Awake (x : ListenerState) : Prop where
  /-- It has been started. -/
  started : x.acceptor ≠ .idle
  /-- It is running. -/
  running : x.acceptor = .accepting → x.status = .running

/-- Only a stop that returns changes this. A failure is the only other change of the status, and
it lets go of the acceptor. -/
theorem ListenerState.Awake.perform {l : Listener} (hl : l.toListenerState.Awake)
    {e : Listener.Event} (he : ∀ taken, e ≠ .conclude taken) :
    (l.perform e).toListenerState.Awake := by
  refine ⟨(Listener.path_perform l e).started hl.started, fun haccepting => ?_⟩
  have hbefore : l.acceptor = .accepting := by
    cases ha : l.acceptor with
    | accepting => rfl
    | idle => exact absurd ha hl.started
    | dropped => cases (Listener.perform_of_dropped ha e).1.symm.trans haccepting
  have hrunning := hl.running hbefore
  have hstep := Listener.sheet_perform l e
  show (l.perform e).sheet.status = .running
  generalize (l.perform e).sheet = s at hstep
  cases hstep with
  | started => rfl
  | concluded => exact absurd rfl (he _)
  | failed ha hnext htransient =>
    cases (Listener.acceptor_of_nextError ha hnext htransient _).symm.trans haccepting
  | _ => exact hrunning

/-! ## The listeners of a daemon -/

namespace Daemon

open Listener (ConnectionId)

/-- Whether a stop of this listener may return in a move. -/
def Move.mayConclude (i : Nat) : Move → Bool
  | .listener j (.conclude _) | .stop j => j == i
  | _ => false

namespace Closedown

variable {k : Closedown} {i : Nat} {l : Listener} {P : ListenerState → Prop}

/-- A move leaves the listener as it is, or is an event of it. -/
theorem listener_next (hl : k.registry.listener? i = some l) (m : Move) :
    ∃ later, (k.next m).registry.listener? i = some later ∧
      (later.toListenerState = l.toListenerState ∨
        ∃ e, (m = .listener i e ∨ m = .stop i) ∧ later = l.perform e) := by
  obtain ⟨x, hx, rfl⟩ := Option.map_eq_some_iff.mp hl
  have hsame (r : Registry) (hr : r.listeners[i]? = some x) :
      r.listener? i = some ⟨x.state, r.surroundings⟩ := congrArg (Option.map _) hr
  obtain hlisteners | ⟨j, e, hm, hperform⟩ := registry_next k m
  · exact ⟨_, hsame _ (hlisteners ▸ hx), .inl rfl⟩
  · by_cases hij : j = i
    · subst hij
      refine ⟨_, ?_, .inr ⟨e, hm, rfl⟩⟩
      rw [hperform]
      exact listener?_perform hl e
    · refine ⟨_, hsame _ ?_, .inl rfl⟩
      rw [hperform]
      exact (Registry.getElem?_modify_other _ hij (·.perform e)).trans hx

/-- What the events of a listener keep holds of it after all moves. -/
theorem listener_extend (hl : k.registry.listener? i = some l) (hP : P l.toListenerState)
    (moves : List Move) (step : ∀ m ∈ moves, ∀ (l : Listener) (e : Listener.Event),
      (m = .listener i e ∨ m = .stop i) → P l.toListenerState → P (l.perform e).toListenerState) :
    ∃ later, (k.extend moves).registry.listener? i = some later ∧ P later.toListenerState := by
  induction moves generalizing k l with
  | nil => exact ⟨l, hl, hP⟩
  | cons m moves ih =>
    obtain ⟨between, hbetween, hkept⟩ := listener_next hl m
    refine ih hbetween ?_ fun m hm => step m (List.mem_cons_of_mem _ hm)
    obtain hsame | ⟨e, hm, rfl⟩ := hkept
    · exact hsame ▸ hP
    · exact step m List.mem_cons_self l e hm hP

/-- This is so too if they keep it as long as no stop returns. -/
theorem listener_extend_of_stays (hl : k.registry.listener? i = some l) (hP : P l.toListenerState)
    (step : ∀ (l : Listener) (e : Listener.Event), (∀ taken, e ≠ .conclude taken) →
      P l.toListenerState → P (l.perform e).toListenerState)
    {moves : List Move} (hmoves : ∀ m ∈ moves, m.mayConclude i = false) :
    ∃ later, (k.extend moves).registry.listener? i = some later ∧ P later.toListenerState := by
  refine listener_extend hl hP moves fun m hm l e he => step l e ?_
  rintro taken rfl
  have hmay := hmoves m hm
  obtain rfl | rfl := he <;> exact Bool.noConfusion ((beq_self_eq_true i).symm.trans hmay)

/-- Once its acceptor has gone, a listener never starts a handshake again, and its status stays. -/
theorem listener_extend_of_dropped (hl : k.registry.listener? i = some l)
    (hdropped : l.acceptor = .dropped) (moves : List Move) :
    ∃ later, (k.extend moves).registry.listener? i = some later ∧ later.acceptor = .dropped ∧
      later.handshakes.length = l.handshakes.length ∧
      ((∀ m ∈ moves, m.mayConclude i = false) → later.status = l.status) := by
  obtain ⟨later, hlater, hacceptor, hlength⟩ := listener_extend
    (P := fun x => x.acceptor = .dropped ∧ x.handshakes.length = l.handshakes.length)
    hl ⟨hdropped, rfl⟩ moves fun _ _ m e _ ⟨hm, hlength⟩ =>
      ⟨(Listener.perform_of_dropped hm e).1, (Listener.perform_of_dropped hm e).2.trans hlength⟩
  refine ⟨later, hlater, hacceptor, hlength, fun hmoves => ?_⟩
  obtain ⟨same, hsame, -, hstatus⟩ := listener_extend_of_stays
    (P := fun x => x.acceptor = .dropped ∧ x.status = l.status) hl ⟨hdropped, rfl⟩
    (fun m e he ⟨hm, hstatus⟩ => ⟨(Listener.perform_of_dropped hm e).1,
      (Listener.status_perform_of_dropped hm he).trans hstatus⟩) hmoves
  obtain rfl := Option.some.inj (hlater.symm.trans hsame)
  exact hstatus

end Closedown

/-! ## A daemon that was started -/

variable {machine : Machine} {settings : Settings} {shutdown : Shutdown} {d : Daemon}
  {r : Registry} {i : Nat} {l : Listener}

/-- The listeners of a daemon go by the seconds of its settings. -/
theorem terms_of_start (hstart : Daemon.start machine settings shutdown = (.ok d, r)) :
    ∀ x ∈ d.registry.listeners, x.state.toAcceptTerms = terms settings.timeouts := by
  obtain ⟨surroundings, _, _, before, -, -, hregistry, hd, -⟩ := exists_of_start hstart
  have hall : ∀ x ∈ before.listeners, x.state.toAcceptTerms = terms settings.timeouts ∧
      x.state.token < before.surroundings.shutdown.tokens.length :=
    Registry.startAll_induction (P := fun r => ∀ x ∈ r.listeners,
        x.state.toAcceptTerms = terms settings.timeouts ∧
          x.state.token < r.surroundings.shutdown.tokens.length)
      (fun _ hx => absurd hx List.not_mem_nil)
      (fun _ _ _ hone hr => Registry.listeners_startOne
        (P := fun x => x.toAcceptTerms = terms settings.timeouts) (fun _ _ _ => rfl) hr hone)
      hregistry
  rw [hd]
  exact fun x hx => (hall x hx).1

namespace Closedown

/-- The terms of every listener are those of the settings, after any moves. -/
theorem terms_extend (hstart : Daemon.start machine settings shutdown = (.ok d, r))
    (moves : List Move) : ∀ x ∈ ((start d).extend moves).registry.listeners,
      x.state.toAcceptTerms = terms settings.timeouts :=
  extend_induction (P := fun k => ∀ x ∈ k.registry.listeners,
      x.state.toAcceptTerms = terms settings.timeouts) (terms_of_start hstart)
    (fun _ m hk => forall_next (P := fun x => x.toAcceptTerms = terms settings.timeouts)
      (fun l e hl => (Listener.sheet_perform l e).bearings.1.trans hl) hk m) moves

/-- Moves neither add a listener nor take one away. -/
theorem length_listeners_extend (k : Closedown) (moves : List Move) :
    (k.extend moves).registry.listeners.length = k.registry.listeners.length := by
  have hprofiles : (k.extend moves).registry.profiles = k.registry.profiles :=
    extend_induction (P := fun k' => k'.registry.profiles = k.registry.profiles) rfl
      (fun k' m hk => (profiles_next k' m).trans hk) moves
  simpa only [Registry.profiles, List.length_map] using congrArg List.length hprofiles

/-- As long as no stop of it returns, a listener that accepts is running. -/
theorem awake_extend (hstart : Daemon.start machine settings shutdown = (.ok d, r))
    {moves : List Move} (hl : ((start d).extend moves).registry.listener? i = some l)
    (hmoves : ∀ m ∈ moves, m.mayConclude i = false) : l.toListenerState.Awake := by
  obtain ⟨x, hx, rfl⟩ := Option.map_eq_some_iff.mp hl
  obtain ⟨y, hy⟩ : ∃ y, d.registry.listeners[i]? = some y := by
    have hi := (List.getElem?_eq_some_iff.mp hx).1
    rw [length_listeners_extend] at hi
    exact ⟨_, List.getElem?_eq_getElem hi⟩
  have hfresh := (fresh_of_start hstart).1.listeners y (List.mem_of_getElem? hy)
  have hawake : y.state.Awake := by
    refine ⟨fun hidle => ?_, fun _ => hfresh.status⟩
    cases hfresh.acceptor.symm.trans hidle
  have hbefore : (start d).registry.listener? i = some ⟨y.state, d.registry.surroundings⟩ :=
    congrArg (Option.map _) hy
  obtain ⟨later, hlater, hkept⟩ := listener_extend_of_stays (P := ListenerState.Awake) hbefore
    hawake (fun m e he hm => ListenerState.Awake.perform (l := m) hm he) hmoves
  obtain rfl := Option.some.inj (hl.symm.trans hlater)
  exact hkept

/-- If the clock can show the deadline of a connection, the connection gets its handshake and the
accept loop goes on. If it cannot, the loop breaks down over the connection. From then on, whatever
else happens, the listener starts no handshake, and it is as running as before unless a stop of it
returns. Settings keep the rules with any number of seconds but none, so this can be the first
connection of a daemon. -/
theorem accepts_while_deadline_fits (machine : Machine) (settings : Settings) (shutdown : Shutdown)
    (hv : settings.violations = [])
    (hstart : Daemon.start machine settings shutdown = (.ok d, r)) (moves : List Move)
    (hl : ((start d).extend moves).registry.listener? i = some l) {overlooks : Bool}
    {c : ConnectionId} (htakes : l.Takes overlooks c) :
    let k := ((start d).extend moves).next (.listener i (.accept overlooks))
    let seconds := settings.timeouts.incomingSeconds
    let deadline := l.now + Clock.ofSeconds seconds
    (∀ more, 0 < more → ({ settings with timeouts := ⟨more⟩ } : Settings).violations = []) ∧
    (l.now / 1000 + seconds < 2 ^ 63 → l.now < deadline ∧
      ∃ after, k.registry.listener? i = some after ∧ l.Serves c deadline after) ∧
    (2 ^ 63 ≤ l.now / 1000 + seconds →
      (∃ after, k.registry.listener? i = some after ∧ l.Strands c after) ∧
      ∀ more, ∃ later, (k.extend more).registry.listener? i = some later ∧
        later.acceptor = .dropped ∧ later.handshakes.length = l.handshakes.length ∧
        ((∀ m ∈ moves ++ more, m.mayConclude i = false) → later.status = .running)) := by
  intro k seconds deadline
  have htimeout : l.timeout = Clock.ofSeconds seconds := by
    obtain ⟨x, hx, rfl⟩ := Option.map_eq_some_iff.mp hl
    exact congrArg AcceptTerms.timeout (terms_extend hstart moves x (List.mem_of_getElem? hx))
  have hafter : k.registry.listener? i = some (l.perform (.accept overlooks)) :=
    listener?_perform hl (.accept overlooks)
  refine ⟨fun more => Settings.violations_of_seconds hv, fun hfits => ?_, fun hlate => ?_⟩
  · have hpositive : 0 < seconds := Settings.seconds_pos_of_violations hv
    refine ⟨Nat.lt_add_of_pos_right (Nat.mul_pos hpositive (by decide)), _, hafter,
      htakes.serves ?_⟩
    rw [htimeout]
    exact Clock.after?_of_lt hfits
  · have hstrands := htakes.strands (htimeout ▸ Clock.after?_of_le hlate)
    refine ⟨⟨_, hafter, hstrands⟩, fun more => ?_⟩
    obtain ⟨later, hlater, hdropped, hlength, hstatus⟩ :=
      listener_extend_of_dropped hafter hstrands.acceptor more
    refine ⟨later, hlater, hdropped, ?_, fun hmoves => ?_⟩
    · rw [hlength, hstrands.handshakes]
    · have hawake := awake_extend hstart hl fun m hm => hmoves m (List.mem_append_left _ hm)
      rw [hstatus fun m hm => hmoves m (List.mem_append_right _ hm), hstrands.status]
      exact hawake.running htakes.acceptor

/-- Settings with the most seconds that a file can write. -/
def patientSettings : Settings := { Settings.default with timeouts := ⟨2 ^ 63 - 1⟩ }

/-- The daemon that is started with them. -/
def patientDaemon : Daemon :=
  match Daemon.start bareMachine patientSettings .new with
  | (.ok d, _) => d
  | (.error _, r) => ⟨r, ⟨Shutdown.root, false, 0⟩⟩

/-- A client connects when the clock shows this time. -/
def connectingAt (now : Nat) : List Move :=
  [.listener 0 (.clock now), .listener 0 (.connect "c" "d" ⟨0, none⟩)]

/-- With the most seconds that a file can write, a client that connects when the clock shows 999
milliseconds gets its handshake. One that connects a millisecond later ends the loop for itself
and for all that follow, while the status still says that the listener runs. -/
theorem accepts_only_in_the_first_second :
    patientSettings.violations = [] ∧
    Daemon.start bareMachine patientSettings .new = (.ok patientDaemon, patientDaemon.registry) ∧
    (∃ after, ((start patientDaemon).extend (connectingAt 999 ++
        [.listener 0 (.accept false)])).registry.listener? 0 = some after ∧
      after.handshakes.map Listener.Accepted.connection = [0] ∧ after.acceptor = .accepting) ∧
    ∃ after, ((start patientDaemon).extend (connectingAt 1000 ++ [.listener 0 (.accept false)] ++
        (connectingAt 2000 ++ [.listener 0 (.accept false)]))).registry.listener? 0 = some after ∧
      after.handshakes = [] ∧ after.acceptor = .dropped ∧ after.status = .running := by
  have hv : patientSettings.violations = [] := by decide +kernel
  have hstart : Daemon.start bareMachine patientSettings .new =
      (.ok patientDaemon, patientDaemon.registry) := rfl
  have htakes (now : Nat) : ∃ l,
      ((start patientDaemon).extend (connectingAt now)).registry.listener? 0 = some l ∧
        l.Takes false 0 ∧ l.now = now ∧ l.handshakes = [] :=
    ⟨_, rfl, ⟨rfl, rfl, _, rfl⟩, rfl, rfl⟩
  obtain ⟨early, hearly, htaken, hnow, hnone⟩ := htakes 999
  obtain ⟨late, hlate, hmissed, hnow', hnone'⟩ := htakes 1000
  obtain ⟨-, hserves, -⟩ :=
    accepts_while_deadline_fits bareMachine patientSettings .new hv hstart _ hearly htaken
  obtain ⟨-, -, hstrands⟩ :=
    accepts_while_deadline_fits bareMachine patientSettings .new hv hstart _ hlate hmissed
  obtain ⟨-, after, hafter, hserved⟩ := hserves (by rw [hnow]; decide)
  obtain ⟨-, hlost⟩ := hstrands (by rw [hnow']; decide)
  obtain ⟨later, hlater, hdropped, hlength, hrunning⟩ :=
    hlost (connectingAt 2000 ++ [.listener 0 (.accept false)])
  refine ⟨hv, hstart, ⟨after, hafter, ?_, hserved.acceptor⟩, later, hlater, ?_, hdropped,
    hrunning (by decide)⟩
  · obtain ⟨token, hhandshakes⟩ := hserved.handshakes
    rw [hhandshakes, hnone]
    rfl
  · rw [hnone'] at hlength
    exact List.length_eq_zero_iff.mp hlength

end Closedown

end Daemon

end Diameter
