import Diameter.Daemon.Basic
import Diameter.Proofs.Queue.Outline
import Diameter.Proofs.Shutdown.Tokens

/-!
# What a daemon starts with

A daemon that was started has listeners that accept and have accepted nothing, no connections,
and an event queue that is empty and that nobody has called. It may have an alarm. Each listener
and the consumer have their token below the shutdown, which nobody has raised in between.

A start is taken apart here once: what an endpoint needs to be listened on, what each of the starts
of a plan keeps, what a daemon is made of that was started, and why another was not.
-/

namespace Diameter

namespace Shutdown

theorem length_cancel (s : Shutdown) (t : TokenId) :
    (s.cancel t).tokens.length = s.tokens.length := List.length_modify ..

theorem length_trigger (s : Shutdown) (reason : ShutdownReason) :
    (s.trigger reason).2.tokens.length = s.tokens.length := by
  unfold trigger note
  cases s.reason with
  | some _ => rfl
  | none => exact length_cancel _ _

/-- A token that is there is cancelled once it was cancelled itself. -/
theorem isCancelled_cancel {s : Shutdown} {t : TokenId} (ht : t < s.tokens.length) :
    (s.cancel t).isCancelled t = true := by
  obtain ⟨n, hn⟩ := Nat.exists_eq_add_one_of_ne_zero (Nat.ne_zero_of_lt ht)
  have htoken : (s.cancel t).tokens[t]? = some { s.tokens[t] with marked := true } := by
    rw [cancel, List.getElem?_modify_eq, List.getElem?_eq_getElem ht]
    rfl
  rw [isCancelled, length_cancel, hn, isCancelledWithin, htoken]
  rfl

end Shutdown

/-- A listener that accepts and has accepted nothing. -/
structure ListenerState.Unused (x : ListenerState) : Prop where
  handshakes : x.handshakes = []
  outstanding : x.outstanding = []
  backlog : x.backlog = []
  acceptor : x.acceptor = .accepting
  hasLoop : x.hasLoop = true
  runnable : x.runnable = [.acceptLoop]
  status : x.status = .running

/-- A listener that is unused and gives connections to the event queue. -/
structure ListenerState.Fresh (x : ListenerState) : Prop extends x.Unused where
  peers : x.peers = .events

namespace Listener

/-- A listener that was made and started. -/
def launched (address : String) (transport : Transport) (security : Security)
    (terms : AcceptTerms) (surroundings : Surroundings) : Listener :=
  (Listener.new address transport security terms surroundings).start.2

/-- A listener that has just been launched is unused. -/
theorem unused_launched {address : String} {transport : Transport} {security : Security}
    {terms : AcceptTerms} {surroundings : Surroundings} :
    (launched address transport security terms surroundings).toListenerState.Unused :=
  ⟨rfl, rfl, rfl, rfl, rfl, rfl, rfl⟩

end Listener

namespace Registry

/-- Fresh listeners around an event queue that nobody has called. -/
structure Fresh (r : Registry) : Prop where
  listeners : ∀ x ∈ r.listeners, x.state.Fresh
  connections : r.surroundings.connections = []
  outline : r.surroundings.events.outline = ⟨[⟨.usable, [], none⟩], []⟩
  tokens : ∀ x ∈ r.listeners, x.state.token < r.surroundings.shutdown.tokens.length

variable {network : Network} {secured : Bool} {terms : AcceptTerms} {r r' : Registry} {e : Endpoint}
  {endpoints : List Endpoint} {done : Unit}

/-- How the listener of an endpoint is started. -/
theorem startOne_eq (r : Registry) (network : Network) (secured : Bool) (terms : AcceptTerms)
    (e : Endpoint) : r.startOne network secured terms e =
      if e.transport = .sctp then .error (.unsupported e.transport e.address.text)
      else if e.security = .tls ∧ secured = false then .error (.tlsNotConfigured e.address.text)
      else match network.bind r.held e.address with
        | .error (.untaken cause) => if cause.kind = .addressInUse ∧ r.standsFor e then .ok r
          else .error (.bind e.address.text cause)
        | .error (.untold cause) => .error (.accept cause)
        | .ok taken => .ok (r.add taken
            (.launched taken.text e.transport e.security terms r.surroundings)) := rfl

/-- If a listener starts, it has taken its address. If there is no new one, the address is in use
and one that is there stands for it. -/
theorem exists_of_startOne (h : r.startOne network secured terms e = .ok r') :
    (∃ cause, network.bind r.held e.address = .error (.untaken cause) ∧
      cause.kind = .addressInUse ∧ r.standsFor e = true ∧ r' = r) ∨
    ∃ taken, network.bind r.held e.address = .ok taken ∧
      r' = r.add taken (.launched taken.text e.transport e.security terms r.surroundings) := by
  rw [startOne_eq] at h
  split at h
  · cases h
  · split at h
    · cases h
    · split at h
      · next cause hbind =>
        split at h
        · next hstands =>
          cases h
          exact .inl ⟨cause, hbind, hstands.1, hstands.2, rfl⟩
        · cases h
      · cases h
      · next taken hbind =>
        cases h
        exact .inr ⟨taken, hbind, rfl⟩

/-- If the listeners of some endpoints start, the first of them starts before the others. -/
theorem startAll_cons_ok {e : Endpoint} {rest : List Endpoint}
    (h : startAll network secured terms (e :: rest) r = (.ok done, r')) :
    ∃ between, r.startOne network secured terms e = .ok between ∧
      startAll network secured terms rest between = (.ok done, r') := by
  rw [startAll] at h
  cases hone : r.startOne network secured terms e with
  | ok between => exact ⟨between, rfl, by rw [hone] at h; exact h⟩
  | error error =>
    rw [hone] at h
    cases (Prod.mk.inj h).1

/-- What each start keeps holds after all. -/
theorem startAll_induction {P : Registry → Prop} (hr : P r)
    (step : ∀ r e r', r.startOne network secured terms e = .ok r' → P r → P r')
    (h : startAll network secured terms endpoints r = (.ok done, r')) : P r' := by
  induction endpoints generalizing r with
  | nil =>
    obtain ⟨-, rfl⟩ := Prod.mk.inj h
    exact hr
  | cons e rest ih =>
    obtain ⟨between, hone, hrest⟩ := startAll_cons_ok h
    exact ih (step r e between hone hr) hrest

/-- What is true of the listeners that are there, and of one that was made and started, is true of
all that are there after a start, and all of them have their token. -/
theorem listeners_startOne {P : ListenerState → Prop}
    (hnew : ∀ (address : String) (transport : Transport) (security : Security),
      P (Listener.launched address transport security terms r.surroundings).toListenerState)
    (hr : ∀ x ∈ r.listeners, P x.state ∧ x.state.token < r.surroundings.shutdown.tokens.length)
    (h : r.startOne network secured terms e = .ok r') :
    ∀ x ∈ r'.listeners, P x.state ∧ x.state.token < r'.surroundings.shutdown.tokens.length := by
  obtain ⟨-, -, -, -, rfl⟩ | ⟨taken, -, rfl⟩ := exists_of_startOne h
  · exact hr
  · intro x hx
    have hmore := (r.surroundings.shutdown.length_child Shutdown.root).symm
    obtain hx | hx := List.mem_append.mp hx
    · obtain ⟨hstate, htoken⟩ := hr x hx
      exact ⟨hstate, Nat.lt_of_lt_of_eq (Nat.lt_succ_of_lt htoken) hmore⟩
    · obtain rfl := List.mem_singleton.mp hx
      exact ⟨hnew _ _ _, Nat.lt_of_lt_of_eq (Nat.lt_succ_self _) hmore⟩

/-- A registry of fresh listeners stays one when another starts. -/
theorem Fresh.startOne (hterms : terms.peers = .events) (hr : r.Fresh)
    (h : r.startOne network secured terms e = .ok r') : r'.Fresh := by
  have hall := listeners_startOne (P := ListenerState.Fresh)
    (fun _ _ _ => ⟨Listener.unused_launched, hterms⟩)
    (fun x hx => ⟨hr.listeners x hx, hr.tokens x hx⟩) h
  have hbeside : r'.surroundings.connections = [] ∧
      r'.surroundings.events.outline = ⟨[⟨.usable, [], none⟩], []⟩ := by
    obtain ⟨-, -, -, -, rfl⟩ | ⟨taken, -, rfl⟩ := exists_of_startOne h <;>
      exact ⟨hr.connections, hr.outline⟩
  exact ⟨fun x hx => (hall x hx).1, hbeside.1, hbeside.2, fun x hx => (hall x hx).2⟩

/-- A registry of fresh listeners stays one when a whole plan starts. -/
theorem Fresh.startAll (hterms : terms.peers = .events) (hr : r.Fresh)
    (h : Registry.startAll network secured terms endpoints r = (.ok done, r')) : r'.Fresh :=
  startAll_induction hr (fun _ _ _ hone hbefore => hbefore.startOne hterms hone) h

end Registry

namespace Daemon

/-- The event queue is empty at first, with or without its alarm. -/
theorem fresh_of_prepare {settings : QueueSettings} {shutdown : Shutdown}
    {surroundings : Surroundings} (h : prepare settings shutdown = .ok surroundings) :
    (⟨[], surroundings⟩ : Registry).Fresh := by
  have hnone {P : Registered → Prop} : ∀ x ∈ ([] : List Registered), P x := fun x hx => by cases hx
  unfold prepare at h
  dsimp only at h
  split at h
  · cases h
    exact ⟨hnone, rfl, rfl, hnone⟩
  · unfold Surroundings.withAlarm at h
    dsimp only at h
    split at h
    · cases h
    · next hset =>
      obtain ⟨-, -, rfl⟩ := Queue.System.of_setThresholds hset
      cases h
      exact ⟨hnone, rfl, rfl, hnone⟩

variable {machine : Machine} {settings : Settings} {shutdown : Shutdown} {r : Registry}

/-- What a daemon that was started is made of. -/
theorem exists_of_start {d : Daemon} (h : Daemon.start machine settings shutdown = (.ok d, r)) :
    ∃ surroundings credentials done before,
      prepare settings.queues shutdown = .ok surroundings ∧
      settings.tls.mapM (Credentials.load machine.files) = .ok credentials ∧
      Registry.start machine.network credentials.isSome (terms settings.timeouts) settings.listener
        surroundings = (.ok done, before) ∧
      d.registry = { before with surroundings.shutdown :=
        (before.surroundings.shutdown.child Shutdown.root).2 } ∧
      d.consumer = ⟨(before.surroundings.shutdown.child Shutdown.root).1, true, 0⟩ := by
  unfold Daemon.start at h
  dsimp only at h
  split at h
  · cases (Prod.mk.inj h).1
  · next surroundings hprepare =>
    split at h
    · cases (Prod.mk.inj h).1
    · next credentials hcredentials =>
      split at h
      · cases (Prod.mk.inj h).1
      · next before hregistry =>
        obtain ⟨hd, -⟩ := Prod.mk.inj h
        cases hd
        exact ⟨surroundings, credentials, _, before, hprepare, hcredentials, hregistry, rfl, rfl⟩

/-- Why a daemon cannot be started. -/
theorem start_error_cases {error : DaemonError}
    (h : Daemon.start machine settings shutdown = (.error error, r)) :
    (∃ cause, prepare settings.queues shutdown = .error cause ∧ error = .queue cause) ∨
    (∃ cause, settings.tls.mapM (Credentials.load machine.files) = .error cause ∧
      error = .credentials cause) ∨
    ∃ surroundings credentials cause before,
      prepare settings.queues shutdown = .ok surroundings ∧
      settings.tls.mapM (Credentials.load machine.files) = .ok credentials ∧
      Registry.start machine.network credentials.isSome (terms settings.timeouts) settings.listener
        surroundings = (.error cause, before) ∧ error = .listener cause ∧ r = abandon before := by
  unfold Daemon.start at h
  dsimp only at h
  split at h
  · next cause hprepare =>
    cases (Prod.mk.inj h).1
    exact .inl ⟨cause, hprepare, rfl⟩
  · next surroundings hprepare =>
    split at h
    · next cause hcredentials =>
      cases (Prod.mk.inj h).1
      exact .inr (.inl ⟨cause, hcredentials, rfl⟩)
    · next credentials hcredentials =>
      split at h
      · next cause before hregistry =>
        obtain ⟨herror, rfl⟩ := Prod.mk.inj h
        cases herror
        exact .inr (.inr ⟨surroundings, credentials, cause, before, hprepare, hcredentials,
          hregistry, rfl, rfl⟩)
      · cases (Prod.mk.inj h).1

/-- A daemon that was started is fresh, and its consumer works and has its token. -/
theorem fresh_of_start {d : Daemon} (h : Daemon.start machine settings shutdown = (.ok d, r)) :
    d.registry.Fresh ∧ d.consumer.working = true ∧
      d.consumer.token < d.registry.surroundings.shutdown.tokens.length := by
  obtain ⟨surroundings, credentials, done, before, hprepare, -, hregistry, hd, hconsumer⟩ :=
    exists_of_start h
  have hfresh := Registry.Fresh.startAll rfl (fresh_of_prepare hprepare) hregistry
  have hmore := (before.surroundings.shutdown.length_child Shutdown.root).symm
  rw [hd, hconsumer]
  exact ⟨⟨hfresh.listeners, hfresh.connections, hfresh.outline, fun x hx =>
    Nat.lt_of_lt_of_eq (Nat.lt_succ_of_lt (hfresh.tokens x hx)) hmore⟩, rfl,
    Nat.lt_of_lt_of_eq (Nat.lt_succ_self _) hmore⟩

end Daemon

end Diameter
