import Diameter.Proofs.Daemon.Plan
import Diameter.Proofs.Daemon.Runs
import Diameter.Proofs.Listener.Aftermath

/-!
# Which listeners a plan gets

Whether an endpoint can be listened on depends on what is seen of the listeners that are there:
their addresses and what they listen on, not on what they have done since they were started. So
the endpoints of a plan fare alike however long the start of one listener after the other takes.

A plan gets one listener for each endpoint, in its order, up to those for which another listener
stands. If one endpoint cannot be listened on, the listeners before it are stopped when they have
accepted nothing, the shutdown is raised, and the error is the one of this endpoint.
-/

namespace Diameter

open Listener (Runs)

/-! ## What is seen of a listener -/

/-- What others see of a listener. -/
structure Profile where
  /-- The address that it took. -/
  taken : SocketAddress
  /-- The label. -/
  label : String
  /-- The address, as it is written. -/
  address : String
  /-- The transport. -/
  transport : Transport
  /-- When TLS starts. -/
  security : Security
  deriving DecidableEq

namespace Profile

/-- A listener of an endpoint that took this address. -/
def ofEndpoint (e : Endpoint) (taken : SocketAddress) : Profile :=
  ⟨taken, endpointLabel e.transport e.security taken.text, taken.text, e.transport, e.security⟩

/-- Whether one of these listeners stands for an endpoint too. -/
def standsFor (ps : List Profile) (e : Endpoint) : Bool :=
  e.address.ip == .anyV4 && ps.any fun p =>
    p.taken.ip == .anyV6 && p.taken.port == e.address.port && p.transport == e.transport

end Profile

/-- What is seen of a listener. -/
def Registered.profile (x : Registered) : Profile :=
  ⟨x.taken, x.state.label, x.state.address, x.state.transport, x.state.security⟩

namespace Listener

/-- Whatever happens to a listener, others see what they saw. -/
theorem profile_perform (l : Listener) (e : Event) (taken : SocketAddress) :
    Registered.profile ⟨taken, (l.perform e).toListenerState⟩ =
      Registered.profile ⟨taken, l.toListenerState⟩ := by
  obtain ⟨-, hlabel, hsecurity, -⟩ := (sheet_perform l e).bearings
  obtain ⟨haddress, htransport⟩ := (sheet_perform l e).site
  have hlabel : (l.perform e).label = l.label := hlabel
  have hsecurity : (l.perform e).security = l.security := hsecurity
  have haddress : (l.perform e).address = l.address := haddress
  have htransport : (l.perform e).transport = l.transport := htransport
  dsimp only [Registered.profile]
  rw [hlabel, haddress, htransport, hsecurity]

/-- What runs of a listener keeps its profile. -/
theorem Runs.profile {l after : Listener} (h : Runs l after) (taken : SocketAddress) :
    Registered.profile ⟨taken, after.toListenerState⟩ =
      Registered.profile ⟨taken, l.toListenerState⟩ := by
  obtain ⟨events, -, rfl⟩ := h
  induction events generalizing l with
  | nil => rfl
  | cons e events ih => exact ih.trans (profile_perform l e taken)

end Listener

namespace Registry

variable {network : Network} {secured : Bool} {terms : AcceptTerms} {r r' : Registry}
  {e : Endpoint} {cause : ListenerError}

/-- What is seen of the listeners. -/
def profiles (r : Registry) : List Profile := r.listeners.map Registered.profile

theorem held_eq (r : Registry) : r.held = r.profiles.map Profile.taken := by
  rw [held, profiles, List.map_map]
  rfl

theorem standsFor_eq (r : Registry) (e : Endpoint) :
    r.standsFor e = Profile.standsFor r.profiles e := by
  rw [standsFor, Profile.standsFor, profiles, List.any_map]
  rfl

/-- The listener of an endpoint comes after those that are there. -/
theorem profiles_add (r : Registry) (terms : AcceptTerms) (e : Endpoint) (taken : SocketAddress) :
    (r.add taken (.launched taken.text e.transport e.security terms r.surroundings)).profiles =
      r.profiles ++ [.ofEndpoint e taken] := List.map_append

/-- Whether an endpoint can be listened on depends on what is seen of the listeners. -/
theorem profiles_startOne (network : Network) (secured : Bool) (terms : AcceptTerms)
    (e : Endpoint) (h : r.profiles = r'.profiles) :
    (r.startOne network secured terms e).map profiles =
      (r'.startOne network secured terms e).map profiles := by
  rw [startOne_eq, startOne_eq, held_eq, held_eq, standsFor_eq, standsFor_eq, h]
  split
  · rfl
  · split
    · rfl
    · split
      · split
        · exact congrArg Except.ok h
        · rfl
      · rfl
      · refine congrArg Except.ok ?_
        rw [profiles_add, profiles_add, h]

/-- Two registries with the same profiles refuse the same endpoints. -/
theorem startOne_error_of_profiles (h : r.profiles = r'.profiles)
    (hone : r.startOne network secured terms e = .error cause) :
    r'.startOne network secured terms e = .error cause := by
  have hmap := profiles_startOne network secured terms e h
  rw [hone] at hmap
  cases hone' : r'.startOne network secured terms e with
  | error cause' =>
    rw [hone'] at hmap
    exact congrArg Except.error (Except.error.inj hmap).symm
  | ok s =>
    rw [hone'] at hmap
    cases hmap

/-- Two registries with the same profiles take the same endpoints, and have the same profiles
after it. -/
theorem startOne_ok_of_profiles {s : Registry} (h : r.profiles = r'.profiles)
    (hone : r.startOne network secured terms e = .ok s) :
    ∃ s', r'.startOne network secured terms e = .ok s' ∧ s.profiles = s'.profiles := by
  have hmap := profiles_startOne network secured terms e h
  rw [hone] at hmap
  cases hone' : r'.startOne network secured terms e with
  | error cause' =>
    rw [hone'] at hmap
    cases hmap
  | ok s' =>
    rw [hone'] at hmap
    exact ⟨s', rfl, Except.ok.inj hmap⟩

/-! ## One endpoint after another -/

/-- These are the listeners of a plan in its order, but for the endpoints for which another
listener stands. -/
inductive Enlists (network : Network) :
    (plan : List Endpoint) → (listeners : List Profile) → (skipped : List Endpoint) → Prop
  /-- Nothing is planned. -/
  | none : Enlists network [] [] []
  /-- An endpoint has a listener of its own. -/
  | own {plan : List Endpoint} {ps : List Profile} {skipped : List Endpoint} {e : Endpoint}
      {taken : SocketAddress} (before : Enlists network plan ps skipped)
      (bound : network.bind (ps.map Profile.taken) e.address = .ok taken) :
      Enlists network (plan ++ [e]) (ps ++ [.ofEndpoint e taken]) skipped
  /-- The address of an endpoint is in use, and another listener stands for it. -/
  | skip {plan : List Endpoint} {ps : List Profile} {skipped : List Endpoint} {e : Endpoint}
      {cause : SystemError} (before : Enlists network plan ps skipped)
      (refused : network.bind (ps.map Profile.taken) e.address = .error (.untaken cause))
      (inUse : cause.kind = .addressInUse) (stands : Profile.standsFor ps e = true) :
      Enlists network (plan ++ [e]) ps (skipped ++ [e])

/-- If no endpoint is left out, each has its listener. -/
theorem Enlists.forall₂ {plan : List Endpoint} {ps : List Profile} {skipped : List Endpoint}
    (h : Enlists network plan ps skipped) (hskipped : skipped = []) :
    List.Forall₂ (fun e p => p = .ofEndpoint e p.taken) plan ps := by
  induction h with
  | none => exact .nil
  | own before bound ih => exact List.rel_append (ih hskipped) (.cons rfl .nil)
  | skip => exact absurd hskipped (List.append_ne_nil_of_right_ne_nil _ (List.cons_ne_nil _ _))

/-- One more endpoint is listened on, or another listener stands for it. -/
theorem Enlists.startOne {plan skipped : List Endpoint}
    (h : Enlists network plan r.profiles skipped)
    (hone : r.startOne network secured terms e = .ok r') :
    ∃ skipped', Enlists network (plan ++ [e]) r'.profiles skipped' := by
  obtain ⟨cause, hbind, hkind, hstands, rfl⟩ | ⟨taken, hbind, rfl⟩ := exists_of_startOne hone
  · exact ⟨_, h.skip (held_eq r' ▸ hbind) hkind (standsFor_eq r' e ▸ hstands)⟩
  · rw [profiles_add]
    exact ⟨_, h.own (held_eq r ▸ hbind)⟩

/-- Endpoints that all start are enlisted one after the other. -/
theorem Enlists.startAll {plan rest skipped : List Endpoint} {done : Unit}
    (h : Enlists network plan r.profiles skipped)
    (hall : Registry.startAll network secured terms rest r = (.ok done, r')) :
    ∃ skipped', Enlists network (plan ++ rest) r'.profiles skipped' := by
  induction rest generalizing plan skipped r with
  | nil =>
    obtain ⟨-, rfl⟩ := Prod.mk.inj hall
    exact ⟨skipped, (List.append_nil plan).symm ▸ h⟩
  | cons e rest ih =>
    obtain ⟨between, hone, hrest⟩ := startAll_cons_ok hall
    obtain ⟨skipped', hbetween⟩ := h.startOne hone
    have hmore := ih hbetween hrest
    rwa [List.append_assoc] at hmore

/-- Listeners that start note no reason. -/
theorem reason_startAll {plan : List Endpoint} {done : Unit}
    (h : Registry.startAll network secured terms plan r = (.ok done, r')) :
    r'.surroundings.shutdown.reason = r.surroundings.shutdown.reason := by
  refine startAll_induction (P := fun s => s.surroundings.shutdown.reason =
    r.surroundings.shutdown.reason) rfl (fun s e s' hone hs => Eq.trans ?_ hs) h
  obtain ⟨-, -, -, -, rfl⟩ | ⟨taken, -, rfl⟩ := exists_of_startOne hone <;> rfl

/-- After some endpoints the others are started. -/
theorem startAll_append {before : List Endpoint} {done : Unit}
    (h : startAll network secured terms before r = (.ok done, r')) (rest : List Endpoint) :
    startAll network secured terms (before ++ rest) r = startAll network secured terms rest r' := by
  induction before generalizing r with
  | nil =>
    obtain ⟨-, rfl⟩ := Prod.mk.inj h
    rfl
  | cons e before ih =>
    obtain ⟨between, hone, hrest⟩ := startAll_cons_ok h
    rw [List.cons_append, startAll, hone]
    exact ih hrest

/-- One more endpoint is started after all before it. -/
theorem startAll_concat {before : List Endpoint} {done : Unit} {s : Registry}
    (h : startAll network secured terms before r = (.ok done, r'))
    (hone : r'.startOne network secured terms e = .ok s) :
    startAll network secured terms (before ++ [e]) r = (.ok (), s) := by
  rw [startAll_append h, startAll, hone]
  rfl

/-- The first endpoint that cannot be listened on ends the start. -/
theorem startAll_of_error {before : List Endpoint} {done : Unit}
    (h : startAll network secured terms before r = (.ok done, r'))
    (hone : r'.startOne network secured terms e = .error cause) (after : List Endpoint) :
    startAll network secured terms (before ++ e :: after) r =
      (.error cause, (r'.stop.trigger (.listenerFailed e.label)).2) := by
  rw [startAll_append h, startAll, hone]

/-- A start that fails has started all endpoints before the one that was refused. -/
theorem exists_of_startAll_error {plan : List Endpoint} {left : Registry}
    (h : startAll network secured terms plan r = (.error cause, left)) :
    ∃ before e after s, plan = before ++ e :: after ∧
      startAll network secured terms before r = (.ok (), s) ∧
      s.startOne network secured terms e = .error cause := by
  induction plan generalizing r with
  | nil => cases (Prod.mk.inj h).1
  | cons e rest ih =>
    rw [startAll] at h
    cases hone : r.startOne network secured terms e with
    | error cause' =>
      rw [hone] at h
      obtain rfl : cause' = cause := Except.error.inj (Prod.mk.inj h).1
      exact ⟨[], e, rest, r, rfl, rfl, hone⟩
    | ok between =>
      rw [hone] at h
      obtain ⟨before, e', after, s, rfl, hbefore, herror⟩ := ih h
      refine ⟨e :: before, e', after, s, rfl, ?_, herror⟩
      rw [startAll, hone]
      exact hbefore

/-- Only one endpoint is the first that cannot be listened on. If another one were earlier, the
start would have ended there. -/
theorem first_unique {before before' after after' : List Endpoint} {e e' : Endpoint}
    {s s' : Registry} {cause' : ListenerError}
    (hplan : before ++ e :: after = before' ++ e' :: after')
    (h : startAll network secured terms before r = (.ok (), s))
    (hone : s.startOne network secured terms e = .error cause)
    (h' : startAll network secured terms before' r = (.ok (), s'))
    (hone' : s'.startOne network secured terms e' = .error cause') :
    before = before' ∧ e = e' ∧ cause = cause' := by
  have hnot {before before' rest : List Endpoint} {e : Endpoint} {cause : ListenerError}
      {s s' : Registry} (h : startAll network secured terms before r = (.ok (), s))
      (hone : s.startOne network secured terms e = .error cause)
      (h' : startAll network secured terms before' r = (.ok (), s')) :
      before' ≠ before ++ e :: rest := fun heq => by
    rw [heq, startAll_of_error h hone] at h'
    cases (Prod.mk.inj h').1
  obtain ⟨rest, hrest, hlater⟩ | ⟨rest, hrest, hlater⟩ := List.append_eq_append_iff.mp hplan
  · cases rest with
    | nil =>
      obtain rfl : before' = before := hrest.trans (List.append_nil _)
      obtain ⟨rfl, -⟩ := List.cons.inj hlater
      obtain ⟨-, rfl⟩ := Prod.mk.inj (h.symm.trans h')
      exact ⟨rfl, rfl, Except.error.inj (hone.symm.trans hone')⟩
    | cons d rest =>
      obtain ⟨rfl, -⟩ := List.cons.inj hlater
      exact absurd hrest (hnot h hone h')
  · cases rest with
    | nil =>
      obtain rfl : before = before' := hrest.trans (List.append_nil _)
      obtain ⟨rfl, -⟩ := List.cons.inj hlater
      obtain ⟨-, rfl⟩ := Prod.mk.inj (h.symm.trans h')
      exact ⟨rfl, rfl, Except.error.inj (hone.symm.trans hone')⟩
    | cons d rest =>
      obtain ⟨rfl, -⟩ := List.cons.inj hlater
      exact absurd hrest (hnot h' hone' h)

end Registry

/-! ## What is left when one cannot be listened on -/

/-- A listener that is unused can be stopped at once. -/
theorem Listener.stop_of_unused {l : Listener} (hl : l.toListenerState.Unused)
    (htoken : l.token < l.shutdown.tokens.length) : l.stop.toListenerState.IsOver ∧
      l.stop.shutdown = l.shutdown.cancel l.token := by
  have hjoined := joinLoop_of_unused hl htoken
  generalize hj : l.cancelAll.joinLoop = joined at hjoined
  have hdrain : joined.drain = ([], { joined with outstanding := [] }.showOutstanding 0) := by
    rw [hjoined]
    unfold drain
    rw [hl.outstanding]
    rfl
  have hstop : l.stop = ({ joined with outstanding := [] }.showOutstanding 0).conclude [] := by
    unfold stop
    rw [hj, hdrain]
    rfl
  rw [hstop]
  refine ⟨⟨?_, ?_, ?_⟩, ?_⟩
  · refine Eq.trans ?_ (congrArg (fun l : Listener => l.acceptor) hjoined)
    unfold conclude
    split <;> rfl
  · unfold conclude
    split <;> rfl
  · rw [conclude_eq]
    exact ListenerStatus.isFinal_advance_terminated _
  · refine Eq.trans ?_ (congrArg (fun l : Listener => l.shutdown) hjoined)
    unfold conclude
    split <;> rfl

namespace Registry

variable {network : Network} {secured : Bool} {terms : AcceptTerms} {r r' : Registry}
  {e : Endpoint} {cause : ListenerError} {f : Listener → Listener}

/-- Listeners that have accepted nothing. -/
structure Unused (r : Registry) : Prop where
  listeners : ∀ x ∈ r.listeners, x.state.Unused
  tokens : ∀ x ∈ r.listeners, x.state.token < r.surroundings.shutdown.tokens.length

/-- A listener that has just started is unused. -/
theorem Unused.startOne (hr : r.Unused) (h : r.startOne network secured terms e = .ok r') :
    r'.Unused := by
  have hall := listeners_startOne (P := ListenerState.Unused)
    (fun _ _ _ => Listener.unused_launched) (fun x hx => ⟨hr.listeners x hx, hr.tokens x hx⟩) h
  exact ⟨fun x hx => (hall x hx).1, fun x hx => (hall x hx).2⟩

/-- All listeners that have just started are unused. -/
theorem Unused.startAll {plan : List Endpoint} {done : Unit} (hr : r.Unused)
    (h : Registry.startAll network secured terms plan r = (.ok done, r')) : r'.Unused :=
  startAll_induction hr (fun _ _ _ hone hbefore => hbefore.startOne hone) h

/-- What leaves the profile of each listener leaves them all. -/
theorem profiles_modify (hf : ∀ (l : Listener) (taken : SocketAddress),
      Registered.profile ⟨taken, (f l).toListenerState⟩ =
        Registered.profile ⟨taken, l.toListenerState⟩) (r : Registry) (i : Nat) :
    (r.modify i f).profiles = r.profiles := by
  rcases hx : r.listeners[i]? with _ | x
  · rw [modify_of_none hx]
  · rw [modify_of_some hx, profiles, List.map_set, hf ⟨x.state, r.surroundings⟩ x.taken]
    obtain ⟨hlt, rfl⟩ := List.getElem?_eq_some_iff.mp hx
    have hlt' : i < r.profiles.length := (List.length_map _).symm ▸ hlt
    refine Eq.trans ?_ (List.set_getElem_self hlt')
    simp [profiles]

/-- What only runs listeners keeps all profiles. -/
theorem profiles_modifyAll (hf : ∀ l, Runs l (f l)) (r : Registry) :
    (r.modifyAll f).profiles = r.profiles := by
  unfold modifyAll
  generalize List.range r.listeners.length = is
  induction is generalizing r with
  | nil => rfl
  | cons i is ih =>
    exact (ih (r.modify i f)).trans (profiles_modify (fun l => (hf l).profile) r i)

/-- What `f` keeps of each listener, and of the shutdown, is kept of all. -/
theorem forall_modifyAll {P : ListenerState → Prop} (hr : ∀ x ∈ r.listeners, P x.state)
    (hf : ∀ l : Listener, P l.toListenerState → P (f l).toListenerState)
    (hshutdown : ∀ l, (f l).shutdown = l.shutdown) : (∀ x ∈ (r.modifyAll f).listeners, P x.state) ∧
      (r.modifyAll f).surroundings.shutdown = r.surroundings.shutdown := by
  unfold modifyAll
  generalize List.range r.listeners.length = is
  induction is generalizing r with
  | nil => exact ⟨hr, rfl⟩
  | cons i is ih =>
    rcases hx : r.listeners[i]? with _ | x
    · rw [List.foldl_cons, modify_of_none hx]
      exact ih hr
    · rw [List.foldl_cons, modify_of_some hx]
      obtain ⟨hall, hsame⟩ := ih (r := ⟨r.listeners.set i { x with
        state := (f ⟨x.state, r.surroundings⟩).toListenerState },
        (f ⟨x.state, r.surroundings⟩).toSurroundings⟩) (fun y hy => by
          obtain hy | rfl := List.mem_or_eq_of_mem_set hy
          · exact hr y hy
          · exact hf ⟨x.state, r.surroundings⟩ (hr x (List.mem_of_getElem? hx)))
      exact ⟨hall, hsame.trans (hshutdown ⟨x.state, r.surroundings⟩)⟩

/-- The first listeners are over once they have been stopped, and the reason is as it was. -/
theorem Unused.stopFirst (hr : r.Unused) (n : Nat) :
    (∀ i x, i < n → (r.stopFirst n).listeners[i]? = some x → x.state.IsOver) ∧
      (r.stopFirst n).surroundings.shutdown.reason = r.surroundings.shutdown.reason := by
  induction n with
  | zero => exact ⟨fun i x hi => absurd hi (Nat.not_lt_zero i), rfl⟩
  | succ n ih =>
    obtain ⟨hover, hreason⟩ := ih
    rw [stopFirst_succ]
    rcases hx : (r.stopFirst n).listeners[n]? with _ | x
    · rw [modify_of_none hx]
      refine ⟨fun i x hi hget => ?_, hreason⟩
      obtain hlt | rfl := Nat.lt_succ_iff_lt_or_eq.mp hi
      · exact hover i x hlt hget
      · rw [hx] at hget
        cases hget
    · have hmem := List.mem_of_getElem? ((r.getElem?_stopFirst (Nat.le_refl n)).symm.trans hx)
      obtain ⟨hstopped, hshutdown⟩ := Listener.stop_of_unused
        (l := ⟨x.state, (r.stopFirst n).surroundings⟩) (hr.listeners x hmem)
        (Nat.lt_of_lt_of_le (hr.tokens x hmem) (r.tokens_le_stopFirst n))
      refine ⟨fun i y hi hget => ?_, ?_⟩
      · obtain hlt | rfl := Nat.lt_succ_iff_lt_or_eq.mp hi
        · rw [getElem?_modify_other _ (Nat.ne_of_gt hlt)] at hget
          exact hover i y hlt hget
        · rw [modify_of_some hx, List.getElem?_set_self (List.getElem?_eq_some_iff.mp hx).1] at hget
          obtain rfl := Option.some.inj hget
          exact hstopped
      · rw [modify_of_some hx]
        exact (congrArg Shutdown.reason hshutdown).trans hreason

/-- Giving up stops all listeners and raises the shutdown. -/
theorem Unused.giveUp (hr : r.Unused) (reason : ShutdownReason) :
    (r.stop.trigger reason).2.profiles = r.profiles ∧
    (∀ x ∈ (r.stop.trigger reason).2.listeners, x.state.IsOver) ∧
    (r.stop.trigger reason).2.surroundings.shutdown.reason =
      some (r.surroundings.shutdown.reason.getD reason) := by
  obtain ⟨hover, hsame⟩ := hr.stopFirst r.listeners.length
  have hstop : r.stop = r.stopFirst r.listeners.length := rfl
  have hprofiles : r.stop.profiles = r.profiles := profiles_modifyAll Listener.runs_stop r
  have hlength : r.stop.listeners.length = r.listeners.length := by
    have := congrArg List.length hprofiles
    simpa [profiles] using this
  rw [← hstop] at hover hsame
  have hall : ∀ x ∈ r.stop.listeners, x.state.IsOver := fun x hx => by
    obtain ⟨i, hi, hget⟩ := List.mem_iff_getElem.mp hx
    exact hover i x (hlength ▸ hi) (List.getElem?_eq_some_iff.mpr ⟨hi, hget⟩)
  let raised : Registry :=
    { r.stop with surroundings.shutdown := (r.stop.surroundings.shutdown.trigger reason).2 }
  obtain ⟨hraised, hshutdown⟩ := forall_modifyAll (r := raised) (P := ListenerState.IsOver)
    (f := Listener.scheduleCancelled) hall (fun l hl => by
      have hgate := congrArg Prod.fst (Listener.gate_scheduleCancelled l)
      have hsheet := Listener.sheet_scheduleCancelled l
      exact ⟨hgate.trans hl.acceptor, (congrArg Listener.Sheet.outstanding hsheet).trans hl.outstanding,
        (congrArg (fun s => s.status.isFinal) hsheet).trans hl.status⟩)
    (fun l => congrArg Listener.Sheet.shutdown (Listener.sheet_scheduleCancelled l))
  refine ⟨(profiles_modifyAll Listener.runs_scheduleCancelled raised).trans hprofiles, hraised, ?_⟩
  refine (congrArg Shutdown.reason hshutdown).trans ?_
  rw [show raised.surroundings.shutdown = (r.stop.surroundings.shutdown.trigger reason).2 from rfl,
    Shutdown.reason_trigger, hsame]

end Registry

end Diameter
