import Diameter.Proofs.Daemon.Life
import Diameter.Proofs.Daemon.Plan

/-!
# Who decides how a daemon ends

Any number of calls may raise the shutdown at once, before a daemon is started and while it lives.
Main statement: one of them is the first, its reason is read by everybody from then on, and
cancelling a token that was derived is no matter for the others. Hence what is returned to whoever
waits for the end of the daemon depends on this reason alone: it is an error exactly if a listener
or the daemon itself has failed.

What the wait does under the virtual clock has the same result.
-/

namespace Diameter

/-- The fatal reasons are the failure of a listener and an internal one. -/
theorem ShutdownReason.isFatal_iff {r : ShutdownReason} : r.isFatal = true ↔
    (∃ label, r = .listenerFailed label) ∨ ∃ what, r = .internal what := by
  cases r <;> simp [isFatal]

namespace Shutdown.Clamour

/-- What is true of calls that raise the event and of the event, in whatever order they went on. -/
structure Lawful (w : Clamour) : Prop where
  /-- No two calls have noted their reasons. -/
  alone : ∀ (i j : Nat) (c d : Call), w.calls[i]? = some c → w.calls[j]? = some d →
    c.hasWon = true → d.hasWon = true → i = j
  /-- When all calls have returned, exactly one of them has told that it was the first. -/
  one : w.calls ≠ [] → (∀ c ∈ w.calls, c.left = 0) →
    ∃! i : Nat, ∃ c : Call, w.calls[i]? = some c ∧ c.stage = .returned true
  /-- Every call returns after two turns of its own, whatever the others do. -/
  returns : ∀ (i : Nat) (c : Call), w.calls[i]? = some c → ∀ more : List Event,
    ∃ d : Call, (w.extend more).calls[i]? = some d ∧ d.reason = c.reason ∧
      d.left ≤ c.left - more.count (.turn i)
  /-- The reason of the call that has noted it is read for ever. -/
  stays : ∀ c ∈ w.calls, c.hasWon = true → ∀ more : List Event,
    (w.extend more).shutdown.reason = some c.reason
  /-- Whoever has seen the event raised reads the reason of the first call for ever. -/
  seen : w.shutdown.isTriggered = true → ∃ c ∈ w.calls, c.stage = .returned true ∧
    ∀ more : List Event, (w.extend more).shutdown.reason = some c.reason
  /-- Once the first call has returned all tokens are cancelled, those derived later too. -/
  reached : ∀ c ∈ w.calls, c.stage = .returned true → ∀ (more : List Event) (t : TokenId),
    t < (w.extend more).shutdown.tokens.length → (w.extend more).shutdown.isCancelled t = true
  /-- Cancelling a token that was derived cancels it and what comes from it, and nothing else:
  not the root, no token beside it, and the reason and the calls are as they were. -/
  spares : ∀ t : TokenId, t ≠ root → t < w.shutdown.tokens.length →
    let after := w.next (.cancel t)
    after.calls = w.calls ∧ after.shutdown.reason = w.shutdown.reason ∧
    after.shutdown.isTriggered = w.shutdown.isTriggered ∧
    (∀ u, after.shutdown.isCancelled u = true ↔
      w.shutdown.isCancelled u = true ∨ w.shutdown.Reaches t u) ∧
    ¬w.shutdown.Reaches t root ∧
    ∀ above u, w.shutdown.Derives above t → w.shutdown.Derives above u → t ≠ u →
      ¬w.shutdown.Reaches t u

/-- Whatever has happened is lawful. -/
theorem lawful_extend (events : List Event) : (start.extend events).Lawful := by
  have hsound := sound_extend events
  have htree := hsound.agrees.tree
  refine ⟨hsound.agrees.alone, hsound.existsUnique_first, fun i c hc more => exists_left_le more hc,
    fun c hc hwon => hsound.reason_extend hc hwon, hsound.exists_of_isTriggered,
    fun c hc hfirst more t ht => isCancelled_extend rfl hc hfirst more ht, fun t hroot ht => ?_⟩
  have hnext : (start.extend events).next (.cancel t) =
      { start.extend events with shutdown := (start.extend events).shutdown.cancel t } :=
    if_neg hroot
  rw [hnext]
  exact ⟨rfl, rfl, Agrees.isTriggered_cancel htree hroot, fun u => htree.isCancelled_cancel_iff ht,
    htree.not_reaches_root hroot, fun above u => htree.not_reaches_sibling⟩

end Shutdown.Clamour

namespace Registry

variable {network : Network} {secured : Bool} {terms : AcceptTerms} {r r' : Registry}

/-- Starting a listener only goes on with the shutdown. -/
theorem extends_startOne {e : Endpoint} (h : r.startOne network secured terms e = .ok r') :
    r.surroundings.shutdown.Extends r'.surroundings.shutdown := by
  obtain ⟨-, -, -, -, rfl⟩ | ⟨taken, -, rfl⟩ := exists_of_startOne h
  · exact .refl _
  · exact Shutdown.extends_child _ _

/-- Starting a plan only adds to the shutdown. -/
theorem extends_startAll {endpoints : List Endpoint} {done : Unit}
    (h : startAll network secured terms endpoints r = (.ok done, r')) :
    r.surroundings.shutdown.Extends r'.surroundings.shutdown :=
  startAll_induction (P := fun s =>
    r.surroundings.shutdown.Extends s.surroundings.shutdown) (.refl _)
    (fun _ _ _ hone hs => hs.trans (extends_startOne hone)) h

end Registry

namespace Daemon

open Shutdown (Agrees Extends)

/-- A daemon reports a failure exactly if its reason is fatal. -/
theorem verdict_eq_stopped_iff {r : ShutdownReason} : verdict (some r) = .error (.stopped r) ↔
    (∃ label, r = .listenerFailed label) ∨ ∃ what, r = .internal what := by
  rw [← ShutdownReason.isFatal_iff, verdict]
  cases r.isFatal <;> simp

/-- A daemon reports success exactly if its reason is not fatal. -/
theorem verdict_eq_ok_iff {r : ShutdownReason} : verdict (some r) = .ok () ↔
    ¬((∃ label, r = .listenerFailed label) ∨ ∃ what, r = .internal what) := by
  rw [← ShutdownReason.isFatal_iff, verdict]
  cases r.isFatal <;> simp

namespace Life

variable {x : Life}

/-- What is true of the shutdown and of the end of a daemon at any time of its life. -/
structure Lawful (x : Life) : Prop where
  /-- The reason that was noted is the one of the call that has noted it, if one has. -/
  won : ∀ c ∈ x.calls, c.hasWon = true → x.shutdown.reason = some c.reason
  /-- Whoever has seen the shutdown raised reads a reason. -/
  seen : x.shutdown.isTriggered = true → ∃ r, x.shutdown.reason = some r
  /-- It is read for ever. -/
  stays : ∀ r, x.shutdown.reason = some r → ∀ more : List LifeMove,
    (x.extend more).shutdown.reason = some r
  /-- Once a call has returned that was the first all tokens are cancelled, those of listeners,
  handshakes and the consumer too. -/
  reached : ∀ c ∈ x.calls, c.stage = .returned true → ∀ (more : List LifeMove) (t : TokenId),
    t < (x.extend more).shutdown.tokens.length → (x.extend more).shutdown.isCancelled t = true
  /-- What is returned to whoever waits for the end is an error exactly if a listener or the
  daemon itself has failed. -/
  decided : ∀ (k : Closedown) (result : Except DaemonError Unit), x.stage = .serving k →
    x.result? = some result → ∃ r, x.shutdown.reason = some r ∧
      (result = .error (.stopped r) ↔
        (∃ label, r = .listenerFailed label) ∨ ∃ what, r = .internal what) ∧
      (result = .ok () ↔ ¬((∃ label, r = .listenerFailed label) ∨ ∃ what, r = .internal what))

/-- The calls of a sound clamour agree with the shutdown. -/
theorem Sound.agrees (h : x.Sound) : Agrees x.calls x.shutdown := by
  obtain ⟨stage, calls⟩ := x
  cases stage with
  | starting s => exact h.1.agrees
  | serving k => exact h.1.guarded.agrees

/-- The wait for the end returns the verdict on a reason that was noted. -/
theorem Sound.exists_reason (h : x.Sound) {k : Closedown} {result : Except DaemonError Unit}
    (hstage : x.stage = .serving k) (hresult : x.result? = some result) :
    ∃ r, x.shutdown.reason = some r ∧ result = verdict (some r) := by
  obtain ⟨stage, calls⟩ := x
  obtain rfl : stage = .serving k := hstage
  obtain ⟨hserves, b, hk⟩ := h
  have hsuits := hk.suits
  unfold result? at hresult
  dsimp only at hresult
  split at hresult
  · next hreturned =>
    obtain ⟨r, hr⟩ := hserves.noted (by rw [hreturned]; nofun)
    exact ⟨r, hr, (Option.some.inj hresult).symm.trans (congrArg verdict hr)⟩
  · next hfailed =>
    rw [hfailed] at hsuits
    exact hsuits.elim
  · cases hresult

/-- A sound clamour is lawful. -/
theorem Sound.lawful (h : x.Sound) : x.Lawful := by
  refine ⟨h.agrees.won, h.agrees.raised, fun r hr more => (h.extend more).2.reason r hr,
    fun c hc hfirst more t ht => ?_, fun k result hstage hresult => ?_⟩
  · obtain ⟨hafter, hextends⟩ := h.extend more
    have htree := hafter.agrees.tree
    have hraised := hextends.isCancelled h.agrees.tree htree (h.agrees.first c hc hfirst)
    exact htree.isCancelled_of_isTriggered hraised ht
  obtain ⟨r, hr, rfl⟩ := h.exists_reason hstage hresult
  exact ⟨r, hr, verdict_eq_stopped_iff, verdict_eq_ok_iff⟩

end Life

/-! ## The virtual clock -/

/-- A daemon that was started has the shutdown that it was given, and it has only gone on. -/
theorem extends_start {machine : Machine} {settings : Settings} {shutdown : Shutdown} {d : Daemon}
    {r : Registry} (h : Daemon.start machine settings shutdown = (.ok d, r)) :
    Extends shutdown d.registry.surroundings.shutdown := by
  obtain ⟨surroundings, _, _, before, hprepare, -, hregistry, hd, -⟩ := exists_of_start h
  have hall := Registry.extends_startAll hregistry
  rw [show (Registry.mk [] surroundings).surroundings.shutdown = shutdown from
    shutdown_of_prepare hprepare] at hall
  rw [hd]
  exact hall.trans (Shutdown.extends_child _ _)

/-- The wait returns the verdict on the reason that it finds in the end, unless the event queue is
to blame. -/
theorem wait_eq_verdict (d : Daemon) :
    d.wait.1 = verdict d.wait.2.registry.surroundings.shutdown.reason ∨
      ∃ e, d.wait.1 = .error (.queue e) := by
  unfold wait
  dsimp only
  split
  · exact .inr ⟨_, rfl⟩
  · exact .inl rfl

/-- The wait for the end of a daemon returns the verdict on the reason that was noted first. -/
theorem exists_reason_of_wait {machine : Machine} {settings : Settings} {shutdown : Shutdown}
    {d : Daemon} {r : Registry} (hstart : Daemon.start machine settings shutdown = (.ok d, r))
    (reason : ShutdownReason)
    (hraised : (d.trigger reason).2.registry.surroundings.shutdown.isTriggered = true) :
    ∃ first, (d.trigger reason).2.registry.surroundings.shutdown.reason = some first ∧
      Extends shutdown (d.trigger reason).2.registry.surroundings.shutdown ∧
      (d.trigger reason).2.wait.1 = verdict (some first) := by
  obtain ⟨⟨moves, -, hmoves⟩, hqueue, -, -⟩ :=
    Closedown.exists_moves_of_wait hstart reason hraised
  have hfresh := (Daemon.fresh_of_start hstart).1
  have hshutdown : (d.trigger reason).2.registry.surroundings.shutdown =
      (d.registry.surroundings.shutdown.trigger reason).2 :=
    congrArg (·.surroundings.shutdown) (Registry.trigger_of_fresh hfresh reason)
  have hbefore := d.registry.surroundings.shutdown.extends_trigger reason
  have hafter := ((Closedown.start d).next (.trigger reason)).extends_extend moves
  rw [show (((Closedown.start d).next (.trigger reason)).extend moves).surroundings =
    (d.trigger reason).2.wait.2.registry.surroundings from
      congrArg (fun d : Daemon => d.registry.surroundings) hmoves] at hafter
  obtain ⟨first, hfirst⟩ := Shutdown.exists_reason_trigger d.registry.surroundings.shutdown reason
  rw [hshutdown]
  refine ⟨first, hfirst, (extends_start hstart).trans hbefore, ?_⟩
  obtain hverdict | ⟨e, he⟩ := wait_eq_verdict (d.trigger reason).2
  · rw [hverdict, hafter.reason first hfirst]
  · exact absurd he (hqueue e)

/-! ## The first reason -/

/-- However many calls raise the shutdown, and in whatever order they go on: exactly one of them
is the first, and its reason is read for ever by whoever looks; once it has returned all tokens
are cancelled, and cancelling a token that was derived reaches only what comes from it. The same
is true while a daemon is started with this shutdown, and as long as it lives: what is returned to
whoever waits for its end is an error exactly if the first reason is a listener or the daemon
itself that has failed. It is so too for the wait under the virtual clock. -/
theorem first_reason_decides (events : List Shutdown.Clamour.Event) :
    let w := Shutdown.Clamour.start.extend events
    w.Lawful ∧
    (∀ (network : Network) (secured : Bool) (settings : Settings) (surroundings : Surroundings),
      Daemon.prepare settings.queues w.shutdown = .ok surroundings → ∀ moves : List LifeMove,
        ((Life.start network secured settings surroundings w.calls).extend moves).Lawful) ∧
    ∀ (machine : Machine) (settings : Settings) (d : Daemon) (r : Registry),
      Daemon.start machine settings w.shutdown = (.ok d, r) → ∀ reason : ShutdownReason,
        let raised := (d.trigger reason).2
        raised.registry.surroundings.shutdown.isTriggered = true → ∃ first,
          raised.registry.surroundings.shutdown.reason = some first ∧
          (∀ c ∈ w.calls, c.hasWon = true → c.reason = first) ∧
          (raised.wait.1 = .error (.stopped first) ↔
            (∃ label, first = .listenerFailed label) ∨ ∃ what, first = .internal what) ∧
          (raised.wait.1 = .ok () ↔
            ¬((∃ label, first = .listenerFailed label) ∨ ∃ what, first = .internal what)) := by
  intro w
  have hsound := Shutdown.Clamour.sound_extend events
  refine ⟨Shutdown.Clamour.lawful_extend events,
    fun network secured settings surroundings hprepare moves => ?_,
    fun machine settings d r hstart reason => ?_⟩
  · exact ((Life.sound_start network secured hprepare hsound.agrees).extend moves).1.lawful
  · intro raised hraised
    obtain ⟨first, hfirst, hextends, hwait⟩ := exists_reason_of_wait hstart reason hraised
    refine ⟨first, hfirst, fun c hc hwon => ?_, ?_, ?_⟩
    · have hnoted := hextends.reason _ (hsound.agrees.won c hc hwon)
      exact Option.some.inj (hnoted.symm.trans hfirst)
    · rw [hwait]
      exact verdict_eq_stopped_iff
    · rw [hwait]
      exact verdict_eq_ok_iff

/-- A request and a failure raise the shutdown at once. The failure has the lock first, and the
request has lost before the root is cancelled. -/
def failureFirst : List Shutdown.Clamour.Event :=
  [.call .requested, .call (.internal "disk"), .derive Shutdown.root, .derive 1, .turn 1, .turn 0]

/-- The clamour of these two. -/
def twoCalls : Shutdown.Clamour := Shutdown.Clamour.start.extend failureFirst

/-- What a daemon starts with in the middle of it. -/
def surroundingsMeanwhile : Surroundings :=
  match Daemon.prepare Closedown.narrowSettings.queues twoCalls.shutdown with
  | .ok surroundings => surroundings
  | .error _ => .new 0

/-- The listener starts, the failure cancels the root, and the wait goes on until it returns. -/
def endedMeanwhile : List Move :=
  [.wait, .stop 0, .listener 0 (.accept false), .stop 0, .stop 0, .wait, .consume false] ++
    List.replicate 6 .wait

/-- The life of this daemon. -/
def lifeMeanwhile : Life :=
  (Life.start Closedown.bareMachine.network true Closedown.narrowSettings surroundingsMeanwhile
    twoCalls.calls).extend (List.replicate 3 (.start .goOn) ++ [.launch, .turn 1] ++
      endedMeanwhile.map .serve)

/-- A daemon that is started when both calls have returned. -/
def lateDaemon : Daemon :=
  match Daemon.start Closedown.bareMachine Closedown.narrowSettings
    (twoCalls.extend [.turn 1]).shutdown with
  | (.ok d, _) => d
  | (.error _, r) => ⟨r, ⟨Shutdown.root, false, 0⟩⟩

/-- An internal failure is noted and a request comes while the root is not yet cancelled. A daemon
that lives through both, and one that is started after both, report the failure. -/
theorem failure_decides_despite_request :
    Daemon.prepare Closedown.narrowSettings.queues twoCalls.shutdown =
      .ok surroundingsMeanwhile ∧
    twoCalls.shutdown.isTriggered = false ∧
    lifeMeanwhile.calls.map Shutdown.Call.stage = [.returned false, .returned true] ∧
    lifeMeanwhile.result? = some (.error (.stopped (.internal "disk"))) ∧
    Daemon.start Closedown.bareMachine Closedown.narrowSettings
      (twoCalls.extend [.turn 1]).shutdown = (.ok lateDaemon, lateDaemon.registry) ∧
    (lateDaemon.trigger .requested).2.wait.1 = .error (.stopped (.internal "disk")) := by
  have hprepare : Daemon.prepare Closedown.narrowSettings.queues twoCalls.shutdown =
      .ok surroundingsMeanwhile := rfl
  have hstart : Daemon.start Closedown.bareMachine Closedown.narrowSettings
      (twoCalls.extend [.turn 1]).shutdown = (.ok lateDaemon, lateDaemon.registry) := rfl
  have hcalls : twoCalls.shutdown.isTriggered = false ∧
      lifeMeanwhile.calls.map Shutdown.Call.stage = [.returned false, .returned true] ∧
      lifeMeanwhile.shutdown.reason = some (.internal "disk") := by decide +kernel
  have hraised : (lateDaemon.trigger .requested).2.registry.surroundings.shutdown.isTriggered =
      true ∧ (lateDaemon.trigger .requested).2.registry.surroundings.shutdown.reason =
        some (.internal "disk") := by decide +kernel
  have hreturned : (match lifeMeanwhile.stage with
      | .serving k => (k.stage matches .returned)
      | .starting _ => false) = true := by decide +kernel
  obtain ⟨-, hlives, -⟩ := first_reason_decides failureFirst
  obtain ⟨-, -, hwaits⟩ := first_reason_decides (failureFirst ++ [.turn 1])
  have hlawful : lifeMeanwhile.Lawful := hlives _ _ _ _ hprepare _
  obtain ⟨first, hfirst, -, hwait, -⟩ := hwaits _ _ _ _ hstart .requested hraised.1
  obtain rfl : first = .internal "disk" := Option.some.inj (hfirst.symm.trans hraised.2)
  refine ⟨hprepare, hcalls.1, hcalls.2.1, ?_, hstart, hwait.mpr (.inr ⟨_, rfl⟩)⟩
  have hreason := hcalls.2.2
  generalize lifeMeanwhile = x at hreturned hlawful hreason ⊢
  obtain ⟨stage, calls⟩ := x
  cases stage with
  | starting s => cases hreturned
  | serving k =>
    have hreturned : (k.stage matches .returned) = true := hreturned
    have hstage : k.stage = .returned := by
      generalize k.stage = stage at hreturned ⊢
      cases stage <;> simp at hreturned ⊢
    have hresult : (⟨.serving k, calls⟩ : Life).result? =
        some (verdict k.surroundings.shutdown.reason) := by
      rw [Life.result?]
      dsimp only
      rw [hstage]
    obtain ⟨r, hr, hstopped, -⟩ := hlawful.decided k _ rfl hresult
    obtain rfl : r = .internal "disk" := Option.some.inj (hr.symm.trans hreason)
    rw [hresult, hstopped.mpr (.inr ⟨_, rfl⟩)]

end Daemon

end Diameter
