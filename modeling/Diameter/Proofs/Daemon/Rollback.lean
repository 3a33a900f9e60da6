import Diameter.Proofs.Daemon.Attempt

/-!
# The listeners of a plan are started all or not at all

Main statement: if an endpoint of a plan cannot be listened on, the start returns the error of the
first such endpoint, in whatever order everything goes on, and no endpoint after it is ever tried.
By then the listeners before it have been stopped: their status is final, nobody is in their sets,
and no handshake of theirs is handed over from then on. The shutdown has been raised, and its
reason is the failure of this endpoint unless another one had been noted when the stops had
returned. If all endpoints can be listened on, each has its listener in the order of the plan,
save those for which another listener stands.

Neither is only true of a start that returns: whatever has happened, the start can go on until it
does, and needs nothing from clients for that.
-/

namespace Diameter.Daemon

open Shutdown (Agrees Attended Clamour Extends)

/-! ## The start comes to its end -/

/-- How many steps are left after the stops. -/
def StartStage.left : StartStage → Nat
  | .clearing _ => 4
  | .destroying _ => 3
  | .waking _ .consumer => 2
  | .waking _ .producer => 1
  | _ => 0

namespace Startup

variable {s : Startup}

/-- After the stops the start never has to wait. -/
theorem left_goOn (hpast : s.stage.isPastStops = true) : s.goOn.stage.isPastStops = true ∧
    s.goOn.stage.left ≤ s.stage.left - 1 := by
  unfold goOn
  cases hstage : s.stage with
  | clearing cause => exact ⟨rfl, Nat.le_refl 3⟩
  | destroying cause =>
    dsimp only
    split
    · exact ⟨rfl, Nat.le_refl 2⟩
    · exact ⟨rfl, Nat.zero_le 2⟩
  | waking cause side => cases side <;> exact ⟨rfl, Nat.le_refl _⟩
  | failed cause result =>
    rw [hstage]
    exact ⟨rfl, Nat.le_refl 0⟩
  | listening | stopping | started =>
    rw [hstage] at hpast
    cases hpast

/-- So it returns its error. -/
theorem exists_failed {n : Nat} (hpast : s.stage.isPastStops = true) (hn : s.stage.left ≤ n) :
    ∃ cause result, (s.extend (List.replicate n .goOn)).stage = .failed cause result := by
  induction n generalizing s with
  | zero =>
    cases hstage : s.stage with
    | failed cause result => exact ⟨cause, result, hstage⟩
    | waking cause side =>
      rw [hstage] at hn
      cases side <;> cases hn
    | clearing | destroying =>
      rw [hstage] at hn
      cases hn
    | listening | stopping | started =>
      rw [hstage] at hpast
      cases hpast
  | succ n ih =>
    obtain ⟨hpast', hless⟩ := left_goOn hpast
    exact ih (s := s.goOn) hpast' (Nat.le_trans hless (Nat.sub_le_of_le_add hn))

/-- Moves by which nobody outside cancels the root lead to the end of the start. -/
def Settles (s : Startup) : Prop :=
  ∃ moves : List StartMove, (∀ m ∈ moves, m.sparesRoot = true) ∧
    ((s.extend moves).stage = .started ∨ ∃ cause result, (s.extend moves).stage = .failed cause result)

/-- What settles after some moves settles. -/
theorem Settles.of_extend (moves : List StartMove) (hmoves : ∀ m ∈ moves, m.sparesRoot = true)
    (h : Settles (s.extend moves)) : Settles s := by
  obtain ⟨more, hmore, hend⟩ := h
  refine ⟨moves ++ more, fun m hm => (List.mem_append.mp hm).elim (hmoves m) (hmore m), ?_⟩
  rwa [Startup.extend_append]

/-- A start whose stops have returned settles at once. -/
theorem settles_of_isPastStops (hpast : s.stage.isPastStops = true) : Settles s := by
  obtain ⟨cause, result, hfailed⟩ := Startup.exists_failed hpast (Nat.le_refl _)
  refine ⟨List.replicate s.stage.left .goOn, fun m hm => ?_, .inr ⟨cause, result, hfailed⟩⟩
  rw [List.eq_of_mem_replicate hm]
  rfl

end Startup

namespace Outset.Starts

open Startup (Settles settles_of_isPastStops)

variable {o : Outset} {calls : List Shutdown.Call} {tried : List Endpoint}
  {found : Option (Option ShutdownReason)} {s : Startup} {cause : ListenerError} {label : String}

/-- A start that stops what it had started settles, as every stop has moves left that make it
return. -/
theorem settles_of_stopping (h : o.Starts calls tried found s)
    (hstage : s.stage = .stopping cause label) : Settles s := by
  have hfits := h.fits
  rw [hstage] at hfits
  have hhalts : s.scene.Halts calls := ⟨hfits.1, h.guarded, h.halted⟩
  obtain ⟨moves, hmoves, hstopped⟩ := hhalts.exists_stopped
  have hextend := s.extend_beside fun m hm => (hmoves m hm).1
  have hgone : (s.extend (moves.map .beside)).goOn.stage = .clearing cause := by
    unfold Startup.goOn
    rw [hextend]
    dsimp only
    rw [hstage]
    dsimp only
    rw [if_pos hstopped]
  refine Settles.of_extend (moves.map .beside) (fun m hm => ?_)
    (Settles.of_extend [.goOn] (List.forall_mem_singleton.mpr rfl)
      (settles_of_isPastStops ?_))
  · obtain ⟨m', hm', rfl⟩ := List.mem_map.mp hm
    exact (hmoves m' hm').2
  · show (s.extend (moves.map .beside)).goOn.stage.isPastStops = true
    rw [hgone]
    rfl

/-- Whatever has happened, the start can go on until it returns. -/
theorem settles (h : o.Starts calls tried found s) : Settles s := by
  have hlistening {rest : List Endpoint} {s : Startup} {tried : List Endpoint}
      (h : o.Starts calls tried found s) (hstage : s.stage = .listening rest) : Settles s := by
    induction rest generalizing s tried with
    | nil =>
      refine ⟨[.goOn], List.forall_mem_singleton.mpr rfl, .inl ?_⟩
      show s.goOn.stage = .started
      unfold Startup.goOn
      rw [hstage]
    | cons e rest ih =>
      have hnext := h.listen hstage
      refine Settles.of_extend [.goOn] (List.forall_mem_singleton.mpr rfl) ?_
      have hgone : s.goOn.stage = .listening rest ∨ ∃ cause label,
          s.goOn.stage = .stopping cause label := by
        unfold Startup.goOn
        rw [hstage]
        dsimp only
        split
        · exact .inl rfl
        · exact .inr ⟨_, _, rfl⟩
      obtain hrest | ⟨cause, label, hstopping⟩ := hgone
      · exact ih hnext hrest
      · exact settles_of_stopping hnext hstopping
  cases hstage : s.stage with
  | listening rest => exact hlistening h hstage
  | stopping cause label => exact settles_of_stopping h hstage
  | started => exact ⟨[], fun m hm => absurd hm List.not_mem_nil, .inl hstage⟩
  | clearing | destroying | waking | failed =>
    refine settles_of_isPastStops ?_
    rw [hstage]
    rfl

end Outset.Starts

/-! ## Listeners that it is over with -/

/-- Nothing changes the status of a listener that it is over with. -/
theorem Closedown.statuses_next {k : Closedown} (hover : ∀ x ∈ k.registry.listeners, x.state.IsOver)
    (m : Move) : (k.next m).registry.listeners.map (·.state.status) =
      k.registry.listeners.map (·.state.status) := by
  obtain hsame | ⟨i, e, -, hperform⟩ := Closedown.registry_next k m
  · rw [hsame]
  · rw [hperform]
    rcases hx : k.registry.listeners[i]? with _ | x
    · rw [perform_of_none hx]
    · rw [perform_of_some hx]
      obtain ⟨hlt, rfl⟩ := List.getElem?_eq_some_iff.mp hx
      have hstatus := Listener.status_perform_of_isFinal
        (l := ⟨k.registry.listeners[i].state, k.surroundings⟩)
        (hover _ (List.getElem_mem hlt)).status e
      show (k.registry.listeners.set i _).map _ = _
      rw [List.map_set, hstatus]
      refine Eq.trans ?_ (List.set_getElem_self ((List.length_map _).symm ▸ hlt))
      rw [List.getElem_map]

/-! ## What comes of an attempt -/

/-- Whether the daemon has been started. -/
def Life.isUp (x : Life) : Bool :=
  match x.stage with
  | .starting s => (s.stage matches .started)
  | .serving _ => true

namespace Attempt

/-- What is left when the error of an endpoint has been returned. -/
structure RolledBack (a : Attempt) (before : List Endpoint) (e : Endpoint) (ps : List Profile) :
    Prop where
  /-- The endpoint was tried after all those before it, and none after it. -/
  tried : a.tried = before ++ [e]
  /-- Those before it have their listeners. -/
  profiles : a.life.scene.registry.profiles = ps
  /-- It is over with all of these. -/
  isOver : ∀ x ∈ a.life.scene.registry.listeners, x.state.IsOver
  /-- None of their handshakes is handed over. One that comes to that closes its connection. -/
  refuses : ∀ x ∈ a.life.scene.registry.listeners, ∀ h y decision,
    x.state.handshakes[h]? = some y → y.phase = .leaving decision → ∃ outcome late,
      outcome ≠ .handedOff ∧ ((⟨x.state, a.life.scene.surroundings⟩ : Listener).claim h).handshakes[h]? =
        some { y with phase := .closing outcome late }
  /-- The reason is the one that was found after the stops, or else this failure. -/
  reason : ∃ earlier, a.found = some earlier ∧
    a.life.shutdown.reason = some (earlier.getD (.listenerFailed e.label))
  /-- The root is cancelled, or the call that had noted its reason earlier is about to do it. -/
  raised : a.life.shutdown.isTriggered = true ∨ ∃ c ∈ a.life.calls, c.stage = .noted

/-- What comes of an attempt at a plan of which this endpoint is the first that cannot be listened
on. -/
structure RollsBack (a : Attempt) (before : List Endpoint) (e : Endpoint) (cause : ListenerError)
    (ps : List Profile) : Prop where
  /-- No endpoint after it is tried. -/
  tried : a.tried <+: before ++ [e]
  /-- No other result is returned than its error. -/
  result : ∀ result, a.life.result? = some result → result = .error (.listener cause)
  /-- When that has been returned, all has been rolled back, for ever. -/
  left : a.life.result? = some (.error (.listener cause)) → ∀ more : List LifeMove,
    let b := a.extend more
    b.RolledBack before e ps ∧ b.life.result? = a.life.result? ∧ b.found = a.found ∧
      b.life.scene.registry.listeners.map (·.state.status) =
        a.life.scene.registry.listeners.map (·.state.status)
  /-- It can be returned, whatever has happened. -/
  returns : ∃ more, (a.extend more).life.result? = some (.error (.listener cause))

/-- What comes of an attempt at a plan of which every endpoint can be listened on. -/
structure Completes (a : Attempt) (plan : List Endpoint) (ps : List Profile) : Prop where
  /-- The endpoints are tried in their order. -/
  tried : a.tried <+: plan
  /-- No listener is to blame for any result. -/
  result : ∀ cause, a.life.result? ≠ some (.error (.listener cause))
  /-- When the daemon has been started all endpoints have been tried, and the listeners are there
  and have been started. -/
  up : a.life.isUp = true → a.tried = plan ∧ a.life.scene.registry.profiles = ps ∧
    ∀ x ∈ a.life.scene.registry.listeners, x.state.status ≠ .notStarted
  /-- It can be started, whatever has happened. -/
  comes : ∃ more, (a.extend more).life.isUp = true

variable {o : Outset} {a : Attempt} {before : List Endpoint} {e : Endpoint}
  {cause : ListenerError} {ps : List Profile}

/-- Only a start that has failed blames a listener. Else the daemon has been started. -/
theorem result_cases {result : Except DaemonError Unit} (h : a.life.result? = some result) :
    (∃ s cause given, a.life.stage = .starting s ∧ s.stage = .failed cause given ∧
      result = .error (.listener cause)) ∨
    (∃ k, a.life.stage = .serving k) ∧ ∀ cause, result ≠ .error (.listener cause) := by
  unfold Life.result? at h
  rcases hstage : a.life.stage with s | k
  · rw [hstage] at h
    dsimp only at h
    split at h
    · next cause given hfailed => exact .inl ⟨s, cause, given, rfl, hfailed, (Option.some.inj h).symm⟩
    · cases h
  · rw [hstage] at h
    refine .inr ⟨⟨k, rfl⟩, fun cause => ?_⟩
    rintro rfl
    dsimp only at h
    split at h
    · unfold verdict at h
      split at h
      · split at h <;> cases h
      · cases h
    · cases h
    · cases h

/-- A life that has failed over a listener ends with a start that has failed over it. -/
theorem exists_failed_of_result (h : a.life.result? = some (.error (.listener cause))) :
    ∃ s result, a.life.stage = .starting s ∧ s.stage = .failed cause result := by
  obtain ⟨s, cause', given, hs, hfailed, heq⟩ | ⟨-, hother⟩ := result_cases h
  · cases heq
    exact ⟨s, given, hs, hfailed⟩
  · exact absurd rfl (hother cause)

/-- A start that has failed over a listener is a life that has failed over it. -/
theorem result_of_failed {s : Startup} {result : Except QueueError Unit}
    (hs : a.life.stage = .starting s) (hfailed : s.stage = .failed cause result) :
    a.life.result? = some (.error (.listener cause)) := by
  unfold Life.result?
  rw [hs]
  dsimp only
  rw [hfailed]

/-- What is known when the start has failed. -/
theorem Keeps.givenUp (h : a.Keeps o) {s : Startup} {result : Except QueueError Unit}
    (hs : a.life.stage = .starting s) (hfailed : s.stage = .failed cause result) :
    o.Starts a.life.calls a.tried a.found s ∧
      ∃ before e, o.GivenUp a.tried a.found s.scene before e cause := by
  unfold Keeps at h
  rw [hs] at h
  have hfits := h.fits
  rw [hfailed] at hfits
  exact ⟨h, hfits⟩

/-- What is left then. -/
theorem Keeps.rolledBack (h : a.Keeps o) (hfails : o.FailsAt before e cause ps)
    (hresult : a.life.result? = some (.error (.listener cause))) : a.RolledBack before e ps := by
  obtain ⟨s, result, hs, hfailed⟩ := exists_failed_of_result hresult
  obtain ⟨hstarts, before', e', hgiven⟩ := h.givenUp hs hfailed
  obtain ⟨rfl, rfl, -, hps⟩ := hfails.unique hgiven.failsAt
  have hscene : a.life.scene = s.scene := by
    unfold Life.scene
    rw [hs]
  refine ⟨hgiven.tried, ?_, ?_, ?_, ?_, ?_⟩
  · rw [hscene, hps]
  · rw [hscene]
    exact hgiven.isOver
  · rw [hscene]
    exact fun x hx h y decision hy hphase => Listener.phase_claim_of_taken
      (l := ⟨x.state, s.scene.surroundings⟩) hy hphase (hgiven.isOver x hx).outstanding
  · unfold Life.shutdown
    rw [hscene]
    exact hgiven.reason
  · obtain ⟨earlier, -, hreason⟩ := hgiven.reason
    unfold Life.shutdown
    rw [hscene]
    obtain hnone | htriggered | hcall | hnobody := hstarts.attended
    · cases hnone.symm.trans hreason
    · exact .inl htriggered
    · exact .inr hcall
    · exact hnobody.elim

/-- A start that has failed stays so. Its listeners keep their status. -/
theorem Keeps.next_of_failed (h : a.Keeps o) {s : Startup} {result : Except QueueError Unit}
    (hs : a.life.stage = .starting s) (hfailed : s.stage = .failed cause result) (m : LifeMove) :
    ∃ s', (a.next m).life.stage = .starting s' ∧ s'.stage = .failed cause result ∧
      (a.next m).found = a.found ∧ s'.scene.registry.listeners.map (·.state.status) =
        s.scene.registry.listeners.map (·.state.status) := by
  obtain ⟨-, before, e, hgiven⟩ := h.givenUp hs hfailed
  obtain ⟨⟨stage, calls⟩, tried, found⟩ := a
  obtain rfl : stage = .starting s := hs
  cases m with
  | start m =>
    cases m with
    | goOn =>
      have hgone : s.goOn = s := by
        unfold Startup.goOn
        rw [hfailed]
      have hraises : s.raises = false := by rw [Startup.raises, hfailed]
      refine ⟨s, congrArg LifeStage.starting hgone, hfailed, ?_, rfl⟩
      show (if s.raises then some s.scene.surroundings.shutdown.reason else found) = found
      rw [hraises]
      rfl
    | beside m =>
      unfold Attempt.next Life.next Startup.next
      dsimp only
      split
      · split
        · exact ⟨_, rfl, hfailed, rfl, Closedown.statuses_next hgiven.isOver m⟩
        · exact ⟨s, rfl, hfailed, rfl, rfl⟩
      · exact ⟨s, rfl, hfailed, rfl, rfl⟩
  | launch =>
    unfold Attempt.next Life.next
    dsimp only
    rw [hfailed]
    exact ⟨s, rfl, hfailed, rfl, rfl⟩
  | serve m => exact ⟨s, rfl, hfailed, rfl, rfl⟩
  | call reason => exact ⟨s, rfl, hfailed, rfl, rfl⟩
  | turn i => exact ⟨_, rfl, hfailed, rfl, rfl⟩

/-- After a start has failed, no move changes what it has failed over, nor the status of a
listener. -/
theorem Keeps.extend_of_failed (h : a.Keeps o) {s : Startup} {result : Except QueueError Unit}
    (hs : a.life.stage = .starting s) (hfailed : s.stage = .failed cause result)
    (more : List LifeMove) :
    ∃ s', (a.extend more).life.stage = .starting s' ∧ s'.stage = .failed cause result ∧
      (a.extend more).found = a.found ∧ s'.scene.registry.listeners.map (·.state.status) =
        s.scene.registry.listeners.map (·.state.status) := by
  induction more generalizing a s with
  | nil => exact ⟨s, hs, hfailed, rfl, rfl⟩
  | cons m more ih =>
    obtain ⟨s', hs', hfailed', hfound, hstatuses⟩ := h.next_of_failed hs hfailed m
    obtain ⟨s'', hs'', hfailed'', hfound', hstatuses'⟩ := ih (h.next m) hs' hfailed'
    exact ⟨s'', hs'', hfailed'', hfound'.trans hfound, hstatuses'.trans hstatuses⟩

/-- The start goes on by moves of its own. -/
theorem extend_start {s : Startup} (hs : a.life.stage = .starting s) {moves : List StartMove}
    (hmoves : ∀ m ∈ moves, m.sparesRoot = true) :
    (a.extend (moves.map .start)).life.stage = .starting (s.extend moves) := by
  induction moves generalizing a s with
  | nil => exact hs
  | cons m moves ih =>
    obtain ⟨hm, hrest⟩ := List.forall_mem_cons.mp hmoves
    refine ih (a := a.next (.start m)) ?_ hrest
    rw [life_next]
    unfold Life.next
    rw [hs]
    dsimp only
    rw [if_pos hm]

/-- Whatever has happened, the daemon can be started, or the error of a listener be returned. -/
theorem Keeps.exists_end (h : a.Keeps o) : ∃ more, (a.extend more).life.isUp = true ∨
    ∃ cause, (a.extend more).life.result? = some (.error (.listener cause)) := by
  rcases hstage : a.life.stage with s | k
  · unfold Keeps at h
    rw [hstage] at h
    obtain ⟨moves, hmoves, hend⟩ := h.settles
    have hafter := extend_start hstage hmoves
    refine ⟨moves.map .start, hend.imp (fun hstarted => ?_) fun ⟨cause, result, hfailed⟩ =>
      ⟨cause, result_of_failed hafter hfailed⟩⟩
    unfold Life.isUp
    rw [hafter]
    dsimp only
    rw [hstarted]
  · refine ⟨[], .inl ?_⟩
    show a.life.isUp = true
    unfold Life.isUp
    rw [hstage]

/-- A daemon that has been started has all its listeners. -/
theorem Keeps.up (h : a.Keeps o) (hup : a.life.isUp = true) :
    a.tried = o.plan ∧ o.Musters o.plan a.life.scene.registry.profiles ∧
      ∀ x ∈ a.life.scene.registry.listeners, x.state.status ≠ .notStarted := by
  obtain ⟨⟨stage, calls⟩, tried, found⟩ := a
  cases stage with
  | starting s =>
    have hstage : s.stage = .started := by
      unfold Life.isUp at hup
      revert hup
      dsimp only
      cases s.stage <;> simp
    replace h : o.Starts calls tried found s := h
    have hfits := h.fits
    rw [hstage] at hfits
    exact ⟨hfits.1, hfits.2, h.halted.begun⟩
  | serving k => exact ⟨h.tried, h.musters, h.begun⟩

/-- What was tried is the beginning of the plan, up to the first endpoint that cannot be listened
on. -/
theorem Keeps.tried_cases (h : a.Keeps o) :
    (∃ rest ps, o.plan = a.tried ++ rest ∧ o.Musters a.tried ps) ∨
      ∃ before e cause ps, o.FailsAt before e cause ps ∧ a.tried = before ++ [e] := by
  have hall {ps : List Profile} (htried : a.tried = o.plan) (hmusters : o.Musters o.plan ps) :
      ∃ rest ps, o.plan = a.tried ++ rest ∧ o.Musters a.tried ps :=
    ⟨[], ps, by rw [htried, List.append_nil], htried ▸ hmusters⟩
  rcases hstage : a.life.stage with s | k
  · unfold Keeps at h
    rw [hstage] at h
    have hfits := h.fits
    cases hs : s.stage with
    | listening rest =>
      rw [hs] at hfits
      exact .inl ⟨rest, _, hfits⟩
    | started =>
      rw [hs] at hfits
      exact .inl (hall hfits.1 hfits.2)
    | stopping cause label =>
      rw [hs] at hfits
      obtain ⟨-, before, e, hfails, htried, -⟩ := hfits
      exact .inr ⟨before, e, cause, _, hfails, htried⟩
    | clearing cause | destroying cause | waking cause side | failed cause result =>
      rw [hs] at hfits
      obtain ⟨before, e, hgiven⟩ := hfits
      exact .inr ⟨before, e, cause, _, hgiven.failsAt, hgiven.tried⟩
  · unfold Keeps at h
    rw [hstage] at h
    exact .inl (hall h.tried h.musters)

/-- The attempt fails because of the first endpoint that cannot be listened on. -/
theorem Keeps.rollsBack (h : a.Keeps o) (hfails : o.FailsAt before e cause ps) :
    a.RollsBack before e cause ps := by
  have hdown {a : Attempt} (h : a.Keeps o) : a.life.isUp = false := by
    by_contra hup
    obtain ⟨-, hmusters, -⟩ := h.up (Bool.eq_true_of_not_eq_false hup)
    exact hfails.not_musters_plan hmusters
  have hresult {a : Attempt} (h : a.Keeps o) {cause' : ListenerError}
      (hresult : a.life.result? = some (.error (.listener cause'))) : cause' = cause := by
    obtain ⟨s, result, hs, hfailed⟩ := exists_failed_of_result hresult
    obtain ⟨-, before', e', hgiven⟩ := h.givenUp hs hfailed
    exact (hgiven.failsAt.unique hfails).2.2.1
  refine ⟨?_, fun result hsome => ?_, fun hsome more => ?_, ?_⟩
  · obtain ⟨rest, ps', hplan, hmusters⟩ | ⟨before', e', cause', ps', hfails', htried⟩ :=
      h.tried_cases
    · exact (hfails.before_of_musters hplan hmusters).trans (List.prefix_append _ _)
    · obtain ⟨rfl, rfl, -⟩ := hfails.unique hfails'
      exact htried ▸ List.prefix_refl _
  · obtain ⟨s, cause', given, hs, hfailed, rfl⟩ | ⟨⟨k, hk⟩, -⟩ := result_cases hsome
    · rw [hresult h hsome]
    · have hserving := hdown h
      unfold Life.isUp at hserving
      rw [hk] at hserving
      cases hserving
  · obtain ⟨s, result, hs, hfailed⟩ := exists_failed_of_result hsome
    obtain ⟨s', hs', hfailed', hfound, hstatuses⟩ := h.extend_of_failed hs hfailed more
    have hafter := result_of_failed hs' hfailed'
    refine ⟨(h.extend more).rolledBack hfails hafter, hafter.trans hsome.symm, hfound, ?_⟩
    unfold Life.scene
    rw [hs, hs']
    exact hstatuses
  · obtain ⟨more, hup | ⟨cause', hsome⟩⟩ := h.exists_end
    · cases hup.symm.trans (hdown (h.extend more))
    · exact ⟨more, hresult (h.extend more) hsome ▸ hsome⟩

/-- The attempt comes to all listeners if every endpoint can be listened on. -/
theorem Keeps.completes (h : a.Keeps o) (hmusters : o.Musters o.plan ps) :
    a.Completes o.plan ps := by
  have hno {a : Attempt} (h : a.Keeps o) (cause : ListenerError) :
      a.life.result? ≠ some (.error (.listener cause)) := fun hsome => by
    obtain ⟨s, result, hs, hfailed⟩ := exists_failed_of_result hsome
    obtain ⟨-, before, e, hgiven⟩ := h.givenUp hs hfailed
    exact hgiven.failsAt.not_musters_plan hmusters
  refine ⟨?_, hno h, fun hup => ?_, ?_⟩
  · obtain ⟨rest, ps', hplan, -⟩ | ⟨before, e, cause, ps', hfails, -⟩ := h.tried_cases
    · exact ⟨rest, hplan.symm⟩
    · exact absurd hmusters hfails.not_musters_plan
  · obtain ⟨htried, hmusters', hbegun⟩ := h.up hup
    exact ⟨htried, hmusters'.unique hmusters, hbegun⟩
  · obtain ⟨more, hup | ⟨cause, hsome⟩⟩ := h.exists_end
    · exact ⟨more, hup⟩
    · exact absurd hsome (hno (h.extend more) cause)

end Attempt

/-! ## When nothing happens in between -/

namespace Outset

variable {o : Outset} {before : List Endpoint} {e : Endpoint} {cause : ListenerError}
  {ps : List Profile}

/-- There is no listener before the first has started. -/
theorem unused_start (o : Outset) : Registry.Unused ⟨[], o.surroundings⟩ :=
  ⟨fun _ hx => absurd hx List.not_mem_nil, fun _ hx => absurd hx List.not_mem_nil⟩

/-- Listeners that are mustered are those of the endpoints, and they are running. -/
theorem Musters.enlists (h : o.Musters before ps) :
    ∃ skipped, Registry.Enlists o.network before ps skipped ∧
      (skipped = [] → List.Forall₂ (fun e p => p = .ofEndpoint e p.taken) before ps) := by
  obtain ⟨r, hall, rfl⟩ := h
  have hnone : Registry.Enlists o.network [] (Registry.mk [] o.surroundings).profiles [] := .none
  obtain ⟨skipped, henlists⟩ := hnone.startAll hall
  exact ⟨skipped, henlists, henlists.forall₂⟩

/-- A plan that is mustered can be started at one go, and all its listeners run. -/
theorem Musters.exists_startAll (h : o.Musters before ps) : ∃ r, o.startAll before = (.ok (), r) ∧
    r.profiles = ps ∧ ∀ x ∈ r.listeners, x.state.status = .running := by
  obtain ⟨r, hall, hr⟩ := h
  have hunused : r.Unused := o.unused_start.startAll hall
  exact ⟨r, hall, hr, fun x hx => (hunused.listeners x hx).status⟩

/-- A start that fails at once leaves the same. -/
theorem FailsAt.exists_startAll (h : o.FailsAt before e cause ps) :
    ∃ left, o.startAll o.plan = (.error cause, left) ∧ left.profiles = ps ∧
      (∀ x ∈ left.listeners, x.state.IsOver) ∧ left.surroundings.shutdown.reason =
        some (o.surroundings.shutdown.reason.getD (.listenerFailed e.label)) := by
  obtain ⟨after, hplan⟩ := h.planned
  obtain ⟨r, hall, hr, hone⟩ := h.refused
  have herror : o.startAll o.plan = _ :=
    (congrArg o.startAll hplan).trans (Registry.startAll_of_error hall hone after)
  obtain ⟨hprofiles, hover, hreason⟩ :=
    (o.unused_start.startAll hall).giveUp (.listenerFailed e.label)
  rw [Registry.reason_startAll hall] at hreason
  exact ⟨_, herror, hprofiles.trans hr, hover, hreason⟩

end Outset

/-! ## All or none -/

/-- For every network, all terms, every plan and every shutdown that calls have come to: the plan
has a first endpoint that cannot be listened on, and every attempt rolls back because of it; or
there is none, and every attempt comes to one listener for each endpoint in the order of the plan,
save those for which another listener stands. This holds in whatever order the start, listeners,
handshakes, hand-overs and calls to the shutdown go on, and also when nothing happens in
between. -/
theorem listeners_start_all_or_none (o : Outset) (events : List Clamour.Event)
    (hshutdown : o.surroundings.shutdown = (Clamour.start.extend events).shutdown) :
    let begun := Attempt.start o (Clamour.start.extend events).calls
    ((∃ ps, o.Musters o.plan ps) ∨ ∃ before e cause ps, o.FailsAt before e cause ps) ∧
    (∀ before e cause ps, o.FailsAt before e cause ps →
      (∃ skipped, Registry.Enlists o.network before ps skipped ∧
        (skipped = [] → List.Forall₂ (fun e p => p = .ofEndpoint e p.taken) before ps)) ∧
      (∃ left, o.startAll o.plan = (.error cause, left) ∧ left.profiles = ps ∧
        (∀ x ∈ left.listeners, x.state.IsOver) ∧ left.surroundings.shutdown.reason =
          some (o.surroundings.shutdown.reason.getD (.listenerFailed e.label))) ∧
      ∀ moves : List LifeMove, (begun.extend moves).RollsBack before e cause ps) ∧
    ∀ ps, o.Musters o.plan ps →
      (∃ skipped, Registry.Enlists o.network o.plan ps skipped ∧
        (skipped = [] → List.Forall₂ (fun e p => p = .ofEndpoint e p.taken) o.plan ps)) ∧
      (∃ r, o.startAll o.plan = (.ok (), r) ∧ r.profiles = ps ∧
        ∀ x ∈ r.listeners, x.state.status = .running) ∧
      ∀ moves : List LifeMove, (begun.extend moves).Completes o.plan ps := by
  intro begun
  have hkeeps : begun.Keeps o := Attempt.keeps_start
    (hshutdown ▸ (Clamour.sound_extend events).agrees)
    (hshutdown ▸ Clamour.attended_extend events)
  exact ⟨o.musters_or_failsAt,
    fun before e cause ps hfails => ⟨hfails.musters.enlists, hfails.exists_startAll,
      fun moves => (hkeeps.extend moves).rollsBack hfails⟩,
    fun ps hmusters => ⟨hmusters.enlists, hmusters.exists_startAll,
      fun moves => (hkeeps.extend moves).completes hmusters⟩⟩

/-- An endpoint for everyone. -/
def openEndpoint : Endpoint := ⟨⟨.anyV4, 3868, 0⟩, .tcp, .clear⟩

/-- An endpoint that is not for everyone. -/
def privilegedEndpoint : Endpoint := ⟨⟨.anyV4, 443, 0⟩, .tcp, .tls⟩

/-- What the start of a daemon for these endpoints begins with. -/
def outsetOf (plan : List Endpoint) : Outset where
  network := Closedown.bareMachine.network
  secured := true
  terms := Daemon.terms Startup.privilegedSettings.timeouts
  plan := plan
  surroundings := Startup.privilegedSurroundings

/-- The second endpoint cannot be listened on while two clients of the first are handed over. -/
def privilegedAttempt : Attempt :=
  (Attempt.start (outsetOf [openEndpoint, privilegedEndpoint]) []).extend
    (Startup.handOversMeanwhile.map .start)

/-- The second of two endpoints is not for everyone. The start fails with it, whatever happens
later the first listener has been stopped and the shutdown says which one has failed, while a plan
of the first alone goes up after any moves. -/
theorem listeners_start_none_or_all_of_two :
    let cause : ListenerError := .bind privilegedEndpoint.address.text .permissionDenied
    let ps : List Profile := [.ofEndpoint openEndpoint openEndpoint.address]
    (outsetOf [openEndpoint, privilegedEndpoint]).FailsAt [openEndpoint] privilegedEndpoint cause ps ∧
      privilegedAttempt.life.result? = some (.error (.listener cause)) ∧
      (∀ more, let b := privilegedAttempt.extend more
        b.RolledBack [openEndpoint] privilegedEndpoint ps ∧
          b.life.scene.registry.listeners.map (·.state.status) = [.terminated] ∧
          b.life.shutdown.reason = some (.listenerFailed privilegedEndpoint.label)) ∧
      (outsetOf [openEndpoint]).Musters [openEndpoint] ps ∧
      ∀ moves, ∃ more,
        ((Attempt.start (outsetOf [openEndpoint]) []).extend (moves ++ more)).life.isUp = true := by
  intro cause ps
  have hfails : (outsetOf [openEndpoint, privilegedEndpoint]).FailsAt [openEndpoint]
      privilegedEndpoint cause ps := ⟨⟨[], rfl⟩, _, rfl, rfl, rfl⟩
  have hmusters : (outsetOf [openEndpoint]).Musters [openEndpoint] ps := ⟨_, rfl, rfl⟩
  have hseen : privilegedAttempt.life.result?.isSome = true ∧ privilegedAttempt.found = some none ∧
      privilegedAttempt.life.scene.registry.listeners.map (·.state.status) = [.terminated] := by
    decide +kernel
  obtain ⟨hsome, hfound, hstatuses⟩ := hseen
  obtain ⟨result, hresult⟩ := Option.isSome_iff_exists.mp hsome
  obtain ⟨-, hrollback, -⟩ :=
    listeners_start_all_or_none (outsetOf [openEndpoint, privilegedEndpoint]) [] rfl
  obtain ⟨-, -, hcompletes⟩ := listeners_start_all_or_none (outsetOf [openEndpoint]) [] rfl
  obtain ⟨-, -, hrolls⟩ := hrollback _ _ _ _ hfails
  obtain ⟨-, -, hcomes⟩ := hcompletes _ hmusters
  obtain rfl := (hrolls (Startup.handOversMeanwhile.map .start)).result result hresult
  refine ⟨hfails, hresult, fun more => ?_, hmusters, fun moves => ?_⟩
  · obtain ⟨hleft, -, hsame, hkept⟩ :=
      (hrolls (Startup.handOversMeanwhile.map .start)).left hresult more
    obtain ⟨earlier, hearlier, hreason⟩ := hleft.reason
    obtain rfl : earlier = none := Option.some.inj (hearlier.symm.trans (hsame.trans hfound))
    exact ⟨hleft, hkept.trans hstatuses, hreason⟩
  · obtain ⟨more, hup⟩ := (hcomes moves).comes
    exact ⟨more, Attempt.extend_append _ moves more ▸ hup⟩

end Diameter.Daemon
