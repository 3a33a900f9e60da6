import Diameter.Proofs.Listener.Conduct

/-!
# The life of a listener

Main statement: whatever starts and stops are called, whatever the acceptor gives, and whenever
the daemon shuts down, a listener is started at most once and never after a stop has returned; its
status goes from new to running to one of two ends, or from new to stopped, and stays at its end;
exactly the connections that were taken before the loop saw its token cancelled or met an error
that does not pass have a handshake; and such an error is the end of the listener, raises the
shutdown and cancels every handshake.

The one thing that may come between a connection and its handshake is the clock. When it cannot
show the deadline, the loop breaks down over the connection.
-/

namespace Diameter.Listener

open Shutdown (Agrees Attended Clamour)

namespace Tenure

variable {t : Tenure}

/-! ## What always holds -/

/-- All that the record keeps to. -/
structure Sound (t : Tenure) : Prop where
  standing : t.record.Standing
  taking : t.record.Taking
  served : t.record.Served
  blame : t.record.Blame
  settled : t.record.Settled
  orderly : t.apart = true → t.record.Orderly

theorem Sound.next (h : t.Sound) (m : Move) : (t.next m).Sound := by
  have hstep := step_next t m
  exact ⟨h.standing.step hstep, h.taking.step h.standing hstep, h.served.step h.taking hstep,
    h.blame.step h.standing h.taking hstep, h.settled.step h.standing h.taking hstep,
    fun hapart => (h.orderly (hstep.apart_before hapart)).step h.standing h.taking hstep hapart⟩

theorem Sound.extend (h : t.Sound) (moves : List Move) : (t.extend moves).Sound := by
  induction moves generalizing t with
  | nil => exact h
  | cons m moves ih => exact ih (h.next m)

/-- Everything agrees when a listener is new, whatever was raised before. -/
theorem sound_start (address : String) (transport : Transport) (security : Security)
    (terms : AcceptTerms) (surroundings : Surroundings) (events : List Clamour.Event) :
    (start address transport security terms surroundings (Clamour.start.extend events)).Sound := by
  have hagrees := (Clamour.sound_extend events).agrees
  have hattended := Clamour.attended_extend events
  generalize Clamour.start.extend events = w at hagrees hattended
  have hroot := hagrees.tree.length_pos
  have hlength : w.shutdown.tokens.length < (w.shutdown.child Shutdown.root).2.tokens.length :=
    Nat.lt_of_lt_of_eq (Nat.lt_succ_self _) (w.shutdown.length_child _).symm
  refine ⟨⟨?_, rfl, fun hne => absurd rfl hne, nofun, nofun⟩,
    .going rfl nofun rfl rfl, rfl, ⟨hagrees.child hroot, ?_, hlength, nofun, ?_, nofun, nofun⟩,
    nofun, fun _ => ⟨nofun, nofun, nofun, nofun, nofun, nofun⟩⟩
  · exact iff_of_false nofun nofun
  · exact Nat.ne_of_gt hroot
  · obtain hnone | hraised | hcalls | hfalse := hattended
    · exact .inl hnone
    · exact .inr (.inl ((Agrees.isTriggered_child hagrees.tree hroot).trans hraised))
    · exact .inr (.inr (.inl hcalls))
    · exact hfalse.elim

/-! ## Later -/

/-- A status that is final stays. -/
theorem status_extend (h : t.listener.status.isFinal = true) (more : List Move) :
    (t.extend more).listener.status = t.listener.status := by
  induction more generalizing t with
  | nil => rfl
  | cons m more ih =>
    have hsame : (t.next m).listener.status = t.listener.status :=
      (step_next t m).status_of_isFinal h
    exact (ih (hsame.symm ▸ h)).trans hsame

/-- Once a listener was started, no other start succeeds. -/
theorem countP_extend (h : t.listener.acceptor ≠ .idle) (more : List Move) :
    (t.extend more).starts.countP Launch.hasSucceeded = t.starts.countP Launch.hasSucceeded := by
  induction more generalizing t with
  | nil => rfl
  | cons m more ih =>
    obtain ⟨hidle, hcount⟩ := (step_next t m).countP_of_ne_idle h
    exact (ih hidle).trans hcount

/-- Once the loop has ended, it takes nothing and starts no handshake. -/
theorem Sound.taken_extend (ht : t.Sound) (h : t.loop.isGoing = false) (more : List Move) :
    (t.extend more).taken = t.taken ∧ (t.extend more).record.origins = t.record.origins := by
  induction more generalizing t with
  | nil => exact ⟨rfl, rfl⟩
  | cons m more ih =>
    obtain ⟨hover, htaken, horigins⟩ := (step_next t m).taken_of_isGoing ht.standing h
    obtain ⟨htaken', horigins'⟩ := ih (ht.next m) hover
    exact ⟨htaken'.trans htaken, horigins'.trans horigins⟩

/-- A loop that does not go on comes to its end with its turns. -/
theorem Sound.left_next (ht : t.Sound) (h : t.loop.isGoing = false) (m : Move) :
    (t.next m).loop.left + (if m.isLoop then 1 else 0) ≤ t.loop.left ∨ (t.next m).loop.left = 0 := by
  have hsame {loop : LoopStage} (heq : loop = t.loop) (hm : m.isLoop = false) :
      loop.left + (if m.isLoop then 1 else 0) ≤ t.loop.left ∨ loop.left = 0 := by
    rw [heq, hm]
    exact .inl (Nat.le_refl _)
  cases m with
  | other e =>
    refine hsame ?_ rfl
    dsimp only [Tenure.next, other]
    split <;> rfl
  | around s => exact hsame rfl rfl
  | outside e => exact hsame rfl rfl
  | loop overlooks =>
    show (t.goOn overlooks).loop.left + 1 ≤ t.loop.left ∨ (t.goOn overlooks).loop.left = 0
    cases hloop : t.loop with
    | absent | turning | starting =>
      rw [hloop] at h
      cases h
    | failing e =>
      rw [goOn_failing hloop]
      exact .inl (Nat.le_refl _)
    | blaming =>
      rw [goOn_blaming hloop]
      dsimp only
      split
      · exact .inl (Nat.le_refl _)
      · exact .inl (Nat.le_succ _)
    | raising =>
      rw [goOn_raising hloop]
      exact .inl (Nat.le_refl _)
    | leaving =>
      rw [goOn_leaving hloop]
      exact .inr rfl
    | gone =>
      rw [goOn_gone hloop, hloop]
      exact .inr rfl
  | start =>
    refine hsame ?_ rfl
    have hbegun : t.listener.acceptor ≠ .idle := by
      refine (ht.standing.begun fun habsent => ?_).1
      have habsent : t.loop = .absent := habsent
      rw [habsent] at h
      cases h
    dsimp only [Tenure.next]
    unfold callStart Listener.start
    rw [if_neg fun hcan => hbegun hcan.1]
  | launch i =>
    refine hsame ?_ rfl
    dsimp only [Tenure.next, launch]
    split <;> rfl
  | stop => exact hsame rfl rfl
  | proceed i =>
    refine hsame ?_ rfl
    dsimp only [Tenure.next, proceed]
    split
    · rfl
    · rfl
    · split <;> rfl
    · rfl
    · split <;> rfl
    · rfl
    · rfl

/-- A loop that does not go on and has nothing left to do is gone. -/
theorem eq_gone_of_left {loop : LoopStage} (h : loop.isGoing = false) (hleft : loop.left = 0) :
    loop = .gone := by
  cases loop with
  | gone => rfl
  | absent | turning | starting => cases h
  | failing | blaming | raising | leaving => cases hleft

/-- After enough turns it is over. -/
theorem Sound.gone_extend (ht : t.Sound) (h : t.loop.isGoing = false) (more : List Move)
    (hturns : t.loop.left ≤ more.countP Move.isLoop) : (t.extend more).loop = .gone := by
  induction more generalizing t with
  | nil => exact eq_gone_of_left h (Nat.le_zero.mp hturns)
  | cons m more ih =>
    have hover := ((step_next t m).taken_of_isGoing ht.standing h).1
    refine ih (ht.next m) hover ?_
    have hleft := ht.left_next h m
    rw [List.countP_cons] at hturns
    omega

/-! ## What follows from it -/

/-- Accepting has failed for good, and the loop is over. -/
structure HasFailed (t : Tenure) : Prop where
  /-- The loop has let go of the acceptor. -/
  gone : t.loop = .gone ∧ t.listener.acceptor = .dropped
  /-- The listener has failed, unless a stop that did not wait for the loop was faster. No such
  stop is there if starts and stops were called one after another. -/
  status : t.listener.status = .failed ∨ t.listener.status = .terminated ∧ t.apart = false
  /-- The shutdown was raised because of this listener, unless a reason had been noted before. -/
  reason : ∃ earlier, t.found = some earlier ∧
    t.listener.shutdown.reason = some (earlier.getD (.listenerFailed t.listener.label))
  /-- All handshakes are cancelled, unless somebody else has noted a reason before and is about to
  do so. -/
  cancelled : t.found = some none ∨ (∀ c ∈ t.calls, c.stage ≠ .noted) →
    t.listener.shutdown.isTriggered = true ∧
      ∀ x ∈ t.listener.handshakes, t.listener.shutdown.isCancelled x.token = true

/-- A loop that is gone and has met an error that does not pass has failed the listener. -/
theorem Sound.hasFailed (h : t.Sound) (hloop : t.loop = .gone) {e : SystemError}
    (hmem : .error e ∈ t.taken) (he : e.isTransient = false) : t.HasFailed := by
  have hbegun : t.record.loop ≠ .absent := by
    show t.loop ≠ _
    rw [hloop]
    exact nofun
  have hcan : t.record.loop.canFail = false := congrArg LoopStage.canFail hloop
  obtain ⟨-, -, hfound⟩ := h.taking.of_mem hmem he
  obtain ⟨earlier, hearlier⟩ :=
    Option.isSome_iff_exists.mp (hfound (congrArg LoopStage.hasAsked hloop))
  refine ⟨⟨hloop, ?_⟩, ?_, ⟨earlier, hearlier, h.blame.found earlier hearlier⟩, fun hnobody => ?_⟩
  · have hidle := (h.standing.begun hbegun).1
    have haccepting : t.listener.acceptor ≠ .accepting := by
      refine fun ha => ?_
      have hlive : t.loop.isLive = true := h.standing.live.mp ha
      rw [hloop] at hlive
      cases hlive
    revert hidle haccepting
    show t.listener.acceptor ≠ .idle → _
    cases t.listener.acceptor <;> simp
  · have hfinal : t.listener.status.isFinal = true := h.settled e hmem he hcan
    cases hapart : t.apart with
    | true => exact .inl ((h.orderly hapart).failed e hmem he hcan)
    | false =>
      revert hfinal
      cases t.listener.status <;> simp [ListenerStatus.isFinal]
  · have hnotRaising : t.loop ≠ .raising := by
      rw [hloop]
      exact nofun
    have htriggered : t.listener.shutdown.isTriggered = true := by
      obtain hfirst | hcalls := hnobody
      · exact (h.blame.first hfirst).resolve_left hnotRaising
      · obtain hnone | hraised | ⟨c, hc, hnoted⟩ | hraising := h.blame.attended
        · cases hnone.symm.trans (h.blame.found earlier hearlier)
        · exact hraised
        · exact absurd hnoted (hcalls c hc)
        · exact absurd hraising hnotRaising
    refine ⟨htriggered, fun x hx => ?_⟩
    exact h.blame.agrees.tree.isCancelled_of_isTriggered htriggered
      (h.blame.origins x.origin (List.mem_map_of_mem hx))

/-- What a listener keeps to, whatever happens to it. -/
structure Lawful (t : Tenure) : Prop where
  /-- It is started at most once. -/
  once : t.starts.countP Launch.hasSucceeded ≤ 1
  /-- When a stop has returned, no start succeeds any more. -/
  late : .returned ∈ t.stops → ∀ more,
    (t.extend more).starts.countP Launch.hasSucceeded = t.starts.countP Launch.hasSucceeded
  /-- Its status stays or goes on by a step. -/
  status : ∀ m, (t.next m).listener.status = t.listener.status ∨
    t.listener.status.GoesTo (t.next m).listener.status
  /-- When a stop has returned, or when it has failed, the status stays as it is for ever. -/
  final : .returned ∈ t.stops ∨ t.listener.status = .failed → t.listener.status.isFinal = true ∧
    ∀ more, (t.extend more).listener.status = t.listener.status
  /-- The connections that it has taken have a handshake each, in this order, but for one over
  which the loop has broken down. -/
  served : t.listener.handshakes.map Accepted.connection ++ t.stranded =
    t.taken.filterMap Except.toOption
  /-- The loop breaks down over a connection only when the clock cannot show its deadline. -/
  stranded : ∀ m, (t.next m).stranded = t.stranded ∨
    Clock.after? t.listener.now t.listener.timeout = none
  /-- Only the last result that it has taken can be an error that does not pass. -/
  harmless : ∀ r ∈ t.taken.dropLast, isHarmless r = true
  /-- When the loop has met such an error, has seen its token cancelled or has broken down, it
  takes nothing more, and no handshake is started any more. -/
  ended : (∃ e, .error e ∈ t.taken ∧ e.isTransient = false) ∨ t.observed = true ∨ t.stranded ≠ [] →
    ∀ more, (t.extend more).taken = t.taken ∧
      (t.extend more).listener.handshakes.map Accepted.origin =
        t.listener.handshakes.map Accepted.origin
  /-- An error that passes changes nothing. -/
  transient : ∀ m e, e.isTransient = true → (t.next m).taken = t.taken ++ [.error e] →
    (t.next m).record = { t.record with taken := (t.next m).taken }
  /-- One that does not pass is the end of the listener after a few turns of the loop, whatever
  happens in between. -/
  failed : ∀ e, .error e ∈ t.taken → e.isTransient = false → ∀ more,
    4 ≤ more.countP Move.isLoop → (t.extend more).HasFailed

/-- A connection strands the loop only where the clock cannot show its deadline. -/
theorem stranded_take (rest : List (Except SystemError ConnectionId))
    (result : Except SystemError ConnectionId) :
    (t.take { t.listener with backlog := rest } result).stranded = t.stranded ∨
      Clock.after? t.listener.now t.listener.timeout = none := by
  unfold take
  cases result with
  | ok c =>
    dsimp only
    split
    · exact .inl rfl
    · next hafter => exact .inr hafter
  | error e =>
    dsimp only
    split <;> exact .inl rfl

/-- A move strands the loop only where the clock cannot show a deadline. -/
theorem stranded_next (t : Tenure) (m : Move) : (t.next m).stranded = t.stranded ∨
    Clock.after? t.listener.now t.listener.timeout = none := by
  cases m with
  | other e =>
    dsimp only [Tenure.next, other]
    split <;> exact .inl rfl
  | around | outside | stop => exact .inl rfl
  | loop overlooks =>
    dsimp only [Tenure.next]
    unfold goOn
    split
    · exact .inl rfl
    · exact .inl rfl
    · unfold round
      split
      · exact .inl rfl
      · split
        · split
          · exact stranded_take _ _
          · exact .inl rfl
        · exact stranded_take _ _
    all_goals exact .inl rfl
  | start =>
    dsimp only [Tenure.next, callStart]
    split <;> exact .inl rfl
  | launch i =>
    dsimp only [Tenure.next, launch]
    split <;> exact .inl rfl
  | proceed i =>
    dsimp only [Tenure.next, proceed]
    split
    · exact .inl rfl
    · exact .inl rfl
    · split <;> exact .inl rfl
    · exact .inl rfl
    · split <;> exact .inl rfl
    · exact .inl rfl
    · exact .inl rfl

/-- What is in agreement is lawful. -/
theorem Sound.lawful (h : t.Sound) : t.Lawful := by
  have hgone : (∃ e, .error e ∈ t.taken ∧ e.isTransient = false) ∨ t.observed = true ∨
      t.stranded ≠ [] → t.loop.isGoing = false := by
    intro hended
    refine Bool.eq_false_iff.mpr fun hgoing => ?_
    obtain ⟨hharmless, hstranded, hobserved⟩ := h.taking.of_isGoing hgoing
    obtain ⟨e, hmem, he⟩ | hseen | hsome := hended
    · exact h.taking.absurd_of_mem hgoing hmem he
    · cases hobserved.symm.trans hseen
    · exact hsome hstranded
  refine ⟨?_, fun hmem more => countP_extend (h.standing.emptied _ hmem rfl) more,
    fun m => h.standing.goesTo (step_next t m), fun hover => ?_, ?_, stranded_next t,
    h.taking.harmless, fun hended more => h.taken_extend (hgone hended) more,
    fun m e he htaken => ?_, fun e hmem he more hturns => ?_⟩
  · rw [show t.starts.countP Launch.hasSucceeded = _ from h.standing.once]
    split
    · exact Nat.zero_le 1
    · exact Nat.le_refl 1
  · have hfinal : t.listener.status.isFinal = true := by
      obtain hmem | hfailed := hover
      · exact h.standing.returned hmem
      · rw [hfailed]
        rfl
    exact ⟨hfinal, status_extend hfinal⟩
  · have hserved : (t.listener.handshakes.map Accepted.origin).map Prod.fst ++ t.stranded =
        t.taken.filterMap Except.toOption := h.served
    rwa [List.map_map] at hserved
  · rw [htaken]
    exact (step_next t m).eq_of_isTransient he htaken
  · have hover := hgone (.inl ⟨e, hmem, he⟩)
    have hleft : t.loop.left ≤ 4 := by
      cases t.loop <;> simp [LoopStage.left]
    refine (h.extend more).hasFailed (h.gone_extend hover more (Nat.le_trans hleft hturns)) ?_ he
    rw [(h.taken_extend hover more).1]
    exact hmem

/-- Whatever happens to a listener, from the start and in the middle of whatever calls to the
shutdown, it keeps to all of this. -/
theorem starts_once_and_ends_for_good (address : String) (transport : Transport)
    (security : Security) (terms : AcceptTerms) (surroundings : Surroundings)
    (events : List Clamour.Event) (moves : List Move) :
    ((start address transport security terms surroundings
      (Clamour.start.extend events)).extend moves).Lawful :=
  ((sound_start address transport security terms surroundings events).extend moves).lawful

/-- Two stops at once: the second does not wait for the loop, which fails too late to show it. -/
example :
    let t := start "127.0.0.1:3868" .tcp .clear ⟨1000, .base, .events⟩ (.new 0) .start
    let late := t.extend [.start, .launch 0, .other (.acceptError ⟨.other, "too many files"⟩),
      .loop false, .stop, .proceed 0, .proceed 0, .stop, .proceed 1, .proceed 1, .proceed 1, .proceed 1,
      .proceed 1, .loop false, .loop false, .loop false, .loop false]
    late.listener.status = .terminated ∧ late.loop = .gone ∧ late.apart = false ∧
      late.listener.shutdown.reason = some (.listenerFailed "TCP 127.0.0.1:3868") := by
  decide

end Tenure

end Diameter.Listener
