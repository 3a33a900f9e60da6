import Diameter.Proofs.Listener.Standing

/-!
# What a listener does when accepting fails

When accepting has failed for good, the loop notes its reason and cancels the root if it was the
first to note one. Whoever else was the first is a call that has cancelled the root, or is about
to. So in a shutdown for which there is a reason nobody is left to wait for ever.

Whether the status shows the failure depends on the stops. One that waits for the loop returns
after the loop has changed the status. One that finds no task to wait for may return before; it
does so only if another stop has taken the task, or a start has not noted it yet. Neither can be
when starts and stops are called one after another.
-/

namespace Diameter

open Shutdown (Agrees Call Clamour Extends)

namespace Shutdown

/-- When a reason was noted, the root is cancelled or somebody is about to cancel it: one of the
calls, or somebody else. -/
def Attended (calls : List Call) (s : Shutdown) (others : Prop) : Prop :=
  s.reason = none ∨ s.isTriggered = true ∨ (∃ c ∈ calls, c.stage = .noted) ∨ others

variable {s s' : Shutdown} {calls calls' : List Call} {others : Prop}

/-- Whether a raised shutdown is attended depends on its reason, on the root and on the calls that
have noted their reason. -/
theorem Attended.later (h : Attended calls s others) (hreason : s'.reason = s.reason)
    (htriggered : s'.isTriggered = s.isTriggered)
    (hcalls : ∀ c ∈ calls, c.stage = .noted → c ∈ calls') : Attended calls' s' others := by
  obtain hnone | hraised | ⟨c, hc, hnoted⟩ | hothers := h
  · exact .inl (hreason.trans hnone)
  · exact .inr (.inl (htriggered.trans hraised))
  · exact .inr (.inr (.inl ⟨c, hcalls c hc hnoted, hnoted⟩))
  · exact .inr (.inr (.inr hothers))

/-- Noting a reason does not cancel the root. -/
theorem isTriggered_note (h : s.IsTree) (reason : ShutdownReason) :
    (s.note reason).2.isTriggered = s.isTriggered := by
  rw [Bool.eq_iff_iff, (h.note reason).isTriggered_iff, h.isTriggered_iff, tokens_note]

/-- Cancelling the root cancels the root. -/
theorem isTriggered_cancel_root (h : s.IsTree) : (s.cancel root).isTriggered = true :=
  (h.isCancelled_cancel_iff h.length_pos).mpr (.inr .refl)

/-- Raising a shutdown in one go leaves it attended. -/
theorem Attended.trigger (h : Attended calls s others) (hs : s.IsTree) (reason : ShutdownReason) :
    Attended calls (s.trigger reason).2 others := by
  rw [trigger_eq]
  cases hreason : s.reason with
  | none => exact .inr (.inl (isTriggered_cancel_root (hs.note reason)))
  | some r =>
    show Attended calls (s.note reason).2 others
    rwa [note_of_some hreason]

/-- A call that goes on leaves the shutdown attended. A call that has noted its reason and does
not have the turn is still there. -/
theorem Attended.turn (h : Attended calls s others) (hs : s.IsTree) (i : Nat) :
    Attended (s.turn calls i).1 (s.turn calls i).2 others := by
  unfold Shutdown.turn
  cases hi : calls[i]? with
  | none => exact h
  | some c =>
    obtain ⟨hlt, hget⟩ := List.getElem?_eq_some_iff.mp hi
    have hstays (hstage : c.stage ≠ .noted) (d' : Call) :
        ∀ d ∈ calls, d.stage = .noted → d ∈ calls.set i d' := by
      intro d hd hnoted
      obtain ⟨j, hj⟩ := List.mem_iff_getElem?.mp hd
      have hne : i ≠ j := by
        rintro rfl
        obtain rfl : c = d := Option.some.inj (hi.symm.trans hj)
        exact hstage hnoted
      exact List.mem_of_getElem? ((List.getElem?_set_ne hne).trans hj)
    obtain ⟨reason, _ | _ | first⟩ := c
    · dsimp only [Call.goOn]
      cases hreason : s.reason with
      | none =>
        refine .inr (.inr (.inl ⟨_, List.mem_set hlt _, ?_⟩))
        rw [note_eq, hreason]
        rfl
      | some r => exact h.later (by rw [note_of_some hreason]) (isTriggered_note hs reason) (hstays nofun _)
    · exact .inr (.inl (isTriggered_cancel_root hs))
    · exact h.later rfl rfl (hstays nofun _)

/-- What else is raised leaves the shutdown attended. -/
theorem Attended.next {w : Clamour} (h : Attended w.calls w.shutdown others)
    (hs : w.shutdown.IsTree) (e : Clamour.Event) :
    Attended (w.next e).calls (w.next e).shutdown others := by
  cases e with
  | call reason => exact h.later rfl rfl fun c hc _ => List.mem_append_left _ hc
  | turn i => exact h.turn hs i
  | derive above =>
    unfold Clamour.next
    dsimp only
    split
    · next habove => exact h.later rfl (Agrees.isTriggered_child hs habove) fun c hc _ => hc
    · exact h
  | cancel token =>
    unfold Clamour.next
    dsimp only
    split
    · exact h
    · next hroot => exact h.later rfl (Agrees.isTriggered_cancel hs hroot) fun c hc _ => hc

/-- Nobody is left alone with a reason in a clamour. -/
theorem Clamour.attended_extend (events : List Clamour.Event) :
    Attended (Clamour.start.extend events).calls (Clamour.start.extend events).shutdown False := by
  suffices h : ∀ w : Clamour, Agrees w.calls w.shutdown → Attended w.calls w.shutdown False →
      Attended (w.extend events).calls (w.extend events).shutdown False from
    h Clamour.start .new (.inl rfl)
  induction events with
  | nil => exact fun w _ ha => ha
  | cons e events ih =>
    exact fun w hw ha => ih (w.next e) (Clamour.agrees_next hw e) (ha.next hw.tree e)

end Shutdown

namespace Listener

open Shutdown (Attended)

section Stir

variable {s s' : Shutdown} {calls calls' : List Call}

/-! ## What others do to the shutdown -/

/-- What stirs the shutdown only adds to it. -/
theorem Stir.extends (h : Stir s calls s' calls') : Extends s s' := by
  cases h with
  | same => exact .refl s
  | outside e => exact Clamour.extends_next (w := ⟨s, calls⟩) e
  | raised reason => exact Shutdown.extends_trigger s reason

/-- What stirs the shutdown keeps its calls in agreement with it. -/
theorem Stir.agrees (h : Stir s calls s' calls') (hs : Agrees calls s) : Agrees calls' s' := by
  cases h with
  | same => exact hs
  | outside e => exact Clamour.agrees_next (w := ⟨s, calls⟩) hs e
  | raised reason => exact hs.trigger reason

/-- What stirs the shutdown leaves it attended. -/
theorem Stir.attended {others : Prop} (h : Stir s calls s' calls') (hs : s.IsTree)
    (ha : Attended calls s others) : Attended calls' s' others := by
  cases h with
  | same => exact ha
  | outside e => exact Attended.next (w := ⟨s, calls⟩) ha hs e
  | raised reason => exact ha.trigger hs reason

end Stir

namespace Record

variable {s s' : Record}

/-! ## Whom the loop blames -/

/-- What is known of the shutdown. -/
structure Blame (s : Record) : Prop where
  /-- The calls of others agree with it. -/
  agrees : Agrees s.calls s.shutdown
  /-- The token of the listener is not the root. -/
  derived : s.token ≠ Shutdown.root
  /-- It is there. -/
  known : s.token < s.shutdown.tokens.length
  /-- So are the tokens of the handshakes. -/
  origins : ∀ x ∈ s.origins, x.2 < s.shutdown.tokens.length
  /-- When a reason was noted, the root is cancelled, or somebody is about to cancel it. -/
  attended : Attended s.calls s.shutdown (s.loop = .raising)
  /-- The reason is the one that the loop has found, or the failure of this listener if there was
  none. -/
  found : ∀ earlier, s.found = some earlier →
    s.shutdown.reason = some (earlier.getD (.listenerFailed s.label))
  /-- If there was none, the loop cancels the root. -/
  first : s.found = some none → s.loop = .raising ∨ s.shutdown.isTriggered = true

/-- When only the shutdown and the calls have changed, the listener is still blamed for what it
has found. -/
theorem Blame.ofShutdown (h : s.Blame) (hextends : Extends s.shutdown s'.shutdown)
    (hagrees : Agrees s'.calls s'.shutdown)
    (hattended : Attended s'.calls s'.shutdown (s'.loop = .raising))
    (hfirst : s.loop = .raising → s'.loop = .raising ∨ s'.shutdown.isTriggered = true)
    (hfound : s'.found = s.found) (htoken : s'.token = s.token) (horigins : s'.origins = s.origins)
    (hlabel : s'.label = s.label) : s'.Blame := by
  refine ⟨hagrees, htoken ▸ h.derived, ?_, ?_, hattended, ?_, fun hnone => ?_⟩
  · rw [htoken]
    exact Nat.lt_of_lt_of_le h.known hextends.length_le
  · rw [horigins]
    exact fun x hx => Nat.lt_of_lt_of_le (h.origins x hx) hextends.length_le
  · rw [hfound, hlabel]
    exact fun earlier hearlier => hextends.reason _ (h.found earlier hearlier)
  · obtain hraising | htriggered := h.first (hfound ▸ hnone)
    · exact hfirst hraising
    · exact .inr (hextends.isCancelled h.agrees.tree hagrees.tree htriggered)

/-- A loop that is not about to cancel the root leaves that to others. -/
theorem Blame.attended_of_ne (h : s.Blame) (hraising : s.loop ≠ .raising) (others : Prop) :
    Attended s.calls s.shutdown others := by
  obtain hnone | htriggered | hcalls | hothers := h.attended
  · exact .inl hnone
  · exact .inr (.inl htriggered)
  · exact .inr (.inr (.inl hcalls))
  · exact absurd hothers hraising

/-- A failure that came too late to be the reason has somebody else, or the root, to attend to it.
-/
theorem Blame.first_of_ne (h : s.Blame) (hraising : s.loop ≠ .raising) (others : Prop)
    (hnone : s.found = some none) : others ∨ s.shutdown.isTriggered = true :=
  .inr ((h.first hnone).resolve_left hraising)

/-- A loop that is about to cancel the root has found what there was. -/
theorem Taking.isSome_found (h : s.Taking) (hloop : s.loop = .raising) : s.found.isSome = true := by
  cases h with
  | going hgoing =>
    rw [hloop] at hgoing
    cases hgoing
  | observed hleft | broken hleft =>
    rw [hloop] at hleft
    cases hleft
  | failed _ _ _ _ _ _ hfound => exact hfound (hloop ▸ rfl)

/-- Every step keeps the listener blamed for what it has found. -/
theorem Blame.step (h : s.Blame) (hs : s.Standing) (ht : s.Taking) (step : Step s s') :
    s'.Blame := by
  cases step with
  | calm hstir =>
    exact h.ofShutdown hstir.extends (hstir.agrees h.agrees)
      (hstir.attended h.agrees.tree h.attended) .inl rfl rfl rfl rfl
  | passed | refused | filed | called | asked | joined | emptied | concluded =>
    exact ⟨h.agrees, h.derived, h.known, h.origins, h.attended, h.found, h.first⟩
  | observed hl | stranded hl | met hl | spawned hl | noted hl | failed hl | dropped hl =>
    have hne : s.loop ≠ .raising := by
      rw [hl]
      exact nofun
    exact ⟨h.agrees, h.derived, h.known, h.origins, h.attended_of_ne hne _, h.found,
      h.first_of_ne hne _⟩
  | @dispatched c i hl =>
    have hne : s.loop ≠ .raising := by
      rw [hl]
      exact nofun
    have hextends := s.shutdown.extends_child s.token
    have htriggered := Agrees.isTriggered_child h.agrees.tree h.known
    refine ⟨h.agrees.child h.known, h.derived, ?_, fun x hx => ?_, ?_, h.found, fun hnone => ?_⟩
    · exact Nat.lt_of_lt_of_le h.known hextends.length_le
    · obtain hx | hx := List.mem_append.mp hx
      · exact Nat.lt_of_lt_of_le (h.origins x hx) hextends.length_le
      · rw [List.mem_singleton.mp hx]
        exact Nat.lt_of_lt_of_eq (Nat.lt_succ_self _) (s.shutdown.length_child _).symm
    · exact (h.attended_of_ne hne _).later rfl htriggered fun c hc _ => hc
    · exact (h.first_of_ne hne _ hnone).imp_right htriggered.trans
  | blamed hl =>
    have hne : s.loop ≠ .raising := by
      rw [hl]
      exact nofun
    have hextends := s.shutdown.extends_note (.listenerFailed s.label)
    refine ⟨h.agrees.note _, h.derived, ?_, ?_, ?_, ?_, fun hnone => .inl ?_⟩
    · exact Nat.lt_of_lt_of_le h.known hextends.length_le
    · exact fun x hx => Nat.lt_of_lt_of_le (h.origins x hx) hextends.length_le
    · cases hreason : s.shutdown.reason with
      | none => exact .inr (.inr (.inr rfl))
      | some r =>
        dsimp only
        rw [Shutdown.note_of_some hreason]
        exact h.attended_of_ne hne _
    · rintro earlier ⟨⟩
      rw [Shutdown.note_eq]
    · dsimp only at hnone ⊢
      rw [Option.some.inj hnone]
      rfl
  | raised hl =>
    obtain ⟨earlier, hearlier⟩ := Option.isSome_iff_exists.mp (ht.isSome_found hl)
    have hextends := s.shutdown.extends_cancel Shutdown.root
    have hreason := hextends.reason _ (h.found earlier hearlier)
    exact h.ofShutdown hextends
      (h.agrees.later_of_noted hextends (h.agrees.tree.cancel _) hreason)
      (.inr (.inl (Shutdown.isTriggered_cancel_root h.agrees.tree)))
      (fun _ => .inr (Shutdown.isTriggered_cancel_root h.agrees.tree)) rfl rfl rfl rfl
  | started ha =>
    have habsent : s.loop = .absent := by
      by_contra hne
      exact (hs.begun hne).1 ha
    have hne : s.loop ≠ .raising := by
      rw [habsent]
      exact nofun
    exact ⟨h.agrees, h.derived, h.known, h.origins, h.attended_of_ne hne _, h.found,
      h.first_of_ne hne _⟩
  | cancelled =>
    exact h.ofShutdown (Shutdown.extends_cancel _ _) (h.agrees.cancel h.derived)
      (h.attended.later rfl (Agrees.isTriggered_cancel h.agrees.tree h.derived) fun c hc _ => hc)
      .inl rfl rfl rfl rfl

/-- Once the status shows that accepting has failed, it is over with the listener. -/
def Settled (s : Record) : Prop :=
  ∀ e, .error e ∈ s.taken → e.isTransient = false → s.loop.canFail = false →
    s.status.isFinal = true

/-- While the loop can go on, nothing that it has taken has ended it. -/
theorem Taking.absurd_of_mem (h : s.Taking) {P : Prop} {e : SystemError}
    (hloop : s.loop.isGoing = true) (hmem : .error e ∈ s.taken) (he : e.isTransient = false) : P := by
  have hharmless : e.isTransient = true := (h.of_isGoing hloop).1 _ hmem
  rw [he] at hharmless
  cases hharmless

/-- Every step leaves a settled listener settled. -/
theorem Settled.step (h : s.Settled) (hs : s.Standing) (ht : s.Taking) (step : Step s s') :
    s'.Settled := by
  intro e hmem he hcan
  cases step with
  | calm | refused | filed | called | cancelled | asked | joined | emptied => exact h e hmem he hcan
  | concluded => exact ListenerStatus.isFinal_advance_terminated _
  | observed hl => exact ht.absurd_of_mem (hl ▸ rfl) hmem he
  | passed hl =>
    rw [hl] at hcan
    cases hcan
  | stranded hl =>
    obtain hmem | hmem := List.mem_append.mp hmem
    · exact ht.absurd_of_mem (hl ▸ rfl) hmem he
    · cases List.mem_singleton.mp hmem
  | dispatched | met | spawned | noted | started => cases hcan
  | failed hl => exact (ListenerStatus.advance_failed (hs.begun (by rw [hl]; nofun)).2).1
  | blamed hl | raised hl | dropped hl => exact h e hmem he (hl ▸ rfl)

/-! ## Starts and stops one after another -/

/-- What holds when starts and stops are called one after another. -/
structure Orderly (s : Record) : Prop where
  /-- While a start goes on no stop does. -/
  filing : .filing ∈ s.starts → ∀ x ∈ s.stops, x = .returned
  /-- At most one stop goes on. -/
  alone : ∀ (i j : Nat) (x y : Recall), s.stops[i]? = some x → s.stops[j]? = some y →
    x ≠ .returned → y ≠ .returned → i = j
  /-- The task of a loop that is there is noted, or is about to be, or a stop waits for it. -/
  task : s.loop.isLive = true → s.hasLoop = true ∨ .filing ∈ s.starts ∨ .joining true ∈ s.stops
  /-- A stop that does not wait for the loop need not. -/
  joined : ∀ x ∈ s.stops, x = .joining false ∨ x.hasEmptied = true → s.loop.isLive = false
  /-- As long as the loop can fail, the listener runs. -/
  running : s.loop.canFail = true → s.status = .running
  /-- When it has failed, so has the listener. -/
  failed : ∀ e, .error e ∈ s.taken → e.isTransient = false → s.loop.canFail = false →
    s.status = .failed

/-- A listener is quiet exactly if no start is filing and all stops have returned. -/
theorem isQuiet_iff : s.isQuiet = true ↔ .filing ∉ s.starts ∧ ∀ x ∈ s.stops, x = .returned := by
  unfold isQuiet
  rw [Bool.and_eq_true, List.all_eq_true, List.all_eq_true]
  refine and_congr ⟨fun h hmem => ?_, fun h x hx => ?_⟩
    (forall_congr' fun x => imp_congr_right fun _ => beq_iff_eq)
  · exact absurd rfl (bne_iff_ne.mp (h _ hmem))
  · refine bne_iff_ne.mpr ?_
    rintro rfl
    exact h hx

/-- The loop goes on, or the status does. -/
theorem Orderly.ofLoop (h : s.Orderly) (hlive : s'.loop.isLive = true → s.loop.isLive = true)
    (hstarts : s'.starts = s.starts) (hstops : s'.stops = s.stops) (hhasLoop : s'.hasLoop = s.hasLoop)
    (hrunning : s'.loop.canFail = true → s'.status = .running)
    (hfailed : ∀ e, .error e ∈ s'.taken → e.isTransient = false → s'.loop.canFail = false →
      s'.status = .failed) : s'.Orderly := by
  refine ⟨?_, ?_, fun hl => ?_, fun x hx hj => ?_, hrunning, hfailed⟩
  · rw [hstarts, hstops]
    exact h.filing
  · rw [hstops]
    exact h.alone
  · rw [hhasLoop, hstarts, hstops]
    exact h.task (hlive hl)
  · rw [hstops] at hx
    refine Bool.eq_false_iff.mpr fun hl => ?_
    have hgone := h.joined x hx hj
    rw [hlive hl] at hgone
    cases hgone

/-- A stop goes on. -/
theorem Orderly.ofStop (h : s.Orderly) {i : Nat} {x y : Recall} (hi : s.stops[i]? = some x)
    (hx : x ≠ .returned) (hstops : s'.stops = s.stops.set i y) (hstarts : s'.starts = s.starts)
    (hloop : s'.loop = s.loop)
    (htask : s.loop.isLive = true →
      s'.hasLoop = true ∨ .filing ∈ s.starts ∨ .joining true ∈ s.stops.set i y)
    (hjoined : y = .joining false ∨ y.hasEmptied = true → s.loop.isLive = false)
    (hrunning : s.loop.canFail = true → s'.status = .running)
    (hfailed : ∀ e, .error e ∈ s'.taken → e.isTransient = false → s'.loop.canFail = false →
      s'.status = .failed) : s'.Orderly := by
  refine ⟨fun hf => ?_, fun j k z w hz hw hzr hwr => ?_, fun hl => ?_, fun z hz hj => ?_, ?_, hfailed⟩
  · rw [hstarts] at hf
    exact absurd (h.filing hf x (List.mem_of_getElem? hi)) hx
  · rw [hstops] at hz hw
    obtain ⟨hj, -⟩ | ⟨-, hz⟩ := getElem?_set_cases hz
    · obtain ⟨hk, -⟩ | ⟨-, hw⟩ := getElem?_set_cases hw
      · exact hj.trans hk.symm
      · exact hj.trans (h.alone _ _ x w hi hw hx hwr)
    · obtain ⟨hk, -⟩ | ⟨-, hw⟩ := getElem?_set_cases hw
      · exact (h.alone _ _ z x hz hi hzr hx).trans hk.symm
      · exact h.alone _ _ z w hz hw hzr hwr
  · rw [hstarts, hstops]
    exact htask (hloop ▸ hl)
  · rw [hstops] at hz
    rw [hloop]
    obtain hz | rfl := List.mem_or_eq_of_mem_set hz
    · exact h.joined z hz hj
    · exact hjoined hj
  · rw [hloop]
    exact hrunning

/-- A stop that waits for the loop goes on to wait while another one goes on. -/
theorem mem_set_of_ne {stops : List Recall} {i : Nat} {x y z : Recall} (hi : stops[i]? = some x)
    (hz : z ∈ stops) (hne : z ≠ x) : z ∈ stops.set i y := by
  obtain ⟨j, hj⟩ := List.mem_iff_getElem?.mp hz
  have hij : i ≠ j := by
    rintro rfl
    exact hne (Option.some.inj (hj.symm.trans hi))
  exact List.mem_of_getElem? ((List.getElem?_set_ne hij).trans hj)

/-- A stop goes on when the loop has ended. -/
theorem Orderly.ofLateStop (h : s.Orderly) {i : Nat} {x y : Recall} (hi : s.stops[i]? = some x)
    (hx : x ≠ .returned) (hstops : s'.stops = s.stops.set i y) (hstarts : s'.starts = s.starts)
    (hloop : s'.loop = s.loop) (hgone : s.loop.isLive = false)
    (hfailed : ∀ e, .error e ∈ s'.taken → e.isTransient = false → s'.loop.canFail = false →
      s'.status = .failed) : s'.Orderly := by
  refine h.ofStop hi hx hstops hstarts hloop (fun hl => ?_) (fun _ => hgone) (fun hcan => ?_) hfailed
  · rw [hgone] at hl
    cases hl
  · rw [LoopStage.isLive_of_canFail hcan] at hgone
    cases hgone

/-- When a stop asks for the task of a loop that is there, the task is noted: no start goes on that
would have to note it, and no other stop that would have asked before. -/
theorem Orderly.hasLoop_of_cancelled (h : s.Orderly) {i : Nat} (hi : s.stops[i]? = some .cancelled)
    (hl : s.loop.isLive = true) : s.hasLoop = true := by
  obtain hnoted | hfiling | hwaits := h.task hl
  · exact hnoted
  · cases h.filing hfiling _ (List.mem_of_getElem? hi)
  · obtain ⟨j, hj⟩ := List.mem_iff_getElem?.mp hwaits
    obtain rfl := h.alone _ _ _ _ hi hj nofun nofun
    cases hi.symm.trans hj

/-- A stop that has cancelled everything waits for the loop that is there. -/
theorem Orderly.asked (h : s.Orderly) {i : Nat} (hi : s.stops[i]? = some .cancelled) :
    Orderly { s with hasLoop := false, stops := s.stops.set i (.joining s.hasLoop) } := by
  have hnoted := h.hasLoop_of_cancelled hi
  refine h.ofStop hi nofun rfl rfl rfl (fun hl => .inr (.inr ?_)) (fun hj => ?_) h.running h.failed
  · rw [hnoted hl]
    exact List.mem_set (List.getElem?_eq_some_iff.mp hi).1 _
  · refine Bool.eq_false_iff.mpr fun hl => ?_
    rw [hnoted hl] at hj
    obtain hj | hj := hj <;> cases hj

/-- A start that succeeds is the first, and no stop was called before: one that has returned would
have left no acceptor to start with. -/
theorem Orderly.started (hs : s.Standing) (ha : s.acceptor = .idle) (hquiet : s.isQuiet = true) :
    Orderly { s with
      acceptor := .accepting
      status := .running
      loop := .turning
      starts := s.starts ++ [.filing]
      apart := s.apart && s.isQuiet } := by
  obtain ⟨-, hreturned⟩ := isQuiet_iff.mp hquiet
  refine ⟨fun _ => hreturned, fun i j x y hx hy hne => ?_, fun _ => ?_, fun x hx hj => ?_,
    fun _ => rfl, nofun⟩
  · exact absurd (hreturned x (List.mem_of_getElem? hx)) hne
  · exact .inr (.inl (List.mem_append_right _ (List.mem_singleton_self _)))
  · obtain rfl := hreturned x hx
    exact absurd ha (hs.emptied _ hx rfl)

/-- A stop that is called is the only one that goes on. -/
theorem Orderly.called (h : s.Orderly) (hquiet : s.isQuiet = true) :
    Orderly { s with stops := s.stops ++ [.called], apart := s.apart && s.isQuiet } := by
  obtain ⟨hnone, hreturned⟩ := isQuiet_iff.mp hquiet
  have hlast {i : Nat} {x : Recall} (hx : (s.stops ++ [.called])[i]? = some x)
      (hne : x ≠ .returned) : i = s.stops.length := by
    have hlt := (List.getElem?_eq_some_iff.mp hx).1
    rw [List.length_append] at hlt
    refine Nat.le_antisymm (Nat.le_of_lt_succ hlt) (Nat.le_of_not_lt fun hold => hne ?_)
    rw [List.getElem?_append_left hold] at hx
    exact hreturned x (List.mem_of_getElem? hx)
  refine ⟨fun hf => absurd hf hnone, fun i j x y hx hy hne hne' => ?_, fun hl => ?_,
    fun x hx hj => ?_, h.running, h.failed⟩
  · exact (hlast hx hne).trans (hlast hy hne').symm
  · exact (h.task hl).imp_right (Or.imp_right (List.mem_append_left _))
  · obtain hx | hx := List.mem_append.mp hx
    · exact h.joined x hx hj
    · obtain rfl := List.mem_singleton.mp hx
      obtain hj | hj := hj <;> cases hj

/-- Whether calls were made one after another is not forgotten. -/
theorem Step.apart_before (step : Step s s') (hapart : s'.apart = true) : s.apart = true := by
  cases step with
  | started | refused | called => exact ((Bool.and_eq_true _ _).mp hapart).1
  | _ => exact hapart

/-- Starts and stops that were called one after another keep to their order. -/
theorem Orderly.step (h : s.Orderly) (hs : s.Standing) (ht : s.Taking) (step : Step s s')
    (hapart : s'.apart = true) : s'.Orderly := by
  cases step with
  | calm => exact ⟨h.filing, h.alone, h.task, h.joined, h.running, h.failed⟩
  | observed hl =>
    exact h.ofLoop (fun _ => hl ▸ rfl) rfl rfl rfl nofun fun e hmem he _ =>
      ht.absurd_of_mem (hl ▸ rfl) hmem he
  | passed hl =>
    refine h.ofLoop id rfl rfl rfl h.running fun e _ _ hcan => ?_
    rw [hl] at hcan
    cases hcan
  | dispatched hl | met hl | spawned hl | noted hl =>
    exact h.ofLoop (fun _ => hl ▸ rfl) rfl rfl rfl (fun _ => h.running (hl ▸ rfl)) nofun
  | stranded hl =>
    refine h.ofLoop (fun _ => hl ▸ rfl) rfl rfl rfl nofun fun e hmem he _ => ?_
    obtain hmem | hmem := List.mem_append.mp hmem
    · exact ht.absurd_of_mem (hl ▸ rfl) hmem he
    · cases List.mem_singleton.mp hmem
  | failed hl =>
    refine h.ofLoop (fun _ => hl ▸ rfl) rfl rfl rfl nofun fun _ _ _ _ => ?_
    dsimp only
    rw [h.running (hl ▸ rfl)]
    rfl
  | blamed hl =>
    refine h.ofLoop (fun _ => hl ▸ rfl) rfl rfl rfl (fun hcan => ?_)
      fun e hmem he _ => h.failed e hmem he (hl ▸ rfl)
    dsimp only at hcan
    split at hcan <;> cases hcan
  | raised hl | dropped hl =>
    exact h.ofLoop (fun _ => hl ▸ rfl) rfl rfl rfl nofun
      fun e hmem he _ => h.failed e hmem he (hl ▸ rfl)
  | started ha => exact .started hs ha ((Bool.and_eq_true _ _).mp hapart).2
  | refused =>
    obtain ⟨-, hreturned⟩ := isQuiet_iff.mp ((Bool.and_eq_true _ _).mp hapart).2
    refine ⟨fun _ => hreturned, h.alone, fun hl => ?_, h.joined, h.running, h.failed⟩
    exact (h.task hl).imp_right (Or.imp_left (List.mem_append_left _))
  | filed hi =>
    refine ⟨fun hf => ?_, h.alone, fun _ => .inl rfl, h.joined, h.running, h.failed⟩
    exact h.filing ((List.mem_or_eq_of_mem_set hf).resolve_right nofun)
  | called => exact h.called ((Bool.and_eq_true _ _).mp hapart).2
  | cancelled hi =>
    exact h.ofStop hi nofun rfl rfl rfl
      (fun hl => (h.task hl).imp_right (Or.imp_right (mem_set_of_ne hi · nofun)))
      (by simp [Recall.hasEmptied]) h.running h.failed
  | asked hi => exact h.asked hi
  | @joined i waits hi hover =>
    have hgone : s.loop.isLive = false := by
      cases waits with
      | true => exact hover rfl
      | false => exact h.joined _ (List.mem_of_getElem? hi) (.inl rfl)
    exact h.ofLateStop hi nofun rfl rfl rfl hgone h.failed
  | emptied hi =>
    have hgone := h.joined _ (List.mem_of_getElem? hi) (.inr rfl)
    exact h.ofLateStop hi nofun rfl rfl rfl hgone h.failed
  | concluded hi =>
    have hgone := h.joined _ (List.mem_of_getElem? hi) (.inr rfl)
    refine h.ofLateStop hi nofun rfl rfl rfl hgone fun e hmem he hcan => ?_
    have hfailed := h.failed e hmem he hcan
    dsimp only
    rw [hfailed]
    rfl

end Record

end Listener

end Diameter
