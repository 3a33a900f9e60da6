import Diameter.Proofs.Queue.Refusals

/-!
# Destroying a queue

A queue is destroyed in three steps, between which anything else may happen: it is closed, then
its consumers are woken, then its producers. Main statement: whoever has to do with the queue
when it is closed, parked, woken or on the way to it, is refused with its own item, if it has
one, or gives up itself; nobody waits for ever; and every later call through a handle that the
queue serves is refused without waiting.
-/

namespace Diameter.Queue

variable {α η : Type}

namespace System

/-- A call has an outcome exactly if it has ended. -/
theorem outcome?_eq_some_iff {s : System α η} {c : CallerId} {outcome : Outcome α} :
    s.outcome? c = some outcome ↔ ∃ r, s.callers[c]? = some ⟨r, .ended outcome⟩ := by
  unfold outcome?
  rcases s.callers[c]? with _ | ⟨r, stage⟩
  · simp
  · cases stage <;> simp

/-- Redirects lead to a queue that refuses exactly if the queue at their end does. -/
theorem refuses_iff_serving {s : System α η} (h : s.outline.Tame) (q : QueueId) :
    s.outline.Refuses q ↔ (s.queue (s.serving q)).lifecycle = .destroyed := by
  have hend := endsAt_serving h q
  constructor
  · rintro ⟨d, x, hd, hx, hl⟩
    have hsame : s.serving q = d :=
      hend.unique ⟨hd, fun _ => Outline.not_edge_of_destroyed hx hl⟩
    obtain ⟨-, rfl⟩ := queue_of_face hx
    rw [hsame]
    exact hl
  · intro hl
    have hserves : ¬ (s.queue (s.serving q)).Serves := fun hs => by
      cases hs.1.symm.trans hl
    exact ⟨_, _, hend.1, face_of_queue (lt_length_of_not_serves hserves), hl⟩

/-- An attempt through a handle of a destroyed queue is refused and changes nothing. -/
theorem tryPop_of_destroyed {s : System α η} {handle : QueueId}
    (h : (s.queue (s.serving handle)).lifecycle = .destroyed) :
    s.tryPop handle = (.error .closed, s, none) := by
  simp only [tryPop, h]

end System

namespace Course

/-- Every call that is made through the handle from now on is refused: it never waits, it comes
to no other end, and if it is not dropped it comes to its end after as many turns as there are
queues, and one more. -/
def RefusesCalls (k : Course α η) (handle : QueueId) : Prop :=
  ∀ (r : Request α) (more : List (Event α η)),
    let c := k.system.callers.length
    let k' := (k.next (.call handle r)).extend more
    (∀ p, k'.system.callers[c]? ≠ some ⟨r, .parked p⟩) ∧
    (∀ outcome, k'.system.outcome? c = some outcome → outcome = r.refusal) ∧
    ((∀ e ∈ more, e.quitter? ≠ some c) → k.system.queues.length < turns c more →
      k'.system.outcome? c = some r.refusal)

/-- A handle of which redirects lead to a destroyed queue refuses every call. -/
theorem Charted.refusesCalls {k : Course α η} (hk : k.Charted) {handle : QueueId}
    (h : k.system.outline.Refuses handle) : k.RefusesCalls handle := by
  intro r more c k'
  obtain ⟨n, hn⟩ := Outline.refuses_iff_exists_falls.mp h
  have hlength : n ≤ k.system.queues.length := by
    obtain ⟨d, x, hh, -⟩ := hn
    have hle := hk.tame handle n d hh
    rw [System.length_faces_outline] at hle
    omega
  have hhandle : handle < k.system.queues.length := by
    rcases hn.cases_head with ⟨-, x, hx, -⟩ | ⟨m, t, -, ⟨items, hi⟩, -⟩
    · exact (System.queue_of_face hx).1
    · exact (System.queue_of_face hi).1
  have hnext := next_call hhandle r
  have hc : (k.next (.call handle r)).system.callers[c]? = some ⟨r, .ready handle false⟩ := by
    rw [hnext]
    exact System.callers_addCaller k.system handle r
  have hk₁ := hk.next (.call handle r)
  have hrefuses := (hk.step (.call handle r)).refuses h
  obtain ⟨m, hm, hfalls⟩ := (hk.step (.call handle r)).falls hn
  obtain ⟨stage, hget, hunwaited⟩ := hk₁.retreat_invariant Stage.Unwaited.refused
    (fun hs => hs.unwaited) Retreat.unwaited hc hrefuses more
  refine ⟨fun p hp => ?_, fun outcome houtcome => ?_, fun hfirm hturns => ?_⟩
  · cases hget.symm.trans hp
    exact hunwaited
  · obtain ⟨r', hr'⟩ := System.outcome?_eq_some_iff.mp houtcome
    cases hget.symm.trans hr'
    exact hunwaited
  · obtain ⟨stage', hget', hf⟩ := hk₁.retreat_induction
      (fun hf => (Stage.Firm.turnedAway hf).refused) (fun hs => hs.firm) Retreat.firm hc hrefuses
      hfirm
    obtain ⟨stage'', hget'', hd⟩ := hk₁.dueIn_extend hc ⟨m, hfalls, Nat.le_refl _⟩ more
    cases hget'.symm.trans hget''
    have hzero : m + 1 - turns c more = 0 := by omega
    rw [hzero] at hd
    exact System.outcome?_eq_some_iff.mpr ⟨r, hf.eq_ended hd ▸ hget'⟩

end Course

/-! ## Closing a queue and waking those who wait -/

namespace System

/-- A queue that is closed has no items and no redirect. -/
theorem face_of_close {s closed : System α η} {q : QueueId} (hq : q < s.queues.length)
    (h : s.close q = (.ok (), closed)) :
    closed.outline.faces[q]? = some ⟨.destroyed, [], none⟩ := by
  obtain ⟨-, hi, -, rfl⟩ := of_close h
  rw [outline_modifyQueue_set s _ (getElem?_queues hq), List.getElem?_set_self]
  · exact congrArg (fun items => some (Face.mk .destroyed items none)) hi
  · rwa [length_faces_outline]

/-- Where none of its kind is parked, the call is not. -/
theorem not_parked_of_tally {s : System α η} {c : CallerId} {r : Request α} {q : QueueId}
    (h : s.tally r.side (Stage.isParked q) = 0) : s.callers[c]? ≠ some ⟨r, .parked q⟩ := by
  intro hc
  have hpos : 0 < s.tally r.side (Stage.isParked q) :=
    List.countP_pos_iff.mpr ⟨_, List.mem_of_getElem? hc, by simp [Stage.isParked]⟩
  omega

end System

namespace Course

/-- A destroyed queue stays destroyed. -/
theorem Charted.destroyed_extend {k : Course α η} (hk : k.Charted) {q : QueueId} {x : Face α}
    (hx : k.system.outline.faces[q]? = some x) (hl : x.lifecycle = .destroyed)
    (events : List (Event α η)) :
    ∃ x', (k.extend events).system.outline.faces[q]? = some x' ∧ x'.lifecycle = .destroyed := by
  have hall := extend_induction
    (P := fun k => k.Charted ∧ ∃ x, k.system.outline.faces[q]? = some x ∧
      x.lifecycle = .destroyed)
    ⟨hk, x, hx, hl⟩ (fun k e ⟨hk, x, hx, hl⟩ => ⟨hk.next e, (hk.step e).destroyed hx hl⟩) events
  exact hall.2

/-- A handle whose redirects lead to a destroyed queue keeps leading to one. -/
theorem Charted.refuses_extend {k : Course α η} (hk : k.Charted) {q : QueueId}
    (h : k.system.outline.Refuses q) (events : List (Event α η)) :
    (k.extend events).system.outline.Refuses q := by
  have hall := extend_induction (P := fun k => k.Charted ∧ k.system.outline.Refuses q)
    ⟨hk, h⟩ (fun k e ⟨hk, h⟩ => ⟨hk.next e, (hk.step e).refuses h⟩) events
  exact hall.2

/-- Once those at one side of a destroyed queue were woken, nobody is parked there any more. -/
theorem Alert.unparked_of_wakeAll {k : Course α η} (hk : k.Alert) {q : QueueId} {side : Side}
    (h : (k.system.queue q).lifecycle = .destroyed) (later : List (Event α η)) :
    (k.extend (.wakeAll q side :: later)).system.tally side (Stage.isParked q) = 0 := by
  have hnext : (k.next (.wakeAll q side)).system = k.system.wakeAll q side := by
    simp only [Course.next, System.perform]
    rw [if_pos h]
    rfl
  have hserves : ¬ (k.system.queue q).Serves := fun hs => by cases hs.1.symm.trans h
  refine (hk.next (.wakeAll q side)).unparked
    (System.perform_not_serves hk.inRange (.wakeAll q side) hserves) ?_ later
  rw [hnext]
  exact (System.wakeAll_lined hk.awake.lined q side).2.2

/-- A call that waits at the destroyed queue until it is woken, or is due in so many turns. -/
def Lingers (q : QueueId) (n : Nat) (o : Outline α) (stage : Stage α) : Prop :=
  o.Falls 0 q ∧ (stage = .parked q ∨ stage.DueIn o (n + 2))

/-- A call that lingers has to do with queues that refuse. -/
theorem Lingers.refused {q : QueueId} {n : Nat} {o : Outline α} {stage : Stage α}
    (h : Lingers q n o stage) : stage.Refused o := by
  obtain ⟨hq, rfl | hd⟩ := h
  · rintro p ⟨⟩
    exact Outline.refuses_iff_exists_falls.mpr ⟨0, hq⟩
  · exact hd.refused

/-- A call lingers while others go on. -/
theorem Lingers.step {q : QueueId} {n : Nat} {o o' : Outline α} {stage : Stage α}
    {made : Option (Request α)} {taken : Option (Taking α)} (hs : o.Step made taken o')
    (h : Lingers q n o stage) : Lingers q n o' stage := by
  obtain ⟨m, hm, hq⟩ := hs.falls h.1
  obtain rfl := Nat.le_zero.mp hm
  exact ⟨hq, h.2.imp_right hs.dueIn⟩

/-- A call lingers whatever becomes of it. -/
theorem Lingers.retreat {q : QueueId} {n : Nat} {o : Outline α} {r : Request α} {c : CallerId}
    {e : Event α η} {stage stage' : Stage α} (hr : Retreat o r c e stage stage')
    (h : Lingers q n o stage) : Lingers q n o stage' := by
  obtain ⟨hq, rfl | hd⟩ := h
  · refine ⟨hq, ?_⟩
    cases hr with
    | stays _ _ => exact .inl rfl
    | wakes _ => exact .inr ⟨0, hq, by omega⟩
    | withdraws _ => exact .inr trivial
  · exact ⟨hq, .inr ((hr.dueIn hd).mono (Nat.sub_le _ _))⟩

/-- A call that had to do with the queue, or was on the way to it along its redirects, is at its
end, or gives up, when those who wait there were woken and it had so many turns since. -/
theorem Alert.dueIn_of_wakes {k : Course α η} (ha : k.Alert) (hk : k.Charted) {q : QueueId}
    {c : CallerId} {r : Request α} {stage : Stage α}
    (hc : k.system.callers[c]? = some ⟨r, stage⟩) {n : Nat}
    (hw : Lingers q n k.system.outline stage) (first second last : List (Event α η)) :
    ∃ stage', (k.extend (first ++ .wakeAll q .consumer :: second ++ .wakeAll q .producer ::
        last)).system.callers[c]? = some ⟨r, stage'⟩ ∧
      stage'.DueIn (k.extend (first ++ .wakeAll q .consumer :: second ++ .wakeAll q .producer ::
        last)).system.outline (n + 2 - turns c last) := by
  obtain ⟨x, hx, hl⟩ : ∃ x, k.system.outline.faces[q]? = some x ∧ x.lifecycle = .destroyed := by
    rcases hw.1.cases_head with ⟨-, hx⟩ | ⟨m, t, hm, -⟩
    · exact hx
    · cases hm
  have hdestroyed (events : List (Event α η)) :
      ((k.extend events).system.queue q).lifecycle = .destroyed := by
    obtain ⟨x', hx', hl'⟩ := hk.destroyed_extend hx hl events
    obtain ⟨-, rfl⟩ := System.queue_of_face hx'
    exact hl'
  have hempty (side : Side) : (k.extend (first ++ .wakeAll q .consumer :: second ++
      [.wakeAll q .producer])).system.tally side (Stage.isParked q) = 0 := by
    cases side with
    | consumer =>
      rw [List.append_assoc, List.cons_append, extend_append]
      exact (alert_extend ha first).unparked_of_wakeAll (hdestroyed _) _
    | producer =>
      rw [extend_append]
      exact (alert_extend ha _).unparked_of_wakeAll (hdestroyed _) []
  obtain ⟨stage', hget, -, hlingers⟩ := hk.retreat_invariant Lingers.refused Lingers.step
    Lingers.retreat hc hw (first ++ .wakeAll q .consumer :: second ++ [.wakeAll q .producer])
  have hdue := hlingers.resolve_left fun hp =>
    System.not_parked_of_tally (hempty r.side) (hp ▸ hget)
  have hsplit : first ++ .wakeAll q .consumer :: second ++ .wakeAll q .producer :: last =
      first ++ .wakeAll q .consumer :: second ++ [.wakeAll q .producer] ++ last := by simp
  rw [hsplit, extend_append]
  exact (hk.extend _).dueIn_extend hget hdue last

/-- A call that has to do with a queue is parked there only if that serves or is destroyed. -/
theorem Alert.parked_of_edge {k : Course α η} (ha : k.Alert) {c : CallerId} {r : Request α}
    {p t : QueueId} (he : k.system.outline.Edge p t) :
    k.system.callers[c]? ≠ some ⟨r, .parked p⟩ := by
  obtain ⟨hl, hr⟩ := (k.system.edge_iff p t).mp he
  refine System.not_parked_of_tally ((ha.awake.fair p r.side).moved hl ?_)
  rw [hr]
  exact nofun

/-- A call that has to do with a queue when that, or the one that serves it, is destroyed. -/
theorem Alert.lingers {k : Course α η} (ha : k.Alert) {q : QueueId}
    (hq : k.system.outline.Falls 0 q) {c : CallerId} {r : Request α} {stage : Stage α}
    (hc : k.system.callers[c]? = some ⟨r, stage⟩) {p : QueueId} (hp : stage.spot = .facing p)
    {n : Nat} (hn : k.system.outline.Hops n p q) : Lingers q n k.system.outline stage := by
  have hfalls : k.system.outline.Falls n p := by
    obtain ⟨d, x, hh, hx, hl⟩ := hq
    cases hh
    exact ⟨q, x, hn, hx, hl⟩
  refine ⟨hq, ?_⟩
  cases stage with
  | ready p' recalled =>
    cases hp
    exact .inr ⟨n, hfalls, by omega⟩
  | woken p' cause =>
    cases hp
    exact .inr ⟨n, hfalls, Nat.le_refl _⟩
  | parked p' =>
    cases hp
    cases hn with
    | here => exact .inl rfl
    | along he _ => exact absurd hc (ha.parked_of_edge he)
  | leaving p' held late => cases late <;> cases hp
  | _ => cases hp

/-! ## Everybody is refused -/

/-- A call whose redirects lead to a destroyed queue is refused, or gives up. -/
theorem Charted.outcome_of_refuses {k : Course α η} (hk : k.Charted) {c : CallerId}
    {r : Request α} {stage : Stage α} (hc : k.system.callers[c]? = some ⟨r, stage⟩) {p : QueueId}
    (hp : stage.spot = .facing p) (h : k.system.outline.Refuses p) (later : List (Event α η))
    {outcome : Outcome α} (houtcome : (k.extend later).system.outcome? c = some outcome) :
    outcome = r.refusal ∨ outcome = .failed .timeout ∧ r.deadline?.isSome = true := by
  obtain ⟨stage', hget, hstage⟩ := hk.retreat_invariant Stage.TurnedAway.refused
    (fun hs => hs.turnedAway) Retreat.turnedAway hc (Stage.Firm.of_facing hp h).turnedAway later
  obtain ⟨r', hr'⟩ := System.outcome?_eq_some_iff.mp houtcome
  cases hget.symm.trans hr'
  exact hstage

/-- A call that had its turns after those who wait were woken was refused, unless it gave up; if
it did, it comes to its end by leaving the line. -/
theorem Alert.ends_of_wakes {k : Course α η} (ha : k.Alert) (hk : k.Charted) {q : QueueId}
    (hq : k.system.outline.Falls 0 q) {c : CallerId} {r : Request α} {stage : Stage α}
    (hc : k.system.callers[c]? = some ⟨r, stage⟩) {p : QueueId} (hp : stage.spot = .facing p)
    {n : Nat} (hn : k.system.outline.Hops n p q) (first second : List (Event α η))
    {last : List (Event α η)} (hturns : n + 2 ≤ turns c last) :
    let events := first ++ .wakeAll q .consumer :: second ++ .wakeAll q .producer :: last
    ((∀ e ∈ events, e.quitter? ≠ some c) →
      (k.extend events).system.outcome? c = some r.refusal) ∧
    ((k.extend events).next (.depart c)).system.hasEnded c = true := by
  intro events
  have hlingers := ha.lingers hq hc hp hn
  obtain ⟨stage', hget, hdue⟩ := ha.dueIn_of_wakes hk hc hlingers first second last
  rw [Nat.sub_eq_zero_of_le hturns] at hdue
  constructor
  · intro hfirm
    obtain ⟨stage'', hget', hf⟩ := hk.retreat_induction
      (fun hf => (Stage.Firm.turnedAway hf).refused) (fun hs => hs.firm) Retreat.firm hc
      (.of_facing hp (hlingers.refused p hp)) hfirm
    cases hget.symm.trans hget'
    exact System.outcome?_eq_some_iff.mpr ⟨r, hf.eq_ended hdue ▸ hget⟩
  · obtain ⟨stage'', hget', hretreat⟩ := (hk.extend events).retreat hget hdue.refused (.depart c)
    rcases hretreat.ended_of_depart hdue with rfl | ⟨outcome, rfl⟩
    · simp only [System.hasEnded, hget']
    · simp only [System.hasEnded, hget']

/-- The queue that serves a handle is destroyed and empty, and nothing comes of what is done
through the handle. -/
structure Shut (k : Course α η) (handle : QueueId) : Prop where
  /-- The queue that serves it is destroyed. -/
  destroyed : (k.system.queue (k.system.serving handle)).lifecycle = .destroyed
  /-- It is empty. -/
  empty : (k.system.queue (k.system.serving handle)).items = []
  /-- Taking an item without waiting is refused. -/
  tryPop : k.system.tryPop handle = (.error .closed, k.system, none)
  /-- Every other call is refused without waiting. -/
  calls : k.RefusesCalls handle

/-- Where redirects lead to a destroyed queue the handle is shut. -/
theorem Alert.shut {k : Course α η} (ha : k.Alert) (hk : k.Charted) {handle : QueueId}
    (h : k.system.outline.Refuses handle) : k.Shut handle := by
  have hserving := (System.refuses_iff_serving hk.tame handle).mp h
  have hl := System.lt_length_of_not_serves fun hs => by cases hs.1.symm.trans hserving
  exact ⟨hserving, ha.cleared _ _ (System.face_of_queue hl) (.inl hserving),
    System.tryPop_of_destroyed hserving, hk.refusesCalls h⟩

/-- When a queue is destroyed, every call that is parked or woken there, is about to look, or is
on its way along redirects is refused with its own item, or gives up itself, a late one with a
timeout; those who were woken need two turns and one for each redirect, and whoever gives up
comes to its end by leaving the line. From then on the queue is empty, each handle that it
serves is served by a destroyed queue, nothing is taken through it, and every call made through
it is refused without waiting. -/
theorem destroyed_for_every_caller (before : List (Event α η)) {q : QueueId}
    {closed : System α η} (hq : q < (after before).system.queues.length)
    (h : (after before).system.close q = (.ok (), closed)) :
    (∀ c r stage p, closed.callers[c]? = some ⟨r, stage⟩ → stage.spot = .facing p →
      closed.serving p = q →
      (∀ later outcome,
        (after (before ++ .close q :: later)).system.outcome? c = some outcome →
        outcome = r.refusal ∨ outcome = .failed .timeout ∧ r.deadline?.isSome = true) ∧
      ∃ n ≤ closed.queues.length, (p = q → n = 0) ∧ ∀ first second last, n + 2 ≤ turns c last →
        let events := first ++ .wakeAll q .consumer :: second ++ .wakeAll q .producer :: last
        let k := after (before ++ .close q :: events)
        ((∀ e ∈ events, e.quitter? ≠ some c) → k.system.outcome? c = some r.refusal) ∧
        (k.next (.depart c)).system.hasEnded c = true) ∧
    ∀ later,
      let k := after (before ++ .close q :: later)
      k.Shut q ∧ k.system.serving q = q ∧
        ∀ handle, closed.serving handle = q ∨ k.system.serving handle = q → k.Shut handle := by
  have hk : ((after before).next (.close q)).Charted := (charted_after before).next _
  have ha : ((after before).next (.close q)).Alert := (alert_extend alert_start before).next _
  have hclosed : ((after before).next (.close q)).system = closed := by
    simp only [next, System.perform, h, System.quietly]
  have hafter (later : List (Event α η)) : after (before ++ .close q :: later) =
      ((after before).next (.close q)).extend later := after_append before _
  generalize (after before).next (.close q) = k₀ at hk ha hclosed hafter
  subst hclosed
  have hface := System.face_of_close hq h
  have hfalls : k₀.system.outline.Falls 0 q := ⟨q, _, .here, hface, rfl⟩
  have hrefuses {p : QueueId} (hp : k₀.system.serving p = q) : k₀.system.outline.Refuses p := by
    rw [System.refuses_iff_serving hk.tame, hp]
    exact congrArg Face.lifecycle (System.queue_of_face hface).2
  refine ⟨fun c r stage p hc hp hserving => ⟨fun later outcome houtcome => ?_, ?_⟩,
    fun later => ?_⟩
  · rw [hafter] at houtcome
    exact hk.outcome_of_refuses hc hp (hrefuses hserving) later houtcome
  · obtain ⟨n, hn, hh, -⟩ := System.exists_hops_servingWithin hk.tame p (Nat.le_refl _)
    rw [← System.serving, hserving] at hh
    refine ⟨n, hn, fun hpq => ?_, fun first second last hturns => ?_⟩
    · subst hpq
      cases hh with
      | here => rfl
      | along he _ => exact absurd he (Outline.not_edge_of_destroyed hface rfl)
    · dsimp only
      rw [hafter]
      exact ha.ends_of_wakes hk hfalls hc hp hh first second hturns
  · dsimp only
    rw [hafter]
    have hk' := hk.extend later
    have ha' := alert_extend ha later
    obtain ⟨x, hx, hl⟩ := hk.destroyed_extend hface rfl later
    have hself : (k₀.extend later).system.serving q = q :=
      (System.endsAt_serving hk'.tame q).unique
        ⟨.refl, fun _ => Outline.not_edge_of_destroyed hx hl⟩
    have hnow : (k₀.extend later).system.outline.Refuses q := ⟨q, x, .refl, hx, hl⟩
    refine ⟨ha'.shut hk' hnow, hself, fun handle hhandle => ha'.shut hk' ?_⟩
    rcases hhandle with hthen | hlater
    · exact hk.refuses_extend (hrefuses hthen) later
    · rw [System.refuses_iff_serving hk'.tame] at hnow ⊢
      rwa [hlater, ← hself]

/-- A queue with room for one item is empty again: a producer was woken and has not gone on, one
more and a timed consumer are parked, and one comes along a redirect. -/
def fourWaitAtEmptyQueue : List (Event Nat Unit) :=
  [.addQueue 1, .addQueue 0, .move 1 0, .call 0 (.push 7), .turn 0, .call 0 (.push 8), .turn 1,
    .call 0 (.push 9), .turn 2, .tryPop 0, .call 0 (.pop (some 5)), .turn 3, .call 1 (.push 11)]

/-- The queue is destroyed, and while those who wait are woken the first producer goes on: the
parked producer gets its own item back, and later calls through the moved handle are refused. -/
theorem destroyed_while_four_wait :
    let events : List (Event Nat Unit) :=
      [.turn 1] ++ .wakeAll 0 .consumer :: [.turn 3] ++ .wakeAll 0 .producer :: [.turn 2, .turn 2]
    (after fourWaitAtEmptyQueue).system.callers[2]? = some ⟨.push 9, .parked 0⟩ ∧
      (after (fourWaitAtEmptyQueue ++ .close 0 :: events)).system.outcome? 2 =
        some (.refused 9 .closed) ∧
      (after (fourWaitAtEmptyQueue ++ .close 0 :: events)).Shut 1 := by
  intro events
  have hall := destroyed_for_every_caller fourWaitAtEmptyQueue (q := 0) (by decide) rfl
  obtain ⟨-, n, -, hn, hends⟩ := hall.1 2 (.push 9) (.parked 0) 0 (by decide) rfl (by decide)
  obtain rfl := hn rfl
  have hended := hends [.turn 1] [.turn 3] [.turn 2, .turn 2] (by decide)
  exact ⟨by decide, hended.1 (by simp [Event.quitter?]), (hall.2 events).2.2 1 (.inl (by decide))⟩

end Course

end Diameter.Queue
