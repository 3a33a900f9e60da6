import Diameter.Proofs.Queue.Wakeups
import Mathlib.Data.List.Induction

/-!
# Wake-ups in every course

In every course there is a wake-up under way for each item, or for all room, as long as
somebody is parked at a queue that serves: a call was woken and has not looked since, or a call
that has left the count and not yet the line will pass its wake-up on. What can go on in between is
the run at the end, in which fewer calls were woken than items have come. Nobody is left parked at
a queue that was moved, or at one that was closed and has woken those who waited there.
-/

namespace Diameter.Queue

variable {α η : Type}

/-- The call gives up. -/
def Stage.isLeaving : Stage α → Bool
  | .leaving _ _ _ => true
  | _ => false

namespace System

/-! ## Events that park nobody -/

/-- No wake-up brings a call to a stage of the kind, and no call looks, goes on or ends
there. -/
structure Passive (kind : Stage α → Bool) : Prop where
  wake : ∀ cause stage, kind (stage.wake cause) = true → kind stage = true
  ready : ∀ q recalled, kind (.ready q recalled) = false
  woken : ∀ q cause, kind (.woken q cause) = false
  ended : ∀ outcome, kind (.ended outcome) = false
  dropped : kind .dropped = false

/-- A change that brings no call to a stage of the kind adds nothing to its tally. -/
theorem tally_modifyStage_le (s : System α η) (c : CallerId) {f : Stage α → Stage α}
    {kind : Stage α → Bool} (h : ∀ stage, kind (f stage) = true → kind stage = true)
    (side : Side) : (s.modifyStage c f).tally side kind ≤ s.tally side kind := by
  rcases hc : s.callers[c]? with _ | ⟨r, stage⟩
  · have hsame : (s.modifyStage c f).callers = s.callers :=
      List.modify_eq_self (List.getElem?_eq_none_iff.mp hc)
    exact Nat.le_of_eq (by rw [tally, hsame, tally])
  · have hcount := countP_set_add (fun c => decide (c.request.side = side) && kind c.stage)
      ⟨r, f stage⟩ hc
    rw [tally, tally, callers_modifyStage s f hc]
    have hle : (decide (r.side = side) && kind (f stage)).toNat ≤
        (decide (r.side = side) && kind stage).toNat := by
      cases hk : kind (f stage) with
      | true => exact Nat.le_of_eq (by rw [h stage hk])
      | false => simp
    dsimp only at hcount
    omega

/-- A call that is put to a stage of another kind adds nothing to the tally. -/
theorem tally_setStage_le (s : System α η) (c : CallerId) {new : Stage α}
    {kind : Stage α → Bool} (h : kind new = false) (side : Side) :
    (s.setStage c new).tally side kind ≤ s.tally side kind :=
  tally_modifyStage_le s c (fun _ hk => absurd hk (by simp [h])) side

theorem tally_schedule (s : System α η) (c : CallerId) (side : Side) (kind : Stage α → Bool) :
    (s.schedule c).tally side kind = s.tally side kind := by
  unfold schedule
  split <;> rfl

theorem Passive.wake_le {kind : Stage α → Bool} (hk : Passive kind) (s : System α η)
    (cause : WokenBy) (c : CallerId) (side : Side) :
    (s.wake cause c).tally side kind ≤ s.tally side kind := by
  rw [System.wake, tally_schedule]
  exact tally_modifyStage_le s c (hk.wake cause) side

theorem Passive.wakeOne_le {kind : Stage α → Bool} (hk : Passive kind) (s : System α η)
    (q : QueueId) (d side : Side) : (s.wakeOne q d).tally side kind ≤ s.tally side kind := by
  unfold wakeOne
  dsimp only
  split
  · exact hk.wake_le _ _ _ side
  · exact Nat.le_refl _

theorem Passive.wakeAll_le {kind : Stage α → Bool} (hk : Passive kind) (s : System α η)
    (q : QueueId) (d side : Side) : (s.wakeAll q d).tally side kind ≤ s.tally side kind := by
  have hall (all : List CallerId) (s : System α η) :
      (all.foldl (fun s c => s.wake .all c) s).tally side kind ≤ s.tally side kind := by
    induction all generalizing s with
    | nil => exact Nat.le_refl _
    | cons c all ih => exact Nat.le_trans (ih _) (hk.wake_le s .all c side)
  exact hall _ _

theorem Passive.wakeTimes_le {kind : Stage α → Bool} (hk : Passive kind) (s : System α η)
    (q : QueueId) (d side : Side) (n : Nat) :
    (s.wakeTimes q d n).tally side kind ≤ s.tally side kind := by
  induction n generalizing s with
  | zero => exact Nat.le_refl _
  | succ n ih => exact Nat.le_trans (ih _) (hk.wakeOne_le s q d side)

theorem tally_report (s : System α η) (q : QueueId) (level : Level)
    (moved : Option (Watermark η)) (side : Side) (kind : Stage α → Bool) :
    (s.report q level moved).1.tally side kind = s.tally side kind := by
  cases moved <;> rfl

theorem Passive.store_le {kind : Stage α → Bool} (hk : Passive kind) (s : System α η)
    (q : QueueId) (item : α) (side : Side) :
    (s.store q item).1.tally side kind ≤ s.tally side kind := by
  unfold store
  dsimp only
  rw [tally_report]
  split_ifs
  · exact Nat.le_trans (hk.wakeOne_le _ _ _ _) (hk.wakeOne_le _ _ _ _)
  · exact hk.wakeOne_le _ _ _ _
  · exact hk.wakeOne_le _ _ _ _
  · exact Nat.le_refl _

theorem Passive.takeHead_le {kind : Stage α → Bool} (hk : Passive kind) (s : System α η)
    (q : QueueId) (rest : List α) (side : Side) :
    (s.takeHead q rest).1.tally side kind ≤ s.tally side kind := by
  unfold takeHead
  dsimp only
  rw [tally_report]
  split_ifs
  · exact hk.wakeOne_le _ _ _ _
  · exact Nat.le_refl _

/-- A call that looks at a queue is brought to no stage of the kind, if none is parked
there. -/
theorem Passive.examine_le {kind : Stage α → Bool} (hk : Passive kind) (s : System α η)
    (c : CallerId) (r : Request α) (q : QueueId)
    (hpark : (s.queue q).Serves → kind (.parked q) = false) (side : Side) :
    (s.examine c r q).1.tally side kind ≤ s.tally side kind := by
  have hset {stage : Stage α} (hs : kind stage = false) :
      (s.setStage c stage).tally side kind ≤ s.tally side kind := tally_setStage_le s c hs side
  have hsuspend (hs : (s.queue q).Serves) (d : Side) :
      (s.suspend q d c).tally side kind ≤ s.tally side kind := by
    unfold suspend
    split_ifs
    · exact tally_setStage_le _ c (hk.woken q .one) side
    · exact tally_setStage_le _ c (hpark hs) side
  unfold examine
  dsimp only
  split
  · exact hset (hk.ended _)
  · exact hset (hk.ended _)
  · exact hset (hk.ready _ _)
  · next item hl hr =>
    split_ifs
    · exact hsuspend ⟨hl, hr⟩ _
    · exact Nat.le_trans (hk.store_le _ q item side) (hset (hk.ended _))
  · next deadline hl hr =>
    split
    · exact hsuspend ⟨hl, hr⟩ _
    · exact Nat.le_trans (hk.takeHead_le _ q _ side) (hset (hk.ended _))

/-- A turn brings nobody to a stage of the kind, if none is parked where a queue serves. -/
theorem Passive.turn_le {kind : Stage α → Bool} (hk : Passive kind) (s : System α η) (c : CallerId)
    (hpark : ∀ q, (s.queue q).Serves → kind (.parked q) = false) (side : Side) :
    (s.turn c).1.tally side kind ≤ s.tally side kind := by
  unfold turn
  split
  · exact hk.examine_le s c _ _ (hpark _) side
  · exact tally_setStage_le _ c (hk.ready _ _) side
  · exact Nat.le_refl _

/-- A new call is at no stage of the kind. -/
theorem Passive.addCaller_eq {kind : Stage α → Bool} (hk : Passive kind) (s : System α η)
    (handle : QueueId) (r : Request α) (side : Side) :
    (s.addCaller handle r).2.tally side kind = s.tally side kind := by
  rw [addCaller, tally_schedule]
  simp [tally, List.countP_append, hk.ready]

/-- A call that is given up adds nothing to the tally. -/
theorem Passive.abandon_le {kind : Stage α → Bool} (hk : Passive kind) (s : System α η)
    (c : CallerId) (side : Side) : (s.abandon c).tally side kind ≤ s.tally side kind := by
  unfold abandon
  split
  · exact tally_setStage_le s c hk.dropped side
  · exact Nat.le_refl _

/-- A call that begins to give up adds nothing to the tally, if nobody of the kind does. -/
theorem withdraw_le {kind : Stage α → Bool} (s : System α η) (c : CallerId) {late : Bool}
    (hleave : ∀ q cause, kind (.leaving q cause late) = false) (side : Side) :
    (s.withdraw c late).tally side kind ≤ s.tally side kind := by
  unfold withdraw
  split
  · exact tally_setStage_le _ c (hleave _ _) side
  · exact tally_setStage_le _ c (hleave _ _) side
  · exact Nat.le_refl _

/-- A call that leaves the line brings nobody to a stage of the kind. -/
theorem Passive.depart_le {kind : Stage α → Bool} (hk : Passive kind) (s : System α η)
    (c : CallerId) (side : Side) : (s.depart c).tally side kind ≤ s.tally side kind := by
  unfold depart
  split
  · next r q cause late hc =>
    have hset : (s.setStage c (if late then .ended (.failed .timeout) else .dropped)).tally
        side kind ≤ s.tally side kind := by
      refine tally_setStage_le s c ?_ side
      cases late with
      | true => exact hk.ended _
      | false => exact hk.dropped
    dsimp only
    split
    · exact hset
    · exact Nat.le_trans (hk.wakeOne_le _ _ _ _) hset
    · exact hset
  · exact Nat.le_refl _

/-- An event brings nobody to a stage of the kind, if no queue that serves parks calls there
and nobody begins to give up there. -/
theorem Passive.perform_le {kind : Stage α → Bool} (hk : Passive kind) (s : System α η)
    (e : Event α η) (hpark : ∀ q, (s.queue q).Serves → kind (.parked q) = false)
    (hleave : ∀ c late, e = .withdraw c late → ∀ q cause, kind (.leaving q cause late) = false)
    (side : Side) : (s.perform e).system.tally side kind ≤ s.tally side kind := by
  cases e with
  | addQueue capacity => exact Nat.le_refl _
  | call handle r =>
    simp only [perform]
    split_ifs
    · exact Nat.le_of_eq (hk.addCaller_eq s handle r side)
    · exact Nat.le_refl _
  | turn c => exact hk.turn_le s c hpark side
  | abandon c => exact hk.abandon_le s c side
  | withdraw c late =>
    simp only [perform]
    split_ifs
    · exact Nat.le_refl _
    · exact withdraw_le s c (hleave c late rfl) side
  | depart c => exact hk.depart_le s c side
  | tryPop handle =>
    simp only [perform, tryPop]
    cases (s.queue (s.serving handle)).lifecycle with
    | destroyed => exact Nat.le_refl _
    | usable =>
      cases (s.queue (s.serving handle)).items with
      | nil => exact Nat.le_refl _
      | cons item rest => exact hk.takeHead_le s _ rest side
  | setThresholds handle high low handler =>
    simp only [perform, quietly]
    rcases hm : s.setThresholds handle high low handler with ⟨e | done, after⟩
    · obtain rfl := setThresholds_error_eq hm
      exact Nat.le_refl _
    · obtain ⟨-, -, rfl⟩ := of_setThresholds hm
      exact Nat.le_refl _
  | clearThresholds handle => exact Nat.le_refl _
  | move source target =>
    simp only [perform]
    split_ifs
    · rw [move_eq]
      cases s.moveObstacle source target with
      | some e => exact Nat.le_refl _
      | none =>
        refine Nat.le_trans (Nat.le_of_eq (tally_report _ _ _ _ side kind)) ?_
        exact Nat.le_trans (hk.wakeAll_le _ _ _ _) (hk.wakeTimes_le _ _ _ _ _)
    · exact Nat.le_refl _
  | close q =>
    simp only [perform, quietly]
    rcases hm : s.close q with ⟨e | done, after⟩
    · obtain rfl := close_error_eq hm
      exact Nat.le_refl _
    · obtain ⟨-, -, -, rfl⟩ := of_close hm
      exact Nat.le_refl _
  | wakeAll q d =>
    simp only [perform]
    split_ifs
    · exact hk.wakeAll_le s q d side
    · exact Nat.le_refl _

/-! ## Two such kinds -/

/-- No wake-up parks a call, and who has been parked was not ready, woken or at an end. -/
theorem passive_isParked (q : QueueId) : Passive (α := α) (Stage.isParked q) := by
  refine ⟨fun cause stage h => ?_, fun _ _ => rfl, fun _ _ => rfl, fun _ => rfl, rfl⟩
  cases stage with
  | parked p => cases h
  | leaving p held late => cases held <;> cases h
  | _ => exact h

/-- No wake-up makes a call give up, and who gives up is not ready, woken or at an end. -/
theorem passive_isLeaving : Passive (α := α) Stage.isLeaving := by
  refine ⟨fun cause stage h => ?_, fun _ _ => rfl, fun _ _ => rfl, fun _ => rfl, rfl⟩
  cases stage with
  | parked p => cases h
  | leaving p held late => rfl
  | _ => exact h

/-- A call that gives up in one go is at no time after it one that gives up. What is written when
it leaves the count is written over when it leaves the line. -/
theorem giveUp_le (s : System α η) (c : CallerId) (late : Bool) (side : Side) :
    ((s.withdraw c late).depart c).tally side Stage.isLeaving ≤ s.tally side Stage.isLeaving := by
  have hnew : (if late then .ended (.failed .timeout) else .dropped : Stage α).isLeaving =
      false := by
    cases late <;> rfl
  have hcounted {t : System α η} {r : Request α} {stage : Stage α} {q : QueueId}
      {cause : Option WokenBy} (hc : t.callers[c]? = some ⟨r, stage⟩) :
      ((t.setStage c (.leaving q cause late)).depart c).tally side Stage.isLeaving ≤
        t.tally side Stage.isLeaving := by
    have hset := tally_setStage_le t c hnew side
    unfold depart
    rw [callers_setStage hc]
    dsimp only
    rw [setStage_setStage]
    split
    · exact hset
    · exact Nat.le_trans (passive_isLeaving.wakeOne_le _ _ _ _) hset
    · exact hset
  unfold withdraw
  split
  · next r q hc => exact hcounted (t := s.modifyWaiting q r.side (·.resume)) hc
  · next r q cause hc => exact hcounted (t := s.modifyWaiting q r.side (·.resume)) hc
  · exact passive_isLeaving.depart_le s c side

/-- A queue that does not serve exists. -/
theorem lt_length_of_not_serves {s : System α η} {q : QueueId} (h : ¬ (s.queue q).Serves) :
    q < s.queues.length := by
  by_contra hn
  rw [queue_of_length_le (Nat.le_of_not_lt hn)] at h
  exact h ⟨rfl, rfl⟩

/-- A queue that does not serve never serves again. -/
theorem perform_not_serves {s : System α η} (hr : s.outline.InRange) (e : Event α η)
    {q : QueueId} (h : ¬ (s.queue q).Serves) : ¬ ((s.perform e).system.queue q).Serves := by
  obtain ⟨x, hx, hface⟩ := (step_perform hr e).face (face_of_queue (lt_length_of_not_serves h))
  obtain ⟨-, rfl⟩ := queue_of_face hx
  rintro ⟨hl, hn⟩
  rcases hface with hd | ⟨hu, -, hredirect | hnone⟩
  · exact absurd (hl.symm.trans hd) (by decide)
  · exact h ⟨hu, hredirect.symm.trans hn⟩
  · exact h ⟨hu, hnone⟩

end System

namespace Course

/-- What holds at every moment of a course. -/
structure Alert (k : Course α η) : Prop where
  /-- Calls and redirects have to do with queues that exist. -/
  inRange : k.system.outline.InRange
  /-- Queues that serve others or refuse are empty. -/
  cleared : k.system.outline.Cleared
  /-- All lines are in order and enough calls were woken. -/
  awake : k.system.Awake

theorem alert_start : (start (α := α) (η := η)).Alert := by
  have hqueue (q : QueueId) : (System.empty : System α η).queue q = .new 0 :=
    System.queue_of_length_le (Nat.zero_le q)
  refine ⟨Outline.inRange_start, Outline.cleared_start, fun q side => ?_, fun q side => ?_⟩
  · have hline : (((System.empty : System α η).queue q).waiting side) = .none := by
      rw [hqueue]
      cases side <;> rfl
    have hempty : (((System.empty : System α η).queue q).waiting side).parked = [] := by
      rw [hline]
      rfl
    rw [start, System.Lined, hempty]
    refine ⟨List.nodup_nil, fun c => ?_, ?_⟩
    · simp [System.Stands, System.empty]
    · rw [hline]
      rfl
  · exact ⟨fun _ => .inl (Nat.le_refl _), fun _ _ => rfl⟩

/-- Every event keeps a course alert. -/
theorem Alert.next {k : Course α η} (h : k.Alert) (e : Event α η) : (k.next e).Alert where
  inRange := (System.step_perform h.inRange e).inRange h.inRange
  cleared := (System.step_perform h.inRange e).cleared h.cleared
  awake := System.perform_awake h.awake h.inRange h.cleared e

/-- Any events keep a course alert. -/
theorem alert_extend {k : Course α η} (h : k.Alert) (events : List (Event α η)) :
    (k.extend events).Alert :=
  extend_induction h (fun _ e hk => hk.next e) events

/-- Nobody comes to be parked at a queue that does not serve. -/
theorem Alert.unparked {k : Course α η} (h : k.Alert) {q : QueueId} {side : Side}
    (hq : ¬ (k.system.queue q).Serves)
    (hz : k.system.tally side (Stage.isParked q) = 0) (later : List (Event α η)) :
    (k.extend later).system.tally side (Stage.isParked q) = 0 := by
  have hall := extend_induction
    (P := fun k => k.Alert ∧ ¬ (k.system.queue q).Serves ∧
      k.system.tally side (Stage.isParked q) = 0)
    ⟨h, hq, hz⟩ (fun k e ⟨hk, hq, hz⟩ => ?_) later
  · exact hall.2.2
  · refine ⟨hk.next e, System.perform_not_serves hk.inRange e hq, ?_⟩
    have hle := (System.passive_isParked q).perform_le k.system e (fun p hp => ?_)
      (fun _ _ _ _ _ => rfl) side
    · rw [hz] at hle
      exact Nat.le_zero.mp hle
    · refine beq_eq_false_iff_ne.mpr ?_
      rintro rfl
      exact hq hp

/-- Lists of events in which giving up is one action: a call that leaves the count leaves
the line, or passes its wake-up on, before anything else happens. -/
inductive Whole : List (Event α η) → Prop
  | nil : Whole []
  | event {events e} (h : Whole events) (he : ∀ c late, e ≠ .withdraw c late) :
      Whole (events ++ [e])
  | giveUp {events} (h : Whole events) (c : CallerId) (late : Bool) :
      Whole (events ++ [.withdraw c late, .depart c])

theorem after_append (events more : List (Event α η)) :
    after (events ++ more) = (after events).extend more := extend_append start events more

/-- Where nobody gives up, giving up is one action. -/
theorem Whole.of_forall {events : List (Event α η)}
    (h : ∀ e ∈ events, ∀ c late, e ≠ .withdraw c late) : Whole events := by
  induction events using List.reverseRecOn with
  | nil => exact .nil
  | append_singleton events e ih =>
    refine .event (ih fun e he => h e (List.mem_append_left _ he)) ?_
    exact h e (List.mem_append_right _ (List.mem_singleton_self e))

/-- Where giving up is one action, nobody is seen giving up. -/
theorem Whole.tally_leaving {events : List (Event α η)} (h : Whole events) (side : Side) :
    (after events).system.tally side Stage.isLeaving = 0 := by
  induction h with
  | nil => rfl
  | @event events e h he ih =>
    rw [after_append]
    have hle := System.passive_isLeaving.perform_le (after events).system e (fun _ _ => rfl)
      (fun c late hw => absurd hw (he c late)) side
    rw [ih] at hle
    exact Nat.le_zero.mp hle
  | @giveUp events h c late ih =>
    rw [after_append]
    have hle : ((after events).extend [.withdraw c late, .depart c]).system.tally side
        Stage.isLeaving ≤ (after events).system.tally side Stage.isLeaving := by
      simp only [extend, List.foldl_cons, List.foldl_nil, next, System.perform, System.quietly]
      split_ifs
      · exact System.passive_isLeaving.perform_le (after events).system (.depart c)
          (fun _ _ => rfl) (fun _ _ hw => by cases hw) side
      · exact System.giveUp_le _ c late side
    rw [ih] at hle
    exact Nat.le_zero.mp hle

/-- A kind of stage that is part of another one tells of fewer calls. -/
theorem tally_le_tally (s : System α η) (side : Side) {kind kind' : Stage α → Bool}
    (h : ∀ stage, kind stage = true → kind' stage = true) :
    s.tally side kind ≤ s.tally side kind' := by
  refine List.countP_mono_left fun c _ hc => ?_
  rw [Bool.and_eq_true] at hc ⊢
  exact ⟨hc.1, h _ hc.2⟩

/-- Who was recalled was woken. -/
theorem isWoken_of_isRecalled {q : QueueId} (stage : Stage α)
    (h : stage.isRecalled q = true) : stage.isWoken q = true := by
  cases stage with
  | ready p recalled => cases recalled <;> exact h
  | woken p cause =>
    cases cause with
    | one => exact h
    | all => cases h
  | leaving p held late =>
    rcases held with _ | _ | _
    · cases h
    · exact h
    · cases h
  | _ => cases h

/-- Who passes a wake-up on is giving up. -/
theorem isLeaving_of_isPassing {q : QueueId} (stage : Stage α)
    (h : stage.isPassing q = true) : stage.isLeaving = true := by
  cases stage with
  | leaving p held late => rfl
  | _ => cases h

/-- In every course, wherever somebody is parked at a queue that serves and was not woken,
calls were woken for all that the queue has and have not looked since, or each one parked has
a wake-up coming from a call that gives up. The latter is so only while a call is between the two
steps of giving up, and never where giving up is one action. Nobody is left parked at a queue once
it was moved, nor at one that refuses once those who waited there were woken. -/
theorem no_lost_wakeup (events : List (Event α η)) :
    let s := (after events).system
    (∀ q side, (s.queue q).Serves → 0 < s.tally side (Stage.isParked q) →
      (s.queue q).supply side ≤ s.tally side (Stage.isWoken q) ∨
        s.tally side (Stage.isParked q) ≤ s.tally side (Stage.isPassing q)) ∧
    (Whole events → ∀ q side, (s.queue q).Serves → 0 < s.tally side (Stage.isParked q) →
      (s.queue q).supply side ≤ s.tally side (Stage.isWoken q)) ∧
    (∀ source target, source < s.queues.length → target < s.queues.length →
      s.moveObstacle source target = none → ∀ later side,
        (after (events ++ .move source target :: later)).system.tally side
          (Stage.isParked source) = 0) ∧
    ∀ q side, (s.queue q).lifecycle = .destroyed → ∀ later,
      (after (events ++ .wakeAll q side :: later)).system.tally side (Stage.isParked q) = 0 := by
  intro s
  have hk : (after events).Alert := alert_extend alert_start events
  have hwoken (q : QueueId) (side : Side) (hs : (s.queue q).Serves) :
      (s.queue q).supply side ≤ s.tally side (Stage.isWoken q) ∨
        s.tally side (Stage.isParked q) ≤ s.tally side (Stage.isPassing q) := by
    rcases (hk.awake.fair q side).balanced hs with hp | hw
    · exact .inr hp
    · exact .inl (Nat.le_trans hw (tally_le_tally s side isWoken_of_isRecalled))
  refine ⟨fun q side hs _ => hwoken q side hs, fun hwhole q side hs hpos => ?_, ?_, ?_⟩
  · have hle := tally_le_tally s side (isLeaving_of_isPassing (q := q))
    have hzero : s.tally side Stage.isLeaving = 0 := hwhole.tally_leaving side
    rcases hwoken q side hs with hw | hp
    · exact hw
    · omega
  · intro source target hs ht hm later side
    rw [after_append]
    obtain ⟨⟨moved, crossing⟩, hmove⟩ : ∃ moved, s.move source target = (.ok (), moved) := by
      rw [System.move_eq, hm]
      exact ⟨_, rfl⟩
    obtain ⟨-, hnot, hzero⟩ := System.move_awake hk.awake hs ht hmove
    have hnext : ((after events).next (.move source target)).system = moved := by
      simp only [next, System.perform]
      rw [if_pos ⟨hs, ht⟩, hmove]
    refine (hk.next (.move source target)).unparked ?_ ?_ later
    · rw [hnext]
      exact hnot
    · rw [hnext]
      exact hzero side
  · intro q side hl later
    rw [after_append]
    have hnext : ((after events).next (.wakeAll q side)).system = s.wakeAll q side := by
      simp only [next, System.perform]
      rw [if_pos hl]
      rfl
    refine (hk.next (.wakeAll q side)).unparked (fun hs => ?_) ?_ later
    · rw [hnext] at hs
      have hgoods := congrArg (fun g => g.1.lifecycle) (System.goods_wakeAll s q q side)
      exact absurd (hs.1.symm.trans (hgoods.trans hl)) (by decide)
    · rw [hnext]
      exact (System.wakeAll_lined hk.awake.lined q side).2.2

/-- Two consumers wait, an item comes and one of them is woken; then the queue is moved, and
neither is left parked. -/
theorem woken_for_one_item :
    let events : List (Event Nat Unit) := [.addQueue 0, .addQueue 0, .call 0 (.pop none),
      .turn 0, .call 0 (.pop none), .turn 1, .call 0 (.push 7), .turn 2]
    let s := (after events).system
    0 < s.tally .consumer (Stage.isParked 0) ∧ (s.queue 0).supply .consumer = 1 ∧
      1 ≤ s.tally .consumer (Stage.isWoken 0) ∧
      (after (events ++ [.move 0 1])).system.tally .consumer (Stage.isParked 0) = 0 := by
  intro events s
  have hpos : 0 < s.tally .consumer (Stage.isParked 0) := by decide
  have hsupply : (s.queue 0).supply .consumer = 1 := by decide
  have hwhole : Whole events := .of_forall (by simp [events])
  have hwoken := (no_lost_wakeup events).2.1 hwhole 0 .consumer ⟨by decide, by decide⟩ hpos
  have hmoved := (no_lost_wakeup events).2.2.1 0 1 (by decide) (by decide) (by decide) []
    .consumer
  exact ⟨hpos, hsupply, hsupply ▸ hwoken, hmoved⟩

/-- Two consumers wait at one queue and two items lie in another one. The consumer that waits
longer gives up: it is not counted any more, and has not left the line when the items arrive. -/
def givesUpWhileItemsArrive : List (Event Nat Unit) :=
  [.addQueue 0, .addQueue 0, .call 1 (.pop none), .turn 0, .call 1 (.pop none), .turn 1,
    .call 0 (.push 7), .turn 2, .call 0 (.push 8), .turn 3, .withdraw 0 false, .move 0 1]

/-- Only one consumer is counted when the two items arrive, and the wake-up for it reaches the one
that gives up. So there are more items than calls were woken, and a consumer is left parked, up to
the moment at which the other one leaves the line and passes its wake-up on. -/
theorem parked_until_wakeup_is_passed_on :
    let s := (after givesUpWhileItemsArrive).system
    (s.queue 1).Serves ∧ s.tally .consumer (Stage.isParked 1) = 1 ∧
      (s.queue 1).supply .consumer = 2 ∧ s.tally .consumer (Stage.isWoken 1) = 1 ∧
      ¬ (s.queue 1).supply .consumer ≤ s.tally .consumer (Stage.isWoken 1) ∧
      s.tally .consumer (Stage.isPassing 1) = 1 ∧
      (after (givesUpWhileItemsArrive ++ [.depart 0])).system.tally .consumer
        (Stage.isParked 1) = 0 := by
  exact ⟨⟨by decide, by decide⟩, by decide, by decide, by decide, by decide, by decide, by decide⟩

end Course

end Diameter.Queue
