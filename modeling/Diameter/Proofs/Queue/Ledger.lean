import Diameter.Proofs.Queue.Hops
import Diameter.Proofs.Queue.Supply

/-!
# What one event makes of a queue

Who stands in line, and whether a permit is left, decides who goes on next. It decides
nothing about what a queue holds and shows, or how many wait there. The ledger of a queue is
the queue without its lines and permits. An event takes one call out of a count, or is, for
the ledger of each queue, one of ten changes. What holds of the figures of all queues is
shown for these.
-/

namespace Diameter.Queue

variable {α η : Type}

/-- How many wait, without who they are. -/
def Waiting.tallied (w : Waiting) : Waiting := ⟨[], false, w.count⟩

/-- A queue without its lines and permits. -/
def ledger (x : Queue α η) : Queue α η :=
  { x with consumers := x.consumers.tallied, producers := x.producers.tallied }

/-- The queue after a crossing that moved its watermark, if there was one. -/
def remarked (x : Queue α η) (moved : Option (Watermark η)) : Queue α η :=
  { x with watermark := moved.or x.watermark }

/-- The queue after items arrived behind its own. -/
def extended (x : Queue α η) (items : List α) : Queue α η :=
  let depth := (x.items ++ items).length
  { x with
    items := x.items ++ items
    highestEver := max x.highestEver depth
    shownDepth := depth }

/-- The queue after its items have gone to another one. -/
def vacated (x : Queue α η) (target : QueueId) : Queue α η :=
  { x with items := [], redirect := some target, shownDepth := 0 }

/-- The queue after one more call waits at a side. -/
def joined (x : Queue α η) (side : Side) : Queue α η :=
  x.setWaiting side (x.waiting side).takePermit

/-- The queue after one call less waits at a side. -/
def resumed (x : Queue α η) (side : Side) : Queue α η :=
  x.setWaiting side (x.waiting side).resume

/-! ## Ledgers -/

/-- The ledger has the count of a line, and not who is in it. -/
@[simp]
theorem ledger_setWaiting (x : Queue α η) (side : Side) (w : Waiting) :
    (x.setWaiting side w).ledger = x.ledger.setWaiting side w.tallied := by
  cases side <;> rfl

/-- The count of a line can be read from the ledger. -/
@[simp]
theorem waiting_ledger (x : Queue α η) (side : Side) :
    x.ledger.waiting side = (x.waiting side).tallied := by
  cases side <;> rfl

theorem setWaiting_waiting (x : Queue α η) (side : Side) :
    x.setWaiting side (x.waiting side) = x := by
  cases side <;> rfl

/-- A line whose count stays is not seen in the ledger. -/
theorem ledger_setWaiting_of_count (x : Queue α η) {side : Side} {w : Waiting}
    (h : w.count = (x.waiting side).count) : (x.setWaiting side w).ledger = x.ledger := by
  rw [ledger_setWaiting, ← setWaiting_waiting x.ledger side, Waiting.tallied, h, waiting_ledger]
  cases side <;> rfl

/-- A call that goes on is counted off in the ledger. -/
theorem ledger_resumed (x : Queue α η) (side : Side) :
    (x.resumed side).ledger = x.ledger.resumed side := by
  rw [resumed, ledger_setWaiting, resumed, waiting_ledger]
  rfl

/-- A queue without those who wait there. -/
def contents (x : Queue α η) : Queue α η := { x with consumers := .none, producers := .none }

/-- The contents are part of the ledger. -/
theorem contents_eq_of_ledger {x y : Queue α η} (h : y.ledger = x.ledger) :
    y.contents = x.contents := by
  have hl : y.ledger.contents = x.ledger.contents := by rw [h]
  exact hl

theorem contents_setWaiting (x : Queue α η) (side : Side) (w : Waiting) :
    (x.setWaiting side w).contents = x.contents := by
  cases side <;> rfl

/-! ## Changes -/

/-- What an event that takes nobody out of a count makes of one queue. -/
inductive Change : Queue α η → Queue α η → Prop
  /-- Nothing that can be seen. -/
  | same {x} : Change x x
  /-- The queue is made. -/
  | made {capacity} : Change (.new 0) (.new capacity)
  /-- An item is stored. -/
  | stored {x item} (hs : x.Serves) (hf : x.isFull = false) :
      Change x ((x.append item).remarked (x.watermark.bind (·.crossUp (x.items.length + 1))))
  /-- An item is taken. -/
  | taken {x item rest} (hl : x.lifecycle = .usable) (hi : x.items = item :: rest) :
      Change x ((x.withoutHead rest).remarked (x.watermark.bind (·.crossDown rest.length)))
  /-- The items of another queue arrive. -/
  | received {x items} (hs : x.Serves)
      (hf : 0 < x.capacity → x.items.length + items.length ≤ x.capacity) :
      Change x ((x.extended items).remarked
        (x.watermark.bind (·.absorb (x.items ++ items).length)))
  /-- The items go to another queue, which serves from now on. -/
  | vacated {x target} (hs : x.Serves) (hw : x.watermark = none) (hp : x.producers.count = 0) :
      Change x (x.vacated target)
  /-- A handler is attached. -/
  | attached {x high low handler} (hr : x.lifecycle = .usable → x.redirect = none)
      (hn : x.watermark = none) (hw : low < high) :
      Change x { x with watermark := some ⟨high, low, 0, handler⟩ }
  /-- The handler is detached. -/
  | detached {x} : Change x { x with watermark := none }
  /-- The queue refuses from now on. -/
  | closed {x} (hl : x.lifecycle = .usable) (hi : x.items = []) (hw : x.watermark = none) :
      Change x { x with lifecycle := .destroyed, redirect := none }
  /-- A call waits. -/
  | joined {x side} (hs : x.Serves) : Change x (x.joined side)

namespace System

/-! ## What the ledgers see -/

theorem queue_setStage (s : System α η) (c : CallerId) (stage : Stage α) (q : QueueId) :
    (s.setStage c stage).queue q = s.queue q := rfl

/-- The outline tells how many queues there are. -/
theorem length_queues_of_outline {s t : System α η} (h : t.outline = s.outline) :
    t.queues.length = s.queues.length := by
  rw [← length_faces_outline, h, length_faces_outline]

/-- A line that was changed and whose count stays is not seen. -/
theorem ledger_modifyWaiting (s : System α η) (q p : QueueId) (side : Side)
    {f : Waiting → Waiting} (hf : ∀ w, (f w).count = w.count) :
    ((s.modifyWaiting q side f).queue p).ledger = (s.queue p).ledger := by
  rw [modifyWaiting, queue_modifyQueue]
  split_ifs
  · exact ledger_setWaiting_of_count _ (hf _)
  · rfl

@[simp]
theorem ledger_wakeOne (s : System α η) (q p : QueueId) (side : Side) :
    ((s.wakeOne q side).queue p).ledger = (s.queue p).ledger := by
  unfold wakeOne
  dsimp only
  split
  · rw [queue_wake, ledger_modifyWaiting s q p side count_wakeOne]
  · rw [ledger_modifyWaiting s q p side count_wakeOne]

@[simp]
theorem ledger_wakeAll (s : System α η) (q p : QueueId) (side : Side) :
    ((s.wakeAll q side).queue p).ledger = (s.queue p).ledger := by
  rw [wakeAll, queue_wakeEach]
  exact ledger_modifyWaiting s q p side fun _ => rfl

@[simp]
theorem ledger_wakeTimes (s : System α η) (q p : QueueId) (side : Side) (n : Nat) :
    ((s.wakeTimes q side n).queue p).ledger = (s.queue p).ledger := by
  induction n generalizing s with
  | zero => rfl
  | succ n ih => rw [wakeTimes, ih, ledger_wakeOne]

/-- A reported crossing moves the watermark. -/
theorem ledger_report (s : System α η) {q : QueueId} (hq : q < s.queues.length) (p : QueueId)
    (level : Level) (moved : Option (Watermark η)) :
    ((s.report q level moved).1.queue p).ledger =
      if p = q then (s.queue q).ledger.remarked moved else (s.queue p).ledger := by
  cases moved with
  | none =>
    split_ifs with hp
    · rw [hp]
      rfl
    · rfl
  | some w =>
    simp only [report]
    rw [queue_modifyQueue]
    by_cases hp : p = q
    · subst hp
      rw [if_pos ⟨rfl, hq⟩, if_pos rfl]
      rfl
    · rw [if_neg fun h => hp h.1.symm, if_neg hp]

/-- The ledger of a queue after it was changed in its place. -/
theorem ledger_modifyQueue (s : System α η) {q : QueueId} (hq : q < s.queues.length)
    (p : QueueId) (f : Queue α η → Queue α η) : ((s.modifyQueue q f).queue p).ledger =
      if p = q then (f (s.queue q)).ledger else (s.queue p).ledger := by
  rw [queue_modifyQueue]
  by_cases hp : p = q
  · subst hp
    rw [if_pos ⟨rfl, hq⟩, if_pos rfl]
  · rw [if_neg fun h => hp h.1.symm, if_neg hp]

/-- One queue was changed in its place, wake-ups followed, and a crossing was reported. -/
theorem ledger_reported {s t : System α η} {q : QueueId} (hq : q < s.queues.length)
    {f : Queue α η → Queue α η} (ho : t.outline = (s.modifyQueue q f).outline)
    (hl : ∀ p, (t.queue p).ledger = ((s.modifyQueue q f).queue p).ledger) (level : Level)
    (moved : Option (Watermark η)) (p : QueueId) : ((t.report q level moved).1.queue p).ledger =
      if p = q then (f (s.queue q)).ledger.remarked moved else (s.queue p).ledger := by
  have hlength : t.queues.length = s.queues.length := by
    rw [length_queues_of_outline ho, modifyQueue, List.length_modify]
  rw [ledger_report t (hlength ▸ hq), hl, hl, ledger_modifyQueue s hq, ledger_modifyQueue s hq,
    if_pos rfl]
  split_ifs <;> rfl

/-- Storing adds an item to one ledger and moves its watermark if a crossing is reported. -/
theorem ledger_store (s : System α η) {q : QueueId} (hq : q < s.queues.length) (p : QueueId)
    (item : α) : ((s.store q item).1.queue p).ledger =
      if p = q then ((s.queue q).ledger.append item).remarked
        ((s.queue q).watermark.bind (·.crossUp ((s.queue q).items.length + 1)))
      else (s.queue p).ledger := by
  unfold store
  dsimp only
  refine ledger_reported (f := (·.append item)) hq ?_ (fun p => ?_) _ _ p
  · split_ifs <;> simp only [outline_wakeOne]
  · split_ifs <;> simp only [ledger_wakeOne]

/-- Taking removes an item from one ledger and moves its watermark if a crossing is reported. -/
theorem ledger_takeHead (s : System α η) {q : QueueId} (hq : q < s.queues.length) (p : QueueId)
    (rest : List α) : ((s.takeHead q rest).1.queue p).ledger =
      if p = q then ((s.queue q).ledger.withoutHead rest).remarked
        ((s.queue q).watermark.bind (·.crossDown rest.length))
      else (s.queue p).ledger := by
  unfold takeHead
  dsimp only
  refine ledger_reported (f := (·.withoutHead rest)) hq ?_ (fun p => ?_) _ _ p
  · split_ifs <;> simp only [outline_wakeOne]
  · split_ifs <;> simp only [ledger_wakeOne]

/-- Waiting, and going on, has nothing to do with the contents of a queue. -/
theorem contents_modifyWaiting (s : System α η) (q p : QueueId) (side : Side)
    (f : Waiting → Waiting) :
    ((s.modifyWaiting q side f).queue p).contents = (s.queue p).contents := by
  rw [modifyWaiting, queue_modifyQueue]
  split_ifs
  · exact contents_setWaiting _ _ _
  · rfl

theorem contents_suspend (s : System α η) (q p : QueueId) (side : Side) (c : CallerId) :
    ((s.suspend q side c).queue p).contents = (s.queue p).contents := by
  unfold suspend
  split_ifs
  · rw [queue_setStage, contents_modifyWaiting]
  · rw [queue_setStage, contents_modifyWaiting]

/-- Leaving the line, or passing a wake-up on, is not seen. -/
theorem ledger_depart (s : System α η) (c : CallerId) (p : QueueId) :
    ((s.depart c).queue p).ledger = (s.queue p).ledger := by
  unfold depart
  split
  · dsimp only
    split
    · exact ledger_modifyWaiting (s.setStage c _) _ p _ fun _ => rfl
    · exact ledger_wakeOne (s.setStage c _) _ p _
    · rfl
  · rfl

/-! ## Events that leave the contents alone -/

/-- An event leaves the contents of every queue alone, and reports no crossing. -/
structure Keeps (s : System α η) (e : Event α η) : Prop where
  /-- Items, capacity, lifecycle, redirect, greatest depth, handler and last crossing stay. -/
  contents : ∀ q, ((s.perform e).system.queue q).contents = (s.queue q).contents
  /-- Nobody is told about a crossing. -/
  crossing : (s.perform e).crossing = none

/-- What is as it was is kept. -/
theorem keeps_of_eq {s : System α η} {e : Event α η} (h : s.perform e = s.quietly) :
    s.Keeps e where
  contents q := by rw [h]; rfl
  crossing := by rw [h]; rfl

/-- An event that reports nothing keeps the contents if its state does. -/
theorem keeps_of_quietly {s t : System α η} {e : Event α η} (h : s.perform e = t.quietly)
    (ht : ∀ q, (t.queue q).contents = (s.queue q).contents) : s.Keeps e where
  contents q := by rw [h]; exact ht q
  crossing := by rw [h]; rfl

/-- To make a call has nothing to do with the contents of a queue. -/
theorem keeps_call (s : System α η) (handle : QueueId) (r : Request α) :
    s.Keeps (.call handle r) := by
  by_cases hq : handle < s.queues.length
  · exact keeps_of_quietly (t := (s.addCaller handle r).2) (by simp only [perform, if_pos hq])
      fun q => congrArg Queue.contents (queue_addCaller s handle r q)
  · exact keeps_of_eq (by simp only [perform, if_neg hq])

/-- Nor has giving it up, at whatever stage it is. -/
theorem keeps_abandon (s : System α η) (c : CallerId) : s.Keeps (.abandon c) := by
  refine keeps_of_quietly rfl fun q => ?_
  unfold abandon
  split <;> rfl

theorem keeps_withdraw (s : System α η) (c : CallerId) (late : Bool) :
    s.Keeps (.withdraw c late) := by
  by_cases hl : (late && !s.isTimed c) = true
  · exact keeps_of_eq (by simp only [perform, if_pos hl])
  · refine keeps_of_quietly (t := s.withdraw c late) (by simp only [perform, if_neg hl]) fun q => ?_
    unfold withdraw
    split
    · exact contents_modifyWaiting s _ q _ (·.resume)
    · exact contents_modifyWaiting s _ q _ (·.resume)
    · rfl

theorem keeps_depart (s : System α η) (c : CallerId) : s.Keeps (.depart c) :=
  keeps_of_quietly rfl fun q => contents_eq_of_ledger (ledger_depart s c q)

/-- Nor has waking those who wait. -/
theorem keeps_wakeAll (s : System α η) (q : QueueId) (side : Side) : s.Keeps (.wakeAll q side) := by
  by_cases hl : (s.queue q).lifecycle = .destroyed
  · exact keeps_of_quietly (t := s.wakeAll q side) (by simp only [perform, if_pos hl])
      fun p => contents_eq_of_ledger (ledger_wakeAll s q p side)
  · exact keeps_of_eq (by simp only [perform, if_neg hl])

/-! ## Every event is a change, or takes a call out of a count -/

/-- The queue and the side at which an event takes a call out of the count. -/
def uncounts? (s : System α η) : Event α η → Option (QueueId × Side)
  | .turn c =>
    match s.callers[c]? with
    | some ⟨r, .woken q _⟩ => some (q, r.side)
    | _ => none
  | .withdraw c late =>
    if late && !s.isTimed c then none
    else
      match s.callers[c]? with
      | some ⟨r, .parked q⟩ | some ⟨r, .woken q _⟩ => some (q, r.side)
      | _ => none
  | _ => none

/-- What an event makes of a queue. -/
def Alters (s : System α η) (e : Event α η) (q : QueueId) : Prop :=
  ((∀ side, s.uncounts? e ≠ some (q, side)) ∧
    Change (s.queue q).ledger ((s.perform e).system.queue q).ledger) ∨
  ∃ side, s.uncounts? e = some (q, side) ∧
    ((s.perform e).system.queue q).ledger = (s.queue q).ledger.resumed side

/-- An event of which nobody is counted off alters a queue as its ledger says. -/
theorem alters_of_change {s : System α η} {e : Event α η} {q : QueueId}
    (he : s.uncounts? e = none)
    (h : Change (s.queue q).ledger ((s.perform e).system.queue q).ledger) : s.Alters e q :=
  .inl ⟨fun side => by simp [he], h⟩

/-- One queue was changed in its place. -/
theorem change_of_place {s t : System α η} {q : QueueId} {y : Queue α η}
    (ht : ∀ p, (t.queue p).ledger = if p = q then y else (s.queue p).ledger)
    (h : Change (s.queue q).ledger y) (p : QueueId) :
    Change (s.queue p).ledger (t.queue p).ledger := by
  rw [ht]
  split_ifs with hp
  · rw [hp]
    exact h
  · exact .same

/-- A queue that exists or not was changed in its place. -/
theorem change_modifyQueue (s : System α η) {q : QueueId} {f : Queue α η → Queue α η}
    (h : Change (s.queue q).ledger (f (s.queue q)).ledger) (p : QueueId) :
    Change (s.queue p).ledger ((s.modifyQueue q f).queue p).ledger := by
  by_cases hq : q < s.queues.length
  · exact change_of_place (fun p => ledger_modifyQueue s hq p f) h p
  · have hnone : s.modifyQueue q f = s := by
      rw [modifyQueue, List.modify_eq_self (Nat.le_of_not_lt hq)]
    rw [hnone]
    exact .same

/-- A call that has to wait does so where calls wait. -/
theorem change_suspend (s : System α η) {q : QueueId} (hs : (s.queue q).Serves) (side : Side)
    (c : CallerId) (p : QueueId) :
    Change (s.queue p).ledger ((s.suspend q side c).queue p).ledger := by
  unfold suspend
  split_ifs
  · refine change_modifyQueue s ?_ p
    rw [ledger_setWaiting, show (((s.queue q).waiting side).takePermit).tallied =
      ((s.queue q).ledger.waiting side).takePermit by rw [waiting_ledger]; rfl]
    exact .joined hs
  · refine change_modifyQueue s ?_ p
    rw [ledger_setWaiting, show (((s.queue q).waiting side).park c).tallied =
      ((s.queue q).ledger.waiting side).takePermit by rw [waiting_ledger]; rfl]
    exact .joined hs

/-- A call looks at a queue. -/
theorem change_examine (s : System α η) (c : CallerId) (r : Request α) {q : QueueId}
    (hq : q < s.queues.length) (p : QueueId) :
    Change (s.queue p).ledger ((s.examine c r q).1.queue p).ledger := by
  unfold examine
  dsimp only
  split
  · exact .same
  · exact .same
  · exact .same
  · next item hl hr =>
    split_ifs with hf
    · exact change_suspend s ⟨hl, hr⟩ .producer c p
    · refine change_of_place (fun p => ledger_store (s.setStage c _) hq p item) ?_ p
      exact .stored (x := (s.queue q).ledger) ⟨hl, hr⟩ (Bool.eq_false_iff.mpr hf)
  · next deadline hl hr =>
    cases hi : (s.queue q).items with
    | nil => exact change_suspend s ⟨hl, hr⟩ .consumer c p
    | cons item rest =>
      refine change_of_place (fun p => ledger_takeHead (s.setStage c _) hq p rest) ?_ p
      exact .taken (x := (s.queue q).ledger) hl hi

/-- A call leaves the count. -/
theorem ledger_leaves (s : System α η) {q : QueueId} (hq : q < s.queues.length) (side : Side)
    (c : CallerId) (stage : Stage α) (p : QueueId) :
    (((s.modifyWaiting q side (·.resume)).setStage c stage).queue p).ledger =
      if p = q then (s.queue q).ledger.resumed side else (s.queue p).ledger := by
  rw [queue_setStage, modifyWaiting, ledger_modifyQueue s hq, ← ledger_resumed]
  rfl

/-- An event that takes a call out of the count at one queue leaves the others alone. -/
theorem alters_of_leaves {s : System α η} {e : Event α η} (q : QueueId) (side : Side)
    (he : s.uncounts? e = some (q, side))
    (h : ∀ p, ((s.perform e).system.queue p).ledger =
      if p = q then (s.queue q).ledger.resumed side else (s.queue p).ledger) (p : QueueId) :
    s.Alters e p := by
  by_cases hp : p = q
  · subst hp
    refine .inr ⟨side, he, ?_⟩
    rw [h, if_pos rfl]
  · refine .inl ⟨fun d hd => ?_, ?_⟩
    · rw [he] at hd
      cases hd
      exact hp rfl
    · rw [h, if_neg hp]
      exact .same

/-- The queue of a call that is parked, was woken or looks at it exists. -/
theorem lt_length_of_facing {s : System α η} (hr : s.outline.InRange) {c : CallerId}
    {r : Request α} {stage : Stage α} (hc : s.callers[c]? = some ⟨r, stage⟩) {q : QueueId}
    (hs : stage.spot = .facing q) : q < s.queues.length := by
  rw [← length_faces_outline]
  refine hr.facing (c := c) (r := r) ?_
  rw [outline_calls_getElem?, hc, Option.map_some, hs]

theorem alters_turn {s : System α η} (hr : s.outline.InRange) (c : CallerId) (p : QueueId) :
    s.Alters (.turn c) p := by
  rcases hc : s.callers[c]? with _ | ⟨r, stage⟩
  · refine alters_of_change (by simp only [uncounts?, hc]) ?_
    simp only [perform, turn, hc]
    exact .same
  · cases stage with
    | ready q recalled =>
      refine alters_of_change (by simp only [uncounts?, hc]) ?_
      simp only [perform, turn, hc]
      exact change_examine s c r (lt_length_of_facing hr hc rfl) p
    | woken q cause =>
      refine alters_of_leaves q r.side (by simp only [uncounts?, hc])
        (fun p => ?_) p
      simp only [perform, turn, hc]
      exact ledger_leaves s (lt_length_of_facing hr hc rfl) r.side c _ p
    | _ =>
      refine alters_of_change (by simp only [uncounts?, hc]) ?_
      simp only [perform, turn, hc]
      exact .same

theorem alters_withdraw {s : System α η} (hr : s.outline.InRange) (c : CallerId) (late : Bool)
    (p : QueueId) : s.Alters (.withdraw c late) p := by
  by_cases hl : (late && !s.isTimed c) = true
  · refine alters_of_change (by simp only [uncounts?, if_pos hl]) ?_
    simp only [perform, if_pos hl]
    exact .same
  · rcases hc : s.callers[c]? with _ | ⟨r, stage⟩
    · refine alters_of_change (by simp only [uncounts?, if_neg hl, hc]) ?_
      simp only [perform, if_neg hl, withdraw, hc]
      exact .same
    · cases stage with
      | parked q =>
        refine alters_of_leaves q r.side
          (by simp only [uncounts?, if_neg hl, hc]) (fun p => ?_) p
        simp only [perform, if_neg hl, withdraw, hc]
        exact ledger_leaves s (lt_length_of_facing hr hc rfl) r.side c _ p
      | woken q cause =>
        refine alters_of_leaves q r.side
          (by simp only [uncounts?, if_neg hl, hc]) (fun p => ?_) p
        simp only [perform, if_neg hl, withdraw, hc]
        exact ledger_leaves s (lt_length_of_facing hr hc rfl) r.side c _ p
      | _ =>
        refine alters_of_change (by simp only [uncounts?, if_neg hl, hc]) ?_
        simp only [perform, if_neg hl, withdraw, hc]
        exact .same

/-- A handler is attached to a queue that no other one serves instead of. -/
theorem change_attach {s : System α η} (ht : s.outline.Tame) (handle : QueueId) {high low : Nat}
    (handler : η) (hw : low < high)
    (hn : (s.queue (s.serving handle)).watermark = none) (p : QueueId) :
    Change (s.queue p).ledger ((s.modifyQueue (s.serving handle) fun x =>
      { x with watermark := some ⟨high, low, 0, handler⟩ }).queue p).ledger := by
  refine change_modifyQueue s ?_ p
  refine Change.attached (x := (s.queue (s.serving handle)).ledger) (fun hl => ?_) ?_ hw
  · by_contra hr
    obtain ⟨target, htarget⟩ := Option.ne_none_iff_exists'.mp hr
    exact (endsAt_serving ht handle).2 target ((s.edge_iff _ _).mpr ⟨hl, htarget⟩)
  · exact hn

/-- What can be moved has no watermark and fits into the target. -/
theorem fits_of_moveObstacle {s : System α η} {source target : QueueId}
    (h : s.moveObstacle source target = none) : (s.queue source).watermark = none ∧
      (0 < (s.queue target).capacity →
        (s.queue target).items.length + (s.queue source).items.length ≤
          (s.queue target).capacity) := by
  unfold moveObstacle at h
  dsimp only at h
  split_ifs at h with hn hl hr hw hp hf
  exact ⟨Option.not_isSome_iff_eq_none.mp hw, fun hc => by omega⟩

/-- A queue is moved: the target receives the items that the source loses. -/
theorem ledger_move {s after : System α η} {source target : QueueId}
    {crossing : Option (Crossing η)} (hs : source < s.queues.length)
    (ht : target < s.queues.length) (hm : s.move source target = (.ok (), after, crossing))
    (p : QueueId) : (after.queue p).ledger =
      if p = target then ((s.queue target).ledger.extended (s.queue source).items).remarked
        ((s.queue target).watermark.bind
          (·.absorb ((s.queue target).items ++ (s.queue source).items).length))
      else if p = source then (s.queue source).ledger.vacated target
      else (s.queue p).ledger := by
  have ho := moveObstacle_of_move hm
  obtain ⟨hn, -, -, -⟩ := moveObstacle_eq_none ho
  have hafter := congrArg Prod.fst (eq_of_move hm)
  dsimp only [spliced] at hafter
  let mid := s.modifyQueue target fun x => { x with
    items := (s.queue target).items ++ (s.queue source).items
    highestEver := max x.highestEver ((s.queue target).items ++ (s.queue source).items).length
    shownDepth := ((s.queue target).items ++ (s.queue source).items).length }
  have hlength : mid.queues.length = s.queues.length := by
    simp only [mid, modifyQueue, List.length_modify]
  have hlength' : (mid.modifyQueue source (·.vacated target)).queues.length =
      s.queues.length := by
    rw [modifyQueue, List.length_modify, hlength]
  have htarget : (mid.queue target).ledger =
      (s.queue target).ledger.extended (s.queue source).items := by
    rw [ledger_modifyQueue s ht, if_pos rfl]
    rfl
  rw [← hafter, ledger_report _ ?_]
  · simp only [ledger_wakeAll, ledger_wakeTimes]
    have hvacated (p : QueueId) := ledger_modifyQueue mid (hlength ▸ hs) p (·.vacated target)
    by_cases hpt : p = target
    · subst hpt
      rw [if_pos rfl, if_pos rfl]
      have hextended : ((mid.modifyQueue source (·.vacated p)).queue p).ledger =
          (s.queue p).ledger.extended (s.queue source).items := by
        rw [hvacated, if_neg hn.symm, htarget]
      exact congrArg (fun x : Queue α η => x.remarked _) hextended
    · rw [if_neg hpt, if_neg hpt]
      refine (hvacated p).trans ?_
      by_cases hps : p = source
      · subst hps
        rw [if_pos rfl, if_pos rfl, queue_modifyQueue, if_neg fun h => hpt h.1.symm]
        rfl
      · rw [if_neg hps, if_neg hps, ledger_modifyQueue s ht, if_neg hpt]
  · rw [length_queues_of_outline (outline_wakeAll _ _ _),
      length_queues_of_outline (outline_wakeTimes _ _ _ _)]
    exact hlength' ▸ ht

/-- A queue that is moved is vacated, and its target receives. -/
theorem change_move {s after : System α η} {source target : QueueId}
    {crossing : Option (Crossing η)} (hs : source < s.queues.length)
    (ht : target < s.queues.length) (hm : s.move source target = (.ok (), after, crossing))
    (p : QueueId) : Change (s.queue p).ledger (after.queue p).ledger := by
  have ho := moveObstacle_of_move hm
  obtain ⟨-, hl, hr, hcount⟩ := moveObstacle_eq_none ho
  obtain ⟨hwatermark, hfits⟩ := fits_of_moveObstacle ho
  rw [ledger_move hs ht hm]
  split_ifs with hpt hps
  · subst hpt
    exact .received (x := (s.queue p).ledger) ⟨hl.2, hr.2⟩ hfits
  · subst hps
    exact .vacated (x := (s.queue p).ledger) ⟨hl.1, hr.1⟩ hwatermark hcount
  · exact .same

/-- A new queue is empty. -/
theorem change_addQueue (s : System α η) (capacity : Nat) (p : QueueId) :
    Change (s.queue p).ledger ((s.addQueue capacity).2.queue p).ledger := by
  simp only [addQueue, queue, List.getD_eq_getElem?_getD, List.getElem?_append]
  split_ifs with hp
  · exact .same
  · rw [List.getElem?_eq_none (Nat.le_of_not_lt hp), List.getElem?_singleton]
    split_ifs
    · exact .made
    · exact .same

/-- Every event is a change of each queue, or takes a call out of its count. -/
theorem alters_perform {s : System α η} (hr : s.outline.InRange) (ht : s.outline.Tame)
    (e : Event α η) (p : QueueId) : s.Alters e p := by
  cases e with
  | addQueue capacity => exact alters_of_change rfl (change_addQueue s capacity p)
  | call handle r =>
    refine alters_of_change rfl ?_
    simp only [perform]
    split_ifs
    · rw [quietly, queue_addCaller]
      exact .same
    · exact .same
  | turn c => exact alters_turn hr c p
  | abandon c =>
    refine alters_of_change rfl ?_
    simp only [perform, quietly, abandon]
    split <;> exact .same
  | withdraw c late => exact alters_withdraw hr c late p
  | depart c =>
    refine alters_of_change rfl ?_
    simp only [perform, quietly, ledger_depart]
    exact .same
  | tryPop handle =>
    refine alters_of_change rfl ?_
    simp only [perform, tryPop]
    cases hl : (s.queue (s.serving handle)).lifecycle with
    | destroyed => exact .same
    | usable =>
      cases hi : (s.queue (s.serving handle)).items with
      | nil => exact .same
      | cons item rest =>
        have hq := lt_length_of_items hi
        refine change_of_place (fun p => ledger_takeHead s hq p rest) ?_ p
        exact .taken (x := (s.queue (s.serving handle)).ledger) hl hi
  | setThresholds handle high low handler =>
    refine alters_of_change rfl ?_
    simp only [perform, quietly]
    rcases hset : s.setThresholds handle high low handler with ⟨e | done, after⟩
    · obtain rfl := setThresholds_error_eq hset
      exact .same
    · obtain ⟨hw, hn, rfl⟩ := of_setThresholds hset
      exact change_attach ht handle handler hw hn p
  | clearThresholds handle =>
    exact alters_of_change rfl
      (change_modifyQueue s (.detached (x := (s.queue (s.serving handle)).ledger)) p)
  | move source target =>
    refine alters_of_change rfl ?_
    simp only [perform]
    split_ifs with hq
    · rcases hm : s.move source target with ⟨e | done, after, crossing⟩
      · obtain ⟨rfl, -⟩ := move_error_eq hm
        exact .same
      · exact change_move hq.1 hq.2 hm p
    · exact .same
  | close q =>
    refine alters_of_change rfl ?_
    simp only [perform, quietly]
    rcases hc : s.close q with ⟨e | done, after⟩
    · obtain rfl := close_error_eq hc
      exact .same
    · obtain ⟨hl, hi, hw, rfl⟩ := of_close hc
      exact change_modifyQueue s (.closed (x := (s.queue q).ledger) hl hi hw) p
  | wakeAll q side =>
    refine alters_of_change rfl ?_
    simp only [perform]
    split_ifs
    · simp only [quietly, ledger_wakeAll]
      exact .same
    · exact .same

end System

end Diameter.Queue
