import Mathlib.Tactic.Common
import Diameter.Proofs.Queue.Exits

/-!
# Other items

Queues never look into an item. A system whose items are replaced does the same with the
replaced items: the same calls wait, are woken and fail, and the same crossings are
reported.
-/

namespace Diameter.Queue

variable {α β η : Type}

/-- The request with its item replaced. -/
def Request.map (f : α → β) : Request α → Request β
  | .push item => .push (f item)
  | .pop deadline => .pop deadline

/-- The outcome with its item replaced. -/
def Outcome.map (f : α → β) : Outcome α → Outcome β
  | .stored => .stored
  | .refused item error => .refused (f item) error
  | .took item => .took (f item)
  | .failed error => .failed error

/-- The stage with its item replaced. -/
def Stage.map (f : α → β) : Stage α → Stage β
  | .ready q recalled => .ready q recalled
  | .parked q => .parked q
  | .woken q cause => .woken q cause
  | .leaving q cause late => .leaving q cause late
  | .ended outcome => .ended (outcome.map f)
  | .dropped => .dropped

/-- The call with its item replaced. -/
def Caller.map (f : α → β) (c : Caller α) : Caller β := ⟨c.request.map f, c.stage.map f⟩

/-- The queue with its items replaced. -/
def map (f : α → β) (q : Queue α η) : Queue β η :=
  ⟨q.lifecycle, q.items.map f, q.capacity, q.consumers, q.producers, q.watermark,
    q.highestEver, q.redirect, q.shownDepth⟩

/-- The event with its item replaced. -/
def Event.map (f : α → β) : Event α η → Event β η
  | .addQueue capacity => .addQueue capacity
  | .call handle request => .call handle (request.map f)
  | .turn caller => .turn caller
  | .abandon caller => .abandon caller
  | .withdraw caller late => .withdraw caller late
  | .depart caller => .depart caller
  | .tryPop handle => .tryPop handle
  | .setThresholds handle high low handler => .setThresholds handle high low handler
  | .clearThresholds handle => .clearThresholds handle
  | .move source target => .move source target
  | .close queue => .close queue
  | .wakeAll queue side => .wakeAll queue side

/-- The taking of the replaced item. -/
def Taking.map (f : α → β) (t : Taking α) : Taking β := ⟨t.caller, f t.item⟩

@[simp]
theorem Request.side_map (f : α → β) (r : Request α) : (r.map f).side = r.side := by
  cases r <;> rfl

@[simp]
theorem Request.deadline?_map (f : α → β) (r : Request α) : (r.map f).deadline? = r.deadline? := by
  cases r <;> rfl

theorem Stage.wake_map (f : α → β) (cause : WokenBy) (stage : Stage α) :
    (stage.map f).wake cause = (stage.wake cause).map f := by
  cases stage with
  | leaving q held late => cases held <;> rfl
  | _ => rfl

@[simp]
theorem isFull_map (f : α → β) (q : Queue α η) : (q.map f).isFull = q.isFull := by
  have hl : (q.map f).items.length = q.items.length := List.length_map _
  rw [isFull, isFull, hl]
  rfl

@[simp]
theorem waiting_map (f : α → β) (q : Queue α η) (side : Side) :
    (q.map f).waiting side = q.waiting side := by
  cases side <;> rfl

theorem setWaiting_map (f : α → β) (q : Queue α η) (side : Side) (w : Waiting) :
    (q.map f).setWaiting side w = (q.setWaiting side w).map f := by
  cases side <;> rfl

/-- Replacing every entry commutes with a change that does not look into them. -/
theorem modify_map {l : List α} {i : Nat} {f : α → β} {g : α → α} {g' : β → β}
    (h : ∀ x, g' (f x) = f (g x)) : (l.map f).modify i g' = (l.modify i g).map f := by
  apply List.ext_getElem?
  intro j
  rw [List.getElem?_modify, List.getElem?_map, List.getElem?_map, List.getElem?_modify]
  by_cases hj : i = j
  · cases l[j]? <;> simp [hj, h]
  · cases l[j]? <;> simp [hj]

/-- The system with its items replaced. -/
def System.map (f : α → β) (s : System α η) : System β η :=
  ⟨s.queues.map (Queue.map f), s.callers.map (Caller.map f), s.runnable⟩

/-- The effect with its items replaced. -/
def Effect.map (f : α → β) (e : Effect α η) : Effect β η :=
  ⟨e.system.map f, e.taken.map (Taking.map f), e.crossing⟩

namespace System

@[simp]
theorem queue_map (f : α → β) (s : System α η) (q : QueueId) :
    (s.map f).queue q = (s.queue q).map f := by
  simp only [queue, map, List.getD_eq_getElem?_getD, List.getElem?_map]
  cases s.queues[q]? <;> rfl

@[simp]
theorem callers_map (f : α → β) (s : System α η) (c : CallerId) :
    (s.map f).callers[c]? = s.callers[c]?.map (Caller.map f) := List.getElem?_map

@[simp]
theorem length_queues_map (f : α → β) (s : System α η) :
    (s.map f).queues.length = s.queues.length := List.length_map _

theorem quietly_map (f : α → β) (s : System α η) :
    (s.map f).quietly = s.quietly.map f := rfl

/-- A change of a queue commutes with the renaming if it does for every queue. -/
theorem modifyQueue_map {f : α → β} {g : Queue α η → Queue α η} {g' : Queue β η → Queue β η}
    (h : ∀ x, g' (x.map f) = (g x).map f) (s : System α η) (q : QueueId) :
    (s.map f).modifyQueue q g' = (s.modifyQueue q g).map f := by
  simp only [modifyQueue, map, modify_map h]

@[simp]
theorem modifyWaiting_map (f : α → β) (s : System α η) (q : QueueId) (side : Side)
    (g : Waiting → Waiting) :
    (s.map f).modifyWaiting q side g = (s.modifyWaiting q side g).map f := by
  apply modifyQueue_map
  intro x
  rw [waiting_map, setWaiting_map]

/-- A change of a call commutes with the renaming if it does for every stage. -/
theorem modifyStage_map {f : α → β} {g : Stage α → Stage α} {g' : Stage β → Stage β}
    (h : ∀ x, g' (x.map f) = (g x).map f) (s : System α η) (c : CallerId) :
    (s.map f).modifyStage c g' = (s.modifyStage c g).map f := by
  have hc : (s.callers.map (Caller.map f)).modify c
      (fun caller => { caller with stage := g' caller.stage }) =
        (s.callers.modify c fun caller => { caller with stage := g caller.stage }).map
          (Caller.map f) := by
    refine modify_map fun x => ?_
    simp only [Caller.map, h]
  simp only [modifyStage, map, hc]

theorem setStage_map {f : α → β} {stage : Stage α} {stage' : Stage β}
    (h : stage' = stage.map f) (s : System α η) (c : CallerId) :
    (s.map f).setStage c stage' = (s.setStage c stage).map f :=
  modifyStage_map (fun _ => h) s c

@[simp]
theorem schedule_map (f : α → β) (s : System α η) (c : CallerId) :
    (s.map f).schedule c = (s.schedule c).map f := by
  rw [schedule, schedule, apply_ite (map f)]
  rfl

@[simp]
theorem wake_map (f : α → β) (s : System α η) (cause : WokenBy) (c : CallerId) :
    (s.map f).wake cause c = (s.wake cause c).map f := by
  rw [wake, wake, modifyStage_map (Stage.wake_map f cause), schedule_map]

@[simp]
theorem wakeOne_map (f : α → β) (s : System α η) (q : QueueId) (side : Side) :
    (s.map f).wakeOne q side = (s.wakeOne q side).map f := by
  simp only [wakeOne, queue_map, waiting_map, modifyWaiting_map]
  split
  · rw [wake_map]
  · rfl

@[simp]
theorem wakeAll_map (f : α → β) (s : System α η) (q : QueueId) (side : Side) :
    (s.map f).wakeAll q side = (s.wakeAll q side).map f := by
  have hf (all : List CallerId) (s : System α η) :
      all.foldl (fun s c => s.wake .all c) (s.map f) =
        (all.foldl (fun s c => s.wake .all c) s).map f := by
    induction all generalizing s with
    | nil => rfl
    | cons c all ih => rw [List.foldl_cons, List.foldl_cons, wake_map, ih]
  rw [wakeAll, wakeAll, queue_map, waiting_map, modifyWaiting_map, hf]

@[simp]
theorem wakeTimes_map (f : α → β) (s : System α η) (q : QueueId) (side : Side) (n : Nat) :
    (s.map f).wakeTimes q side n = (s.wakeTimes q side n).map f := by
  induction n generalizing s with
  | zero => rfl
  | succ n ih => rw [wakeTimes, wakeTimes, wakeOne_map, ih]

theorem report_map (f : α → β) (s : System α η) (q : QueueId) (level : Level)
    (moved : Option (Watermark η)) :
    (s.map f).report q level moved =
      ((s.report q level moved).1.map f, (s.report q level moved).2) := by
  cases moved with
  | none => rfl
  | some w =>
    have hw : ((s.map f).modifyQueue q fun x => { x with watermark := some w }) =
        (s.modifyQueue q fun x => { x with watermark := some w }).map f :=
      modifyQueue_map (fun _ => by rfl) s q
    simp only [report, hw]

theorem store_map (f : α → β) (s : System α η) (q : QueueId) (item : α) :
    (s.map f).store q (f item) = ((s.store q item).1.map f, (s.store q item).2) := by
  have happend : (s.map f).modifyQueue q (·.append (f item)) =
      (s.modifyQueue q (·.append item)).map f := by
    refine modifyQueue_map (fun x => ?_) s q
    simp [append, Queue.map]
  unfold store
  dsimp only
  rw [happend, queue_map]
  simp only [Queue.map, List.length_map, wakeOne_map, ← apply_ite (map f), report_map]

theorem takeHead_map (f : α → β) (s : System α η) (q : QueueId) (rest : List α) :
    (s.map f).takeHead q (rest.map f) = ((s.takeHead q rest).1.map f, (s.takeHead q rest).2) := by
  have hrest : (s.map f).modifyQueue q (·.withoutHead (rest.map f)) =
      (s.modifyQueue q (·.withoutHead rest)).map f := by
    refine modifyQueue_map (fun x => ?_) s q
    simp [withoutHead, Queue.map]
  unfold takeHead
  dsimp only
  rw [hrest, queue_map]
  simp only [Queue.map, List.length_map, wakeOne_map, ← apply_ite (map f), report_map]

theorem suspend_map (f : α → β) (s : System α η) (q : QueueId) (side : Side) (c : CallerId) :
    (s.map f).suspend q side c = (s.suspend q side c).map f := by
  unfold suspend
  rw [queue_map, waiting_map]
  split_ifs
  · rw [modifyWaiting_map]
    exact setStage_map (by rfl) _ c
  · rw [modifyWaiting_map]
    exact setStage_map (by rfl) _ c

theorem examine_map (f : α → β) (s : System α η) (c : CallerId) (r : Request α) (q : QueueId) :
    (s.map f).examine c (r.map f) q = ((s.examine c r q).1.map f, (s.examine c r q).2) := by
  unfold examine
  dsimp only
  rw [queue_map, isFull_map]
  have hl : ((s.queue q).map f).lifecycle = (s.queue q).lifecycle := rfl
  have hr : ((s.queue q).map f).redirect = (s.queue q).redirect := rfl
  have hi : ((s.queue q).map f).items = (s.queue q).items.map f := rfl
  rw [hl, hr, hi]
  cases (s.queue q).lifecycle with
  | destroyed =>
    cases r with
    | push item => exact congrArg (·, none) (setStage_map (by rfl) s c)
    | pop deadline => exact congrArg (·, none) (setStage_map (by rfl) s c)
  | usable =>
    cases (s.queue q).redirect with
    | some target => exact congrArg (·, none) (setStage_map (by rfl) s c)
    | none =>
      cases r with
      | push item =>
        have hs : (s.map f).setStage c (.ended .stored) = (s.setStage c (.ended .stored)).map f :=
          setStage_map (by rfl) s c
        dsimp only [Request.map]
        split_ifs
        · rw [suspend_map]
        · rw [hs, store_map]
      | pop deadline =>
        dsimp only [Request.map]
        cases (s.queue q).items with
        | nil => exact congrArg (·, none) (suspend_map f s q .consumer c)
        | cons item rest =>
          have hs : (s.map f).setStage c (.ended (.took (f item))) =
              (s.setStage c (.ended (.took item))).map f := setStage_map (by rfl) s c
          rw [List.map_cons]
          dsimp only
          rw [hs, takeHead_map]

theorem turn_map (f : α → β) (s : System α η) (c : CallerId) :
    (s.map f).turn c = ((s.turn c).1.map f, (s.turn c).2) := by
  unfold turn
  rw [callers_map]
  rcases s.callers[c]? with _ | ⟨r, stage⟩
  · rfl
  · cases stage with
    | ready q recalled => exact examine_map f s c r q
    | woken q cause =>
      refine congrArg (·, none) ?_
      rw [Request.side_map, modifyWaiting_map]
      exact setStage_map (by rfl) _ c
    | _ => rfl

theorem withdraw_map (f : α → β) (s : System α η) (c : CallerId) (late : Bool) :
    (s.map f).withdraw c late = (s.withdraw c late).map f := by
  unfold withdraw
  rw [callers_map]
  rcases s.callers[c]? with _ | ⟨r, stage⟩
  · rfl
  · cases stage with
    | parked q =>
      dsimp only [Option.map_some, Caller.map, Stage.map]
      rw [Request.side_map, modifyWaiting_map]
      exact setStage_map (by rfl) _ c
    | woken q cause =>
      dsimp only [Option.map_some, Caller.map, Stage.map]
      rw [Request.side_map, modifyWaiting_map]
      exact setStage_map (by rfl) _ c
    | _ => rfl

theorem depart_map (f : α → β) (s : System α η) (c : CallerId) :
    (s.map f).depart c = (s.depart c).map f := by
  unfold depart
  rw [callers_map]
  rcases s.callers[c]? with _ | ⟨r, stage⟩
  · rfl
  · cases stage with
    | leaving q cause late =>
      dsimp only [Option.map_some, Caller.map, Stage.map]
      have hs : (s.map f).setStage c (if late then .ended (.failed .timeout) else .dropped) =
          (s.setStage c (if late then .ended (.failed .timeout) else .dropped)).map f := by
        refine setStage_map ?_ s c
        cases late <;> rfl
      rw [hs, Request.side_map]
      rcases cause with _ | _ | _
      · exact modifyWaiting_map ..
      · exact wakeOne_map ..
      · rfl
    | _ => rfl

theorem abandon_map (f : α → β) (s : System α η) (c : CallerId) :
    (s.map f).abandon c = (s.abandon c).map f := by
  unfold abandon
  rw [callers_map]
  rcases s.callers[c]? with _ | ⟨r, stage⟩
  · rfl
  · cases stage with
    | ready q recalled =>
      cases recalled
      · exact setStage_map (by rfl) s c
      · rfl
    | _ => rfl

theorem serving_map (f : α → β) (s : System α η) (q : QueueId) :
    (s.map f).serving q = s.serving q := by
  have hw (hops : Nat) (q : QueueId) :
      (s.map f).servingWithin hops q = s.servingWithin hops q := by
    induction hops generalizing q with
    | zero => rfl
    | succ hops ih =>
      unfold servingWithin
      rw [queue_map]
      simp only [Queue.map, ih]
  rw [serving, serving, length_queues_map, hw]

theorem tryPop_map (f : α → β) (s : System α η) (q : QueueId) :
    (s.map f).tryPop q =
      ((s.tryPop q).1.map f, (s.tryPop q).2.1.map f, (s.tryPop q).2.2) := by
  unfold tryPop
  dsimp only
  rw [serving_map, queue_map]
  have hl : ((s.queue (s.serving q)).map f).lifecycle = (s.queue (s.serving q)).lifecycle := rfl
  have hi : ((s.queue (s.serving q)).map f).items = (s.queue (s.serving q)).items.map f := rfl
  rw [hl, hi]
  cases (s.queue (s.serving q)).lifecycle with
  | destroyed => rfl
  | usable =>
    cases (s.queue (s.serving q)).items with
    | nil => rfl
    | cons item rest =>
      rw [List.map_cons]
      dsimp only
      rw [takeHead_map]
      rfl

theorem setThresholds_map (f : α → β) (s : System α η) (q : QueueId) (high low : Nat)
    (handler : η) :
    (s.map f).setThresholds q high low handler =
      Prod.map id (System.map f) (s.setThresholds q high low handler) := by
  have hw (w : Option (Watermark η)) (q : QueueId) :
      ((s.map f).modifyQueue q fun x => { x with watermark := w }) =
        (s.modifyQueue q fun x => { x with watermark := w }).map f :=
    modifyQueue_map (fun _ => by rfl) s q
  unfold setThresholds
  dsimp only
  have hm (x : Queue α η) : (x.map f).watermark = x.watermark := rfl
  rw [serving_map, queue_map, hw, hm]
  split_ifs <;> rfl

theorem clearThresholds_map (f : α → β) (s : System α η) (q : QueueId) :
    (s.map f).clearThresholds q = ((s.clearThresholds q).1, (s.clearThresholds q).2.map f) := by
  have hw (q : QueueId) :
      ((s.map f).modifyQueue q fun x => { x with watermark := none }) =
        (s.modifyQueue q fun x => { x with watermark := none }).map f :=
    modifyQueue_map (fun _ => by rfl) s q
  unfold clearThresholds
  dsimp only
  rw [serving_map, queue_map, hw]
  rfl

theorem move_map (f : α → β) (s : System α η) (source target : QueueId) :
    (s.map f).move source target =
      Prod.map id (Prod.map (System.map f) id) (s.move source target) := by
  have ho : (s.map f).moveObstacle source target = s.moveObstacle source target := by
    simp only [moveObstacle, queue_map, Queue.map, List.length_map]
  rw [move_eq, move_eq, ho]
  cases s.moveObstacle source target with
  | some e => rfl
  | none =>
    have htarget (items : List α) (depth : Nat) :
        ((s.map f).modifyQueue target fun x => { x with
          items := items.map f, highestEver := max x.highestEver depth, shownDepth := depth }) =
        (s.modifyQueue target fun x => { x with
          items, highestEver := max x.highestEver depth, shownDepth := depth }).map f :=
      modifyQueue_map (fun _ => by rfl) s target
    have hsource (t : System α η) :
        ((t.map f).modifyQueue source fun x => { x with
          items := [], redirect := some target, shownDepth := 0 }) =
        (t.modifyQueue source fun x => { x with
          items := [], redirect := some target, shownDepth := 0 }).map f :=
      modifyQueue_map (fun _ => by rfl) t source
    have hitems (x y : Queue α η) :
        (x.map f).items ++ (y.map f).items = (x.items ++ y.items).map f :=
      List.map_append.symm
    dsimp only [spliced]
    rw [queue_map, queue_map, hitems, htarget, hsource, wakeTimes_map, wakeAll_map, report_map]
    simp only [Queue.map, List.length_map]
    rfl

theorem close_map (f : α → β) (s : System α η) (q : QueueId) :
    (s.map f).close q = Prod.map id (System.map f) (s.close q) := by
  have hw : ((s.map f).modifyQueue q fun x =>
      { x with lifecycle := .destroyed, redirect := none }) =
      (s.modifyQueue q fun x => { x with lifecycle := .destroyed, redirect := none }).map f :=
    modifyQueue_map (fun _ => by rfl) s q
  unfold close
  dsimp only
  have hl (x : Queue α η) : (x.map f).lifecycle = x.lifecycle := rfl
  have hm (x : Queue α η) : (x.map f).watermark = x.watermark := rfl
  have hi (x : Queue α η) : (x.map f).items = x.items.map f := rfl
  rw [queue_map, hw, hl, hm, hi, List.length_map]
  cases (s.queue q).items with
  | nil =>
    rw [List.map_nil, if_neg (not_not.mpr rfl), if_neg (not_not.mpr rfl)]
    split_ifs <;> rfl
  | cons item items =>
    rw [List.map_cons, if_pos (List.cons_ne_nil _ _), if_pos (List.cons_ne_nil _ _)]
    split_ifs <;> rfl

@[simp]
theorem outcome?_map (f : α → β) (s : System α η) (c : CallerId) :
    (s.map f).outcome? c = (s.outcome? c).map (Outcome.map f) := by
  rw [outcome?, outcome?, callers_map]
  rcases s.callers[c]? with _ | ⟨r, stage⟩
  · rfl
  · cases stage <;> rfl

@[simp]
theorem takenBy?_map (f : α → β) (s : System α η) (c : CallerId) :
    (s.map f).takenBy? c = (s.takenBy? c).map (Taking.map f) := by
  rw [takenBy?, takenBy?, outcome?_map]
  rcases s.outcome? c with _ | outcome
  · rfl
  · cases outcome <;> rfl

@[simp]
theorem isTimed_map (f : α → β) (s : System α η) (c : CallerId) :
    (s.map f).isTimed c = s.isTimed c := by
  rw [isTimed, isTimed, callers_map]
  rcases s.callers[c]? with _ | caller
  · rfl
  · simp [Caller.map]

/-- What an event leads to does not depend on what the items are. -/
theorem perform_map (f : α → β) (s : System α η) (e : Event α η) :
    (s.map f).perform (e.map f) = (s.perform e).map f := by
  cases e with
  | addQueue capacity =>
    simp [perform, Event.map, addQueue, quietly, Effect.map, map, Queue.map, new]
  | call handle r =>
    have hadd : ((s.map f).addCaller handle (r.map f)).2 = (s.addCaller handle r).2.map f := by
      have hs := schedule_map f
        { s with callers := s.callers ++ [Caller.mk r (.ready handle false)] } s.callers.length
      simp only [map, List.map_append, List.map_cons, List.map_nil] at hs
      simp only [addCaller, map, List.length_map]
      exact hs
    simp only [perform, Event.map, length_queues_map, hadd]
    split_ifs <;> rfl
  | turn c =>
    simp only [perform, Event.map, turn_map, outcome?_map, takenBy?_map, Option.isSome_map,
      Effect.map]
    cases (s.outcome? c).isSome <;> rfl
  | abandon c => simp only [perform, Event.map, abandon_map, quietly_map]
  | withdraw c late =>
    simp only [perform, Event.map, withdraw_map, isTimed_map, quietly_map]
    split_ifs <;> rfl
  | depart c => simp only [perform, Event.map, depart_map, quietly_map]
  | tryPop handle =>
    simp only [perform, Event.map, tryPop_map]
    rcases s.tryPop handle with ⟨_ | item, after, crossing⟩ <;> rfl
  | setThresholds handle high low handler =>
    simp only [perform, Event.map, setThresholds_map]
    rfl
  | clearThresholds handle =>
    simp only [perform, Event.map, clearThresholds_map, quietly_map]
  | move source target =>
    simp only [perform, Event.map, length_queues_map, move_map]
    split_ifs <;> rfl
  | close q =>
    simp only [perform, Event.map, close_map]
    rfl
  | wakeAll q side =>
    simp only [perform, Event.map, queue_map, wakeAll_map, quietly_map]
    have hl : ((s.queue q).map f).lifecycle = (s.queue q).lifecycle := rfl
    rw [hl]
    split_ifs <;> rfl

end System

/-- The course with its items replaced. -/
def Course.map (f : α → β) (k : Course α η) : Course β η :=
  ⟨k.system.map f, k.taken.map (Taking.map f), k.crossings⟩

/-- A renamed event makes of a renamed course the renamed next one. -/
theorem Course.next_map (f : α → β) (k : Course α η) (e : Event α η) :
    (k.map f).next (e.map f) = (k.next e).map f := by
  have hp := System.perform_map f k.system e
  simp only [next, map, hp, Effect.map]
  cases (k.system.perform e).taken <;> simp

end Diameter.Queue
