import Mathlib.Tactic.Common
import Diameter.Proofs.Queue.Exits

/-!
# Queues without their lines

Where an item lies, and what becomes of it, does not depend on who is woken. The outline of
a system keeps the items and redirects of each queue, and for each call the queue that it
has to do with or its end; it forgets lines, permits, counts, wake-ups and watermarks.
-/

namespace Diameter.Queue

variable {α η : Type}

/-- What a call meets at a queue. -/
structure Face (α : Type) where
  /-- Whether the queue can still be used. -/
  lifecycle : Lifecycle
  /-- The items, oldest first. -/
  items : List α
  /-- The queue that serves instead of it. -/
  redirect : Option QueueId
  deriving DecidableEq, Repr

/-- What a call meets at a queue. -/
def face (x : Queue α η) : Face α := ⟨x.lifecycle, x.items, x.redirect⟩

/-- Where a call is, or how it has ended. -/
inductive Spot (α : Type) where
  /-- It has to do with the given queue. -/
  | facing (queue : QueueId)
  /-- It has ended, or reached its deadline. -/
  | ended (outcome : Outcome α)
  /-- It was given up. -/
  | gone
  deriving DecidableEq, Repr

/-- Where a call of this stage is. -/
def Stage.spot : Stage α → Spot α
  | .ready q _ | .parked q | .woken q _ => .facing q
  | .leaving _ _ late => if late then .ended (.failed .timeout) else .gone
  | .ended outcome => .ended outcome
  | .dropped => .gone

/-- A wake-up moves no call. -/
@[simp]
theorem Stage.spot_wake (cause : WokenBy) (stage : Stage α) :
    (stage.wake cause).spot = stage.spot := by
  cases stage with
  | leaving q held late => cases held <;> rfl
  | _ => rfl

/-- Queues and calls without lines. -/
structure Outline (α : Type) where
  /-- The queues. -/
  faces : List (Face α)
  /-- The calls. -/
  calls : List (Request α × Spot α)
  deriving DecidableEq, Repr

/-- Changing a place whose entry is known is writing there. -/
theorem modify_eq_set_of_getElem? {β : Type} {l : List β} {i : Nat} {x : β} (f : β → β)
    (h : l[i]? = some x) : l.modify i f = l.set i (f x) := by
  apply List.ext_getElem?
  intro j
  rw [List.getElem?_modify, List.getElem?_set]
  by_cases hj : i = j
  · subst hj
    obtain ⟨hi, hx⟩ := List.getElem?_eq_some_iff.mp h
    simp [hi, hx]
  · simp [hj]

/-- A change that `g` does not see does not change the list that `g` makes. -/
theorem map_modify_eq_map {β γ : Type} {l : List β} {i : Nat} {f : β → β} {g : β → γ}
    (h : ∀ x, g (f x) = g x) : (l.modify i f).map g = l.map g := by
  apply List.ext_getElem?
  intro j
  rw [List.getElem?_map, List.getElem?_map, List.getElem?_modify]
  by_cases hj : i = j
  · simp [hj, h, Function.comp_def]
  · simp [hj]

/-- A change of a known entry is seen through `g` as writing there. -/
theorem map_modify_eq_set {β γ : Type} {l : List β} {i : Nat} {x : β} (f : β → β) (g : β → γ)
    (h : l[i]? = some x) : (l.modify i f).map g = (l.map g).set i (g (f x)) := by
  rw [modify_eq_set_of_getElem? f h, List.map_set]

namespace System

/-- The outline of a system. -/
def outline (s : System α η) : Outline α :=
  ⟨s.queues.map face, s.callers.map fun c => (c.request, c.stage.spot)⟩

/-! ## What the outline does not see -/

/-- What does not show on the face of a queue leaves the outline. -/
theorem outline_modifyQueue (s : System α η) (q : QueueId) {f : Queue α η → Queue α η}
    (h : ∀ x, (f x).face = x.face) : (s.modifyQueue q f).outline = s.outline := by
  simp only [outline, modifyQueue, map_modify_eq_map h]

/-- What does not show at the spot of a call leaves the outline. -/
theorem outline_modifyStage (s : System α η) (c : CallerId) {f : Stage α → Stage α}
    (h : ∀ stage, (f stage).spot = stage.spot) : (s.modifyStage c f).outline = s.outline := by
  have hc := map_modify_eq_map (l := s.callers) (i := c)
    (f := fun caller => { caller with stage := f caller.stage })
    (g := fun c : Caller α => (c.request, c.stage.spot)) fun caller => by simp only [h]
  simp only [outline, modifyStage, hc]

@[simp]
theorem outline_modifyWaiting (s : System α η) (q : QueueId) (side : Side)
    (f : Waiting → Waiting) : (s.modifyWaiting q side f).outline = s.outline := by
  apply outline_modifyQueue
  intro x
  cases side <;> rfl

@[simp]
theorem outline_schedule (s : System α η) (c : CallerId) :
    (s.schedule c).outline = s.outline := by
  unfold schedule
  split <;> rfl

@[simp]
theorem outline_wake (s : System α η) (cause : WokenBy) (c : CallerId) :
    (s.wake cause c).outline = s.outline := by
  rw [wake, outline_schedule, outline_modifyStage _ _ (Stage.spot_wake cause)]

@[simp]
theorem outline_wakeOne (s : System α η) (q : QueueId) (side : Side) :
    (s.wakeOne q side).outline = s.outline := by
  unfold wakeOne
  dsimp only
  split
  · rw [outline_wake, outline_modifyWaiting]
  · rw [outline_modifyWaiting]

@[simp]
theorem outline_wakeAll (s : System α η) (q : QueueId) (side : Side) :
    (s.wakeAll q side).outline = s.outline := by
  have hf (all : List CallerId) (s : System α η) :
      (all.foldl (fun s c => s.wake .all c) s).outline = s.outline := by
    induction all generalizing s with
    | nil => rfl
    | cons c all ih => rw [List.foldl_cons, ih, outline_wake]
  rw [wakeAll, hf, outline_modifyWaiting]

@[simp]
theorem outline_wakeTimes (s : System α η) (q : QueueId) (side : Side) (n : Nat) :
    (s.wakeTimes q side n).outline = s.outline := by
  induction n generalizing s with
  | zero => rfl
  | succ n ih => rw [wakeTimes, ih, outline_wakeOne]

@[simp]
theorem outline_report (s : System α η) (q : QueueId) (level : Level)
    (moved : Option (Watermark η)) : (s.report q level moved).1.outline = s.outline := by
  cases moved with
  | none => rfl
  | some w => exact outline_modifyQueue s q fun _ => rfl

/-! ## What it sees of queues and calls -/

/-- A change of a queue shows on its face. -/
theorem outline_modifyQueue_set (s : System α η) {q : QueueId} {x : Queue α η}
    (f : Queue α η → Queue α η) (h : s.queues[q]? = some x) :
    (s.modifyQueue q f).outline = { s.outline with faces := s.outline.faces.set q (f x).face } := by
  simp only [outline, modifyQueue, map_modify_eq_set f face h]

/-- A call that is put to a stage shows at its spot. -/
theorem outline_setStage (s : System α η) {c : CallerId} {caller : Caller α} (stage : Stage α)
    (h : s.callers[c]? = some caller) :
    (s.setStage c stage).outline =
      { s.outline with calls := s.outline.calls.set c (caller.request, stage.spot) } := by
  simp only [outline, setStage, modifyStage]
  rw [map_modify_eq_set _ _ h]

/-- Storing shows as one more item on one face. -/
theorem outline_store (s : System α η) {q : QueueId} {x : Queue α η} (item : α)
    (h : s.queues[q]? = some x) :
    (s.store q item).1.outline = { s.outline with
      faces := s.outline.faces.set q ⟨x.lifecycle, x.items ++ [item], x.redirect⟩ } := by
  unfold store
  dsimp only
  rw [outline_report]
  simp only [apply_ite outline, outline_wakeOne, ite_self]
  rw [outline_modifyQueue_set s (·.append item) h]
  rfl

/-- Taking shows as one item less on one face. -/
theorem outline_takeHead (s : System α η) {q : QueueId} {x : Queue α η} (rest : List α)
    (h : s.queues[q]? = some x) :
    (s.takeHead q rest).1.outline = { s.outline with
      faces := s.outline.faces.set q ⟨x.lifecycle, rest, x.redirect⟩ } := by
  unfold takeHead
  dsimp only
  rw [outline_report]
  simp only [apply_ite outline, outline_wakeOne, ite_self]
  rw [outline_modifyQueue_set s (·.withoutHead rest) h]
  rfl

/-- A call that stays at its spot is, seen from the outline, left alone. -/
theorem outline_setStage_of_spot (s : System α η) {c : CallerId} {caller : Caller α}
    (stage : Stage α) (h : s.callers[c]? = some caller)
    (hs : stage.spot = caller.stage.spot) : (s.setStage c stage).outline = s.outline := by
  have hc : s.outline.calls[c]? = some (caller.request, stage.spot) := by
    simp only [outline, List.getElem?_map, h, hs, Option.map_some]
  rw [outline_setStage s stage h, ← modify_eq_set_of_getElem? (fun call => call) hc]
  exact congrArg (Outline.mk s.outline.faces) (List.modify_id c s.outline.calls)

/-- Who has to wait at a queue goes on having to do with it. -/
theorem outline_suspend (s : System α η) {q : QueueId} (side : Side) {c : CallerId}
    {caller : Caller α} (h : s.callers[c]? = some caller) (hq : caller.stage.spot = .facing q) :
    (s.suspend q side c).outline = s.outline := by
  have hset (t : System α η) (stage : Stage α) (ht : t.callers = s.callers)
      (hs : stage.spot = .facing q) : (t.setStage c stage).outline = t.outline :=
    outline_setStage_of_spot t stage (ht ▸ h) (hs.trans hq.symm)
  unfold suspend
  split
  · rw [hset _ _ (by rfl) (by rfl), outline_modifyWaiting]
  · rw [hset _ _ (by rfl) (by rfl), outline_modifyWaiting]

end System

end Diameter.Queue
