import Mathlib.Tactic.Common
import Diameter.Proofs.Queue.Course

/-!
# Calls that answer at once

Taking without waiting, attaching a handler, moving a queue and destroying one look for one
obstacle after another before they change anything. What they return beside an error is
whatever they have made of the queues by then. Main statements: each of them that returns an
error returns the very system beside it, and a move that finds no obstacle is spelled out.
-/

namespace Diameter.Queue

variable {α η : Type}

namespace System

variable {s after : System α η} {q handle source target : QueueId} {e : QueueError}
  {crossing : Option (Crossing η)}

/-! ## What stands in the way -/

/-- A call that finds nothing to take, or a destroyed queue, takes nothing. -/
theorem tryPop_error_eq (h : s.tryPop handle = (.error e, after, crossing)) :
    after = s ∧ crossing = none := by
  unfold tryPop at h
  dsimp only at h
  split at h
  · cases h
    exact ⟨rfl, rfl⟩
  · cases h
    exact ⟨rfl, rfl⟩
  · cases h

/-- Thresholds that are refused, or set already, attach nothing. -/
theorem setThresholds_error_eq {high low : Nat} {handler : η}
    (h : s.setThresholds handle high low handler = (.error e, after)) : after = s := by
  unfold setThresholds at h
  dsimp only at h
  split_ifs at h <;> cases h
  all_goals rfl

/-- All six obstacles to a move are found before anything is moved. -/
theorem move_error_eq (h : s.move source target = (.error e, after, crossing)) :
    after = s ∧ crossing = none := by
  unfold move at h
  dsimp only at h
  split_ifs at h <;> cases h
  all_goals exact ⟨rfl, rfl⟩

/-- A queue that is destroyed already, holds items or has a handler is left as it is. -/
theorem close_error_eq (h : s.close q = (.error e, after)) : after = s := by
  unfold close at h
  dsimp only at h
  split_ifs at h <;> cases h
  all_goals rfl

/-- A queue that cannot be closed is not destroyed, and nobody who waits there is woken. -/
theorem destroy_error_eq (h : s.destroy q = (.error e, after)) :
    s.close q = (.error e, s) ∧ after = s := by
  unfold destroy at h
  rcases hc : s.close q with ⟨cause | done, closed⟩
  · rw [hc] at h
    cases h
    obtain rfl := close_error_eq hc
    exact ⟨rfl, rfl⟩
  · rw [hc] at h
    cases h

/-! ## What is made otherwise -/

/-- Thresholds are set where there were none, and the high one is the greater. -/
theorem of_setThresholds {high low : Nat} {handler : η}
    (h : s.setThresholds handle high low handler = (.ok (), after)) :
    low < high ∧ (s.queue (s.serving handle)).watermark = none ∧
      after = s.modifyQueue (s.serving handle) fun x =>
        { x with watermark := some ⟨high, low, 0, handler⟩ } := by
  unfold setThresholds at h
  dsimp only at h
  split_ifs at h with hlow hset
  · cases h
  · cases h
  · cases h
    exact ⟨Nat.lt_of_not_le hlow, Option.not_isSome_iff_eq_none.mp hset, rfl⟩

/-- What is closed was usable and empty, and had no handler. -/
theorem of_close (h : s.close q = (.ok (), after)) :
    (s.queue q).lifecycle = .usable ∧ (s.queue q).items = [] ∧ (s.queue q).watermark = none ∧
      after = s.modifyQueue q fun x => { x with lifecycle := .destroyed, redirect := none } := by
  unfold close at h
  dsimp only at h
  split_ifs at h with hdestroyed hitems hwatched
  · cases h
  · cases h
  · cases h
  · cases h
    refine ⟨?_, not_not.mp hitems, Option.not_isSome_iff_eq_none.mp hwatched, rfl⟩
    cases hlifecycle : (s.queue q).lifecycle with
    | usable => rfl
    | destroyed => exact absurd hlifecycle hdestroyed

/-! ## Moves -/

/-- Why the contents of `source` cannot be moved into `target`. -/
def moveObstacle (s : System α η) (source target : QueueId) : Option QueueError :=
  let src := s.queue source
  let dst := s.queue target
  let needed := dst.items.length + src.items.length
  if source = target then some .invalidMoveTarget
  else if src.lifecycle = .destroyed ∨ dst.lifecycle = .destroyed then some .closed
  else if src.redirect.isSome ∨ dst.redirect.isSome then some .invalidMoveTarget
  else if src.watermark.isSome then some .watermarkAttached
  else if 0 < src.producers.count then some (.producersBlocked src.producers.count)
  else if 0 < dst.capacity ∧ dst.capacity < needed then some (.targetFull dst.capacity needed)
  else none

/-- The system after the items of `source` were put behind those of `target` and the callers
were woken. -/
def spliced (s : System α η) (source target : QueueId) : System α η :=
  let src := s.queue source
  let dst := s.queue target
  let items := dst.items ++ src.items
  let depth := items.length
  let s := s.modifyQueue target fun x =>
    { x with items, highestEver := max x.highestEver depth, shownDepth := depth }
  let s := s.modifyQueue source fun x =>
    { x with items := [], redirect := some target, shownDepth := 0 }
  (s.wakeTimes target .consumer (min src.items.length dst.consumers.count)).wakeAll source
    .consumer

/-- A move is refused for the first obstacle, and otherwise made. -/
theorem move_eq (s : System α η) (source target : QueueId) : s.move source target =
    match s.moveObstacle source target with
    | some e => (.error e, s, none)
    | none => (.ok (), (s.spliced source target).report target .high
        ((s.queue target).watermark.bind
          (·.absorb ((s.queue target).items ++ (s.queue source).items).length))) := by
  unfold move moveObstacle
  dsimp only
  split_ifs <;> rfl

/-- What was moved could be moved. -/
theorem moveObstacle_of_move (h : s.move source target = (.ok (), after, crossing)) :
    s.moveObstacle source target = none := by
  rw [move_eq] at h
  cases ho : s.moveObstacle source target with
  | some e =>
    rw [ho] at h
    cases h
  | none => rfl

/-- A move that succeeds leads to what is spelled out, up to the crossing that is reported. -/
theorem eq_of_move (h : s.move source target = (.ok (), after, crossing)) :
    (s.spliced source target).report target .high ((s.queue target).watermark.bind
      (·.absorb ((s.queue target).items ++ (s.queue source).items).length)) =
      (after, crossing) := by
  have ho := moveObstacle_of_move h
  rw [move_eq, ho] at h
  exact (Prod.mk.inj h).2

end System

end Diameter.Queue
