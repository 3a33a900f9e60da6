/-!
# Why a queue refuses a call

Each cause carries the numbers that its wording shows.
-/

namespace Diameter

/-- Why a queue refuses a call. -/
inductive QueueError where
  /-- There is nothing to take right now. -/
  | wouldBlock
  /-- There was nothing to take before the deadline. -/
  | timeout
  /-- The queue has been destroyed. -/
  | closed
  /-- The queue still holds items. -/
  | notEmpty (held : Nat)
  /-- A handler is still attached. -/
  | watermarkAttached
  /-- A handler has been attached already. -/
  | thresholdsAlreadySet
  /-- The high threshold is not above the low one. -/
  | invalidThresholds (high low : Nat)
  /-- Producers wait for room in the queue that should be moved. -/
  | producersBlocked (waiting : Nat)
  /-- The items do not fit into the target of a move. -/
  | targetFull (capacity needed : Nat)
  /-- The target of a move is the queue itself, or one of the two has been moved before. -/
  | invalidMoveTarget
  deriving DecidableEq, Repr

namespace QueueError

/-- The wording of a refusal. -/
def message : QueueError → String
  | wouldBlock => "queue is empty"
  | timeout => "timed out waiting for an item"
  | closed => "queue has been destroyed"
  | notEmpty held => s!"queue still holds {held} item(s)"
  | watermarkAttached => "a watermark handler is still attached"
  | thresholdsAlreadySet => "watermark thresholds are already configured"
  | invalidThresholds high low =>
    s!"invalid thresholds: high ({high}) must be greater than low ({low})"
  | producersBlocked waiting => s!"{waiting} producer(s) are blocked on the source queue"
  | targetFull capacity needed =>
    s!"move target holds at most {capacity} item(s), {needed} needed"
  | invalidMoveTarget => "invalid move target"

/-- The wording of a refused push. -/
def pushMessage (e : QueueError) : String := s!"push rejected: {e.message}"

end QueueError

end Diameter
