/-!
# Watermarks

A watermark watches the depth of a queue. Going up, it reports every positive multiple of
the high threshold. Coming down, it reports depths that are the low threshold above a
multiple of the high one, as long as a reported depth above them has not been answered.
-/

namespace Diameter.Queue

/-- The direction of a crossing. -/
inductive Level where
  | high
  | low
  deriving DecidableEq, Repr

/-- The name of a direction. -/
def Level.text : Level → String
  | .high => "high"
  | .low => "low"

/-- Thresholds, who is told about crossings, and the last one that is unanswered. -/
structure Watermark (η : Type) where
  /-- The distance between reports on the way up. -/
  high : Nat
  /-- How far above a multiple of `high` a report on the way down lies. -/
  low : Nat
  /-- The depth of the last report that is not answered, or zero. -/
  highest : Nat
  /-- Who is told. -/
  handler : η
  deriving DecidableEq, Repr

namespace Watermark

variable {η : Type}

/-- The watermark after a push to the given depth, if that is a crossing. -/
def crossUp (w : Watermark η) (depth : Nat) : Option (Watermark η) :=
  if 0 < depth ∧ depth % w.high = 0 then some { w with highest := depth } else none

/-- The watermark after a removal down to the given depth, if that is a crossing. -/
def crossDown (w : Watermark η) (depth : Nat) : Option (Watermark η) :=
  if depth % w.high = w.low ∧ depth < w.highest then
    some { w with highest := w.highest - w.high }
  else none

/-- The watermark after several items arrived at once, if the depth passed a multiple of
the high threshold that has not been reported. -/
def absorb (w : Watermark η) (depth : Nat) : Option (Watermark η) :=
  let level := depth - depth % w.high
  if w.highest < level then some { w with highest := level } else none

end Watermark

end Diameter.Queue
