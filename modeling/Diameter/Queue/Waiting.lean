/-!
# Callers that wait

The callers parked at one side of a queue stand in line. Waking one takes the first out
of the line, or leaves a permit if nobody stands in it; there is never more than one
permit. Beside the line there is a count of the callers that have not yet gone on. A woken
caller is out of the line and still counted until it runs; one that gives up is out of the
count before it is out of the line.
-/

namespace Diameter.Queue

/-- A caller, by its place among all callers. -/
abbrev CallerId := Nat

/-- The line at one side of a queue. -/
structure Waiting where
  /-- The callers that nobody has woken yet, longest parked first. -/
  parked : List CallerId
  /-- Whether a wake-up is left for the next caller that would park. -/
  permit : Bool
  /-- The callers that were parked and have not gone on. -/
  count : Nat
  deriving DecidableEq, Repr

namespace Waiting

/-- Nobody waits. -/
def none : Waiting := ⟨[], false, 0⟩

/-- What waking one caller leads to: the caller, if there is one, and the line after it. -/
def wakeOne (w : Waiting) : Option CallerId × Waiting :=
  match w.parked with
  | [] => (Option.none, { w with permit := true })
  | first :: rest => (some first, { w with parked := rest })

/-- What waking every caller leads to. No permit is left or taken. -/
def wakeAll (w : Waiting) : List CallerId × Waiting := (w.parked, { w with parked := [] })

/-- The caller joins the end of the line. -/
def park (w : Waiting) (caller : CallerId) : Waiting :=
  { w with parked := w.parked ++ [caller], count := w.count + 1 }

/-- The caller takes the permit instead of standing in line. -/
def takePermit (w : Waiting) : Waiting := { w with permit := false, count := w.count + 1 }

/-- A caller is not counted any more. It was woken and goes on, or it gives up. -/
def resume (w : Waiting) : Waiting := { w with count := w.count - 1 }

/-- A caller that gave up does not stand in line any more. -/
def leave (w : Waiting) (caller : CallerId) : Waiting :=
  { w with parked := w.parked.filter (· != caller) }

end Waiting

end Diameter.Queue
