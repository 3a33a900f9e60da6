import Diameter.Octets

/-!
# The clock

Time is counted in milliseconds from the start of the clock, which goes on for as many
seconds as a signed word of 64 bits can write.
-/

namespace Diameter.Clock

/-- The last point in time that the clock can show. -/
def last : Nat := Octets.span 8 / 2 * 1000 - 1

/-- The point in time after a span, if the clock can show it. -/
def after? (now span : Nat) : Option Nat :=
  if now + span ≤ last then some (now + span) else none

/-- The milliseconds in a number of seconds. -/
def ofSeconds (seconds : Nat) : Nat := seconds * 1000

end Diameter.Clock
