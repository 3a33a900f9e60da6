import Diameter.Queue.System

/-!
# Every interleaving of callers

An event is what one caller does while it holds a lock, or between two locks. A course is
what a list of events leads to, so a statement about all lists of events is one about every
number of callers, every order in which they get the locks, and every moment at which a
suspended call is given up. An event that cannot happen changes nothing.

A call that was woken takes the lock to leave the count and again to look at the queue; it
cannot be given up in between, since it does not wait there. A call that gives up leaves the
count first and the line after it. Destroying a queue closes it first and wakes those who
wait after it. Taking an item without waiting follows redirects one lock at a time; it does
something only under the last one, so it is an event of that queue.
-/

namespace Diameter.Queue

variable {α η : Type}

/-- What happens at one point in time. -/
inductive Event (α η : Type) where
  /-- A queue is made. -/
  | addQueue (capacity : Nat)
  /-- A push, a pop or a timed pop is made through a handle. -/
  | call (handle : QueueId) (request : Request α)
  /-- A call goes on. -/
  | turn (caller : CallerId)
  /-- A call is dropped before it has looked at its queue. -/
  | abandon (caller : CallerId)
  /-- A suspended call is dropped or, if it is late, has reached its deadline. -/
  | withdraw (caller : CallerId) (late : Bool)
  /-- A call that gave up leaves the line. -/
  | depart (caller : CallerId)
  /-- An item is taken without waiting. -/
  | tryPop (handle : QueueId)
  /-- A handler is attached. -/
  | setThresholds (handle : QueueId) (high low : Nat) (handler : η)
  /-- The handler is detached. -/
  | clearThresholds (handle : QueueId)
  /-- A queue is moved into another one. -/
  | move (source target : QueueId)
  /-- A queue starts to refuse every call. -/
  | close (queue : QueueId)
  /-- Those who wait at one side of a closed queue are woken. -/
  | wakeAll (queue : QueueId) (side : Side)

/-- An item that a pop returned. -/
structure Taking (α : Type) where
  /-- The call that took it, unless it was taken without waiting. -/
  caller : Option CallerId
  /-- The item. -/
  item : α
  deriving DecidableEq, Repr

/-- What an event leads to. -/
structure Effect (α η : Type) where
  /-- The queues and calls after it. -/
  system : System α η
  /-- What a pop returned. -/
  taken : Option (Taking α)
  /-- The crossing that is reported. -/
  crossing : Option (Crossing η)

namespace System

/-- How a call has ended. -/
def outcome? (s : System α η) (c : CallerId) : Option (Outcome α) :=
  match s.callers[c]? with
  | some ⟨_, .ended outcome⟩ => some outcome
  | _ => none

/-- The item that a call has taken. -/
def takenBy? (s : System α η) (c : CallerId) : Option (Taking α) :=
  match s.outcome? c with
  | some (.took item) => some ⟨some c, item⟩
  | _ => none

/-- Whether a call has a deadline that can come. -/
def isTimed (s : System α η) (c : CallerId) : Bool :=
  s.callers[c]?.any fun caller => caller.request.deadline?.isSome

/-- An event without an answer. -/
def quietly (s : System α η) : Effect α η := ⟨s, none, none⟩

/-- What an event leads to. -/
def perform (s : System α η) : Event α η → Effect α η
  | .addQueue capacity => (s.addQueue capacity).2.quietly
  | .call handle request =>
    if handle < s.queues.length then (s.addCaller handle request).2.quietly else s.quietly
  | .turn c =>
    let (after, crossing) := s.turn c
    ⟨after, if (s.outcome? c).isSome then none else after.takenBy? c, crossing⟩
  | .abandon c => (s.abandon c).quietly
  | .withdraw c late =>
    if late && !s.isTimed c then s.quietly else (s.withdraw c late).quietly
  | .depart c => (s.depart c).quietly
  | .tryPop handle =>
    match s.tryPop handle with
    | (.ok item, after, crossing) => ⟨after, some ⟨none, item⟩, crossing⟩
    | (.error _, after, crossing) => ⟨after, none, crossing⟩
  | .setThresholds handle high low handler => (s.setThresholds handle high low handler).2.quietly
  | .clearThresholds handle => (s.clearThresholds handle).2.quietly
  | .move source target =>
    if source < s.queues.length ∧ target < s.queues.length then
      let (_, after, crossing) := s.move source target
      ⟨after, none, crossing⟩
    else s.quietly
  | .close q => (s.close q).2.quietly
  | .wakeAll q side =>
    if (s.queue q).lifecycle = .destroyed then (s.wakeAll q side).quietly else s.quietly

end System

/-- What a list of events has led to. -/
structure Course (α η : Type) where
  /-- The queues and calls. -/
  system : System α η
  /-- What pops have returned, first to last. -/
  taken : List (Taking α)
  /-- The crossings that were reported, first to last. -/
  crossings : List (Crossing η)

namespace Course

/-- Nothing has happened. -/
def start : Course α η := ⟨.empty, [], []⟩

/-- The course after one more event. -/
def next (k : Course α η) (e : Event α η) : Course α η :=
  let effect := k.system.perform e
  ⟨effect.system, k.taken ++ effect.taken.toList, k.crossings ++ effect.crossing.toList⟩

/-- The course after more events. -/
def extend (k : Course α η) (events : List (Event α η)) : Course α η := events.foldl next k

/-- The course of a list of events. -/
def after (events : List (Event α η)) : Course α η := start.extend events

theorem extend_append (k : Course α η) (events more : List (Event α η)) :
    k.extend (events ++ more) = (k.extend events).extend more := List.foldl_append

/-- What holds at the start and is kept by every event holds after all events. -/
theorem extend_induction {P : Course α η → Prop} {k : Course α η} (hk : P k)
    (step : ∀ k e, P k → P (k.next e)) (events : List (Event α η)) : P (k.extend events) := by
  induction events generalizing k with
  | nil => exact hk
  | cons e events ih => exact ih (step k e hk)

end Course

end Diameter.Queue
