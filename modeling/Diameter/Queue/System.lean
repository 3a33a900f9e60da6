import Diameter.Queue.Error
import Diameter.Queue.Waiting
import Diameter.Queue.Watermark

/-!
# Queues and their callers

Items leave a queue in the order in which they came. A bounded queue makes producers wait
while it is full, an empty one makes consumers wait. The contents of a queue can be moved
into another one, which from then on serves every handle of the first; a destroyed queue
serves only itself, and refuses.

A call that has to wait is a caller with a stage; `turn` is what it does when it holds the
lock next. A caller that was woken starts again from the beginning, and anybody may come in
between. `turn`, `withdraw`, `tryPop`, `move` and `close` are what happens while a lock is
held; `depart` and `wakeAll` follow after the lock was released. Each interleaving of
callers is a sequence of these.
-/

namespace Diameter

namespace Queue

/-- A queue, by its place among all queues. -/
abbrev QueueId := Nat

/-- Whether a queue can still be used. -/
inductive Lifecycle where
  | usable
  | destroyed
  deriving DecidableEq, Repr

/-- The two sides of a queue. -/
inductive Side where
  | consumer
  | producer
  deriving DecidableEq, Repr

/-- How a parked caller was woken. Only a wake-up meant for one caller is passed on when
that caller is dropped. -/
inductive WokenBy where
  | one
  | all
  deriving DecidableEq, Repr

end Queue

open Queue

/-- A queue of items of type `α` whose handlers are of type `η`. -/
structure Queue (α η : Type) where
  /-- Whether it can still be used. -/
  lifecycle : Lifecycle
  /-- The items, oldest first. -/
  items : List α
  /-- The most items that it holds, or zero for no limit. -/
  capacity : Nat
  /-- Those who wait for an item. -/
  consumers : Waiting
  /-- Those who wait for room. -/
  producers : Waiting
  /-- The thresholds, if any are set. -/
  watermark : Option (Watermark η)
  /-- The greatest depth that it ever had. -/
  highestEver : Nat
  /-- The queue that serves instead of this one. -/
  redirect : Option QueueId
  /-- The depth that can be read without the lock. -/
  shownDepth : Nat
  deriving DecidableEq, Repr

namespace Queue

variable {α η : Type}

/-- A queue without items. -/
def new (capacity : Nat) : Queue α η :=
  ⟨.usable, [], capacity, .none, .none, none, 0, none, 0⟩

/-- The line at one side. -/
def waiting (q : Queue α η) : Side → Waiting
  | .consumer => q.consumers
  | .producer => q.producers

/-- The queue with another line at one side. -/
def setWaiting (q : Queue α η) : Side → Waiting → Queue α η
  | .consumer, w => { q with consumers := w }
  | .producer, w => { q with producers := w }

/-- Whether a push has to wait. -/
def isFull (q : Queue α η) : Bool := 0 < q.capacity && q.capacity ≤ q.items.length

/-- The queue with one more item at its end. -/
def append (q : Queue α η) (item : α) : Queue α η :=
  let depth := q.items.length + 1
  { q with
    items := q.items ++ [item]
    highestEver := max q.highestEver depth
    shownDepth := depth }

/-- The queue after its first item was taken and `rest` is left. -/
def withoutHead (q : Queue α η) (rest : List α) : Queue α η :=
  { q with items := rest, shownDepth := rest.length }

/-- What a caller asks for. -/
inductive Request (α : Type) where
  /-- To store an item. -/
  | push (item : α)
  /-- To take an item, before the deadline if there is one. -/
  | pop (deadline : Option Nat)
  deriving DecidableEq, Repr

/-- The side on which a request waits. -/
def Request.side : Request α → Side
  | .push _ => .producer
  | .pop _ => .consumer

/-- The deadline of a request, if it has one. -/
def Request.deadline? : Request α → Option Nat
  | .push _ => none
  | .pop deadline => deadline

/-- How a call ends. -/
inductive Outcome (α : Type) where
  /-- The item is stored. -/
  | stored
  /-- The item is given back. -/
  | refused (item : α) (error : QueueError)
  /-- An item was taken. -/
  | took (item : α)
  /-- Nothing was taken. -/
  | failed (error : QueueError)
  deriving DecidableEq, Repr

/-- How far a call has come. -/
inductive Stage (α : Type) where
  /-- It looks at the given queue next. A recalled call was woken there and has not looked
  since. -/
  | ready (queue : QueueId) (recalled : Bool)
  /-- It waits at the given queue. -/
  | parked (queue : QueueId)
  /-- It was woken at the given queue and has not gone on yet. -/
  | woken (queue : QueueId) (cause : WokenBy)
  /-- It gives up at the given queue and is not counted there any more. It still stands in
  line, or holds a wake-up. A late call gives up because its deadline has come. -/
  | leaving (queue : QueueId) (cause : Option WokenBy) (late : Bool)
  /-- It has ended. -/
  | ended (outcome : Outcome α)
  /-- It was given up. -/
  | dropped
  deriving DecidableEq, Repr

/-- The stage after a wake-up, which reaches only those who stand in line. -/
def Stage.wake {α : Type} (cause : WokenBy) : Stage α → Stage α
  | .parked q => .woken q cause
  | .leaving q none late => .leaving q (some cause) late
  | stage => stage

/-- A call that may wait. -/
structure Caller (α : Type) where
  /-- What it asks for. -/
  request : Request α
  /-- How far it has come. -/
  stage : Stage α
  deriving DecidableEq, Repr

/-- The depth of a queue crossed a threshold. -/
structure Crossing (η : Type) where
  /-- The queue. -/
  queue : QueueId
  /-- The direction. -/
  level : Level
  /-- Who is to be told. -/
  handler : η
  deriving DecidableEq, Repr

/-- All queues, all calls, and the order in which calls became able to go on. -/
structure System (α η : Type) where
  /-- The queues. -/
  queues : List (Queue α η)
  /-- The calls. -/
  callers : List (Caller α)
  /-- The calls that can go on, first woken first. -/
  runnable : List CallerId
  deriving DecidableEq, Repr

namespace System

/-- No queues and no calls. -/
def empty : System α η := ⟨[], [], []⟩

/-- A queue. A place that holds none counts as an empty queue. -/
def queue (s : System α η) (q : QueueId) : Queue α η := s.queues.getD q (.new 0)

/-- The system with one queue changed. -/
def modifyQueue (s : System α η) (q : QueueId) (f : Queue α η → Queue α η) : System α η :=
  { s with queues := s.queues.modify q f }

/-- The system with one line of a queue changed. -/
def modifyWaiting (s : System α η) (q : QueueId) (side : Side) (f : Waiting → Waiting) :
    System α η :=
  s.modifyQueue q fun x => x.setWaiting side (f (x.waiting side))

/-- The system with the stage of one call changed. -/
def modifyStage (s : System α η) (c : CallerId) (f : Stage α → Stage α) : System α η :=
  { s with callers := s.callers.modify c fun caller => { caller with stage := f caller.stage } }

/-- The system with one call at another stage. -/
def setStage (s : System α η) (c : CallerId) (stage : Stage α) : System α η :=
  s.modifyStage c fun _ => stage

/-- The system with a new queue, which comes last. -/
def addQueue (s : System α η) (capacity : Nat) : QueueId × System α η :=
  (s.queues.length, { s with queues := s.queues ++ [.new capacity] })

/-- The call can go on. It keeps its turn if it has one. -/
def schedule (s : System α η) (c : CallerId) : System α η :=
  if c ∈ s.runnable then s else { s with runnable := s.runnable ++ [c] }

/-- The system with a new call, which comes last and can go on. -/
def addCaller (s : System α η) (q : QueueId) (request : Request α) : CallerId × System α η :=
  let c := s.callers.length
  let s : System α η := { s with callers := s.callers ++ [Caller.mk request (.ready q false)] }
  (c, s.schedule c)

/-- A call that stands in line is woken. -/
def wake (s : System α η) (cause : WokenBy) (c : CallerId) : System α η :=
  (s.modifyStage c (.wake cause)).schedule c

/-- Wakes one call at one side of a queue, or leaves a permit. -/
def wakeOne (s : System α η) (q : QueueId) (side : Side) : System α η :=
  let first := ((s.queue q).waiting side).wakeOne.1
  let s := s.modifyWaiting q side fun w => w.wakeOne.2
  match first with
  | some c => s.wake .one c
  | none => s

/-- Wakes every call at one side of a queue. -/
def wakeAll (s : System α η) (q : QueueId) (side : Side) : System α η :=
  let all := ((s.queue q).waiting side).wakeAll.1
  all.foldl (fun s c => s.wake .all c) (s.modifyWaiting q side fun w => w.wakeAll.2)

/-- Wakes calls at one side of a queue, one at a time. -/
def wakeTimes (s : System α η) (q : QueueId) (side : Side) : Nat → System α η
  | 0 => s
  | n + 1 => (s.wakeOne q side).wakeTimes q side n

/-- Reports a crossing of a queue whose watermark moved. -/
def report (s : System α η) (q : QueueId) (level : Level) (moved : Option (Watermark η)) :
    System α η × Option (Crossing η) :=
  match moved with
  | none => (s, none)
  | some w => (s.modifyQueue q fun x => { x with watermark := some w },
      some ⟨q, level, w.handler⟩)

/-- Stores an item in a queue that has room for it. -/
def store (s : System α η) (q : QueueId) (item : α) : System α η × Option (Crossing η) :=
  let before := s.queue q
  let depth := before.items.length + 1
  let s := s.modifyQueue q (·.append item)
  let s := if 0 < before.consumers.count then s.wakeOne q .consumer else s
  let s :=
    if 0 < before.producers.count ∧ (before.capacity = 0 ∨ depth < before.capacity) then
      s.wakeOne q .producer
    else s
  s.report q .high (before.watermark.bind (·.crossUp depth))

/-- Takes the first item of a queue, after which `rest` is left. -/
def takeHead (s : System α η) (q : QueueId) (rest : List α) :
    System α η × Option (Crossing η) :=
  let before := s.queue q
  let s := s.modifyQueue q (·.withoutHead rest)
  let s := if 0 < before.producers.count then s.wakeOne q .producer else s
  s.report q .low (before.watermark.bind (·.crossDown rest.length))

/-- A call has to wait at a queue. If a permit is left there it takes that and goes on. -/
def suspend (s : System α η) (q : QueueId) (side : Side) (c : CallerId) : System α η :=
  if ((s.queue q).waiting side).permit then
    (s.modifyWaiting q side (·.takePermit)).setStage c (.woken q .one)
  else (s.modifyWaiting q side (·.park c)).setStage c (.parked q)

/-- The call looks at a queue. -/
def examine (s : System α η) (c : CallerId) (request : Request α) (q : QueueId) :
    System α η × Option (Crossing η) :=
  let x := s.queue q
  match x.lifecycle, x.redirect, request with
  | .destroyed, _, .push item => (s.setStage c (.ended (.refused item .closed)), none)
  | .destroyed, _, .pop _ => (s.setStage c (.ended (.failed .closed)), none)
  | .usable, some target, _ => (s.setStage c (.ready target false), none)
  | .usable, none, .push item =>
    if x.isFull then (s.suspend q .producer c, none)
    else (s.setStage c (.ended .stored)).store q item
  | .usable, none, .pop _ =>
    match x.items with
    | [] => (s.suspend q .consumer c, none)
    | item :: rest => (s.setStage c (.ended (.took item))).takeHead q rest

/-- What a call does the next time it holds the lock. A woken call leaves the count and
starts again; any other one does nothing. -/
def turn (s : System α η) (c : CallerId) : System α η × Option (Crossing η) :=
  match s.callers[c]? with
  | some ⟨request, .ready q _⟩ => s.examine c request q
  | some ⟨request, .woken q _⟩ =>
    ((s.modifyWaiting q request.side (·.resume)).setStage c (.ready q true), none)
  | _ => (s, none)

/-- The first step of a waiting call that gives up, under the lock: it leaves the count. -/
def withdraw (s : System α η) (c : CallerId) (late : Bool) : System α η :=
  match s.callers[c]? with
  | some ⟨request, .parked q⟩ =>
    (s.modifyWaiting q request.side (·.resume)).setStage c (.leaving q none late)
  | some ⟨request, .woken q cause⟩ =>
    (s.modifyWaiting q request.side (·.resume)).setStage c (.leaving q (some cause) late)
  | _ => s

/-- The second step of a call that gives up, after the lock: it leaves the line. A wake-up
meant for it alone is passed on. -/
def depart (s : System α η) (c : CallerId) : System α η :=
  match s.callers[c]? with
  | some ⟨request, .leaving q cause late⟩ =>
    let s := s.setStage c (if late then .ended (.failed .timeout) else .dropped)
    match cause with
    | none => s.modifyWaiting q request.side (·.leave c)
    | some .one => s.wakeOne q request.side
    | some .all => s
  | _ => s

/-- A parked call gives up because its deadline has come. A call that was woken first goes
on instead. -/
def expire (s : System α η) (c : CallerId) : System α η :=
  match s.callers[c]? with
  | some ⟨_, .parked _⟩ => (s.withdraw c true).depart c
  | _ => s

/-- A call is given up before it has looked at its queue. -/
def abandon (s : System α η) (c : CallerId) : System α η :=
  match s.callers[c]? with
  | some ⟨_, .ready _ false⟩ => s.setStage c .dropped
  | _ => s

/-- A call is given up, be it before it has run or while it waits. -/
def drop (s : System α η) (c : CallerId) : System α η :=
  ((s.abandon c).withdraw c false).depart c

/-- Follows at most `hops` redirects of queues that can still be used. -/
def servingWithin (s : System α η) : (hops : Nat) → QueueId → QueueId
  | 0, q => q
  | hops + 1, q =>
    match (s.queue q).lifecycle, (s.queue q).redirect with
    | .usable, some target => s.servingWithin hops target
    | _, _ => q

/-- The queue that serves a handle of `q`. -/
def serving (s : System α η) (q : QueueId) : QueueId := s.servingWithin s.queues.length q

/-- Takes an item without waiting. -/
def tryPop (s : System α η) (handle : QueueId) :
    Except QueueError α × System α η × Option (Crossing η) :=
  let q := s.serving handle
  match (s.queue q).lifecycle, (s.queue q).items with
  | .destroyed, _ => (.error .closed, s, none)
  | .usable, [] => (.error .wouldBlock, s, none)
  | .usable, item :: rest => (.ok item, s.takeHead q rest)

/-- Attaches a handler. -/
def setThresholds (s : System α η) (handle : QueueId) (high low : Nat) (handler : η) :
    Except QueueError Unit × System α η :=
  if high ≤ low then (.error (.invalidThresholds high low), s)
  else
    let q := s.serving handle
    if (s.queue q).watermark.isSome then (.error .thresholdsAlreadySet, s)
    else (.ok (), s.modifyQueue q fun x => { x with watermark := some ⟨high, low, 0, handler⟩ })

/-- Detaches the handler, and tells whether there was one. -/
def clearThresholds (s : System α η) (handle : QueueId) : Bool × System α η :=
  let q := s.serving handle
  ((s.queue q).watermark.isSome, s.modifyQueue q fun x => { x with watermark := none })

/-- Moves the items of `source` behind those of `target`, which serves both from then on.
Consumers of the source are woken and find their way to the target. -/
def move (s : System α η) (source target : QueueId) :
    Except QueueError Unit × System α η × Option (Crossing η) :=
  let src := s.queue source
  let dst := s.queue target
  let needed := dst.items.length + src.items.length
  if source = target then (.error .invalidMoveTarget, s, none)
  else if src.lifecycle = .destroyed ∨ dst.lifecycle = .destroyed then (.error .closed, s, none)
  else if src.redirect.isSome ∨ dst.redirect.isSome then (.error .invalidMoveTarget, s, none)
  else if src.watermark.isSome then (.error .watermarkAttached, s, none)
  else if 0 < src.producers.count then
    (.error (.producersBlocked src.producers.count), s, none)
  else if 0 < dst.capacity ∧ dst.capacity < needed then
    (.error (.targetFull dst.capacity needed), s, none)
  else
    let items := dst.items ++ src.items
    let depth := items.length
    let s := s.modifyQueue target fun x =>
      { x with items, highestEver := max x.highestEver depth, shownDepth := depth }
    let s := s.modifyQueue source fun x =>
      { x with items := [], redirect := some target, shownDepth := 0 }
    let s := s.wakeTimes target .consumer (min src.items.length dst.consumers.count)
    let s := s.wakeAll source .consumer
    (.ok (), s.report target .high (dst.watermark.bind (·.absorb depth)))

/-- The first step of destroying a queue, under its lock: if it is empty it refuses every
call from now on. -/
def close (s : System α η) (q : QueueId) : Except QueueError Unit × System α η :=
  let x := s.queue q
  if x.lifecycle = .destroyed then (.error .closed, s)
  else if x.items ≠ [] then (.error (.notEmpty x.items.length), s)
  else if x.watermark.isSome then (.error .watermarkAttached, s)
  else (.ok (), s.modifyQueue q fun x => { x with lifecycle := .destroyed, redirect := none })

/-- Makes an empty queue refuse every call from now on. Then all who wait are woken. -/
def destroy (s : System α η) (q : QueueId) : Except QueueError Unit × System α η :=
  match s.close q with
  | (.error e, s) => (.error e, s)
  | (.ok _, s) => (.ok (), (s.wakeAll q .consumer).wakeAll q .producer)

/-- Whether the call has come to its end. -/
def hasEnded (s : System α η) (c : CallerId) : Bool :=
  match s.callers[c]? with
  | some ⟨_, .ended _⟩ | some ⟨_, .dropped⟩ | none => true
  | _ => false

/-- A call runs until it has to wait or ends, for at most `turns` turns at the lock. -/
def runWithin (s : System α η) (c : CallerId) : (turns : Nat) → System α η × Option (Crossing η)
  | 0 => (s, none)
  | turns + 1 =>
    match s.callers[c]? with
    | some ⟨_, .ready _ _⟩ | some ⟨_, .woken _ _⟩ =>
      match s.turn c with
      | (s, some crossing) => (s, some crossing)
      | (s, none) => s.runWithin c turns
    | _ => (s, none)

/-- A call whose turn has come runs until it has to wait or ends. It follows every redirect
at most once, and no permit is left when it looks for the second time. -/
def run (s : System α η) (c : CallerId) (now : Nat) : System α η × Option (Crossing η) :=
  let (s, crossing) := s.runWithin c (s.queues.length + 4)
  match s.callers[c]? with
  | some ⟨.pop (some deadline), .parked _⟩ =>
    (if deadline ≤ now then s.expire c else s, crossing)
  | _ => (s, crossing)

end System

end Queue

end Diameter
