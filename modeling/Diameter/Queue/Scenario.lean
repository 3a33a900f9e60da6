import Diameter.Metrics
import Diameter.Queue.System

/-!
# Queues under a virtual clock

A scenario is a list of steps on named queues. Every call is a task. Tasks run one at a
time in the order in which they became able to run, and the clock stands still while one
of them can. After a step all tasks run, unless the step holds them back.
-/

namespace Diameter.Queue

/-- Who is told about crossings. -/
inductive Observer where
  /-- Records every call, and may then take an item. -/
  | recorder (mark : String) (popOnHigh popOnLow : Bool)
  /-- Counts the calls for the queue that it is named for. -/
  | alarm (label : String)
  deriving DecidableEq, Repr

/-- A call of a recorder. -/
structure Mark (α : Type) where
  /-- The recorder. -/
  mark : String
  /-- The direction. -/
  level : Level
  /-- The depth at the call. -/
  depth : Nat
  /-- The last unanswered crossing at the call. -/
  highest : Option Nat
  /-- What the recorder took, if it took something. -/
  popped : Option (Except QueueError α)

/-- What can be seen of a queue through a handle. -/
structure Stats where
  /-- The depth. -/
  depth : Nat
  /-- The most items that the queue holds, or zero. -/
  capacity : Nat
  /-- How many consumers wait. -/
  waitingConsumers : Nat
  /-- How many producers wait. -/
  waitingProducers : Nat
  /-- The thresholds and the last unanswered crossing. -/
  watermark : Option (Nat × Nat × Nat)
  /-- The greatest depth so far. -/
  highestEver : Nat
  /-- Whether the queue that serves the handle is destroyed. -/
  closed : Bool
  /-- The depth that the handle's own queue shows without its lock. -/
  shownDepth : Nat
  /-- Whether the handle's own queue is destroyed. -/
  ownClosed : Bool
  deriving DecidableEq, Repr

/-- What can be seen of the queue `handle`. -/
def System.stats {α η : Type} (s : System α η) (handle : QueueId) : Stats :=
  let own := s.queue handle
  let q := s.queue (s.serving handle)
  { depth := q.items.length
    capacity := q.capacity
    waitingConsumers := q.consumers.count
    waitingProducers := q.producers.count
    watermark := q.watermark.map fun w => (w.high, w.low, w.highest)
    highestEver := q.highestEver
    closed := q.lifecycle = .destroyed
    shownDepth := own.shownDepth
    ownClosed := own.lifecycle = .destroyed }

/-- What a step does. Queues and tasks go by their names. -/
inductive Action (α : Type) where
  | new (queue : String) (capacity : Nat)
  | share (queue handle : String)
  | push (queue : String) (item : α) (task : String)
  | pop (queue : String) (within : Option Nat) (task : String)
  | tryPop (queue : String)
  | setThresholds (queue : String) (high low : Nat) (observer : Observer)
  | clearThresholds (queue : String)
  | move (source target : String)
  | destroy (queue : String)
  | cancel (task : String)
  | advance (time : Nat)
  | settle

/-- What a step answers by itself. -/
inductive Reply (α : Type) where
  | nothing
  | done
  | flag (value : Bool)
  | popped (result : Except QueueError α)
  | refused (error : QueueError)

/-- The answer of a step that may be refused. -/
def Reply.ofAnswer {α : Type} : Except QueueError Unit → Reply α
  | .ok _ => .done
  | .error e => .refused e

/-- The state of a scenario. -/
structure Scenario (α : Type) where
  /-- The queues and calls. -/
  system : System α Observer
  /-- The time. -/
  now : Nat
  /-- The handles by name. -/
  handles : List (String × QueueId)
  /-- The name of each call. -/
  tasks : List String
  /-- The calls that are to be given up when their turn comes. -/
  doomed : List CallerId
  /-- The calls that ended in this step. -/
  ended : List (String × Outcome α)
  /-- What recorders saw in this step. -/
  marks : List (Mark α)
  /-- What alarms counted. -/
  metrics : Metrics

/-- What a step leads to. -/
structure Report (α : Type) where
  /-- The answer of the step itself. -/
  reply : Reply α
  /-- The calls that ended. -/
  ended : List (String × Outcome α)
  /-- What recorders saw. -/
  marks : List (Mark α)
  /-- Every handle. -/
  queues : List (String × Stats)
  /-- The time. -/
  now : Nat

namespace Scenario

variable {α : Type}

/-- Nothing has happened. -/
def start : Scenario α := ⟨.empty, 0, [], [], [], [], [], .empty⟩

/-- The queue that goes by a name. -/
def handle (w : Scenario α) (name : String) : QueueId := (w.handles.lookup name).getD 0

/-- The handles after `name` was given to `q`. -/
def named (handles : List (String × QueueId)) (name : String) (q : QueueId) :
    List (String × QueueId) :=
  if handles.any (·.1 == name) then handles.map fun h => if h.1 = name then (name, q) else h
  else handles ++ [(name, q)]

/-- Tells an observer about a crossing, and about those that its own pops lead to. Each of
them takes an item, so their number is bounded. -/
def tellWithin (w : Scenario α) (crossing : Crossing Observer) : (pops : Nat) → Scenario α
  | 0 => w
  | pops + 1 =>
    let stats := w.system.stats crossing.queue
    match crossing.handler with
    | .alarm label => { w with metrics := w.metrics.crossing label crossing.level stats.depth }
    | .recorder mark popOnHigh popOnLow =>
      let entry (popped : Option (Except QueueError α)) : Mark α :=
        ⟨mark, crossing.level, stats.depth, stats.watermark.map (·.2.2), popped⟩
      if (if crossing.level = .high then popOnHigh else popOnLow) then
        let (popped, system, next) := w.system.tryPop crossing.queue
        let w := { w with system, marks := w.marks ++ [entry (some popped)] }
        match next with
        | some crossing => w.tellWithin crossing pops
        | none => w
      else { w with marks := w.marks ++ [entry none] }

/-- Tells an observer about a crossing, if there was one. -/
def tell (w : Scenario α) : Option (Crossing Observer) → Scenario α
  | none => w
  | some crossing => w.tellWithin crossing ((w.system.stats crossing.queue).depth + 1)

/-- Notes how a call ended. -/
def note (w : Scenario α) (c : CallerId) : Scenario α :=
  match w.system.callers[c]? with
  | some ⟨_, .ended outcome⟩ =>
    { w with ended := w.ended ++ [((w.tasks[c]?).getD "", outcome)] }
  | _ => w

/-- Runs the task whose turn it is. -/
def runFirst (w : Scenario α) : Scenario α :=
  match w.system.runnable with
  | [] => w
  | c :: rest =>
    let system := { w.system with runnable := rest }
    if c ∈ w.doomed then { w with system := system.drop c }
    else
      let (system, crossing) := system.run c w.now
      ({ w with system }.tell crossing).note c

/-- Runs tasks until none can run, for at most `turns` turns. -/
def settleWithin (w : Scenario α) : (turns : Nat) → Scenario α
  | 0 => w
  | turns + 1 => if w.system.runnable.isEmpty then w else w.runFirst.settleWithin turns

/-- Runs tasks until none can run. Between two tasks that end every other one runs at most
once. -/
def settle (w : Scenario α) : Scenario α :=
  let tasks := w.tasks.length + 1
  w.settleWithin (tasks * tasks)

/-- The deadline that a parked call waits for. -/
def deadline? : Caller α → Option Nat
  | ⟨.pop deadline, .parked _⟩ => deadline
  | _ => none

/-- The first deadline that somebody waits for, if it is not after `limit`. -/
def nextDeadline? (w : Scenario α) (limit : Nat) : Option Nat :=
  ((w.system.callers.filterMap deadline?).filter (· ≤ limit)).min?

/-- Gives a turn to every parked call whose deadline has come. -/
def scheduleExpired (w : Scenario α) : Scenario α :=
  let expired := (List.range w.system.callers.length).filter fun c =>
    match w.system.callers[c]?.bind deadline? with
    | some deadline => deadline ≤ w.now
    | none => false
  { w with system := expired.foldl .schedule w.system }

/-- Moves the clock to `target` and stops at every deadline on the way, of which there are
at most `stops`. -/
def advanceWithin (w : Scenario α) (target : Nat) : (stops : Nat) → Scenario α
  | 0 => { w with now := target }
  | stops + 1 =>
    match w.nextDeadline? target with
    | none => { w with now := target }
    | some deadline =>
      ({ w with now := deadline }.scheduleExpired.settle).advanceWithin target stops

/-- Runs all tasks, then lets time pass. -/
def advance (w : Scenario α) (time : Nat) : Scenario α :=
  w.settle.advanceWithin (w.now + time) (w.tasks.length + 1)

/-- Starts a call. -/
def call (w : Scenario α) (queue task : String) (request : Request α) : Scenario α :=
  { w with
    system := (w.system.addCaller (w.handle queue) request).2
    tasks := w.tasks ++ [task] }

/-- Asks for the latest call of a name to be given up. -/
def cancel (w : Scenario α) (task : String) : Scenario α :=
  let candidates := (List.range w.tasks.length).filter fun c => w.tasks[c]? == some task
  match candidates.getLast? with
  | none => w
  | some c =>
    if w.system.hasEnded c then w
    else { w with doomed := c :: w.doomed, system := w.system.schedule c }

/-- Carries out a step, before any task runs. -/
def act (w : Scenario α) : Action α → Scenario α × Reply α
  | .new name capacity =>
    let (q, system) := w.system.addQueue capacity
    ({ w with system, handles := named w.handles name q }, .nothing)
  | .share name handle => ({ w with handles := named w.handles handle (w.handle name) }, .nothing)
  | .push name item task => (w.call name task (.push item), .nothing)
  | .pop name within task => (w.call name task (.pop (within.map (w.now + ·))), .nothing)
  | .tryPop name =>
    let (popped, system, crossing) := w.system.tryPop (w.handle name)
    ({ w with system }.tell crossing, .popped popped)
  | .setThresholds name high low observer =>
    let (answer, system) := w.system.setThresholds (w.handle name) high low observer
    ({ w with system }, .ofAnswer answer)
  | .clearThresholds name =>
    let (attached, system) := w.system.clearThresholds (w.handle name)
    ({ w with system }, .flag attached)
  | .move source target =>
    let (answer, system, crossing) := w.system.move (w.handle source) (w.handle target)
    ({ w with system }.tell crossing, .ofAnswer answer)
  | .destroy name =>
    let q := w.handle name
    let waiting := (w.system.queue q).consumers.count
    match w.system.destroy q with
    | (.error e, system) => ({ w with system }, .refused e)
    | (.ok _, system) =>
      let w := { w with system }
      (if 0 < waiting then w.advance 1 else w, .done)
  | .cancel task => (w.cancel task, .nothing)
  | .advance time => (w.advance time, .nothing)
  | .settle => (w, .nothing)

/-- Carries out a step. Unless it holds the tasks back they run afterwards. -/
def step (w : Scenario α) (action : Action α) (hold : Bool) : Scenario α × Report α :=
  let (w, reply) := { w with ended := [], marks := [] }.act action
  let w := if hold then w else w.settle
  (w, { reply, ended := w.ended, marks := w.marks, now := w.now,
        queues := w.handles.map fun h => (h.1, w.system.stats h.2) })

/-- Carries out the steps, and what each leads to. -/
def play (w : Scenario α) : List (Action α × Bool) → Scenario α × List (Report α)
  | [] => (w, [])
  | (action, hold) :: rest =>
    let (w, report) := w.step action hold
    let (w, reports) := w.play rest
    (w, report :: reports)

end Scenario

end Diameter.Queue
