import Diameter.Listener.Basic

/-!
# Running a listener

Tasks run one at a time in the order in which they became able to run, and the clock stands
still while one of them can. A stop waits until the accept loop and every handshake that it
took out of the set have ended.
-/

namespace Diameter.Listener

/-- Runs the task whose turn it is. -/
def runFirst (l : Listener) : Listener :=
  match l.runnable with
  | [] => l
  | task :: rest => { l with runnable := rest }.run task

/-- Runs tasks until none can run, for at most `turns` turns. -/
def settleWithin (l : Listener) : (turns : Nat) → Listener
  | 0 => l
  | turns + 1 => if l.runnable.isEmpty then l else l.runFirst.settleWithin turns

/-- Runs tasks until none can run. The accept loop starts at most one handshake for each
connection, and every turn of a handshake either ends it or waits for a new cause. -/
def settle (l : Listener) : Listener :=
  let tasks := l.connections.length + 2
  l.settleWithin (4 * tasks * tasks)

/-- The next point in time that a handshake waits for. -/
def timer? (h : Accepted) : Option Nat :=
  match h.phase with
  | .waiting (.tls done) => some (min done h.deadline)
  | .waiting _ => some h.deadline
  | .keeping _ done => some done
  | _ => none

/-- Gives a turn to every handshake whose point in time has come. -/
def scheduleDue (l : Listener) : Listener :=
  let due := (List.range l.handshakes.length).filter fun h =>
    match l.handshakes[h]?.bind timer? with
    | some time => time ≤ l.now
    | none => false
  due.foldl (fun l h => l.schedule (.handshake h)) l

/-- Moves the clock to `target` and stops at every timer on the way, of which there are at
most `stops`. -/
def advanceWithin (l : Listener) (target : Nat) : (stops : Nat) → Listener
  | 0 => { l with now := target }
  | stops + 1 =>
    match ((l.handshakes.filterMap timer?).filter (· ≤ target)).min? with
    | none => { l with now := target }
    | some time => ({ l with now := time }.scheduleDue.settle).advanceWithin target stops

/-- Runs all tasks, then lets time pass. A handshake has at most three timers. -/
def advance (l : Listener) (time : Nat) : Listener :=
  let l := l.settle
  l.advanceWithin (l.now + time) (3 * l.connections.length + 1)

/-- Waits for the accept loop, unless somebody has waited for it before. -/
def joinLoop (l : Listener) : Listener :=
  if l.hasLoop then { l.settle with hasLoop := false } else l

/-- Waits for the handshakes whose entries were taken. -/
def joinTaken (l : Listener) (taken : List HandshakeId) : Listener :=
  if taken.isEmpty then l else l.settle

/-- Stops the listener: first the accept loop, then every handshake that is outstanding. -/
def stop (l : Listener) : Listener :=
  let (taken, l) := l.cancelAll.joinLoop.drain
  (l.joinTaken taken).conclude taken

end Diameter.Listener
