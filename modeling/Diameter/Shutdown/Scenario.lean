import Diameter.Shutdown.Basic

/-!
# The shutdown event in use

A scenario raises the event, derives and cancels tokens by name, and lets tasks wait for
the event. A waiting task goes on as soon as it gets a turn after the event.
-/

namespace Diameter.Shutdown

/-- What a step does. -/
inductive Action where
  | trigger (reason : ShutdownReason)
  | child (name : String) (parent : Option String)
  | cancel (name : String)
  | wait (name : String)
  | settle

/-- The state of a scenario. -/
structure Scenario where
  /-- The event. -/
  shutdown : Shutdown
  /-- The tokens by name. -/
  names : List (String × TokenId)
  /-- The tasks that wait. -/
  waiting : List String
  /-- The tasks that went on. -/
  woken : List String

/-- What a step leads to. -/
structure Report where
  /-- Whether a trigger was the first one. -/
  first : Option Bool
  /-- Whether the event has been raised. -/
  triggered : Bool
  /-- Why it was raised. -/
  reason : Option ShutdownReason
  /-- The tasks that went on so far, by name. -/
  woken : List String
  /-- Which tokens are cancelled. -/
  tokens : List (String × Bool)

namespace Scenario

/-- Nothing has happened. -/
def start : Scenario := ⟨.new, [], [], []⟩

/-- The token of a name. -/
def token (w : Scenario) (name : String) : TokenId := (w.names.lookup name).getD root

/-- Gives every waiting task a turn. -/
def settle (w : Scenario) : Scenario :=
  if w.shutdown.isTriggered then { w with waiting := [], woken := w.woken ++ w.waiting } else w

/-- Carries out a step, before any task runs. -/
def act (w : Scenario) : Action → Scenario × Option Bool
  | .trigger reason =>
    let (first, shutdown) := w.shutdown.trigger reason
    ({ w with shutdown }, some first)
  | .child name parent =>
    let (t, shutdown) := w.shutdown.child ((parent.map w.token).getD root)
    ({ w with shutdown, names := (name, t) :: w.names.filter (·.1 != name) }, none)
  | .cancel name => ({ w with shutdown := w.shutdown.cancel (w.token name) }, none)
  | .wait name => ({ w with waiting := w.waiting ++ [name] }, none)
  | .settle => (w, none)

/-- Carries out a step. Unless it holds the tasks back they run afterwards. -/
def step (w : Scenario) (action : Action) (hold : Bool) : Scenario × Report :=
  let (w, first) := w.act action
  let w := if hold then w else w.settle
  (w, {
    first
    triggered := w.shutdown.isTriggered
    reason := w.shutdown.reason
    woken := w.woken.mergeSort
    tokens := w.names.map fun n => (n.1, w.shutdown.isCancelled n.2) })

/-- Carries out the steps, and what each leads to. -/
def play (w : Scenario) : List (Action × Bool) → List Report
  | [] => []
  | (action, hold) :: rest =>
    let (w, report) := w.step action hold
    report :: w.play rest

end Scenario

end Diameter.Shutdown
