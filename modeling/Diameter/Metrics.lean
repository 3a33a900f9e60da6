import Diameter.Queue.Watermark

/-!
# Metrics

A metric is named by its key, which holds the labels. Counters and histograms only grow;
a gauge keeps its last value. Keys stay in the order in which they were first used.
-/

namespace Diameter

/-- The metrics recorded so far. -/
structure Metrics where
  /-- The value of every key. -/
  values : List (String × Nat)
  deriving DecidableEq, Repr

namespace Metrics

/-- Nothing is recorded. -/
def empty : Metrics := ⟨[]⟩

/-- The key of a metric with labels. -/
def key (name : String) (labels : List (String × String)) : String :=
  name ++ "\x7b" ++ ",".intercalate (labels.map fun l => l.1 ++ "=" ++ l.2) ++ "\x7d"

/-- The values after the one of `key` went through `f`. A new key starts from zero. -/
def change (key : String) (f : Nat → Nat) : List (String × Nat) → List (String × Nat)
  | [] => [(key, f 0)]
  | (k, v) :: rest => if k = key then (k, f v) :: rest else (k, v) :: change key f rest

/-- Counts one more event. -/
def count (m : Metrics) (key : String) : Metrics := ⟨change key (· + 1) m.values⟩

/-- Sets a gauge. -/
def set (m : Metrics) (key : String) (value : Nat) : Metrics :=
  ⟨change key (fun _ => value) m.values⟩

/-- Records that the queue called `label` crossed a threshold and holds `depth` items. -/
def crossing (m : Metrics) (label : String) (level : Queue.Level) (depth : Nat) : Metrics :=
  (m.count (key "diameter_queue_watermark_total" [("queue", label), ("level", level.text)])).set
    (key "diameter_queue_depth" [("queue", label)]) depth

end Metrics

end Diameter
