import Diameter.Proofs.Listener.Sheet
import Diameter.Proofs.Shutdown.Calls

/-!
# What a listener does to the shutdown

A listener raises the shutdown, cancels its own token, and derives tokens from it for its
handshakes. As long as its token is not the root, nothing of this cancels the root without a
reason. So whatever happens to a listener, the shutdown is as sound as before, and only goes on.
-/

namespace Diameter.Listener

open Shutdown (Agrees Call Extends)

variable {l : Listener} {e : Event} {s : Sheet} {calls : List Call}

/-- An event only goes on with the shutdown. -/
theorem Sheet.Step.extends_shutdown (step : Sheet.Step l e s) : Extends l.shutdown s.shutdown := by
  cases step with
  | triggered | failed | raised => exact Shutdown.extends_trigger _ _
  | cancelled | cancelledAll => exact Shutdown.extends_cancel _ _
  | dispatched => exact Shutdown.extends_child _ _
  | _ => exact .refl _

/-- Every event only adds to the shutdown. -/
theorem extends_perform (l : Listener) (e : Event) :
    Extends l.shutdown (l.perform e).shutdown := (sheet_perform l e).extends_shutdown

/-- The token of a listener is there and is not the root. -/
structure HasToken (l : Listener) : Prop where
  derived : l.token ≠ Shutdown.root
  known : l.token < l.shutdown.tokens.length

/-- Nobody outside is given the root, so an event cannot cancel it. -/
def Event.sparesRoot : Event → Bool
  | .cancel token => token != Shutdown.root
  | _ => true

/-- Those who raise the shutdown beside the listener agree with it after any event. -/
theorem Sheet.Step.agrees (step : Sheet.Step l e s) (hl : l.HasToken)
    (he : e.sparesRoot = true) (h : Agrees calls l.shutdown) : Agrees calls s.shutdown := by
  cases step with
  | triggered | failed | raised => exact h.trigger _
  | cancelled => exact h.cancel (bne_iff_ne.mp he)
  | cancelledAll => exact h.cancel hl.derived
  | dispatched => exact h.child hl.known
  | _ => exact h

/-- An event that leaves the root alone keeps the calls in agreement with the shutdown. -/
theorem agrees_perform (hl : l.HasToken) (he : e.sparesRoot = true)
    (h : Agrees calls l.shutdown) : Agrees calls (l.perform e).shutdown :=
  (sheet_perform l e).agrees hl he h

theorem token_perform (l : Listener) (e : Event) : (l.perform e).token = l.token :=
  (sheet_perform l e).bearings.2.2.2

/-- The token of a listener is never removed. -/
theorem HasToken.perform (hl : l.HasToken) (e : Event) : (l.perform e).HasToken := by
  refine ⟨?_, ?_⟩
  · rw [token_perform]
    exact hl.derived
  · rw [token_perform]
    exact Nat.lt_of_lt_of_le hl.known (l.extends_perform e).length_le

end Diameter.Listener
