import Diameter.Shutdown.Reason

/-!
# The shutdown event

The event is raised at most once, and the first reason stays. It is the root of a tree of
tokens: a token is cancelled if it, or any token above it, has been. A token of a cancelled
one is thus cancelled from the start, and cancelling a token touches neither the tokens
above nor those beside it.

Raising takes two steps. The reason is noted under a lock; the tokens are cancelled after
it has been released.
-/

namespace Diameter

/-- A token, by its place among all tokens. -/
abbrev TokenId := Nat

/-- A token of the tree. -/
structure Token where
  /-- The token above, which is older. The root has none. -/
  parent : Option TokenId
  /-- Whether this very token has been cancelled. -/
  marked : Bool
  deriving DecidableEq, Repr

/-- The event and its tokens. -/
structure Shutdown where
  /-- Why the event was raised, if it was. -/
  reason : Option ShutdownReason
  /-- The tokens, of which the first is the root. -/
  tokens : List Token
  deriving DecidableEq, Repr

namespace Shutdown

/-- The token of the event itself. -/
def root : TokenId := 0

/-- The event that has not been raised. -/
def new : Shutdown := ⟨none, [⟨none, false⟩]⟩

/-- Whether a token, or one of the next `height` tokens above it, is marked. -/
def isCancelledWithin (s : Shutdown) : (height : Nat) → TokenId → Bool
  | 0, _ => false
  | height + 1, t =>
    match s.tokens[t]? with
    | none => false
    | some token =>
      token.marked ||
        match token.parent with
        | none => false
        | some above => s.isCancelledWithin height above

/-- Whether a token is cancelled. -/
def isCancelled (s : Shutdown) (t : TokenId) : Bool := s.isCancelledWithin s.tokens.length t

/-- Whether the event has been raised. -/
def isTriggered (s : Shutdown) : Bool := s.isCancelled root

/-- A new token below `parent`. -/
def child (s : Shutdown) (parent : TokenId) : TokenId × Shutdown :=
  (s.tokens.length, { s with tokens := s.tokens ++ [⟨some parent, false⟩] })

/-- Cancels a token, and with it all that are below. -/
def cancel (s : Shutdown) (t : TokenId) : Shutdown :=
  { s with tokens := s.tokens.modify t fun token => { token with marked := true } }

/-- Notes a reason, if none has been noted, and tells whether it did. -/
def note (s : Shutdown) (reason : ShutdownReason) : Bool × Shutdown :=
  match s.reason with
  | some _ => (false, s)
  | none => (true, { s with reason := some reason })

/-- Raises the event, and tells whether this was the first time. -/
def trigger (s : Shutdown) (reason : ShutdownReason) : Bool × Shutdown :=
  match s.note reason with
  | (true, s) => (true, s.cancel root)
  | (false, s) => (false, s)

end Shutdown

end Diameter
