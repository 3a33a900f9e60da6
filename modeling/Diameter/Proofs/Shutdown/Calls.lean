import Diameter.Proofs.Shutdown.Tokens

/-!
# Many who raise the event at once

A call that raises the event takes two steps: it notes its reason under the lock, unless there is
one, and cancels the root after the lock has been given back. Between the two others may note,
look, derive tokens and cancel them. The only token that they cannot cancel is the root, which
nobody is given.

A clamour is what any number of such calls have come to, in whatever order they go on. Main
statement: at most one of them wins, and exactly one once all have returned; its reason is noted
for ever, whoever sees the event raised reads this reason, and once it has returned all tokens are
cancelled, those that are derived later too. Cancelling a token that was derived cancels it and
what comes from it, and nothing else.
-/

namespace Diameter.Shutdown

/-- How far a call that raises the event has come. -/
inductive CallStage where
  /-- It has not had the lock. -/
  | called
  /-- It has noted its reason, and cancels the root next. -/
  | noted
  /-- It has returned, and told whether it was the first. -/
  | returned (first : Bool)
  deriving DecidableEq, Repr

/-- A call that raises the event. -/
structure Call where
  /-- Its reason. -/
  reason : ShutdownReason
  /-- How far it has come. -/
  stage : CallStage
  deriving DecidableEq, Repr

namespace Call

/-- A call goes on. -/
def goOn (c : Call) (s : Shutdown) : Call × Shutdown :=
  match c.stage with
  | .called =>
    let (first, s) := s.note c.reason
    ({ c with stage := if first then .noted else .returned false }, s)
  | .noted => ({ c with stage := .returned true }, s.cancel root)
  | .returned _ => (c, s)

/-- Whether it was this call that noted its reason. -/
def hasWon (c : Call) : Bool :=
  match c.stage with
  | .noted | .returned true => true
  | _ => false

/-- How many steps are left until it returns. -/
def left (c : Call) : Nat :=
  match c.stage with
  | .called => 2
  | .noted => 1
  | .returned _ => 0

/-- A call that nobody comes in between is done at once. -/
theorem goOn_goOn (reason : ShutdownReason) (s : Shutdown) :
    let (c, between) := (Call.mk reason .called).goOn s
    c.goOn between = (⟨reason, .returned (s.trigger reason).1⟩, (s.trigger reason).2) := by
  rcases s with ⟨_ | _, tokens⟩ <;> rfl

theorem reason_goOn (c : Call) (s : Shutdown) : (c.goOn s).1.reason = c.reason := by
  rcases c with ⟨reason, _ | _ | first⟩ <;> rfl

/-- A call that goes on has one step less to take, or none. -/
theorem left_goOn (c : Call) (s : Shutdown) : (c.goOn s).1.left = c.left - 1 ∨
    (c.goOn s).1.left = 0 := by
  rcases c with ⟨reason, _ | _ | first⟩
  · rcases s with ⟨_ | _, tokens⟩
    · exact .inl rfl
    · exact .inr rfl
  · exact .inr rfl
  · exact .inr rfl

/-- A call that has won and has returned was the first. -/
theorem first_of_hasWon {c : Call} (hwon : c.hasWon = true) (hleft : c.left = 0) :
    c.stage = .returned true := by
  rcases c with ⟨reason, _ | _ | first⟩
  · cases hwon
  · cases hleft
  · cases first with
    | true => rfl
    | false => cases hwon

/-- A call that returns that it was the first has won. -/
theorem hasWon_of_first {c : Call} (hfirst : c.stage = .returned true) :
    c.hasWon = true := by
  rw [hasWon, hfirst]

theorem extends_goOn (c : Call) (s : Shutdown) : Extends s (c.goOn s).2 := by
  rcases c with ⟨reason, _ | _ | first⟩
  · exact s.extends_note reason
  · exact s.extends_cancel root
  · exact .refl s

end Call

/-- One of several calls goes on. -/
def turn (s : Shutdown) (calls : List Call) (i : Nat) : List Call × Shutdown :=
  match calls[i]? with
  | none => (calls, s)
  | some c => (calls.set i (c.goOn s).1, (c.goOn s).2)

/-- A turn of a call only adds to the shutdown. -/
theorem extends_turn (s : Shutdown) (calls : List Call) (i : Nat) :
    Extends s (s.turn calls i).2 := by
  unfold turn
  split
  · exact .refl s
  · exact Call.extends_goOn _ s

/-- What calls that raise the event have to do with it. Others may have raised it too. -/
structure Agrees (calls : List Call) (s : Shutdown) : Prop where
  /-- The tokens are a tree. -/
  tree : s.IsTree
  /-- If the event has been raised, a reason was noted before. -/
  raised : s.isTriggered = true → ∃ r, s.reason = some r
  /-- A call that has won has noted its reason. -/
  won : ∀ c ∈ calls, c.hasWon = true → s.reason = some c.reason
  /-- When it has returned, the event has been raised. -/
  first : ∀ c ∈ calls, c.stage = .returned true → s.isTriggered = true
  /-- A call that has lost found a reason. -/
  lost : ∀ c ∈ calls, c.stage = .returned false → ∃ r, s.reason = some r
  /-- No two calls win. -/
  alone : ∀ (i j : Nat) (c d : Call), calls[i]? = some c → calls[j]? = some d →
    c.hasWon = true → d.hasWon = true → i = j

namespace Agrees

variable {calls : List Call} {s s' : Shutdown}

/-- It goes on to hold if the event is raised later on by others than the calls. -/
theorem later (h : Agrees calls s) (hs : Extends s s') (htree : s'.IsTree)
    (hraised : s'.isTriggered = true → ∃ r, s'.reason = some r) : Agrees calls s' :=
  ⟨htree, hraised, fun c hc hw => hs.reason _ (h.won c hc hw),
    fun c hc hf => hs.isCancelled h.tree htree (h.first c hc hf),
    fun c hc hl => (h.lost c hc hl).imp fun r => hs.reason r, h.alone⟩

/-- A new token is no matter for the root. -/
theorem isTriggered_child (h : s.IsTree) {t : TokenId} (ht : t < s.tokens.length) :
    (s.child t).2.isTriggered = s.isTriggered := by
  rw [Bool.eq_iff_iff, (h.child ht).isTriggered_iff, h.isTriggered_iff, s.getElem?_child]
  exact ⟨fun hroot => hroot.resolve_right fun hlast => (by cases hlast.2), .inl⟩

/-- A new token keeps the calls in agreement. -/
theorem child (h : Agrees calls s) {t : TokenId} (ht : t < s.tokens.length) :
    Agrees calls (s.child t).2 :=
  h.later (s.extends_child t) (h.tree.child ht) fun htriggered =>
    h.raised (isTriggered_child h.tree ht ▸ htriggered)

/-- A token that was derived is no matter for the root. -/
theorem isTriggered_cancel (h : s.IsTree) {t : TokenId} (ht : t ≠ root) :
    (s.cancel t).isTriggered = s.isTriggered := by
  rw [Bool.eq_iff_iff, (h.cancel t).isTriggered_iff, h.isTriggered_iff, getElem?_cancel,
    if_neg fun hroot => ht hroot.symm]

/-- Cancelling another token than the root keeps the calls in agreement. -/
theorem cancel (h : Agrees calls s) {t : TokenId} (ht : t ≠ root) : Agrees calls (s.cancel t) :=
  h.later (s.extends_cancel t) (h.tree.cancel t) fun htriggered =>
    h.raised (isTriggered_cancel h.tree ht ▸ htriggered)

/-- When a reason has been noted, all is well whatever becomes of the root. -/
theorem later_of_noted (h : Agrees calls s) (hs : Extends s s') (htree : s'.IsTree)
    {r : ShutdownReason} (hr : s'.reason = some r) : Agrees calls s' :=
  h.later hs htree fun _ => ⟨r, hr⟩

/-- A reason that somebody else notes keeps the calls in agreement. -/
theorem note (h : Agrees calls s) (reason : ShutdownReason) : Agrees calls (s.note reason).2 :=
  h.later_of_noted (s.extends_note reason) (h.tree.note reason) (by rw [note_eq])

/-- Somebody who is not one of the calls raises the event. -/
theorem trigger (h : Agrees calls s) (reason : ShutdownReason) :
    Agrees calls (s.trigger reason).2 := by
  have hnoted := (h.note reason)
  have hextends : Extends (s.note reason).2 (s.trigger reason).2 := by
    rw [trigger_eq]
    dsimp only
    split
    · exact extends_cancel _ _
    · exact .refl _
  exact hnoted.later_of_noted hextends (h.tree.trigger reason)
    (hextends.reason _ (by rw [note_eq]))

/-- One of the calls has gone on. What is left to say is about this call: who else has won has won
before, so nobody has if no reason had been noted. -/
theorem set (h : Agrees calls s) {i : Nat} {c d : Call} (hc : calls[i]? = some c)
    (hextends : Extends s s') (htree : s'.IsTree)
    (hraised : s'.isTriggered = true → ∃ r, s'.reason = some r)
    (hwon : d.hasWon = true → s'.reason = some d.reason)
    (hfirst : d.stage = .returned true → s'.isTriggered = true)
    (hlost : d.stage = .returned false → ∃ r, s'.reason = some r)
    (halone : d.hasWon = true → c.hasWon = true ∨ s.reason = none) :
    Agrees (calls.set i d) s' := by
  have hother := h.later hextends htree hraised
  have hunique {j : Nat} {e : Call} (hj : calls[j]? = some e) (he : e.hasWon = true)
      (hd : d.hasWon = true) : i = j := by
    obtain hbefore | hnone := halone hd
    · exact h.alone i j c e hc hj hbefore he
    · have hnoted := h.won e (List.mem_of_getElem? hj) he
      cases hnone.symm.trans hnoted
  have hmem {P : Call → Prop} (hold : ∀ e ∈ calls, P e) (hnew : P d) : ∀ e ∈ calls.set i d, P e :=
    fun e he => (List.mem_or_eq_of_mem_set he).elim (hold e) fun heq => heq ▸ hnew
  refine ⟨htree, hraised, hmem hother.won hwon, hmem hother.first hfirst, hmem hother.lost hlost,
    fun j k e f hj hk he hf => ?_⟩
  have hat {j : Nat} {e : Call} (hj : (calls.set i d)[j]? = some e) :
      (j = i ∧ e = d) ∨ calls[j]? = some e := by
    by_cases heq : i = j
    · subst heq
      rw [List.getElem?_set_self (List.getElem?_eq_some_iff.mp hc).1] at hj
      exact .inl ⟨rfl, (Option.some.inj hj).symm⟩
    · rw [List.getElem?_set_ne heq] at hj
      exact .inr hj
  obtain ⟨hji, hed⟩ | hj := hat hj
  · obtain ⟨hki, -⟩ | hk := hat hk
    · exact hji.trans hki.symm
    · exact hji.trans (hunique hk hf (hed ▸ he))
  · obtain ⟨hki, hfd⟩ | hk := hat hk
    · exact ((hunique hj he (hfd ▸ hf)).symm).trans hki.symm
    · exact h.alone j k e f hj hk he hf

/-- It goes on to hold when one of the calls goes on. -/
theorem turn (h : Agrees calls s) (i : Nat) : Agrees (s.turn calls i).1 (s.turn calls i).2 := by
  unfold Shutdown.turn
  cases hc : calls[i]? with
  | none => exact h
  | some c =>
    obtain ⟨reason, stage⟩ := c
    have hmem := List.mem_of_getElem? hc
    cases stage with
    | called =>
      have hextends := s.extends_note reason
      have hnoted : (s.note reason).2.reason = some (s.reason.getD reason) := by rw [note_eq]
      dsimp only [Call.goOn]
      refine h.set hc hextends (h.tree.note reason) (fun _ => ⟨_, hnoted⟩) ?_ ?_ ?_ ?_
      all_goals
        rw [note_eq]
        cases s.reason
        all_goals simp [Call.hasWon]
    | noted =>
      have hnoted := h.won _ hmem rfl
      have hlength := h.tree.length_pos
      exact h.set hc (s.extends_cancel root) (h.tree.cancel root) (fun _ => ⟨_, hnoted⟩)
        (fun _ => hnoted)
        (fun _ => (h.tree.isCancelled_cancel_iff hlength).mpr (.inr .refl))
        (fun hlost => by cases hlost) (fun _ => .inl rfl)
    | returned first =>
      exact h.set hc (.refl s) h.tree h.raised (h.won _ hmem) (h.first _ hmem) (h.lost _ hmem)
        .inl

/-- One more call has been made. -/
theorem call (h : Agrees calls s) (reason : ShutdownReason) :
    Agrees (calls ++ [⟨reason, .called⟩]) s := by
  have hmem {P : Call → Prop} (hold : ∀ e ∈ calls, P e) (hnew : P ⟨reason, .called⟩) :
      ∀ e ∈ calls ++ [⟨reason, .called⟩], P e := fun e he =>
    (List.mem_append.mp he).elim (hold e) fun hlast => List.mem_singleton.mp hlast ▸ hnew
  refine ⟨h.tree, h.raised, hmem h.won fun hw => (by cases hw),
    hmem h.first fun hf => (by cases hf), hmem h.lost fun hl => (by cases hl),
    fun i j c d hi hj hc hd => ?_⟩
  have hat {i : Nat} {c : Call} (hi : (calls ++ [⟨reason, .called⟩])[i]? = some c)
      (hc : c.hasWon = true) : calls[i]? = some c := by
    by_cases hlt : i < calls.length
    · rwa [List.getElem?_append_left hlt] at hi
    · rw [List.getElem?_append_right (Nat.le_of_not_lt hlt)] at hi
      have hlast := List.mem_singleton.mp (List.mem_of_getElem? hi)
      rw [hlast] at hc
      cases hc
  exact h.alone i j c d (hat hi hc) (hat hj hd) hc hd

theorem new : Agrees [] Shutdown.new := by
  refine ⟨isTree_new, fun h => (by cases h), ?_, ?_, ?_, fun i j c d hi => (by cases hi)⟩
  all_goals exact fun c hc => by cases hc

end Agrees

/-! ## Nobody else -/

/-- Calls that raise the event, and the event. -/
structure Clamour where
  /-- The event. -/
  shutdown : Shutdown
  /-- The calls, first to last. -/
  calls : List Call

namespace Clamour

/-- What happens next. -/
inductive Event where
  /-- Somebody calls. -/
  | call (reason : ShutdownReason)
  /-- A call goes on. -/
  | turn (i : Nat)
  /-- Somebody derives a token. -/
  | derive (above : TokenId)
  /-- Somebody cancels a token. -/
  | cancel (token : TokenId)
  deriving DecidableEq

/-- Nobody has called. -/
def start : Clamour := ⟨.new, []⟩

/-- What an event leads to. There is nothing to derive from a token that is not there, and nobody
can cancel the root. -/
def next (w : Clamour) : Event → Clamour
  | .call reason => { w with calls := w.calls ++ [⟨reason, .called⟩] }
  | .turn i => ⟨(w.shutdown.turn w.calls i).2, (w.shutdown.turn w.calls i).1⟩
  | .derive above =>
    if above < w.shutdown.tokens.length then { w with shutdown := (w.shutdown.child above).2 }
    else w
  | .cancel token =>
    if token = root then w else { w with shutdown := w.shutdown.cancel token }

/-- What events lead to. -/
def extend (w : Clamour) (events : List Event) : Clamour := events.foldl next w

variable {w : Clamour}

theorem extend_append (w : Clamour) (events more : List Event) :
    w.extend (events ++ more) = (w.extend events).extend more := List.foldl_append

theorem extends_next (w : Clamour) (e : Event) : Extends w.shutdown (w.next e).shutdown := by
  cases e with
  | call reason => exact .refl _
  | turn i => exact w.shutdown.extends_turn w.calls i
  | derive above =>
    unfold next
    dsimp only
    split
    · exact extends_child _ _
    · exact .refl _
  | cancel token =>
    unfold next
    dsimp only
    split
    · exact .refl _
    · exact extends_cancel _ _

theorem extends_extend (w : Clamour) (events : List Event) :
    Extends w.shutdown (w.extend events).shutdown := by
  induction events generalizing w with
  | nil => exact .refl _
  | cons e events ih => exact (w.extends_next e).trans (ih (w.next e))

/-- What holds if nobody but the calls raises the event. -/
structure Sound (w : Clamour) : Prop where
  /-- The calls agree with the event. -/
  agrees : Agrees w.calls w.shutdown
  /-- What was noted is the reason of a call that has won. -/
  noted : ∀ r, w.shutdown.reason = some r → ∃ c ∈ w.calls, c.hasWon = true ∧ c.reason = r
  /-- If the event has been raised, a call has returned that has won. -/
  raised : w.shutdown.isTriggered = true → ∃ c ∈ w.calls, c.stage = .returned true

/-- Another call goes on. Those who have won have won after that, and those who have returned
have returned. -/
theorem exists_of_mem_turn {s : Shutdown} {calls : List Call} (i : Nat) {c : Call}
    (hc : c ∈ calls) : ∃ d ∈ (s.turn calls i).1, d.reason = c.reason ∧
      (c.hasWon = true → d.hasWon = true) ∧ (c.stage = .returned true → d.stage = c.stage) := by
  unfold Shutdown.turn
  cases hi : calls[i]? with
  | none => exact ⟨c, hc, rfl, id, fun _ => rfl⟩
  | some d =>
    dsimp only
    obtain ⟨j, hj⟩ := List.mem_iff_getElem?.mp hc
    by_cases heq : i = j
    · subst heq
      obtain rfl : d = c := Option.some.inj (hi.symm.trans hj)
      refine ⟨(d.goOn s).1, List.mem_set (List.getElem?_eq_some_iff.mp hi).1 _, d.reason_goOn s, ?_⟩
      rcases d with ⟨reason, _ | _ | first⟩
      · exact ⟨fun h => (by cases h), fun h => (by cases h)⟩
      · exact ⟨fun _ => rfl, fun h => (by cases h)⟩
      · exact ⟨id, fun _ => rfl⟩
    · refine ⟨c, List.mem_of_getElem? (i := j) ?_, rfl, id, fun _ => rfl⟩
      rw [List.getElem?_set_ne heq]
      exact hj

/-- A call goes on, and nobody else could have raised the event. -/
theorem Sound.turn (h : w.Sound) (i : Nat) : (w.next (.turn i)).Sound := by
  have hagrees : Agrees (w.next (.turn i)).calls (w.next (.turn i)).shutdown := h.agrees.turn i
  have hnoted {r : ShutdownReason} (hr : w.shutdown.reason = some r) :
      ∃ c ∈ (w.next (.turn i)).calls, c.hasWon = true ∧ c.reason = r := by
    obtain ⟨c, hc, hwon, rfl⟩ := h.noted r hr
    obtain ⟨d, hd, hreason, hkept, -⟩ := exists_of_mem_turn (s := w.shutdown) i hc
    exact ⟨d, hd, hkept hwon, hreason⟩
  have hraised (ht : w.shutdown.isTriggered = true) :
      ∃ c ∈ (w.next (.turn i)).calls, c.stage = .returned true := by
    obtain ⟨c, hc, hstage⟩ := h.raised ht
    obtain ⟨d, hd, -, -, hkept⟩ := exists_of_mem_turn (s := w.shutdown) i hc
    exact ⟨d, hd, (hkept hstage).trans hstage⟩
  cases hi : w.calls[i]? with
  | none =>
    have hsame : (w.next (.turn i)).shutdown = w.shutdown := by
      show (w.shutdown.turn w.calls i).2 = _
      rw [Shutdown.turn, hi]
    exact ⟨hagrees, fun r hr => hnoted (hsame ▸ hr), fun ht => hraised (hsame ▸ ht)⟩
  | some c =>
    have hcalls : (w.next (.turn i)).calls = w.calls.set i (c.goOn w.shutdown).1 := by
      show (w.shutdown.turn w.calls i).1 = _
      rw [Shutdown.turn, hi]
    have hshutdown : (w.next (.turn i)).shutdown = (c.goOn w.shutdown).2 := by
      show (w.shutdown.turn w.calls i).2 = _
      rw [Shutdown.turn, hi]
    have hself : (c.goOn w.shutdown).1 ∈ (w.next (.turn i)).calls := by
      rw [hcalls]
      exact List.mem_set (List.getElem?_eq_some_iff.mp hi).1 _
    refine ⟨hagrees, fun r hr => ?_, fun ht => ?_⟩
    · rw [hshutdown] at hr
      obtain ⟨reason, _ | _ | first⟩ := c
      · cases hbefore : w.shutdown.reason with
        | some before =>
          have hsame := (w.shutdown.extends_note reason).reason before hbefore
          exact hnoted (hbefore.trans (hsame.symm.trans hr))
        | none =>
          refine ⟨_, hself, ?_, ?_⟩
          · simp [Call.goOn, note_eq, Call.hasWon, hbefore]
          · rw [Call.reason_goOn]
            simpa [Call.goOn, note_eq, hbefore] using hr
      · exact hnoted hr
      · exact hnoted hr
    · rw [hshutdown] at ht
      obtain ⟨reason, _ | _ | first⟩ := c
      · refine hraised ?_
        rw [h.agrees.tree.isTriggered_iff, ← tokens_note w.shutdown reason]
        exact (h.agrees.tree.note reason).isTriggered_iff.mp ht
      · exact ⟨_, hself, rfl⟩
      · exact hraised ht

/-- The calls agree with the event after whatever happens. -/
theorem agrees_next (h : Agrees w.calls w.shutdown) (e : Event) :
    Agrees (w.next e).calls (w.next e).shutdown := by
  cases e with
  | call reason => exact h.call reason
  | turn i => exact h.turn i
  | derive above =>
    unfold next
    dsimp only
    split
    · next habove => exact h.child habove
    · exact h
  | cancel token =>
    unfold next
    dsimp only
    split
    · exact h
    · next hroot => exact h.cancel hroot

/-- Every event keeps it. -/
theorem Sound.next (h : w.Sound) (e : Event) : (w.next e).Sound := by
  cases e with
  | call reason =>
    exact ⟨h.agrees.call reason,
      fun r hr => (h.noted r hr).imp fun c hc => ⟨List.mem_append_left _ hc.1, hc.2⟩,
      fun ht => (h.raised ht).imp fun c hc => ⟨List.mem_append_left _ hc.1, hc.2⟩⟩
  | turn i => exact h.turn i
  | derive above =>
    unfold Clamour.next
    dsimp only
    split
    · next habove =>
      exact ⟨h.agrees.child habove, h.noted, fun ht =>
        h.raised (Agrees.isTriggered_child h.agrees.tree habove ▸ ht)⟩
    · exact h
  | cancel token =>
    unfold Clamour.next
    dsimp only
    split
    · exact h
    · next hroot =>
      exact ⟨h.agrees.cancel hroot, h.noted, fun ht =>
        h.raised (Agrees.isTriggered_cancel h.agrees.tree hroot ▸ ht)⟩

/-- It holds whatever has happened. -/
theorem sound_extend (events : List Event) : (start.extend events).Sound := by
  suffices h : ∀ w : Clamour, w.Sound → (w.extend events).Sound from
    h start ⟨.new, fun r hr => (by cases hr), fun ht => (by cases ht)⟩
  intro w hw
  induction events generalizing w with
  | nil => exact hw
  | cons e events ih => exact ih (w.next e) (hw.next e)

/-- A call stays as it is as long as it has no turn. -/
theorem getElem?_next {e : Event} {i : Nat} (he : e ≠ .turn i) {c : Call}
    (hc : w.calls[i]? = some c) : (w.next e).calls[i]? = some c := by
  cases e with
  | call reason => exact (List.getElem?_append_left (List.getElem?_eq_some_iff.mp hc).1).trans hc
  | turn j =>
    rw [show (w.next (.turn j)).calls = (w.shutdown.turn w.calls j).1 from rfl, Shutdown.turn]
    cases w.calls[j]? with
    | none => exact hc
    | some d => exact (List.getElem?_set_ne fun h => he (congrArg _ h)).trans hc
  | derive above =>
    unfold next
    dsimp only
    split <;> exact hc
  | cancel token =>
    unfold next
    dsimp only
    split <;> exact hc

/-- A call keeps its reason, and comes closer to its end with each turn that it has. -/
theorem exists_left_le (more : List Event) {i : Nat} {c : Call} (hc : w.calls[i]? = some c) :
    ∃ d, (w.extend more).calls[i]? = some d ∧ d.reason = c.reason ∧
      d.left ≤ c.left - more.count (.turn i) := by
  induction more generalizing w c with
  | nil => exact ⟨c, hc, rfl, Nat.le_refl _⟩
  | cons e more ih =>
    have hone : ∃ b, (w.next e).calls[i]? = some b ∧ b.reason = c.reason ∧
        b.left ≤ c.left - [e].count (.turn i) := by
      by_cases heq : e = .turn i
      · rw [heq, show (w.next (.turn i)).calls = (w.shutdown.turn w.calls i).1 from rfl,
          Shutdown.turn, hc]
        refine ⟨_, List.getElem?_set_self (List.getElem?_eq_some_iff.mp hc).1, c.reason_goOn _, ?_⟩
        have hleft := c.left_goOn w.shutdown
        rw [List.count_singleton_self]
        omega
      · refine ⟨c, getElem?_next heq hc, rfl, ?_⟩
        rw [List.count_singleton, if_neg fun h => heq (eq_of_beq h)]
        exact Nat.le_refl _
    obtain ⟨b, hb, hreason, hleft⟩ := hone
    obtain ⟨d, hd, hsame, hrest⟩ := ih hb
    refine ⟨d, hd, hsame.trans hreason, ?_⟩
    rw [show e :: more = [e] ++ more from rfl, List.count_append]
    omega

/-! ## What is known at any time -/

/-- Whoever has returned knows that somebody has won. -/
theorem Sound.exists_hasWon (h : w.Sound) {c : Call} (hc : c ∈ w.calls) (hleft : c.left = 0) :
    ∃ d ∈ w.calls, d.hasWon = true := by
  cases hwon : c.hasWon with
  | true => exact ⟨c, hc, hwon⟩
  | false =>
    have hlost : c.stage = .returned false := by
      rcases c with ⟨reason, _ | _ | first⟩
      · cases hleft
      · cases hleft
      · cases first with
        | true => cases hwon
        | false => rfl
    obtain ⟨r, hr⟩ := h.agrees.lost c hc hlost
    obtain ⟨d, hd, hdwon, -⟩ := h.noted r hr
    exact ⟨d, hd, hdwon⟩

/-- When all calls have returned, exactly one of them was the first. -/
theorem Sound.existsUnique_first (h : w.Sound) (hcalls : w.calls ≠ [])
    (hreturned : ∀ c ∈ w.calls, c.left = 0) :
    ∃! i : Nat, ∃ c : Call, w.calls[i]? = some c ∧ c.stage = .returned true := by
  obtain ⟨c, hc⟩ := List.exists_mem_of_ne_nil _ hcalls
  obtain ⟨d, hd, hwon⟩ := h.exists_hasWon hc (hreturned c hc)
  obtain ⟨i, hi⟩ := List.mem_iff_getElem?.mp hd
  refine ⟨i, ⟨d, hi, Call.first_of_hasWon hwon (hreturned d hd)⟩, ?_⟩
  rintro j ⟨e, hj, hfirst⟩
  exact h.agrees.alone j i e d hj hi (Call.hasWon_of_first hfirst) hwon

/-- The reason of a call that has won is read from then on for ever. -/
theorem Sound.reason_extend (h : w.Sound) {c : Call} (hc : c ∈ w.calls) (hwon : c.hasWon = true)
    (more : List Event) : (w.extend more).shutdown.reason = some c.reason :=
  (w.extends_extend more).reason _ (h.agrees.won c hc hwon)

/-- Whoever sees the event raised reads the reason of the call that was the first. -/
theorem Sound.exists_of_isTriggered (h : w.Sound) (ht : w.shutdown.isTriggered = true) :
    ∃ c ∈ w.calls, c.stage = .returned true ∧
      ∀ more, (w.extend more).shutdown.reason = some c.reason := by
  obtain ⟨c, hc, hfirst⟩ := h.raised ht
  exact ⟨c, hc, hfirst, h.reason_extend hc (Call.hasWon_of_first hfirst)⟩

/-- A clamour is sound after any further events. -/
theorem sound_more (events more : List Event) : ((start.extend events).extend more).Sound := by
  rw [← extend_append]
  exact sound_extend (events ++ more)

/-- Once the first call has returned all tokens are cancelled, now and for ever. -/
theorem isCancelled_extend {events : List Event} (hw : w = start.extend events) {c : Call}
    (hc : c ∈ w.calls) (hfirst : c.stage = .returned true) (more : List Event) {t : TokenId}
    (ht : t < (w.extend more).shutdown.tokens.length) :
    (w.extend more).shutdown.isCancelled t = true := by
  subst hw
  have hbefore := (sound_extend events).agrees
  have hafter := (sound_more events more).agrees.tree
  have hraised := (extends_extend _ more).isCancelled hbefore.tree hafter (hbefore.first c hc hfirst)
  exact hafter.isCancelled_of_isTriggered hraised ht

end Clamour

end Diameter.Shutdown
