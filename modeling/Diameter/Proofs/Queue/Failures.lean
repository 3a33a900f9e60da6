import Diameter.Proofs.Queue.Figures
import Diameter.Proofs.Queue.Refusals

/-!
# Calls that fail

A call that returns an error has done nothing to a queue but wait there. One that answers at
once looks for every obstacle before it changes anything. One that may wait can do many things
before it fails: it follows redirects, waits, is woken and waits again; none of these changes
what a queue holds. Main statement: every event of a call that fails leaves the contents of all
queues alone and reports no crossing, and when it has failed it stands in no line and no count
has it.
-/

namespace Diameter.Queue

variable {α η : Type}

/-- The error of a call that ends so. -/
def Outcome.error? : Outcome α → Option QueueError
  | .refused _ e | .failed e => some e
  | .stored | .took _ => none

/-- The error of a call that answers at once. -/
def errorOf? {β : Type} : Except QueueError β → Option QueueError
  | .error e => some e
  | .ok _ => none

/-- The call has stored or taken an item. -/
def Spot.Succeeded (spot : Spot α) : Prop :=
  ∃ outcome, spot = .ended outcome ∧ outcome.error? = none

/-- A call that ended with an error found a destroyed queue, and gave its item back if it had
one, or it had a deadline. -/
def Spot.Accounts (r : Request α) : Spot α → Prop
  | .ended outcome => outcome.error?.isSome →
      outcome = r.refusal ∨ outcome = .failed .timeout ∧ r.deadline?.isSome
  | _ => True

/-- A call that has succeeded has no queue to do with. -/
theorem Spot.Succeeded.not_facing {spot : Spot α} (h : spot.Succeeded) (q : QueueId) :
    spot ≠ .facing q := by
  obtain ⟨outcome, rfl, -⟩ := h
  exact nofun

/-- Only a call that is made now appears, and it has to do with its queue. -/
theorem Outline.Step.appears {o o' : Outline α} {made : Option (Request α)}
    {taken : Option (Taking α)} (h : o.Step made taken o') {c : CallerId} {r : Request α}
    {spot : Spot α} (hc : o.calls[c]? = none) (hc' : o'.calls[c]? = some (r, spot)) :
    ∃ q, spot = .facing q := by
  rcases h.calls with he | ⟨r', q, -, he⟩ | ⟨d, r', q, spot', hd, he⟩
  · rw [he, hc] at hc'
    cases hc'
  · rw [he, List.getElem?_append_right (List.getElem?_eq_none_iff.mp hc)] at hc'
    exact ⟨q, congrArg Prod.snd (List.mem_singleton.mp (List.mem_of_getElem? hc'))⟩
  · rw [he, List.getElem?_set] at hc'
    split_ifs at hc' with hdc
    · rw [hdc, hc] at hd
      cases hd
    · rw [hc] at hc'
      cases hc'

namespace System

/-- The error that is returned at an event, where a call answers at once. A queue is destroyed
by closing it first. -/
def errorAt? (s : System α η) : Event α η → Option QueueError
  | .tryPop handle => errorOf? (s.tryPop handle).1
  | .setThresholds handle high low handler => errorOf? (s.setThresholds handle high low handler).1
  | .move source target => errorOf? (s.move source target).1
  | .close q => errorOf? (s.destroy q).1
  | _ => none

/-- The call whose event this is. One that is made comes last. -/
def actor? (s : System α η) : Event α η → Option CallerId
  | .call _ _ => some s.callers.length
  | e => e.mover?

/-- By this event of its own the call has stored or taken an item, or the contents were left
alone and the call can account for its end, if it has ended. -/
def Clean (s : System α η) (e : Event α η) (c : CallerId) (r : Request α) : Prop :=
  ∃ spot, (s.perform e).system.outline.calls[c]? = some (r, spot) ∧
    (spot.Succeeded ∨ s.Keeps e ∧ spot.Accounts r)

/-- The system without one of its calls. -/
def without (s : System α η) (c : CallerId) : System α η :=
  { s with callers := s.callers.eraseIdx c }

/-- The call stands in no line, and each count is what it is without the call. -/
def Unregistered (s : System α η) (c : CallerId) : Prop :=
  ∀ q side, c ∉ ((s.queue q).waiting side).parked ∧
    ((s.queue q).waiting side).count = (s.without c).tally side (Stage.isCounted q)

variable {s : System α η} {c : CallerId} {r : Request α} {stage : Stage α} {e : Event α η}

/-! ## Calls that answer at once -/

/-- A call that answers with an error has changed nothing at all by then. -/
theorem perform_of_errorAt {err : QueueError} (h : s.errorAt? e = some err) :
    s.perform e = s.quietly := by
  cases e with
  | tryPop handle =>
    rcases ht : s.tryPop handle with ⟨e | item, after, crossing⟩
    · obtain ⟨rfl, rfl⟩ := tryPop_error_eq ht
      simp only [perform, ht, quietly]
    · simp only [errorAt?, ht, errorOf?, reduceCtorEq] at h
  | setThresholds handle high low handler =>
    rcases hs : s.setThresholds handle high low handler with ⟨e | done, after⟩
    · obtain rfl := setThresholds_error_eq hs
      simp only [perform, hs]
    · simp only [errorAt?, hs, errorOf?, reduceCtorEq] at h
  | move source target =>
    rcases hm : s.move source target with ⟨e | done, after, crossing⟩
    · obtain ⟨rfl, rfl⟩ := move_error_eq hm
      simp only [perform, hm, quietly, ite_self]
    · simp only [errorAt?, hm, errorOf?, reduceCtorEq] at h
  | close q =>
    rcases hd : s.destroy q with ⟨e | done, after⟩
    · rw [perform, (destroy_error_eq hd).1]
    · simp only [errorAt?, hd, errorOf?, reduceCtorEq] at h
  | _ => cases h

/-! ## What a call does until it fails -/

/-- The outline has every call with the spot of its stage. -/
theorem calls_of_callers (h : s.callers[c]? = some ⟨r, stage⟩) :
    s.outline.calls[c]? = some (r, stage.spot) := by
  rw [outline_calls_getElem?, h, Option.map_some]

/-- A call that looks at a queue stores or takes, or it changes no contents. -/
theorem examine_succeeds_or_keeps (hc : s.callers[c]? = some ⟨r, stage⟩) {q : QueueId}
    (hf : stage.spot = .facing q) (hq : q < s.queues.length) :
    ∃ spot, (s.examine c r q).1.outline.calls[c]? = some (r, spot) ∧
      (spot.Succeeded ∨ ((∀ p, ((s.examine c r q).1.queue p).contents = (s.queue p).contents) ∧
        (s.examine c r q).2 = none) ∧ spot.Accounts r) := by
  have hx := getElem?_queues hq
  have hset (new : Stage α) : (s.setStage c new).outline.calls[c]? = some (r, new.spot) :=
    calls_of_callers (callers_setStage hc)
  have hwait (side : Side) : (s.suspend q side c).outline.calls[c]? = some (r, .facing q) := by
    rw [outline_suspend s side hc hf, calls_of_callers hc, hf]
  unfold examine
  dsimp only
  split
  · exact ⟨_, hset _, .inr ⟨⟨fun _ => rfl, rfl⟩, fun _ => .inl rfl⟩⟩
  · exact ⟨_, hset _, .inr ⟨⟨fun _ => rfl, rfl⟩, fun _ => .inl rfl⟩⟩
  · exact ⟨_, hset _, .inr ⟨⟨fun _ => rfl, rfl⟩, trivial⟩⟩
  · next item hl hr =>
    split_ifs
    · exact ⟨_, hwait _, .inr ⟨⟨fun p => contents_suspend s q p _ c, rfl⟩, trivial⟩⟩
    · refine ⟨.ended .stored, ?_, .inl ⟨_, rfl, rfl⟩⟩
      rw [outline_store _ item (by exact hx)]
      exact hset _
  · next deadline hl hr =>
    split
    · exact ⟨_, hwait _, .inr ⟨⟨fun p => contents_suspend s q p _ c, rfl⟩, trivial⟩⟩
    · next item rest hi =>
      refine ⟨.ended (.took item), ?_, .inl ⟨_, rfl, rfl⟩⟩
      rw [outline_takeHead _ rest (by exact hx)]
      exact hset _

/-- The call is not at a stage at which it can do this. -/
theorem clean_of_eq (hc : s.callers[c]? = some ⟨r, stage⟩) (hs : stage.spot.Accounts r)
    (h : s.perform e = s.quietly) : s.Clean e c r := by
  refine ⟨stage.spot, ?_, .inr ⟨keeps_of_eq h, hs⟩⟩
  rw [h]
  exact calls_of_callers hc

/-- The call goes to another stage, and perhaps a line or a count is changed for it. -/
theorem clean_of_setStage {t : System α η} {new : Stage α}
    (hc : s.callers[c]? = some ⟨r, stage⟩) (h : s.perform e = (t.setStage c new).quietly)
    (ht : ∀ q, (t.queue q).contents = (s.queue q).contents) (hcallers : t.callers = s.callers)
    (hnew : new.spot.Accounts r) : s.Clean e c r := by
  refine ⟨new.spot, ?_, .inr ⟨⟨fun q => ?_, ?_⟩, hnew⟩⟩
  · rw [h]
    exact calls_of_callers (callers_setStage (hcallers ▸ hc))
  · rw [h]
    exact ht q
  · rw [h]
    rfl

/-- A call that goes on has stored or taken an item, or left everything alone. -/
theorem clean_turn (hrange : s.outline.InRange) (hc : s.callers[c]? = some ⟨r, stage⟩)
    (hs : stage.spot.Accounts r) : s.Clean (.turn c) c r := by
  cases stage with
  | ready q recalled =>
    have hturn : s.turn c = s.examine c r q := by simp only [turn, hc]
    obtain ⟨spot, hspot, h⟩ :=
      examine_succeeds_or_keeps hc rfl (lt_length_of_facing hrange hc rfl)
    rw [← hturn] at hspot h
    exact ⟨spot, hspot, h.imp_right fun hk => ⟨⟨hk.1.1, hk.1.2⟩, hk.2⟩⟩
  | woken q cause =>
    have hready := (turn_of_woken hc).1
    refine ⟨_, calls_of_callers hready, .inr ⟨⟨fun p => ?_, ?_⟩, trivial⟩⟩
    · simp only [perform, turn, hc]
      exact contents_modifyWaiting s q p r.side _
    · simp only [perform, turn, hc]
  | _ => exact clean_of_eq hc hs (by simp [perform, turn, outcome?, takenBy?, quietly, hc])

/-- A call that is given up has left everything alone. -/
theorem clean_abandon (hc : s.callers[c]? = some ⟨r, stage⟩) (hs : stage.spot.Accounts r) :
    s.Clean (.abandon c) c r := by
  have hnext : s.perform (.abandon c) = (s.abandon c).quietly := rfl
  simp only [abandon, hc] at hnext
  split at hnext
  · exact clean_of_setStage hc hnext (fun _ => rfl) rfl trivial
  · exact clean_of_eq hc hs hnext

/-- A call that leaves the count has left everything alone. If it is late it has a deadline. -/
theorem clean_withdraw (hc : s.callers[c]? = some ⟨r, stage⟩) (hs : stage.spot.Accounts r)
    (late : Bool) : s.Clean (.withdraw c late) c r := by
  have hnext : s.perform (.withdraw c late) =
      if late && !s.isTimed c then s.quietly else (s.withdraw c late).quietly := rfl
  split_ifs at hnext with htimed
  · exact clean_of_eq hc hs hnext
  · have hleaving (q : QueueId) (cause : Option WokenBy) :
        (Stage.leaving q cause late : Stage α).spot.Accounts r := by
      cases late with
      | false => trivial
      | true =>
        refine fun _ => .inr ⟨rfl, ?_⟩
        simpa [isTimed, hc, Option.isSome_iff_ne_none] using htimed
    have hresumes (q p : QueueId) := contents_modifyWaiting s q p r.side (·.resume)
    simp only [withdraw, hc] at hnext
    cases stage with
    | parked q => exact clean_of_setStage hc hnext (hresumes q) rfl (hleaving _ _)
    | woken q cause => exact clean_of_setStage hc hnext (hresumes q) rfl (hleaving _ _)
    | _ => exact clean_of_eq hc hs hnext

/-- Leaving the line moves no call, so what accounted for its end still does. -/
theorem clean_depart (hc : s.callers[c]? = some ⟨r, stage⟩) (hs : stage.spot.Accounts r) :
    s.Clean (.depart c) c r := by
  refine ⟨stage.spot, ?_, .inr ⟨keeps_depart s c, hs⟩⟩
  rw [perform, quietly, outline_depart]
  exact calls_of_callers hc

/-- Every event of a call is clean. -/
theorem clean_of_mover (hrange : s.outline.InRange) (hc : s.callers[c]? = some ⟨r, stage⟩)
    (hs : stage.spot.Accounts r) (he : e.mover? = some c) : s.Clean e c r := by
  cases e with
  | turn d =>
    obtain rfl := Option.some.inj he
    exact clean_turn hrange hc hs
  | abandon d =>
    obtain rfl := Option.some.inj he
    exact clean_abandon hc hs
  | withdraw d late =>
    obtain rfl := Option.some.inj he
    exact clean_withdraw hc hs late
  | depart d =>
    obtain rfl := Option.some.inj he
    exact clean_depart hc hs
  | _ => cases he

/-- A call that is made now, or does not exist, changes no contents. -/
theorem keeps_of_absent (hc : s.callers[c]? = none) (he : s.actor? e = some c) : s.Keeps e := by
  cases e with
  | call handle r => exact keeps_call s handle r
  | turn d =>
    obtain rfl := Option.some.inj he
    exact keeps_of_eq (by simp [perform, turn, outcome?, takenBy?, quietly, hc])
  | abandon d => exact keeps_abandon s d
  | withdraw d late => exact keeps_withdraw s d late
  | depart d => exact keeps_depart s d
  | _ => cases he

/-! ## What is left of a call at its end -/

/-- A tally goes without the calls that it does not count. -/
theorem tally_without (hc : s.callers[c]? = some ⟨r, stage⟩) {kind : Stage α → Bool}
    (hk : kind stage = false) (side : Side) :
    (s.without c).tally side kind = s.tally side kind := by
  obtain ⟨hl, hget⟩ := List.getElem?_eq_some_iff.mp hc
  have hperm := (List.getElem_cons_eraseIdx_perm hl).countP_eq
    fun x => decide (x.request.side = side) && kind x.stage
  rw [hget, List.countP_cons_of_neg (by simp [hk])] at hperm
  exact hperm

/-- A call that is nowhere is out of every line and count. -/
theorem unregistered_of_place (hl : ∀ q side, s.Lined q side)
    (hc : s.callers[c]? = some ⟨r, stage⟩) (hs : stage.place? = none) : s.Unregistered c := by
  intro q side
  constructor
  · intro hm
    obtain ⟨r', stage', hc', -, hstands⟩ := ((hl q side).mem_iff c).mp hm
    cases hc.symm.trans hc'
    rw [tells_eq_false (tells_isStanding q) hs] at hstands
    cases hstands
  · rw [(hl q side).count_eq, tally_without hc (tells_eq_false (tells_isCounted q) hs)]

end System

namespace Course

/-- Every event of a call leaves the contents of all queues alone. -/
def Harmless (events : List (Event α η)) (c : CallerId) : Prop :=
  ∀ earlier e later, events = earlier ++ e :: later →
    (after earlier).system.actor? e = some c → (after earlier).system.Keeps e

/-- One more event that leaves the contents alone leaves a call harmless. -/
theorem Harmless.concat {events : List (Event α η)} {c : CallerId} (h : Harmless events c)
    {e : Event α η}
    (he : (after events).system.actor? e = some c → (after events).system.Keeps e) :
    Harmless (events ++ [e]) c := by
  intro earlier e' later hsplit
  rcases List.eq_nil_or_concat later with rfl | ⟨later', last, rfl⟩
  · obtain ⟨rfl, hlast⟩ := List.append_inj' hsplit rfl
    obtain rfl := List.head_eq_of_cons_eq hlast
    exact he
  · rw [List.concat_eq_append, ← List.cons_append, ← List.append_assoc] at hsplit
    exact h earlier e' later' (List.append_inj' hsplit rfl).1

/-- A call has stored or taken an item, or all its events were harmless. By induction on the
events: the call is made by the last one, or it goes on or gives up by it, or others can only have
woken it. -/
theorem succeeded_or_harmless (events : List (Event α η)) (c : CallerId) :
    (∃ r spot, (after events).system.outline.calls[c]? = some (r, spot) ∧ spot.Succeeded) ∨
    Harmless events c ∧ ∀ r spot,
      (after events).system.outline.calls[c]? = some (r, spot) → spot.Accounts r := by
  induction events using List.reverseRecOn with
  | nil =>
    refine .inr ⟨fun earlier e later h => absurd h (by simp), fun r spot h => ?_⟩
    cases h
  | append_singleton events e ih =>
    have hk := charted_after events
    have hstep := hk.step e
    rw [after_concat]
    rcases ih with ⟨r, spot, hcall, hs⟩ | ⟨hharmless, haccounts⟩
    · exact .inl ⟨r, spot, hstep.ended_kept hcall hs.not_facing, hs⟩
    rcases hc : (after events).system.callers[c]? with _ | ⟨r, stage⟩
    · refine .inr ⟨hharmless.concat (System.keeps_of_absent hc), fun r spot hcall => ?_⟩
      have hnone : (after events).system.outline.calls[c]? = none := by
        rw [System.outline_calls_getElem?, hc, Option.map_none]
      obtain ⟨q, rfl⟩ := hstep.appears hnone hcall
      trivial
    have hs := haccounts r _ (System.calls_of_callers hc)
    by_cases he : e.mover? = some c
    · obtain ⟨spot, hspot, hsucceeded | ⟨hkeeps, hspot'⟩⟩ :=
        System.clean_of_mover hk.inRange hc hs he
      · exact .inl ⟨r, spot, hspot, hsucceeded⟩
      · refine .inr ⟨hharmless.concat fun _ => hkeeps, fun r' spot' hcall => ?_⟩
        cases hspot.symm.trans hcall
        exact hspot'
    · obtain ⟨stage', hget, hretreat⟩ := hk.retreat_of_others hc he
      refine .inr ⟨hharmless.concat fun hactor => ?_, fun r' spot' hcall => ?_⟩
      · have hlength := (List.getElem?_eq_some_iff.mp hc).1
        cases e with
        | call handle r' =>
          obtain rfl := Option.some.inj hactor
          exact absurd hlength (Nat.lt_irrefl _)
        | _ => exact absurd hactor he
      · cases (System.calls_of_callers hget).symm.trans hcall
        cases hretreat with
        | stays _ _ => exact hs
        | wakes _ => trivial
        | hears _ => exact hs
        | _ => exact absurd rfl he

/-- At every moment a call that answers at once with an error, be it that nothing is there to
take, that thresholds are refused or set already, that a queue cannot be moved or that it cannot
be destroyed, leaves everything as it was; a queue that cannot be destroyed wakes nobody either.
And whenever a push, a pop or a timed pop has ended with an
error: it is the one of a destroyed queue, with the very item of a push given back, or a pop
with a deadline timed out; every single event of the call, from when it was made to when it
ended, left the items, capacity, lifecycle, redirect, greatest depth, handler and last crossing
of all queues as others had left them and reported no crossing; and the call stands in no line
and is in no count. -/
theorem failed_calls_leave_no_trace (events : List (Event α η)) :
    let k := after events
    (∀ e err, k.system.errorAt? e = some err → k.next e = k) ∧
    (∀ q err after, k.system.destroy q = (.error err, after) → after = k.system) ∧
    ∀ c r outcome err, k.system.callers[c]? = some ⟨r, .ended outcome⟩ →
      outcome.error? = some err →
      (outcome = r.refusal ∨ outcome = .failed .timeout ∧ r.deadline?.isSome) ∧
      (∀ earlier e later, events = earlier ++ e :: later →
        (after earlier).system.actor? e = some c → (after earlier).system.Keeps e) ∧
      k.system.Unregistered c := by
  intro k
  refine ⟨fun e err h => ?_, fun q err after h => ?_, fun c r outcome err hc herr => ?_⟩
  · exact next_of_quietly (System.perform_of_errorAt h)
  · exact (System.destroy_error_eq h).2
  · have hcall := System.calls_of_callers hc
    rcases succeeded_or_harmless events c with
      ⟨r', spot, hspot, outcome', rfl, hnone⟩ | ⟨hharmless, haccounts⟩
    · cases hcall.symm.trans hspot
      rw [herr] at hnone
      cases hnone
    · refine ⟨haccounts r _ hcall (by rw [herr]; rfl), hharmless, ?_⟩
      exact System.unregistered_of_place (alert_extend alert_start events).awake.lined hc rfl

/-- A producer is blocked behind an item, a pop with a deadline waits at another queue and times
out, then the item is taken, the queue is closed, and the producer goes on. -/
def refusedAndLate : List (Event Nat Unit) :=
  [.addQueue 1, .addQueue 0, .call 0 (.push 7), .turn 0, .call 0 (.push 8), .turn 1,
    .call 1 (.pop (some 5)), .turn 2, .withdraw 2 true, .depart 2, .tryPop 0, .close 0, .turn 1,
    .turn 1]

/-- A queue with an item and a blocked producer can be neither moved nor closed nor destroyed, an
empty one gives no item, thresholds the wrong way round are not set, and the blocked push and the
late pop end with their errors. None of these calls has left anything behind. -/
theorem refused_and_late_leave_no_trace :
    let blocked := after (refusedAndLate.take 10)
    let k := after refusedAndLate
    blocked.next (.move 0 1) = blocked ∧ blocked.next (.close 0) = blocked ∧
      (blocked.system.destroy 0).2 = blocked.system ∧
      k.next (.tryPop 1) = k ∧ k.next (.setThresholds 1 1 2 ()) = k ∧
      k.system.callers[1]? = some ⟨.push 8, .ended (.refused 8 .closed)⟩ ∧
      k.system.callers[2]? = some ⟨.pop (some 5), .ended (.failed .timeout)⟩ ∧
      (after (refusedAndLate.take 13)).system.Keeps (.turn 1) ∧
      (after (refusedAndLate.take 8)).system.Keeps (.withdraw 2 true) ∧
      k.system.Unregistered 1 ∧ k.system.Unregistered 2 := by
  intro blocked k
  obtain ⟨hblocked, hheld, -⟩ := failed_calls_leave_no_trace (refusedAndLate.take 10)
  obtain ⟨hnow, -, hends⟩ := failed_calls_leave_no_trace refusedAndLate
  have hproducer : k.system.callers[1]? = some ⟨.push 8, .ended (.refused 8 .closed)⟩ := by decide
  have hconsumer : k.system.callers[2]? = some ⟨.pop (some 5), .ended (.failed .timeout)⟩ := by
    decide
  obtain ⟨-, hrefused, hout⟩ := hends 1 _ _ .closed hproducer rfl
  obtain ⟨-, hlate, hout'⟩ := hends 2 _ _ .timeout hconsumer rfl
  exact ⟨hblocked _ (.producersBlocked 1) (by decide), hblocked _ (.notEmpty 1) (by decide),
    hheld 0 (.notEmpty 1) _ rfl, hnow _ .wouldBlock (by decide),
    hnow _ (.invalidThresholds 1 2) (by decide), hproducer, hconsumer,
    hrefused _ _ [] rfl (by decide), hlate _ _ (refusedAndLate.drop 9) rfl (by decide), hout, hout'⟩

end Course

end Diameter.Queue
