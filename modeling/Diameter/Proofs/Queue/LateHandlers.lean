import Diameter.Proofs.Queue.Destruction
import Diameter.Proofs.Queue.Figures

/-!
# Handlers of queues that were destroyed

A queue that is destroyed has no handler at that moment, and refuses calls from then on. It does
not refuse a handler. Main statement: through each handle that a destroyed queue serves every
operation is refused, except that a handler is attached if there is none; and whatever handler a
destroyed queue has was attached after it was destroyed.
-/

namespace Diameter.Queue

variable {α η : Type}

namespace System

theorem watermark_of_contents {x y : Queue α η} (h : x.contents = y.contents) :
    x.watermark = y.watermark := by
  have hw : x.contents.watermark = y.contents.watermark := by rw [h]
  exact hw

theorem watermark_of_ledger {x y : Queue α η} (h : x.ledger = y.ledger) :
    x.watermark = y.watermark :=
  watermark_of_contents (contents_eq_of_ledger h)

/-- A call that looks at one queue does nothing to the handler of another one. -/
theorem watermark_examine_other (s : System α η) (c : CallerId) (r : Request α) {p q : QueueId}
    (hp : p < s.queues.length) (hq : q ≠ p) :
    ((s.examine c r p).1.queue q).watermark = (s.queue q).watermark := by
  unfold examine
  dsimp only
  split
  · rfl
  · rfl
  · rfl
  · split_ifs
    · exact watermark_of_contents (contents_suspend s p q .producer c)
    · exact watermark_of_ledger ((ledger_store (s.setStage c _) hp q _).trans (if_neg hq))
  · split
    · exact watermark_of_contents (contents_suspend s p q .consumer c)
    · exact watermark_of_ledger ((ledger_takeHead (s.setStage c _) hp q _).trans (if_neg hq))

/-- Attaching a handler to a destroyed queue, or detaching it, is all that changes its
handler. -/
theorem watermark_perform_of_destroyed {s : System α η} (hr : s.outline.InRange) {q : QueueId}
    (h : (s.queue q).lifecycle = .destroyed) {e : Event α η}
    (he : ∀ handle high low handler, e ≠ .setThresholds handle high low handler) :
    ((s.perform e).system.queue q).watermark = (s.queue q).watermark ∨
      ((s.perform e).system.queue q).watermark = none := by
  have hlength : q < s.queues.length :=
    lt_length_of_not_serves fun hs => by cases hs.1.symm.trans h
  have hother {p : QueueId} (hp : (s.queue p).lifecycle = .usable) : q ≠ p := by
    rintro rfl
    cases hp.symm.trans h
  have hkept (hk : s.Keeps e) : ((s.perform e).system.queue q).watermark = (s.queue q).watermark :=
    watermark_of_contents (hk.contents q)
  cases e with
  | addQueue capacity =>
    refine .inl (congrArg Queue.watermark ?_)
    simp only [perform, quietly, addQueue, queue, List.getD_eq_getElem?_getD,
      List.getElem?_append_left hlength]
  | call handle r => exact .inl (hkept (keeps_call s handle r))
  | turn c =>
    refine .inl ?_
    simp only [perform, turn]
    split
    · next r p recalled hc =>
      by_cases hp : q = p
      · subst hp
        rw [examine_of_destroyed h]
        rfl
      · exact watermark_examine_other s c r (lt_length_of_facing hr hc rfl) hp
    · exact watermark_of_contents (contents_modifyWaiting s _ q _ (·.resume))
    · rfl
  | abandon c => exact .inl (hkept (keeps_abandon s c))
  | withdraw c late => exact .inl (hkept (keeps_withdraw s c late))
  | depart c => exact .inl (hkept (keeps_depart s c))
  | tryPop handle =>
    refine .inl ?_
    simp only [perform, tryPop]
    cases hl : (s.queue (s.serving handle)).lifecycle with
    | destroyed => rfl
    | usable =>
      cases hi : (s.queue (s.serving handle)).items with
      | nil => rfl
      | cons item rest =>
        exact watermark_of_ledger
          ((ledger_takeHead s (lt_length_of_items hi) q rest).trans (if_neg (hother hl)))
  | setThresholds handle high low handler => exact absurd rfl (he handle high low handler)
  | clearThresholds handle =>
    simp only [perform, quietly, clearThresholds]
    rw [queue_modifyQueue]
    split_ifs
    · exact .inr rfl
    · exact .inl rfl
  | move source target =>
    refine .inl ?_
    simp only [perform]
    split_ifs with hq
    · rcases hm : s.move source target with ⟨e | done, after, crossing⟩
      · obtain ⟨rfl, -⟩ := move_error_eq hm
        rfl
      · obtain ⟨-, ⟨hs, ht⟩, -, -⟩ := moveObstacle_eq_none (moveObstacle_of_move hm)
        refine watermark_of_ledger ((ledger_move hq.1 hq.2 hm q).trans ?_)
        rw [if_neg (hother ht), if_neg (hother hs)]
    · rfl
  | close p =>
    refine .inl ?_
    simp only [perform, quietly]
    rcases hc : s.close p with ⟨e | done, after⟩
    · obtain rfl := close_error_eq hc
      rfl
    · obtain ⟨-, -, -, rfl⟩ := of_close hc
      rw [queue_modifyQueue]
      split_ifs <;> rfl
  | wakeAll p side => exact .inl (hkept (keeps_wakeAll s p side))

/-- A move from a destroyed queue or into one is refused. -/
theorem move_of_destroyed {s : System α η} {source target : QueueId} (hn : source ≠ target)
    (h : (s.queue source).lifecycle = .destroyed ∨ (s.queue target).lifecycle = .destroyed) :
    s.move source target = (.error .closed, s, none) := by
  simp only [move, if_neg hn, if_pos h]

end System
namespace Course

/-- What is known of a handler that a destroyed queue has: it was attached, through a handle that
the queue served, when the queue was destroyed already, and it was told nothing. -/
def AttachedLate (events : List (Event α η)) (q : QueueId) (w : Watermark η) : Prop :=
  ∃ earlier later handle high low handler,
    events = earlier ++ .setThresholds handle high low handler :: later ∧
    ((after earlier).system.queue q).lifecycle = .destroyed ∧
    (after earlier).system.serving handle = q ∧ low < high ∧ w = ⟨high, low, 0, handler⟩

/-- What was attached late was attached late, whatever happens afterwards. -/
theorem AttachedLate.concat {events : List (Event α η)} {q : QueueId} {w : Watermark η}
    (h : AttachedLate events q w) (e : Event α η) : AttachedLate (events ++ [e]) q w := by
  obtain ⟨earlier, later, handle, high, low, handler, rfl, hrest⟩ := h
  exact ⟨earlier, later ++ [e], handle, high, low, handler, by simp, hrest⟩

/-- A queue that an event destroys has no handler. -/
theorem watermark_of_destroys {s : System α η} (hr : s.outline.InRange) (ht : s.outline.Tame)
    {e : Event α η} {q : QueueId} (hl : (s.queue q).lifecycle ≠ .destroyed)
    (hd : ((s.perform e).system.queue q).lifecycle = .destroyed) :
    ((s.perform e).system.queue q).watermark = none := by
  have hledger (x : Queue α η) : x.ledger.lifecycle = x.lifecycle ∧
      x.ledger.watermark = x.watermark := ⟨rfl, rfl⟩
  rw [← (hledger _).1] at hl hd
  rw [← (hledger _).2]
  rcases System.alters_perform hr ht e q with ⟨-, hchange⟩ | ⟨side, -, hresumed⟩
  · generalize (s.queue q).ledger = x at hchange hl
    generalize ((s.perform e).system.queue q).ledger = y at hchange hd
    cases hchange with
    | made => cases hd
    | closed _ _ hw => exact hw
    | @joined _ side _ => exact absurd (by cases side <;> exact hd) hl
    | _ => exact absurd hd hl
  · rw [hresumed] at hd
    exact absurd (by cases side <;> exact hd) hl

/-- Whatever handler a destroyed queue has was attached after it was destroyed. -/
theorem attachedLate_of_watermark (events : List (Event α η)) {q : QueueId}
    (h : ((after events).system.queue q).lifecycle = .destroyed) {w : Watermark η}
    (hw : ((after events).system.queue q).watermark = some w) : AttachedLate events q w := by
  induction events using List.reverseRecOn with
  | nil =>
    rw [System.queue_of_length_le (Nat.zero_le q)] at h
    cases h
  | append_singleton events e ih =>
    rw [after_concat] at h hw
    have hk : (after events).Charted := charted_after events
    by_cases hl : ((after events).system.queue q).lifecycle = .destroyed
    · have hkept (he : ((after events).system.perform e).system.queue q =
          (after events).system.queue q) : AttachedLate (events ++ [e]) q w := by
        rw [he] at hw
        exact (ih hl hw).concat e
      by_cases he : ∀ handle high low handler, e ≠ .setThresholds handle high low handler
      · rcases System.watermark_perform_of_destroyed hk.inRange hl he with hsame | hnone
        · rw [hsame] at hw
          exact (ih hl hw).concat e
        · cases hw.symm.trans hnone
      · push Not at he
        obtain ⟨handle, high, low, handler, rfl⟩ := he
        have hperform : ((after events).system.perform
            (.setThresholds handle high low handler)).system =
              ((after events).system.setThresholds handle high low handler).2 := rfl
        rcases hs : (after events).system.setThresholds handle high low handler with
          ⟨e | done, attached⟩
        · rw [hs, System.setThresholds_error_eq hs] at hperform
          exact hkept (congrArg (System.queue · q) hperform)
        · obtain ⟨hlt, -, heq⟩ := System.of_setThresholds hs
          rw [hs, heq] at hperform
          by_cases hq : q = (after events).system.serving handle
          · refine ⟨events, [], handle, high, low, handler, rfl, hl, hq.symm, hlt, ?_⟩
            have hlength := System.lt_length_of_not_serves fun hs => by
              cases hs.1.symm.trans hl
            rw [hperform, ← hq, System.queue_modifyQueue_self _ hlength] at hw
            exact (Option.some.inj hw).symm
          · exact hkept (by rw [hperform]; exact System.queue_modifyQueue_other _ hq _)
    · rw [watermark_of_destroys hk.inRange hk.tame hl h] at hw
      cases hw

/-- A destroyed queue refuses to be destroyed again and to be moved, and through each handle that
it serves nothing is taken and every call is refused. A handler it does not refuse: with
thresholds in order one is attached if there is none, and the queue stays destroyed. Each handler
that it has has come so. -/
theorem destroyed_refuses_all_but_handlers (events : List (Event α η)) {q : QueueId}
    (h : ((after events).system.queue q).lifecycle = .destroyed) :
    let k := after events
    k.system.destroy q = (.error .closed, k.system) ∧
    (∀ other, other ≠ q → k.system.move q other = (.error .closed, k.system, none) ∧
      k.system.move other q = (.error .closed, k.system, none)) ∧
    (∀ handle, k.system.serving handle = q → k.Shut handle ∧
      ∀ high low handler, low < high →
        ((k.system.queue q).watermark ≠ none →
          k.system.setThresholds handle high low handler =
            (.error .thresholdsAlreadySet, k.system)) ∧
        ((k.system.queue q).watermark = none →
          ∃ attached, k.system.setThresholds handle high low handler = (.ok (), attached) ∧
            (attached.queue q).watermark = some ⟨high, low, 0, handler⟩ ∧
            (attached.queue q).lifecycle = .destroyed)) ∧
    ∀ w, (k.system.queue q).watermark = some w → AttachedLate events q w := by
  intro k
  have hk : k.Charted := charted_after events
  have ha : k.Alert := alert_extend alert_start events
  have hlength := System.lt_length_of_not_serves fun hs => by cases hs.1.symm.trans h
  refine ⟨?_, fun other hn => ⟨?_, ?_⟩, fun handle hserving => ⟨?_, ?_⟩,
    fun w hw => attachedLate_of_watermark events h hw⟩
  · have hclose : k.system.close q = (.error .closed, k.system) := by
      simp only [System.close, k, h, if_true]
    rw [System.destroy, hclose]
  · exact System.move_of_destroyed hn.symm (.inl h)
  · exact System.move_of_destroyed hn (.inr h)
  · refine ha.shut hk ((System.refuses_iff_serving hk.tame handle).mpr ?_)
    rw [hserving]
    exact h
  · intro high low handler hlt
    simp only [System.setThresholds, hserving, if_neg (Nat.not_le_of_lt hlt)]
    refine ⟨fun hw => ?_, fun hw => ?_⟩
    · rw [if_pos (Option.isSome_iff_ne_none.mpr hw)]
    · simp only [hw, Option.isSome_none, Bool.false_eq_true, if_false]
      refine ⟨_, rfl, ?_, ?_⟩
      · rw [System.queue_modifyQueue_self _ hlength]
      · rw [System.queue_modifyQueue_self _ hlength]
        exact h

/-- An alarm is attached to a queue that was destroyed, and stays there. -/
theorem handler_attached_after_destruction :
    let events : List (Event Nat Unit) :=
      [.addQueue 0, .close 0, .wakeAll 0 .consumer, .wakeAll 0 .producer]
    ((after events).system.queue 0).lifecycle = .destroyed ∧
      ∃ attached, (after events).system.setThresholds 0 2 1 () = (.ok (), attached) ∧
        (attached.queue 0).watermark = some ⟨2, 1, 0, ()⟩ ∧
        (attached.queue 0).lifecycle = .destroyed := by
  intro events
  have hdestroyed : ((after events).system.queue 0).lifecycle = .destroyed := by decide
  have hall := destroyed_refuses_all_but_handlers events hdestroyed
  exact ⟨hdestroyed, ((hall.2.2.1 0 (by decide)).2 2 1 () (by decide)).2 (by decide)⟩

end Course

end Diameter.Queue
