import Diameter.Proofs.Queue.Ledger
import Diameter.Proofs.Queue.NoLostWakeup
import Mathlib.Order.Bounds.Basic

/-!
# The figures of every queue

Whenever nobody holds its lock, a bounded queue holds no more than its capacity, shows its
depth, knows its greatest depth and how many calls wait, and has no items, handler or blocked
producers once another queue serves instead of it. Each change keeps this; the counts follow
from the stages of the calls, so none of them is ever taken below zero.
-/

namespace Diameter.Queue

variable {α η : Type}

/-! ## Watermarks keep their thresholds -/

/-- A crossing that moves a watermark and keeps its thresholds. -/
def Watermark.Moves (step : Watermark η → Option (Watermark η)) : Prop :=
  ∀ w w', step w = some w' → w'.high = w.high ∧ w'.low = w.low

/-- A crossing that only moves the highest mark keeps the thresholds. -/
theorem Watermark.Moves.guarded {p : Watermark η → Prop} [DecidablePred p]
    {highest : Watermark η → Nat} :
    Moves fun w : Watermark η => if p w then some { w with highest := highest w } else none := by
  intro w w' h
  dsimp only at h
  split_ifs at h
  cases h
  exact ⟨rfl, rfl⟩

theorem Watermark.moves_crossUp (depth : Nat) : Moves (η := η) (·.crossUp depth) := .guarded

theorem Watermark.moves_crossDown (depth : Nat) : Moves (η := η) (·.crossDown depth) := .guarded

/-- A crossing by items that are moved keeps the thresholds. -/
theorem Watermark.moves_absorb (depth : Nat) : Moves (η := η) (·.absorb depth) := .guarded

/-! ## What every change keeps -/

/-- What holds of one queue whenever nobody holds its lock. -/
structure Regular (x : Queue α η) : Prop where
  /-- A bounded queue holds no more than its capacity. -/
  fits : 0 < x.capacity → x.items.length ≤ x.capacity
  /-- It never was as deep as it is without noticing. -/
  noticed : x.items.length ≤ x.highestEver
  /-- It shows its depth. -/
  shown : x.shownDepth = x.items.length
  /-- Where another queue serves there is nothing left. -/
  redirected : x.redirect ≠ none →
    x.items = [] ∧ x.watermark = none ∧ x.producers.count = 0
  /-- A queue that refuses is empty, and no other one serves instead of it. -/
  destroyed : x.lifecycle = .destroyed → x.items = [] ∧ x.redirect = none
  /-- The thresholds are apart. -/
  apart : ∀ w ∈ x.watermark, w.low < w.high

/-- The figures of a new queue are right. -/
theorem regular_new (capacity : Nat) : (new capacity : Queue α η).Regular where
  fits _ := Nat.zero_le _
  noticed := Nat.le_refl _
  shown := rfl
  redirected h := absurd rfl h
  destroyed h := by cases h
  apart _ h := by cases h

/-- The lines and permits of a queue have nothing to do with its figures. -/
theorem Regular.of_ledger {x : Queue α η} (h : x.ledger.Regular) : x.Regular :=
  ⟨h.fits, h.noticed, h.shown, h.redirected, h.destroyed, h.apart⟩

/-- Whether the figures are right can be read from the ledger. -/
theorem Regular.ledger {x : Queue α η} (h : x.Regular) : x.ledger.Regular :=
  ⟨h.fits, h.noticed, h.shown, h.redirected, h.destroyed, h.apart⟩

/-- A watermark that moved has its thresholds apart if it had. -/
theorem apart_remarked {x y : Queue α η} {step : Watermark η → Option (Watermark η)}
    (hm : Watermark.Moves step) (hy : y.watermark = x.watermark)
    (h : ∀ w ∈ x.watermark, w.low < w.high) :
    ∀ w ∈ (y.remarked (x.watermark.bind step)).watermark, w.low < w.high := by
  intro w' hw'
  rw [remarked, hy] at hw'
  cases hx : x.watermark with
  | none =>
    simp [hx] at hw'
  | some w =>
    have hw := h w hx
    cases hs : step w with
    | none =>
      obtain rfl : w = w' := by simpa [hx, hs] using hw'
      exact hw
    | some moved =>
      obtain rfl : moved = w' := by simpa [hx, hs] using hw'
      obtain ⟨hhigh, hlow⟩ := hm w moved hs
      rw [hhigh, hlow]
      exact hw

/-- What serves may hold anything that fits. -/
theorem Regular.of_serves {x : Queue α η} (hs : x.Serves)
    (hf : 0 < x.capacity → x.items.length ≤ x.capacity)
    (hn : x.items.length ≤ x.highestEver) (hd : x.shownDepth = x.items.length)
    (hw : ∀ w ∈ x.watermark, w.low < w.high) : x.Regular where
  fits := hf
  noticed := hn
  shown := hd
  redirected hr := absurd hs.2 hr
  destroyed hl := absurd (hs.1.symm.trans hl) (by decide)
  apart := hw

/-- Every change keeps the figures right. What holds an item serves, so that nothing is taken from
a queue that was moved or destroyed. -/
theorem Change.regular {x y : Queue α η} (h : Change x y) (hx : x.Regular) : y.Regular := by
  cases h with
  | same => exact hx
  | made => exact regular_new _
  | @stored x item hs hf =>
    have hlength : (x.items ++ [item]).length = x.items.length + 1 := List.length_append
    refine .of_serves hs (fun hc => ?_) ?_ ?_
      (apart_remarked (Watermark.moves_crossUp _) rfl hx.apart)
    · have hroom : 0 < x.capacity → x.items.length < x.capacity := by
        simpa [isFull] using hf
      exact Nat.le_trans (Nat.le_of_eq hlength) (hroom hc)
    · exact Nat.le_trans (Nat.le_of_eq hlength) (Nat.le_max_right _ _)
    · exact hlength.symm
  | @taken x item rest hl hi =>
    have hr : x.redirect = none := by
      by_contra hr
      cases hi.symm.trans (hx.redirected hr).1
    refine .of_serves ⟨hl, hr⟩ (fun hc => ?_) ?_ rfl
      (apart_remarked (Watermark.moves_crossDown _) rfl hx.apart)
    · have hfits := hx.fits hc
      rw [hi, List.length_cons] at hfits
      exact Nat.le_of_succ_le hfits
    · have hnoticed := hx.noticed
      rw [hi, List.length_cons] at hnoticed
      exact Nat.le_of_succ_le hnoticed
  | @received x items hs hf =>
    refine .of_serves hs (fun hc => ?_) (Nat.le_max_right _ _) rfl
      (apart_remarked (Watermark.moves_absorb _) rfl hx.apart)
    simpa [remarked, extended] using hf hc
  | @vacated x target hs hw hp =>
    refine ⟨fun _ => Nat.zero_le _, Nat.zero_le _, rfl, fun _ => ⟨rfl, hw, hp⟩, fun hl => ?_,
      hx.apart⟩
    exact absurd (hs.1.symm.trans hl) (by decide)
  | @attached x high low handler hr hn hw =>
    have hnone : x.redirect = none := by
      cases hl : x.lifecycle with
      | usable => exact hr hl
      | destroyed => exact (hx.destroyed hl).2
    refine ⟨hx.fits, hx.noticed, hx.shown, fun h => absurd hnone h, hx.destroyed, ?_⟩
    rintro w ⟨⟩
    exact hw
  | detached =>
    refine ⟨hx.fits, hx.noticed, hx.shown, fun hr => ?_, hx.destroyed, ?_⟩
    · exact ⟨(hx.redirected hr).1, rfl, (hx.redirected hr).2.2⟩
    · intro w hw
      cases hw
  | closed hl hi hw =>
    exact ⟨hx.fits, hx.noticed, hx.shown, fun hr => absurd rfl hr, fun _ => ⟨hi, rfl⟩, hx.apart⟩
  | @joined x side hs =>
    cases side <;> exact .of_serves hs hx.fits hx.noticed hx.shown hx.apart

/-- A call that goes on or gives up keeps the figures right. -/
theorem Regular.resumed {x : Queue α η} (h : x.Regular) (side : Side) :
    (x.resumed side).Regular := by
  cases side with
  | consumer => exact ⟨h.fits, h.noticed, h.shown, h.redirected, h.destroyed, h.apart⟩
  | producer =>
    refine ⟨h.fits, h.noticed, h.shown, fun hr => ?_, h.destroyed, h.apart⟩
    obtain ⟨hi, hw, hp⟩ := h.redirected hr
    exact ⟨hi, hw, Nat.le_zero.mp (hp ▸ Nat.sub_le _ 1)⟩

/-- The greatest depth grows exactly where the depth passes it. -/
theorem Change.highestEver {x y : Queue α η} (h : Change x y) (hx : x.Regular) :
    y.highestEver = max x.highestEver y.items.length := by
  have hnoticed : x.highestEver = max x.highestEver x.items.length :=
    (Nat.max_eq_left hx.noticed).symm
  cases h with
  | stored => simp [remarked, append]
  | @taken x item rest hl hi =>
    rw [hi, List.length_cons] at hnoticed
    simp only [remarked, withoutHead]
    omega
  | received => rfl
  | vacated => exact (Nat.max_zero _).symm
  | @joined x side hs => cases side <;> exact hnoticed
  | _ => exact hnoticed

/-- Only an event that takes a call out of the count makes it smaller. -/
theorem Change.count_le {x y : Queue α η} (h : Change x y) (side : Side) :
    (x.waiting side).count ≤ (y.waiting side).count := by
  cases h with
  | @joined x d hs =>
    cases d <;> cases side <;>
      simp [Queue.joined, setWaiting, waiting, Waiting.takePermit]
  | _ => cases side <;> exact Nat.le_refl _

namespace System

/-- An event keeps the figures of a queue right. -/
theorem Alters.regular {s : System α η} {e : Event α η} {q : QueueId} (h : s.Alters e q)
    (hq : (s.queue q).Regular) : ((s.perform e).system.queue q).Regular := by
  rcases h with ⟨-, hc⟩ | ⟨side, -, hl⟩
  · exact .of_ledger (hc.regular hq.ledger)
  · refine .of_ledger ?_
    rw [hl]
    exact hq.ledger.resumed side

/-- An event raises the greatest depth to the depth that it leads to. -/
theorem Alters.highestEver {s : System α η} {e : Event α η} {q : QueueId} (h : s.Alters e q)
    (hq : (s.queue q).Regular) : ((s.perform e).system.queue q).highestEver =
      max (s.queue q).highestEver ((s.perform e).system.queue q).items.length := by
  rcases h with ⟨-, hc⟩ | ⟨side, -, hl⟩
  · exact hc.highestEver hq.ledger
  · have hsame : ((s.perform e).system.queue q).highestEver = (s.queue q).highestEver ∧
        ((s.perform e).system.queue q).items = (s.queue q).items := by
      have hhighest := congrArg Queue.highestEver hl
      have hitems := congrArg Queue.items hl
      cases side <;> exact ⟨hhighest, hitems⟩
    rw [hsame.1, hsame.2]
    exact (Nat.max_eq_left hq.noticed).symm

/-- A call that an event takes out of the count is in it. -/
theorem count_pos_of_uncounts {s : System α η} {q : QueueId} {side : Side} (h : s.Lined q side)
    {e : Event α η} (he : s.uncounts? e = some (q, side)) :
    0 < ((s.queue q).waiting side).count := by
  have hpos {c : CallerId} {r : Request α} {stage : Stage α}
      (hc : s.callers[c]? = some ⟨r, stage⟩) (hs : r.side = side)
      (hcounted : stage.isCounted q = true) : 0 < ((s.queue q).waiting side).count := by
    rw [h.count_eq]
    refine List.countP_pos_iff.mpr ⟨_, List.mem_of_getElem? hc, ?_⟩
    simp [hs, hcounted]
  cases e with
  | turn c =>
    simp only [uncounts?] at he
    split at he
    · next r p cause hc =>
      cases he
      exact hpos hc rfl (by simp [Stage.isCounted])
    · cases he
  | withdraw c late =>
    simp only [uncounts?] at he
    split_ifs at he
    split at he
    · next r p hc =>
      cases he
      exact hpos hc rfl (by simp [Stage.isCounted])
    · next r p cause hc =>
      cases he
      exact hpos hc rfl (by simp [Stage.isCounted])
    · cases he
  | _ => cases he

/-- What an event makes of the count at one side of a queue. -/
theorem Alters.count {s : System α η} {e : Event α η} {q : QueueId} (h : s.Alters e q)
    {side : Side} (hl : s.Lined q side) :
    if s.uncounts? e = some (q, side) then
      (((s.perform e).system.queue q).waiting side).count + 1 = ((s.queue q).waiting side).count
    else ((s.queue q).waiting side).count ≤
      (((s.perform e).system.queue q).waiting side).count := by
  have hcount (x : Queue α η) (d : Side) : (x.ledger.waiting d).count = (x.waiting d).count := by
    rw [waiting_ledger]
    rfl
  rcases h with ⟨he, hc⟩ | ⟨d, he, hc⟩
  · rw [if_neg (he side), ← hcount (s.queue q), ← hcount ((s.perform e).system.queue q)]
    exact hc.count_le side
  · rw [← hcount ((s.perform e).system.queue q), hc, he]
    split_ifs with hd
    · cases hd
      have hpos := count_pos_of_uncounts hl he
      rw [← hcount] at hpos ⊢
      cases side <;> exact Nat.sub_add_cancel hpos
    · have hd' : d ≠ side := fun h => hd (by rw [h])
      rw [← hcount]
      cases d <;> cases side <;> first | exact absurd rfl hd' | exact Nat.le_refl _

end System

namespace Course

/-- What holds at every moment of a course. -/
theorem regular_after (events : List (Event α η)) (q : QueueId) :
    ((after events).system.queue q).Regular := by
  have hall : (after events).Charted ∧ ∀ q, ((after events).system.queue q).Regular := by
    refine extend_induction (P := fun k => k.Charted ∧ ∀ q, (k.system.queue q).Regular)
      ⟨charted_start, fun q => ?_⟩ (fun k e ⟨hk, hq⟩ => ?_) events
    · rw [System.queue_of_length_le (Nat.zero_le q)]
      exact regular_new 0
    · exact ⟨hk.next e, fun q => (System.alters_perform hk.inRange hk.tame e q).regular (hq q)⟩
  exact hall.2 q

/-- The depths that a queue has had. -/
def depths (events : List (Event α η)) (q : QueueId) : Set Nat :=
  {depth | ∃ earlier, earlier <+: events ∧
    depth = ((after earlier).system.queue q).items.length}

theorem after_concat (events : List (Event α η)) (e : Event α η) :
    (after (events ++ [e])).system = ((after events).system.perform e).system := by
  rw [after_append]
  rfl

/-- The greatest depth that a queue remembers is the greatest that it has had. -/
theorem isGreatest_highestEver (events : List (Event α η)) (q : QueueId) :
    IsGreatest (depths events q) ((after events).system.queue q).highestEver := by
  induction events using List.reverseRecOn with
  | nil =>
    have hnew : ((after ([] : List (Event α η))).system.queue q) = .new 0 :=
      System.queue_of_length_le (Nat.zero_le q)
    refine ⟨⟨[], List.prefix_rfl, by rw [hnew]; rfl⟩, ?_⟩
    rintro depth ⟨earlier, hpre, rfl⟩
    rw [List.prefix_nil.mp hpre, hnew]
    exact Nat.le_refl _
  | append_singleton events e ih =>
    have hk := charted_after events
    have hmax := (System.alters_perform hk.inRange hk.tame e q).highestEver
      (regular_after events q)
    rw [← after_concat] at hmax
    rw [hmax]
    constructor
    · rcases Nat.le_total ((after events).system.queue q).highestEver
        ((after (events ++ [e])).system.queue q).items.length with hle | hle
      · exact ⟨events ++ [e], List.prefix_rfl, Nat.max_eq_right hle⟩
      · obtain ⟨earlier, hpre, hdepth⟩ := ih.1
        refine ⟨earlier, hpre.trans (List.prefix_append _ _), ?_⟩
        rw [Nat.max_eq_left hle, hdepth]
    · rintro depth ⟨earlier, hpre, rfl⟩
      rcases List.prefix_concat_iff.mp hpre with rfl | hpre
      · exact Nat.le_max_right _ _
      · exact Nat.le_trans (ih.2 ⟨earlier, hpre, rfl⟩) (Nat.le_max_left _ _)

/-- Where every call has come to its end nobody is at a stage that is counted. -/
theorem tally_counted_of_ended {s : System α η} (h : ∀ c, s.hasEnded c = true) (q : QueueId)
    (side : Side) : s.tally side (Stage.isCounted q) = 0 := by
  refine List.countP_eq_zero.mpr fun caller hm hp => ?_
  obtain ⟨c, hc⟩ := List.mem_iff_getElem?.mp hm
  obtain ⟨r, stage⟩ := caller
  have hended := h c
  simp only [System.hasEnded, hc] at hended
  cases stage with
  | ended outcome => simp [Stage.isCounted] at hp
  | dropped => simp [Stage.isCounted] at hp
  | _ => cases hended

/-- In every course, at every moment and for every queue: a bounded queue holds no more than
its capacity, its greatest depth is the greatest that it has had, and the depth that can be
read without the lock is the depth. The count at each side is the number of calls that are
suspended there; an event that takes a call out of it finds the call in it, no other event
makes it smaller, and it is zero once every call has come to its end. A queue that another
one serves instead of has no items, no handler and no blocked producers, one that refuses has
no items and nothing serves instead of it, and the thresholds of a handler are apart, so that
no depth is ever divided by zero. -/
theorem figures_at_every_moment (events : List (Event α η)) (q : QueueId) :
    let s := (after events).system
    let x := s.queue q
    (0 < x.capacity → x.items.length ≤ x.capacity) ∧
    IsGreatest (depths events q) x.highestEver ∧
    x.shownDepth = x.items.length ∧
    (∀ side, (x.waiting side).count = s.tally side (Stage.isCounted q)) ∧
    (∀ e side, if s.uncounts? e = some (q, side) then
        (((s.perform e).system.queue q).waiting side).count + 1 = (x.waiting side).count
      else (x.waiting side).count ≤ (((s.perform e).system.queue q).waiting side).count) ∧
    ((∀ c, s.hasEnded c = true) → ∀ side, (x.waiting side).count = 0) ∧
    (x.redirect ≠ none → x.items = [] ∧ x.watermark = none ∧ x.producers.count = 0) ∧
    (x.lifecycle = .destroyed → x.items = [] ∧ x.redirect = none) ∧
    ∀ w ∈ x.watermark, w.low < w.high ∧ 0 < w.high := by
  intro s x
  have hk := charted_after events
  have hx : x.Regular := regular_after events q
  have hlined (side : Side) : s.Lined q side := (alert_extend alert_start events).awake.lined q side
  refine ⟨hx.fits, isGreatest_highestEver events q, hx.shown, fun side => (hlined side).count_eq,
    fun e side => ?_, fun hended side => ?_, hx.redirected, hx.destroyed, fun w hw => ?_⟩
  · exact (System.alters_perform hk.inRange hk.tame e q).count (hlined side)
  · exact (hlined side).count_eq.trans (tally_counted_of_ended hended q side)
  · have hapart := hx.apart w hw
    exact ⟨hapart, Nat.zero_lt_of_lt hapart⟩

/-- A queue for one item: a producer stores one and another one has to wait until it is
taken. Of two more queues one is moved and one is closed. -/
def oneBlockedProducer : List (Event Nat Unit) :=
  [.addQueue 1, .addQueue 0, .addQueue 0, .call 0 (.push 7), .turn 0, .call 0 (.push 8), .turn 1,
    .tryPop 0]

/-- A producer had to wait for room. Once it has stored its item, one queue was moved and one
closed, the counts, the depths and the redirects are those that the events tell. -/
theorem figures_after_blocked_producer :
    let s := (after oneBlockedProducer).system
    let t := (after (oneBlockedProducer ++
      [.turn 1, .turn 1, .setThresholds 0 2 1 (), .move 1 0, .close 2])).system
    s.uncounts? (.turn 1) = some (0, .producer) ∧
      ((s.perform (.turn 1)).system.queue 0).producers.count + 1 = (s.queue 0).producers.count ∧
      (t.queue 0).items.length ≤ 1 ∧ (t.queue 0).highestEver = 1 ∧
      (t.queue 0).producers.count = 0 ∧ (t.queue 1).redirect = some 0 ∧
      (t.queue 1).watermark = none ∧ (t.queue 2).lifecycle = .destroyed ∧
      (t.queue 2).redirect = none ∧ (t.queue 0).watermark = some ⟨2, 1, 0, ()⟩ ∧ 1 < 2 := by
  intro s t
  have hcount := (figures_at_every_moment oneBlockedProducer 0).2.2.2.2.1 (.turn 1) .producer
  rw [if_pos (by decide)] at hcount
  obtain ⟨hfits, -, -, -, -, hended, -, -, hapart⟩ :=
    figures_at_every_moment (oneBlockedProducer ++
      [.turn 1, .turn 1, .setThresholds 0 2 1 (), .move 1 0, .close 2]) 0
  have hmoved := (figures_at_every_moment (oneBlockedProducer ++
    [.turn 1, .turn 1, .setThresholds 0 2 1 (), .move 1 0, .close 2]) 1).2.2.2.2.2.2.1
  have hclosed := (figures_at_every_moment (oneBlockedProducer ++
    [.turn 1, .turn 1, .setThresholds 0 2 1 (), .move 1 0, .close 2]) 2).2.2.2.2.2.2.2.1
  have hcalls : ∀ c, t.hasEnded c = true := by
    intro c
    match c with
    | 0 => decide
    | 1 => decide
    | c + 2 =>
      have hnone : t.callers[c + 2]? = none :=
        List.getElem?_eq_none (Nat.le_add_left 2 c)
      simp only [System.hasEnded, hnone]
  exact ⟨by decide, hcount, hfits (by decide), by decide, hended hcalls .producer, by decide,
    (hmoved (by decide)).2.1, by decide, (hclosed (by decide)).2, by decide,
    (hapart ⟨2, 1, 0, ()⟩ (by decide)).1⟩

end Course

end Diameter.Queue
