import Diameter.Proofs.Queue.Figures
import Diameter.Proofs.Queue.Hysteresis

/-!
# Queues under watch

The gauge of a queue is what a watermark watches, and the watermark. As long as the handler of
a queue is not detached, an event does one of four things to the gauge: nothing, or an item is
stored, or one is taken, or the items of another queue arrive. Each of the last three tells
the handler what the watermark says, and nothing else tells it anything. An attachment is a
handler that was accepted after some events; what holds of its watermark after any further
events follows from these four cases.
-/

namespace Diameter.Queue

variable {α η : Type}

/-- What is watched of a queue, and what watches it. -/
structure Gauge (α η : Type) where
  /-- The items, oldest first. -/
  items : List α
  /-- The watermark. -/
  watermark : Option (Watermark η)
  deriving DecidableEq, Repr

/-- The gauge of a queue. -/
def gauge (x : Queue α η) : Gauge α η := ⟨x.items, x.watermark⟩

/-- Those who wait at a queue are not watched. -/
theorem gauge_of_contents {x y : Queue α η} (h : x.contents = y.contents) :
    x.gauge = y.gauge := by
  have hg : x.contents.gauge = y.contents.gauge := by rw [h]
  exact hg

/-- What a handler is told by a watermark that moved. -/
def told (q : QueueId) (level : Level) (moved : Option (Watermark η)) : Option (Crossing η) :=
  moved.map fun w => ⟨q, level, w.handler⟩

/-- What an event makes of the gauge of a watched queue, and what it tells the handler. -/
inductive Passage (q : QueueId) (w : Watermark η) (items : List α) :
    Event α η → Gauge α η → Option (Crossing η) → Prop
  /-- Nothing. -/
  | rest {e} : Passage q w items e ⟨items, some w⟩ none
  /-- A call stores an item. -/
  | stored {c item} : Passage q w items (.turn c)
      ⟨items ++ [item], some ((w.crossUp (items.length + 1)).getD w)⟩
      (told q .high (w.crossUp (items.length + 1)))
  /-- An item is taken. -/
  | taken {e item rest} (h : items = item :: rest) : Passage q w items e
      ⟨rest, some ((w.crossDown rest.length).getD w)⟩ (told q .low (w.crossDown rest.length))
  /-- The items of another queue arrive. -/
  | received {source more} : Passage q w items (.move source q)
      ⟨items ++ more, some ((w.absorb (items.length + more.length)).getD w)⟩
      (told q .high (w.absorb (items.length + more.length)))

/-! ## Gauges -/

/-- The gauge of a watched queue after other items are there and its watermark moved. -/
theorem gauge_of_remarked {x y z : Queue α η} {w : Watermark η} {items : List α}
    {step : Watermark η → Option (Watermark η)}
    (h : z.ledger = y.remarked (x.watermark.bind step)) (hy : y.gauge = ⟨items, x.watermark⟩)
    (hw : x.watermark = some w) : z.gauge = ⟨items, some ((step w).getD w)⟩ := by
  have hgauge : z.ledger.gauge = (y.remarked (x.watermark.bind step)).gauge := by rw [h]
  have hitems : y.items = items := congrArg Gauge.items hy
  have hwatermark : y.watermark = some w := (congrArg Gauge.watermark hy).trans hw
  rw [show z.gauge = _ from hgauge, gauge, remarked, hitems, hw, hwatermark,
    Option.bind_some, Option.or_some]

namespace System

/-- The crossing of a queue that an event reports. -/
def toldAt (s : System α η) (e : Event α η) (q : QueueId) : Option (Crossing η) :=
  (s.perform e).crossing.filter (·.queue == q)

/-- What is reported is what the watermark tells. -/
theorem report_snd (s : System α η) (q : QueueId) (level : Level) (moved : Option (Watermark η)) :
    (s.report q level moved).2 = told q level moved := by
  cases moved <;> rfl

/-- What is told about one queue is not told about another one. -/
theorem filter_told (q p : QueueId) (level : Level) (moved : Option (Watermark η)) :
    (told p level moved).filter (·.queue == q) = if q = p then told p level moved else none := by
  cases moved with
  | none => simp [told]
  | some w =>
    by_cases h : q = p
    · simp [told, h]
    · simp [told, h, Ne.symm h]

/-- Storing reports what the watermark tells of the depth after it. -/
theorem store_snd (s : System α η) (q : QueueId) (item : α) : (s.store q item).2 =
    told q .high ((s.queue q).watermark.bind (·.crossUp ((s.queue q).items.length + 1))) := by
  unfold store
  dsimp only
  rw [report_snd]

/-- Taking reports what the watermark tells of the depth after it. -/
theorem takeHead_snd (s : System α η) (q : QueueId) (rest : List α) : (s.takeHead q rest).2 =
    told q .low ((s.queue q).watermark.bind (·.crossDown rest.length)) := by
  unfold takeHead
  dsimp only
  rw [report_snd]

/-- A move reports what the watermark of the target tells of the depth after it. -/
theorem move_snd {s after : System α η} {source target : QueueId}
    {crossing : Option (Crossing η)} (hm : s.move source target = (.ok (), after, crossing)) :
    crossing = told target .high ((s.queue target).watermark.bind
      (·.absorb ((s.queue target).items ++ (s.queue source).items).length)) := by
  have hcrossing := congrArg Prod.snd (eq_of_move hm)
  dsimp only at hcrossing
  rw [← hcrossing, report_snd]

/-- A queue with a handler exists. -/
theorem lt_length_of_watermark {s : System α η} {q : QueueId} {w : Watermark η}
    (h : (s.queue q).watermark = some w) : q < s.queues.length := by
  by_contra hn
  rw [queue_of_length_le (Nat.le_of_not_lt hn)] at h
  cases h

/-- A handle that exists is served by a queue that exists. -/
theorem serving_lt_length {s : System α η} (hr : s.outline.InRange) (ht : s.outline.Tame)
    {handle : QueueId} (h : handle < s.queues.length) : s.serving handle < s.queues.length := by
  obtain ⟨hleads, -⟩ := endsAt_serving ht handle
  rcases Relation.ReflTransGen.cases_tail hleads with heq | ⟨p, -, items, hface⟩
  · rw [heq]
    exact h
  · rw [← length_faces_outline]
    exact hr.redirect hface rfl

/-! ## Single events -/

variable {s : System α η} {q : QueueId} {w : Watermark η}

/-- The gauge and the report of an event that does nothing here. -/
theorem passage_of_rest {e : Event α η} (hw : (s.queue q).watermark = some w)
    (hg : ((s.perform e).system.queue q).gauge = (s.queue q).gauge)
    (ht : s.toldAt e q = none) : Passage q w (s.queue q).items e
      ((s.perform e).system.queue q).gauge (s.toldAt e q) := by
  rw [hg, ht, gauge, hw]
  exact .rest

/-- An event that leaves all contents alone. -/
theorem passage_of_keeps {e : Event α η} (hw : (s.queue q).watermark = some w) (h : s.Keeps e) :
    Passage q w (s.queue q).items e ((s.perform e).system.queue q).gauge (s.toldAt e q) :=
  passage_of_rest hw (gauge_of_contents (h.contents q)) (by rw [toldAt, h.crossing]; rfl)

/-- An item is stored in this queue or in another one. -/
theorem passage_store (hw : (s.queue q).watermark = some w) (c : CallerId) {p : QueueId}
    (hp : p < s.queues.length) (item : α) : Passage q w (s.queue q).items (.turn c)
      ((s.store p item).1.queue q).gauge ((s.store p item).2.filter (·.queue == q)) := by
  have hledger := ledger_store s hp q item
  rw [store_snd, filter_told]
  by_cases hqp : q = p
  · subst hqp
    rw [if_pos rfl] at hledger ⊢
    rw [gauge_of_remarked hledger rfl hw, hw]
    exact .stored
  · rw [if_neg hqp] at hledger ⊢
    rw [gauge_of_contents (contents_eq_of_ledger hledger), gauge, hw]
    exact .rest

/-- An item is taken from this queue or from another one. -/
theorem passage_takeHead (hw : (s.queue q).watermark = some w) (e : Event α η) {p : QueueId}
    {item : α} {rest : List α} (hi : (s.queue p).items = item :: rest) :
    Passage q w (s.queue q).items e ((s.takeHead p rest).1.queue q).gauge
      ((s.takeHead p rest).2.filter (·.queue == q)) := by
  have hledger := ledger_takeHead s (lt_length_of_items hi) q rest
  rw [takeHead_snd, filter_told]
  by_cases hqp : q = p
  · subst hqp
    rw [if_pos rfl] at hledger ⊢
    rw [gauge_of_remarked hledger rfl hw, hw]
    exact .taken hi
  · rw [if_neg hqp] at hledger ⊢
    rw [gauge_of_contents (contents_eq_of_ledger hledger), gauge, hw]
    exact .rest

/-- The items of a queue arrive in this queue or in another one. A queue with a handler is
not moved itself. -/
theorem passage_move (hw : (s.queue q).watermark = some w) {source target : QueueId}
    (hs : source < s.queues.length) (ht : target < s.queues.length) {after : System α η}
    {crossing : Option (Crossing η)} (hm : s.move source target = (.ok (), after, crossing)) :
    Passage q w (s.queue q).items (.move source target) (after.queue q).gauge
      (crossing.filter (·.queue == q)) := by
  have hsource : q ≠ source := by
    rintro rfl
    rw [(fits_of_moveObstacle (moveObstacle_of_move hm)).1] at hw
    cases hw
  have hledger := ledger_move hs ht hm q
  rw [move_snd hm, filter_told]
  by_cases hqt : q = target
  · subst hqt
    rw [if_pos rfl] at hledger ⊢
    rw [gauge_of_remarked hledger rfl hw, hw, List.length_append]
    exact .received
  · rw [if_neg hqt, if_neg hsource] at hledger
    rw [if_neg hqt, gauge_of_contents (contents_eq_of_ledger hledger), gauge, hw]
    exact .rest

/-- What a call that looks at a queue makes of a gauge. -/
theorem passage_examine (hw : (s.queue q).watermark = some w) (c : CallerId) (r : Request α)
    {p : QueueId} (hp : p < s.queues.length) : Passage q w (s.queue q).items (.turn c)
      ((s.examine c r p).1.queue q).gauge ((s.examine c r p).2.filter (·.queue == q)) := by
  have hrest {t : System α η} (hg : (t.queue q).gauge = (s.queue q).gauge) :
      Passage q w (s.queue q).items (.turn c) (t.queue q).gauge none := by
    rw [hg, gauge, hw]
    exact .rest
  unfold examine
  dsimp only
  split
  · exact hrest rfl
  · exact hrest rfl
  · exact hrest rfl
  · split_ifs
    · exact hrest (gauge_of_contents (contents_suspend s p q .producer c))
    · exact passage_store (s := s.setStage c (.ended .stored)) hw c hp _
  · split
    · exact hrest (gauge_of_contents (contents_suspend s p q .consumer c))
    · next item rest hi =>
      exact passage_takeHead (s := s.setStage c (.ended (.took item))) hw (.turn c) hi

/-- Every event that does not detach the handler is a passage. -/
theorem passage_perform (hr : s.outline.InRange) (hw : (s.queue q).watermark = some w)
    (e : Event α η) (he : ∀ handle, e = .clearThresholds handle → s.serving handle ≠ q) :
    Passage q w (s.queue q).items e ((s.perform e).system.queue q).gauge (s.toldAt e q) := by
  cases e with
  | addQueue capacity =>
    refine passage_of_rest hw (congrArg gauge ?_) rfl
    simp only [perform, quietly, addQueue, queue, List.getD_eq_getElem?_getD,
      List.getElem?_append_left (lt_length_of_watermark hw)]
  | call handle r => exact passage_of_keeps hw (keeps_call s handle r)
  | turn c =>
    simp only [toldAt, perform, turn]
    split
    · next r p recalled hc =>
      exact passage_examine hw c r (lt_length_of_facing hr hc rfl)
    · next r p cause hc =>
      rw [queue_setStage, gauge_of_contents (contents_modifyWaiting s _ q _ _), gauge, hw]
      exact .rest
    · rw [gauge, hw]
      exact .rest
  | abandon c => exact passage_of_keeps hw (keeps_abandon s c)
  | withdraw c late => exact passage_of_keeps hw (keeps_withdraw s c late)
  | depart c => exact passage_of_keeps hw (keeps_depart s c)
  | tryPop handle =>
    cases hl : (s.queue (s.serving handle)).lifecycle with
    | destroyed => exact passage_of_keeps hw (keeps_of_eq (by simp only [perform, tryPop, hl]; rfl))
    | usable =>
      cases hi : (s.queue (s.serving handle)).items with
      | nil => exact passage_of_keeps hw (keeps_of_eq (by simp only [perform, tryPop, hl, hi]; rfl))
      | cons item rest =>
        simp only [toldAt, perform, tryPop, hl, hi]
        exact passage_takeHead hw (.tryPop handle) hi
  | setThresholds handle high low handler =>
    rcases ht : s.setThresholds handle high low handler with ⟨err | done, after⟩
    · obtain rfl := setThresholds_error_eq ht
      exact passage_of_keeps hw (keeps_of_eq (by simp only [perform, ht]))
    · obtain ⟨-, hnone, rfl⟩ := of_setThresholds ht
      have hother : q ≠ s.serving handle := by
        rintro rfl
        rw [hw] at hnone
        cases hnone
      refine passage_of_rest hw ?_ ?_
      · simp only [perform, ht]
        exact congrArg gauge (queue_modifyQueue_other _ hother _)
      · simp only [toldAt, perform, ht]
        rfl
  | clearThresholds handle =>
    have hother : q ≠ s.serving handle := (he handle rfl).symm
    refine passage_of_rest hw (congrArg gauge ?_) rfl
    exact queue_modifyQueue_other _ hother _
  | move source target =>
    rcases hm : s.move source target with ⟨err | done, after, crossing⟩
    · obtain ⟨rfl, rfl⟩ := move_error_eq hm
      exact passage_of_keeps hw (keeps_of_eq (by simp only [perform, hm, quietly, ite_self]))
    · by_cases hq : source < s.queues.length ∧ target < s.queues.length
      · simp only [toldAt, perform, if_pos hq, hm]
        exact passage_move hw hq.1 hq.2 hm
      · exact passage_of_keeps hw (keeps_of_eq (by simp only [perform, if_neg hq]))
  | close p =>
    rcases hc : s.close p with ⟨err | done, after⟩
    · obtain rfl := close_error_eq hc
      exact passage_of_keeps hw (keeps_of_eq (by simp only [perform, hc]))
    · obtain ⟨-, -, hnone, rfl⟩ := of_close hc
      have hother : q ≠ p := by
        rintro rfl
        rw [hw] at hnone
        cases hnone
      refine passage_of_rest hw ?_ ?_
      · simp only [perform, hc]
        exact congrArg gauge (queue_modifyQueue_other _ hother _)
      · simp only [toldAt, perform, hc]
        rfl
  | wakeAll p side => exact passage_of_keeps hw (keeps_wakeAll s p side)

end System

/-! ## Passages of the watermark -/

/-- A passage leaves the gauge alone, or it is one of the changes of the depth that a
watermark passes through. -/
theorem Passage.passes {q : QueueId} {w : Watermark η} {items : List α} {e : Event α η}
    {g : Gauge α η} {report : Option (Crossing η)} (h : Passage q w items e g report) :
    g = ⟨items, some w⟩ ∨
      ∃ w', g.watermark = some w' ∧ w.Passes items.length w' g.items.length := by
  cases h with
  | rest => exact .inl rfl
  | stored =>
    refine .inr ⟨_, rfl, ?_⟩
    rw [List.length_append, List.length_singleton]
    exact .up
  | taken hi =>
    refine .inr ⟨_, rfl, ?_⟩
    rw [hi, List.length_cons]
    exact .down
  | received =>
    refine .inr ⟨_, rfl, ?_⟩
    rw [List.length_append]
    exact .leap _

/-! ## Attachments -/

/-- A handler is attached through a handle after some events. -/
structure Attachment (α η : Type) where
  /-- What has happened before. -/
  before : List (Event α η)
  /-- The handle. -/
  handle : QueueId
  /-- The high threshold. -/
  high : Nat
  /-- The low threshold. -/
  low : Nat
  /-- Who is to be told. -/
  handler : η

namespace Attachment

/-- The queue that is watched. -/
def queue (a : Attachment α η) : QueueId := (Course.after a.before).system.serving a.handle

/-- The event of attaching. -/
def event (a : Attachment α η) : Event α η := .setThresholds a.handle a.high a.low a.handler

/-- What further events lead to. -/
def course (a : Attachment α η) (since : List (Event α η)) : Course α η :=
  .after (a.before ++ a.event :: since)

/-- The depth of the watched queue after further events. -/
def depth (a : Attachment α η) (since : List (Event α η)) : Nat :=
  ((a.course since).system.queue a.queue).items.length

/-- The watermark with the given unanswered crossing. -/
def mark (a : Attachment α η) (highest : Nat) : Watermark η :=
  ⟨a.high, a.low, highest, a.handler⟩

/-- The handler was accepted, and has not been detached by any of the further events. -/
structure InForce (a : Attachment α η) (since : List (Event α η)) : Prop where
  /-- The handle is one of a queue. -/
  exists_handle : a.handle < (Course.after a.before).system.queues.length
  /-- It was accepted. -/
  accepted : ∃ s, (Course.after a.before).system.setThresholds a.handle a.high a.low a.handler =
    (.ok (), s)
  /-- What was detached in the meantime was the handler of another queue, if any. -/
  kept : ∀ earlier handle, earlier ++ [.clearThresholds handle] <+: since →
    (a.course earlier).system.serving handle ≠ a.queue

variable {a : Attachment α η} {since : List (Event α η)} {e : Event α η}

theorem course_concat (a : Attachment α η) (since : List (Event α η)) (e : Event α η) :
    a.course (since ++ [e]) = (a.course since).next e := by
  rw [course, course, ← List.cons_append, ← List.append_assoc, Course.after_append]
  rfl

/-- What was in force after an event was so before it. -/
theorem InForce.of_concat (h : a.InForce (since ++ [e])) : a.InForce since where
  exists_handle := h.exists_handle
  accepted := h.accepted
  kept earlier handle hpre := h.kept earlier handle (hpre.trans (List.prefix_append _ _))

/-- An event that detaches no handler here leaves what is in force so. -/
theorem InForce.concat (h : a.InForce since) (he : ∀ handle, e = .clearThresholds handle →
    (a.course since).system.serving handle ≠ a.queue) : a.InForce (since ++ [e]) where
  exists_handle := h.exists_handle
  accepted := h.accepted
  kept earlier handle hpre := by
    rcases List.prefix_concat_iff.mp hpre with heq | hpre
    · obtain ⟨rfl, hlast⟩ := List.append_inj' heq rfl
      exact he handle (List.singleton_inj.mp hlast).symm
    · exact h.kept earlier handle hpre

/-- Where no handler is detached at all the attachment stays in force. -/
theorem inForce_of_not_mem (hexists : a.handle < (Course.after a.before).system.queues.length)
    (haccepted : ∃ s, (Course.after a.before).system.setThresholds a.handle a.high a.low
      a.handler = (.ok (), s)) (h : ∀ handle, .clearThresholds handle ∉ since) : a.InForce since where
  exists_handle := hexists
  accepted := haccepted
  kept earlier handle hpre := by
    have hmem := hpre.subset (List.mem_append_right earlier (List.mem_singleton_self _))
    exact absurd hmem (h handle)

/-- The thresholds of an accepted handler are apart. -/
theorem InForce.low_lt_high (h : a.InForce since) : a.low < a.high := by
  obtain ⟨s, hs⟩ := h.accepted
  exact (System.of_setThresholds hs).1

/-- Where a handler was accepted the queue has a new watermark, and nothing else has changed. -/
theorem InForce.queue_nil (h : a.InForce since) : (a.course []).system.queue a.queue =
    { (Course.after a.before).system.queue a.queue with watermark := some (a.mark 0) } := by
  obtain ⟨s, hs⟩ := h.accepted
  have hk := Course.charted_after a.before
  have hlength : a.queue < (Course.after a.before).system.queues.length :=
    System.serving_lt_length hk.inRange hk.tame h.exists_handle
  have hcourse : (a.course []).system = s := by
    rw [course, Course.after_concat, event, System.perform, hs]
    rfl
  obtain ⟨-, -, rfl⟩ := System.of_setThresholds hs
  rw [hcourse]
  exact System.queue_modifyQueue_self _ hlength _

/-- The items are what they were then. -/
theorem InForce.gauge_nil (h : a.InForce since) :
    ((a.course []).system.queue a.queue).gauge =
      ⟨((Course.after a.before).system.queue a.queue).items, some (a.mark 0)⟩ := by
  rw [h.queue_nil]
  rfl

/-- The depth at the beginning is that of the queue. -/
theorem InForce.depth_nil (h : a.InForce since)
    (hempty : ((Course.after a.before).system.queue a.queue).items = []) : a.depth [] = 0 := by
  have hitems : ((a.course []).system.queue a.queue).items = _ := congrArg Gauge.items h.gauge_nil
  rw [depth, hitems, hempty]
  rfl

/-- The next event is a passage of the watermark. -/
theorem InForce.passage (h : a.InForce (since ++ [e])) {w : Watermark η}
    (hw : ((a.course since).system.queue a.queue).watermark = some w) :
    Passage a.queue w ((a.course since).system.queue a.queue).items e
      ((a.course (since ++ [e])).system.queue a.queue).gauge
      ((a.course since).system.toldAt e a.queue) := by
  rw [course_concat]
  refine System.passage_perform (Course.charted_after _).inRange hw e fun handle he => ?_
  subst he
  exact h.kept since handle List.prefix_rfl

/-- What holds of depth and watermark when a handler is attached, and is kept by every change
of the depth, holds as long as the handler is not detached. -/
theorem InForce.induction {P : List (Event α η) → Nat → Prop}
    (hnil : P [] 0)
    (hrest : ∀ since e highest, a.InForce (since ++ [e]) → P since highest →
      a.depth (since ++ [e]) = a.depth since → P (since ++ [e]) highest)
    (hpass : ∀ since e highest highest', a.InForce (since ++ [e]) → P since highest →
      (a.mark highest).Passes (a.depth since) (a.mark highest') (a.depth (since ++ [e])) →
      P (since ++ [e]) highest')
    (h : a.InForce since) : ∃ highest,
      ((a.course since).system.queue a.queue).watermark = some (a.mark highest) ∧
        P since highest := by
  induction since using List.reverseRecOn with
  | nil => exact ⟨0, congrArg Gauge.watermark h.gauge_nil, hnil⟩
  | append_singleton since e ih =>
    obtain ⟨highest, hw, hp⟩ := ih h.of_concat
    rcases (h.passage hw).passes with hsame | ⟨w', hw', hpasses⟩
    · refine ⟨highest, congrArg Gauge.watermark hsame, hrest since e highest h hp ?_⟩
      exact congrArg (fun g : Gauge α η => g.items.length) hsame
    · obtain ⟨hhigh, hlow, hhandler⟩ := hpasses.fixed
      have hmark : w' = a.mark w'.highest := by
        rw [mark, ← show w'.high = a.high from hhigh, ← show w'.low = a.low from hlow,
          ← show w'.handler = a.handler from hhandler]
      refine ⟨w'.highest, hw'.trans (congrArg some hmark), hpass since e highest _ h hp ?_⟩
      rw [← hmark]
      exact hpasses

/-- As long as the handler is not detached the watermark has its thresholds and tells it. -/
theorem InForce.exists_mark (h : a.InForce since) : ∃ highest,
    ((a.course since).system.queue a.queue).watermark = some (a.mark highest) := by
  obtain ⟨highest, hw, -⟩ := InForce.induction (P := fun _ _ => True) trivial
    (fun _ _ _ _ _ _ => trivial) (fun _ _ _ _ _ _ _ => trivial) h
  exact ⟨highest, hw⟩

end Attachment

end Diameter.Queue
