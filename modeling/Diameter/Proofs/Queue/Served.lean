import Diameter.Proofs.Queue.Handles

/-!
# One queue serves every handle

However queues are made, moved and destroyed, redirects form no circle, and whoever follows
them comes to the one queue that serves a handle. Main statement: this, and that a queue that
was moved into another one is from then on, until it is destroyed, just another handle of it.
-/

namespace Diameter.Queue.Course

variable {α η : Type}

/-- Redirects end, for all who follow them. -/
structure Navigable (k : Course α η) : Prop where
  /-- Redirects form no circle. -/
  acyclic : ∀ q, ¬ Relation.TransGen k.system.outline.Edge q q
  /-- There is one queue at the end of the redirects of a handle, and who may follow at least
  as many as there are queues finds it. -/
  serving : ∀ q t hops, k.system.queues.length ≤ hops →
    (k.system.outline.EndsAt q t ↔ t = k.system.servingWithin hops q)
  /-- A call that has turns in a row arrives there, and does nothing else on the way. -/
  arrives : ∀ c r q recalled, k.system.callers[c]? = some ⟨r, .ready q recalled⟩ →
    ∃ n ≤ k.system.queues.length, ∃ recalled', k.extend (List.replicate n (.turn c)) =
      { k with system := k.system.setStage c (.ready (k.system.serving q) recalled') }
  /-- A call that runs until it ends or has to wait makes no use of more turns than four more
  than there are queues. -/
  stops : ∀ c, k.system.Stops c (k.system.queues.length + 4)
  /-- Who follows redirects while anything happens in between follows no more than there are
  queues then. -/
  chases : ∀ handle n k' q, k.Chase handle n k' q → n ≤ k'.system.queues.length
  /-- No call passes on from queue to queue more often. -/
  passes : ∀ c events, passages c k events ≤ (k.extend events).system.queues.length

/-- In every course redirects end. -/
theorem Charted.navigable {k : Course α η} (hk : k.Charted) : k.Navigable where
  acyclic := hk.tame.acyclic
  serving q t hops hl := by
    rw [System.servingWithin_eq hk.tame q hl]
    constructor
    · exact fun h => h.unique (System.endsAt_serving hk.tame q)
    · rintro rfl
      exact System.endsAt_serving hk.tame q
  arrives c r q recalled hc := by
    obtain ⟨n, hn, hh, -⟩ := System.exists_hops_servingWithin hk.tame q (Nat.le_refl _)
    exact ⟨n, hn, extend_turns_of_hops hc hh⟩
  stops := System.stops_of_tame hk.tame
  chases _ _ _ _ h := h.le_length hk
  passes c events := by
    have hle := (hk.underway c).passages_le hk events
    rwa [Nat.zero_add] at hle

/-- Through two handles every operation has the same result and the same effect. -/
structure Alike (k : Course α η) (a b : QueueId) : Prop where
  /-- One queue serves both. -/
  serving : k.system.serving a = k.system.serving b
  /-- Taking an item without waiting. -/
  tryPop : k.system.tryPop a = k.system.tryPop b
  /-- Attaching a handler. -/
  setThresholds : ∀ high low handler,
    k.system.setThresholds a high low handler = k.system.setThresholds b high low handler
  /-- Detaching it. -/
  clearThresholds : k.system.clearThresholds a = k.system.clearThresholds b
  /-- All that can be seen, depth and capacity among it, but for what a handle shows of its own
  queue. -/
  stats : k.system.stats a =
    { k.system.stats b with
      shownDepth := (k.system.stats a).shownDepth
      ownClosed := (k.system.stats a).ownClosed }
  /-- A push, a pop or a timed pop, whatever happens before it looks for the first time. Up to
  then only its handle tells the two courses apart. Then they are the same, unless the queue of
  the handle was destroyed. -/
  call : ∀ (r : Request α) (events : List (Event α η)),
    (∀ e ∈ events, e ≠ .turn k.system.callers.length) →
    let c := k.system.callers.length
    let through (q : QueueId) := (k.next (.call q r)).extend events
    (through a).divert c b = through b ∧
      (((through a).system.queue a).lifecycle = .usable →
        (through a).next (.turn c) = through b)

/-- What was moved into another queue stays bound to it, whatever happens. -/
theorem Charted.bound_extend {k : Course α η} (hk : k.Charted) {a b : QueueId}
    (h : k.system.outline.Bound a b) (events : List (Event α η)) :
    (k.extend events).system.outline.Bound a b := by
  have hall := extend_induction (P := fun k => k.Charted ∧ k.system.outline.Bound a b)
    ⟨hk, h⟩ (fun k e ⟨hk, h⟩ => ⟨hk.next e, (hk.step e).bound h⟩) events
  exact hall.2

/-- A queue that was moved and the one that it was moved into are alike. -/
theorem Charted.alike {k : Course α η} (hk : k.Charted) {a b : QueueId}
    (he : k.system.outline.Edge a b) : k.Alike a b := by
  have hserving := System.serving_of_edge hk.tame he
  obtain ⟨items, hface⟩ := he
  have hb := hk.inRange.redirect hface rfl
  have ha := (List.getElem?_eq_some_iff.mp hface).1
  rw [System.length_faces_outline] at ha hb
  refine ⟨hserving, ?_, fun high low handler => ?_, ?_, ?_, fun r events hevents => ?_⟩
  · rw [System.tryPop, System.tryPop, hserving]
  · rw [System.setThresholds, System.setThresholds, hserving]
  · rw [System.clearThresholds, System.clearThresholds, hserving]
  · rw [System.stats, System.stats, hserving]
  · obtain ⟨hunseen, hcall⟩ := k.unseen_call ha hb r
    obtain ⟨hunseen', hdivert⟩ := hunseen.extend (hk.next _) b hevents
    rw [hcall] at hdivert
    refine ⟨hdivert.symm, fun hu => ?_⟩
    have hbound := hk.bound_extend ⟨_, hface, .inr rfl⟩ (.call a r :: events)
    exact (hunseen'.turn (System.edge_of_bound hbound hu)).trans hdivert.symm

/-- A call that was parked at a queue that has been moved goes to the target, unless it gives up
or the queue is destroyed: it has been woken, leaves the count at its next turn, and looks at
the target after one more. -/
def Continues (k : Course α η) (c : CallerId) (r : Request α) (source target : QueueId) : Prop :=
  ∀ events more : List (Event α η),
    (∀ e ∈ events, e ≠ .turn c ∧ ∀ late, e ≠ .withdraw c late) →
    (∀ e ∈ more, e ≠ .turn c ∧ ∀ late, e ≠ .withdraw c late) →
    let k₁ := k.extend events
    let k₂ := (k₁.next (.turn c)).extend more
    k₁.system.callers[c]? = some ⟨r, .woken source .all⟩ ∧
    k₁.next (.turn c) = { k₁ with system :=
      (k₁.system.modifyWaiting source r.side (·.resume)).setStage c (.ready source true) } ∧
    k₂.system.callers[c]? = some ⟨r, .ready source true⟩ ∧
    ((k₂.system.queue source).lifecycle = .usable →
      k₂.next (.turn c) = { k₂ with system := k₂.system.setStage c (.ready target false) })

/-- A call that a move has woken goes on at the target. -/
theorem Charted.continues {k : Course α η} (hk : k.Charted) {c : CallerId} {r : Request α}
    {source target : QueueId} (hc : k.system.callers[c]? = some ⟨r, .woken source .all⟩)
    (hb : k.system.outline.Bound source target) : k.Continues c r source target := by
  intro events more hevents hmore k₁ k₂
  have hk₁ : k₁.Charted := hk.extend events
  have hwoken : k₁.system.callers[c]? = some ⟨r, .woken source .all⟩ :=
    hk.extend_of_woken hc (.inl rfl) hevents
  have hturn : k₁.next (.turn c) = { k₁ with system :=
      (k₁.system.modifyWaiting source r.side (·.resume)).setStage c (.ready source true) } := by
    refine next_of_quietly ?_
    have hready : ((k₁.system.modifyWaiting source r.side (·.resume)).setStage c
        (.ready source true)).callers[c]? = some ⟨r, .ready source true⟩ :=
      System.callers_setStage hwoken
    simp only [System.perform, System.turn, hwoken, System.takenBy?, System.outcome?, hready,
      ite_self, System.quietly]
  have hready : (k₁.next (.turn c)).system.callers[c]? = some ⟨r, .ready source true⟩ := by
    rw [hturn]
    exact System.callers_setStage hwoken
  have hready' : k₂.system.callers[c]? = some ⟨r, .ready source true⟩ :=
    (hk₁.next _).extend_of_woken hready (.inr rfl) hmore
  refine ⟨hwoken, hturn, hready', fun hu => ?_⟩
  have hb₁ := hk.bound_extend hb events
  have hb₂ : k₂.system.outline.Bound source target :=
    (hk₁.next _).bound_extend ((hk₁.step (.turn c)).bound hb₁) more
  exact next_of_quietly (System.perform_turn_of_edge hready' (System.edge_of_bound hb₂ hu))

/-- In every course redirects end, for all who follow them. A queue that is moved leaves its
items behind those of the target. It stays empty for ever, and through its handles every
operation has the result and the effect that it has through those of the target, until it is
destroyed, whatever becomes of the target. Calls that were parked at it are consumers, and go to
the target. -/
theorem moved_queue_is_one_more_handle (events : List (Event α η)) :
    let k := after events
    let s := k.system
    k.Navigable ∧
    ∀ source target moved crossing, source < s.queues.length → target < s.queues.length →
      s.move source target = (.ok (), moved, crossing) →
      (moved.queue source).items = [] ∧
      (moved.queue target).items = (s.queue target).items ++ (s.queue source).items ∧
      (∀ later,
        let k' := after (events ++ .move source target :: later)
        (k'.system.queue source).items = [] ∧
        ((k'.system.queue source).lifecycle = .usable → k'.Alike source target)) ∧
      ∀ c r, s.callers[c]? = some ⟨r, .parked source⟩ →
        r.side = .consumer ∧ (k.next (.move source target)).Continues c r source target := by
  intro k s
  have hk : k.Charted := charted_after events
  have halert : k.Alert := alert_extend alert_start events
  refine ⟨hk.navigable, fun source target moved crossing hs ht hm => ?_⟩
  obtain ⟨hitems, hbound⟩ := System.move_items hs ht hm
  have hmoved : (k.next (.move source target)).system = moved := by
    simp only [next, System.perform]
    rw [if_pos ⟨hs, ht⟩, hm]
  have hk' : (k.next (.move source target)).Charted := hk.next _
  have halert' : (k.next (.move source target)).Alert := halert.next _
  rw [← hmoved] at hbound hitems ⊢
  refine ⟨System.items_of_bound halert'.cleared hbound, hitems, fun later => ?_, fun c r hc => ?_⟩
  · intro k'
    have hsplit : k' = (k.next (.move source target)).extend later :=
      extend_append start events (.move source target :: later)
    have hbound' := hk'.bound_extend hbound later
    rw [hsplit]
    refine ⟨System.items_of_bound (alert_extend halert' later).cleared hbound', fun hu => ?_⟩
    exact (hk'.extend later).alike (System.edge_of_bound hbound' hu)
  · obtain ⟨hside, hwoken⟩ := System.woken_by_move halert.awake hm hc
    rw [← hmoved] at hwoken
    exact ⟨hside, hk'.continues hwoken hbound⟩

/-- A consumer waits at the first of three queues and an item lies in the second. -/
def oneWaitsOneLies : List (Event Nat Unit) :=
  [.addQueue 0, .addQueue 2, .addQueue 0, .call 0 (.pop none), .turn 0, .call 1 (.push 5), .turn 1]

/-- The first queue is moved into the second and that into the third. The first handle is
served by the third queue then: it takes the item there, as the second does, a push through it
is one through the second, and the consumer that waited goes there. -/
theorem first_of_three_is_served_by_third :
    let k := after oneWaitsOneLies
    let k' := after (oneWaitsOneLies ++ [.move 0 1, .move 1 2])
    0 < k.system.queues.length ∧ 1 < k.system.queues.length ∧
    (∃ moved crossing, k.system.move 0 1 = (.ok (), moved, crossing) ∧
      (moved.queue 1).items = [5]) ∧
    k.system.callers[0]? = some ⟨.pop none, .parked 0⟩ ∧
    (k'.system.queue 0).items = [] ∧ (k'.system.queue 0).lifecycle = .usable ∧
    k'.system.serving 0 = 2 ∧
    (k'.system.tryPop 0).1.toOption = some 5 ∧ k'.system.tryPop 0 = k'.system.tryPop 1 ∧
    (k'.next (.call 0 (.push 6))).next (.turn 2) = k'.next (.call 1 (.push 6)) ∧
    (k'.next (.turn 0)).system.callers[0]? = some ⟨.pop none, .ready 0 true⟩ ∧
    ((k'.next (.turn 0)).next (.turn 0)).system.callers[0]? = some ⟨.pop none, .ready 1 false⟩ := by
  intro k k'
  obtain ⟨-, hmoves⟩ := moved_queue_is_one_more_handle oneWaitsOneLies
  have hfirst : 0 < k.system.queues.length := by decide
  have hsecond : 1 < k.system.queues.length := by decide
  obtain ⟨⟨moved, crossing⟩, hmove⟩ : ∃ moved, k.system.move 0 1 = (.ok (), moved) := ⟨_, rfl⟩
  have hparked : k.system.callers[0]? = some ⟨.pop none, .parked 0⟩ := by decide
  have husable : (k'.system.queue 0).lifecycle = .usable := by decide
  obtain ⟨-, hitems, hlater, hparked'⟩ := hmoves 0 1 moved crossing hfirst hsecond hmove
  obtain ⟨hempty, halike⟩ := hlater [.move 1 2]
  have ha := halike husable
  have hcontinues := (hparked' 0 (.pop none) hparked).2 [.move 1 2] [] (by simp) (by simp)
  obtain ⟨-, -, hready, hgoes⟩ := hcontinues
  have hpush := (ha.call (.push 6) [] (by simp)).2 (by decide)
  have hgone := hgoes (by decide)
  refine ⟨hfirst, hsecond, ⟨moved, crossing, hmove, hitems⟩, hparked, hempty, husable, by decide,
    by decide, ha.tryPop, hpush, hready, ?_⟩
  have hsystem := congrArg (fun k => k.system.callers[0]?) hgone
  exact hsystem.trans (System.callers_setStage hready)

end Diameter.Queue.Course
