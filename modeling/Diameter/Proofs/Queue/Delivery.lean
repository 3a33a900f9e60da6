import Diameter.Proofs.Queue.Order
import Diameter.Proofs.Queue.Renaming

/-!
# What becomes of an item

An item whose push succeeded is in one place of one queue, until one pop returns it. An item
whose push did not succeed is nowhere. Of two items pushed one after the other through
handles of one queue, the later one is not returned before the earlier one. This holds at
every moment of every course.
-/

namespace Diameter.Queue

variable {α η : Type}

/-- Marks are not seen: without its mark an item is the one that was pushed. -/
theorem Event.load_sentBy (c : CallerId) (e : Event α η) :
    (e.sentBy c).map Parcel.load = e := by
  cases e with
  | call handle r => cases r <;> rfl
  | _ => rfl

namespace Course

/-- The given place of the given queue holds the item. -/
def LiesAt (k : Course α η) (p : α) (q : QueueId) (i : Nat) : Prop :=
  (k.system.queue q).items[i]? = some p

/-- The item is in one place of one queue, and no pop has returned it. -/
def Waits (k : Course α η) (p : α) : Prop :=
  (∃! place : QueueId × Nat, k.LiesAt p place.1 place.2) ∧ p ∉ k.returned

/-- The item is in no queue, and one pop has returned it. -/
def Delivered (k : Course α η) (p : α) : Prop :=
  (∀ q i, ¬ k.LiesAt p q i) ∧ ∃! i : Nat, k.returned[i]? = some p

/-- The item is in no queue, and no pop has returned it. -/
def Absent (k : Course α η) (p : α) : Prop :=
  (∀ q i, ¬ k.LiesAt p q i) ∧ p ∉ k.returned

/-! ## Every course is sound -/

/-- What holds at every moment of a course with marked items. -/
structure Sound (k : Course (Parcel α) η) : Prop where
  /-- Calls and redirects have to do with queues that exist. -/
  inRange : k.system.outline.InRange
  /-- Every item is where it should be. -/
  kept : k.system.outline.Kept k.taken
  /-- Queues that serve others or refuse are empty. -/
  cleared : k.system.outline.Cleared

/-- What one event with a marked item does. -/
theorem Sound.step {k : Course (Parcel α) η} (h : k.Sound) (e : Event α η) :
    k.system.outline.Step (e.sentBy k.system.callers.length).made?
      (k.system.perform (e.sentBy k.system.callers.length)).taken
      (k.nextMarked e).system.outline :=
  System.step_perform h.inRange _

theorem length_calls_outline (s : System α η) : s.outline.calls.length = s.callers.length := by
  simp only [System.outline, List.length_map]

/-- An event marks the item that it brings. -/
theorem marked_made (k : Course (Parcel α) η) (e : Event α η) :
    k.system.outline.Marked (e.sentBy k.system.callers.length).made? := by
  intro p hp
  rw [length_calls_outline]
  cases e with
  | call handle r =>
    cases r with
    | push item =>
      cases hp
      rfl
    | pop deadline => cases hp
  | _ => cases hp

/-- Every event keeps the marked course sound. -/
theorem Sound.next {k : Course (Parcel α) η} (h : k.Sound) (e : Event α η) :
    (k.nextMarked e).Sound where
  inRange := (h.step e).inRange h.inRange
  kept := (h.step e).kept (marked_made k e) h.kept
  cleared := (h.step e).cleared h.cleared

theorem sound_start : (start (α := Parcel α) (η := η)).Sound where
  inRange := Outline.inRange_start
  kept := Outline.kept_start
  cleared := Outline.cleared_start

theorem sound_marked (events : List (Event α η)) : (marked events).Sound :=
  extendMarked_induction sound_start (fun _ e h => h.next e) events

/-! ## Where the outline shows items and ends -/

/-- Whether an item was stored can be read from the outline. -/
theorem stored_outline (k : Course (Parcel α) η) (p : Parcel α) :
    k.system.outline.Stored p ↔ k.Stored p := by
  rw [Outline.Stored, Stored, System.outline_calls_getElem?]
  rcases k.system.callers[p.sender]? with _ | ⟨r, stage⟩
  · simp
  · cases stage with
    | leaving q cause late => cases late <;> simp [Stage.spot]
    | _ => simp [Stage.spot]

/-- What a call has taken can be read from the outline. -/
theorem took_outline (s : System α η) (c : CallerId) (p : α) :
    (∃ r, s.outline.calls[c]? = some (r, .ended (.took p))) ↔ s.outcome? c = some (.took p) := by
  rw [System.outline_calls_getElem?, System.outcome?]
  rcases s.callers[c]? with _ | ⟨r, stage⟩
  · simp
  · cases stage with
    | leaving q cause late => cases late <;> simp [Stage.spot]
    | _ => simp [Stage.spot]

/-- Where an item lies can be read from the outline. -/
theorem liesAt_outline (k : Course α η) (p : α) (q : QueueId) (i : Nat) :
    k.LiesAt p q i ↔ ∃ x, k.system.outline.faces[q]? = some x ∧ x.items[i]? = some p := by
  rw [LiesAt, System.outline_faces_getElem?]
  by_cases hq : q < k.system.queues.length
  · rw [System.getElem?_queues hq]
    simp [face]
  · rw [System.queue_of_length_le (Nat.le_of_not_lt hq),
      List.getElem?_eq_none (Nat.le_of_not_lt hq)]
    simp [new]

/-! ## One place for each item -/

/-- An item that was not stored lies nowhere. -/
theorem Sound.not_liesAt {k : Course (Parcel α) η} (h : k.Sound) {p : Parcel α}
    (hn : ¬ k.Stored p) (q : QueueId) (i : Nat) : ¬ k.LiesAt p q i := by
  intro hl
  obtain ⟨x, hx, hi⟩ := (liesAt_outline k p q i).mp hl
  have hst := h.kept.stored hx (List.mem_of_getElem? hi)
  exact hn ((stored_outline k p).mp hst)

/-- An item whose push has not succeeded is nowhere. -/
theorem Sound.absent {k : Course (Parcel α) η} (h : k.Sound) {p : Parcel α}
    (hn : ¬ k.Stored p) : k.Absent p := by
  refine ⟨h.not_liesAt hn, fun hr => hn ?_⟩
  exact (stored_outline k p).mp ((h.kept.mem_iff p).mp (List.mem_append_right _ hr))

/-- An item whose push has succeeded is in one place, or was returned once. -/
theorem Sound.waits_or_delivered {k : Course (Parcel α) η} (h : k.Sound) {p : Parcel α}
    (hs : k.Stored p) : k.Waits p ∨ k.Delivered p := by
  have hapart := List.disjoint_of_nodup_append h.kept.nodup
  rcases h.kept.lies_or_taken ((stored_outline k p).mpr hs) with hr | ⟨q, x, hx, hp⟩
  · refine .inr ⟨fun q i hl => ?_, ?_⟩
    · obtain ⟨x, hx, hi⟩ := (liesAt_outline k p q i).mp hl
      have hst : p ∈ k.system.outline.stock :=
        List.mem_flatMap.mpr ⟨x, List.mem_of_getElem? hx, List.mem_of_getElem? hi⟩
      exact hapart hst hr
    · obtain ⟨i, hi⟩ := List.mem_iff_getElem?.mp hr
      refine ⟨i, hi, fun j hj => ?_⟩
      have hlt := (List.getElem?_eq_some_iff.mp hj).1
      exact (List.getElem?_inj hlt h.kept.nodup.of_append_right).mp (hj.trans hi.symm)
  · refine .inl ⟨?_, fun hr => ?_⟩
    · obtain ⟨i, hi⟩ := List.mem_iff_getElem?.mp hp
      refine ⟨(q, i), (liesAt_outline k p q i).mpr ⟨x, hx, hi⟩, ?_⟩
      rintro ⟨r, j⟩ hl
      obtain ⟨y, hy, hj⟩ := (liesAt_outline k p r j).mp hl
      obtain rfl := h.kept.queue_unique hy hx (List.mem_of_getElem? hj) hp
      obtain rfl := Option.some.inj (hy.symm.trans hx)
      have hlt := (List.getElem?_eq_some_iff.mp hj).1
      have hij := (List.getElem?_inj hlt (h.kept.nodup_items hy)).mp (hj.trans hi.symm)
      rw [hij]
    · exact hapart (List.mem_flatMap.mpr ⟨x, List.mem_of_getElem? hx, hp⟩) hr

/-- A push that has failed does not succeed later. -/
theorem Failed.not_stored {k : Course (Parcel α) η} (h : k.Sound) {p : Parcel α}
    (hf : k.Failed p) (later : List (Event α η)) : ¬ (k.extendMarked later).Stored p := by
  obtain ⟨stage, hc, hq, hs⟩ := hf
  have hcall : k.system.outline.calls[p.sender]? = some (.push p, stage.spot) := by
    rw [System.outline_calls_getElem?, hc]
    rfl
  have hkept := extendMarked_induction
    (P := fun k => k.Sound ∧ k.system.outline.calls[p.sender]? = some (.push p, stage.spot))
    ⟨h, hcall⟩ (fun k e hk => ⟨hk.1.next e, (hk.1.step e).ended_kept hk.2 hq⟩) later
  intro hst
  rw [← stored_outline, Outline.Stored, hkept.2] at hst
  have hspot : stage.spot = .ended .stored := (Prod.mk.inj (Option.some.inj hst)).2
  cases stage with
  | leaving q cause late => cases late <;> cases hspot
  | ended outcome =>
    cases hspot
    exact hs rfl
  | _ => cases hspot

/-! ## Two items in order -/

/-- The outline after a call was made through a handle of a queue that exists. -/
theorem outline_call (k : Course (Parcel α) η) {h : QueueId} (hh : h < k.system.queues.length)
    (a : α) : (k.nextMarked (.call h (.push a))).system.outline =
      { k.system.outline with calls := k.system.outline.calls ++
        [(.push ⟨k.system.callers.length, a⟩, .facing h)] } := by
  have hp : (k.nextMarked (.call h (.push a))).system =
      (k.system.addCaller h (.push ⟨k.system.callers.length, a⟩)).2 := by
    simp only [nextMarked, next, Event.sentBy, Request.sentBy, System.perform, if_pos hh,
      System.quietly]
  rw [hp, System.outline_addCaller]

/-- No event takes a call away. -/
theorem Sound.length_callers_le {k : Course (Parcel α) η} (h : k.Sound) (e : Event α η) :
    k.system.callers.length ≤ (k.nextMarked e).system.callers.length := by
  have hl := (h.step e).length_calls_le
  rwa [length_calls_outline, length_calls_outline] at hl

/-- A push stays on the route of its handle. -/
theorem Sound.routed {k : Course (Parcel α) η} (h : k.Sound) {handle : QueueId} {p : Parcel α}
    (hl : p.sender < k.system.callers.length) (hr : k.system.outline.Routed handle p)
    (later : List (Event α η)) :
    (k.extendMarked later).system.outline.Routed handle p ∧
      p.sender < (k.extendMarked later).system.callers.length := by
  have hall := extendMarked_induction
    (P := fun k => k.Sound ∧ k.system.outline.Routed handle p ∧
      p.sender < k.system.callers.length)
    ⟨h, hr, hl⟩ (fun k e ⟨hs, hr, hl⟩ => ?_) later
  · exact hall.2
  · have hl' := Nat.lt_of_lt_of_le hl (hs.length_callers_le e)
    rw [← length_calls_outline] at hl
    exact ⟨hs.next e, (hs.step e).routed hs.kept hl hr, hl'⟩

/-- A later push stays behind an earlier one. -/
theorem Sound.behind {k : Course (Parcel α) η} (h : k.Sound) {first second : Parcel α}
    (hn : first ≠ second) (hl : second.sender < k.system.callers.length)
    (hb : k.system.outline.Behind k.taken first second) (later : List (Event α η)) :
    (k.extendMarked later).system.outline.Behind (k.extendMarked later).taken first second := by
  have hall := extendMarked_induction
    (P := fun k => k.Sound ∧ k.system.outline.Behind k.taken first second ∧
      second.sender < k.system.callers.length)
    ⟨h, hb, hl⟩ (fun k e ⟨hs, hb, hl⟩ => ?_) later
  · exact hall.2.1
  · have hl' := Nat.lt_of_lt_of_le hl (hs.length_callers_le e)
    rw [← length_calls_outline] at hl
    exact ⟨hs.next e, (hs.step e).behind hs.kept (hs.next e).cleared hn hl hb, hl'⟩

/-- The item of a push that is made now. -/
def pushed (k : Course (Parcel α) η) (a : α) : Parcel α := ⟨k.system.callers.length, a⟩

/-- One item is pushed, and after its push has succeeded another one, through handles of
which redirects lead to one queue. The second is then returned after the first one. -/
theorem Sound.returned_in_order {k : Course (Parcel α) η} (h : k.Sound) {h₁ h₂ : QueueId}
    {a b : α} {between later : List (Event α η)} {k₂ k₃ : Course (Parcel α) η}
    (hk₂ : k₂ = (k.nextMarked (.call h₁ (.push a))).extendMarked between)
    (hk₃ : k₃ = (k₂.nextMarked (.call h₂ (.push b))).extendMarked later)
    (hh₁ : h₁ < k.system.queues.length) (hh₂ : h₂ < k₂.system.queues.length)
    (hm : k₂.system.outline.Meet h₁ h₂) (hs : k₂.Stored (k.pushed a))
    (hr : k₂.pushed b ∈ k₃.returned) : [k.pushed a, k₂.pushed b].Sublist k₃.returned := by
  have hnew₁ : (k.pushed a).sender = k.system.outline.calls.length :=
    (length_calls_outline _).symm
  have ho₁ := outline_call k hh₁ a
  have hrouted := Outline.Routed.of_new h.kept hnew₁ ho₁
  have hlt₁ : (k.pushed a).sender < (k.nextMarked (.call h₁ (.push a))).system.callers.length := by
    rw [← length_calls_outline, ho₁, List.length_append, ← hnew₁]
    exact Nat.lt_succ_self _
  have hsound₂ : k₂.Sound := by
    rw [hk₂]
    exact extendMarked_induction (h.next _) (fun _ e hk => hk.next e) between
  obtain ⟨hrouted₂, hlt₂⟩ := (h.next _).routed hlt₁ hrouted between
  rw [← hk₂] at hrouted₂ hlt₂
  have hnew₂ : (k₂.pushed b).sender = k₂.system.outline.calls.length :=
    (length_calls_outline _).symm
  have ho₂ := outline_call k₂ hh₂ b
  have hbehind : (k₂.nextMarked (.call h₂ (.push b))).system.outline.Behind k₂.taken
      (k.pushed a) (k₂.pushed b) :=
    .of_new hsound₂.kept hsound₂.cleared hrouted₂ ((stored_outline _ _).mpr hs) hm hnew₂ ho₂
  have htaken : (k₂.nextMarked (.call h₂ (.push b))).taken = k₂.taken := by
    simp only [nextMarked, Course.next, Event.sentBy, Request.sentBy, System.perform, if_pos hh₂,
      System.quietly, Option.toList_none, List.append_nil]
  have hne : k.pushed a ≠ k₂.pushed b := by
    intro he
    have hsender : (k.pushed a).sender = k₂.system.callers.length := congrArg Parcel.sender he
    exact absurd hsender (Nat.ne_of_lt hlt₂)
  have hlt : (k₂.pushed b).sender < (k₂.nextMarked (.call h₂ (.push b))).system.callers.length := by
    rw [← length_calls_outline, ho₂, List.length_append, ← hnew₂]
    exact Nat.lt_succ_self _
  rw [← htaken] at hbehind
  have hall := (hsound₂.next _).behind hne hlt hbehind later
  rw [hk₃] at hr ⊢
  exact hall.returned hr

/-- Without their marks, the items of a marked course are those of the course itself. -/
theorem map_marked (events : List (Event α η)) :
    (marked events).map Parcel.load = after events := by
  have hall (k : Course (Parcel α) η) :
      (k.extendMarked events).map Parcel.load = (k.map Parcel.load).extend events := by
    induction events generalizing k with
    | nil => rfl
    | cons e events ih =>
      have hnext : (k.nextMarked e).map Parcel.load = (k.map Parcel.load).next e := by
        rw [nextMarked, ← next_map, Event.load_sentBy]
      exact (ih _).trans (congrArg (extend · events) hnext)
  exact hall start

/-- At every moment of every course, an item whose push succeeded is in one place of one
queue or was returned by one pop, and any other item is nowhere. An item whose push failed
or was given up stays nowhere. Of two items pushed one after the other, the later one is
returned after the earlier one. -/
theorem items_once_and_in_order (events : List (Event α η)) :
    let k := marked events
    k.map Parcel.load = after events ∧
    (∀ p, k.Stored p → k.Waits p ∨ k.Delivered p) ∧
    (∀ p, ¬ k.Stored p → k.Absent p) ∧
    (∀ p, k.Failed p → ∀ later, (k.extendMarked later).Absent p) ∧
    (∀ c p, ⟨some c, p⟩ ∈ k.taken ↔ k.system.outcome? c = some (.took p)) ∧
    ∀ h₁ h₂ a b between later,
      let k₂ := (k.nextMarked (.call h₁ (.push a))).extendMarked between
      let k₃ := (k₂.nextMarked (.call h₂ (.push b))).extendMarked later
      h₁ < k.system.queues.length → h₂ < k₂.system.queues.length →
      k₂.system.outline.Meet h₁ h₂ → k₂.Stored (k.pushed a) → k₂.pushed b ∈ k₃.returned →
      [k.pushed a, k₂.pushed b].Sublist k₃.returned := by
  intro k
  have hk : k.Sound := sound_marked events
  have hmap : k.map Parcel.load = after events := map_marked events
  have hplace (p : Parcel α) (hp : k.Stored p) : k.Waits p ∨ k.Delivered p :=
    hk.waits_or_delivered hp
  have habsent (p : Parcel α) (hp : ¬k.Stored p) : k.Absent p := hk.absent hp
  refine ⟨hmap, hplace, habsent, ?_, ?_, ?_⟩
  · intro p hf later
    have hlater : (k.extendMarked later).Sound :=
      extendMarked_induction hk (fun _ e h => h.next e) later
    exact hlater.absent (hf.not_stored hk later)
  · intro c p
    rw [← took_outline]
    exact hk.kept.took_iff c p
  · intro h₁ h₂ a b between later k₂ k₃ hh₁ hh₂ hm hs hr
    exact hk.returned_in_order rfl rfl hh₁ hh₂ hm hs hr

/-- An item is pushed, its queue is moved into another one, and a second item is pushed
through the same handle. They are returned in order. -/
theorem returned_in_order_after_move :
    let k : Course (Parcel Nat) Unit := marked [.addQueue 0, .addQueue 0]
    let k₂ := (k.nextMarked (.call 0 (.push 7))).extendMarked [.turn 0, .move 0 1]
    let k₃ := (k₂.nextMarked (.call 0 (.push 8))).extendMarked
      [.turn 1, .turn 1, .tryPop 0, .tryPop 1]
    k₂.Stored (k.pushed 7) ∧ k₂.pushed 8 ∈ k₃.returned ∧
      [k.pushed 7, k₂.pushed 8].Sublist k₃.returned := by
  intro k k₂ k₃
  have hs : k₂.Stored (k.pushed 7) := by
    unfold Stored
    decide
  have hr : k₂.pushed 8 ∈ k₃.returned := by decide
  have hfirst : 0 < k.system.queues.length := by decide
  have hsecond : 0 < k₂.system.queues.length := by decide
  have hmeet : k₂.system.outline.Meet 0 0 := ⟨0, .refl, .refl⟩
  have horder := (items_once_and_in_order [.addQueue 0, .addQueue 0]).2.2.2.2.2 0 0 7 8
    [.turn 0, .move 0 1] [.turn 1, .turn 1, .tryPop 0, .tryPop 1] hfirst hsecond hmeet hs hr
  exact ⟨hs, hr, horder⟩

end Course

end Diameter.Queue
