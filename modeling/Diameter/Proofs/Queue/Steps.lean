import Diameter.Proofs.Queue.Outline

/-!
# What one event can do

Every event is, seen from the outline, one of eleven steps: nothing, a new queue, a new
call, a call that follows a redirect, fails, stores or takes, an item that is taken without
waiting, a move, or a queue that is closed. What holds of all queues and callers is shown
for these steps.
-/

namespace Diameter.Queue

variable {α η : Type}

/-! ## The steps of an outline -/

/-- Whether a call may end here without an item stored or taken. A refused item is the one
that was to be stored. -/
def Spot.IsFailure (r : Request α) : Spot α → Prop
  | .gone | .ended (.failed _) => True
  | .ended (.refused item _) => r = .push item
  | _ => False

/-- The item that a call at this spot has taken. -/
def Spot.taken? (c : CallerId) : Spot α → Option (Taking α)
  | .ended (.took item) => some ⟨some c, item⟩
  | _ => none

/-- A step, the call that it makes and the item that it takes. -/
inductive Outline.Step : Outline α → Option (Request α) → Option (Taking α) → Outline α → Prop
  | rest {o made} : Step o made none o
  | addQueue {o} : Step o none none { o with faces := o.faces ++ [⟨.usable, [], none⟩] }
  | call {o q r} (hq : q < o.faces.length) :
      Step o (some r) none { o with calls := o.calls ++ [(r, .facing q)] }
  | follow {o c r q items target} (hc : o.calls[c]? = some (r, .facing q))
      (hq : o.faces[q]? = some ⟨.usable, items, some target⟩) :
      Step o none none { o with calls := o.calls.set c (r, .facing target) }
  | fail {o c r q spot} (hc : o.calls[c]? = some (r, .facing q)) (hs : spot.IsFailure r) :
      Step o none none { o with calls := o.calls.set c (r, spot) }
  | store {o c q item items} (hc : o.calls[c]? = some (.push item, .facing q))
      (hq : o.faces[q]? = some ⟨.usable, items, none⟩) :
      Step o none none ⟨o.faces.set q ⟨.usable, items ++ [item], none⟩,
        o.calls.set c (.push item, .ended .stored)⟩
  | take {o c q deadline item items} (hc : o.calls[c]? = some (.pop deadline, .facing q))
      (hq : o.faces[q]? = some ⟨.usable, item :: items, none⟩) :
      Step o none (some ⟨some c, item⟩) ⟨o.faces.set q ⟨.usable, items, none⟩,
        o.calls.set c (.pop deadline, .ended (.took item))⟩
  | takeNow {o q item items redirect}
      (hq : o.faces[q]? = some ⟨.usable, item :: items, redirect⟩) :
      Step o none (some ⟨none, item⟩)
        { o with faces := o.faces.set q ⟨.usable, items, redirect⟩ }
  | move {o source target moved items} (hn : source ≠ target)
      (hs : o.faces[source]? = some ⟨.usable, moved, none⟩)
      (ht : o.faces[target]? = some ⟨.usable, items, none⟩) :
      Step o none none ⟨(o.faces.set target ⟨.usable, items ++ moved, none⟩).set source
        ⟨.usable, [], some target⟩, o.calls⟩
  | close {o q redirect} (hq : o.faces[q]? = some ⟨.usable, [], redirect⟩) :
      Step o none none { o with faces := o.faces.set q ⟨.destroyed, [], none⟩ }

/-- Every call has to do with a queue that exists, and every redirect leads to one. -/
structure Outline.InRange (o : Outline α) : Prop where
  /-- The queues of calls exist. -/
  facing : ∀ {c q : Nat} {r : Request α}, o.calls[c]? = some (r, Spot.facing q) →
    q < o.faces.length
  /-- The targets of redirects exist. -/
  redirect : ∀ {q t : Nat} {x : Face α}, o.faces[q]? = some x → x.redirect = some t →
    t < o.faces.length

/-- The call that an event makes. -/
def Event.made? : Event α η → Option (Request α)
  | .call _ r => some r
  | _ => none

namespace System

/-- The outline has the face of every queue. -/
theorem outline_faces_getElem? (s : System α η) (q : QueueId) :
    s.outline.faces[q]? = s.queues[q]?.map face := by
  simp only [outline, List.getElem?_map]

/-- The outline has every call with its spot. -/
theorem outline_calls_getElem? (s : System α η) (c : CallerId) :
    s.outline.calls[c]? = s.callers[c]?.map fun c => (c.request, c.stage.spot) := by
  simp only [outline, List.getElem?_map]

theorem length_faces_outline (s : System α η) :
    s.outline.faces.length = s.queues.length := by
  simp only [outline, List.length_map]

/-- A queue that exists is in its place. -/
theorem getElem?_queues {s : System α η} {q : QueueId} (h : q < s.queues.length) :
    s.queues[q]? = some (s.queue q) := by
  simp only [queue, List.getD_eq_getElem?_getD, List.getElem?_eq_getElem h, Option.getD_some]

/-- A place that holds none counts as an empty queue. -/
theorem queue_of_length_le {s : System α η} {q : QueueId} (h : s.queues.length ≤ q) :
    s.queue q = .new 0 := by
  simp only [queue, List.getD_eq_getElem?_getD, List.getElem?_eq_none h, Option.getD_none]

/-- A queue that holds something exists. -/
theorem lt_length_of_items {s : System α η} {q : QueueId} {item : α} {rest : List α}
    (h : (s.queue q).items = item :: rest) : q < s.queues.length := by
  by_contra hn
  rw [queue_of_length_le (Nat.le_of_not_lt hn)] at h
  cases h

/-- What can be moved, in full. -/
theorem moveObstacle_eq_none {s : System α η} {source target : QueueId}
    (h : s.moveObstacle source target = none) :
    source ≠ target ∧
    ((s.queue source).lifecycle = .usable ∧ (s.queue target).lifecycle = .usable) ∧
    ((s.queue source).redirect = none ∧ (s.queue target).redirect = none) ∧
    (s.queue source).producers.count = 0 := by
  unfold moveObstacle at h
  dsimp only at h
  split_ifs at h with hn hl hr hw hp hf
  have hcases (x : Lifecycle) : x ≠ .destroyed → x = .usable := by cases x <;> simp
  push Not at hl hr
  refine ⟨hn, ⟨hcases _ hl.1, hcases _ hl.2⟩, ?_, by omega⟩
  simpa using hr

/-! ## Each event is a step -/

/-- The item that a call has taken can be read off the outline. -/
theorem takenBy?_eq (s : System α η) (c : CallerId) :
    s.takenBy? c = s.outline.calls[c]?.bind fun call => call.2.taken? c := by
  rw [outline_calls_getElem?, takenBy?, outcome?]
  rcases s.callers[c]? with _ | ⟨r, stage⟩
  · rfl
  · cases stage with
    | leaving q cause late => cases late <;> rfl
    | ended outcome => cases outcome <;> rfl
    | _ => rfl

/-- What is taken after a known call was sent to a known spot. -/
theorem takenBy?_of_set {s : System α η} {o : Outline α} {c : CallerId} {r : Request α}
    {spot before : Spot α} (hc : o.calls[c]? = some (r, before))
    (hs : s.outline.calls = o.calls.set c (r, spot)) : s.takenBy? c = spot.taken? c := by
  obtain ⟨hl, -⟩ := List.getElem?_eq_some_iff.mp hc
  rw [takenBy?_eq, hs, List.getElem?_set_self hl, Option.bind_some]

/-- A queue that exists shows its face. -/
theorem face_of_queue {s : System α η} {q : QueueId} (hq : q < s.queues.length) :
    s.outline.faces[q]? = some (s.queue q).face := by
  rw [outline_faces_getElem?, getElem?_queues hq, Option.map_some]

/-- What shows a face is a queue that exists. -/
theorem queue_of_face {s : System α η} {q : QueueId} {x : Face α}
    (h : s.outline.faces[q]? = some x) : q < s.queues.length ∧ (s.queue q).face = x := by
  have hl := (List.getElem?_eq_some_iff.mp h).1
  rw [length_faces_outline] at hl
  rw [face_of_queue hl] at h
  exact ⟨hl, Option.some.inj h⟩

/-- A call that looks at a queue fails, follows a redirect, goes on having to do with the
queue, stores or takes. -/
theorem step_examine {s : System α η} {c : CallerId} {r : Request α} {q : QueueId}
    {recalled : Bool} (hc : s.callers[c]? = some ⟨r, .ready q recalled⟩)
    (hq : q < s.queues.length) :
    (s.outline).Step none ((s.examine c r q).1.takenBy? c) (s.examine c r q).1.outline := by
  have hcall : s.outline.calls[c]? = some (r, .facing q) := by
    rw [outline_calls_getElem?, hc]; rfl
  have hface := face_of_queue hq
  have hget := getElem?_queues hq
  have hset (stage : Stage α) : (s.setStage c stage).outline =
      { s.outline with calls := s.outline.calls.set c (r, stage.spot) } :=
    outline_setStage s stage hc
  have hwait (side : Side) : (s.suspend q side c).outline = s.outline :=
    outline_suspend s side hc rfl
  have hnone : s.takenBy? c = none := by rw [takenBy?_eq, hcall]; rfl
  have hwaitTaken (side : Side) : (s.suspend q side c).takenBy? c = none := by
    rw [takenBy?_eq, hwait, ← takenBy?_eq, hnone]
  unfold examine
  dsimp only
  cases hl : (s.queue q).lifecycle with
  | destroyed =>
    cases r with
    | push item =>
      dsimp only
      rw [takenBy?_of_set hcall (by rw [hset]), hset]
      exact .fail hcall rfl
    | pop deadline =>
      dsimp only
      rw [takenBy?_of_set hcall (by rw [hset]), hset]
      exact .fail hcall trivial
  | usable =>
    cases hr : (s.queue q).redirect with
    | some target =>
      dsimp only
      rw [takenBy?_of_set hcall (by rw [hset]), hset]
      have hf : s.outline.faces[q]? = some ⟨.usable, (s.queue q).items, some target⟩ := by
        rw [hface, face, hl, hr]
      exact .follow hcall hf
    | none =>
      cases r with
      | push item =>
        dsimp only
        split
        · rw [hwaitTaken, hwait]
          exact .rest
        · have hs := outline_store (s.setStage c (.ended .stored)) item hget
          rw [hset] at hs
          rw [takenBy?_of_set hcall (by rw [hs]), hs, hl, hr]
          exact .store hcall (by rw [hface, face, hl, hr])
      | pop deadline =>
        dsimp only
        cases hi : (s.queue q).items with
        | nil =>
          dsimp only
          rw [hwaitTaken, hwait]
          exact .rest
        | cons item rest =>
          have hs := outline_takeHead (s.setStage c (.ended (.took item))) rest hget
          rw [hset] at hs
          dsimp only
          rw [takenBy?_of_set hcall (by rw [hs]), hs, hl, hr]
          exact .take hcall (by rw [hface, face, hl, hr, hi])

/-- A turn is a look at a queue, or nothing that the outline sees. -/
theorem step_turn {s : System α η} (h : s.outline.InRange) (c : CallerId) :
    (s.outline).Step none (if (s.outcome? c).isSome then none else (s.turn c).1.takenBy? c)
      (s.turn c).1.outline := by
  cases hc : s.callers[c]? with
  | none =>
    have ht : s.takenBy? c = none := by rw [takenBy?, outcome?, hc]
    simp only [turn, outcome?, hc, ht]
    exact .rest
  | some caller =>
    obtain ⟨r, stage⟩ := caller
    have hcall : s.outline.calls[c]? = some (r, stage.spot) := by
      rw [outline_calls_getElem?, hc]; rfl
    cases stage with
    | ready q recalled =>
      have hq := h.facing hcall
      rw [length_faces_outline] at hq
      simp only [turn, outcome?, hc, Option.isSome_none, Bool.false_eq_true, if_false]
      exact step_examine hc hq
    | woken q cause =>
      have ho : ((s.modifyWaiting q r.side (·.resume)).setStage c (.ready q true)).outline =
          s.outline := by
        rw [outline_setStage_of_spot (s.modifyWaiting q r.side (·.resume)) (.ready q true) hc rfl,
          outline_modifyWaiting]
      simp only [turn, outcome?, hc, Option.isSome_none, Bool.false_eq_true, if_false]
      rw [takenBy?_eq, ho, hcall]
      exact .rest
    | parked q | leaving q cause late | dropped =>
      have ht : s.takenBy? c = none := by rw [takenBy?, outcome?, hc]
      simp only [turn, outcome?, hc, ht]
      exact .rest
    | ended outcome =>
      simp only [turn, outcome?, hc]
      exact .rest

theorem step_abandon (s : System α η) (c : CallerId) :
    (s.outline).Step none none (s.abandon c).outline := by
  unfold abandon
  split
  case h_1 r q hc =>
    rw [outline_setStage s _ hc]
    have hcall : s.outline.calls[c]? = some (r, .facing q) := by
      rw [outline_calls_getElem?, hc]; rfl
    exact .fail hcall trivial
  case h_2 => exact .rest

theorem step_withdraw (s : System α η) (c : CallerId) (late : Bool) :
    (s.outline).Step none none (s.withdraw c late).outline := by
  have hleave (r : Request α) (stage after : Stage α) (q : QueueId)
      (hc : s.callers[c]? = some ⟨r, stage⟩) (hq : stage.spot = .facing q)
      (hs : after.spot.IsFailure r) :
      (s.outline).Step none none
        ((s.modifyWaiting q r.side (·.resume)).setStage c after).outline := by
    have hcall : s.outline.calls[c]? = some (r, .facing q) := by
      rw [outline_calls_getElem?, hc, ← hq]; rfl
    rw [outline_setStage _ _ (by exact hc), outline_modifyWaiting]
    exact .fail hcall hs
  unfold withdraw
  split
  case h_1 r q hc => exact hleave r _ _ q hc rfl (by cases late <;> trivial)
  case h_2 r q cause hc => exact hleave r _ _ q hc rfl (by cases late <;> trivial)
  case h_3 => exact .rest

/-- Leaving the line is nothing that the outline sees. -/
theorem outline_depart (s : System α η) (c : CallerId) : (s.depart c).outline = s.outline := by
  unfold depart
  split
  case h_1 r q cause late hc =>
    have hset : (s.setStage c (if late then .ended (.failed .timeout) else .dropped)).outline =
        s.outline :=
      outline_setStage_of_spot s _ hc (by cases late <;> rfl)
    dsimp only
    split
    · rw [outline_modifyWaiting, hset]
    · rw [outline_wakeOne, hset]
    · exact hset
  case h_2 => rfl

/-- An attempt is a step if it takes an item, and otherwise leaves the outline. -/
theorem step_tryPop (s : System α η) (handle : QueueId) :
    match s.tryPop handle with
    | (.ok item, after, _) => (s.outline).Step none (some ⟨none, item⟩) after.outline
    | (.error _, after, _) => after = s := by
  unfold tryPop
  dsimp only
  generalize hq : s.serving handle = q
  cases hl : (s.queue q).lifecycle with
  | destroyed => rfl
  | usable =>
    cases hi : (s.queue q).items with
    | nil => rfl
    | cons item rest =>
      have hr := lt_length_of_items hi
      dsimp only
      rw [outline_takeHead s rest (getElem?_queues hr), hl]
      exact .takeNow (by rw [face_of_queue hr, face, hl, hi])

/-- A move is made between two queues that serve themselves: the items of the source are put
behind those of the target, and the source gets a redirect. -/
theorem outline_move {s after : System α η} {source target : QueueId}
    {crossing : Option (Crossing η)} (hs : source < s.queues.length)
    (ht : target < s.queues.length) (h : s.move source target = (.ok (), after, crossing)) :
    source ≠ target ∧
    s.outline.faces[source]? = some ⟨.usable, (s.queue source).items, none⟩ ∧
    s.outline.faces[target]? = some ⟨.usable, (s.queue target).items, none⟩ ∧
    after.outline = ⟨(s.outline.faces.set target
      ⟨.usable, (s.queue target).items ++ (s.queue source).items, none⟩).set source
        ⟨.usable, [], some target⟩, s.outline.calls⟩ := by
  obtain ⟨hn, hl, hr, -⟩ := moveObstacle_eq_none (moveObstacle_of_move h)
  have hsrc := getElem?_queues hs
  have hdst := getElem?_queues ht
  refine ⟨hn, ?_, ?_, ?_⟩
  · rw [face_of_queue hs, face, hl.1, hr.1]
  · rw [face_of_queue ht, face, hl.2, hr.2]
  · have hafter := congrArg (fun r => r.1.outline) (eq_of_move h)
    dsimp only [spliced] at hafter
    rw [outline_report, outline_wakeAll, outline_wakeTimes] at hafter
    rw [outline_modifyQueue_set (x := s.queue source) _ _ ?_,
      outline_modifyQueue_set s _ hdst] at hafter
    · rw [← hafter]
      simp only [face, hl, hr]
    · simp only [modifyQueue, List.getElem?_modify_ne _ _ (Ne.symm hn), hsrc]

/-- A move that succeeds is a step. -/
theorem step_move {s after : System α η} {source target : QueueId}
    {crossing : Option (Crossing η)} (hs : source < s.queues.length)
    (ht : target < s.queues.length) (h : s.move source target = (.ok (), after, crossing)) :
    (s.outline).Step none none after.outline := by
  obtain ⟨hn, hsource, htarget, hafter⟩ := outline_move hs ht h
  rw [hafter]
  exact .move hn hsource htarget

/-- A close that succeeds is a step. -/
theorem step_close {s after : System α η} {q : QueueId} (h : s.close q = (.ok (), after)) :
    (s.outline).Step none none after.outline := by
  obtain ⟨hlive, hempty, -, rfl⟩ := of_close h
  by_cases hq : q < s.queues.length
  · have hface : s.outline.faces[q]? = some ⟨.usable, [], (s.queue q).redirect⟩ := by
      rw [face_of_queue hq, face, hlive, hempty]
    rw [outline_modifyQueue_set s _ (getElem?_queues hq)]
    have hstep := Outline.Step.close hface
    rw [← hempty] at hstep
    exact hstep
  · have hsame (f : Queue α η → Queue α η) : s.modifyQueue q f = s := by
      rw [modifyQueue, List.modify_eq_self (Nat.le_of_not_lt hq)]
    rw [hsame]
    exact .rest

/-- A new call has to do with the queue of its handle. -/
theorem outline_addCaller (s : System α η) (q : QueueId) (r : Request α) :
    (s.addCaller q r).2.outline =
      { s.outline with calls := s.outline.calls ++ [(r, .facing q)] } := by
  simp only [addCaller, outline_schedule]
  simp only [outline, List.map_append, List.map_cons, List.map_nil]
  rfl

/-- A new call is seen by no queue. -/
theorem queue_addCaller (s : System α η) (handle : QueueId) (r : Request α) (q : QueueId) :
    (s.addCaller handle r).2.queue q = s.queue q := by
  unfold addCaller schedule
  dsimp only
  split_ifs <;> rfl

/-- A new call is about to look at its handle. -/
theorem callers_addCaller (s : System α η) (handle : QueueId) (r : Request α) :
    (s.addCaller handle r).2.callers[s.callers.length]? = some ⟨r, .ready handle false⟩ := by
  unfold addCaller schedule
  dsimp only
  split_ifs <;> exact List.getElem?_concat_length

/-- Every event is a step. -/
theorem step_perform {s : System α η} (h : s.outline.InRange) (e : Event α η) :
    (s.outline).Step e.made? (s.perform e).taken (s.perform e).system.outline := by
  cases e with
  | addQueue capacity =>
    have ho : (s.addQueue capacity).2.outline =
        { s.outline with faces := s.outline.faces ++ [⟨.usable, [], none⟩] } := by
      simp only [outline, addQueue, List.map_append, List.map_cons, List.map_nil]
      rfl
    simp only [perform, quietly, ho]
    exact .addQueue
  | call handle request =>
    by_cases hq : handle < s.queues.length
    · simp only [perform, if_pos hq, quietly, outline_addCaller]
      exact .call (by rwa [length_faces_outline])
    · simp only [perform, if_neg hq]
      exact .rest
  | turn c => exact step_turn h c
  | abandon c => exact step_abandon s c
  | withdraw c late =>
    by_cases hl : (late && !s.isTimed c) = true
    · simp only [perform, if_pos hl]
      exact .rest
    · simp only [perform, if_neg hl]
      exact step_withdraw s c late
  | depart c =>
    simp only [perform, quietly, outline_depart]
    exact .rest
  | tryPop handle =>
    have ht := step_tryPop s handle
    rcases ho : s.tryPop handle with ⟨result, after, crossing⟩
    rw [ho] at ht
    cases result with
    | ok item =>
      simp only [perform, ho]
      exact ht
    | error e =>
      dsimp only at ht
      simp only [perform, ho, ht]
      exact .rest
  | setThresholds handle high low handler =>
    have ho (w : Option (Watermark η)) (q : QueueId) :
        (s.modifyQueue q fun x => { x with watermark := w }).outline = s.outline :=
      outline_modifyQueue s q fun _ => rfl
    simp only [perform, setThresholds]
    split_ifs <;> simp only [quietly, ho] <;> exact .rest
  | clearThresholds handle =>
    have ho : (s.clearThresholds handle).2.outline = s.outline :=
      outline_modifyQueue s _ fun _ => rfl
    simp only [perform, quietly, ho]
    exact .rest
  | move source target =>
    by_cases hq : source < s.queues.length ∧ target < s.queues.length
    · simp only [perform, if_pos hq]
      rcases ho : s.move source target with ⟨e | done, after, crossing⟩
      · obtain ⟨rfl, -⟩ := move_error_eq ho
        exact .rest
      · exact step_move hq.1 hq.2 ho
    · simp only [perform, if_neg hq]
      exact .rest
  | close q =>
    simp only [perform]
    rcases ho : s.close q with ⟨e | done, after⟩
    · obtain rfl := close_error_eq ho
      exact .rest
    · exact step_close ho
  | wakeAll q side =>
    by_cases hl : (s.queue q).lifecycle = .destroyed
    · simp only [perform, if_pos hl, quietly, outline_wakeAll]
      exact .rest
    · simp only [perform, if_neg hl]
      exact .rest

end System

namespace Outline

variable {o o' : Outline α}

/-- A queue has another face, whose redirect leads to a queue that exists. -/
theorem InRange.set_face (ho : o.InRange) (p : QueueId) {x : Face α}
    (hx : ∀ t, x.redirect = some t → t < o.faces.length) :
    InRange ⟨o.faces.set p x, o.calls⟩ := by
  refine ⟨fun {c q r} hc => ?_, fun {q t y} hy ht => ?_⟩
  · rw [List.length_set]
    exact ho.facing hc
  · rw [List.length_set]
    rw [List.getElem?_set] at hy
    split_ifs at hy with hp hl
    · cases hy
      exact hx t ht
    · exact ho.redirect hy ht

/-- A call is at another spot, which is no queue or one that exists. -/
theorem InRange.set_call (ho : o.InRange) (c : CallerId) (r : Request α) {spot : Spot α}
    (hs : ∀ q, spot = .facing q → q < o.faces.length) :
    InRange ⟨o.faces, o.calls.set c (r, spot)⟩ := by
  refine ⟨fun {d q r'} hd => ?_, ho.redirect⟩
  rw [List.getElem?_set] at hd
  split_ifs at hd with hp hl
  · cases hd
    exact hs q rfl
  · exact ho.facing hd

/-- Another queue is made, which redirects nobody. -/
theorem InRange.concat_face (ho : o.InRange) {x : Face α} (hx : x.redirect = none) :
    InRange ⟨o.faces ++ [x], o.calls⟩ := by
  refine ⟨fun {c q r} hc => ?_, fun {q t y} hy ht => ?_⟩
  · rw [List.length_append]
    exact Nat.lt_of_lt_of_le (ho.facing hc) (Nat.le_add_right _ _)
  · rw [List.length_append]
    rw [List.getElem?_append] at hy
    split_ifs at hy with hl
    · exact Nat.lt_of_lt_of_le (ho.redirect hy ht) (Nat.le_add_right _ _)
    · rw [List.getElem?_singleton] at hy
      split_ifs at hy
      cases hy
      cases hx.symm.trans ht

/-- A call is made through the handle of a queue that exists. -/
theorem InRange.concat_call (ho : o.InRange) (r : Request α) {q : QueueId}
    (hq : q < o.faces.length) : InRange ⟨o.faces, o.calls ++ [(r, .facing q)]⟩ := by
  refine ⟨fun {c p r'} hc => ?_, ho.redirect⟩
  rw [List.getElem?_append] at hc
  split_ifs at hc with hl
  · exact ho.facing hc
  · rw [List.getElem?_singleton] at hc
    split_ifs at hc
    cases hc
    exact hq

/-- A step keeps calls and redirects among the queues that exist. -/
theorem Step.inRange {made : Option (Request α)} {taken : Option (Taking α)}
    (h : o.Step made taken o') (ho : o.InRange) : o'.InRange := by
  cases h with
  | rest => exact ho
  | addQueue => exact ho.concat_face rfl
  | call hq => exact ho.concat_call _ hq
  | follow hc hq =>
    refine ho.set_call _ _ ?_
    rintro q ⟨⟩
    exact ho.redirect hq rfl
  | fail hc hs =>
    refine ho.set_call _ _ ?_
    rintro q rfl
    exact hs.elim
  | store hc hq | take hc hq => exact (ho.set_face _ (by simp)).set_call _ _ (by simp)
  | takeNow hq => exact ho.set_face _ fun t ht => ho.redirect hq ht
  | move hn hs ht =>
    refine (ho.set_face _ (by simp)).set_face _ ?_
    rintro t ⟨⟩
    rw [List.length_set]
    exact (List.getElem?_eq_some_iff.mp ht).1
  | close hq => exact ho.set_face _ (by simp)

end Outline

/-- Nothing has happened, so nothing is out of range. -/
theorem Outline.inRange_start : (Course.start (α := α) (η := η)).system.outline.InRange :=
  ⟨fun h => by simp [Course.start, System.empty, System.outline] at h,
    fun h => by simp [Course.start, System.empty, System.outline] at h⟩

end Diameter.Queue
