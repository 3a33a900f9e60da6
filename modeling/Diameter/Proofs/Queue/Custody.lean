import Diameter.Proofs.Queue.Steps
import Mathlib.Data.List.Perm.Basic
import Mathlib.Data.List.Nodup

/-!
# Where an item is

Items are opaque to queues, so each can carry the mark of the push that brought it. In a
course of marked items, an item whose push succeeded is at one position of one queue or was
returned by one pop, and no other item is anywhere.
-/

namespace Diameter.Queue

variable {α η : Type}

/-- An item and the push that brought it. -/
structure Parcel (α : Type) where
  /-- The push. -/
  sender : CallerId
  /-- The item. -/
  load : α
  deriving DecidableEq, Repr

/-- A request of a call, with its item marked. -/
def Request.sentBy (c : CallerId) : Request α → Request (Parcel α)
  | .push item => .push ⟨c, item⟩
  | .pop deadline => .pop deadline

/-- An event whose item is marked with the given call. -/
def Event.sentBy (c : CallerId) : Event α η → Event (Parcel α) η
  | .addQueue capacity => .addQueue capacity
  | .call handle request => .call handle (request.sentBy c)
  | .turn caller => .turn caller
  | .abandon caller => .abandon caller
  | .withdraw caller late => .withdraw caller late
  | .depart caller => .depart caller
  | .tryPop handle => .tryPop handle
  | .setThresholds handle high low handler => .setThresholds handle high low handler
  | .clearThresholds handle => .clearThresholds handle
  | .move source target => .move source target
  | .close queue => .close queue
  | .wakeAll queue side => .wakeAll queue side

namespace Course

/-- The course after one more event whose item is marked with the call that brings it. -/
def nextMarked (k : Course (Parcel α) η) (e : Event α η) : Course (Parcel α) η :=
  k.next (e.sentBy k.system.callers.length)

/-- The course after more events whose items are marked. -/
def extendMarked (k : Course (Parcel α) η) (events : List (Event α η)) :
    Course (Parcel α) η := events.foldl nextMarked k

/-- The course of a list of events whose items are marked. -/
def marked (events : List (Event α η)) : Course (Parcel α) η := start.extendMarked events

/-- What pops have returned, first to last. -/
def returned (k : Course α η) : List α := k.taken.map (·.item)

/-- The push of an item has succeeded. -/
def Stored (k : Course (Parcel α) η) (p : Parcel α) : Prop :=
  k.system.callers[p.sender]? = some ⟨.push p, .ended .stored⟩

/-- The push of an item has failed, was given up, or is giving up. -/
def Failed (k : Course (Parcel α) η) (p : Parcel α) : Prop :=
  ∃ stage, k.system.callers[p.sender]? = some ⟨.push p, stage⟩ ∧
    (∀ q, stage.spot ≠ .facing q) ∧ stage ≠ .ended .stored

/-- What holds of a course and is kept by every event with a marked item holds later. -/
theorem extendMarked_induction {P : Course (Parcel α) η → Prop} {k : Course (Parcel α) η}
    (hk : P k) (step : ∀ k e, P k → P (k.nextMarked e)) (events : List (Event α η)) :
    P (k.extendMarked events) := by
  induction events generalizing k with
  | nil => exact hk
  | cons e events ih => exact ih (step k e hk)

end Course

/-- A call that failed has stored nothing. -/
theorem Spot.IsFailure.ne_stored {r : Request α} {spot : Spot α} (h : spot.IsFailure r) :
    spot ≠ .ended .stored := by
  rintro rfl
  exact h

/-- A call that failed has taken nothing. -/
theorem Spot.IsFailure.ne_took {r : Request α} {spot : Spot α} (h : spot.IsFailure r)
    (item : α) : spot ≠ .ended (.took item) := by
  rintro rfl
  exact h

namespace Outline

/-- What lies in the queues. -/
def stock (o : Outline α) : List α := o.faces.flatMap (·.items)

/-- The push of an item has succeeded. -/
def Stored (o : Outline (Parcel α)) (p : Parcel α) : Prop :=
  o.calls[p.sender]? = some (.push p, .ended .stored)

/-! ## What a step does to calls and to items -/

/-- A step makes a call, or sends one that has to do with a queue elsewhere, or none. -/
theorem Step.calls {o o' : Outline α} {made : Option (Request α)} {taken : Option (Taking α)}
    (h : o.Step made taken o') :
    o'.calls = o.calls ∨ (∃ r q, made = some r ∧ o'.calls = o.calls ++ [(r, .facing q)]) ∨
      ∃ c r q spot, o.calls[c]? = some (r, .facing q) ∧ o'.calls = o.calls.set c (r, spot) := by
  cases h with
  | rest => exact .inl rfl
  | addQueue => exact .inl rfl
  | call hq => exact .inr (.inl ⟨_, _, rfl, rfl⟩)
  | follow hc hq => exact .inr (.inr ⟨_, _, _, _, hc, rfl⟩)
  | fail hc hs => exact .inr (.inr ⟨_, _, _, _, hc, rfl⟩)
  | store hc hq => exact .inr (.inr ⟨_, _, _, _, hc, rfl⟩)
  | take hc hq => exact .inr (.inr ⟨_, _, _, _, hc, rfl⟩)
  | takeNow hq => exact .inl rfl
  | move hn hs ht => exact .inl rfl
  | close hq => exact .inl rfl

/-- No step takes a call away. -/
theorem Step.length_calls_le {o o' : Outline α} {made : Option (Request α)}
    {taken : Option (Taking α)} (h : o.Step made taken o') : o.calls.length ≤ o'.calls.length := by
  rcases h.calls with he | ⟨r, q, -, he⟩ | ⟨c, r, q, spot, -, he⟩
  · exact Nat.le_of_eq (by rw [he])
  · rw [he, List.length_append]
    omega
  · exact Nat.le_of_eq (by rw [he, List.length_set])

/-- A call that has ended stays as it is. -/
theorem Step.ended_kept {o o' : Outline α} {made : Option (Request α)}
    {taken : Option (Taking α)} (h : o.Step made taken o') {c : CallerId} {r : Request α}
    {spot : Spot α} (hc : o.calls[c]? = some (r, spot)) (hs : ∀ q, spot ≠ .facing q) :
    o'.calls[c]? = some (r, spot) := by
  rcases h.calls with he | ⟨r', q, -, he⟩ | ⟨d, r', q, spot', hd, he⟩
  · rw [he, hc]
  · have hl := (List.getElem?_eq_some_iff.mp hc).1
    rw [he, List.getElem?_append_left hl, hc]
  · by_cases hdc : d = c
    · subst hdc
      rw [hc] at hd
      cases hd
      exact absurd rfl (hs q)
    · rw [he, List.getElem?_set_ne hdc, hc]

/-- Writing another face trades the items of one queue for those of the other. -/
theorem stock_set {faces : List (Face α)} {q : Nat} {x : Face α} (y : Face α)
    (h : faces[q]? = some x) :
    (x.items ++ (faces.set q y).flatMap (·.items)).Perm (y.items ++ faces.flatMap (·.items)) := by
  induction faces generalizing q with
  | nil => simp at h
  | cons z faces ih =>
    cases q with
    | zero =>
      rw [List.getElem?_cons_zero, Option.some.injEq] at h
      subst h
      rw [List.set_cons_zero, List.flatMap_cons, List.flatMap_cons, ← List.append_assoc,
        ← List.append_assoc]
      exact List.perm_append_comm.append_right _
    | succ q =>
      rw [List.getElem?_cons_succ] at h
      have hi := (ih h).append_left z.items
      rw [List.set_cons_succ, List.flatMap_cons, List.flatMap_cons]
      exact (List.perm_append_comm_assoc ..).trans
        (hi.trans (List.perm_append_comm_assoc ..))

/-- A new call has not ended. -/
theorem ended_append_iff (calls : List (Request α × Spot α)) (r : Request α) (q : QueueId)
    (d : Nat) (r' : Request α) (outcome : Outcome α) :
    (calls ++ [(r, .facing q)])[d]? = some (r', .ended outcome) ↔
      calls[d]? = some (r', .ended outcome) := by
  rw [List.getElem?_append]
  split
  · exact Iff.rfl
  case isFalse hd =>
    rw [List.getElem?_singleton, List.getElem?_eq_none (Nat.le_of_not_lt hd)]
    split <;> simp

/-- A call that had to do with a queue is sent elsewhere: the calls that have ended are
those that had, and it, if it is sent to an end. -/
theorem ended_set_iff {calls : List (Request α × Spot α)} {c : Nat} {r : Request α} {q : QueueId}
    {spot : Spot α} (hc : calls[c]? = some (r, .facing q)) (d : Nat) (r' : Request α)
    (outcome : Outcome α) :
    (calls.set c (r, spot))[d]? = some (r', .ended outcome) ↔
      calls[d]? = some (r', .ended outcome) ∨ (d = c ∧ r' = r ∧ spot = .ended outcome) := by
  by_cases hd : c = d
  · subst hd
    have hl := (List.getElem?_eq_some_iff.mp hc).1
    rw [List.getElem?_set_self hl, hc]
    simp [eq_comm]
  · rw [List.getElem?_set_ne hd]
    simp [Ne.symm hd]

/-- An item behind the last one of a queue is one more item. -/
theorem stock_set_snoc {faces : List (Face α)} {q : Nat} {item : α} {items : List α}
    {redirect : Option QueueId} (hq : faces[q]? = some ⟨.usable, items, redirect⟩) :
    ((faces.set q ⟨.usable, items ++ [item], redirect⟩).flatMap (·.items)).Perm
      (item :: faces.flatMap (·.items)) := by
  have hp := stock_set ⟨.usable, items ++ [item], redirect⟩ hq
  dsimp only at hp
  rwa [List.append_assoc, List.perm_append_left_iff] at hp

/-- Taking the head of a queue leaves all other items where they are. -/
theorem stock_set_tail {faces : List (Face α)} {q : Nat} {item : α} {items : List α}
    {redirect : Option QueueId} (hq : faces[q]? = some ⟨.usable, item :: items, redirect⟩) :
    ((faces.set q ⟨.usable, items, redirect⟩).flatMap (·.items) ++ [item]).Perm
      (faces.flatMap (·.items)) := by
  have hp := stock_set ⟨.usable, items, redirect⟩ hq
  have hm := List.perm_middle.trans hp
  have hc := (List.perm_append_left_iff items).mp hm
  exact List.perm_append_comm.trans hc

/-- Writing elsewhere leaves an entry as it is. -/
theorem getElem?_set_other {β : Type} {l : List β} {i j : Nat} {x : β} (y : β) (hn : i ≠ j)
    (h : l[i]? = some x) : (l.set j y)[i]? = some x := by
  rw [List.getElem?_set_ne hn.symm, h]

/-- Moving the items of one queue behind those of another keeps them all. -/
theorem stock_set_move {faces : List (Face α)} {source target : Nat} {items moved : List α}
    {redirect : Option QueueId} (hn : source ≠ target)
    (hs : faces[source]? = some ⟨.usable, moved, none⟩)
    (ht : faces[target]? = some ⟨.usable, items, none⟩) :
    (((faces.set target ⟨.usable, items ++ moved, none⟩).set source
      ⟨.usable, [], redirect⟩).flatMap (·.items)).Perm (faces.flatMap (·.items)) := by
  have hp := stock_set ⟨.usable, items ++ moved, none⟩ ht
  dsimp only at hp
  rw [List.append_assoc, List.perm_append_left_iff] at hp
  have hs' := getElem?_set_other ⟨.usable, items ++ moved, none⟩ hn hs
  have hq := stock_set ⟨.usable, [], redirect⟩ hs'
  rw [List.nil_append] at hq
  exact (List.perm_append_left_iff moved).mp (hq.trans hp)

/-- A step stores one item, whose call succeeds, or it leaves all items where they are, up
to one that it takes. -/
theorem Step.stock {o o' : Outline α} {made : Option (Request α)} {taken : Option (Taking α)}
    (h : o.Step made taken o') :
    (∃ c q item, o.calls[c]? = some (.push item, .facing q) ∧ taken = none ∧
      o'.calls = o.calls.set c (.push item, .ended .stored) ∧
      o'.stock.Perm (item :: o.stock)) ∨
    ((o'.stock ++ taken.toList.map (·.item)).Perm o.stock ∧
      ∀ (c : Nat) (r : Request α), o'.calls[c]? = some (r, .ended .stored) ↔
        o.calls[c]? = some (r, .ended .stored)) := by
  cases h with
  | rest => exact .inr ⟨by simp, fun _ _ => Iff.rfl⟩
  | addQueue => exact .inr ⟨by simp [Outline.stock], fun _ _ => Iff.rfl⟩
  | call hq =>
    exact .inr ⟨by simp [Outline.stock], fun c r => ended_append_iff ..⟩
  | follow hc hq =>
    exact .inr ⟨by simp [Outline.stock], fun d r => by simp [ended_set_iff hc]⟩
  | fail hc hs =>
    have hn := hs.ne_stored
    exact .inr ⟨by simp [Outline.stock], fun d r => by simp [ended_set_iff hc, hn]⟩
  | store hc hq =>
    refine .inl ⟨_, _, _, hc, rfl, rfl, ?_⟩
    exact stock_set_snoc hq
  | take hc hq => exact .inr ⟨stock_set_tail hq, fun d r => by simp [ended_set_iff hc]⟩
  | takeNow hq => exact .inr ⟨stock_set_tail hq, fun _ _ => Iff.rfl⟩
  | move hn hs ht =>
    refine .inr ⟨?_, fun _ _ => Iff.rfl⟩
    rw [Option.toList_none, List.map_nil, List.append_nil]
    exact stock_set_move hn hs ht
  | close hq =>
    refine .inr ⟨?_, fun _ _ => Iff.rfl⟩
    rw [Option.toList_none, List.map_nil, List.append_nil]
    exact stock_set ⟨.destroyed, [], none⟩ hq

/-- A call has taken an item before a step, or takes it in the step. -/
theorem Step.took_iff {o o' : Outline α} {made : Option (Request α)} {taken : Option (Taking α)}
    (h : o.Step made taken o') (c : Nat) (p : α) :
    (∃ r, o'.calls[c]? = some (r, .ended (.took p))) ↔
      (∃ r, o.calls[c]? = some (r, .ended (.took p))) ∨ taken = some ⟨some c, p⟩ := by
  cases h with
  | rest => simp
  | addQueue => simp
  | call hq => simp [ended_append_iff]
  | follow hc hq => simp [ended_set_iff hc]
  | fail hc hs =>
    have hn := hs.ne_took p
    simp [ended_set_iff hc, hn]
  | store hc hq => simp [ended_set_iff hc]
  | take hc hq => simp [ended_set_iff hc, exists_or, eq_comm]
  | takeNow hq => simp
  | move hn hs ht => simp
  | close hq => simp

/-! ## Custody -/

/-- Every item is where it should be: the item of a push that succeeded is in one place, or
was returned once, and no other item is anywhere. -/
structure Kept (o : Outline (Parcel α)) (taken : List (Taking (Parcel α))) : Prop where
  /-- Items are marked with the push that brought them. -/
  marked : ∀ {c : Nat} {p : Parcel α} {spot : Spot (Parcel α)},
    o.calls[c]? = some (.push p, spot) → p.sender = c
  /-- No item is in two places. -/
  nodup : (o.stock ++ taken.map (·.item)).Nodup
  /-- The items that are somewhere are those whose push succeeded. -/
  mem_iff : ∀ p, p ∈ o.stock ++ taken.map (·.item) ↔ o.Stored p
  /-- The calls that returned an item are those that took it. -/
  took_iff : ∀ (c : Nat) (p : Parcel α),
    ⟨some c, p⟩ ∈ taken ↔ ∃ r, o.calls[c]? = some (r, .ended (.took p))

/-- A step makes only calls whose item is marked with their place. -/
def Marked (o : Outline (Parcel α)) (made : Option (Request (Parcel α))) : Prop :=
  ∀ p, made = some (.push p) → p.sender = o.calls.length

/-- A step keeps every item where it should be. The one item that a step may add was nowhere
before it. -/
theorem Step.kept {o o' : Outline (Parcel α)} {made : Option (Request (Parcel α))}
    {taken : Option (Taking (Parcel α))} {before : List (Taking (Parcel α))}
    (h : o.Step made taken o') (hm : o.Marked made) (hk : o.Kept before) :
    o'.Kept (before ++ taken.toList) := by
  have hmarked {c : Nat} {p : Parcel α} {spot : Spot (Parcel α)}
      (hc : o'.calls[c]? = some (.push p, spot)) : p.sender = c := by
    rcases h.calls with he | ⟨r, q, hr, he⟩ | ⟨d, r, q, spot', hd, he⟩
    · exact hk.marked (he ▸ hc)
    · rw [he, List.getElem?_append] at hc
      split_ifs at hc with hl
      · exact hk.marked hc
      · rw [List.getElem?_singleton] at hc
        split_ifs at hc with hi
        obtain ⟨rfl, -⟩ := Prod.mk.inj (Option.some.inj hc)
        have hlast : o.calls.length = c := by omega
        exact (hm p hr).trans hlast
    · rw [he, List.getElem?_set] at hc
      split_ifs at hc with hi hl
      · subst hi
        cases hc
        exact hk.marked hd
      · exact hk.marked hc
  have htook (c : Nat) (p : Parcel α) : ⟨some c, p⟩ ∈ before ++ taken.toList ↔
      ∃ r, o'.calls[c]? = some (r, .ended (.took p)) := by
    rw [List.mem_append, Option.mem_toList, hk.took_iff, h.took_iff]
  rcases h.stock with ⟨c, q, item, hc, ht, he, hp⟩ | ⟨hp, hs⟩
  · have hsender : item.sender = c := hk.marked hc
    have hnew : item ∉ o.stock ++ before.map (·.item) := by
      rw [hk.mem_iff, Stored, hsender, hc]
      simp
    have hall : (o'.stock ++ (before ++ taken.toList).map (·.item)).Perm
        (item :: (o.stock ++ before.map (·.item))) := by
      rw [ht, Option.toList_none, List.append_nil, ← List.cons_append]
      exact hp.append_right _
    refine ⟨hmarked, hall.nodup_iff.mpr (List.nodup_cons.mpr ⟨hnew, hk.nodup⟩), fun p => ?_, htook⟩
    rw [hall.mem_iff, List.mem_cons, hk.mem_iff, Stored, Stored, he, ended_set_iff hc]
    constructor
    · rintro (rfl | hp)
      · exact .inr ⟨hsender, rfl, rfl⟩
      · exact .inl hp
    · rintro (hp | ⟨-, hp, -⟩)
      · exact .inr hp
      · exact .inl (Request.push.inj hp)
  · have hall : (o'.stock ++ (before ++ taken.toList).map (·.item)).Perm
        (o.stock ++ before.map (·.item)) := by
      have hr := hp.append_right (before.map (·.item))
      rw [List.append_assoc] at hr
      rw [List.map_append]
      exact (List.perm_append_comm.append_left o'.stock).trans hr
    refine ⟨hmarked, hall.nodup_iff.mpr hk.nodup, fun p => ?_, htook⟩
    rw [hall.mem_iff, hk.mem_iff, Stored, Stored, hs]

/-- Nothing has happened, so no item is anywhere. -/
theorem kept_start : (Course.start (α := Parcel α) (η := η)).system.outline.Kept [] := by
  constructor <;> simp [Course.start, System.empty, System.outline, Outline.stock, Stored]

/-- The push of an item that lies in a queue has succeeded. -/
theorem Kept.stored {o : Outline (Parcel α)} {taken : List (Taking (Parcel α))}
    (h : o.Kept taken) {q : Nat} {x : Face (Parcel α)} {p : Parcel α}
    (hx : o.faces[q]? = some x) (hp : p ∈ x.items) : o.Stored p := by
  have hs : p ∈ o.stock := List.mem_flatMap.mpr ⟨x, List.mem_of_getElem? hx, hp⟩
  exact (h.mem_iff p).mp (List.mem_append_left _ hs)

/-- No item is in a queue twice. -/
theorem Kept.nodup_items {o : Outline (Parcel α)} {taken : List (Taking (Parcel α))}
    (h : o.Kept taken) {q : Nat} {x : Face (Parcel α)} (hx : o.faces[q]? = some x) :
    x.items.Nodup :=
  (List.nodup_flatMap.mp h.nodup.of_append_left).1 x (List.mem_of_getElem? hx)

/-- The item of a push that has succeeded lies in a queue, or was taken. -/
theorem Kept.lies_or_taken {o : Outline (Parcel α)} {taken : List (Taking (Parcel α))}
    (h : o.Kept taken) {p : Parcel α} (hs : o.Stored p) :
    p ∈ taken.map (·.item) ∨
      ∃ (q : Nat) (x : Face (Parcel α)), o.faces[q]? = some x ∧ p ∈ x.items := by
  rcases List.mem_append.mp ((h.mem_iff p).mpr hs) with hm | hm
  · obtain ⟨x, hx, hp⟩ := List.mem_flatMap.mp hm
    obtain ⟨q, hq⟩ := List.mem_iff_getElem?.mp hx
    exact .inr ⟨q, x, hq, hp⟩
  · exact .inl hm

/-- An item lies in one queue only. -/
theorem Kept.queue_unique {o : Outline (Parcel α)} {taken : List (Taking (Parcel α))}
    (h : o.Kept taken) {q r : Nat} {x y : Face (Parcel α)} {p : Parcel α}
    (hx : o.faces[q]? = some x) (hy : o.faces[r]? = some y) (hpx : p ∈ x.items)
    (hpy : p ∈ y.items) : q = r := by
  have hdisjoint := (List.nodup_flatMap.mp h.nodup.of_append_left).2
  have hpair := List.pairwise_iff_getElem.mp hdisjoint
  obtain ⟨hq, rfl⟩ := List.getElem?_eq_some_iff.mp hx
  obtain ⟨hr, rfl⟩ := List.getElem?_eq_some_iff.mp hy
  rcases Nat.lt_trichotomy q r with hlt | heq | hlt
  · exact absurd hpy (hpair q r hq hr hlt hpx)
  · exact heq
  · exact absurd hpx (hpair r q hr hq hlt hpy)

end Outline

end Diameter.Queue
