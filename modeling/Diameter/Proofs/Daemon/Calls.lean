import Diameter.Proofs.Daemon.Books
import Diameter.Proofs.Queue.Ledger
import Mathlib.Algebra.Order.Group.Multiset

/-!
# Calls to the event queue in the books

The books show the one queue of a daemon, which serves itself, and every call to it, without
the lines. A call that goes on is one entry: it waits, or it stores, takes, is refused, or ends
with nothing. The queue keeps its alarm and its capacity, whatever calls do.
-/

namespace Diameter.Queue.System

variable {α η : Type}

/-! ## What calls leave as it is -/

/-- Whether a queue has an alarm, and how much fits into it. -/
def fittings (s : System α η) (q : QueueId) : Bool × Nat :=
  ((s.queue q).watermark.isSome, (s.queue q).capacity)

theorem fittings_of_contents {s t : System α η} {q : QueueId}
    (h : (t.queue q).contents = (s.queue q).contents) : t.fittings q = s.fittings q := by
  have hfittings (s : System α η) : ((s.queue q).contents.watermark.isSome,
      (s.queue q).contents.capacity) = s.fittings q := rfl
  rw [← hfittings, ← hfittings, h]

theorem fittings_of_ledger {s t : System α η} {q : QueueId}
    (h : (t.queue q).ledger = (s.queue q).ledger) : t.fittings q = s.fittings q :=
  fittings_of_contents (contents_eq_of_ledger h)

/-- A crossing leaves the alarm where it is. -/
theorem isSome_remarked (x y : Queue α η) (step : Watermark η → Option (Watermark η))
    (hy : y.watermark = x.watermark) :
    (y.remarked (x.watermark.bind step)).watermark.isSome = x.watermark.isSome := by
  rw [remarked, hy]
  cases x.watermark <;> simp

theorem fittings_store (s : System α η) {q : QueueId} (hq : q < s.queues.length) (item : α) :
    (s.store q item).1.fittings q = s.fittings q := by
  have hledger := ledger_store s hq q item
  rw [if_pos rfl] at hledger
  refine (congrArg (fun x : Queue α η => (x.watermark.isSome, x.capacity)) hledger).trans ?_
  exact congrArg (·, _) (isSome_remarked (s.queue q) ((s.queue q).ledger.append item) _ rfl)

theorem fittings_takeHead (s : System α η) {q : QueueId} (hq : q < s.queues.length)
    (rest : List α) : (s.takeHead q rest).1.fittings q = s.fittings q := by
  have hledger := ledger_takeHead s hq q rest
  rw [if_pos rfl] at hledger
  refine (congrArg (fun x : Queue α η => (x.watermark.isSome, x.capacity)) hledger).trans ?_
  exact congrArg (·, _) (isSome_remarked (s.queue q) ((s.queue q).ledger.withoutHead rest) _ rfl)

theorem fittings_modifyWaiting (s : System α η) (q p : QueueId) (side : Side)
    (f : Waiting → Waiting) : (s.modifyWaiting q side f).fittings p = s.fittings p :=
  fittings_of_contents (contents_modifyWaiting s q p side f)

theorem fittings_suspend (s : System α η) (q p : QueueId) (side : Side) (c : CallerId) :
    (s.suspend q side c).fittings p = s.fittings p :=
  fittings_of_contents (contents_suspend s q p side c)

end Diameter.Queue.System

namespace Diameter.Daemon.Books

open Listener (Arrival ConnectionId)
open Queue (CallerId Outcome Request Side Spot Stage System)

/-- The books show the event queue and all calls to it. -/
structure Shows (b : Books) (s : System Arrival String) : Prop where
  /-- There is one queue, which no other one serves for. -/
  outline : s.outline = ⟨[⟨b.lifecycle, b.items, none⟩], b.calls⟩
  /-- Every call has to do with it. -/
  aims : ∀ (i : CallerId) (request : Request Arrival) (q : Queue.QueueId),
    b.calls[i]? = some (request, Spot.facing q) → q = 0
  /-- The alarm is there or not, and so much fits. -/
  fittings : s.fittings 0 = (b.alarm, b.capacity)

/-- The connection that a call has taken. -/
def tookOf (call : Call) : Multiset ConnectionId :=
  match call with
  | (.pop _, .ended (.took arrival)) => {arrival.connection}
  | _ => 0

/-- The connection that the call of this place has taken. -/
def took (calls : List Call) (i : CallerId) : Multiset ConnectionId :=
  (calls[i]?.map tookOf).getD 0

/-- Only one call has gone on. What it has taken is in a hand. -/
structure Turned (c : CallerId) (b b' : Books) : Prop where
  /-- Handshakes are as they were. -/
  holders : b'.holders = b.holders
  /-- Nothing was passed. -/
  passed : b'.passed = b.passed
  /-- Nothing was closed. -/
  closed : b'.closed = b.closed
  /-- There are as many calls as before. -/
  length : b'.calls.length = b.calls.length
  /-- Other calls are as they were. -/
  others : ∀ j, j ≠ c → b'.calls[j]? = b.calls[j]?
  /-- The call is as it was, or it is over. -/
  own : ∀ request spot, b'.calls[c]? = some (request, spot) →
    ∃ before, b.calls[c]? = some (request, before) ∧
      (spot = before ∨ before = .facing 0 ∧ ∀ q, spot ≠ .facing q)
  /-- What the call took is in a hand. -/
  hand : b'.hand + took b.calls c = b.hand + took b'.calls c

/-- No entry at all is a turn of any call. -/
theorem Turned.refl (c : CallerId) (b : Books) : Turned c b b :=
  ⟨rfl, rfl, rfl, rfl, fun _ _ => rfl, fun _ spot h => ⟨spot, h, .inl rfl⟩, rfl⟩

/-- Two turns of a call in a row are one. -/
theorem Turned.trans {c : CallerId} {b b' b'' : Books} (h : Turned c b b') (h' : Turned c b' b'') :
    Turned c b b'' := by
  refine ⟨h'.holders.trans h.holders, h'.passed.trans h.passed, h'.closed.trans h.closed,
    h'.length.trans h.length, fun j hj => (h'.others j hj).trans (h.others j hj),
    fun request spot hspot => ?_, ?_⟩
  · obtain ⟨middle, hmiddle, hlast⟩ := h'.own request spot hspot
    obtain ⟨before, hbefore, hfirst⟩ := h.own request middle hmiddle
    refine ⟨before, hbefore, ?_⟩
    obtain rfl | ⟨rfl, hover⟩ := hlast
    · exact hfirst
    · obtain rfl | ⟨hfacing, -⟩ := hfirst
      · exact .inr ⟨rfl, hover⟩
      · exact .inr ⟨hfacing, hover⟩
  · have hsum : b''.hand + took b.calls c + took b'.calls c =
        b.hand + took b''.calls c + took b'.calls c := by
      rw [add_right_comm, h'.hand, add_right_comm, h.hand, add_right_comm]
    exact add_right_cancel hsum

/-- What was taken depends on the calls of consumers alone. -/
theorem took_congr {calls calls' : List Call} {c : CallerId}
    (h : ∀ (deadline : Option Nat) (spot : Spot Arrival),
      calls'[c]? = some (Request.pop deadline, spot) ↔
        calls[c]? = some (Request.pop deadline, spot)) : took calls' c = took calls c := by
  have hzero {calls : List Call} (hno : ∀ (deadline : Option Nat) (spot : Spot Arrival),
      calls[c]? ≠ some (Request.pop deadline, spot)) : took calls c = 0 := by
    rw [took]
    rcases hcall : calls[c]? with _ | ⟨request, spot⟩
    · rfl
    · cases request with
      | push arrival => rfl
      | pop deadline => exact absurd hcall (hno deadline spot)
  by_cases hpop : ∃ deadline spot, calls[c]? = some (Request.pop deadline, spot)
  · obtain ⟨deadline, spot, hpop⟩ := hpop
    rw [took, took, hpop, (h deadline spot).mpr hpop]
  · have hno (deadline : Option Nat) (spot : Spot Arrival) :
        calls[c]? ≠ some (Request.pop deadline, spot) := fun hc => hpop ⟨deadline, spot, hc⟩
    rw [hzero hno, hzero fun deadline spot hc => hno deadline spot ((h deadline spot).mp hc)]

/-- A call that goes on and does not ask for a connection leaves what consumers asked as it is. -/
theorem Turned.pops {c : CallerId} {b b' : Books} (h : Turned c b b')
    (hc : ∀ (deadline : Option Nat) (q : Queue.QueueId),
      b.calls[c]? ≠ some (Request.pop deadline, .facing q)) :
    b'.hand = b.hand ∧ ∀ (i : CallerId) (deadline : Option Nat) (spot : Spot Arrival),
      b'.calls[i]? = some (Request.pop deadline, spot) ↔
        b.calls[i]? = some (Request.pop deadline, spot) := by
  have hpops (i : CallerId) (deadline : Option Nat) (spot : Spot Arrival) :
      b'.calls[i]? = some (Request.pop deadline, spot) ↔
        b.calls[i]? = some (Request.pop deadline, spot) := by
    by_cases hi : i = c
    · subst hi
      have hsame {request : Request Arrival} {after : Spot Arrival}
          (hafter : b'.calls[i]? = some (request, after)) (hpop : request = .pop deadline) :
          b.calls[i]? = some (request, after) := by
        obtain ⟨before, hbefore, rfl | ⟨rfl, -⟩⟩ := h.own _ _ hafter
        · exact hbefore
        · rw [hpop] at hbefore
          exact absurd hbefore (hc _ _)
      refine ⟨fun hafter => hsame hafter rfl, fun hbefore => ?_⟩
      have hlt := h.length ▸ (List.getElem?_eq_some_iff.mp hbefore).1
      have hafter : b'.calls[i]? = some (b'.calls[i].1, b'.calls[i].2) :=
        List.getElem?_eq_getElem hlt
      obtain ⟨before, hfound, -⟩ := h.own _ _ hafter
      rw [hbefore] at hfound
      obtain ⟨hrequest, -⟩ := Prod.mk.inj (Option.some.inj hfound)
      rw [hafter, ← hsame hafter hrequest.symm, hbefore]
    · rw [h.others i hi]
  refine ⟨?_, hpops⟩
  have hhand := h.hand
  rw [took_congr (hpops c)] at hhand
  exact add_right_cancel hhand

variable {b : Books} {s : System Arrival String}

/-- A call that has to do with the queue and is then over. -/
theorem turned_set {c : CallerId} {request : Request Arrival} {spot : Spot Arrival}
    (hc : b.calls[c]? = some (request, .facing 0)) (hspot : ∀ q, spot ≠ .facing q)
    (items : List Arrival) {hand : Multiset ConnectionId}
    (hhand : hand = b.hand + tookOf (request, spot)) :
    Turned c b { b with calls := b.calls.set c (request, spot), items, hand } := by
  have hlt := (List.getElem?_eq_some_iff.mp hc).1
  have hself : (b.calls.set c (request, spot))[c]? = some (request, spot) :=
    List.getElem?_set_self hlt
  refine ⟨rfl, rfl, rfl, List.length_set .., fun j hj => List.getElem?_set_ne (Ne.symm hj),
    fun r after hafter => ?_, ?_⟩
  · rw [hself] at hafter
    cases hafter
    exact ⟨.facing 0, hc, .inr ⟨rfl, hspot⟩⟩
  · have hbefore : took b.calls c = 0 := by
      cases request <;> simp [took, hc, tookOf]
    have hafter : took (b.calls.set c (request, spot)) c = tookOf (request, spot) := by
      rw [took, hself, Option.map_some, Option.getD_some]
    rw [hbefore, hafter, hhand, add_zero]

/-! ## The one queue -/

/-- A system that the books show has one queue. -/
theorem Shows.length_queues (hs : b.Shows s) : s.queues.length = 1 := by
  rw [← s.length_faces_outline, hs.outline]
  rfl

theorem Shows.getElem?_queues (hs : b.Shows s) : s.queues[0]? = some (s.queue 0) :=
  System.getElem?_queues (by rw [hs.length_queues]; exact Nat.zero_lt_one)

/-- The face of the queue is what the books say of it. -/
theorem Shows.face (hs : b.Shows s) : (s.queue 0).face = ⟨b.lifecycle, b.items, none⟩ := by
  have hface := System.face_of_queue (s := s) (q := 0) (by rw [hs.length_queues]; exact Nat.zero_lt_one)
  rw [hs.outline] at hface
  exact (Option.some.inj hface).symm

theorem Shows.lifecycle (hs : b.Shows s) : (s.queue 0).lifecycle = b.lifecycle :=
  congrArg Queue.Face.lifecycle hs.face

theorem Shows.items (hs : b.Shows s) : (s.queue 0).items = b.items :=
  congrArg Queue.Face.items hs.face

theorem Shows.isFull (hs : b.Shows s) : (s.queue 0).isFull = b.isFull := by
  have hcapacity : (s.queue 0).capacity = b.capacity := congrArg Prod.snd hs.fittings
  rw [Queue.isFull, hs.items, hcapacity, Books.isFull]

theorem Shows.redirect (hs : b.Shows s) : (s.queue 0).redirect = none :=
  congrArg Queue.Face.redirect hs.face

/-- The books have every call with the spot at which it stands. -/
theorem Shows.call (hs : b.Shows s) {c : CallerId} {request : Request Arrival}
    {stage : Stage Arrival} (hc : s.callers[c]? = some ⟨request, stage⟩) :
    b.calls[c]? = some (request, stage.spot) := by
  have hcall := s.outline_calls_getElem? c
  rw [hs.outline, hc] at hcall
  exact hcall

/-- What neither the outline nor the fittings see the books do not show. -/
theorem Shows.of_outline (hs : b.Shows s) {s' : System Arrival String}
    (h : s'.outline = s.outline) (ha : s'.fittings 0 = s.fittings 0) : b.Shows s' :=
  ⟨h.trans hs.outline, hs.aims, ha.trans hs.fittings⟩

/-- The books after one call has come to its end. -/
theorem Shows.set (hs : b.Shows s) {s' : System Arrival String} {c : CallerId}
    {request : Request Arrival} {spot : Spot Arrival} {items : List Arrival}
    {hand : Multiset ConnectionId} (hspot : ∀ q, spot ≠ .facing q)
    (h : s'.outline = ⟨[⟨b.lifecycle, items, none⟩], b.calls.set c (request, spot)⟩)
    (ha : s'.fittings 0 = s.fittings 0) :
    Shows { b with calls := b.calls.set c (request, spot), items, hand } s' := by
  refine ⟨h, fun i r q hi => ?_, ha.trans hs.fittings⟩
  rw [List.getElem?_set] at hi
  split_ifs at hi
  · cases hi
    exact absurd rfl (hspot q)
  · exact hs.aims i r q hi

/-- A call that looks at the queue waits, stores, takes, or is refused. -/
theorem Shows.examine (hs : b.Shows s) (passing : Bool) {c : CallerId} {request : Request Arrival}
    {recalled : Bool} (hc : s.callers[c]? = some ⟨request, .ready 0 recalled⟩) :
    ∃ b', Step passing b b' ∧ b'.Shows (s.examine c request 0).1 ∧ Turned c b b' := by
  have hcall : b.calls[c]? = some (request, .facing 0) := hs.call hc
  have hget := hs.getElem?_queues
  have hexists : 0 < s.queues.length := by rw [hs.length_queues]; exact Nat.zero_lt_one
  have hset (stage : Stage Arrival) : (s.setStage c stage).outline =
      ⟨[⟨b.lifecycle, b.items, none⟩], b.calls.set c (request, stage.spot)⟩ := by
    rw [System.outline_setStage s stage hc, hs.outline]
  have hwait (side : Side) : b.Shows (s.suspend 0 side c) :=
    hs.of_outline (System.outline_suspend s side hc rfl) (System.fittings_suspend s 0 0 side c)
  have hrest {s' : System Arrival String} (h : b.Shows s') :
      ∃ b', Step passing b b' ∧ b'.Shows s' ∧ Turned c b b' := ⟨b, .rest, h, .refl c b⟩
  unfold System.examine
  simp only [hs.redirect, hs.lifecycle, hs.items]
  cases hl : b.lifecycle with
  | destroyed =>
    cases request with
    | push arrival =>
      exact ⟨_, .refuse hcall hl, hs.set (by simp) (hset _) rfl,
        turned_set hcall (by simp) _ (by simp [tookOf])⟩
    | pop deadline =>
      have hover (q : Queue.QueueId) :
          (Spot.ended (.failed .closed) : Spot Arrival) ≠ .facing q := fun h => by cases h
      exact ⟨_, .forgo hcall hover, hs.set hover (hset _) rfl,
        turned_set hcall hover _ (by simp [tookOf])⟩
  | usable =>
    cases request with
    | push arrival =>
      dsimp only
      split
      · exact hrest (hwait _)
      · next hroom =>
        have hroom : b.isFull = false := hs.isFull ▸ Bool.eq_false_iff.mpr hroom
        have hstored := System.outline_store (s.setStage c (.ended .stored)) arrival hget
        rw [hset, hs.lifecycle, hs.items, hs.redirect] at hstored
        exact ⟨_, .store hcall hl hroom, hs.set (by simp) hstored
          ((System.fittings_store (s.setStage c _) hexists arrival).trans rfl),
          turned_set hcall (by simp) _ (by simp [tookOf])⟩
    | pop deadline =>
      dsimp only
      cases hi : b.items with
      | nil => exact hrest (hwait _)
      | cons arrival rest =>
        have htaken := System.outline_takeHead (s.setStage c (.ended (.took arrival))) rest hget
        rw [hset, hs.lifecycle, hs.redirect] at htaken
        refine ⟨_, .take hcall hi,
          hs.set (by simp) htaken
            ((System.fittings_takeHead (s.setStage c _) hexists rest).trans rfl),
          turned_set hcall (by simp) _ ?_⟩
        rw [← Multiset.singleton_add, add_comm]
        rfl

/-- A call that goes on is one entry. -/
theorem Shows.turn (hs : b.Shows s) (passing : Bool) (c : CallerId) :
    ∃ b', Step passing b b' ∧ b'.Shows (s.turn c).1 ∧ Turned c b b' := by
  unfold System.turn
  rcases hc : s.callers[c]? with _ | ⟨request, stage⟩
  · exact ⟨b, .rest, hs, .refl c b⟩
  · cases stage with
    | ready q recalled =>
      obtain rfl := hs.aims c request q (hs.call hc)
      exact hs.examine passing hc
    | woken q cause =>
      refine ⟨b, .rest, hs.of_outline ?_ (System.fittings_modifyWaiting s q 0 _ _), .refl c b⟩
      exact (System.outline_setStage_of_spot (s.modifyWaiting q request.side (·.resume))
        (.ready q true) hc rfl).trans (System.outline_modifyWaiting _ _ _ _)
    | _ => exact ⟨b, .rest, hs, .refl c b⟩

/-- A call that runs until it has to wait or ends is entry after entry. -/
theorem Shows.runWithin (hs : b.Shows s) (passing : Bool) (c : CallerId) (turns : Nat) :
    ∃ b', Path passing b b' ∧ b'.Shows (s.runWithin c turns).1 ∧ Turned c b b' := by
  induction turns generalizing b s with
  | zero => exact ⟨b, .refl, hs, .refl c b⟩
  | succ turns ih =>
    obtain ⟨b₁, hstep, hshows, hturned⟩ := hs.turn passing c
    have hstop {after : System Arrival String} {crossing : Queue.Crossing String}
        (hturn : s.turn c = (after, some crossing)) :
        ∃ b', Path passing b b' ∧ b'.Shows after ∧ Turned c b b' := by
      rw [hturn] at hshows
      exact ⟨b₁, .single hstep, hshows, hturned⟩
    have hgo {after : System Arrival String} (hturn : s.turn c = (after, none)) :
        ∃ b', Path passing b b' ∧ b'.Shows (after.runWithin c turns).1 ∧ Turned c b b' := by
      rw [hturn] at hshows
      obtain ⟨b₂, hpath, hshows, hagain⟩ := ih hshows
      exact ⟨b₂, .head hstep hpath, hshows, hturned.trans hagain⟩
    unfold System.runWithin
    split
    · split
      · next hturn => exact hstop hturn
      · next hturn => exact hgo hturn
    · split
      · next hturn => exact hstop hturn
      · next hturn => exact hgo hturn
    · exact ⟨b, .refl, hs, .refl c b⟩

theorem Shows.length_callers (hs : b.Shows s) : s.callers.length = b.calls.length := by
  have hlength : s.outline.calls.length = s.callers.length := List.length_map _
  rw [← hlength, hs.outline]

/-- A push runs until it has to wait or ends. -/
theorem Shows.run (hs : b.Shows s) (passing : Bool) {c : CallerId} {arrival : Arrival}
    {spot : Spot Arrival} (hc : b.calls[c]? = some (.push arrival, spot)) (now : Nat) :
    ∃ b', Path passing b b' ∧ b'.Shows (s.run c now).1 ∧ Turned c b b' := by
  obtain ⟨b', hpath, hshows, hturned⟩ := hs.runWithin passing c (s.queues.length + 4)
  refine ⟨b', hpath, ?_, hturned⟩
  unfold System.run
  rcases hrun : s.runWithin c (s.queues.length + 4) with ⟨after, crossing⟩
  rw [hrun] at hshows
  dsimp only at hshows ⊢
  split
  · next hparked =>
    obtain ⟨before, hbefore, -⟩ := hturned.own _ _ (hshows.call hparked)
    rw [hc] at hbefore
    cases hbefore
  · exact hshows

/-- A new call has to do with the queue. -/
theorem Shows.addCaller (hs : b.Shows s) (request : Request Arrival) :
    (s.addCaller 0 request).1 = b.calls.length ∧
      Shows { b with calls := b.calls ++ [(request, .facing 0)] } (s.addCaller 0 request).2 := by
  refine ⟨hs.length_callers, ?_, fun i r q hi => ?_, ?_⟩
  · rw [System.outline_addCaller, hs.outline]
  · rw [List.getElem?_append] at hi
    split at hi
    · exact hs.aims i r q hi
    · rw [List.getElem?_singleton] at hi
      split at hi
      · cases hi
        rfl
      · cases hi
  · refine Eq.trans ?_ hs.fittings
    unfold System.addCaller System.schedule
    dsimp only
    split <;> rfl

/-- By one entry at most the books show a queue after a pop was given up, which has nothing to do
with the queue then and has taken nothing. -/
def GivesUp (passing : Bool) (c : CallerId) (deadline : Option Nat) (b : Books)
    (s' : System Arrival String) : Prop :=
  ∃ b', Step passing b b' ∧ b'.Shows s' ∧ Turned c b b' ∧
    ∃ after, b'.calls[c]? = some (.pop deadline, after) ∧ (∀ q, after ≠ .facing q) ∧
      tookOf (.pop deadline, after) = 0

/-- A pop that had to do with the queue is gone. -/
theorem Shows.givesUp_of_facing (hs : b.Shows s) (passing : Bool) {c : CallerId}
    {deadline : Option Nat} (hc : b.calls[c]? = some (.pop deadline, .facing 0))
    {s' : System Arrival String}
    (h : s'.outline = { s.outline with calls := s.outline.calls.set c (.pop deadline, .gone) })
    (ha : s'.fittings 0 = s.fittings 0) : b.GivesUp passing c deadline s' := by
  have hgone (q : Queue.QueueId) : (Spot.gone : Spot Arrival) ≠ .facing q := nofun
  rw [hs.outline] at h
  exact ⟨_, .forgo hc hgone, hs.set hgone h ha, turned_set hc hgone _ (by simp [tookOf]), .gone,
    List.getElem?_set_self (List.getElem?_eq_some_iff.mp hc).1, hgone, rfl⟩

/-- A pop that has nothing to do with the queue any more stays as it is. -/
theorem Shows.givesUp_of_not_facing (hs : b.Shows s) (passing : Bool) {c : CallerId}
    {deadline : Option Nat} {spot : Spot Arrival} (hc : b.calls[c]? = some (.pop deadline, spot))
    (hspot : ∀ q, spot ≠ .facing q) (htook : tookOf (.pop deadline, spot) = 0) :
    b.GivesUp passing c deadline s :=
  ⟨b, .rest, hs, .refl c b, spot, hc, hspot, htook⟩

/-- The call of the consumer is given up, unless it has just been woken and looks again. -/
theorem Shows.giveUp (hs : b.Shows s) (passing : Bool) {c : CallerId} {deadline : Option Nat}
    {spot : Spot Arrival} (hc : b.calls[c]? = some (.pop deadline, spot))
    (hopen : s.outcome? c = none)
    (hrecalled : ∀ request q, s.callers[c]? ≠ some ⟨request, .ready q true⟩) :
    b.GivesUp passing c deadline ((s.abandon c).withdraw c false) := by
  rcases hcaller : s.callers[c]? with _ | ⟨request, stage⟩
  · have hlt := (List.getElem?_eq_some_iff.mp hc).1
    rw [← hs.length_callers] at hlt
    rw [List.getElem?_eq_getElem hlt] at hcaller
    cases hcaller
  · have hcall := hs.call hcaller
    rw [hc] at hcall
    obtain ⟨rfl, rfl⟩ := Prod.mk.inj (Option.some.inj hcall)
    cases stage with
    | ready q recalled =>
      cases recalled with
      | true => exact absurd hcaller (hrecalled _ _)
      | false =>
        obtain rfl := hs.aims c _ q hc
        have habandon : s.abandon c = s.setStage c .dropped := by
          unfold System.abandon
          rw [hcaller]
        have hdropped : (s.setStage c .dropped).callers[c]? = some ⟨.pop deadline, .dropped⟩ := by
          simp [System.setStage, System.modifyStage, hcaller]
        have hwithdraw : (s.setStage c .dropped).withdraw c false = s.setStage c .dropped := by
          unfold System.withdraw
          rw [hdropped]
        rw [habandon, hwithdraw]
        exact hs.givesUp_of_facing passing hc (System.outline_setStage s .dropped hcaller) rfl
    | parked q | woken q cause =>
      obtain rfl := hs.aims c _ q hc
      have habandon : s.abandon c = s := by
        unfold System.abandon
        rw [hcaller]
      rw [habandon]
      unfold System.withdraw
      rw [hcaller]
      dsimp only
      refine hs.givesUp_of_facing passing hc
        ((System.outline_setStage _ _ (by exact hcaller)).trans ?_)
        (System.fittings_modifyWaiting s 0 0 _ _)
      rw [System.outline_modifyWaiting]
      rfl
    | leaving q cause late =>
      have hsame : (s.abandon c).withdraw c false = s := by
        unfold System.abandon System.withdraw
        simp only [hcaller]
      rw [hsame]
      refine hs.givesUp_of_not_facing passing hc (fun q h => ?_) ?_
      · cases late <;> cases h
      · cases late <;> rfl
    | ended outcome =>
      unfold System.outcome? at hopen
      rw [hcaller] at hopen
      cases hopen
    | dropped =>
      have hsame : (s.abandon c).withdraw c false = s := by
        unfold System.abandon System.withdraw
        simp only [hcaller]
      rw [hsame]
      exact hs.givesUp_of_not_facing passing hc (fun q h => by cases h) rfl

/-- The last step of giving a call up is about its line alone. -/
theorem Shows.depart (hs : b.Shows s) (c : CallerId) : b.Shows (s.depart c) :=
  hs.of_outline (System.outline_depart s c) (System.fittings_of_ledger (System.ledger_depart s c 0))

/-- The books do not know who is woken. -/
theorem Shows.wakeAll (hs : b.Shows s) (side : Side) : b.Shows (s.wakeAll 0 side) :=
  hs.of_outline (System.outline_wakeAll s 0 side)
    (System.fittings_of_ledger (System.ledger_wakeAll s 0 0 side))

/-- To tell of a crossing changes neither the connections nor the queue. -/
theorem tell_same (s : Surroundings) (crossing : Option (Queue.Crossing String)) :
    (s.tell crossing).connections = s.connections ∧ (s.tell crossing).events = s.events := by
  cases crossing <;> exact ⟨rfl, rfl⟩

/-- The queue serves itself. -/
theorem Shows.serving (hs : b.Shows s) : s.serving 0 = 0 := by
  unfold System.serving
  rw [hs.length_queues]
  simp only [System.servingWithin, hs.redirect]
  cases (s.queue 0).lifecycle <;> rfl

/-- Whoever takes without waiting gets the first connection, if there is one. -/
theorem Shows.tryPop (hs : b.Shows s) (hl : b.lifecycle = .usable) :
    (∃ arrival rest after crossing, s.tryPop 0 = (.ok arrival, after, crossing) ∧
      b.items = arrival :: rest ∧
      ∀ hand, Shows { b with items := rest, hand } after) ∨
    ∃ e, s.tryPop 0 = (.error e, s, none) ∧ b.items = [] := by
  unfold System.tryPop
  simp only [hs.serving, hs.lifecycle, hl, hs.items]
  cases hi : b.items with
  | nil => exact .inr ⟨_, rfl, rfl⟩
  | cons arrival rest =>
    left
    have hexists : 0 < s.queues.length := by rw [hs.length_queues]; exact Nat.zero_lt_one
    refine ⟨arrival, rest, (s.takeHead 0 rest).1, (s.takeHead 0 rest).2, rfl, rfl,
      fun hand => ⟨?_, hs.aims, (System.fittings_takeHead s hexists rest).trans hs.fittings⟩⟩
    rw [System.outline_takeHead s rest hs.getElem?_queues, hs.outline, hs.lifecycle, hs.redirect, hl]
    rfl

/-- The same, as those see it who share the queue. -/
theorem Shows.popEvent {s : Surroundings} (hs : b.Shows s.events) (hl : b.lifecycle = .usable) :
    (∃ arrival rest after, s.popEvent = (.ok arrival, after) ∧ b.items = arrival :: rest ∧
      after.connections = s.connections ∧
      ∀ hand, Shows { b with items := rest, hand } after.events) ∨
    ∃ e, s.popEvent = (.error e, s) ∧ b.items = [] := by
  unfold Surroundings.popEvent
  obtain ⟨arrival, rest, events, crossing, hpop, hitems, hshows⟩ | ⟨e, hpop, hitems⟩ :=
    hs.tryPop hl
  · obtain ⟨hconnections, hevents⟩ := tell_same { s with events } crossing
    rw [hpop]
    exact .inl ⟨arrival, rest, _, rfl, hitems, hconnections, fun hand => hevents ▸ hshows hand⟩
  · rw [hpop]
    exact .inr ⟨e, rfl, hitems⟩

/-- The alarm is taken off the queue. -/
theorem Shows.clearThresholds (hs : b.Shows s) :
    Shows { b with alarm := false } (s.clearThresholds 0).2 := by
  have hexists : 0 < s.queues.length := by rw [hs.length_queues]; exact Nat.zero_lt_one
  refine ⟨?_, hs.aims, ?_⟩
  · exact (System.outline_modifyQueue s (s.serving 0) (f := fun x => { x with watermark := none })
      fun _ => rfl).trans hs.outline
  · rw [System.fittings, System.clearThresholds, hs.serving]
    dsimp only
    rw [System.queue_modifyQueue, if_pos ⟨rfl, hexists⟩]
    exact congrArg (Prod.mk false) (congrArg Prod.snd hs.fittings)

/-- The queue can be destroyed if there is no alarm and nothing in it. -/
theorem Shows.close (hs : b.Shows s) (hl : b.lifecycle = .usable) (ha : b.alarm = false) :
    (b.items = [] ∧ ∃ after, s.close 0 = (.ok (), after) ∧
        Shows { b with lifecycle := .destroyed } after) ∨
      b.items ≠ [] ∧ s.close 0 = (.error (.notEmpty b.items.length), s) := by
  have hexists : 0 < s.queues.length := by rw [hs.length_queues]; exact Nat.zero_lt_one
  have halarm : (s.queue 0).watermark.isSome = false := (congrArg Prod.fst hs.fittings).trans ha
  unfold System.close
  simp only [hs.lifecycle, hl, hs.items, halarm]
  by_cases hi : b.items = []
  · left
    refine ⟨hi, _, by simp [hi]; rfl, ?_, hs.aims, ?_⟩
    · rw [System.outline_modifyQueue_set s _ hs.getElem?_queues, hs.outline]
      simp [Queue.face, hs.items]
    · rw [System.fittings, System.queue_modifyQueue, if_pos ⟨rfl, hexists⟩]
      exact hs.fittings
  · exact .inr ⟨hi, by simp [hi]⟩

end Diameter.Daemon.Books
