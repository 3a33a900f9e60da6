import Diameter.Proofs.Queue.Lines

/-!
# What a queue has for those who wait

A consumer waits for an item, a producer for room. Storing an item, taking one and moving
items change what there is; wake-ups do not. A wake-up makes up for one more item, or for
room for one more.
-/

namespace Diameter.Queue

variable {α η : Type}

/-- What a queue holds and where it leads, without its lines. -/
def goods (x : Queue α η) : Face α × Nat := (x.face, x.capacity)

/-- The items of a queue, or the room in it. An unbounded queue has no producers to wait for
room. -/
def supply (x : Queue α η) : Side → Nat
  | .consumer => x.items.length
  | .producer => x.capacity - x.items.length

/-- The queue can be used, and no other one serves instead of it. -/
def Serves (x : Queue α η) : Prop := x.lifecycle = .usable ∧ x.redirect = none

/-- What a line waits for is part of the goods. -/
theorem supply_congr {x y : Queue α η} (h : x.goods = y.goods) (side : Side) :
    x.supply side = y.supply side := by
  obtain ⟨hf, hc⟩ := Prod.mk.inj h
  have hi : x.items = y.items := congrArg Face.items hf
  cases side <;> simp only [supply, hi, hc]

/-- Whether a queue serves is part of the goods. -/
theorem serves_congr {x y : Queue α η} (h : x.goods = y.goods) : x.Serves ↔ y.Serves := by
  obtain ⟨hf, -⟩ := Prod.mk.inj h
  have hl : x.lifecycle = y.lifecycle := congrArg Face.lifecycle hf
  have hr : x.redirect = y.redirect := congrArg Face.redirect hf
  rw [Serves, Serves, hl, hr]

namespace System

/-! ## What a wake-up leaves as it is -/

/-- What does not show in the goods leaves them. -/
theorem goods_modifyQueue (s : System α η) (q p : QueueId) {f : Queue α η → Queue α η}
    (h : ∀ x, (f x).goods = x.goods) : ((s.modifyQueue q f).queue p).goods = (s.queue p).goods := by
  rw [queue_modifyQueue]
  split_ifs
  · exact h _
  · rfl

@[simp]
theorem goods_modifyWaiting (s : System α η) (q p : QueueId) (side : Side)
    (f : Waiting → Waiting) :
    ((s.modifyWaiting q side f).queue p).goods = (s.queue p).goods := by
  refine goods_modifyQueue s q p fun x => ?_
  cases side <;> rfl

@[simp]
theorem goods_wakeOne (s : System α η) (q p : QueueId) (side : Side) :
    ((s.wakeOne q side).queue p).goods = (s.queue p).goods := by
  unfold wakeOne
  dsimp only
  split
  · rw [queue_wake, goods_modifyWaiting]
  · rw [goods_modifyWaiting]

@[simp]
theorem goods_wakeAll (s : System α η) (q p : QueueId) (side : Side) :
    ((s.wakeAll q side).queue p).goods = (s.queue p).goods := by
  rw [wakeAll, queue_wakeEach, goods_modifyWaiting]

@[simp]
theorem goods_wakeTimes (s : System α η) (q p : QueueId) (side : Side) (n : Nat) :
    ((s.wakeTimes q side n).queue p).goods = (s.queue p).goods := by
  induction n generalizing s with
  | zero => rfl
  | succ n ih => rw [wakeTimes, ih, goods_wakeOne]

@[simp]
theorem goods_report (s : System α η) (q p : QueueId) (level : Level)
    (moved : Option (Watermark η)) :
    ((s.report q level moved).1.queue p).goods = (s.queue p).goods := by
  cases moved with
  | none => rfl
  | some w => exact goods_modifyQueue s q p fun _ => rfl

/-- Storing adds an item to the goods of one queue. -/
theorem goods_store (s : System α η) (q p : QueueId) (item : α) :
    ((s.store q item).1.queue p).goods = ((s.modifyQueue q (·.append item)).queue p).goods := by
  unfold store
  dsimp only
  rw [goods_report]
  split_ifs <;> simp only [goods_wakeOne]

/-- Taking removes an item from the goods of one queue. -/
theorem goods_takeHead (s : System α η) (q p : QueueId) (rest : List α) :
    ((s.takeHead q rest).1.queue p).goods =
      ((s.modifyQueue q (·.withoutHead rest)).queue p).goods := by
  unfold takeHead
  dsimp only
  rw [goods_report]
  split_ifs <;> simp only [goods_wakeOne]

@[simp]
theorem goods_suspend (s : System α η) (q p : QueueId) (side : Side) (c : CallerId) :
    ((s.suspend q side c).queue p).goods = (s.queue p).goods := by
  unfold suspend
  split_ifs
  · exact goods_modifyWaiting s q p side (·.takePermit)
  · exact goods_modifyWaiting s q p side (·.park c)

theorem untouched_report (s : System α η) (q : QueueId) (level : Level)
    (moved : Option (Watermark η)) (p : QueueId) (d : Side) :
    Untouched s (s.report q level moved).1 p d := by
  cases moved with
  | none => exact .refl s p d
  | some w =>
    refine untouched_modifyQueue s q _ fun _ x => ?_
    cases d <;> rfl

/-! ## Wake-ups for what there is -/

/-- As many calls as parked pass a wake-up on, or at least as many as given were woken and
have not looked since. -/
def Balanced (s : System α η) (q : QueueId) (side : Side) (n : Nat) : Prop :=
  s.tally side (Stage.isParked q) ≤ s.tally side (Stage.isPassing q) ∨
    n ≤ s.tally side (Stage.isRecalled q)

/-- Enough wake-ups are enough for less. -/
theorem Balanced.mono {s : System α η} {q : QueueId} {side : Side} {m n : Nat}
    (h : s.Balanced q side n) (hm : m ≤ n) : s.Balanced q side m :=
  h.imp_right (Nat.le_trans hm)

/-- Nobody was parked, woken or given up since. -/
theorem Balanced.of_eq {s s' : System α η} {q : QueueId} {side : Side} {n : Nat}
    (hb : s.Balanced q side n)
    (hp : s'.tally side (Stage.isParked q) = s.tally side (Stage.isParked q))
    (hx : s'.tally side (Stage.isPassing q) = s.tally side (Stage.isPassing q))
    (hw : s'.tally side (Stage.isRecalled q) = s.tally side (Stage.isRecalled q)) :
    s'.Balanced q side n := by
  unfold Balanced
  rwa [hp, hx, hw]

/-- A line that is untouched stays balanced. -/
theorem Untouched.balanced {s s' : System α η} {q : QueueId} {side : Side} {n : Nat}
    (h : Untouched s s' q side) (hb : s.Balanced q side n) : s'.Balanced q side n :=
  hb.of_eq (h.tally _ (tells_isParked q)) (h.tally _ (tells_isPassing q))
    (h.tally _ (tells_isRecalled q))

/-- One wake-up makes up for one more. -/
theorem Balanced.wakeOne {s : System α η} (h : ∀ p d, s.Lined p d) {q : QueueId} {side : Side}
    {n : Nat} (hb : s.Balanced q side n) : (s.wakeOne q side).Balanced q side (n + 1) := by
  unfold Balanced at hb ⊢
  rcases (wakeOne_lined h q side).2.2 with ⟨hzero, hsame⟩ | ⟨hrecalled, hparked⟩
  · rw [hsame, hzero]
    exact .inl (Nat.zero_le _)
  · omega

/-- Who is parked is counted. -/
theorem parked_le_counted (s : System α η) (q : QueueId) (side : Side) :
    s.tally side (Stage.isParked q) ≤ s.tally side (Stage.isCounted q) := by
  refine List.countP_mono_left fun c _ hc => ?_
  simp only [Bool.and_eq_true, decide_eq_true_eq] at hc ⊢
  exact ⟨hc.1, Stage.isCounted_of_isParked hc.2⟩

/-- Nobody is parked where nobody is counted. -/
theorem Lined.parked_eq_zero {s : System α η} {q : QueueId} {side : Side}
    (h : s.Lined q side) (hc : ((s.queue q).waiting side).count = 0) :
    s.tally side (Stage.isParked q) = 0 := by
  have hle := parked_le_counted s q side
  have hcount := h.count_eq
  omega

/-- A wake-up that is made if anybody is counted makes up for one more. -/
theorem Balanced.wakeCounted {s : System α η} (h : ∀ p d, s.Lined p d) {q : QueueId}
    {side : Side} {n : Nat} (hb : s.Balanced q side n) :
    (if 0 < ((s.queue q).waiting side).count then s.wakeOne q side else s).Balanced q side
      (n + 1) := by
  split_ifs with hc
  · exact hb.wakeOne h
  · refine .inl ?_
    rw [(h q side).parked_eq_zero (by omega)]
    exact Nat.zero_le _

/-- Wake-ups for more items, but for no more than are counted, make up for all of them. -/
theorem Balanced.wakeTimes {s : System α η} (h : ∀ p d, s.Lined p d) {q : QueueId} {side : Side}
    {n : Nat} (hb : s.Balanced q side n) (m : Nat) :
    (s.wakeTimes q side (min m ((s.queue q).waiting side).count)).Balanced q side (n + m) := by
  obtain ⟨-, -, -, hafter⟩ :=
    wakeTimes_lined h q side (min m ((s.queue q).waiting side).count)
  have hle := parked_le_counted s q side
  have hcount := (h q side).count_eq
  unfold Balanced at hb ⊢
  omega

/-- A wake-up that may be made keeps all lines in order and leaves all others alone. -/
theorem wakeIf_lined {s : System α η} (h : ∀ p d, s.Lined p d) (q : QueueId) (side : Side)
    (made : Prop) [Decidable made] :
    (∀ p d, (if made then s.wakeOne q side else s).Lined p d) ∧
      (∀ p d, (p ≠ q ∨ d ≠ side) →
        Untouched s (if made then s.wakeOne q side else s) p d) ∧
      ∀ n, s.Balanced q side n → (if made then s.wakeOne q side else s).Balanced q side n := by
  split_ifs
  · obtain ⟨hlined, hother, -⟩ := wakeOne_lined h q side
    exact ⟨hlined, hother, fun n hb => (hb.wakeOne h).mono (Nat.le_succ n)⟩
  · exact ⟨h, fun p d _ => .refl s p d, fun n hb => hb⟩

/-! ## Storing and taking -/

/-- Storing an item wakes a consumer for it, if any is counted, and may wake a producer for the
room that is left. A crossing that is reported wakes nobody. -/
theorem store_balanced {s : System α η} (h : ∀ p d, s.Lined p d) (q : QueueId) (item : α)
    {items room : Nat} (hc : s.Balanced q .consumer items) (hp : s.Balanced q .producer room) :
    (∀ p d, (s.store q item).1.Lined p d) ∧
      (∀ p d, p ≠ q → Untouched s (s.store q item).1 p d) ∧
      (s.store q item).1.Balanced q .consumer (items + 1) ∧
      (s.store q item).1.Balanced q .producer room := by
  have happend (p : QueueId) (d : Side) :
      Untouched s (s.modifyQueue q (·.append item)) p d := by
    refine untouched_modifyQueue s q _ fun _ x => ?_
    cases d <;> rfl
  have hlined₁ (p d) := (happend p d).lined (h p d)
  have hcount : (s.queue q).consumers.count =
      (((s.modifyQueue q (·.append item)).queue q).waiting .consumer).count :=
    congrArg Waiting.count (happend q .consumer).waiting.symm
  have hwake := wakeIf_lined hlined₁ q .consumer (0 < (s.queue q).consumers.count)
  have hconsumer := ((happend q .consumer).balanced hc).wakeCounted hlined₁
  rw [← hcount] at hconsumer
  obtain ⟨hlined₂, hother₂, -⟩ := hwake
  have hproducer := (hother₂ q .producer (by simp)).balanced ((happend q .producer).balanced hp)
  have hcascade := wakeIf_lined hlined₂ q .producer
    (0 < (s.queue q).producers.count ∧
      ((s.queue q).capacity = 0 ∨ (s.queue q).items.length + 1 < (s.queue q).capacity))
  obtain ⟨hlined₃, hother₃, hbalanced₃⟩ := hcascade
  have hconsumer₃ := (hother₃ q .consumer (by simp)).balanced hconsumer
  have hproducer₃ := hbalanced₃ room hproducer
  unfold store
  dsimp only
  have hreport (t : System α η) (p d) := untouched_report t q .high
    ((s.queue q).watermark.bind (·.crossUp ((s.queue q).items.length + 1))) p d
  refine ⟨fun p d => (hreport _ p d).lined (hlined₃ p d), fun p d hne => ?_,
    (hreport _ q .consumer).balanced hconsumer₃, (hreport _ q .producer).balanced hproducer₃⟩
  exact (((happend p d).trans (hother₂ p d (.inl hne))).trans (hother₃ p d (.inl hne))).trans
    (hreport _ p d)

/-- Taking an item wakes a producer for the room, if any is counted. -/
theorem takeHead_balanced {s : System α η} (h : ∀ p d, s.Lined p d) (q : QueueId)
    (rest : List α) {items room : Nat} (hc : s.Balanced q .consumer items)
    (hp : s.Balanced q .producer room) :
    (∀ p d, (s.takeHead q rest).1.Lined p d) ∧
      (∀ p d, p ≠ q → Untouched s (s.takeHead q rest).1 p d) ∧
      (s.takeHead q rest).1.Balanced q .consumer items ∧
      (s.takeHead q rest).1.Balanced q .producer (room + 1) := by
  have htake (p : QueueId) (d : Side) :
      Untouched s (s.modifyQueue q (·.withoutHead rest)) p d := by
    refine untouched_modifyQueue s q _ fun _ x => ?_
    cases d <;> rfl
  have hlined₁ (p d) := (htake p d).lined (h p d)
  have hcount : (s.queue q).producers.count =
      (((s.modifyQueue q (·.withoutHead rest)).queue q).waiting .producer).count :=
    congrArg Waiting.count (htake q .producer).waiting.symm
  have hwake := wakeIf_lined hlined₁ q .producer (0 < (s.queue q).producers.count)
  have hproducer := ((htake q .producer).balanced hp).wakeCounted hlined₁
  rw [← hcount] at hproducer
  obtain ⟨hlined₂, hother₂, -⟩ := hwake
  have hconsumer := (hother₂ q .consumer (by simp)).balanced ((htake q .consumer).balanced hc)
  unfold takeHead
  dsimp only
  have hreport (t : System α η) (p d) := untouched_report t q .low
    ((s.queue q).watermark.bind (·.crossDown rest.length)) p d
  refine ⟨fun p d => (hreport _ p d).lined (hlined₂ p d), fun p d hne => ?_,
    (hreport _ q .consumer).balanced hconsumer, (hreport _ q .producer).balanced hproducer⟩
  exact ((htake p d).trans (hother₂ p d (.inl hne))).trans (hreport _ p d)

end System

end Diameter.Queue
