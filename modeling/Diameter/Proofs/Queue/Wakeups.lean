import Diameter.Proofs.Queue.Routes
import Diameter.Proofs.Queue.Supply

/-!
# No wake-up is lost

Whoever is parked at a queue that serves has to be woken for every item, or for all room,
that there is. A call that was woken may be slow, may find that somebody came in between, or
may give up and pass its wake-up on.
-/

namespace Diameter.Queue

variable {α η : Type}

namespace System

/-- Enough calls were woken at one side of a queue, and nobody is parked at a queue that was
moved. -/
structure Fair (s : System α η) (q : QueueId) (side : Side) : Prop where
  /-- Where the queue serves, there are wake-ups for all that it has. -/
  balanced : (s.queue q).Serves → s.Balanced q side ((s.queue q).supply side)
  /-- Where another queue serves, nobody is parked. -/
  moved : (s.queue q).lifecycle = .usable → (s.queue q).redirect ≠ none →
    s.tally side (Stage.isParked q) = 0

/-- All lines are in order and enough calls were woken everywhere. -/
structure Awake (s : System α η) : Prop where
  /-- All lines are in order. -/
  lined : ∀ q side, s.Lined q side
  /-- Enough calls were woken everywhere. -/
  fair : ∀ q side, s.Fair q side

/-- What keeps the balance and parks nobody keeps a side fair. -/
theorem Fair.of_balanced {s s' : System α η} {q : QueueId} {side : Side} (hf : s.Fair q side)
    (hg : (s'.queue q).goods = (s.queue q).goods)
    (hp : s'.tally side (Stage.isParked q) ≤ s.tally side (Stage.isParked q))
    (hb : ∀ n, s.Balanced q side n → s'.Balanced q side n) : s'.Fair q side where
  balanced hs := by
    rw [supply_congr hg]
    exact hb _ (hf.balanced ((serves_congr hg).mp hs))
  moved hl hr := by
    have hface := congrArg Prod.fst hg
    have hz := hf.moved ((congrArg Face.lifecycle hface).symm.trans hl)
      fun hn => hr ((congrArg Face.redirect hface).trans hn)
    omega

/-- A line that is untouched stays fair, if the goods are the same. -/
theorem Untouched.fair {s s' : System α η} {q : QueueId} {side : Side}
    (h : Untouched s s' q side) (hg : (s'.queue q).goods = (s.queue q).goods)
    (hf : s.Fair q side) : s'.Fair q side :=
  hf.of_balanced hg (Nat.le_of_eq (h.tally _ (tells_isParked q))) fun _ => h.balanced

/-! ## A call looks at a queue -/

/-- A call that goes away from a queue has nothing to do with others. -/
theorem untouched_away (s : System α η) {c : CallerId} {r : Request α} {stage new : Stage α}
    (hc : s.callers[c]? = some ⟨r, stage⟩) {q : QueueId}
    (hstage : ∀ p, stage.place? = some p → p = q) (hnew : new.place? = none) {p : QueueId}
    {d : Side} (hpd : p ≠ q ∨ d ≠ r.side) : Untouched s (s.setStage c new) p d := by
  refine untouched_modifyStage s _ hc fun hs => ⟨fun hp => ?_, ?_⟩
  · exact hpd.resolve_right (not_not.mpr hs.symm) (hstage p hp)
  · rw [hnew]
    exact nofun

/-- A call that is neither in line nor counted goes away from a queue. -/
theorem away_lined {s : System α η} (h : ∀ p d, s.Lined p d) {c : CallerId} {r : Request α}
    {stage new : Stage α} (hc : s.callers[c]? = some ⟨r, stage⟩)
    (hstands : ∀ p, stage.isStanding p = false) (hcounts : ∀ p, stage.isCounted p = false)
    (hnew : new.place? = none) (p : QueueId) (d : Side) : (s.setStage c new).Lined p d := by
  refine setStage_lined h hc (fun p => ?_) (fun p => ?_) p d
  · rw [hstands, tells_eq_false (tells_isStanding p) hnew]
  · rw [hcounts, tells_eq_false (tells_isCounted p) hnew]

theorem place?_ready {q : QueueId} {recalled : Bool} (p : QueueId)
    (h : (Stage.ready q recalled : Stage α).place? = some p) : p = q := by
  cases recalled with
  | false => cases h
  | true =>
    cases h
    rfl

/-- A call that gives up has its place at the queue that it leaves. -/
theorem place?_leaving {q : QueueId} {cause : Option WokenBy} {late : Bool} (p : QueueId)
    (h : (Stage.leaving q cause late : Stage α).place? = some p) : p = q := by
  cases h
  rfl

/-- A call that goes away from its queue is no longer told of. -/
theorem tally_away (s : System α η) {c : CallerId} {r : Request α} {stage new : Stage α}
    (hc : s.callers[c]? = some ⟨r, stage⟩) (hnew : new.place? = none) {q : QueueId}
    {kind : Stage α → Bool} (hk : Tells q kind) :
    (s.setStage c new).tally r.side kind + (kind stage).toNat = s.tally r.side kind := by
  have htally := tally_modifyStage s (fun _ => new) kind hc
  rw [tells_eq_false hk hnew] at htally
  exact htally

/-- A call that ends at a queue takes the wake-up for one item, or for room for one, with
it. -/
theorem Balanced.of_ready {s : System α η} {c : CallerId} {r : Request α} {q : QueueId}
    {recalled : Bool} (hc : s.callers[c]? = some ⟨r, .ready q recalled⟩) {new : Stage α}
    (hnew : new.place? = none) {n : Nat} (hb : s.Balanced q r.side n) :
    (s.setStage c new).Balanced q r.side (n - 1) := by
  have hparked := tally_away s hc hnew (tells_isParked q)
  have hpassing := tally_away s hc hnew (tells_isPassing q)
  have hrecalled := tally_away s hc hnew (tells_isRecalled q)
  have hone := Bool.toNat_le (Stage.isRecalled q (.ready q recalled : Stage α))
  have hzero : (Stage.isParked q (.ready q recalled : Stage α)).toNat = 0 := rfl
  have hzero' : (Stage.isPassing q (.ready q recalled : Stage α)).toNat = 0 := rfl
  have hf : (false : Bool).toNat = 0 := rfl
  unfold Balanced setStage at *
  omega

/-- A call that looks at a queue which does not serve goes away from it. -/
theorem awake_of_ready {s : System α η} (h : s.Awake) {c : CallerId} {r : Request α}
    {q : QueueId} {recalled : Bool} (hc : s.callers[c]? = some ⟨r, .ready q recalled⟩)
    {new : Stage α} (hnew : new.place? = none) (hq : ¬ (s.queue q).Serves) :
    (s.setStage c new).Awake := by
  refine ⟨away_lined h.lined hc (fun _ => rfl) (fun _ => rfl) hnew, fun p d => ?_⟩
  by_cases hp : p = q
  · subst hp
    refine ⟨fun hs => absurd hs hq, fun hl hr => ?_⟩
    rw [setStage, tally_modifyStage_other s _ hc fun _ => ?_]
    · exact (h.fair p d).moved hl hr
    · exact tells_eq_false (tells_isParked p) hnew
  · exact (untouched_away s hc place?_ready hnew (.inl hp)).fair rfl (h.fair p d)

/-- A call that has to wait does so where there is nothing for it. -/
theorem suspend_awake {s : System α η} (h : s.Awake) {c : CallerId} {r : Request α}
    {q : QueueId} {recalled : Bool} (hc : s.callers[c]? = some ⟨r, .ready q recalled⟩)
    (hq : q < s.queues.length) (hs : (s.queue q).Serves)
    (hnone : (s.queue q).supply r.side = 0) : (s.suspend q r.side c).Awake := by
  obtain ⟨hlined, hother⟩ := suspend_lined h.lined hc hq
  have hgoods (p : QueueId) := goods_suspend s q p r.side c
  refine ⟨hlined, fun p d => ?_⟩
  by_cases hpd : p ≠ q ∨ d ≠ r.side
  · exact (hother p d hpd).fair (hgoods p) (h.fair p d)
  · push Not at hpd
    obtain ⟨rfl, rfl⟩ := hpd
    refine ⟨fun _ => .inr ?_, fun _ hr => ?_⟩
    · rw [supply_congr (hgoods p), hnone]
      exact Nat.zero_le _
    · exact absurd ((serves_congr (hgoods p)).mpr hs).2 hr

/-- Both sides of a queue that serves are fair if there are wake-ups for its items and for
its room. -/
theorem fair_of_goods {s : System α η} {q : QueueId} {x : Queue α η}
    (hg : (s.queue q).goods = x.goods) (hr : x.redirect = none)
    (hc : s.Balanced q .consumer x.items.length)
    (hp : s.Balanced q .producer (x.capacity - x.items.length)) (d : Side) : s.Fair q d := by
  have hface := congrArg Prod.fst hg
  have hredirect : (s.queue q).redirect = none := (congrArg Face.redirect hface).trans hr
  refine ⟨fun _ => ?_, fun _ hn => absurd hredirect hn⟩
  rw [supply_congr hg]
  cases d with
  | consumer => exact hc
  | producer => exact hp

/-- A queue whose contents were changed in its place. -/
theorem queue_modifyQueue_self (s : System α η) {q : QueueId} (hq : q < s.queues.length)
    (f : Queue α η → Queue α η) : (s.modifyQueue q f).queue q = f (s.queue q) := by
  rw [queue_modifyQueue, if_pos ⟨rfl, hq⟩]

theorem queue_modifyQueue_other (s : System α η) {p q : QueueId} (hp : p ≠ q)
    (f : Queue α η → Queue α η) : (s.modifyQueue q f).queue p = s.queue p := by
  rw [queue_modifyQueue, if_neg fun h => hp h.1.symm]

/-- A call stores its item. -/
theorem store_awake {s : System α η} (h : s.Awake) {c : CallerId} {item : α}
    {q : QueueId} {recalled : Bool}
    (hc : s.callers[c]? = some ⟨.push item, .ready q recalled⟩) (hq : q < s.queues.length)
    (hs : (s.queue q).Serves) : ((s.setStage c (.ended .stored)).store q item).1.Awake := by
  have hlined : ∀ p d, (s.setStage c (.ended .stored)).Lined p d :=
    away_lined h.lined hc (fun _ => rfl) (fun _ => rfl) rfl
  have hconsumer : (s.setStage c (.ended .stored)).Balanced q .consumer
      (s.queue q).items.length :=
    (untouched_away s hc place?_ready rfl (.inr (by simp [Request.side]))).balanced
      ((h.fair q .consumer).balanced hs)
  have hproducer : (s.setStage c (.ended .stored)).Balanced q .producer
      ((s.queue q).capacity - (s.queue q).items.length - 1) :=
    ((h.fair q .producer).balanced hs).of_ready hc rfl
  obtain ⟨hlined', hother, hconsumer', hproducer'⟩ :=
    store_balanced hlined q item hconsumer hproducer
  have hgoods (p : QueueId) := goods_store (s.setStage c (.ended .stored)) q p item
  refine ⟨hlined', fun p d => ?_⟩
  by_cases hp : p = q
  · subst hp
    have hqueue : ((s.setStage c (.ended .stored)).modifyQueue p (·.append item)).queue p =
        (s.queue p).append item := queue_modifyQueue_self _ hq _
    refine fair_of_goods ((hgoods p).trans (congrArg goods hqueue)) hs.2 ?_ ?_ d
    · exact hconsumer'.mono (by simp [append])
    · refine hproducer'.mono ?_
      simp only [append, List.length_append, List.length_singleton]
      omega
  · refine ((untouched_away s hc place?_ready rfl (.inl hp)).trans (hother p d hp)).fair ?_
      (h.fair p d)
    rw [hgoods, queue_modifyQueue_other _ hp]
    rfl

/-- An item is taken at a queue, by a call that has ended so or without waiting. -/
theorem takeHead_awake {s t : System α η} (h : s.Awake) (ht : ∀ p d, t.Lined p d)
    {q : QueueId} (hq : q < s.queues.length) (hqueues : t.queues = s.queues)
    (hother : ∀ p d, p ≠ q → Untouched s t p d) {item : α} {rest : List α}
    (hs : (s.queue q).Serves) (hi : (s.queue q).items = item :: rest)
    (hc : t.Balanced q .consumer rest.length)
    (hp : t.Balanced q .producer ((s.queue q).capacity - (s.queue q).items.length)) :
    (t.takeHead q rest).1.Awake := by
  obtain ⟨hlined, hother', hconsumer, hproducer⟩ := takeHead_balanced ht q rest hc hp
  have hgoods (p : QueueId) := goods_takeHead t q p rest
  have hqueue (p : QueueId) : t.queue p = s.queue p := by rw [queue, hqueues, queue]
  refine ⟨hlined, fun p d => ?_⟩
  by_cases hpq : p = q
  · subst hpq
    have hafter : (t.modifyQueue p (·.withoutHead rest)).queue p =
        (s.queue p).withoutHead rest := by
      rw [queue_modifyQueue_self _ (hqueues ▸ hq), hqueue]
    refine fair_of_goods ((hgoods p).trans (congrArg goods hafter)) hs.2 hconsumer ?_ d
    refine hproducer.mono ?_
    simp only [withoutHead, hi, List.length_cons]
    omega
  · refine ((hother p d hpq).trans (hother' p d hpq)).fair ?_ (h.fair p d)
    rw [hgoods, queue_modifyQueue_other _ hpq, hqueue]

/-- A call looks at a queue. -/
theorem examine_awake {s : System α η} (h : s.Awake) {c : CallerId} {r : Request α}
    {q : QueueId} {recalled : Bool} (hc : s.callers[c]? = some ⟨r, .ready q recalled⟩)
    (hq : q < s.queues.length) : (s.examine c r q).1.Awake := by
  unfold examine
  dsimp only
  cases hl : (s.queue q).lifecycle with
  | destroyed =>
    have hnot : ¬ (s.queue q).Serves := fun hs => by
      rw [hs.1] at hl
      cases hl
    cases r with
    | push item => exact awake_of_ready h hc rfl hnot
    | pop deadline => exact awake_of_ready h hc rfl hnot
  | usable =>
    cases hr : (s.queue q).redirect with
    | some target =>
      refine awake_of_ready h hc rfl fun hs => ?_
      rw [hs.2] at hr
      cases hr
    | none =>
      have hs : (s.queue q).Serves := ⟨hl, hr⟩
      cases r with
      | push item =>
        dsimp only
        split_ifs with hfull
        · refine suspend_awake h hc hq hs ?_
          simp only [isFull, Bool.and_eq_true, decide_eq_true_eq] at hfull
          simp only [Request.side, supply]
          omega
        · exact store_awake h hc hq hs
      | pop deadline =>
        dsimp only
        cases hi : (s.queue q).items with
        | nil =>
          refine suspend_awake h hc hq hs ?_
          simp only [Request.side, supply, hi, List.length_nil]
        | cons item rest =>
          have hconsumer : (s.setStage c (.ended (.took item))).Balanced q .consumer
              ((s.queue q).supply .consumer - 1) :=
            ((h.fair q .consumer).balanced hs).of_ready hc rfl
          have hother (p : QueueId) (d : Side) (hpd : p ≠ q ∨ d ≠ .consumer) :
              Untouched s (s.setStage c (.ended (.took item))) p d :=
            untouched_away s hc place?_ready rfl hpd
          have hproducer := (hother q .producer (.inr (by simp))).balanced
            ((h.fair q .producer).balanced hs)
          refine takeHead_awake h (away_lined h.lined hc (fun _ => rfl) (fun _ => rfl) rfl) hq rfl
            (fun p d hp => hother p d (.inl hp)) hs hi ?_ hproducer
          refine hconsumer.mono ?_
          simp only [supply, hi, List.length_cons]
          omega

/-! ## A call goes on or gives up -/

/-- A counted call that leaves the count, and is as good as woken if it was woken. -/
theorem uncount_awake {s : System α η} (h : s.Awake) {c : CallerId} {r : Request α}
    {stage new : Stage α} (hc : s.callers[c]? = some ⟨r, stage⟩) {q : QueueId}
    (hq : q < s.queues.length) (hcounted : stage.isCounted q = true)
    (hfree : new.isCounted q = false) (hstands : new.isStanding q = stage.isStanding q)
    (hplace : new.place? = some q) (hparked : new.isParked q = false)
    (hpassing : stage.isPassing q = false)
    (hrecalled : stage.isRecalled q = true → new.isRecalled q = true) :
    ((s.modifyWaiting q r.side (·.resume)).setStage c new).Awake := by
  obtain ⟨hlined, hother⟩ := uncount_lined h.lined hc hq hcounted hfree hstands hplace
  have hgoods (p : QueueId) := goods_modifyWaiting s q p r.side (·.resume)
  have hc' : (s.modifyWaiting q r.side (·.resume)).callers[c]? = some ⟨r, stage⟩ := hc
  refine ⟨hlined, fun p d => ?_⟩
  by_cases hpd : p ≠ q ∨ d ≠ r.side
  · exact (hother p d hpd).fair (hgoods p) (h.fair p d)
  · push Not at hpd
    obtain ⟨rfl, rfl⟩ := hpd
    have hp := tally_modifyStage _ (fun _ => new) (Stage.isParked p) hc'
    have hx := tally_modifyStage _ (fun _ => new) (Stage.isPassing p) hc'
    have hw := tally_modifyStage _ (fun _ => new) (Stage.isRecalled p) hc'
    have hsame (kind : Stage α → Bool) :
        (s.modifyWaiting p r.side (·.resume)).tally r.side kind = s.tally r.side kind := rfl
    have hle := Bool.toNat_le (new.isRecalled p)
    rw [hsame, hparked, Bool.toNat_false] at hp
    rw [hsame, hpassing, Bool.toNat_false] at hx
    rw [hsame] at hw
    have hkeep : (stage.isRecalled p).toNat ≤ (new.isRecalled p).toNat := by
      cases hr : stage.isRecalled p with
      | true => exact Nat.le_of_eq (by rw [hrecalled hr])
      | false => exact Nat.zero_le _
    refine (h.fair p r.side).of_balanced (hgoods p) ?_ fun n hb => ?_
    · unfold setStage
      omega
    · unfold Balanced setStage at *
      omega

/-- A call takes its turn. -/
theorem turn_awake {s : System α η} (h : s.Awake) (hr : s.outline.InRange) (c : CallerId) :
    (s.turn c).1.Awake := by
  unfold turn
  rcases hc : s.callers[c]? with _ | ⟨r, stage⟩
  · exact h
  · have hface {q : QueueId} (hs : stage.spot = .facing q) : q < s.queues.length := by
      rw [← length_faces_outline]
      refine hr.facing (c := c) (r := r) ?_
      rw [outline_calls_getElem?, hc, Option.map_some, hs]
    cases stage with
    | ready q recalled => exact examine_awake h hc (hface rfl)
    | woken q cause =>
      exact uncount_awake h hc (hface rfl) (by simp [Stage.isCounted]) rfl rfl rfl rfl rfl
        fun _ => by simp [Stage.isRecalled]
    | _ => exact h

/-- A call begins to give up. -/
theorem withdraw_awake {s : System α η} (h : s.Awake) (hr : s.outline.InRange) (c : CallerId)
    (late : Bool) : (s.withdraw c late).Awake := by
  unfold withdraw
  rcases hc : s.callers[c]? with _ | ⟨r, stage⟩
  · exact h
  · have hface {q : QueueId} (hs : stage.spot = .facing q) : q < s.queues.length := by
      rw [← length_faces_outline]
      refine hr.facing (c := c) (r := r) ?_
      rw [outline_calls_getElem?, hc, Option.map_some, hs]
    cases stage with
    | parked q =>
      exact uncount_awake h hc (hface rfl) (by simp [Stage.isCounted]) rfl
        (by simp [Stage.isStanding]) rfl rfl rfl nofun
    | woken q cause =>
      refine uncount_awake h hc (hface rfl) (by simp [Stage.isCounted]) rfl rfl rfl rfl rfl
        fun hw => ?_
      cases cause with
      | one => exact hw
      | all => cases hw
    | _ => exact h

/-- A call that gave up leaves the line. -/
theorem leave_awake {s : System α η} (h : s.Awake) {c : CallerId} {r : Request α} {q : QueueId}
    {late : Bool} {new : Stage α} (hc : s.callers[c]? = some ⟨r, .leaving q none late⟩)
    (hnew : new.place? = none) :
    ((s.setStage c new).modifyWaiting q r.side (·.leave c)).Awake := by
  obtain ⟨hlined, hother⟩ := leave_lined h.lined hc hnew
  refine ⟨hlined, fun p d => ?_⟩
  have hgoods := goods_modifyWaiting s q p r.side (·.leave c)
  by_cases hpd : p ≠ q ∨ d ≠ r.side
  · exact (hother p d hpd).fair hgoods (h.fair p d)
  · push Not at hpd
    obtain ⟨rfl, rfl⟩ := hpd
    have hparked := tally_away s hc hnew (tells_isParked p)
    have hpassing := tally_away s hc hnew (tells_isPassing p)
    have hrecalled := tally_away s hc hnew (tells_isRecalled p)
    exact (h.fair p r.side).of_balanced hgoods (Nat.le_of_eq hparked) fun n hb =>
      hb.of_eq hparked hpassing hrecalled

/-- A call that gave up passes its wake-up on. -/
theorem passOn_awake {s : System α η} (h : s.Awake) {c : CallerId} {r : Request α} {q : QueueId}
    {late : Bool} {new : Stage α} (hc : s.callers[c]? = some ⟨r, .leaving q (some .one) late⟩)
    (hnew : new.place? = none) : ((s.setStage c new).wakeOne q r.side).Awake := by
  have hlined := away_lined h.lined hc (fun _ => rfl) (fun _ => rfl) hnew
  obtain ⟨hlined', hother, hwoke⟩ := wakeOne_lined hlined q r.side
  refine ⟨hlined', fun p d => ?_⟩
  have hgoods := goods_wakeOne (s.setStage c new) q p r.side
  by_cases hpd : p ≠ q ∨ d ≠ r.side
  · have haway := untouched_away s hc place?_leaving hnew hpd
    exact (haway.trans (hother p d hpd)).fair hgoods (h.fair p d)
  · push Not at hpd
    obtain ⟨rfl, rfl⟩ := hpd
    have hparked := tally_away s hc hnew (tells_isParked p)
    have hpassing := tally_away s hc hnew (tells_isPassing p)
    have hrecalled := tally_away s hc hnew (tells_isRecalled p)
    simp only [Stage.isParked, Stage.isPassing, Stage.isRecalled, beq_self_eq_true,
      Bool.toNat_true, Bool.toNat_false, Nat.add_zero] at hparked hpassing hrecalled
    unfold setStage at hparked hpassing hrecalled hwoke ⊢
    refine (h.fair p r.side).of_balanced hgoods ?_ fun n hb => ?_
    · rcases hwoke with ⟨hzero, hsame⟩ | ⟨hwoken, hrest⟩
      · rw [hsame]
        omega
      · omega
    · unfold Balanced at hb ⊢
      rcases hwoke with ⟨hzero, hsame⟩ | ⟨hwoken, hrest⟩
      · rw [hsame]
        omega
      · omega

/-- A call that was woken with everybody gave up. -/
theorem giveUp_awake {s : System α η} (h : s.Awake) {c : CallerId} {r : Request α} {q : QueueId}
    {late : Bool} {new : Stage α} (hc : s.callers[c]? = some ⟨r, .leaving q (some .all) late⟩)
    (hnew : new.place? = none) : (s.setStage c new).Awake := by
  refine ⟨away_lined h.lined hc (fun _ => rfl) (fun _ => rfl) hnew, fun p d => ?_⟩
  have htally {kind : Stage α → Bool} (hk : Tells p kind)
      (hold : kind (.leaving q (some .all) late) = false) :
      (s.modifyStage c fun _ => new).tally d kind = s.tally d kind := by
    refine tally_modifyStage_other s _ hc fun _ => ?_
    rw [tells_eq_false hk hnew, hold]
  exact (h.fair p d).of_balanced rfl (Nat.le_of_eq (htally (tells_isParked p) rfl)) fun n hb =>
    hb.of_eq (htally (tells_isParked p) rfl) (htally (tells_isPassing p) rfl)
      (htally (tells_isRecalled p) rfl)

/-- The second step of a call that gives up. -/
theorem depart_awake {s : System α η} (h : s.Awake) (c : CallerId) : (s.depart c).Awake := by
  unfold depart
  rcases hc : s.callers[c]? with _ | ⟨r, stage⟩
  · exact h
  · cases stage with
    | leaving q cause late =>
      have hnew : (if late then .ended (.failed .timeout) else .dropped : Stage α).place? =
          none := by
        cases late <;> rfl
      rcases cause with _ | _ | _
      · exact leave_awake h hc hnew
      · exact passOn_awake h hc hnew
      · exact giveUp_awake h hc hnew
    | _ => exact h

/-! ## The other events -/

/-- Where no line is touched and all goods are the same, nobody sleeps who did not. -/
theorem awake_of_untouched {s s' : System α η} (h : s.Awake)
    (hu : ∀ p d, Untouched s s' p d) (hg : ∀ p, (s'.queue p).goods = (s.queue p).goods) :
    s'.Awake :=
  ⟨fun p d => (hu p d).lined (h.lined p d), fun p d => (hu p d).fair (hg p) (h.fair p d)⟩

/-- A call is given up before it has looked at its queue. -/
theorem abandon_awake {s : System α η} (h : s.Awake) (c : CallerId) : (s.abandon c).Awake := by
  unfold abandon
  rcases hc : s.callers[c]? with _ | ⟨r, stage⟩
  · exact h
  · cases stage with
    | ready q recalled =>
      cases recalled with
      | true => exact h
      | false =>
        refine awake_of_untouched h (fun p d => ?_) fun _ => rfl
        exact untouched_modifyStage s _ hc fun _ => ⟨nofun, nofun⟩
    | _ => exact h

/-- A new call has not looked at any queue. -/
theorem addCaller_awake {s : System α η} (h : s.Awake) (q : QueueId) (r : Request α) :
    (s.addCaller q r).2.Awake := by
  let t : System α η := { s with callers := s.callers ++ [Caller.mk r (.ready q false)] }
  have ht : t.Awake := by
    refine awake_of_untouched h (fun p d => ⟨rfl, fun e => ?_, fun kind hk => ?_⟩) fun _ => rfl
    · unfold Stands
      rw [List.getElem?_append]
      split_ifs with he
      · exact Iff.rfl
      · rw [List.getElem?_singleton, List.getElem?_eq_none (Nat.le_of_not_lt he)]
        constructor
        · rintro ⟨r', stage, hc, -, hs⟩
          split_ifs at hc
          cases hc
          cases hs
        · rintro ⟨r', stage, hc, -⟩
          cases hc
    · have hnone : kind (.ready q false) = false := tells_eq_false hk rfl
      simp [t, tally, List.countP_append, hnone]
  exact awake_of_untouched ht (fun p d => untouched_schedule t _ p d) fun p =>
    congrArg Queue.goods (queue_addCaller s q r p)

/-- A new queue has nobody waiting. -/
theorem addQueue_awake {s : System α η} (h : s.Awake) (capacity : Nat) :
    (s.addQueue capacity).2.Awake := by
  have hqueue (p : QueueId) (hp : p ≠ s.queues.length) :
      (s.addQueue capacity).2.queue p = s.queue p := by
    simp only [addQueue, queue, List.getD_eq_getElem?_getD, List.getElem?_append]
    split_ifs with hl
    · rfl
    · have hgt := Nat.lt_of_le_of_ne (Nat.le_of_not_lt hl) (Ne.symm hp)
      rw [List.getElem?_singleton, if_neg (by omega), List.getElem?_eq_none (by omega)]
  have hnew : (s.addQueue capacity).2.queue s.queues.length = .new capacity := by
    simp only [addQueue, queue, List.getD_eq_getElem?_getD, List.getElem?_concat_length,
      Option.getD_some]
  have hu (p : QueueId) (d : Side) : Untouched s (s.addQueue capacity).2 p d := by
    refine ⟨?_, fun _ => Iff.rfl, fun _ _ => rfl⟩
    by_cases hp : p = s.queues.length
    · rw [hp, hnew, queue_of_length_le (Nat.le_refl _)]
      cases d <;> rfl
    · rw [hqueue p hp]
  refine ⟨fun p d => (hu p d).lined (h.lined p d), fun p d => ?_⟩
  by_cases hp : p = s.queues.length
  · have hlined := (hu p d).lined (h.lined p d)
    have hline : (((s.addQueue capacity).2.queue p).waiting d).parked = [] := by
      rw [hp, hnew]
      cases d <;> rfl
    rw [Lined, hline] at hlined
    have hzero := hlined.parked_eq_zero
    exact ⟨fun _ => .inl (by rw [hzero]; exact Nat.zero_le _), fun _ _ => hzero⟩
  · exact (hu p d).fair (by rw [hqueue p hp]) (h.fair p d)

/-- A queue starts to refuse. -/
theorem close_awake {s after : System α η} (h : s.Awake) {q : QueueId}
    (hc : s.close q = (.ok (), after)) : after.Awake := by
  obtain ⟨-, -, -, rfl⟩ := of_close hc
  have hu (p : QueueId) (d : Side) : Untouched s (s.modifyQueue q fun x =>
      { x with lifecycle := .destroyed, redirect := none }) p d := by
    refine untouched_modifyQueue s q _ fun _ x => ?_
    cases d <;> rfl
  refine ⟨fun p d => (hu p d).lined (h.lined p d), fun p d => ?_⟩
  by_cases hp : q = p ∧ p < s.queues.length
  · have hqueue : ((s.modifyQueue q fun x =>
        { x with lifecycle := .destroyed, redirect := none }).queue p).lifecycle =
          .destroyed := by
      rw [queue_modifyQueue, if_pos hp]
    constructor
    · intro hs
      rw [hs.1] at hqueue
      cases hqueue
    · intro hl
      rw [hl] at hqueue
      cases hqueue
  · refine (hu p d).fair ?_ (h.fair p d)
    rw [queue_modifyQueue, if_neg hp]

/-- Those who wait at a queue that refuses are woken. -/
theorem wakeAll_awake {s : System α η} (h : s.Awake) {q : QueueId} (side : Side)
    (hq : (s.queue q).lifecycle = .destroyed) : (s.wakeAll q side).Awake := by
  obtain ⟨hlined, hother, -⟩ := wakeAll_lined h.lined q side
  refine ⟨hlined, fun p d => ?_⟩
  have hgoods := goods_wakeAll s q p side
  by_cases hpd : p ≠ q ∨ d ≠ side
  · exact (hother p d hpd).fair hgoods (h.fair p d)
  · push Not at hpd
    obtain ⟨rfl, rfl⟩ := hpd
    have hlife := congrArg (fun g => g.1.lifecycle) hgoods
    have hdestroyed : ((s.wakeAll p d).queue p).lifecycle = .destroyed := hlife.trans hq
    constructor
    · intro hs
      rw [hs.1] at hdestroyed
      cases hdestroyed
    · intro hl
      rw [hl] at hdestroyed
      cases hdestroyed

/-- Once the items of a queue lie in the target, which serves instead of it, consumers of the
target are woken for them, and those of the source so that they follow, so that nobody is left
parked at the source. -/
theorem relocate_awake {s : System α η} (h : s.Awake) {source target : QueueId}
    (hs : source < s.queues.length) (ht : target < s.queues.length) (hn : source ≠ target)
    (hserves : (s.queue target).Serves)
    (hcount : ((s.queue source).waiting .producer).count = 0) {f g : Queue α η → Queue α η}
    (hf : ∀ x d, (f x).waiting d = x.waiting d) (hg : ∀ x d, (g x).waiting d = x.waiting d)
    (hredirect : (f (s.queue target)).redirect = (s.queue target).redirect)
    (hcap : (f (s.queue target)).capacity = (s.queue target).capacity)
    (hlength : (f (s.queue target)).items.length =
      (s.queue target).items.length + (s.queue source).items.length)
    (hsource : ∀ x, (g x).redirect ≠ none) :
    let u := (((s.modifyQueue target f).modifyQueue source g).wakeTimes target .consumer
      (min (s.queue source).items.length ((s.queue target).waiting .consumer).count)).wakeAll
        source .consumer
    u.Awake ∧ ¬ (u.queue source).Serves ∧ ∀ d, u.tally d (Stage.isParked source) = 0 := by
  let t := (s.modifyQueue target f).modifyQueue source g
  have hu (p : QueueId) (d : Side) : Untouched s t p d :=
    (untouched_modifyQueue s target f fun _ x => hf x d).trans
      (untouched_modifyQueue _ source g fun _ x => hg x d)
  have hat : t.queue target = f (s.queue target) := by
    rw [queue_modifyQueue_other _ hn.symm, queue_modifyQueue_self _ ht]
  have hat' : t.queue source = g (s.queue source) := by
    rw [queue_modifyQueue_self, queue_modifyQueue_other _ hn]
    rw [modifyQueue, List.length_modify]
    exact hs
  have hlined (p d) := (hu p d).lined (h.lined p d)
  have hbalanced := ((hu target .consumer).balanced
    ((h.fair target .consumer).balanced hserves)).wakeTimes hlined (s.queue source).items.length
  rw [(hu target .consumer).waiting] at hbalanced
  obtain ⟨hlined₂, hother₂, -⟩ := wakeTimes_lined hlined target .consumer
    (min (s.queue source).items.length ((s.queue target).waiting .consumer).count)
  obtain ⟨hlined₃, hother₃, hzero⟩ := wakeAll_lined hlined₂ source .consumer
  intro u
  have hgoods (p : QueueId) : (u.queue p).goods = (t.queue p).goods := by
    rw [goods_wakeAll, goods_wakeTimes]
  have hproducer : Untouched s u source .producer :=
    ((hu source .producer).trans (hother₂ _ _ (.inl hn))).trans (hother₃ _ _ (by simp))
  have hparked (d : Side) : u.tally d (Stage.isParked source) = 0 := by
    cases d with
    | consumer => exact hzero
    | producer =>
      rw [hproducer.tally _ (tells_isParked source)]
      exact (h.lined source .producer).parked_eq_zero hcount
  have hnot : ¬ (u.queue source).Serves := by
    refine fun hs => absurd hs.2 fun hr => hsource (s.queue source) ?_
    rw [← hat']
    exact (congrArg (fun g => g.1.redirect) (hgoods source)).symm.trans hr
  refine ⟨⟨hlined₃, fun p d => ?_⟩, hnot, hparked⟩
  by_cases hps : p = source
  · subst hps
    exact ⟨fun hs => absurd hs hnot, fun _ _ => hparked d⟩
  · by_cases hpt : p = target
    · subst hpt
      refine fair_of_goods ((hgoods p).trans (congrArg goods hat)) (hredirect.trans hserves.2)
        ?_ ?_ d
      · refine (hother₃ p _ (.inl hps)).balanced ?_
        rw [hlength]
        exact hbalanced
      · have hroom := (h.fair p .producer).balanced hserves
        have hproducer' : Untouched s u p .producer :=
          ((hu p .producer).trans (hother₂ _ _ (by simp))).trans (hother₃ _ _ (by simp))
        refine (hproducer'.balanced hroom).mono ?_
        rw [hcap, hlength, supply]
        omega
    · have hall : Untouched s u p d :=
        ((hu p d).trans (hother₂ _ _ (.inl hpt))).trans (hother₃ _ _ (.inl hps))
      refine hall.fair ?_ (h.fair p d)
      rw [hgoods, queue_modifyQueue_other _ hps, queue_modifyQueue_other _ hpt]

/-- Reporting a crossing wakes nobody and parks nobody. -/
theorem report_awake {s : System α η} {source : QueueId}
    (h : s.Awake ∧ ¬ (s.queue source).Serves ∧ ∀ d, s.tally d (Stage.isParked source) = 0)
    (q : QueueId) (level : Level) (moved : Option (Watermark η)) :
    (s.report q level moved).1.Awake ∧ ¬ ((s.report q level moved).1.queue source).Serves ∧
      ∀ d, (s.report q level moved).1.tally d (Stage.isParked source) = 0 := by
  have hu (p : QueueId) (d : Side) := untouched_report s q level moved p d
  have hg (p : QueueId) := goods_report s q p level moved
  refine ⟨awake_of_untouched h.1 hu hg, ?_, fun d => ?_⟩
  · rw [serves_congr (hg source)]
    exact h.2.1
  · rw [(hu source d).tally _ (tells_isParked source), h.2.2]

/-- A queue is moved into another one. -/
theorem move_awake {s after : System α η} (h : s.Awake) {source target : QueueId}
    {crossing : Option (Crossing η)} (hs : source < s.queues.length)
    (ht : target < s.queues.length) (hm : s.move source target = (.ok (), after, crossing)) :
    after.Awake ∧ ¬ (after.queue source).Serves ∧
      ∀ d, after.tally d (Stage.isParked source) = 0 := by
  obtain ⟨hn, hl, hr, hcount⟩ := moveObstacle_eq_none (moveObstacle_of_move hm)
  have hafter := congrArg Prod.fst (eq_of_move hm)
  dsimp only [spliced] at hafter
  rw [← hafter]
  refine report_awake (relocate_awake h hs ht hn ⟨hl.2, hr.2⟩ hcount ?_ ?_ rfl rfl ?_ ?_) _ _ _
  · intro x d
    cases d <;> rfl
  · intro x d
    cases d <;> rfl
  · exact List.length_append
  · exact fun _ => nofun

/-- Every event keeps all lines in order and wakes enough calls. -/
theorem perform_awake {s : System α η} (h : s.Awake) (hr : s.outline.InRange)
    (hc : s.outline.Cleared) (e : Event α η) : (s.perform e).system.Awake := by
  have hwatermark (q : QueueId) (w : Option (Watermark η)) :
      (s.modifyQueue q fun x => { x with watermark := w }).Awake := by
    refine awake_of_untouched h (fun p d => untouched_modifyQueue s q _ fun _ x => ?_)
      fun p => goods_modifyQueue s q p fun _ => rfl
    cases d <;> rfl
  cases e with
  | addQueue capacity => exact addQueue_awake h capacity
  | call handle r =>
    simp only [perform]
    split_ifs
    · exact addCaller_awake h handle r
    · exact h
  | turn c => exact turn_awake h hr c
  | abandon c => exact abandon_awake h c
  | withdraw c late =>
    simp only [perform]
    split_ifs
    · exact h
    · exact withdraw_awake h hr c late
  | depart c => exact depart_awake h c
  | tryPop handle =>
    simp only [perform, tryPop]
    cases hl : (s.queue (s.serving handle)).lifecycle with
    | destroyed => exact h
    | usable =>
      cases hi : (s.queue (s.serving handle)).items with
      | nil => exact h
      | cons item rest =>
        have hq := lt_length_of_items hi
        have hredirect : (s.queue (s.serving handle)).redirect = none := by
          by_contra hn
          have hempty := hc _ _ (face_of_queue hq) (.inr hn)
          rw [face, hi] at hempty
          cases hempty
        have hs : (s.queue (s.serving handle)).Serves := ⟨hl, hredirect⟩
        refine takeHead_awake h h.lined hq rfl (fun p d _ => .refl s p d) hs hi ?_
          ((h.fair _ .producer).balanced hs)
        refine ((h.fair _ .consumer).balanced hs).mono ?_
        rw [supply, hi]
        exact Nat.le_succ _
  | setThresholds handle high low handler =>
    simp only [perform, quietly]
    rcases hm : s.setThresholds handle high low handler with ⟨e | done, after⟩
    · obtain rfl := setThresholds_error_eq hm
      exact h
    · obtain ⟨-, -, rfl⟩ := of_setThresholds hm
      exact hwatermark _ _
  | clearThresholds handle => exact hwatermark _ _
  | move source target =>
    simp only [perform]
    split_ifs with hq
    · rcases hm : s.move source target with ⟨e | done, after, crossing⟩
      · obtain ⟨rfl, -⟩ := move_error_eq hm
        exact h
      · exact (move_awake h hq.1 hq.2 hm).1
    · exact h
  | close q =>
    simp only [perform, quietly]
    rcases hm : s.close q with ⟨e | done, after⟩
    · obtain rfl := close_error_eq hm
      exact h
    · exact close_awake h hm
  | wakeAll q side =>
    simp only [perform]
    split_ifs with hl
    · exact wakeAll_awake h side hl
    · exact h

end System

end Diameter.Queue
