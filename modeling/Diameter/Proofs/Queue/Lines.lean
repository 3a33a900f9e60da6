import Diameter.Proofs.Queue.Steps

/-!
# Lines and counts

The line at one side of a queue holds the calls that nobody has woken, and those that give
up and have not left it; the count tells how many calls were parked there and have neither
gone on nor begun to give up. Both follow from the stages of the calls, and a wake-up changes
the stage of the call that stands first in line.
-/

namespace Diameter.Queue

variable {α η : Type}

/-! ## What a stage says about a queue -/

/-- The call is parked at the queue and nobody has woken it. -/
def Stage.isParked (q : QueueId) : Stage α → Bool
  | .parked p => p == q
  | _ => false

/-- The call stands in line at the queue. -/
def Stage.isStanding (q : QueueId) : Stage α → Bool
  | .parked p | .leaving p none _ => p == q
  | _ => false

/-- The call is counted at the queue. -/
def Stage.isCounted (q : QueueId) : Stage α → Bool
  | .parked p | .woken p _ => p == q
  | _ => false

/-- The call was woken at the queue and has not looked since. -/
def Stage.isWoken (q : QueueId) : Stage α → Bool
  | .woken p _ | .ready p true | .leaving p (some _) _ => p == q
  | _ => false

/-- The call was woken at the queue, and will look there or pass its wake-up on. -/
def Stage.isRecalled (q : QueueId) : Stage α → Bool
  | .woken p .one | .ready p true | .leaving p (some .one) _ => p == q
  | _ => false

/-- The call was woken at the queue, gives up, and will pass its wake-up on. -/
def Stage.isPassing (q : QueueId) : Stage α → Bool
  | .leaving p (some .one) _ => p == q
  | _ => false

/-- Who is parked stands in line. -/
theorem Stage.isStanding_of_isParked {q : QueueId} {stage : Stage α}
    (h : stage.isParked q = true) : stage.isStanding q = true := by
  cases stage with
  | parked p => exact h
  | _ => cases h

/-- Who is parked is counted. -/
theorem Stage.isCounted_of_isParked {q : QueueId} {stage : Stage α}
    (h : stage.isParked q = true) : stage.isCounted q = true := by
  cases stage with
  | parked p => exact h
  | _ => cases h

/-- The queue at which a call is parked, was woken or gives up. -/
def Stage.place? : Stage α → Option QueueId
  | .ready q true | .parked q | .woken q _ | .leaving q _ _ => some q
  | _ => none

/-- The kind of stage tells only of calls that are parked, were woken or give up at the
queue. -/
def Tells (q : QueueId) (kind : Stage α → Bool) : Prop :=
  ∀ stage, kind stage = true → stage.place? = some q

theorem tells_isParked (q : QueueId) : Tells (α := α) q (Stage.isParked q) := by
  rintro (⟨p, _ | _⟩ | p | p | ⟨p, _ | _, late⟩ | p | _) h <;>
    simp_all [Stage.isParked, Stage.place?]

theorem tells_isStanding (q : QueueId) : Tells (α := α) q (Stage.isStanding q) := by
  rintro (⟨p, _ | _⟩ | p | p | ⟨p, _ | _, late⟩ | p | _) h <;>
    simp_all [Stage.isStanding, Stage.place?]

theorem tells_isCounted (q : QueueId) : Tells (α := α) q (Stage.isCounted q) := by
  rintro (⟨p, _ | _⟩ | p | p | ⟨p, _ | _, late⟩ | p | _) h <;>
    simp_all [Stage.isCounted, Stage.place?]

theorem tells_isRecalled (q : QueueId) : Tells (α := α) q (Stage.isRecalled q) := by
  rintro (⟨p, _ | _⟩ | p | ⟨p, _ | _⟩ | ⟨p, _ | _ | _, late⟩ | p | _) h <;>
    simp_all [Stage.isRecalled, Stage.place?]

theorem tells_isPassing (q : QueueId) : Tells (α := α) q (Stage.isPassing q) := by
  rintro (⟨p, _ | _⟩ | p | p | ⟨p, _ | _ | _, late⟩ | p | _) h <;>
    simp_all [Stage.isPassing, Stage.place?]

/-- A kind of stage does not tell of a call that is nowhere. -/
theorem tells_eq_false {q : QueueId} {kind : Stage α → Bool} (hk : Tells q kind)
    {stage : Stage α} (hs : stage.place? = none) : kind stage = false := by
  refine Bool.eq_false_iff.mpr fun ht => ?_
  have hplace := hk _ ht
  rw [hs] at hplace
  cases hplace

/-- What a wake-up makes of a call that stands in line at the queue: it is out of the line
and counted as before, and will look there, or pass the wake-up on if it gives up. -/
structure Stage.Wakes (q : QueueId) (cause : WokenBy) (stage : Stage α) : Prop where
  standing : (stage.wake cause).isStanding q = false
  counted : (stage.wake cause).isCounted q = stage.isCounted q
  place : stage.place? = some q
  place' : (stage.wake cause).place? = some q
  parked : (stage.wake cause).isParked q = false
  notRecalled : stage.isRecalled q = false
  recalled : (stage.wake .one).isRecalled q = true
  notPassing : stage.isPassing q = false
  passing : (stage.wake .one).isPassing q = !stage.isParked q

/-- A wake-up reaches a call that stands in the line. -/
theorem Stage.wake_of_isStanding {q : QueueId} {stage : Stage α} (h : stage.isStanding q = true)
    (cause : WokenBy) : stage.Wakes q cause := by
  cases stage with
  | parked p =>
    obtain rfl : p = q := by simpa [isStanding] using h
    constructor <;> simp [wake, isStanding, isCounted, place?, isRecalled, isPassing, isParked]
  | leaving p held late =>
    cases held with
    | none =>
      obtain rfl : p = q := by simpa [isStanding] using h
      constructor <;> simp [wake, isStanding, isCounted, place?, isRecalled, isPassing, isParked]
    | some held => cases h
  | _ => cases h

namespace System

/-- How many calls of one side are at a stage of some kind. -/
def tally (s : System α η) (side : Side) (kind : Stage α → Bool) : Nat :=
  s.callers.countP fun c => decide (c.request.side = side) && kind c.stage

/-- The call stands in line at one side of a queue. -/
def Stands (s : System α η) (q : QueueId) (side : Side) (c : CallerId) : Prop :=
  ∃ r stage, s.callers[c]? = some ⟨r, stage⟩ ∧ r.side = side ∧ stage.isStanding q

/-- The given line and the count at one side of a queue are what the stages of the calls
say. -/
structure LinedBy (s : System α η) (q : QueueId) (side : Side) (line : List CallerId) : Prop where
  /-- Nobody stands in line twice. -/
  nodup : line.Nodup
  /-- Those who stand in line are in the line. -/
  mem_iff : ∀ c, c ∈ line ↔ s.Stands q side c
  /-- Those who are counted are in the count. -/
  count_eq : ((s.queue q).waiting side).count = s.tally side (Stage.isCounted q)

/-- The line and the count at one side of a queue are what the stages of the calls say. -/
def Lined (s : System α η) (q : QueueId) (side : Side) : Prop :=
  s.LinedBy q side ((s.queue q).waiting side).parked

/-- Nothing that has to do with one side of a queue has changed. -/
structure Untouched (s s' : System α η) (q : QueueId) (side : Side) : Prop where
  /-- The line and the count are the same. -/
  waiting : (s'.queue q).waiting side = (s.queue q).waiting side
  /-- The same calls stand in line. -/
  stands : ∀ c, s'.Stands q side c ↔ s.Stands q side c
  /-- As many calls are parked, were woken or give up. -/
  tally : ∀ kind, Tells q kind → s'.tally side kind = s.tally side kind

theorem Untouched.refl (s : System α η) (q : QueueId) (side : Side) : Untouched s s q side :=
  ⟨rfl, fun _ => Iff.rfl, fun _ _ => rfl⟩

theorem Untouched.trans {s s' s'' : System α η} {q : QueueId} {side : Side}
    (h : Untouched s s' q side) (h' : Untouched s' s'' q side) : Untouched s s'' q side where
  waiting := h'.waiting.trans h.waiting
  stands c := (h'.stands c).trans (h.stands c)
  tally kind hk := (h'.tally kind hk).trans (h.tally kind hk)

/-- A line that nothing has touched is in order if it was. -/
theorem Untouched.linedBy {s s' : System α η} {q : QueueId} {side : Side}
    {line : List CallerId} (h : Untouched s s' q side) (hl : s.LinedBy q side line) :
    s'.LinedBy q side line where
  nodup := hl.nodup
  mem_iff c := (hl.mem_iff c).trans (h.stands c).symm
  count_eq := by rw [h.waiting, h.tally _ (tells_isCounted q), hl.count_eq]

/-- A line that is untouched stays in order. -/
theorem Untouched.lined {s s' : System α η} {q : QueueId} {side : Side}
    (h : Untouched s s' q side) (hl : s.Lined q side) : s'.Lined q side := by
  rw [Lined, h.waiting]
  exact h.linedBy hl

/-! ## Counting calls -/

/-- Writing an entry moves the count by what was there and what is there now. -/
theorem countP_set_add {β : Type} {l : List β} {i : Nat} {x : β} (p : β → Bool) (y : β)
    (h : l[i]? = some x) : (l.set i y).countP p + (p x).toNat = l.countP p + (p y).toNat := by
  obtain ⟨hi, rfl⟩ := List.getElem?_eq_some_iff.mp h
  have hle := List.boole_getElem_le_countP (p := p) hi
  rw [List.countP_set hi]
  cases hx : p l[i] with
  | false => cases hy : p y <;> simp
  | true =>
    rw [if_pos hx] at hle
    cases hy : p y <;> simp <;> omega

/-- Changing the stage of a call changes no other call. -/
theorem callers_modifyStage (s : System α η) {c : CallerId} {r : Request α} {stage : Stage α}
    (f : Stage α → Stage α) (h : s.callers[c]? = some ⟨r, stage⟩) :
    (s.modifyStage c f).callers = s.callers.set c ⟨r, f stage⟩ :=
  modify_eq_set_of_getElem? _ h

theorem callers_setStage {s : System α η} {c : CallerId} {r : Request α} {stage stage' : Stage α}
    (hc : s.callers[c]? = some ⟨r, stage⟩) :
    (s.setStage c stage').callers[c]? = some ⟨r, stage'⟩ := by
  rw [setStage, callers_modifyStage s _ hc]
  exact List.getElem?_set_self (List.getElem?_eq_some_iff.mp hc).1

theorem setStage_setStage (s : System α η) (c : CallerId) (stage stage' : Stage α) :
    (s.setStage c stage).setStage c stage' = s.setStage c stage' := by
  simp only [setStage, modifyStage, List.modify_modify_eq, Function.comp_def]

/-- The tally of its own side after a call has changed its stage. -/
theorem tally_modifyStage (s : System α η) {c : CallerId} {r : Request α} {stage : Stage α}
    (f : Stage α → Stage α) (kind : Stage α → Bool) (h : s.callers[c]? = some ⟨r, stage⟩) :
    (s.modifyStage c f).tally r.side kind + (kind stage).toNat =
      s.tally r.side kind + (kind (f stage)).toNat := by
  have hc := countP_set_add (fun c => decide (c.request.side = r.side) && kind c.stage)
    ⟨r, f stage⟩ h
  simp only [decide_true, Bool.true_and] at hc
  rw [tally, tally, callers_modifyStage s f h, hc]

/-- The tally of another side, or of a kind that tells neither stage, stays as it is. -/
theorem tally_modifyStage_other (s : System α η) {c : CallerId} {r : Request α}
    {stage : Stage α} (f : Stage α → Stage α) {side : Side} {kind : Stage α → Bool}
    (h : s.callers[c]? = some ⟨r, stage⟩)
    (hk : r.side = side → kind (f stage) = kind stage) :
    (s.modifyStage c f).tally side kind = s.tally side kind := by
  have hc := countP_set_add (fun c => decide (c.request.side = side) && kind c.stage)
    ⟨r, f stage⟩ h
  have hsame : (decide (r.side = side) && kind (f stage)) =
      (decide (r.side = side) && kind stage) := by
    by_cases hs : r.side = side
    · rw [hk hs]
    · simp [hs]
  simp only [hsame] at hc
  rw [tally, tally, callers_modifyStage s f h]
  omega

/-- Who stands in line after a call has changed its stage. -/
theorem stands_modifyStage (s : System α η) {c : CallerId} {r : Request α} {stage : Stage α}
    (f : Stage α → Stage α) (h : s.callers[c]? = some ⟨r, stage⟩) (q : QueueId) (side : Side)
    (d : CallerId) : (s.modifyStage c f).Stands q side d ↔
      if c = d then r.side = side ∧ (f stage).isStanding q else s.Stands q side d := by
  have hl := (List.getElem?_eq_some_iff.mp h).1
  unfold Stands
  rw [callers_modifyStage s f h, List.getElem?_set, if_pos hl]
  split_ifs with hd
  · simp
  · exact Iff.rfl

/-! ## What does not touch a line -/

/-- The change of a call touches no line of which it is not part. -/
theorem untouched_modifyStage (s : System α η) {c : CallerId} {r : Request α} {stage : Stage α}
    (f : Stage α → Stage α) (h : s.callers[c]? = some ⟨r, stage⟩) {q : QueueId} {side : Side}
    (hp : r.side = side → stage.place? ≠ some q ∧ (f stage).place? ≠ some q) :
    Untouched s (s.modifyStage c f) q side := by
  have hkind {kind : Stage α → Bool} (hk : Tells q kind) (hs : r.side = side) :
      kind (f stage) = false ∧ kind stage = false := by
    have hn := hp hs
    constructor
    · exact Bool.eq_false_iff.mpr fun ht => hn.2 (hk _ ht)
    · exact Bool.eq_false_iff.mpr fun ht => hn.1 (hk _ ht)
  refine ⟨rfl, fun d => ?_, fun kind hk => ?_⟩
  · rw [stands_modifyStage s f h]
    split_ifs with hd
    · subst hd
      constructor
      · rintro ⟨hs, ht⟩
        rw [(hkind (tells_isStanding q) hs).1] at ht
        cases ht
      · rintro ⟨r', stage', hc, hs, ht⟩
        rw [h] at hc
        cases hc
        rw [(hkind (tells_isStanding q) hs).2] at ht
        cases ht
    · exact Iff.rfl
  · refine tally_modifyStage_other s f h fun hs => ?_
    rw [(hkind hk hs).1, (hkind hk hs).2]

/-- A queue is changed if it is the one that is meant and exists. -/
theorem queue_modifyQueue (s : System α η) (q p : QueueId) (f : Queue α η → Queue α η) :
    (s.modifyQueue q f).queue p =
      if q = p ∧ p < s.queues.length then f (s.queue p) else s.queue p := by
  simp only [modifyQueue, queue, List.getD_eq_getElem?_getD, List.getElem?_modify]
  by_cases hq : q = p
  · by_cases hp : p < s.queues.length
    · simp [hq, hp]
    · simp [hq, hp]
  · simp [hq]

/-- A change of a queue touches no line that it leaves. -/
theorem untouched_modifyQueue (s : System α η) (q : QueueId) (f : Queue α η → Queue α η)
    {p : QueueId} {side : Side} (h : q = p → ∀ x, (f x).waiting side = x.waiting side) :
    Untouched s (s.modifyQueue q f) p side := by
  refine ⟨?_, fun _ => Iff.rfl, fun _ _ => rfl⟩
  rw [queue_modifyQueue]
  split_ifs with hp
  · exact h hp.1 _
  · rfl

theorem untouched_schedule (s : System α η) (c : CallerId) (q : QueueId) (side : Side) :
    Untouched s (s.schedule c) q side := by
  unfold schedule
  split
  · exact .refl ..
  · exact ⟨rfl, fun _ => Iff.rfl, fun _ _ => rfl⟩

/-! ## Wake-ups -/

/-- What a wake-up makes of the tallies of its side: somebody parked was woken, or somebody
who gives up has to pass the wake-up on. -/
def Woke (s s' : System α η) (q : QueueId) (side : Side) : Prop :=
  s'.tally side (Stage.isRecalled q) = s.tally side (Stage.isRecalled q) + 1 ∧
    (s'.tally side (Stage.isParked q) + 1 = s.tally side (Stage.isParked q) ∧
        s'.tally side (Stage.isPassing q) = s.tally side (Stage.isPassing q) ∨
      s'.tally side (Stage.isParked q) = s.tally side (Stage.isParked q) ∧
        s'.tally side (Stage.isPassing q) = s.tally side (Stage.isPassing q) + 1)

/-- Who stands first is woken, and the rest stands in line. -/
theorem LinedBy.wake {s : System α η} {q : QueueId} {side : Side} {c : CallerId}
    {line : List CallerId} (h : s.LinedBy q side (c :: line)) (cause : WokenBy) :
    (s.wake cause c).LinedBy q side line ∧ (cause = .one → Woke s (s.wake cause c) q side) ∧
      ∀ p d, (p ≠ q ∨ d ≠ side) → Untouched s (s.wake cause c) p d := by
  obtain ⟨r, stage, hc, rfl, hst⟩ := (h.mem_iff c).mp List.mem_cons_self
  obtain ⟨hnot, hnd⟩ := List.nodup_cons.mp h.nodup
  have hsched := untouched_schedule (s.modifyStage c (.wake cause)) c
  have htally := tally_modifyStage s (.wake cause) (h := hc)
  have hkinds := Stage.wake_of_isStanding hst cause
  refine ⟨(hsched q r.side).linedBy ⟨hnd, fun d => ?_, ?_⟩, ?_, fun p d hpd => ?_⟩
  · rw [stands_modifyStage s _ hc, hkinds.standing]
    by_cases hd : c = d
    · subst hd
      simp [hnot]
    · have hm := h.mem_iff d
      rw [List.mem_cons] at hm
      simpa [hd, Ne.symm hd] using hm
  · have hcount := htally (Stage.isCounted q)
    rw [hkinds.counted] at hcount
    exact h.count_eq.trans (by omega)
  · rintro rfl
    have hparked := htally (Stage.isParked q)
    have hrecalled := htally (Stage.isRecalled q)
    have hpassing := htally (Stage.isPassing q)
    rw [hkinds.parked] at hparked
    rw [hkinds.notRecalled, hkinds.recalled] at hrecalled
    rw [hkinds.notPassing, hkinds.passing] at hpassing
    unfold Woke System.wake
    rw [(hsched q r.side).tally _ (tells_isParked q),
      (hsched q r.side).tally _ (tells_isRecalled q),
      (hsched q r.side).tally _ (tells_isPassing q)]
    rw [Bool.toNat_false, Bool.toNat_true] at hrecalled
    cases hp : stage.isParked q with
    | true =>
      rw [hp] at hparked hpassing
      simp only [Bool.toNat_false, Bool.toNat_true, Bool.not_true] at hparked hpassing
      omega
    | false =>
      rw [hp] at hparked hpassing
      simp only [Bool.toNat_false, Bool.toNat_true, Bool.not_false] at hparked hpassing
      omega
  · refine .trans (untouched_modifyStage s _ hc fun hs => ?_) (hsched p d)
    have hp := hpd.resolve_right (not_not.mpr hs.symm)
    rw [hkinds.place, hkinds.place']
    simp [Ne.symm hp]

/-- Nobody is parked where nobody stands in line. -/
theorem LinedBy.parked_eq_zero {s : System α η} {q : QueueId} {side : Side}
    (h : s.LinedBy q side []) : s.tally side (Stage.isParked q) = 0 := by
  refine List.countP_eq_zero.mpr fun caller hm hp => ?_
  obtain ⟨c, hc⟩ := List.mem_iff_getElem?.mp hm
  simp only [Bool.and_eq_true, decide_eq_true_eq] at hp
  have hst := Stage.isStanding_of_isParked hp.2
  exact absurd ((h.mem_iff c).mpr ⟨_, _, hc, hp.1, hst⟩) List.not_mem_nil

/-- The lines after one line was changed. -/
theorem waiting_modifyWaiting (s : System α η) (q p : QueueId) (side d : Side)
    (f : Waiting → Waiting) : ((s.modifyWaiting q side f).queue p).waiting d =
      if (q = p ∧ p < s.queues.length) ∧ d = side then f ((s.queue p).waiting d)
      else (s.queue p).waiting d := by
  rw [modifyWaiting, queue_modifyQueue]
  by_cases hq : q = p ∧ p < s.queues.length
  · rw [if_pos hq]
    cases side <;> cases d <;> simp [hq, waiting, setWaiting]
  · rw [if_neg hq, if_neg fun h => hq h.1]

/-- A change of one line touches no other. -/
theorem untouched_modifyWaiting (s : System α η) (q : QueueId) (side : Side)
    (f : Waiting → Waiting) {p : QueueId} {d : Side} (h : p ≠ q ∨ d ≠ side) :
    Untouched s (s.modifyWaiting q side f) p d := by
  refine ⟨?_, fun _ => Iff.rfl, fun _ _ => rfl⟩
  rw [waiting_modifyWaiting, if_neg]
  rintro ⟨⟨rfl, -⟩, rfl⟩
  exact h.elim (absurd rfl) (absurd rfl)

/-- A line whose count stays is in order. -/
theorem LinedBy.modifyWaiting {s : System α η} {q : QueueId} {side : Side}
    {line : List CallerId} (h : s.LinedBy q side line) {f : Waiting → Waiting}
    (hf : ∀ w, (f w).count = w.count) : (s.modifyWaiting q side f).LinedBy q side line where
  nodup := h.nodup
  mem_iff := h.mem_iff
  count_eq := by
    rw [waiting_modifyWaiting]
    split_ifs
    · rw [hf]
      exact h.count_eq
    · exact h.count_eq

theorem queue_wake (s : System α η) (cause : WokenBy) (c : CallerId) (q : QueueId) :
    (s.wake cause c).queue q = s.queue q := by
  unfold System.wake schedule
  split <;> rfl

/-- Waking changes calls and not queues. -/
theorem queue_wakeEach (s : System α η) (cause : WokenBy) (line : List CallerId) (q : QueueId) :
    (line.foldl (fun s c => s.wake cause c) s).queue q = s.queue q := by
  induction line generalizing s with
  | nil => rfl
  | cons c line ih => rw [List.foldl_cons, ih, queue_wake]

/-- A queue at which somebody stands in line exists. -/
theorem lt_length_of_line {s : System α η} {q : QueueId} {side : Side} {c : CallerId}
    {line : List CallerId} (h : ((s.queue q).waiting side).parked = c :: line) :
    q < s.queues.length := by
  by_contra hn
  rw [queue_of_length_le (Nat.le_of_not_lt hn)] at h
  cases side <;> cases h

/-- Who is woken is still counted. -/
theorem count_wakeOne (w : Waiting) : w.wakeOne.2.count = w.count := by
  unfold Waiting.wakeOne
  split <;> rfl

/-- Waking one call keeps every line in order. Nobody was parked, or somebody is woken. -/
theorem wakeOne_lined {s : System α η} (h : ∀ p d, s.Lined p d) (q : QueueId) (side : Side) :
    (∀ p d, (s.wakeOne q side).Lined p d) ∧
      (∀ p d, (p ≠ q ∨ d ≠ side) → Untouched s (s.wakeOne q side) p d) ∧
      ((s.tally side (Stage.isParked q) = 0 ∧
          ∀ d kind, (s.wakeOne q side).tally d kind = s.tally d kind) ∨
        Woke s (s.wakeOne q side) q side) := by
  have hq := h q side
  have hother (p : QueueId) (d : Side) := untouched_modifyWaiting (p := p) (d := d) s q side
    (fun w => w.wakeOne.2)
  rw [Lined] at hq
  cases hline : ((s.queue q).waiting side).parked with
  | nil =>
    have hw : s.wakeOne q side = s.modifyWaiting q side fun w => w.wakeOne.2 := by
      simp only [wakeOne, Waiting.wakeOne, hline]
    rw [hw]
    rw [hline] at hq
    refine ⟨fun p d => ?_, hother, .inl ⟨hq.parked_eq_zero, fun _ _ => rfl⟩⟩
    by_cases hpd : p ≠ q ∨ d ≠ side
    · exact (hother p d hpd).lined (h p d)
    · push Not at hpd
      obtain ⟨rfl, rfl⟩ := hpd
      have hempty : (((s.modifyWaiting p d fun w => w.wakeOne.2).queue p).waiting d).parked =
          [] := by
        rw [waiting_modifyWaiting]
        split_ifs
        · simp only [Waiting.wakeOne, hline]
        · exact hline
      rw [Lined, hempty]
      exact hq.modifyWaiting count_wakeOne
  | cons c line =>
    have hw : s.wakeOne q side = (s.modifyWaiting q side fun w => w.wakeOne.2).wake .one c := by
      simp only [wakeOne, Waiting.wakeOne, hline]
    rw [hw]
    rw [hline] at hq
    obtain ⟨hlined, hwoke, htouch⟩ := (hq.modifyWaiting count_wakeOne).wake .one
    have hall (p d) (hpd : p ≠ q ∨ d ≠ side) := (hother p d hpd).trans (htouch p d hpd)
    refine ⟨fun p d => ?_, hall, .inr (hwoke rfl)⟩
    by_cases hpd : p ≠ q ∨ d ≠ side
    · exact (hall p d hpd).lined (h p d)
    · push Not at hpd
      obtain ⟨rfl, rfl⟩ := hpd
      have hrest : (((s.modifyWaiting p d fun w => w.wakeOne.2).queue p).waiting d).parked =
          line := by
        rw [waiting_modifyWaiting, if_pos ⟨⟨rfl, lt_length_of_line hline⟩, rfl⟩]
        simp only [Waiting.wakeOne, hline]
      rw [Lined, queue_wake, hrest]
      exact hlined

/-- Waking calls one at a time keeps every line in order. Nobody is left parked, or as many
are woken, of whom some may have to pass their wake-up on. -/
theorem wakeTimes_lined {s : System α η} (h : ∀ p d, s.Lined p d) (q : QueueId) (side : Side)
    (n : Nat) :
    (∀ p d, (s.wakeTimes q side n).Lined p d) ∧
      (∀ p d, (p ≠ q ∨ d ≠ side) → Untouched s (s.wakeTimes q side n) p d) ∧
      (s.wakeTimes q side n).tally side (Stage.isParked q) ≤ s.tally side (Stage.isParked q) ∧
      ((s.wakeTimes q side n).tally side (Stage.isParked q) = 0 ∨
        (s.wakeTimes q side n).tally side (Stage.isRecalled q) =
            s.tally side (Stage.isRecalled q) + n ∧
          (s.wakeTimes q side n).tally side (Stage.isParked q) + n +
              s.tally side (Stage.isPassing q) =
            s.tally side (Stage.isParked q) +
              (s.wakeTimes q side n).tally side (Stage.isPassing q)) := by
  induction n generalizing s with
  | zero => exact ⟨h, fun p d _ => .refl s p d, Nat.le_refl _, .inr ⟨rfl, rfl⟩⟩
  | succ n ih =>
    obtain ⟨hlined, hother, hwoke⟩ := wakeOne_lined h q side
    obtain ⟨hlined', hother', hle, hafter⟩ := ih hlined
    rw [wakeTimes]
    refine ⟨hlined', fun p d hpd => (hother p d hpd).trans (hother' p d hpd), ?_⟩
    rcases hwoke with ⟨hzero, hsame⟩ | ⟨hrecalled, hparked⟩
    · rw [hsame, hzero] at hle
      omega
    · omega

/-- Everybody in line is woken, one after the other. -/
theorem LinedBy.wakeEach {s : System α η} {q : QueueId} {side : Side} {line : List CallerId}
    (h : s.LinedBy q side line) (cause : WokenBy) :
    (line.foldl (fun s c => s.wake cause c) s).LinedBy q side [] ∧
      ∀ p d, (p ≠ q ∨ d ≠ side) →
        Untouched s (line.foldl (fun s c => s.wake cause c) s) p d := by
  induction line generalizing s with
  | nil => exact ⟨h, fun p d _ => .refl s p d⟩
  | cons c line ih =>
    obtain ⟨hline, -, hother⟩ := h.wake cause
    obtain ⟨hline', hother'⟩ := ih hline
    exact ⟨hline', fun p d hpd => (hother p d hpd).trans (hother' p d hpd)⟩

/-- Waking everybody keeps every line in order and leaves nobody parked. -/
theorem wakeAll_lined {s : System α η} (h : ∀ p d, s.Lined p d) (q : QueueId) (side : Side) :
    (∀ p d, (s.wakeAll q side).Lined p d) ∧
      (∀ p d, (p ≠ q ∨ d ≠ side) → Untouched s (s.wakeAll q side) p d) ∧
      (s.wakeAll q side).tally side (Stage.isParked q) = 0 := by
  have hq := h q side
  rw [Lined] at hq
  have hcount (w : Waiting) : w.wakeAll.2.count = w.count := rfl
  have hother (p : QueueId) (d : Side) := untouched_modifyWaiting (p := p) (d := d) s q side
    (fun w => w.wakeAll.2)
  obtain ⟨hline, hother'⟩ := (hq.modifyWaiting hcount).wakeEach .all
  have hall (p d) (hpd : p ≠ q ∨ d ≠ side) := (hother p d hpd).trans (hother' p d hpd)
  refine ⟨fun p d => ?_, hall, hline.parked_eq_zero⟩
  by_cases hpd : p ≠ q ∨ d ≠ side
  · exact (hall p d hpd).lined (h p d)
  · push Not at hpd
    obtain ⟨rfl, rfl⟩ := hpd
    have hempty : (((s.wakeAll p d).queue p).waiting d).parked = [] := by
      rw [wakeAll, Waiting.wakeAll, queue_wakeEach, waiting_modifyWaiting]
      split_ifs with hp
      · rfl
      · by_contra hne
        obtain ⟨c, line, hc⟩ := List.exists_cons_of_ne_nil hne
        exact hp ⟨⟨rfl, lt_length_of_line hc⟩, rfl⟩
    rw [Lined, hempty]
    exact hline

/-! ## Calls that change their stage -/

/-- A call goes to a stage that says of lines and counts what its stage said. -/
theorem setStage_lined {s : System α η} (h : ∀ p d, s.Lined p d) {c : CallerId} {r : Request α}
    {stage new : Stage α} (hc : s.callers[c]? = some ⟨r, stage⟩)
    (hstands : ∀ p, new.isStanding p = stage.isStanding p)
    (hcounts : ∀ p, new.isCounted p = stage.isCounted p) (p : QueueId) (d : Side) :
    (s.setStage c new).Lined p d := by
  have hp := h p d
  refine ⟨hp.nodup, fun e => ?_, ?_⟩
  · refine (hp.mem_iff e).trans ?_
    rw [setStage, stands_modifyStage s _ hc]
    split_ifs with he
    · subst he
      rw [Stands, hstands, hc]
      simp
    · exact Iff.rfl
  · rw [setStage, tally_modifyStage_other s _ hc fun _ => hcounts p]
    exact hp.count_eq

/-- A call changes its stage at a queue together with the line and the count there. -/
theorem restage_lined {s : System α η} (h : ∀ p d, s.Lined p d) {c : CallerId} {r : Request α}
    {stage new : Stage α} (hc : s.callers[c]? = some ⟨r, stage⟩) {q : QueueId}
    (hq : q < s.queues.length) {f : Waiting → Waiting}
    (hplace : ∀ p, p ≠ q → stage.place? ≠ some p ∧ new.place? ≠ some p)
    (hnodup : (f ((s.queue q).waiting r.side)).parked.Nodup)
    (hmem : ∀ e, e ∈ (f ((s.queue q).waiting r.side)).parked ↔
      if c = e then new.isStanding q = true else e ∈ ((s.queue q).waiting r.side).parked)
    (hcount : (f ((s.queue q).waiting r.side)).count + (stage.isCounted q).toNat =
      ((s.queue q).waiting r.side).count + (new.isCounted q).toNat) :
    (∀ p d, ((s.modifyWaiting q r.side f).setStage c new).Lined p d) ∧
      ∀ p d, (p ≠ q ∨ d ≠ r.side) →
        Untouched s ((s.modifyWaiting q r.side f).setStage c new) p d := by
  have hc' : (s.modifyWaiting q r.side f).callers[c]? = some ⟨r, stage⟩ := hc
  have hother (p d) (hpd : p ≠ q ∨ d ≠ r.side) :
      Untouched s ((s.modifyWaiting q r.side f).setStage c new) p d := by
    refine (untouched_modifyWaiting s q r.side f hpd).trans
      (untouched_modifyStage _ _ hc' fun hs => hplace p ?_)
    exact hpd.resolve_right (not_not.mpr hs.symm)
  refine ⟨fun p d => ?_, hother⟩
  by_cases hpd : p ≠ q ∨ d ≠ r.side
  · exact (hother p d hpd).lined (h p d)
  · push Not at hpd
    obtain ⟨rfl, rfl⟩ := hpd
    have hp := h p r.side
    have hwait : (((s.modifyWaiting p r.side f).setStage c new).queue p).waiting r.side =
        f ((s.queue p).waiting r.side) := by
      have hw := waiting_modifyWaiting s p p r.side r.side f
      rwa [if_pos ⟨⟨rfl, hq⟩, rfl⟩] at hw
    refine ⟨?_, fun e => ?_, ?_⟩
    · rw [hwait]
      exact hnodup
    · rw [hwait, hmem, setStage, stands_modifyStage _ _ hc']
      split_ifs with he
      · simp
      · exact hp.mem_iff e
    · have ht := tally_modifyStage _ (fun _ => new) (Stage.isCounted p) hc'
      have hsame : (s.modifyWaiting p r.side f).tally r.side (Stage.isCounted p) =
          s.tally r.side (Stage.isCounted p) := rfl
      rw [hwait, setStage]
      have hp' := hp.count_eq
      omega

/-- A call that has to wait joins the line, or takes the permit. -/
theorem suspend_lined {s : System α η} (h : ∀ p d, s.Lined p d) {c : CallerId} {r : Request α}
    {q : QueueId} {recalled : Bool} (hc : s.callers[c]? = some ⟨r, .ready q recalled⟩)
    (hq : q < s.queues.length) :
    (∀ p d, (s.suspend q r.side c).Lined p d) ∧
      ∀ p d, (p ≠ q ∨ d ≠ r.side) → Untouched s (s.suspend q r.side c) p d := by
  have hl := h q r.side
  have hnot : c ∉ ((s.queue q).waiting r.side).parked := by
    rw [hl.mem_iff]
    rintro ⟨r', stage, hc', -, hs⟩
    rw [hc] at hc'
    cases hc'
    cases hs
  have hfree (p : QueueId) (hp : p ≠ q) : (Stage.ready q recalled : Stage α).place? ≠ some p := by
    cases recalled <;> simp [Stage.place?, Ne.symm hp]
  unfold suspend
  split_ifs
  · refine restage_lined h hc hq (fun p hp => ⟨hfree p hp, ?_⟩) hl.nodup (fun e => ?_) ?_
    · simp [Stage.place?, Ne.symm hp]
    · split_ifs with he
      · subst he
        simpa [Stage.isStanding, Waiting.takePermit] using hnot
      · exact Iff.rfl
    · simp [Waiting.takePermit, Stage.isCounted]
  · refine restage_lined h hc hq (fun p hp => ⟨hfree p hp, ?_⟩) ?_ (fun e => ?_) ?_
    · simp [Stage.place?, Ne.symm hp]
    · exact List.nodup_append.mpr ⟨hl.nodup, by simp, fun e he d hd hed =>
        hnot (List.mem_singleton.mp hd ▸ hed ▸ he)⟩
    · split_ifs with he
      · simp [Waiting.park, Stage.isStanding, he]
      · simp [Waiting.park, Ne.symm he]
    · simp [Waiting.park, Stage.isCounted]

/-- A counted call leaves the count, and stands in line as before. -/
theorem uncount_lined {s : System α η} (h : ∀ p d, s.Lined p d) {c : CallerId} {r : Request α}
    {stage new : Stage α} (hc : s.callers[c]? = some ⟨r, stage⟩) {q : QueueId}
    (hq : q < s.queues.length) (hcounted : stage.isCounted q = true)
    (hfree : new.isCounted q = false) (hstands : new.isStanding q = stage.isStanding q)
    (hplace : new.place? = some q) :
    (∀ p d, ((s.modifyWaiting q r.side (·.resume)).setStage c new).Lined p d) ∧
      ∀ p d, (p ≠ q ∨ d ≠ r.side) →
        Untouched s ((s.modifyWaiting q r.side (·.resume)).setStage c new) p d := by
  have hl := h q r.side
  refine restage_lined h hc hq (fun p hp => ?_) hl.nodup (fun e => ?_) ?_
  · rw [tells_isCounted q _ hcounted, hplace]
    simp [Ne.symm hp]
  · split_ifs with he
    · subst he
      refine (hl.mem_iff c).trans ?_
      rw [Stands, hc, hstands]
      simp
    · exact Iff.rfl
  · have hone := hl.count_eq
    have hpos : 0 < s.tally r.side (Stage.isCounted q) := by
      refine List.countP_pos_iff.mpr ⟨_, List.mem_of_getElem? hc, ?_⟩
      simp [hcounted]
    rw [hcounted, hfree]
    simp only [Waiting.resume, Bool.toNat_true, Bool.toNat_false]
    omega

/-- A call that gives up leaves the line. -/
theorem leave_lined {s : System α η} (h : ∀ p d, s.Lined p d) {c : CallerId} {r : Request α}
    {q : QueueId} {late : Bool} {new : Stage α}
    (hc : s.callers[c]? = some ⟨r, .leaving q none late⟩) (hnew : new.place? = none) :
    (∀ p d, ((s.modifyWaiting q r.side (·.leave c)).setStage c new).Lined p d) ∧
      ∀ p d, (p ≠ q ∨ d ≠ r.side) →
        Untouched s ((s.modifyWaiting q r.side (·.leave c)).setStage c new) p d := by
  have hl := h q r.side
  have hmem : c ∈ ((s.queue q).waiting r.side).parked :=
    (hl.mem_iff c).mpr ⟨r, _, hc, rfl, by simp [Stage.isStanding]⟩
  have hq : q < s.queues.length := by
    obtain ⟨e, line, hline⟩ := List.exists_cons_of_ne_nil (List.ne_nil_of_mem hmem)
    exact lt_length_of_line hline
  refine restage_lined h hc hq (fun p hp => ?_) (hl.nodup.filter _) (fun e => ?_) ?_
  · rw [hnew]
    simp [Stage.place?, Ne.symm hp]
  · rw [tells_eq_false (tells_isStanding q) hnew]
    split_ifs with he
    · simp [Waiting.leave, he]
    · simp [Waiting.leave, Ne.symm he]
  · rw [tells_eq_false (tells_isCounted q) hnew]
    rfl

end System

end Diameter.Queue
