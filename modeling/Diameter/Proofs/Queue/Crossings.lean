import Diameter.Proofs.Queue.Watched

/-!
# Which pushes and removals are reported

The documentation of a watermark is about the history of the depth; the watermark keeps one
number. Main statement: of a handler that was attached to a queue without items, and as long as
it is not detached, a push tells exactly of the positive multiples of the high threshold, and
a removal exactly of the low marks above which the depth has reached the next multiple since
it was last there or below. The number is always one of the two multiples next to the depth,
so it is never less than what a removal takes off it.
-/

namespace Diameter.Queue

variable {α η : Type}

/-! ## Histories of a depth -/

section Histories

variable {ε : Type} (depth : List ε → Nat) {moments : List ε} {e : ε} {floor peak : Nat}

/-- The last moment at which the depth was not above the floor. A moment is given by what has
happened until then. -/
structure LastBelow (moments : List ε) (floor : Nat) (last : List ε) : Prop where
  /-- It is a moment. -/
  isMoment : last <+: moments
  /-- The depth was not above the floor then. -/
  below : depth last ≤ floor
  /-- At no later moment it was. -/
  isLast : ∀ moment, moment <+: moments → depth moment ≤ floor → moment <+: last

/-- Since the last moment at which it was not above the floor the depth has been at the peak
or above it. -/
def HasRisen (moments : List ε) (floor peak : Nat) : Prop :=
  ∃ last, LastBelow depth moments floor last ∧
    ∃ moment, last <+: moment ∧ moment <+: moments ∧ peak ≤ depth moment

variable {depth}

/-- A moment above the floor is not the last one below it. -/
theorem LastBelow.concat {last : List ε} (h : LastBelow depth moments floor last)
    (he : floor < depth (moments ++ [e])) : LastBelow depth (moments ++ [e]) floor last where
  isMoment := h.isMoment.trans (List.prefix_append _ _)
  below := h.below
  isLast moment hm hle := by
    rcases List.prefix_concat_iff.mp hm with rfl | hm
    · exact absurd hle (Nat.not_le_of_lt he)
    · exact h.isLast moment hm hle

/-- What has started at the floor or below it has a last moment there. -/
theorem exists_lastBelow (h : depth [] ≤ floor) (moments : List ε) :
    ∃ last, LastBelow depth moments floor last := by
  induction moments using List.reverseRecOn with
  | nil => exact ⟨[], List.prefix_rfl, h, fun moment hm _ => hm⟩
  | append_singleton moments e ih =>
    rcases Nat.lt_or_ge floor (depth (moments ++ [e])) with habove | hbelow
    · obtain ⟨last, hlast⟩ := ih
      exact ⟨last, hlast.concat habove⟩
    · exact ⟨moments ++ [e], List.prefix_rfl, hbelow, fun moment hm _ => hm⟩

/-- At the start nothing has risen. -/
theorem not_hasRisen_nil (h : depth [] ≤ floor) (hp : floor < peak) :
    ¬ HasRisen depth [] floor peak := by
  rintro ⟨last, -, moment, -, hm, hle⟩
  rw [List.prefix_nil.mp hm] at hle
  omega

/-- What one more moment adds to the history: it lies above the floor, and it is at the peak
itself or the history has risen so far before. -/
theorem hasRisen_concat (h : depth [] ≤ floor) (hp : floor < peak) :
    HasRisen depth (moments ++ [e]) floor peak ↔ floor < depth (moments ++ [e]) ∧
      (peak ≤ depth (moments ++ [e]) ∨ HasRisen depth moments floor peak) := by
  constructor
  · rintro ⟨last, hlast, moment, hfrom, hto, hle⟩
    have habove : floor < depth (moments ++ [e]) := by
      by_contra hbelow
      have hnew := hlast.isLast _ List.prefix_rfl (Nat.le_of_not_lt hbelow)
      have hsame := (hnew.trans hfrom).eq_of_length_le hto.length_le
      rw [← hsame] at hle
      omega
    refine ⟨habove, ?_⟩
    rcases List.prefix_concat_iff.mp hto with rfl | hto
    · exact .inl hle
    · refine .inr ⟨last, ⟨hfrom.trans hto, hlast.below, fun other hm hother => ?_⟩, moment,
        hfrom, hto, hle⟩
      exact hlast.isLast other (hm.trans (List.prefix_append _ _)) hother
  · rintro ⟨habove, hreached | ⟨last, hlast, moment, hfrom, hto, hle⟩⟩
    · obtain ⟨last, hlast⟩ := exists_lastBelow h moments
      have hlast' := hlast.concat habove
      exact ⟨last, hlast', moments ++ [e], hlast'.isMoment, List.prefix_rfl, hreached⟩
    · exact ⟨last, hlast.concat habove, moment, hfrom, hto.trans (List.prefix_append _ _), hle⟩

end Histories

namespace Attachment

variable {a : Attachment α η} {since : List (Event α η)} {e : Event α η}

/-! ## The number stands for the history -/

/-- A crossing is unanswered exactly if the depth has been there since it was last at the low
mark below it, or lower. -/
theorem InForce.pending_iff (h : a.InForce since)
    (hempty : ((Course.after a.before).system.queue a.queue).items = []) : ∃ highest,
      ((a.course since).system.queue a.queue).watermark = some (a.mark highest) ∧
        (a.mark highest).Tracks (a.depth since) ∧
        ∀ level, (a.mark highest).Pending level ↔
          HasRisen a.depth since (level * a.high + a.low) ((level + 1) * a.high) := by
  have hapart := h.low_lt_high
  have hnil : a.depth [] = 0 := h.depth_nil hempty
  have hconcat (since : List (Event α η)) (e : Event α η) (level : Nat) :
      HasRisen a.depth (since ++ [e]) (level * a.high + a.low) ((level + 1) * a.high) ↔
        level * a.high + a.low < a.depth (since ++ [e]) ∧
          ((level + 1) * a.high ≤ a.depth (since ++ [e]) ∨
            HasRisen a.depth since (level * a.high + a.low) ((level + 1) * a.high)) := by
    refine hasRisen_concat (by omega) ?_
    rw [Nat.add_one_mul]
    omega
  refine InForce.induction (P := fun since highest => (a.mark highest).Tracks (a.depth since) ∧
    ∀ level, (a.mark highest).Pending level ↔
      HasRisen a.depth since (level * a.high + a.low) ((level + 1) * a.high))
    ⟨?_, fun level => ?_⟩ (fun since e highest _ ⟨ht, hp⟩ hd => ⟨?_, fun level => ?_⟩)
    (fun since e highest highest' _ ⟨ht, hp⟩ hpass => ⟨hpass.tracks hapart ht, fun level => ?_⟩) h
  · rw [hnil]
    exact Watermark.tracks_zero _ _ _
  · refine iff_of_false (fun hp => ?_) (not_hasRisen_nil (by omega) ?_)
    · have hmul := Nat.add_one_mul level a.high
      have hle : (level + 1) * a.high ≤ 0 := hp
      omega
    · rw [Nat.add_one_mul]
      omega
  · rw [hd]
    exact ht
  · rw [hconcat, hd, ← hp level]
    constructor
    · intro hpending
      refine ⟨?_, .inr hpending⟩
      by_contra hbelow
      exact ht.not_pending hapart (Nat.le_of_not_lt hbelow) hpending
    · rintro ⟨-, hreached | hpending⟩
      · exact ht.pending_of_le hapart hreached
      · exact hpending
  · rw [hconcat, ← hp level]
    exact hpass.pending_iff hapart ht level

/-! ## Pushes and removals -/

/-- Detaching a handler takes no items. -/
theorem items_detached (s : System α η) (handle q : QueueId) :
    ((s.perform (.clearThresholds handle)).system.queue q).items = (s.queue q).items := by
  rw [System.perform, System.quietly, System.clearThresholds, System.queue_modifyQueue]
  split_ifs <;> rfl

/-- A push tells what the new depth says, and nothing of the history. -/
theorem toldAt_push {s : System α η} {q : QueueId} {w : Watermark η} {c : CallerId}
    {g : Gauge α η} {report : Option (Crossing η)} {item : α}
    (h : Passage q w (s.queue q).items (.turn c) g report)
    (hi : g.items = (s.queue q).items ++ [item]) :
    report = told q .high (w.crossUp ((s.queue q).items.length + 1)) := by
  have hlength := congrArg List.length hi
  rw [List.length_append, List.length_singleton] at hlength
  cases h with
  | rest => exact absurd hlength (Nat.ne_of_lt (Nat.lt_succ_self _))
  | stored => rfl
  | taken ht =>
    rw [ht, List.length_cons] at hlength
    dsimp only at hlength
    omega

/-- A removal moves the watermark as the depth that it leaves says. -/
theorem toldAt_removal {q : QueueId} {w : Watermark η} {e : Event α η} {items : List α}
    {g : Gauge α η} {report : Option (Crossing η)} {item : α}
    (h : Passage q w items e g report) (hi : items = item :: g.items) :
    report = told q .low (w.crossDown g.items.length) ∧
      g.watermark = some ((w.crossDown g.items.length).getD w) := by
  have hlength := congrArg List.length hi
  rw [List.length_cons] at hlength
  cases h with
  | rest => exact absurd hlength (Nat.ne_of_lt (Nat.lt_succ_self _))
  | stored =>
    rw [List.length_append, List.length_singleton] at hlength
    omega
  | taken => exact ⟨rfl, rfl⟩
  | received =>
    rw [List.length_append] at hlength
    omega

/-- What is told about a removal, where the watermark tracks the depth and stands for its
history. -/
theorem reports_removal {w : Watermark η} {depth : Nat} {q : QueueId}
    {risen : (floor peak : Nat) → Prop} (hw : w.low < w.high) (ht : w.Tracks (depth + 1))
    (hp : ∀ level, w.Pending level ↔
      risen (level * w.high + w.low) ((level + 1) * w.high)) :
    ((told q .low (w.crossDown depth)).isSome ↔
      depth % w.high = w.low ∧ risen depth (depth - w.low + w.high)) ∧
    ∀ report ∈ told q .low (w.crossDown depth), report = ⟨q, .low, w.handler⟩ ∧
      w.high ≤ w.highest ∧ w.crossDown depth = some { w with highest := w.highest - w.high } := by
  rw [told, Option.isSome_map]
  constructor
  · by_cases hmod : depth % w.high = w.low
    · have hdepth : depth = depth / w.high * w.high + w.low := by
        rw [← hmod]
        exact (Nat.div_add_mod' depth w.high).symm
      have hpeak : depth - w.low + w.high = (depth / w.high + 1) * w.high := by
        rw [Nat.add_one_mul]
        omega
      rw [ht.crossDown_isSome_iff hw hdepth, hp, ← hdepth, ← hpeak]
      exact ⟨fun h => ⟨hmod, h⟩, fun h => h.2⟩
    · refine iff_of_false ?_ fun h => hmod h.1
      rw [Watermark.crossDown, if_neg fun h => hmod h.1]
      exact Bool.false_ne_true
  · rintro report hreport
    obtain ⟨moved, hmoved, rfl⟩ := Option.map_eq_some_iff.mp hreport
    have hcross := ht.high_le_highest (by rw [hmoved]; rfl)
    unfold Watermark.crossDown at hmoved
    split_ifs at hmoved with hif
    rw [← Option.some.inj hmoved]
    refine ⟨rfl, hcross, ?_⟩
    rw [Watermark.crossDown, if_pos hif]

/-- Of a handler that was attached to a queue without items and has not been detached: the last
unanswered crossing is the multiple of the high threshold that the depth has reached, or the
next one; it is the former as long as the depth is not above the low mark, and there is none at
the low threshold or below it. A push tells the handler exactly if the new depth is a positive
multiple of the high threshold. A removal tells it exactly if the depth that it leaves is a low
mark and has been at the next multiple or above since it was last so low; that takes a multiple
off a number that is no less than one. -/
theorem crossings_follow_depth (a : Attachment α η) (since : List (Event α η))
    (h : a.InForce since)
    (hempty : ((Course.after a.before).system.queue a.queue).items = []) :
    let s := (a.course since).system
    let x := s.queue a.queue
    let depth := x.items.length
    ∃ highest, x.watermark = some (a.mark highest) ∧
      (highest = depth / a.high * a.high ∨ highest = (depth / a.high + 1) * a.high) ∧
      (depth % a.high ≤ a.low → highest = depth / a.high * a.high) ∧
      (depth ≤ a.low → highest = 0) ∧
      (∀ c item, ((s.perform (.turn c)).system.queue a.queue).items = x.items ++ [item] →
        s.toldAt (.turn c) a.queue =
          if 0 < depth + 1 ∧ (depth + 1) % a.high = 0 then some ⟨a.queue, .high, a.handler⟩
          else none) ∧
      ∀ e item, x.items = item :: ((s.perform e).system.queue a.queue).items →
        let left := ((s.perform e).system.queue a.queue).items.length
        ((s.toldAt e a.queue).isSome ↔
          left % a.high = a.low ∧ HasRisen a.depth since left (left - a.low + a.high)) ∧
        ∀ report ∈ s.toldAt e a.queue, report = ⟨a.queue, .low, a.handler⟩ ∧
          a.high ≤ highest ∧ ((s.perform e).system.queue a.queue).watermark =
            some (a.mark (highest - a.high)) := by
  intro s x depth
  have hapart := h.low_lt_high
  obtain ⟨highest, hw, htracks, hpending⟩ := h.pending_iff hempty
  have hpassage (e : Event α η) (he : ∀ handle, e ≠ .clearThresholds handle) :
      Passage a.queue (a.mark highest) x.items e ((s.perform e).system.queue a.queue).gauge
        (s.toldAt e a.queue) := by
    have hnext := (h.concat (e := e) fun handle heq => absurd heq (he handle)).passage hw
    rw [course_concat] at hnext
    exact hnext
  refine ⟨highest, hw, htracks.near, htracks.settled, htracks.highest_eq_zero hapart,
    fun c item hi => ?_, fun e item hi => ?_⟩
  · rw [toldAt_push (hpassage (.turn c) nofun) hi, Watermark.crossUp, told,
      apply_ite (Option.map _)]
    rfl
  · have hdetach (handle : QueueId) : e ≠ .clearThresholds handle := by
      rintro rfl
      rw [items_detached] at hi
      exact absurd (congrArg List.length hi) (Nat.ne_of_lt (Nat.lt_succ_self _))
    obtain ⟨htold, hmoved⟩ := toldAt_removal (hpassage e hdetach) hi
    have hdepth : a.depth since = ((s.perform e).system.queue a.queue).items.length + 1 :=
      congrArg List.length hi
    rw [hdepth] at htracks
    obtain ⟨hiff, hreport⟩ := reports_removal (q := a.queue) hapart htracks hpending
    rw [htold]
    refine ⟨hiff, fun report hr => ?_⟩
    obtain ⟨rfl, hle, hcross⟩ := hreport report hr
    refine ⟨rfl, hle, hmoved.trans ?_⟩
    exact congrArg (fun moved => some (moved.getD (a.mark highest))) hcross

/-- A handler with thresholds three and one, attached to a new queue. -/
def threeAndOne : Attachment Nat Unit := ⟨[.addQueue 0], 0, 3, 1, ()⟩

/-- Four items are stored and two of them are taken. -/
def fourStoredTwoTaken : List (Event Nat Unit) :=
  [.call 0 (.push 1), .turn 0, .call 0 (.push 2), .turn 1, .call 0 (.push 3), .turn 2,
    .call 0 (.push 4), .turn 3, .tryPop 0, .tryPop 0]

/-- Two items are left then. One more tells of the third again; one less tells of the low
mark, since the depth has been three and more. -/
theorem told_of_third_and_of_low_mark :
    let later := fourStoredTwoTaken ++ [.call 0 (.push 5)]
    threeAndOne.InForce fourStoredTwoTaken ∧ threeAndOne.InForce later ∧
      ((Course.after threeAndOne.before).system.queue threeAndOne.queue).items = [] ∧
      (threeAndOne.course later).system.toldAt (.turn 4) 0 = some ⟨0, .high, ()⟩ ∧
      HasRisen threeAndOne.depth fourStoredTwoTaken 1 3 ∧
      (threeAndOne.course fourStoredTwoTaken).system.toldAt (.tryPop 0) 0 =
        some ⟨0, .low, ()⟩ := by
  intro later
  have hforce : threeAndOne.InForce fourStoredTwoTaken :=
    inForce_of_not_mem (by decide) ⟨_, rfl⟩ (by simp [fourStoredTwoTaken])
  have hlater : threeAndOne.InForce later := hforce.concat nofun
  have hempty : ((Course.after threeAndOne.before).system.queue threeAndOne.queue).items = [] := by
    decide
  obtain ⟨_, -, -, -, -, hpush, -⟩ := crossings_follow_depth threeAndOne later hlater hempty
  obtain ⟨highest, -, -, -, -, -, hremoval⟩ :=
    crossings_follow_depth threeAndOne fourStoredTwoTaken hforce hempty
  obtain ⟨hiff, -⟩ := hremoval (.tryPop 0) 3 (by decide)
  have htold : (threeAndOne.course fourStoredTwoTaken).system.toldAt (.tryPop 0) 0 =
      some ⟨0, .low, ()⟩ := by
    decide
  exact ⟨hforce, hlater, hempty, (hpush 4 5 (by decide)).trans (by decide),
    (hiff.mp (by decide)).2, htold⟩

end Attachment

end Diameter.Queue
