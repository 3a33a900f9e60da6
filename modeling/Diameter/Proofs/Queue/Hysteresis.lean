import Diameter.Queue.Watermark
import Mathlib.Tactic.Common

/-!
# What the last unanswered crossing stands for

A watermark keeps one number in place of the history of its queue. While the depth moves one
step up or down, or several up at once, that number is the multiple of the high threshold
that the depth has reached, or the next one. It is the next one exactly if the depth has been
there and has not come back to the low mark since. Each such step is shown to keep this, for
every pair of thresholds that are apart.
-/

namespace Diameter.Queue.Watermark

variable {η : Type} {w w' : Watermark η}

/-- How the depth of a watched queue changes, and what that makes of the watermark. -/
inductive Passes (w : Watermark η) : Nat → Watermark η → Nat → Prop
  /-- An item is stored. -/
  | up {depth} : Passes w depth ((w.crossUp (depth + 1)).getD w) (depth + 1)
  /-- An item is taken. -/
  | down {depth} : Passes w (depth + 1) ((w.crossDown depth).getD w) depth
  /-- Items arrive at once. -/
  | leap {depth} (more : Nat) :
      Passes w depth ((w.absorb (depth + more)).getD w) (depth + more)

/-- The last unanswered crossing is the multiple of the high threshold that the depth has
reached, or the one above it. It is the former as long as the depth is not above the low
mark. -/
structure Tracks (w : Watermark η) (depth : Nat) : Prop where
  /-- It is one of the two multiples next to the depth. -/
  near : w.highest = depth / w.high * w.high ∨ w.highest = (depth / w.high + 1) * w.high
  /-- At the low mark or below no crossing above the depth is unanswered. -/
  settled : depth % w.high ≤ w.low → w.highest = depth / w.high * w.high

/-- The crossing at the given multiple of the high threshold, counted from zero, or one above
it is unanswered. -/
def Pending (w : Watermark η) (level : Nat) : Prop := (level + 1) * w.high ≤ w.highest

/-! ## Thresholds and handlers stay -/

/-- A crossing moves nothing but the last unanswered one. -/
theorem Passes.fixed {depth depth' : Nat} (h : w.Passes depth w' depth') :
    w'.high = w.high ∧ w'.low = w.low ∧ w'.handler = w.handler := by
  have hset (p : Prop) [Decidable p] (highest : Nat) :
      ((if p then some { w with highest := highest } else none).getD w).high = w.high ∧
      ((if p then some { w with highest := highest } else none).getD w).low = w.low ∧
      ((if p then some { w with highest := highest } else none).getD w).handler = w.handler := by
    split_ifs <;> exact ⟨rfl, rfl, rfl⟩
  cases h <;> exact hset _ _

/-! ## The number and the depth -/

/-- A depth below the next multiple of the high threshold, by quotient and remainder. -/
theorem div_mod_of_eq {high level rest depth : Nat} (hr : rest < high)
    (hd : depth = level * high + rest) : depth / high = level ∧ depth % high = rest := by
  rw [Nat.div_mod_unique (Nat.zero_lt_of_lt hr), Nat.mul_comm high level]
  exact ⟨by omega, hr⟩

/-- Every depth has a quotient and a remainder. -/
theorem exists_level {high : Nat} (h : 0 < high) (depth : Nat) :
    ∃ level rest, rest < high ∧ depth = level * high + rest :=
  ⟨depth / high, depth % high, Nat.mod_lt _ h, (Nat.div_add_mod' depth high).symm⟩

/-- What tracking means by quotient and remainder. -/
theorem tracks_iff {level rest depth : Nat} (hr : rest < w.high)
    (hd : depth = level * w.high + rest) : w.Tracks depth ↔
      (w.highest = level * w.high ∨ w.highest = (level + 1) * w.high) ∧
        (rest ≤ w.low → w.highest = level * w.high) := by
  obtain ⟨hdiv, hmod⟩ := div_mod_of_eq hr hd
  constructor
  · rintro ⟨hnear, hsettled⟩
    rw [hdiv] at hnear hsettled
    rw [hmod] at hsettled
    exact ⟨hnear, hsettled⟩
  · rintro ⟨hnear, hsettled⟩
    refine ⟨?_, ?_⟩
    · rw [hdiv]
      exact hnear
    · rw [hdiv, hmod]
      exact hsettled

/-- A watermark that is new tracks the depth of a queue without items. -/
theorem tracks_zero (high low : Nat) (handler : η) :
    (Watermark.mk high low 0 handler).Tracks 0 where
  near := .inl (by rw [Nat.zero_div, Nat.zero_mul])
  settled _ := by rw [Nat.zero_div, Nat.zero_mul]

/-- At the low threshold or below nothing is unanswered. -/
theorem Tracks.highest_eq_zero {depth : Nat} (h : w.Tracks depth) (hw : w.low < w.high)
    (hd : depth ≤ w.low) : w.highest = 0 := by
  have hzero : depth = 0 * w.high + depth := by omega
  obtain ⟨-, hsettled⟩ := (tracks_iff (by omega) hzero).mp h
  rw [hsettled hd, Nat.zero_mul]

/-- Storing an item keeps track. -/
theorem Tracks.up {depth : Nat} (h : w.Tracks depth) (hw : w.low < w.high) :
    ((w.crossUp (depth + 1)).getD w).Tracks (depth + 1) := by
  obtain ⟨level, rest, hr, hd⟩ := exists_level (Nat.zero_lt_of_lt hw) depth
  obtain ⟨hnear, hsettled⟩ := (tracks_iff hr hd).mp h
  unfold crossUp
  by_cases hlast : rest + 1 = w.high
  · have hnext : depth + 1 = (level + 1) * w.high + 0 := by
      rw [Nat.add_one_mul]
      omega
    have hmod := (div_mod_of_eq (Nat.zero_lt_of_lt hw) hnext).2
    rw [if_pos ⟨Nat.succ_pos depth, hmod⟩]
    exact (tracks_iff (w := { w with highest := depth + 1 }) (Nat.zero_lt_of_lt hw) hnext).mpr
      ⟨.inl hnext, fun _ => hnext⟩
  · have hnext : depth + 1 = level * w.high + (rest + 1) := by omega
    have hmod := (div_mod_of_eq (by omega) hnext).2
    rw [if_neg (by omega)]
    refine (tracks_iff (by omega) hnext).mpr ⟨hnear, fun hlow => ?_⟩
    exact hsettled (Nat.le_of_succ_le hlow)

/-- Taking an item keeps track. The number was one of the same two multiples before, also where
the depth has left one. -/
theorem Tracks.down {depth : Nat} (h : w.Tracks (depth + 1)) (hw : w.low < w.high) :
    ((w.crossDown depth).getD w).Tracks depth := by
  obtain ⟨level, rest, hr, hd⟩ := exists_level (Nat.zero_lt_of_lt hw) depth
  have hmod := (div_mod_of_eq hr hd).2
  have hsucc := Nat.add_one_mul level w.high
  have hbefore : (w.highest = level * w.high ∨ w.highest = (level + 1) * w.high) ∧
      (rest < w.low → w.highest = level * w.high) := by
    by_cases hlast : rest + 1 = w.high
    · have hprevious : depth + 1 = (level + 1) * w.high + 0 := by omega
      obtain ⟨-, hsettled⟩ := (tracks_iff (Nat.zero_lt_of_lt hw) hprevious).mp h
      exact ⟨.inr (hsettled (Nat.zero_le _)), by omega⟩
    · have hprevious : depth + 1 = level * w.high + (rest + 1) := by omega
      exact (tracks_iff (by omega) hprevious).mp h
  obtain ⟨hnear, hsettled⟩ := hbefore
  unfold crossDown
  by_cases hcross : depth % w.high = w.low ∧ depth < w.highest
  · rw [if_pos hcross]
    have hanswered : w.highest - w.high = level * w.high := by omega
    exact (tracks_iff (w := { w with highest := w.highest - w.high }) hr hd).mpr
      ⟨.inl hanswered, fun _ => hanswered⟩
  · rw [if_neg hcross]
    exact (tracks_iff hr hd).mpr ⟨hnear, by omega⟩

/-- Items that arrive at once keep track. -/
theorem Tracks.leap {depth : Nat} (h : w.Tracks depth) (hw : w.low < w.high) (more : Nat) :
    ((w.absorb (depth + more)).getD w).Tracks (depth + more) := by
  obtain ⟨level, rest, hr, hd⟩ := exists_level (Nat.zero_lt_of_lt hw) depth
  obtain ⟨level', rest', hr', hd'⟩ := exists_level (Nat.zero_lt_of_lt hw) (depth + more)
  obtain ⟨hnear, hsettled⟩ := (tracks_iff hr hd).mp h
  have hmod := (div_mod_of_eq hr' hd').2
  have hreached : depth + more - (depth + more) % w.high = level' * w.high := by omega
  have hsucc := Nat.add_one_mul level w.high
  have hsucc' := Nat.add_one_mul level' w.high
  have hle : level ≤ level' := by
    by_contra hlt
    have hmul : (level' + 1) * w.high ≤ level * w.high :=
      Nat.mul_le_mul_right _ (Nat.lt_of_not_le hlt)
    omega
  unfold absorb
  dsimp only
  rw [hreached]
  by_cases hcross : w.highest < level' * w.high
  · rw [if_pos hcross]
    exact (tracks_iff (w := { w with highest := level' * w.high }) hr' hd').mpr
      ⟨.inl rfl, fun _ => rfl⟩
  · rw [if_neg hcross]
    refine (tracks_iff hr' hd').mpr ?_
    rcases Nat.lt_or_eq_of_le hle with hlt | rfl
    · have hmul : (level + 1) * w.high ≤ level' * w.high := Nat.mul_le_mul_right _ hlt
      have hequal : w.highest = level' * w.high := by omega
      exact ⟨.inl hequal, fun _ => hequal⟩
    · exact ⟨hnear, by omega⟩

/-- Every change of the depth keeps track. -/
theorem Passes.tracks {depth depth' : Nat} (h : w.Passes depth w' depth') (hw : w.low < w.high)
    (ht : w.Tracks depth) : w'.Tracks depth' := by
  cases h with
  | up => exact ht.up hw
  | down => exact ht.down hw
  | leap more => exact ht.leap hw more

/-! ## Arriving at once and one by one -/

/-- The multiple of the high threshold below a depth. -/
theorem sub_mod_eq_div_mul (depth high : Nat) : depth - depth % high = depth / high * high := by
  have hsplit := Nat.div_add_mod' depth high
  omega

/-- No item that arrives moves a watermark. -/
theorem Tracks.absorb_self {depth : Nat} (h : w.Tracks depth) : w.absorb depth = none := by
  have hsucc := Nat.add_one_mul (depth / w.high) w.high
  have hle : depth / w.high * w.high ≤ w.highest := by
    rcases h.near with hnear | hnear <;> omega
  unfold absorb
  dsimp only
  rw [sub_mod_eq_div_mul, if_neg (Nat.not_lt_of_le hle)]

/-- A push reports what its depth says, whatever the last unanswered crossing is. -/
theorem crossUp_eq_ite (w : Watermark η) (depth : Nat) : w.crossUp (depth + 1) =
    if w.high ∣ depth + 1 then some { w with highest := depth + 1 } else none := by
  unfold crossUp
  simp only [Nat.succ_pos, true_and, Nat.dvd_iff_mod_eq_zero]

/-- Items that arrive at once raise the last unanswered crossing to the multiple below the
depth. -/
theorem getD_absorb (w : Watermark η) (depth : Nat) : (w.absorb depth).getD w =
    { w with highest := max w.highest (depth / w.high * w.high) } := by
  unfold absorb
  dsimp only
  rw [sub_mod_eq_div_mul]
  split_ifs with hraised
  · rw [Nat.max_eq_right (Nat.le_of_lt hraised)]
    rfl
  · rw [Nat.max_eq_left (Nat.le_of_not_lt hraised)]
    rfl

/-- One more item among those that arrive at once makes as much of a watermark as one more push.
The last unanswered crossing was not above the multiple that is reached. -/
theorem Tracks.crossUp_absorb {depth : Nat} (h : w.Tracks depth) (more : Nat) :
    let v := (w.absorb (depth + more)).getD w
    (v.crossUp (depth + more + 1)).getD v = (w.absorb (depth + more + 1)).getD w := by
  intro v
  have hv : v = _ := getD_absorb w (depth + more)
  rw [crossUp_eq_ite, hv, getD_absorb]
  split_ifs with hcross
  · have hbelow : w.highest ≤ depth + more + 1 := by
      have hlevel : depth / w.high + 1 ≤ (depth + more + 1) / w.high := by
        rw [Nat.succ_div_of_dvd hcross]
        exact Nat.succ_le_succ (Nat.div_le_div_right (Nat.le_add_right _ _))
      have hmul := Nat.mul_le_mul_right w.high hlevel
      rw [Nat.div_mul_cancel hcross] at hmul
      have hsucc := Nat.add_one_mul (depth / w.high) w.high
      rcases h.near with hnear | hnear <;> omega
    rw [Nat.div_mul_cancel hcross, Nat.max_eq_right hbelow]
    rfl
  · rw [Nat.succ_div_of_not_dvd hcross]
    rfl

/-- Of the multiples of the high threshold that lie on the way, the first one goes unreported
if it is unanswered. -/
theorem Tracks.absorb_eq_none_iff {depth : Nat} (h : w.Tracks depth) (hw : w.low < w.high)
    (more : Nat) : w.absorb (depth + more) = none ↔
      (depth + more) / w.high - depth / w.high = 0 ∨
        (depth + more) / w.high - depth / w.high = 1 ∧ depth < w.highest := by
  have hle : depth / w.high ≤ (depth + more) / w.high :=
    Nat.div_le_div_right (Nat.le_add_right _ _)
  have hpos := Nat.zero_lt_of_lt hw
  have hdepth := Nat.div_mul_le_self depth w.high
  have hnext : depth < (depth / w.high + 1) * w.high :=
    Nat.lt_mul_of_div_lt (Nat.lt_succ_self _) hpos
  unfold absorb
  dsimp only
  rw [sub_mod_eq_div_mul, ite_eq_right_iff]
  simp only [reduceCtorEq, imp_false]
  rcases h.near with hnear | hnear
  · rw [hnear, Nat.mul_lt_mul_right hpos]
    omega
  · rw [hnear, Nat.mul_lt_mul_right hpos]
    omega

/-! ## Hysteresis -/

/-- Where the depth has reached a multiple, nothing below it has to be answered first. -/
theorem Tracks.pending_of_le {depth level : Nat} (h : w.Tracks depth) (hw : w.low < w.high)
    (hd : (level + 1) * w.high ≤ depth) : w.Pending level := by
  have hdiv : level + 1 ≤ depth / w.high := (Nat.le_div_iff_mul_le (Nat.zero_lt_of_lt hw)).mpr hd
  have hmul : (level + 1) * w.high ≤ depth / w.high * w.high := Nat.mul_le_mul_right _ hdiv
  have hsucc := Nat.add_one_mul (depth / w.high) w.high
  unfold Pending
  rcases h.near with hnear | hnear <;> omega

/-- Where the depth is not above the low mark, no crossing above that is unanswered. -/
theorem Tracks.not_pending {depth level : Nat} (h : w.Tracks depth) (hw : w.low < w.high)
    (hd : depth ≤ level * w.high + w.low) : ¬ w.Pending level := by
  obtain ⟨level', rest, hr, hd'⟩ := exists_level (Nat.zero_lt_of_lt hw) depth
  obtain ⟨hnear, hsettled⟩ := (tracks_iff hr hd').mp h
  have hsucc := Nat.add_one_mul level w.high
  have hsucc' := Nat.add_one_mul level' w.high
  have hle : level' ≤ level := by
    by_contra hlt
    have hmul : (level + 1) * w.high ≤ level' * w.high :=
      Nat.mul_le_mul_right _ (Nat.lt_of_not_le hlt)
    omega
  unfold Pending
  rcases Nat.lt_or_eq_of_le hle with hlt | rfl
  · have hmul : (level' + 1) * w.high ≤ level * w.high := Nat.mul_le_mul_right _ hlt
    omega
  · omega

/-- Between the low mark and the next multiple nothing is reported. -/
theorem Passes.pending_between {depth depth' level : Nat} (h : w.Passes depth w' depth')
    (hw : w.low < w.high) (ht : w.Tracks depth) (hlow : level * w.high + w.low < depth')
    (hhigh : depth' < (level + 1) * w.high) : w'.Pending level ↔ w.Pending level := by
  have hsucc := Nat.add_one_mul level w.high
  have hrest : depth' = level * w.high + (depth' - level * w.high) := by omega
  have hmod := (div_mod_of_eq (by omega) hrest).2
  cases h with
  | up =>
    unfold crossUp
    rw [if_neg (by omega)]
    rfl
  | down =>
    unfold crossDown
    rw [if_neg (by omega)]
    rfl
  | @leap depth more =>
    unfold absorb
    dsimp only
    split_ifs with hcross
    · unfold Pending
      dsimp only [Option.getD_some]
      exact iff_of_false (by omega) (by omega)
    · rfl

/-- The crossing at a multiple is unanswered after a change exactly if the depth is above the
low mark then, and has reached the multiple or has had the crossing unanswered before. -/
theorem Passes.pending_iff {depth depth' : Nat} (h : w.Passes depth w' depth')
    (hw : w.low < w.high) (ht : w.Tracks depth) (level : Nat) :
    w'.Pending level ↔ level * w.high + w.low < depth' ∧
      ((level + 1) * w.high ≤ depth' ∨ w.Pending level) := by
  have ht' := h.tracks hw ht
  obtain ⟨hhigh, hlow, -⟩ := h.fixed
  have hw' : w'.low < w'.high := by rw [hlow, hhigh]; exact hw
  rcases Nat.lt_or_ge (level * w.high + w.low) depth' with habove | hbelow
  · rcases Nat.lt_or_ge depth' ((level + 1) * w.high) with hshort | hreached
    · rw [h.pending_between hw ht habove hshort]
      exact ⟨fun hp => ⟨habove, .inr hp⟩, fun hp => hp.2.resolve_left (Nat.not_le_of_lt hshort)⟩
    · refine iff_of_true (ht'.pending_of_le hw' ?_) ⟨habove, .inl hreached⟩
      rw [hhigh]
      exact hreached
  · refine iff_of_false (ht'.not_pending hw' ?_) fun hp => Nat.not_lt_of_le hbelow hp.1
    rw [hhigh, hlow]
    exact hbelow

/-- A removal is reported where it ends at a low mark below an unanswered crossing. The number is
a multiple, so it is above the low mark only from the next one on. -/
theorem Tracks.crossDown_isSome_iff {depth level : Nat} (h : w.Tracks (depth + 1))
    (hw : w.low < w.high) (hd : depth = level * w.high + w.low) :
    (w.crossDown depth).isSome ↔ w.Pending level := by
  have hmod := (div_mod_of_eq hw hd).2
  have hsucc := Nat.add_one_mul level w.high
  have hmultiple : depth < w.highest ↔ w.Pending level := by
    unfold Pending
    rcases h.near with hnear | hnear
    · rw [hnear]
      constructor
      · intro hlt
        have hlevel : level < (depth + 1) / w.high := by
          by_contra hle
          have hmul := Nat.mul_le_mul_right w.high (Nat.le_of_not_lt hle)
          omega
        exact Nat.mul_le_mul_right w.high hlevel
      · omega
    · rw [hnear]
      constructor
      · intro hlt
        have hlevel : level < (depth + 1) / w.high + 1 := by
          by_contra hle
          have hmul := Nat.mul_le_mul_right w.high (Nat.le_of_not_lt hle)
          omega
        exact Nat.mul_le_mul_right w.high hlevel
      · omega
  unfold crossDown
  rw [← hmultiple]
  split_ifs with hcross
  · exact iff_of_true rfl hcross.2
  · exact iff_of_false (by simp) fun hlt => hcross ⟨hmod, hlt⟩

/-- An answered crossing takes one multiple off the number, which is never less than that. -/
theorem Tracks.high_le_highest {depth : Nat} (h : w.Tracks (depth + 1))
    (hc : (w.crossDown depth).isSome) : w.high ≤ w.highest := by
  have hcross : depth < w.highest := by
    unfold crossDown at hc
    split_ifs at hc with hcross
    · exact hcross.2
    · cases hc
  rcases h.near with hnear | hnear
  · rcases Nat.eq_zero_or_pos ((depth + 1) / w.high) with hzero | hpos
    · rw [hzero] at hnear
      omega
    · have hmul : 1 * w.high ≤ (depth + 1) / w.high * w.high := Nat.mul_le_mul_right _ hpos
      omega
  · have hsucc := Nat.add_one_mul ((depth + 1) / w.high) w.high
    omega

end Diameter.Queue.Watermark
