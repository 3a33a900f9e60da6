import Diameter.Proofs.Queue.Arrival

/-!
# Answers to crossings

A handler that is told of the depth being low is told so because a crossing further up is
unanswered. A watermark that is new knows of no crossing, whatever the depth of its queue is,
and the first one that it sees makes it remember the whole depth. So the multiples of the high
threshold that were passed before it was attached are answered as well. Main statement: there
are never more reports of the depth being low than there are of it being high and multiples
that had been passed before, and of an unbounded queue this many are possible.
-/

namespace Diameter.Queue

variable {α η : Type}

namespace Watermark

variable {w : Watermark η}

/-- How many crossings were reported in either direction, and how many more were passed before
anything was watched, against the last one that is unanswered. -/
inductive Balanced (w : Watermark η) (passed depth highs lows : Nat) : Prop
  /-- Nothing was reported yet, and the depth has not reached a new multiple. -/
  | unseen (hw : w.highest = 0) (hd : depth < (passed + 1) * w.high) (hh : highs = 0)
      (hl : lows = 0)
  /-- Each report of the depth being low has taken a multiple off. -/
  | tracking (ht : w.Tracks depth) (hb : lows * w.high + w.highest ≤ (highs + passed) * w.high)

/-- There are no more answers than crossings that were reported or had been passed. -/
theorem Balanced.lows_le {passed depth highs lows : Nat}
    (h : w.Balanced passed depth highs lows) (hw : 0 < w.high) : lows ≤ highs + passed := by
  cases h with
  | unseen _ _ _ hl =>
    rw [hl]
    exact Nat.zero_le _
  | tracking _ hb => exact Nat.le_of_mul_le_mul_right (Nat.le_of_add_right_le hb) hw

/-- The depth is a multiple, and the watermark says so. -/
theorem tracks_of_dvd {depth : Nat} (hd : w.high ∣ depth) (hw : w.highest = depth) :
    w.Tracks depth where
  near := .inl (by rw [hw, Nat.div_mul_cancel hd])
  settled _ := by rw [hw, Nat.div_mul_cancel hd]

/-- Storing an item keeps the balance. -/
theorem Balanced.up {passed depth highs lows : Nat} (h : w.Balanced passed depth highs lows)
    (hw : w.low < w.high) : ((w.crossUp (depth + 1)).getD w).Balanced passed (depth + 1)
      (highs + (w.crossUp (depth + 1)).toList.length) lows := by
  rw [crossUp_eq_ite]
  split_ifs with hcross
  · have hreached : depth + 1 = (depth / w.high + 1) * w.high := by
      rw [← Nat.succ_div_of_dvd hcross, Nat.div_mul_cancel hcross]
    have hsucc := Nat.add_one_mul (depth / w.high) w.high
    have hnext := Nat.add_one_mul (highs + passed) w.high
    refine .tracking (tracks_of_dvd (w := { w with highest := depth + 1 }) hcross rfl) ?_
    dsimp only [Option.getD_some, Option.toList_some, List.length_singleton]
    rw [Nat.add_right_comm highs 1 passed]
    cases h with
    | unseen _ hd hh hl =>
      rw [hl, hh, Nat.zero_mul, Nat.zero_add, Nat.zero_add]
      exact hd
    | tracking ht hb =>
      have hbelow : depth / w.high * w.high ≤ w.highest := by
        rcases ht.near with hnear | hnear <;> omega
      omega
  · cases h with
    | unseen hzero hd hh hl =>
      refine .unseen hzero (Nat.lt_of_le_of_ne hd fun heq => hcross ?_) hh hl
      exact ⟨passed + 1, heq.trans (Nat.mul_comm _ _)⟩
    | tracking ht hb =>
      have ht' := ht.up hw
      rw [crossUp_eq_ite, if_neg hcross] at ht'
      exact .tracking ht' hb

/-- A reported removal takes a multiple off the last unanswered crossing. -/
theorem Tracks.reported_add_highest {depth : Nat} (h : w.Tracks (depth + 1)) :
    (w.crossDown depth).toList.length * w.high + ((w.crossDown depth).getD w).highest =
      w.highest := by
  by_cases hcross : (w.crossDown depth).isSome
  · have hle := h.high_le_highest hcross
    unfold crossDown at hcross ⊢
    split_ifs at hcross ⊢
    · dsimp only [Option.getD_some, Option.toList_some, List.length_singleton]
      omega
    · cases hcross
  · rw [Option.not_isSome_iff_eq_none.mp hcross]
    simp

/-- Taking an item keeps the balance. -/
theorem Balanced.down {passed depth highs lows : Nat}
    (h : w.Balanced passed (depth + 1) highs lows) (hw : w.low < w.high) :
    ((w.crossDown depth).getD w).Balanced passed depth highs
      (lows + (w.crossDown depth).toList.length) := by
  cases h with
  | unseen hzero hd hh hl =>
    have hnone : w.crossDown depth = none := by
      rw [crossDown, if_neg fun hcross => absurd (hzero ▸ hcross.2) (Nat.not_lt_zero _)]
    rw [hnone]
    exact .unseen hzero (Nat.lt_of_succ_lt hd) hh hl
  | tracking ht hb =>
    have hreported := ht.reported_add_highest
    obtain ⟨hhigh, -, -⟩ := (Passes.down : w.Passes (depth + 1) _ depth).fixed
    refine .tracking (ht.down hw) ?_
    rw [hhigh, Nat.add_mul, Nat.add_assoc, hreported]
    exact hb

end Watermark

/-- What was reported stays so. -/
theorem Course.crossings_prefix (k : Course α η) (events : List (Event α η)) :
    k.crossings <+: (k.extend events).crossings :=
  Course.extend_induction (P := fun k' : Course α η => k.crossings <+: k'.crossings)
    List.prefix_rfl (fun _ _ h => h.trans (List.prefix_append _ _)) events

/-- A watermark that moved reports its own direction. -/
theorem countP_told (q : QueueId) (level level' : Level) (moved : Option (Watermark η)) :
    (told q level moved).toList.countP (·.level == level') =
      if level = level' then moved.toList.length else 0 := by
  cases moved with
  | none => exact (ite_self 0).symm
  | some w => cases level <;> cases level' <;> rfl

/-- A passage that brings no items at once keeps the balance. -/
theorem Passage.balanced {q : QueueId} {w : Watermark η} {items : List α} {e : Event α η}
    {g : Gauge α η} {report : Option (Crossing η)} {passed highs lows : Nat}
    (h : Passage q w items e g report) (hm : ∀ source, e ≠ .move source q)
    (hw : w.low < w.high) (hb : w.Balanced passed items.length highs lows) :
    ∃ w', g.watermark = some w' ∧ w'.Balanced passed g.items.length
      (highs + report.toList.countP (·.level == .high))
      (lows + report.toList.countP (·.level == .low)) := by
  cases h with
  | rest => exact ⟨w, rfl, hb⟩
  | @stored c item =>
    refine ⟨_, rfl, ?_⟩
    rw [countP_told, countP_told, if_pos rfl, if_neg nofun, List.length_append]
    exact hb.up hw
  | taken hi =>
    rw [hi, List.length_cons] at hb
    refine ⟨_, rfl, ?_⟩
    rw [countP_told, countP_told, if_neg nofun, if_pos rfl]
    exact hb.down hw
  | @received source more => exact absurd rfl (hm source)

namespace Course

/-- What a removal makes of a watched queue that serves, and what it reports. -/
theorem tryPop_spec {k : Course α η} {q : QueueId} {w : Watermark η} {item : α} {rest : List α}
    (hw : (k.system.queue q).watermark = some w) (hs : (k.system.queue q).Serves)
    (hi : (k.system.queue q).items = item :: rest) :
    ((k.next (.tryPop q)).system.queue q).ledger =
        ((k.system.queue q).ledger.withoutHead rest).remarked (w.crossDown rest.length) ∧
      (k.next (.tryPop q)).crossings =
        k.crossings ++ (told q .low (w.crossDown rest.length)).toList := by
  have hself : k.system.serving q = q := by
    refine System.servingWithin_of_not_edge (fun t he => ?_) _
    cases hs.2.symm.trans ((k.system.edge_iff q t).mp he).2
  have hperform : k.system.perform (.tryPop q) =
      ⟨(k.system.takeHead q rest).1, some ⟨none, item⟩, (k.system.takeHead q rest).2⟩ := by
    simp only [System.perform, System.tryPop, hself, hs.1, hi]
  rw [next, hperform]
  dsimp only
  rw [System.ledger_takeHead _ (System.lt_length_of_watermark hw), if_pos rfl,
    System.takeHead_snd, hw]
  exact ⟨rfl, rfl⟩

end Course

namespace Attachment

variable {a : Attachment α η} {since : List (Event α η)} {e : Event α η}

/-- What has been reported of the watched queue since the handler was attached. -/
def reports (a : Attachment α η) (since : List (Event α η)) : List (Crossing η) :=
  ((a.course since).crossings.drop (Course.after a.before).crossings.length).filter
    (·.queue == a.queue)

/-- How often a direction has been reported since the handler was attached. -/
def calls (a : Attachment α η) (level : Level) (since : List (Event α η)) : Nat :=
  (a.reports since).countP (·.level == level)

/-- Attaching a handler reports nothing. -/
theorem reports_nil (a : Attachment α η) : a.reports [] = [] := by
  have hcrossings : (a.course []).crossings = (Course.after a.before).crossings := by
    rw [course, Course.after_append]
    exact List.append_nil _
  rw [reports, hcrossings, List.drop_length, List.filter_nil]

/-- Further events add what they report. -/
theorem reports_append {more : List (Event α η)} {crossings : List (Crossing η)}
    (h : (a.course (since ++ more)).crossings = (a.course since).crossings ++ crossings) :
    a.reports (since ++ more) = a.reports since ++ crossings.filter (·.queue == a.queue) := by
  have hprefix : (Course.after a.before).crossings <+: (a.course since).crossings := by
    rw [course, Course.after_append]
    exact Course.crossings_prefix _ _
  rw [reports, h, List.drop_append_of_le_length hprefix.length_le, List.filter_append]
  rfl

/-- One more event adds the crossings that it reports. -/
theorem calls_concat (a : Attachment α η) (level : Level) (since : List (Event α η))
    (e : Event α η) : a.calls level (since ++ [e]) = a.calls level since +
      ((a.course since).system.toldAt e a.queue).toList.countP (·.level == level) := by
  have hnext : (a.course (since ++ [e])).crossings =
      (a.course since).crossings ++ ((a.course since).system.perform e).crossing.toList := by
    rw [course_concat]
    rfl
  rw [calls, reports_append hnext, List.countP_append, System.toldAt, Option.toList_filter]
  rfl

/-- As long as no items arrive at once the reports are in balance. -/
theorem InForce.balanced (h : a.InForce since) (hm : ∀ source, .move source a.queue ∉ since) :
    ∃ highest, ((a.course since).system.queue a.queue).watermark = some (a.mark highest) ∧
      (a.mark highest).Balanced (a.depth [] / a.high) (a.depth since) (a.calls .high since)
        (a.calls .low since) := by
  have hapart := h.low_lt_high
  induction since using List.reverseRecOn with
  | nil =>
    refine ⟨0, congrArg Gauge.watermark h.gauge_nil, .unseen rfl ?_ ?_ ?_⟩
    · exact Nat.lt_mul_of_div_lt (Nat.lt_succ_self _) (Nat.zero_lt_of_lt hapart)
    · rw [calls, reports_nil, List.countP_nil]
    · rw [calls, reports_nil, List.countP_nil]
  | append_singleton since e ih =>
    obtain ⟨highest, hw, hb⟩ := ih h.of_concat fun source hmem =>
      hm source (List.mem_append_left _ hmem)
    have hstill : ∀ source, e ≠ .move source a.queue := fun source heq =>
      hm source (List.mem_append_right _ (List.mem_singleton.mpr heq.symm))
    obtain ⟨w', hw', hb'⟩ := (h.passage hw).balanced hstill hapart hb
    obtain ⟨highest', hmark⟩ := h.exists_mark
    obtain rfl : w' = a.mark highest' := Option.some.inj (hw'.symm.trans hmark)
    rw [calls_concat, calls_concat]
    exact ⟨highest', hmark, hb'⟩

/-- Of pushes and removals, and whatever else may happen except that items arrive at once or
that the handler is detached: the handler is told of the depth being low no more often than of
its being high and multiples of the high threshold had been passed when it was attached; so no
more often where the depth was below that threshold. -/
theorem lows_le_highs_and_passed (a : Attachment α η) (since : List (Event α η))
    (h : a.InForce since) (hm : ∀ source, .move source a.queue ∉ since) :
    a.calls .low since ≤ a.calls .high since + a.depth [] / a.high := by
  obtain ⟨highest, -, hb⟩ := h.balanced hm
  exact hb.lows_le (Nat.zero_lt_of_lt h.low_lt_high)

/-- A handler with thresholds two and one, attached to a queue with three items. -/
def twoAndOne : Attachment Nat Unit :=
  ⟨[.addQueue 0, .call 0 (.push 1), .turn 0, .call 0 (.push 2), .turn 1, .call 0 (.push 3),
    .turn 2], 0, 2, 1, ()⟩

/-- One more item is stored and three are taken. -/
def oneStoredThreeTaken : List (Event Nat Unit) :=
  [.call 0 (.push 4), .turn 3, .tryPop 0, .tryPop 0, .tryPop 0]

/-- The fourth item is reported. The third and the first one that is left are answers, of which
the second one has no report. -/
theorem two_lows_after_one_high :
    twoAndOne.calls .high oneStoredThreeTaken = 1 ∧
      twoAndOne.calls .low oneStoredThreeTaken = 2 ∧
      twoAndOne.calls .low oneStoredThreeTaken ≤ 1 + twoAndOne.depth [] / 2 := by
  have hforce : twoAndOne.InForce oneStoredThreeTaken :=
    inForce_of_not_mem (by decide) ⟨_, rfl⟩ (by simp [oneStoredThreeTaken])
  have hhighs : twoAndOne.calls .high oneStoredThreeTaken = 1 := by decide
  have hle := lows_le_highs_and_passed twoAndOne oneStoredThreeTaken hforce
    (by simp [oneStoredThreeTaken])
  rw [hhighs] at hle
  exact ⟨hhighs, by decide, hle⟩

/-! ## The bound is attained -/

/-- Items are pushed by calls that go on, and taken without waiting. -/
def Exchanges (a : Attachment α η) (events : List (Event α η)) : Prop :=
  ∀ e ∈ events, (∃ item, e = .call a.queue (.push item)) ∨ (∃ c, e = .turn c) ∨
    e = .tryPop a.queue

/-- Pushes and removals detach no handler. -/
theorem Exchanges.inForce (he : a.Exchanges since) (h : a.InForce []) : a.InForce since := by
  refine inForce_of_not_mem h.exists_handle h.accepted fun handle hmem => ?_
  rcases he _ hmem with ⟨item, heq⟩ | ⟨c, heq⟩ | heq <;> cases heq

/-- What pushes and removals alone have made of an unbounded queue under watch. -/
structure Stands (a : Attachment α η) (since : List (Event α η)) (w : Watermark η)
    (depth highs lows : Nat) : Prop where
  /-- Nothing else has happened. -/
  exchanges : a.Exchanges since
  /-- The queue has no limit. -/
  unbounded : ((a.course since).system.queue a.queue).capacity = 0
  /-- It serves. -/
  serves : ((a.course since).system.queue a.queue).Serves
  /-- This is its watermark. -/
  watermark : ((a.course since).system.queue a.queue).watermark = some w
  /-- This is its depth. -/
  depth_eq : a.depth since = depth
  /-- So often it was reported to be high. -/
  highs_eq : a.calls .high since = highs
  /-- So often it was reported to be low. -/
  lows_eq : a.calls .low since = lows

variable {w : Watermark η} {depth highs lows : Nat}

/-- What a push or a removal makes of the ledger and what it reports is all that counts. -/
theorem Stands.onward (h : a.Stands since w depth highs lows) {more : List (Event α η)}
    (he : a.Exchanges more) {level : Level}
    {moved : Option (Watermark η)} {y : Queue α η} {depth' : Nat}
    (hl : ((a.course (since ++ more)).system.queue a.queue).ledger = y.remarked moved)
    (hu : y.capacity = 0) (hs : y.Serves) (hw : y.watermark = some w)
    (hd : y.items.length = depth')
    (hc : (a.course (since ++ more)).crossings =
      (a.course since).crossings ++ (told a.queue level moved).toList) :
    a.Stands (since ++ more) (moved.getD w) depth'
      (highs + if level = .high then moved.toList.length else 0)
      (lows + if level = .low then moved.toList.length else 0) := by
  have hcalls (level' : Level) : a.calls level' (since ++ more) =
      a.calls level' since + if level = level' then moved.toList.length else 0 := by
    rw [calls, reports_append hc, ← Option.toList_filter, System.filter_told, if_pos rfl,
      List.countP_append, countP_told]
    rfl
  have hwatermark : ((a.course (since ++ more)).system.queue a.queue).watermark =
      moved.or y.watermark := congrArg Queue.watermark hl
  refine ⟨fun e hmem => ?_, (congrArg Queue.capacity hl).trans hu, ?_, ?_, ?_, ?_, ?_⟩
  · exact (List.mem_append.mp hmem).elim (h.exchanges e) (he e)
  · exact ⟨(congrArg Queue.lifecycle hl).trans hs.1, (congrArg Queue.redirect hl).trans hs.2⟩
  · rw [hwatermark, hw, Option.or_some]
  · have hitems := congrArg Queue.items hl
    exact (congrArg List.length hitems).trans hd
  · rw [hcalls, h.highs_eq]
  · rw [hcalls, h.lows_eq]

/-- One more item can be pushed. -/
theorem Stands.push (h : a.Stands since w depth highs lows) (item : α) : ∃ later,
    a.Stands later ((w.crossUp (depth + 1)).getD w) (depth + 1)
      (highs + (w.crossUp (depth + 1)).toList.length) lows := by
  let c := (a.course since).system.callers.length
  have hfull : ((a.course since).system.queue a.queue).isFull = false := by
    rw [isFull, h.unbounded]
    rfl
  have hcourse : a.course (since ++ [.call a.queue (.push item), .turn c]) =
      (a.course since).afterPush a.queue item := by
    rw [List.append_cons, course_concat, course_concat]
    rfl
  obtain ⟨hledger, hcrossings⟩ := Course.afterPush_spec h.watermark h.serves hfull item
  have hdepth : ((a.course since).system.queue a.queue).items.length = depth := h.depth_eq
  rw [← hcourse, hdepth] at hledger hcrossings
  refine ⟨_, h.onward (by simp [Exchanges]) hledger h.unbounded h.serves h.watermark ?_
    hcrossings⟩
  exact List.length_append.trans (congrArg (· + 1) hdepth)

/-- One item can be taken. -/
theorem Stands.pop (h : a.Stands since w (depth + 1) highs lows) : ∃ later,
    a.Stands later ((w.crossDown depth).getD w) depth highs
      (lows + (w.crossDown depth).toList.length) := by
  obtain ⟨item, rest, hi⟩ := List.exists_cons_of_length_eq_add_one h.depth_eq
  have hrest : rest.length = depth := by
    have hlength := h.depth_eq
    rw [Attachment.depth, hi] at hlength
    exact Nat.succ.inj hlength
  obtain ⟨hledger, hcrossings⟩ := Course.tryPop_spec h.watermark h.serves hi
  rw [← course_concat, hrest] at hledger hcrossings
  exact ⟨_, h.onward (by simp [Exchanges]) hledger h.unbounded h.serves h.watermark hrest
    hcrossings⟩

/-- As many items can be pushed as leave the depth below the next multiple of the high
threshold. None of them is reported. -/
theorem Stands.climb (h : a.Stands since w depth highs lows) (item : α) {level : Nat}
    (hlevel : level * w.high ≤ depth) (more : Nat) (hmore : depth + more < (level + 1) * w.high) :
    ∃ later, a.Stands later w (depth + more) highs lows := by
  induction more with
  | zero => exact ⟨since, h⟩
  | succ more ih =>
    obtain ⟨later, hlater⟩ := ih (Nat.lt_of_succ_lt hmore)
    have hcross : ¬ w.high ∣ depth + more + 1 := by
      rw [Nat.mul_comm] at hlevel hmore
      exact Nat.not_dvd_of_lt_of_lt_mul_succ (by omega) hmore
    have hnone : w.crossUp (depth + more + 1) = none := by
      rw [Watermark.crossUp_eq_ite, if_neg hcross]
    obtain ⟨latest, hlatest⟩ := hlater.push item
    rw [hnone] at hlatest
    exact ⟨latest, hlatest⟩

/-- All items can be taken. Each report takes a multiple off, and in the end none is left. -/
theorem Stands.drain (h : a.Stands since w depth highs lows) (hw : w.low < w.high)
    (ht : w.Tracks depth) : ∃ later w' lows', a.Stands later w' 0 highs lows' ∧
      lows' * w.high = lows * w.high + w.highest := by
  induction depth generalizing since w lows with
  | zero =>
    have hzero := ht.highest_eq_zero hw (Nat.zero_le _)
    exact ⟨since, w, lows, h, by rw [hzero, Nat.add_zero]⟩
  | succ depth ih =>
    obtain ⟨later, hlater⟩ := h.pop
    obtain ⟨hhigh, hlow, -⟩ := (Watermark.Passes.down : w.Passes (depth + 1) _ depth).fixed
    obtain ⟨latest, w', lows', hlatest, hsum⟩ := ih hlater (by rw [hlow, hhigh]; exact hw)
      (ht.down hw)
    refine ⟨latest, w', lows', hlatest, ?_⟩
    rw [hhigh] at hsum
    rw [hsum, Nat.add_mul, Nat.add_assoc, ht.reported_add_highest]

/-- A handler was attached to an unbounded queue that holds something. -/
theorem InForce.stands_nil (h : a.InForce [])
    (hc : ((Course.after a.before).system.queue a.queue).capacity = 0)
    (hi : ((Course.after a.before).system.queue a.queue).items ≠ []) :
    a.Stands [] (a.mark 0) (a.depth []) 0 0 := by
  have hregular : ((a.course []).system.queue a.queue).Regular := Course.regular_after _ _
  have hqueue := h.queue_nil
  have hitems : ((a.course []).system.queue a.queue).items ≠ [] := by
    rw [hqueue]
    exact hi
  refine ⟨nofun, ?_, ⟨?_, ?_⟩, ?_, rfl, ?_, ?_⟩
  · rw [hqueue]
    exact hc
  · cases hl : ((a.course []).system.queue a.queue).lifecycle with
    | usable => rfl
    | destroyed => exact absurd (hregular.destroyed hl).1 hitems
  · by_contra hredirect
    exact hitems (hregular.redirected hredirect).1
  · rw [hqueue]
  · rw [calls, reports_nil, List.countP_nil]
  · rw [calls, reports_nil, List.countP_nil]

/-- Of an unbounded queue as many reports of the depth being low are possible: the depth climbs
to the next multiple of the high threshold, and then all items are taken. -/
theorem exists_lows_eq (a : Attachment α η) (h : a.InForce [])
    (hc : ((Course.after a.before).system.queue a.queue).capacity = 0) :
    ∃ since, a.Exchanges since ∧ a.InForce since ∧
      a.calls .low since = a.calls .high since + a.depth [] / a.high := by
  have hapart := h.low_lt_high
  have hpos := Nat.zero_lt_of_lt hapart
  cases hi : ((Course.after a.before).system.queue a.queue).items with
  | nil =>
    refine ⟨[], nofun, h, ?_⟩
    rw [h.depth_nil hi, Nat.zero_div, calls, calls, reports_nil]
    rfl
  | cons item rest =>
    let level := a.depth [] / a.high
    have hlevel : level * a.high ≤ a.depth [] := Nat.div_mul_le_self _ _
    have hnext : a.depth [] < (level + 1) * a.high :=
      Nat.lt_mul_of_div_lt (Nat.lt_succ_self _) hpos
    have hstart : a.Stands [] (a.mark 0) (a.depth []) 0 0 :=
      h.stands_nil hc (by rw [hi]; exact List.cons_ne_nil _ _)
    obtain ⟨climbed, hclimbed⟩ := hstart.climb item hlevel
      ((level + 1) * a.high - 1 - a.depth []) (by change _ < (level + 1) * a.high; omega)
    obtain ⟨reached, hreached⟩ := hclimbed.push item
    have hdepth : a.depth [] + ((level + 1) * a.high - 1 - a.depth []) + 1 =
        (level + 1) * a.high := by omega
    have hdvd : (a.mark 0).high ∣ (level + 1) * a.high := Nat.dvd_mul_left _ _
    rw [Watermark.crossUp_eq_ite, hdepth, if_pos hdvd] at hreached
    obtain ⟨drained, w', lows, hdrained, hsum⟩ := hreached.drain hapart
      (Watermark.tracks_of_dvd hdvd rfl)
    refine ⟨drained, hdrained.exchanges, hdrained.exchanges.inForce h, ?_⟩
    have hlows : lows = level + 1 := by
      refine Nat.eq_of_mul_eq_mul_right hpos (hsum.trans ?_)
      rw [Nat.zero_mul, Nat.zero_add]
      rfl
    rw [hdrained.highs_eq, hdrained.lows_eq, hlows, Nat.zero_add, Nat.add_comm]
    rfl

end Attachment

end Diameter.Queue
