import Diameter.Proofs.Queue.Crossings

/-!
# Items that arrive at once

A queue that is moved brings all its items to its target at once. The watermark of the target
reports that in its own way: it compares the multiple of the high threshold below the new depth
with the last crossing that is unanswered. Main statement: the target holds the same items, and
remembers the same greatest depth and the same crossing, as if the items had been pushed one by
one. Its handler is told once if a push would have told it, and not at all otherwise, with one
exception: where the pushes would report one crossing, which is unanswered from an earlier
visit, the move says nothing.
-/

namespace Diameter.Queue

variable {α η : Type}

/-- What is told of items that arrived at once. -/
theorem told_absorb (q : QueueId) (w : Watermark η) (depth : Nat) :
    told q .high (w.absorb depth) =
      if (w.absorb depth).isNone then none else some ⟨q, .high, w.handler⟩ := by
  unfold Watermark.absorb
  dsimp only
  by_cases hraised : w.highest < depth - depth % w.high
  · rw [if_pos hraised]
    rfl
  · rw [if_neg hraised]
    rfl

namespace Course

/-- An item is pushed by a call that goes on at once. -/
def afterPush (k : Course α η) (q : QueueId) (item : α) : Course α η :=
  (k.next (.call q (.push item))).next (.turn k.system.callers.length)

/-- Items are pushed one by one. -/
def afterPushes (k : Course α η) (q : QueueId) (items : List α) : Course α η :=
  items.foldl (fun k item => k.afterPush q item) k

variable {k : Course α η} {q : QueueId}

/-- The last item of many is pushed after all others. -/
theorem afterPushes_concat (k : Course α η) (q : QueueId) (items : List α) (item : α) :
    k.afterPushes q (items ++ [item]) = (k.afterPushes q items).afterPush q item := by
  rw [afterPushes, List.foldl_append]
  rfl

/-- What a push makes of a watched queue that serves and has room, and what it reports. -/
theorem afterPush_spec {w : Watermark η} (hw : (k.system.queue q).watermark = some w)
    (hs : (k.system.queue q).Serves) (hf : (k.system.queue q).isFull = false) (item : α) :
    let x := k.system.queue q
    ((k.afterPush q item).system.queue q).ledger =
        (x.ledger.append item).remarked (w.crossUp (x.items.length + 1)) ∧
      (k.afterPush q item).crossings =
        k.crossings ++ (told q .high (w.crossUp (x.items.length + 1))).toList := by
  intro x
  let s := (k.system.addCaller q (.push item)).2.setStage k.system.callers.length (.ended .stored)
  have hqueue : s.queue q = x := System.queue_addCaller k.system q (.push item) q
  have hnext : (k.afterPush q item).system = (s.store q item).1 ∧
      (k.afterPush q item).crossings = k.crossings ++ (s.store q item).2.toList := by
    have hcaller := System.callers_addCaller k.system q (.push item)
    have hcalled := System.queue_addCaller k.system q (.push item) q
    rw [afterPush, next_call (System.lt_length_of_watermark hw), next]
    simp only [System.perform, System.turn, hcaller, System.examine, hcalled, hs.1, hs.2, hf,
      Bool.false_eq_true, if_false]
    exact ⟨rfl, rfl⟩
  have hlength : q < s.queues.length :=
    System.lt_length_of_watermark ((congrArg Queue.watermark hqueue).trans hw)
  rw [hnext.1, hnext.2, System.ledger_store s hlength, if_pos rfl, System.store_snd, hqueue, hw]
  exact ⟨rfl, rfl⟩

/-- What arrived at once and one push more is as good as what arrives at once with it. -/
theorem append_extended {x : Queue α η} {w : Watermark η} (hw : x.watermark = some w)
    (ht : w.Tracks x.items.length) (items : List α) (item : α) :
    let depth := x.items.length + items.length
    (((x.extended items).remarked (w.absorb depth)).append item).remarked
        (((w.absorb depth).getD w).crossUp (depth + 1)) =
      (x.extended (items ++ [item])).remarked (w.absorb (depth + 1)) := by
  intro depth
  have hlength : (x.items ++ items).length = depth := List.length_append
  have hgreatest : max (max x.highestEver depth) (depth + 1) = max x.highestEver (depth + 1) := by
    omega
  have hmoved : (((w.absorb depth).getD w).crossUp (depth + 1)).or
      ((w.absorb depth).or (some w)) = (w.absorb (depth + 1)).or (some w) := by
    rw [Option.or_some, Option.or_some, Option.or_some]
    exact congrArg some (ht.crossUp_absorb items.length)
  simp only [remarked, append, extended, hw, ← List.append_assoc, List.length_append,
    List.length_singleton, hgreatest, hlength, hmoved]

/-- A push reports exactly the multiples of the high threshold. -/
theorem toList_told_crossUp (q : QueueId) (w : Watermark η) (depth : Nat) :
    (told q .high (w.crossUp (depth + 1))).toList =
      List.replicate ((depth + 1) / w.high - depth / w.high) ⟨q, .high, w.handler⟩ := by
  rw [Watermark.crossUp_eq_ite, Nat.succ_div]
  split_ifs with hcross
  · rw [Nat.add_sub_cancel_left]
    rfl
  · rw [Nat.add_zero, Nat.sub_self]
    rfl

/-- What pushes make of a watched queue that has room for them, and what they report: as many
crossings as there are multiples of the high threshold on the way. -/
theorem afterPushes_spec {w : Watermark η} (hw : (k.system.queue q).watermark = some w)
    (hs : (k.system.queue q).Serves) (hr : (k.system.queue q).Regular)
    (ht : w.Tracks (k.system.queue q).items.length) (items : List α)
    (hroom : 0 < (k.system.queue q).capacity →
      (k.system.queue q).items.length + items.length ≤ (k.system.queue q).capacity) :
    let x := k.system.queue q
    let depth := x.items.length
    ((k.afterPushes q items).system.queue q).ledger =
        (x.ledger.extended items).remarked (w.absorb (depth + items.length)) ∧
      (k.afterPushes q items).crossings = k.crossings ++
        List.replicate ((depth + items.length) / w.high - depth / w.high)
          ⟨q, .high, w.handler⟩ := by
  intro x depth
  induction items using List.reverseRecOn with
  | nil =>
    have hsame : x.ledger.extended [] = x.ledger := by
      rw [extended, List.append_nil, Nat.max_eq_left hr.ledger.noticed, ← hr.ledger.shown]
    rw [List.length_nil, Nat.add_zero, ht.absorb_self, hsame, Nat.sub_self]
    exact ⟨rfl, (List.append_nil _).symm⟩
  | append_singleton items item ih =>
    rw [List.length_append, List.length_singleton, ← Nat.add_assoc] at hroom ⊢
    obtain ⟨hledger, hcrossings⟩ := ih fun hc => Nat.le_of_succ_le (hroom hc)
    let y := (k.afterPushes q items).system.queue q
    let v := (w.absorb (depth + items.length)).getD w
    have hywatermark : y.watermark = some v := by
      have hmoved : y.watermark = (w.absorb (depth + items.length)).or x.watermark :=
        congrArg Queue.watermark hledger
      rw [hmoved, hw, Option.or_some]
    have hyitems : y.items = x.items ++ items := congrArg Queue.items hledger
    have hyserves : y.Serves :=
      ⟨(congrArg Queue.lifecycle hledger).trans hs.1, (congrArg Queue.redirect hledger).trans hs.2⟩
    have hycapacity : y.capacity = x.capacity := by
      have hcapacity := congrArg Queue.capacity hledger
      exact hcapacity
    have hydepth : y.items.length = depth + items.length := by
      rw [hyitems, List.length_append]
    have hyfull : y.isFull = false := by
      rw [isFull, hycapacity, hydepth]
      simp only [Bool.and_eq_false_imp, decide_eq_true_eq, decide_eq_false_iff_not]
      exact fun hc => Nat.not_le_of_lt (hroom hc)
    obtain ⟨hpushed, htold⟩ := afterPush_spec hywatermark hyserves hyfull item
    rw [afterPushes_concat, hpushed, htold, hydepth, toList_told_crossUp, hcrossings, hledger]
    refine ⟨append_extended (x := x.ledger) hw ht items item, ?_⟩
    have hv : v.high = w.high ∧ v.handler = w.handler := by
      obtain ⟨hhigh, -, hhandler⟩ :=
        (Watermark.Passes.leap items.length : w.Passes depth _ _).fixed
      exact ⟨hhigh, hhandler⟩
    have hle : depth / w.high ≤ (depth + items.length) / w.high :=
      Nat.div_le_div_right (Nat.le_add_right _ _)
    have hle' : (depth + items.length) / w.high ≤ (depth + items.length + 1) / w.high :=
      Nat.div_le_div_right (Nat.le_succ _)
    rw [hv.1, hv.2, List.append_assoc, List.replicate_append_replicate]
    congr 2
    omega

end Course

namespace Attachment

/-- Of a handler that was attached to a queue without items and has not been detached: a queue
that is moved here leaves the same ledger as pushes of its items one by one, which has the
items behind those that were here, the greatest depth and the watermark. It tells the handler
of the depth being high once if the pushes do so at all, and not if they do not, unless they
tell of a single crossing that is still unanswered. -/
theorem move_agrees_with_pushes (a : Attachment α η) (since : List (Event α η))
    (h : a.InForce since)
    (hempty : ((Course.after a.before).system.queue a.queue).items = []) {source : QueueId}
    (hs : source < (a.course since).system.queues.length) {moved : System α η}
    {crossing : Option (Crossing η)}
    (hm : (a.course since).system.move source a.queue = (.ok (), moved, crossing)) :
    let k := a.course since
    let x := k.system.queue a.queue
    let arriving := (k.system.queue source).items
    let pushed := k.afterPushes a.queue arriving
    (moved.queue a.queue).ledger = (pushed.system.queue a.queue).ledger ∧
      (moved.queue a.queue).items = x.items ++ arriving ∧
      ∃ highest calls, x.watermark = some (a.mark highest) ∧
        pushed.crossings = k.crossings ++ List.replicate calls ⟨a.queue, .high, a.handler⟩ ∧
        crossing = if calls = 0 ∨ calls = 1 ∧ x.items.length < highest then none
          else some ⟨a.queue, .high, a.handler⟩ := by
  intro k x arriving pushed
  obtain ⟨highest, hw, ht, -⟩ := h.pending_iff hempty
  have hqueue : a.queue < k.system.queues.length := System.lt_length_of_watermark hw
  have ho := System.moveObstacle_of_move hm
  obtain ⟨-, hlifecycle, hredirect, -⟩ := System.moveObstacle_eq_none ho
  obtain ⟨hledger, hcrossings⟩ := Course.afterPushes_spec hw ⟨hlifecycle.2, hredirect.2⟩
    (Course.regular_after _ _) ht arriving (System.fits_of_moveObstacle ho).2
  have hmoved := System.ledger_move hs hqueue hm a.queue
  have htold := System.move_snd hm
  rw [if_pos rfl, hw, Option.bind_some, List.length_append] at hmoved
  rw [hw, Option.bind_some, List.length_append] at htold
  refine ⟨hmoved.trans hledger.symm, congrArg Queue.items hmoved, highest, _, hw, hcrossings, ?_⟩
  rw [htold, told_absorb]
  exact if_congr (Option.isNone_iff_eq_none.trans
    (ht.absorb_eq_none_iff h.low_lt_high arriving.length)) rfl rfl

/-- A handler with thresholds four and one, attached to the second of two new queues. -/
def fourAndOne : Attachment Nat Unit := ⟨[.addQueue 0, .addQueue 0], 1, 4, 1, ()⟩

/-- Four items are stored there and one of them is taken. The other queue has one, too. -/
def fourStoredOneTaken : List (Event Nat Unit) :=
  [.call 1 (.push 1), .turn 0, .call 1 (.push 2), .turn 1, .call 1 (.push 3), .turn 2,
    .call 1 (.push 4), .turn 3, .tryPop 1, .call 0 (.push 5), .turn 4]

/-- The fourth item is there again, and nothing has answered the crossing of the first time.
If it is pushed it is reported once more; if it arrives by a move it is not. -/
theorem fourth_unreported_by_move :
    let k := fourAndOne.course fourStoredOneTaken
    ∃ moved, k.system.move 0 1 = (.ok (), moved, none) ∧
      (moved.queue 1).items = [2, 3, 4, 5] ∧
      (moved.queue 1).ledger = ((k.afterPushes 1 [5]).system.queue 1).ledger ∧
      (k.afterPushes 1 [5]).crossings = k.crossings ++ [⟨1, .high, ()⟩] := by
  intro k
  have hforce : fourAndOne.InForce fourStoredOneTaken :=
    inForce_of_not_mem (by decide) ⟨_, rfl⟩ (by simp [fourStoredOneTaken])
  obtain ⟨moved, hm⟩ : ∃ moved, (fourAndOne.course fourStoredOneTaken).system.move 0 1 =
      (.ok (), moved, none) := ⟨_, rfl⟩
  have hsource : 0 < k.system.queues.length := by decide
  obtain ⟨hledger, hitems, -⟩ :=
    move_agrees_with_pushes fourAndOne fourStoredOneTaken hforce (by decide) hsource hm
  exact ⟨moved, hm, hitems.trans (by decide), hledger.trans rfl, by decide⟩

end Attachment

end Diameter.Queue
