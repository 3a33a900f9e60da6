import Diameter.Proofs.Queue.Hops

/-!
# Calls that others do not look at

What others do to a call is to wake it. So it makes no difference to them whether the stage of
a call is changed before or after what they do, as long as the change respects wake-ups. Main
statements: each event of others commutes with such a change, and a call that no wake-up
reaches stays at its stage.
-/

namespace Diameter.Queue

variable {α η : Type}

/-- The call that goes on, or gives up. -/
def Event.mover? : Event α η → Option CallerId
  | .turn c | .abandon c | .withdraw c _ | .depart c => some c
  | _ => none

/-- A wake-up before the change leads to the same stage as one after it. -/
def Stage.Respects (g : Stage α → Stage α) : Prop :=
  ∀ cause stage, g (stage.wake cause) = (g stage).wake cause

/-- No wake-up reaches a call at this stage. -/
def Stage.Deaf (stage : Stage α) : Prop := ∀ cause, stage.wake cause = stage

/-- Going to a stage that no wake-up reaches respects wake-ups. -/
theorem Stage.Deaf.respects {stage : Stage α} (h : stage.Deaf) :
    Stage.Respects fun _ => stage := fun cause _ => (h cause).symm

theorem Stage.deaf_ready (q : QueueId) (recalled : Bool) :
    (Stage.ready q recalled : Stage α).Deaf := fun _ => rfl

theorem Stage.deaf_woken (q : QueueId) (cause : WokenBy) :
    (Stage.woken q cause : Stage α).Deaf := fun _ => rfl

theorem Stage.deaf_dropped : (Stage.dropped : Stage α).Deaf := fun _ => rfl

/-- The effect with the stage of one call changed. -/
def Effect.modifyStage (e : Effect α η) (c : CallerId) (g : Stage α → Stage α) : Effect α η :=
  { e with system := e.system.modifyStage c g }

namespace System

variable {c : CallerId} {g : Stage α → Stage α}

/-! ## The call and the others -/

theorem queue_modifyStage (s : System α η) (q : QueueId) :
    (s.modifyStage c g).queue q = s.queue q := rfl

/-- Other calls stay as they are. -/
theorem callers_modifyStage_other (s : System α η) {d : CallerId} (hd : c ≠ d) :
    (s.modifyStage c g).callers[d]? = s.callers[d]? :=
  List.getElem?_modify_ne _ _ hd

/-- Two changes commute if they are made to two calls, or if it does not matter to the call
which comes first. -/
theorem modifyStage_comm (s : System α η) {d : CallerId} {f : Stage α → Stage α}
    (h : c = d → ∀ stage, f (g stage) = g (f stage)) :
    (s.modifyStage c g).modifyStage d f = (s.modifyStage d f).modifyStage c g := by
  have hcallers : (s.callers.modify c fun x => { x with stage := g x.stage }).modify d
        (fun x => { x with stage := f x.stage }) =
      (s.callers.modify d fun x => { x with stage := f x.stage }).modify c
        fun x => { x with stage := g x.stage } := by
    apply List.ext_getElem?
    intro i
    simp only [List.getElem?_modify]
    cases s.callers[i]? with
    | none => rfl
    | some x =>
      by_cases hc : c = i
      · by_cases hd : d = i
        · simp [hc, hd, h (hc.trans hd.symm)]
        · simp [hc, hd]
      · simp [hc]
  simp only [modifyStage, hcallers]

theorem setStage_modifyStage_other (s : System α η) {d : CallerId} (stage : Stage α) (hd : c ≠ d) :
    (s.modifyStage c g).setStage d stage = (s.setStage d stage).modifyStage c g :=
  modifyStage_comm s fun h => absurd h hd

theorem modifyWaiting_modifyStage (s : System α η) (q : QueueId) (side : Side)
    (f : Waiting → Waiting) :
    (s.modifyStage c g).modifyWaiting q side f = (s.modifyWaiting q side f).modifyStage c g := rfl

theorem schedule_modifyStage (s : System α η) (d : CallerId) :
    (s.modifyStage c g).schedule d = (s.schedule d).modifyStage c g := by
  rw [schedule, schedule, apply_ite fun s : System α η => s.modifyStage c g]
  rfl

/-! ## Wake-ups -/

/-- Waking a call commutes with a change that respects wake-ups. -/
theorem wake_modifyStage (hg : Stage.Respects g) (s : System α η) (cause : WokenBy)
    (d : CallerId) : (s.modifyStage c g).wake cause d = (s.wake cause d).modifyStage c g := by
  rw [wake, wake, modifyStage_comm s fun _ stage => (hg cause stage).symm, schedule_modifyStage]

theorem wakeOne_modifyStage (hg : Stage.Respects g) (s : System α η) (q : QueueId) (side : Side) :
    (s.modifyStage c g).wakeOne q side = (s.wakeOne q side).modifyStage c g := by
  simp only [wakeOne, queue_modifyStage, modifyWaiting_modifyStage]
  split
  · rw [wake_modifyStage hg]
  · rfl

theorem wakeAll_modifyStage (hg : Stage.Respects g) (s : System α η) (q : QueueId) (side : Side) :
    (s.modifyStage c g).wakeAll q side = (s.wakeAll q side).modifyStage c g := by
  have hall (all : List CallerId) (s : System α η) :
      all.foldl (fun s d => s.wake .all d) (s.modifyStage c g) =
        (all.foldl (fun s d => s.wake .all d) s).modifyStage c g := by
    induction all generalizing s with
    | nil => rfl
    | cons d all ih => rw [List.foldl_cons, List.foldl_cons, wake_modifyStage hg, ih]
  rw [wakeAll, wakeAll, queue_modifyStage, modifyWaiting_modifyStage, hall]

theorem wakeTimes_modifyStage (hg : Stage.Respects g) (s : System α η) (q : QueueId)
    (side : Side) (n : Nat) :
    (s.modifyStage c g).wakeTimes q side n = (s.wakeTimes q side n).modifyStage c g := by
  induction n generalizing s with
  | zero => rfl
  | succ n ih => rw [wakeTimes, wakeTimes, wakeOne_modifyStage hg, ih]

theorem wakeIf_modifyStage (hg : Stage.Respects g) (s : System α η) (q : QueueId) (side : Side)
    (p : Prop) [Decidable p] :
    (if p then (s.modifyStage c g).wakeOne q side else s.modifyStage c g) =
      (if p then s.wakeOne q side else s).modifyStage c g := by
  split_ifs
  · exact wakeOne_modifyStage hg s q side
  · rfl

/-! ## Items that come and go -/

theorem report_modifyStage (s : System α η) (q : QueueId) (level : Level)
    (moved : Option (Watermark η)) :
    (s.modifyStage c g).report q level moved =
      ((s.report q level moved).1.modifyStage c g, (s.report q level moved).2) := by
  cases moved <;> rfl

theorem store_modifyStage (hg : Stage.Respects g) (s : System α η) (q : QueueId) (item : α) :
    (s.modifyStage c g).store q item =
      ((s.store q item).1.modifyStage c g, (s.store q item).2) := by
  have happend : (s.modifyStage c g).modifyQueue q (·.append item) =
      (s.modifyQueue q (·.append item)).modifyStage c g := rfl
  unfold store
  dsimp only
  rw [happend, queue_modifyStage, wakeIf_modifyStage hg, wakeIf_modifyStage hg,
    report_modifyStage]

theorem takeHead_modifyStage (hg : Stage.Respects g) (s : System α η) (q : QueueId)
    (rest : List α) :
    (s.modifyStage c g).takeHead q rest =
      ((s.takeHead q rest).1.modifyStage c g, (s.takeHead q rest).2) := by
  have hrest : (s.modifyStage c g).modifyQueue q (·.withoutHead rest) =
      (s.modifyQueue q (·.withoutHead rest)).modifyStage c g := rfl
  unfold takeHead
  dsimp only
  rw [hrest, queue_modifyStage, wakeIf_modifyStage hg, report_modifyStage]

/-! ## Other calls -/

theorem suspend_modifyStage (s : System α η) (q : QueueId) (side : Side) {d : CallerId}
    (hd : c ≠ d) : (s.modifyStage c g).suspend q side d = (s.suspend q side d).modifyStage c g := by
  unfold suspend
  rw [queue_modifyStage]
  split_ifs
  · rw [modifyWaiting_modifyStage, setStage_modifyStage_other _ _ hd]
  · rw [modifyWaiting_modifyStage, setStage_modifyStage_other _ _ hd]

/-- Another call that looks at a queue commutes with the change. -/
theorem examine_modifyStage (hg : Stage.Respects g) (s : System α η) {d : CallerId} (hd : c ≠ d)
    (r : Request α) (q : QueueId) :
    (s.modifyStage c g).examine d r q =
      ((s.examine d r q).1.modifyStage c g, (s.examine d r q).2) := by
  have hset (stage : Stage α) := setStage_modifyStage_other (g := g) s stage hd
  unfold examine
  dsimp only
  rw [queue_modifyStage]
  split
  · exact congrArg (·, none) (hset _)
  · exact congrArg (·, none) (hset _)
  · exact congrArg (·, none) (hset _)
  · split_ifs
    · exact congrArg (·, none) (suspend_modifyStage s q _ hd)
    · rw [hset, store_modifyStage hg]
  · split
    · exact congrArg (·, none) (suspend_modifyStage s q _ hd)
    · rw [hset, takeHead_modifyStage hg]

theorem turn_modifyStage (hg : Stage.Respects g) (s : System α η) {d : CallerId} (hd : c ≠ d) :
    (s.modifyStage c g).turn d = ((s.turn d).1.modifyStage c g, (s.turn d).2) := by
  unfold turn
  rw [callers_modifyStage_other s hd]
  split
  · exact examine_modifyStage hg s hd _ _
  · rw [modifyWaiting_modifyStage, setStage_modifyStage_other _ _ hd]
  · rfl

theorem withdraw_modifyStage (s : System α η) {d : CallerId} (hd : c ≠ d) (late : Bool) :
    (s.modifyStage c g).withdraw d late = (s.withdraw d late).modifyStage c g := by
  unfold withdraw
  rw [callers_modifyStage_other s hd]
  split
  · rw [modifyWaiting_modifyStage, setStage_modifyStage_other _ _ hd]
  · rw [modifyWaiting_modifyStage, setStage_modifyStage_other _ _ hd]
  · rfl

theorem depart_modifyStage (hg : Stage.Respects g) (s : System α η) {d : CallerId} (hd : c ≠ d) :
    (s.modifyStage c g).depart d = (s.depart d).modifyStage c g := by
  unfold depart
  rw [callers_modifyStage_other s hd]
  split
  · dsimp only
    rw [setStage_modifyStage_other s _ hd]
    split
    · rfl
    · exact wakeOne_modifyStage hg _ _ _
    · rfl
  · rfl

theorem abandon_modifyStage (s : System α η) {d : CallerId} (hd : c ≠ d) :
    (s.modifyStage c g).abandon d = (s.abandon d).modifyStage c g := by
  unfold abandon
  rw [callers_modifyStage_other s hd]
  split
  · exact setStage_modifyStage_other _ _ hd
  · rfl

/-- A new call commutes with the change. -/
theorem addCaller_modifyStage (s : System α η) (hc : c < s.callers.length) (q : QueueId)
    (r : Request α) : ((s.modifyStage c g).addCaller q r).2 =
      (s.addCaller q r).2.modifyStage c g := by
  have hcallers : (s.callers.modify c fun x => { x with stage := g x.stage }) ++
        [Caller.mk r (.ready q false)] =
      (s.callers ++ [Caller.mk r (.ready q false)]).modify c
        fun x => { x with stage := g x.stage } := by
    apply List.ext_getElem?
    intro i
    simp only [List.getElem?_append, List.getElem?_modify, List.length_modify]
    split_ifs with hi hci hci
    · rfl
    · rfl
    · exact absurd (hci ▸ hc) hi
    · simp
  have hs := schedule_modifyStage (c := c) (g := g)
    { s with callers := s.callers ++ [Caller.mk r (.ready q false)] } s.callers.length
  rw [modifyStage] at hs
  dsimp only at hs
  rw [← hcallers] at hs
  simp only [addCaller, modifyStage, List.length_modify]
  exact hs

/-! ## Handles -/

theorem serving_modifyStage (s : System α η) (q : QueueId) :
    (s.modifyStage c g).serving q = s.serving q := by
  have hw (hops : Nat) (q : QueueId) :
      (s.modifyStage c g).servingWithin hops q = s.servingWithin hops q := by
    induction hops generalizing q with
    | zero => rfl
    | succ hops ih =>
      unfold servingWithin
      rw [queue_modifyStage]
      simp only [ih]
  exact hw _ q

theorem tryPop_modifyStage (hg : Stage.Respects g) (s : System α η) (q : QueueId) :
    (s.modifyStage c g).tryPop q =
      ((s.tryPop q).1, (s.tryPop q).2.1.modifyStage c g, (s.tryPop q).2.2) := by
  unfold tryPop
  dsimp only
  rw [serving_modifyStage, queue_modifyStage]
  split
  · rfl
  · rfl
  · rw [takeHead_modifyStage hg]

theorem setThresholds_modifyStage (s : System α η) (q : QueueId) (high low : Nat) (handler : η) :
    (s.modifyStage c g).setThresholds q high low handler =
      Prod.map id (·.modifyStage c g) (s.setThresholds q high low handler) := by
  unfold setThresholds
  dsimp only
  rw [serving_modifyStage, queue_modifyStage]
  split_ifs <;> rfl

theorem clearThresholds_modifyStage (s : System α η) (q : QueueId) :
    (s.modifyStage c g).clearThresholds q =
      ((s.clearThresholds q).1, (s.clearThresholds q).2.modifyStage c g) := by
  unfold clearThresholds
  dsimp only
  rw [serving_modifyStage]
  rfl

theorem move_modifyStage (hg : Stage.Respects g) (s : System α η) (source target : QueueId) :
    (s.modifyStage c g).move source target =
      Prod.map id (Prod.map (·.modifyStage c g) id) (s.move source target) := by
  have hqueue (t : System α η) (q : QueueId) (f : Queue α η → Queue α η) :
      (t.modifyStage c g).modifyQueue q f = (t.modifyQueue q f).modifyStage c g := rfl
  have ho : (s.modifyStage c g).moveObstacle source target = s.moveObstacle source target := rfl
  rw [move_eq, move_eq, ho]
  cases s.moveObstacle source target with
  | some e => rfl
  | none =>
    dsimp only [spliced]
    rw [queue_modifyStage, queue_modifyStage, hqueue, hqueue, wakeTimes_modifyStage hg,
      wakeAll_modifyStage hg, report_modifyStage]
    rfl

theorem close_modifyStage (s : System α η) (q : QueueId) :
    (s.modifyStage c g).close q = Prod.map id (·.modifyStage c g) (s.close q) := by
  unfold close
  dsimp only
  rw [queue_modifyStage]
  split_ifs <;> rfl

/-! ## Events of others -/

theorem outcome?_modifyStage_other (s : System α η) {d : CallerId} (hd : c ≠ d) :
    (s.modifyStage c g).outcome? d = s.outcome? d := by
  rw [outcome?, outcome?, callers_modifyStage_other s hd]

theorem takenBy?_modifyStage_other (s : System α η) {d : CallerId} (hd : c ≠ d) :
    (s.modifyStage c g).takenBy? d = s.takenBy? d := by
  rw [takenBy?, takenBy?, outcome?_modifyStage_other s hd]

/-- An event of others commutes with a change of the stage of a call. -/
theorem perform_modifyStage (hg : Stage.Respects g) {s : System α η} (hc : c < s.callers.length)
    {e : Event α η} (he : e.mover? ≠ some c) :
    (s.modifyStage c g).perform e = (s.perform e).modifyStage c g := by
  have hmover {d : CallerId} (h : e.mover? = some d) : c ≠ d := fun hcd => he (hcd ▸ h)
  cases e with
  | addQueue capacity => rfl
  | call handle r =>
    have hqueues : (s.modifyStage c g).queues = s.queues := rfl
    simp only [perform, hqueues, addCaller_modifyStage s hc]
    split_ifs <;> rfl
  | turn d =>
    have hd := hmover rfl
    simp only [perform, turn_modifyStage hg s hd, outcome?_modifyStage_other _ hd,
      takenBy?_modifyStage_other _ hd]
    rfl
  | abandon d =>
    simp only [perform, abandon_modifyStage s (hmover rfl)]
    rfl
  | withdraw d late =>
    have hd := hmover rfl
    have htimed : (s.modifyStage c g).isTimed d = s.isTimed d := by
      rw [isTimed, isTimed, callers_modifyStage_other s hd]
    simp only [perform, withdraw_modifyStage s hd, htimed]
    split_ifs <;> rfl
  | depart d =>
    simp only [perform, depart_modifyStage hg s (hmover rfl)]
    rfl
  | tryPop handle =>
    simp only [perform, tryPop_modifyStage hg]
    rcases s.tryPop handle with ⟨_ | item, after, crossing⟩ <;> rfl
  | setThresholds handle high low handler =>
    simp only [perform, setThresholds_modifyStage]
    rfl
  | clearThresholds handle =>
    simp only [perform, clearThresholds_modifyStage]
    rfl
  | move source target =>
    have hqueues : (s.modifyStage c g).queues = s.queues := rfl
    simp only [perform, hqueues, move_modifyStage hg]
    split_ifs <;> rfl
  | close q =>
    simp only [perform, close_modifyStage]
    rfl
  | wakeAll q side =>
    simp only [perform, queue_modifyStage, wakeAll_modifyStage hg]
    split_ifs <;> rfl

end System

namespace Course

/-- A call keeps its request. -/
theorem Charted.request_next {k : Course α η} (hk : k.Charted) {c : CallerId} {r : Request α}
    {stage : Stage α} (hc : k.system.callers[c]? = some ⟨r, stage⟩) (e : Event α η) :
    ∃ stage', (k.next e).system.callers[c]? = some ⟨r, stage'⟩ := by
  have hcall : k.system.outline.calls[c]? = some (r, stage.spot) := by
    rw [System.outline_calls_getElem?, hc, Option.map_some]
  obtain ⟨spot, hspot⟩ : ∃ spot, (k.next e).system.outline.calls[c]? = some (r, spot) := by
    rcases (hk.step e).calls with ho | ⟨r', q, -, ho⟩ | ⟨d, r', q, spot, hd, ho⟩
    · exact ⟨_, ho ▸ hcall⟩
    · have hl := (List.getElem?_eq_some_iff.mp hcall).1
      exact ⟨_, by rw [ho, List.getElem?_append_left hl, hcall]⟩
    · rw [ho, List.getElem?_set]
      split_ifs with hdc hl
      · subst hdc
        rw [hcall] at hd
        obtain ⟨rfl, -⟩ := Prod.mk.inj (Option.some.inj hd)
        exact ⟨spot, rfl⟩
      · exact absurd (hdc ▸ (List.getElem?_eq_some_iff.mp hcall).1) hl
      · exact ⟨_, hcall⟩
  rw [System.outline_calls_getElem?, Option.map_eq_some_iff] at hspot
  obtain ⟨⟨r', stage'⟩, hget, he⟩ := hspot
  obtain ⟨rfl, -⟩ := Prod.mk.inj he
  exact ⟨stage', hget⟩

/-- A call that no wake-up reaches stays at its stage until it goes on or gives up itself: writing
the stage that is there commutes with the event, so it is there afterwards. -/
theorem Charted.next_of_deaf {k : Course α η} (hk : k.Charted) {c : CallerId} {r : Request α}
    {stage : Stage α} (hc : k.system.callers[c]? = some ⟨r, stage⟩) (hs : stage.Deaf)
    {e : Event α η} (he : e.mover? ≠ some c) :
    (k.next e).system.callers[c]? = some ⟨r, stage⟩ := by
  have hl := (List.getElem?_eq_some_iff.mp hc).1
  have hwrite := System.perform_modifyStage hs.respects hl he
  have hsame : k.system.modifyStage c (fun _ => stage) = k.system := System.setStage_self hc
  rw [hsame] at hwrite
  have hsystem : (k.next e).system = (k.next e).system.setStage c stage :=
    congrArg Effect.system hwrite
  obtain ⟨stage', hget⟩ := hk.request_next hc e
  rw [hsystem]
  exact System.callers_setStage hget

/-- A call that was woken, or left the count after it was, stays so until it goes on or gives
up. -/
theorem Charted.next_of_woken {k : Course α η} (hk : k.Charted) {c : CallerId} {r : Request α}
    {stage : Stage α} (hc : k.system.callers[c]? = some ⟨r, stage⟩) {q : QueueId}
    (hs : stage = .woken q .all ∨ stage = .ready q true) {e : Event α η} (ht : e ≠ .turn c)
    (hw : ∀ late, e ≠ .withdraw c late) :
    (k.next e).system.callers[c]? = some ⟨r, stage⟩ := by
  by_cases he : e.mover? = some c
  · have hsame : (k.next e).system = k.system := by
      cases e with
      | turn d => exact absurd (congrArg Event.turn (Option.some.inj he)) ht
      | withdraw d late =>
        exact absurd (congrArg (Event.withdraw · late) (Option.some.inj he)) (hw late)
      | abandon d =>
        obtain rfl := Option.some.inj he
        simp only [Course.next, System.perform, System.quietly, System.abandon, hc]
        rcases hs with rfl | rfl <;> rfl
      | depart d =>
        obtain rfl := Option.some.inj he
        simp only [Course.next, System.perform, System.quietly, System.depart, hc]
        rcases hs with rfl | rfl <;> rfl
      | _ => cases he
    rw [hsame, hc]
  · refine hk.next_of_deaf hc ?_ he
    rcases hs with rfl | rfl
    · exact Stage.deaf_woken q .all
    · exact Stage.deaf_ready q true

/-- The same over many events. -/
theorem Charted.extend_of_woken {k : Course α η} (hk : k.Charted) {c : CallerId} {r : Request α}
    {stage : Stage α} (hc : k.system.callers[c]? = some ⟨r, stage⟩) {q : QueueId}
    (hs : stage = .woken q .all ∨ stage = .ready q true) {events : List (Event α η)}
    (he : ∀ e ∈ events, e ≠ .turn c ∧ ∀ late, e ≠ .withdraw c late) :
    (k.extend events).system.callers[c]? = some ⟨r, stage⟩ := by
  induction events generalizing k with
  | nil => exact hc
  | cons e events ih =>
    obtain ⟨⟨ht, hw⟩, hrest⟩ := List.forall_mem_cons.mp he
    exact ih (hk.next e) (hk.next_of_woken hc hs ht hw) hrest

end Course

end Diameter.Queue
