import Diameter.Proofs.Queue.Attempts
import Diameter.Proofs.Queue.NoLostWakeup
import Diameter.Queue.Scenario

/-!
# Handles of a queue that was moved

A queue that was moved stays empty and has another one serve its handles until it is destroyed.
Main statement: through its handles every operation has the result and the effect that it has
through the handles of the queue it was moved into, whatever becomes of that one, and consumers
that were parked at it go there.
-/

namespace Diameter.Queue

variable {α η : Type}

/-- The stage of a call that has not looked yet, had it been made through another handle. -/
def Stage.divert (q : QueueId) : Stage α → Stage α
  | .ready _ false => .ready q false
  | stage => stage

theorem Stage.respects_divert (q : QueueId) : Stage.Respects (Stage.divert (α := α) q) := by
  intro cause stage
  cases stage with
  | ready p recalled => cases recalled <;> rfl
  | leaving p held late => cases held <;> rfl
  | _ => rfl

namespace Outline

/-- The queue was moved into the other one, or it refuses. -/
def Bound (o : Outline α) (a b : QueueId) : Prop :=
  ∃ x, o.faces[a]? = some x ∧ (x.lifecycle = .destroyed ∨ x.redirect = some b)

/-- A queue that was moved stays so, or comes to refuse. -/
theorem Step.bound {o o' : Outline α} {made : Option (Request α)} {taken : Option (Taking α)}
    (h : o.Step made taken o') {a b : QueueId} (hb : o.Bound a b) : o'.Bound a b := by
  obtain ⟨x, hx, hb⟩ := hb
  obtain ⟨x', hx', hl | ⟨hu, -, hr | hn⟩⟩ := h.face hx
  · exact ⟨x', hx', .inl hl⟩
  · refine ⟨x', hx', .inr ?_⟩
    rcases hb with hd | hb
    · cases hd.symm.trans hu
    · rw [hr, hb]
  · rcases hb with hd | hb
    · cases hd.symm.trans hu
    · cases hn.symm.trans hb

end Outline

namespace System

/-- A queue that was moved is empty. -/
theorem items_of_bound {s : System α η} (hc : s.outline.Cleared) {a b : QueueId}
    (h : s.outline.Bound a b) : (s.queue a).items = [] := by
  obtain ⟨x, hx, hb⟩ := h
  obtain ⟨hl, rfl⟩ := queue_of_face hx
  refine hc a _ hx (hb.imp_right fun hr => ?_)
  rw [hr]
  exact nofun

/-- As long as it is not destroyed it has its redirect. -/
theorem edge_of_bound {s : System α η} {a b : QueueId} (h : s.outline.Bound a b)
    (hu : (s.queue a).lifecycle = .usable) : s.outline.Edge a b := by
  obtain ⟨x, hx, hb⟩ := h
  obtain ⟨hl, rfl⟩ := queue_of_face hx
  rcases hb with hd | hr
  · cases hd.symm.trans hu
  · exact (s.edge_iff a b).mpr ⟨hu, hr⟩

/-! ## What a move does -/

/-- A move puts the items of the source behind those of the target and binds the source. -/
theorem move_items {s moved : System α η} {source target : QueueId}
    {crossing : Option (Crossing η)} (hs : source < s.queues.length)
    (ht : target < s.queues.length) (h : s.move source target = (.ok (), moved, crossing)) :
    (moved.queue target).items = (s.queue target).items ++ (s.queue source).items ∧
      moved.outline.Bound source target := by
  obtain ⟨hn, hsource, htarget, hafter⟩ := outline_move hs ht h
  have hsource' := Outline.getElem?_set_other
    ⟨.usable, (s.queue target).items ++ (s.queue source).items, none⟩ hn hsource
  have hfaces := congrArg Outline.faces hafter
  dsimp only at hfaces
  constructor
  · have hface : moved.outline.faces[target]? = some
        ⟨.usable, (s.queue target).items ++ (s.queue source).items, none⟩ := by
      rw [hfaces, List.getElem?_set_ne hn, List.getElem?_set_self]
      exact (List.getElem?_eq_some_iff.mp htarget).1
    exact congrArg Face.items (queue_of_face hface).2
  · refine ⟨⟨.usable, [], some target⟩, ?_, .inr rfl⟩
    rw [hfaces, List.getElem?_set_self]
    exact (List.getElem?_eq_some_iff.mp hsource').1

theorem callers_wake (s : System α η) (cause : WokenBy) (d : CallerId) :
    (s.wake cause d).callers = (s.modifyStage d (.wake cause)).callers := by
  unfold System.wake schedule
  split <;> rfl

/-- Waking one call does nothing to a call that does not stand in the line. -/
theorem callers_wakeOne {s : System α η} {q : QueueId} {side : Side} (h : s.Lined q side)
    {c : CallerId} {r : Request α} {stage : Stage α} (hc : s.callers[c]? = some ⟨r, stage⟩)
    (hn : stage.isStanding q = false) : (s.wakeOne q side).callers[c]? = some ⟨r, stage⟩ := by
  cases hline : ((s.queue q).waiting side).parked with
  | nil =>
    simp only [wakeOne, Waiting.wakeOne, hline]
    exact hc
  | cons d line =>
    simp only [wakeOne, Waiting.wakeOne, hline]
    have hstands := (h.mem_iff d).mp (hline ▸ List.mem_cons_self)
    have hdc : d ≠ c := by
      rintro rfl
      obtain ⟨r', stage', hd, -, hs⟩ := hstands
      rw [hc] at hd
      cases hd
      rw [hn] at hs
      cases hs
    rw [callers_wake]
    exact (callers_modifyStage_other _ hdc).trans hc

/-- Waking a number of calls does nothing to a call that does not stand in the line. -/
theorem callers_wakeTimes {s : System α η} (h : ∀ p d, s.Lined p d) {q : QueueId} {side : Side}
    {c : CallerId} {r : Request α} {stage : Stage α} (hc : s.callers[c]? = some ⟨r, stage⟩)
    (hn : stage.isStanding q = false) (n : Nat) :
    (s.wakeTimes q side n).callers[c]? = some ⟨r, stage⟩ := by
  induction n generalizing s with
  | zero => exact hc
  | succ n ih => exact ih (wakeOne_lined h q side).1 (callers_wakeOne (h q side) hc hn)

/-- Waking everybody reaches a call that is parked in the line. Who was woken once stays so, and
somebody in line is woken at least once. -/
theorem callers_wakeAll {s : System α η} {q : QueueId} {c : CallerId} {r : Request α}
    (h : s.Lined q r.side) (hc : s.callers[c]? = some ⟨r, .parked q⟩) :
    (s.wakeAll q r.side).callers[c]? = some ⟨r, .woken q .all⟩ := by
  have hmem : c ∈ ((s.queue q).waiting r.side).parked :=
    (h.mem_iff c).mpr ⟨r, _, hc, rfl, by simp [Stage.isStanding]⟩
  have hwoken (line : List CallerId) (s : System α η)
      (hc : s.callers[c]? = some ⟨r, .woken q .all⟩) :
      (line.foldl (fun s c => s.wake .all c) s).callers[c]? = some ⟨r, .woken q .all⟩ := by
    induction line generalizing s with
    | nil => exact hc
    | cons d line ih =>
      refine ih _ ?_
      rw [callers_wake]
      by_cases hd : d = c
      · subst hd
        rw [modifyStage_eq_setStage _ hc]
        exact callers_setStage hc
      · exact (callers_modifyStage_other _ hd).trans hc
  have hall (line : List CallerId) (s : System α η)
      (hc : s.callers[c]? = some ⟨r, .parked q⟩) (hm : c ∈ line) :
      (line.foldl (fun s c => s.wake .all c) s).callers[c]? = some ⟨r, .woken q .all⟩ := by
    induction line generalizing s with
    | nil => cases hm
    | cons d line ih =>
      by_cases hd : d = c
      · subst hd
        refine hwoken line _ ?_
        rw [callers_wake, modifyStage_eq_setStage _ hc]
        exact callers_setStage hc
      · refine ih _ ?_ ((List.mem_cons.mp hm).resolve_left (Ne.symm hd))
        rw [callers_wake]
        exact (callers_modifyStage_other _ hd).trans hc
  exact hall _ _ hc hmem

theorem callers_report (s : System α η) (q : QueueId) (level : Level)
    (moved : Option (Watermark η)) : (s.report q level moved).1.callers = s.callers := by
  cases moved <;> rfl

/-- Where no producer is counted, who is parked is a consumer. -/
theorem side_of_parked {s : System α η} {q : QueueId} (h : s.Lined q .producer)
    (hcount : ((s.queue q).waiting .producer).count = 0) {c : CallerId} {r : Request α}
    (hc : s.callers[c]? = some ⟨r, .parked q⟩) : r.side = .consumer := by
  cases hr : r.side with
  | consumer => rfl
  | producer =>
    have hzero := h.parked_eq_zero hcount
    have hpos : 0 < s.tally .producer (Stage.isParked q) := by
      refine List.countP_pos_iff.mpr ⟨_, List.mem_of_getElem? hc, ?_⟩
      simp [hr, Stage.isParked]
    omega

/-- A call that is parked at a queue when that is moved is a consumer, and is woken. -/
theorem woken_by_move {s moved : System α η} (h : s.Awake) {source target : QueueId}
    {crossing : Option (Crossing η)} (hm : s.move source target = (.ok (), moved, crossing))
    {c : CallerId} {r : Request α} (hc : s.callers[c]? = some ⟨r, .parked source⟩) :
    r.side = .consumer ∧ moved.callers[c]? = some ⟨r, .woken source .all⟩ := by
  obtain ⟨hn, -, -, hcount⟩ := moveObstacle_eq_none (moveObstacle_of_move hm)
  have hside := side_of_parked (h.lined source .producer) hcount hc
  refine ⟨hside, ?_⟩
  have hmoved := congrArg (fun m => m.1.callers[c]?) (eq_of_move hm)
  dsimp only [spliced] at hmoved
  rw [← hmoved, callers_report]
  generalize ht : (s.modifyQueue target _).modifyQueue source _ = t
  have hlined (p : QueueId) (d : Side) : t.Lined p d := by
    have hu : Untouched s t p d := by
      rw [← ht]
      refine (untouched_modifyQueue s target _ fun _ x => ?_).trans
        (untouched_modifyQueue _ source _ fun _ x => ?_)
      · cases d <;> rfl
      · cases d <;> rfl
    exact hu.lined (h.lined p d)
  have hc' : t.callers[c]? = some ⟨r, .parked source⟩ := by
    rw [← ht]
    exact hc
  have hnot : (Stage.parked source : Stage α).isStanding target = false := by
    simp [Stage.isStanding, hn]
  generalize min (s.queue source).items.length (s.queue target).consumers.count = n
  have hwake := callers_wakeAll (q := source)
    (hside ▸ (wakeTimes_lined hlined target .consumer n).1 source .consumer)
    (callers_wakeTimes hlined hc' hnot n)
  rw [hside] at hwake
  exact hwake

end System

namespace Course

/-! ## Calls that were made through one handle instead of the other -/

/-- The course had a call that has not looked yet been made through another handle. -/
def divert (k : Course α η) (c : CallerId) (q : QueueId) : Course α η :=
  { k with system := k.system.modifyStage c (.divert q) }

/-- The call was made through the handle and has not looked yet, or was given up before it
did. -/
def Unseen (k : Course α η) (c : CallerId) (r : Request α) (handle : QueueId) : Prop :=
  ∃ stage, (stage = .ready handle false ∨ stage = .dropped) ∧
    k.system.callers[c]? = some ⟨r, stage⟩

/-- A call that has not looked yet may be sent to another handle. -/
theorem Unseen.divert {k : Course α η} {c : CallerId} {r : Request α} {a : QueueId}
    (h : k.Unseen c r a) (b : QueueId) : (k.divert c b).Unseen c r b := by
  obtain ⟨stage, hs, hc⟩ := h
  refine ⟨stage.divert b, ?_, ?_⟩
  · rcases hs with rfl | rfl
    · exact .inl rfl
    · exact .inr rfl
  · rw [Course.divert, System.modifyStage_eq_setStage _ hc]
    exact System.callers_setStage hc

/-- A call that has not looked yet does not give up waiting. -/
theorem Unseen.next_eq_self {k : Course α η} {c : CallerId} {r : Request α} {a : QueueId}
    (h : k.Unseen c r a) {e : Event α η} (he : e = .depart c ∨ ∃ late, e = .withdraw c late) :
    k.next e = k := by
  obtain ⟨stage, hs, hc⟩ := h
  have hdepart : k.system.depart c = k.system := by
    unfold System.depart
    rw [hc]
    rcases hs with rfl | rfl <;> rfl
  have hwithdraw (late : Bool) : k.system.withdraw c late = k.system := by
    unfold System.withdraw
    rw [hc]
    rcases hs with rfl | rfl <;> rfl
  refine next_of_quietly ?_
  rcases he with rfl | ⟨late, rfl⟩
  · rw [System.perform, hdepart]
  · rw [System.perform, hwithdraw, ite_self]

/-- A call that is given up before it looks is dropped. -/
theorem Unseen.next_abandon {k : Course α η} {c : CallerId} {r : Request α} {a : QueueId}
    (h : k.Unseen c r a) :
    k.next (.abandon c) = { k with system := k.system.setStage c .dropped } := by
  obtain ⟨stage, hs, hc⟩ := h
  refine next_of_quietly ?_
  rcases hs with rfl | rfl
  · simp only [System.perform, System.abandon, hc]
  · rw [System.setStage_self hc]
    simp only [System.perform, System.abandon, hc]

/-- Until the call looks, nothing depends on the handle through which it was made. -/
theorem Unseen.next {k : Course α η} (hk : k.Charted) {c : CallerId} {r : Request α}
    {a : QueueId} (h : k.Unseen c r a) (b : QueueId) {e : Event α η} (he : e ≠ .turn c) :
    (k.next e).Unseen c r a ∧ (k.divert c b).next e = (k.next e).divert c b := by
  have hb := h.divert b
  obtain ⟨stage, hs, hc⟩ := id h
  by_cases hm : e.mover? = some c
  · cases e with
    | turn d => exact absurd (congrArg Event.turn (Option.some.inj hm)) he
    | withdraw d late =>
      obtain rfl := Option.some.inj hm
      rw [h.next_eq_self (.inr ⟨late, rfl⟩), hb.next_eq_self (.inr ⟨late, rfl⟩)]
      exact ⟨h, rfl⟩
    | depart d =>
      obtain rfl := Option.some.inj hm
      rw [h.next_eq_self (.inl rfl), hb.next_eq_self (.inl rfl)]
      exact ⟨h, rfl⟩
    | abandon d =>
      obtain rfl := Option.some.inj hm
      rw [h.next_abandon, hb.next_abandon]
      have hdropped : (k.system.setStage d .dropped).callers[d]? = some ⟨r, .dropped⟩ :=
        System.callers_setStage hc
      refine ⟨⟨.dropped, .inr rfl, hdropped⟩, ?_⟩
      simp only [Course.divert]
      rw [System.modifyStage_eq_setStage _ hc, System.modifyStage_eq_setStage _ hdropped,
        System.setStage_setStage, System.setStage_setStage]
      rfl
    | _ => cases hm
  · have hdeaf : stage.Deaf := by
      rcases hs with rfl | rfl
      · exact Stage.deaf_ready a false
      · exact Stage.deaf_dropped
    have hl := (List.getElem?_eq_some_iff.mp hc).1
    refine ⟨⟨stage, hs, hk.next_of_deaf hc hdeaf hm⟩, ?_⟩
    simp only [Course.next, Course.divert,
      System.perform_modifyStage (Stage.respects_divert b) hl hm, Effect.modifyStage]

/-- As long as a call has no turn, it makes no difference through which handle it was made. -/
theorem Unseen.extend {k : Course α η} (hk : k.Charted) {c : CallerId} {r : Request α}
    {a : QueueId} (h : k.Unseen c r a) (b : QueueId) {events : List (Event α η)}
    (he : ∀ e ∈ events, e ≠ .turn c) :
    (k.extend events).Unseen c r a ∧
      (k.divert c b).extend events = (k.extend events).divert c b := by
  induction events generalizing k with
  | nil => exact ⟨h, rfl⟩
  | cons e events ih =>
    obtain ⟨hturn, hrest⟩ := List.forall_mem_cons.mp he
    obtain ⟨hnext, hdivert⟩ := h.next hk b hturn
    have hextend := ih (hk.next e) hnext hrest
    rw [← hdivert] at hextend
    exact hextend

/-- The first look at a queue that was moved leads to where the other handle starts. -/
theorem Unseen.turn {k : Course α η} {c : CallerId} {r : Request α} {a b : QueueId}
    (h : k.Unseen c r a) (he : k.system.outline.Edge a b) :
    k.next (.turn c) = k.divert c b := by
  obtain ⟨stage, rfl | rfl, hc⟩ := h
  · rw [next_of_quietly (System.perform_turn_of_edge hc he), Course.divert,
      System.modifyStage_eq_setStage _ hc]
    rfl
  · have hturn : k.system.perform (.turn c) = k.system.quietly := by
      simp only [System.perform, System.turn, System.takenBy?, System.outcome?, hc, ite_self,
        System.quietly]
    rw [next_of_quietly hturn, Course.divert, System.modifyStage_eq_setStage _ hc]
    exact congrArg (fun s => { k with system := s }) (System.setStage_self hc).symm

/-- A call that has just been made, and the same call made through another handle. -/
theorem unseen_call (k : Course α η) {a b : QueueId} (ha : a < k.system.queues.length)
    (hb : b < k.system.queues.length) (r : Request α) :
    (k.next (.call a r)).Unseen k.system.callers.length r a ∧
      (k.next (.call a r)).divert k.system.callers.length b = k.next (.call b r) := by
  have hlast (q : QueueId) : (k.system.callers ++ [Caller.mk r (.ready q false)])[
      k.system.callers.length]? = some ⟨r, .ready q false⟩ := List.getElem?_concat_length
  rw [next_call ha, next_call hb]
  refine ⟨⟨_, .inl rfl, System.callers_addCaller k.system a r⟩, ?_⟩
  · have hset := modify_eq_set_of_getElem?
      (fun x : Caller α => { x with stage := x.stage.divert b }) (hlast a)
    rw [List.set_append_right _ _ (Nat.le_refl _), Nat.sub_self, List.set_cons_zero] at hset
    have hmodify : System.modifyStage { k.system with
          callers := k.system.callers ++ [Caller.mk r (.ready a false)] }
          k.system.callers.length (.divert b) =
        { k.system with callers := k.system.callers ++ [Caller.mk r (.ready b false)] } :=
      congrArg (System.mk k.system.queues · k.system.runnable) hset
    have hsystem : (k.system.addCaller a r).2.modifyStage k.system.callers.length (.divert b) =
        (k.system.addCaller b r).2 := by
      rw [System.addCaller, ← System.schedule_modifyStage, hmodify]
      rfl
    exact congrArg (fun s => { k with system := s }) hsystem

end Course

end Diameter.Queue
