import Diameter.Proofs.Queue.Bystanders

/-!
# Calls that run until they wait

A call that runs follows redirects, looks at the queue at their end, and ends or has to wait
there. If a permit was left for it, it looks once more, and then there is none. Main statement:
a call has come to its end, or waits, after four turns more than there are queues.
-/

namespace Diameter.Queue

variable {α η : Type}

/-- The call goes on when it has its turn. -/
def Stage.goesOn : Stage α → Bool
  | .ready _ _ | .woken _ _ => true
  | _ => false

namespace System

/-- The call does not go on by itself. -/
def Still (s : System α η) (c : CallerId) : Prop :=
  ∀ caller, s.callers[c]? = some caller → caller.stage.goesOn = false

/-- A call that runs makes no use of more turns than these. -/
def Stops (s : System α η) (c : CallerId) (turns : Nat) : Prop :=
  ∀ more, s.runWithin c (turns + more) = s.runWithin c turns

variable {s : System α η} {c : CallerId} {r : Request α} {q : QueueId} {recalled : Bool}

/-- A call that is put to a stage where it has to wait, or has ended, is still. -/
theorem still_setStage (s : System α η) (c : CallerId) {stage : Stage α}
    (h : stage.goesOn = false) : (s.setStage c stage).Still c := by
  intro caller hc
  rw [setStage, modifyStage, List.getElem?_modify_eq, Option.map_eq_map,
    Option.map_eq_some_iff] at hc
  obtain ⟨_, -, rfl⟩ := hc
  exact h

/-- A call that is still makes use of no turns. -/
theorem Still.stops (h : s.Still c) : s.Stops c 0 := by
  have hstill (turns : Nat) : s.runWithin c turns = (s, none) := by
    cases turns with
    | zero => rfl
    | succ turns =>
      unfold runWithin
      split
      · next hc => cases h _ hc
      · next hc => cases h _ hc
      · rfl
  intro more
  rw [hstill, hstill]

/-- More turns than are of use are enough. -/
theorem Stops.mono {turns turns' : Nat} (h : s.Stops c turns) (hle : turns ≤ turns') :
    s.Stops c turns' := by
  intro more
  obtain ⟨between, rfl⟩ := Nat.exists_eq_add_of_le hle
  rw [Nat.add_assoc, h, h]

/-- A call needs one turn more than it needs after a turn. -/
theorem Stops.turn {turns : Nat} (h : (s.turn c).1.Stops c turns) : s.Stops c (turns + 1) := by
  intro more
  rw [Nat.add_right_comm]
  unfold runWithin
  generalize s.turn c = after at h ⊢
  obtain ⟨after, crossing⟩ := after
  cases crossing with
  | none =>
    dsimp only
    rw [h more]
  | some crossing => rfl

/-- A call that looks at the end of its redirects stops there, or takes the permit. -/
theorem still_or_permit (hc : s.callers[c]? = some ⟨r, .ready q recalled⟩)
    (hend : ∀ t, ¬ s.outline.Edge q t) :
    (s.turn c).1.Still c ∨ ((s.queue q).waiting r.side).permit = true ∧
      (s.turn c).1 = (s.modifyWaiting q r.side (·.takePermit)).setStage c (.woken q .one) := by
  have hended (outcome : Outcome α) : (s.setStage c (.ended outcome)).Still c :=
    still_setStage s c rfl
  have hwait (side : Side) : (s.suspend q side c).Still c ∨
      ((s.queue q).waiting side).permit = true ∧
        s.suspend q side c = (s.modifyWaiting q side (·.takePermit)).setStage c (.woken q .one) := by
    unfold suspend
    split_ifs with hp
    · exact .inr ⟨hp, rfl⟩
    · exact .inl (still_setStage _ c rfl)
  have hturn : s.turn c = s.examine c r q := by simp only [System.turn, hc]
  rw [hturn]
  unfold examine
  dsimp only
  split
  · exact .inl (hended _)
  · exact .inl (hended _)
  · next target hl hr => exact absurd ((s.edge_iff q target).mpr ⟨hl, hr⟩) (hend target)
  · next item hl hr =>
    split_ifs
    · exact hwait .producer
    · have hdeaf : (Stage.ended .stored : Stage α).Deaf := fun _ => rfl
      rw [setStage, store_modifyStage hdeaf.respects]
      exact .inl (still_setStage _ c rfl)
  · next deadline hl hr =>
    cases (s.queue q).items with
    | nil => exact hwait .consumer
    | cons item rest =>
      have hdeaf : (Stage.ended (.took item) : Stage α).Deaf := fun _ => rfl
      dsimp only
      rw [setStage, takeHead_modifyStage hdeaf.respects]
      exact .inl (still_setStage _ c rfl)

/-- Redirects do not depend on lines. -/
theorem faces_modifyWaiting (s : System α η) (q : QueueId) (side : Side) (f : Waiting → Waiting) :
    (s.modifyWaiting q side f).outline.faces = s.outline.faces :=
  congrArg Outline.faces (outline_modifyWaiting s q side f)

/-- A call that was woken is going to look again, at queues that are as they were. -/
theorem turn_of_woken {cause : WokenBy} (hc : s.callers[c]? = some ⟨r, .woken q cause⟩) :
    (s.turn c).1.callers[c]? = some ⟨r, .ready q true⟩ ∧
      (s.turn c).1.outline.faces = s.outline.faces ∧
      (((s.turn c).1.queue q).waiting r.side).permit = ((s.queue q).waiting r.side).permit := by
  have hturn : s.turn c =
      ((s.modifyWaiting q r.side (·.resume)).setStage c (.ready q true), none) := by
    simp only [System.turn, hc]
  rw [hturn]
  refine ⟨callers_setStage hc, ?_, ?_⟩
  · rw [outline_setStage _ _ (by exact hc)]
    exact faces_modifyWaiting s q r.side (·.resume)
  · refine (congrArg Waiting.permit (waiting_modifyWaiting s q q r.side r.side (·.resume))).trans ?_
    split_ifs <;> rfl

/-- At the end of its redirects a call stops after three turns. A permit is gone when the call
looks again. -/
theorem stops_at_end (hc : s.callers[c]? = some ⟨r, .ready q recalled⟩)
    (hend : ∀ t, ¬ s.outline.Edge q t) : s.Stops c 3 := by
  rcases still_or_permit hc hend with hstill | ⟨hpermit, htaken⟩
  · exact hstill.stops.turn.mono (by omega)
  · have hl : q < s.queues.length := by
      by_contra hn
      rw [queue_of_length_le (Nat.le_of_not_lt hn)] at hpermit
      cases r <;> cases hpermit
    generalize ht : (s.modifyWaiting q r.side (·.takePermit)).setStage c (.woken q .one) = t
      at htaken
    have hwoken : t.callers[c]? = some ⟨r, .woken q .one⟩ := by
      rw [← ht]
      exact callers_setStage hc
    have hgone : ((t.queue q).waiting r.side).permit = false := by
      rw [← ht]
      have hw := waiting_modifyWaiting s q q r.side r.side (·.takePermit)
      rw [if_pos ⟨⟨rfl, hl⟩, rfl⟩] at hw
      exact congrArg Waiting.permit hw
    have hfaces : t.outline.faces = s.outline.faces := by
      rw [← ht, outline_setStage _ _ (by exact hc)]
      exact faces_modifyWaiting s q r.side (·.takePermit)
    obtain ⟨hready, hfaces', hsame⟩ := turn_of_woken hwoken
    have hend' (z : QueueId) : ¬ (t.turn c).1.outline.Edge q z := by
      rw [Outline.Edge, hfaces', hfaces]
      exact hend z
    have hstops : (t.turn c).1.Stops c 1 := by
      rcases still_or_permit hready hend' with hstill | ⟨hpermit', -⟩
      · exact hstill.stops.turn
      · rw [hsame, hgone] at hpermit'
        cases hpermit'
    have hstops' : t.Stops c 2 := hstops.turn
    refine Stops.turn ?_
    rw [htaken]
    exact hstops'

/-- A call with so many redirects before it stops after three turns more. -/
theorem stops_of_hops {n : Nat} {t : QueueId} (hc : s.callers[c]? = some ⟨r, .ready q recalled⟩)
    (hh : s.outline.Hops n q t) (hend : ∀ u, ¬ s.outline.Edge t u) : s.Stops c (n + 3) := by
  induction n generalizing s q recalled with
  | zero =>
    cases hh
    exact stops_at_end hc hend
  | succ n ih =>
    obtain _ | @⟨_, _, z, _, he, hrest⟩ := hh
    have hfaces : (s.setStage c (.ready z false)).outline.faces = s.outline.faces := by
      rw [outline_setStage _ _ hc]
    have hstops := ih (callers_setStage hc) (hrest.of_faces hfaces) fun u => by
      rw [Outline.Edge, hfaces]
      exact hend u
    have hturn : (s.turn c).1 = s.setStage c (.ready z false) :=
      congrArg Effect.system (perform_turn_of_edge hc he)
    rw [Nat.add_right_comm]
    refine Stops.turn ?_
    rw [hturn]
    exact hstops

/-- Four turns more than there are queues are enough for every call. -/
theorem stops_of_tame (h : s.outline.Tame) (c : CallerId) : s.Stops c (s.queues.length + 4) := by
  have hstill (hs : s.Still c) : s.Stops c (s.queues.length + 4) := hs.stops.mono (Nat.zero_le _)
  rcases hc : s.callers[c]? with _ | ⟨r, stage⟩
  · exact hstill fun caller hcaller => by cases hc.symm.trans hcaller
  · have hstage (hg : stage.goesOn = false) : s.Still c := by
      intro caller hcaller
      obtain rfl := Option.some.inj (hc.symm.trans hcaller)
      exact hg
    cases stage with
    | ready q recalled =>
      obtain ⟨n, hn, hh, hend⟩ := exists_hops_servingWithin h q (Nat.le_refl _)
      exact (stops_of_hops hc hh hend).mono (by omega)
    | woken q cause =>
      obtain ⟨n, hn, hh, hend⟩ := exists_hops_servingWithin h q (Nat.le_refl _)
      obtain ⟨hready, hfaces, -⟩ := turn_of_woken hc
      have hstops : (s.turn c).1.Stops c (n + 3) :=
        stops_of_hops hready (hh.of_faces hfaces) fun z => by
          rw [Outline.Edge, hfaces]
          exact hend z
      exact hstops.turn.mono (by omega)
    | _ => exact hstill (hstage rfl)

end System

end Diameter.Queue
