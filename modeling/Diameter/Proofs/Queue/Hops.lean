import Diameter.Proofs.Queue.Lines
import Diameter.Proofs.Queue.Order

/-!
# How far redirects lead

A redirect is made from a queue that served itself to another one that does, so each redirect
uses up a queue that serves itself. Hence no way along redirects is longer than the number of
queues, however the queues are moved and destroyed. Main statements: redirects never form a
circle, every handle has exactly one queue at the end of its redirects, and who follows them
arrives there, also if anything else happens in between.
-/

namespace Diameter.Queue

variable {α η : Type}

/-- Whether the queue serves its own handles. -/
def Face.isRoot : Face α → Bool
  | ⟨.usable, _, none⟩ => true
  | _ => false

namespace Outline

/-- How many queues serve their own handles. -/
def roots (o : Outline α) : Nat := o.faces.countP Face.isRoot

/-- So many redirects lead from one queue to the other. -/
inductive Hops (o : Outline α) : Nat → QueueId → QueueId → Prop
  | here {q} : Hops o 0 q q
  | along {n q z t} (he : o.Edge q z) (h : Hops o n z t) : Hops o (n + 1) q t

/-- One more redirect is one more hop. -/
theorem Hops.snoc {o : Outline α} {n : Nat} {q z t : QueueId} (h : o.Hops n q z)
    (he : o.Edge z t) : o.Hops (n + 1) q t := by
  induction h with
  | here => exact .along he .here
  | along hz _ ih => exact .along hz (ih he)

/-- Hops that follow on hops add up. -/
theorem Hops.append {o : Outline α} {m n : Nat} {q z t : QueueId} (h : o.Hops m q z)
    (h' : o.Hops n z t) : o.Hops (n + m) q t := by
  induction h with
  | here => exact h'
  | along hz _ ih => exact .along hz (ih h')

/-- Hops are redirects that lead on. -/
theorem Hops.leads {o : Outline α} {n : Nat} {q t : QueueId} (h : o.Hops n q t) :
    o.Leads q t := by
  induction h with
  | here => exact .refl
  | along he _ ih => exact .head he ih

/-- Redirects depend on the queues alone. -/
theorem Hops.of_faces {o o' : Outline α} (hf : o'.faces = o.faces) {n : Nat} {q t : QueueId}
    (h : o.Hops n q t) : o'.Hops n q t := by
  induction h with
  | here => exact .here
  | along he _ ih => exact .along (by rwa [Edge, hf]) ih

/-- The queue at the end of the redirects of another one. -/
def EndsAt (o : Outline α) (q t : QueueId) : Prop := o.Leads q t ∧ ∀ u, ¬ o.Edge t u

/-- Redirects end at one queue. -/
theorem EndsAt.unique {o : Outline α} {q t t' : QueueId} (h : o.EndsAt q t)
    (h' : o.EndsAt q t') : t = t' :=
  (h'.1.extend h.1 h'.2).eq_of_not_edge h.2

/-- Who followed `followed` redirects and has come to a queue can go on, and all redirects
together will not be more than the queues that do not serve themselves. -/
def Spare (o : Outline α) (followed : Nat) (q : QueueId) : Prop :=
  ∀ n t, o.Hops n q t → followed + n + o.roots ≤ o.faces.length

/-- Who follows a redirect has followed one more, and can still go on. -/
theorem Spare.follow {o : Outline α} {followed : Nat} {q t : QueueId} (h : o.Spare followed q)
    (he : o.Edge q t) : o.Spare (followed + 1) t := by
  intro n z hz
  have hle := h (n + 1) z (.along he hz)
  omega

/-- Nobody follows more redirects than there are queues. -/
theorem Spare.followed_le {o : Outline α} {followed : Nat} {q : QueueId}
    (h : o.Spare followed q) : followed ≤ o.faces.length := by
  have hle := h 0 q .here
  omega

/-! ## What a step does to redirects -/

/-- No redirect is made, and at most new queues come to serve themselves. -/
structure Unjoined (o o' : Outline α) : Prop where
  /-- Every redirect was there. -/
  edge : ∀ {q t}, o'.Edge q t → o.Edge q t
  /-- The queues that do not serve themselves do not get fewer. -/
  roots : o'.roots + o.faces.length ≤ o.roots + o'.faces.length

/-- One redirect is made, between two queues that served themselves. -/
structure Joined (o o' : Outline α) (source target : QueueId) : Prop where
  /-- Every other redirect was there. -/
  edge : ∀ {q t}, o'.Edge q t → o.Edge q t ∨ q = source ∧ t = target
  /-- The new redirect leads no further. -/
  last : ∀ t, ¬ o'.Edge target t
  /-- One queue less serves itself. -/
  roots : o'.roots + 1 = o.roots
  /-- There are as many queues. -/
  length : o'.faces.length = o.faces.length

/-- The redirects of a queue with another face. -/
theorem edge_set {faces : List (Face α)} {calls : List (Request α × Spot α)} {p : Nat}
    {x y : Face α} (hp : faces[p]? = some x) {q t : QueueId}
    (h : Edge ⟨faces.set p y, calls⟩ q t) :
    Edge ⟨faces, calls⟩ q t ∨ p = q ∧ y = ⟨.usable, y.items, some t⟩ := by
  obtain ⟨items, hi⟩ := h
  rw [getElem?_set_of_getElem? hp] at hi
  split_ifs at hi with hpq
  · cases hi
    exact .inr ⟨hpq, rfl⟩
  · exact .inl ⟨items, hi⟩

/-- How many queues serve themselves after one has got another face. -/
theorem roots_set {faces : List (Face α)} {p : Nat} {x : Face α} (y : Face α)
    (hp : faces[p]? = some x) :
    (faces.set p y).countP Face.isRoot + x.isRoot.toNat =
      faces.countP Face.isRoot + y.isRoot.toNat :=
  System.countP_set_add Face.isRoot y hp

/-- A queue whose redirect stays, or goes, joins nothing. -/
theorem unjoined_set {o : Outline α} {calls : List (Request α × Spot α)} {p : Nat} {x y : Face α}
    (hp : o.faces[p]? = some x)
    (he : ∀ t, y.lifecycle = .usable → y.redirect = some t → o.Edge p t)
    (hr : y.isRoot = true → x.isRoot = true) : Unjoined o ⟨o.faces.set p y, calls⟩ := by
  constructor
  · intro q t h
    rcases edge_set hp h with h | ⟨rfl, hy⟩
    · exact h
    · rw [hy] at he
      exact he t rfl rfl
  · have hroots := roots_set y hp
    have hle : y.isRoot.toNat ≤ x.isRoot.toNat := by
      cases hy : y.isRoot with
      | false => exact Nat.zero_le _
      | true => exact Nat.le_of_eq (by rw [hr hy])
    simp only [Outline.roots, List.length_set]
    omega

/-- A move joins the two queues. -/
theorem joined_move {o : Outline α} {source target : Nat} {moved items : List α}
    (hn : source ≠ target) (hs : o.faces[source]? = some ⟨.usable, moved, none⟩)
    (ht : o.faces[target]? = some ⟨.usable, items, none⟩) :
    Joined o ⟨(o.faces.set target ⟨.usable, items ++ moved, none⟩).set source
      ⟨.usable, [], some target⟩, o.calls⟩ source target := by
  have hs' := getElem?_set_other ⟨.usable, items ++ moved, none⟩ hn hs
  have hedge {q t : QueueId} (h : Edge ⟨(o.faces.set target ⟨.usable, items ++ moved, none⟩).set
      source ⟨.usable, [], some target⟩, o.calls⟩ q t) :
      o.Edge q t ∨ q = source ∧ t = target := by
    rcases edge_set hs' h with h | ⟨rfl, hy⟩
    · rcases edge_set ht h with h | ⟨-, hy⟩
      · exact .inl h
      · cases hy
    · cases hy
      exact .inr ⟨rfl, rfl⟩
  have htarget (t : QueueId) : ¬ o.Edge target t := not_edge_of_serving ht t
  refine ⟨hedge, fun t h => ?_, ?_, by simp only [List.length_set]⟩
  · rcases hedge h with h | ⟨rfl, -⟩
    · exact htarget t h
    · exact hn rfl
  · have hroots := roots_set ⟨.usable, [], some target⟩ hs'
    have hroots' := roots_set ⟨.usable, items ++ moved, none⟩ ht
    simp only [Face.isRoot, Bool.toNat_true, Bool.toNat_false] at hroots hroots'
    simp only [Outline.roots]
    omega

/-- A step joins two queues, or none. -/
theorem Step.joins {o o' : Outline α} {made : Option (Request α)} {taken : Option (Taking α)}
    (h : o.Step made taken o') : Unjoined o o' ∨ ∃ source target, Joined o o' source target := by
  cases h with
  | rest => exact .inl ⟨id, Nat.le_refl _⟩
  | addQueue =>
    refine .inl ⟨?_, ?_⟩
    · rintro q t ⟨items, hi⟩
      rw [List.getElem?_append] at hi
      split_ifs at hi with hl
      · exact ⟨items, hi⟩
      · rw [List.getElem?_singleton] at hi
        split_ifs at hi
        cases hi
    · simp only [Outline.roots, List.countP_append, List.length_append, List.countP_singleton,
        Face.isRoot, List.length_singleton, if_true]
      omega
  | call hq => exact .inl ⟨id, Nat.le_refl _⟩
  | follow hc hq => exact .inl ⟨id, Nat.le_refl _⟩
  | fail hc hs => exact .inl ⟨id, Nat.le_refl _⟩
  | store hc hq => exact .inl (unjoined_set hq nofun id)
  | take hc hq => exact .inl (unjoined_set hq nofun id)
  | @takeNow q item items redirect hq =>
    refine .inl (unjoined_set hq ?_ ?_)
    · rintro t - rfl
      exact ⟨_, hq⟩
    · cases redirect <;> exact id
  | move hn hs ht => exact .inr ⟨_, _, joined_move hn hs ht⟩
  | close hq => exact .inl (unjoined_set hq nofun nofun)

/-- Without a new redirect, hops after a step were there before. -/
theorem Unjoined.hops {o o' : Outline α} (h : Unjoined o o') {n : Nat} {q t : QueueId}
    (hh : o'.Hops n q t) : o.Hops n q t := by
  induction hh with
  | here => exact .here
  | along he _ ih => exact .along (h.edge he) ih

/-- A way that uses the new redirect ends with it. -/
theorem Joined.hops {o o' : Outline α} {source target : QueueId} (h : Joined o o' source target)
    {n : Nat} {q t : QueueId} (hh : o'.Hops n q t) :
    o.Hops n q t ∨ ∃ m, n = m + 1 ∧ o.Hops m q source := by
  induction hh with
  | here => exact .inl .here
  | along he hrest ih =>
    rcases h.edge he with he | ⟨rfl, rfl⟩
    · rcases ih with ih | ⟨m, rfl, ih⟩
      · exact .inl (.along he ih)
      · exact .inr ⟨m + 1, rfl, .along he ih⟩
    · cases hrest with
      | here => exact .inr ⟨0, rfl, .here⟩
      | along hz _ => exact absurd hz (h.last _)

/-- Whatever happens, all redirects together stay few. -/
theorem Step.spare {o o' : Outline α} {made : Option (Request α)} {taken : Option (Taking α)}
    (h : o.Step made taken o') {followed : Nat} {q : QueueId} (hs : o.Spare followed q) :
    o'.Spare followed q := by
  intro n t hh
  rcases h.joins with hj | ⟨source, target, hj⟩
  · have hle := hs n t (hj.hops hh)
    have hroots := hj.roots
    omega
  · have hroots := hj.roots
    have hlength := hj.length
    rcases hj.hops hh with hold | ⟨m, rfl, hold⟩
    · have hle := hs n t hold
      omega
    · have hle := hs m source hold
      omega

/-- No step takes a queue away. -/
theorem Step.length_faces_le {o o' : Outline α} {made : Option (Request α)}
    {taken : Option (Taking α)} (h : o.Step made taken o') : o.faces.length ≤ o'.faces.length := by
  cases h <;> simp

/-! ## No circles -/

/-- From every queue redirects lead nowhere far. -/
def Tame (o : Outline α) : Prop := ∀ q, o.Spare 0 q

theorem tame_start : (Course.start (α := α) (η := η)).system.outline.Tame := by
  intro q n t h
  cases h with
  | here => exact Nat.le_refl _
  | along he _ =>
    obtain ⟨items, hi⟩ := he
    simp [Course.start, System.empty, System.outline] at hi

/-- What redirects lead to is some hops away. -/
theorem exists_hops_of_transGen {o : Outline α} {q t : QueueId}
    (h : Relation.TransGen o.Edge q t) : ∃ n, o.Hops (n + 1) q t := by
  induction h with
  | single he => exact ⟨0, .along he .here⟩
  | tail _ he ih =>
    obtain ⟨n, hn⟩ := ih
    exact ⟨n + 1, hn.snoc he⟩

/-- Redirects form no circle, since one could be followed for ever. -/
theorem Tame.acyclic {o : Outline α} (h : o.Tame) (q : QueueId) :
    ¬ Relation.TransGen o.Edge q q := by
  intro hcircle
  obtain ⟨n, hn⟩ := exists_hops_of_transGen hcircle
  have hround (k : Nat) : ∃ m, k ≤ m ∧ o.Hops m q q := by
    induction k with
    | zero => exact ⟨0, Nat.le_refl 0, .here⟩
    | succ k ih =>
      obtain ⟨m, hm, hk⟩ := ih
      exact ⟨m + (n + 1), by omega, hn.append hk⟩
  obtain ⟨m, hm, hfar⟩ := hround (o.faces.length + 1)
  have hle := h q m q hfar
  omega

end Outline

/-! ## The queue that serves a handle -/

namespace System

/-- A redirect counts as long as its queue can be used. -/
theorem edge_iff (s : System α η) (q t : QueueId) :
    s.outline.Edge q t ↔ (s.queue q).lifecycle = .usable ∧ (s.queue q).redirect = some t := by
  by_cases hq : q < s.queues.length
  · rw [Outline.Edge, face_of_queue hq]
    cases hx : s.queue q
    simp [face]
  · have hnone : s.outline.faces[q]? = none := by
      rw [List.getElem?_eq_none_iff, length_faces_outline]
      exact Nat.le_of_not_lt hq
    rw [Outline.Edge, hnone, queue_of_length_le (Nat.le_of_not_lt hq)]
    simp [new]

/-- The search goes on at the target of a redirect. -/
theorem servingWithin_of_edge {s : System α η} {q t : QueueId} (h : s.outline.Edge q t)
    (hops : Nat) : s.servingWithin (hops + 1) q = s.servingWithin hops t := by
  obtain ⟨hl, hr⟩ := (s.edge_iff q t).mp h
  simp only [servingWithin, hl, hr]

/-- The search ends at a queue without a redirect. -/
theorem servingWithin_of_not_edge {s : System α η} {q : QueueId} (h : ∀ t, ¬ s.outline.Edge q t)
    (hops : Nat) : s.servingWithin hops q = q := by
  cases hops with
  | zero => rfl
  | succ hops =>
    cases hl : (s.queue q).lifecycle with
    | destroyed => simp only [servingWithin, hl]
    | usable =>
      cases hr : (s.queue q).redirect with
      | none => simp only [servingWithin, hl, hr]
      | some t => exact absurd ((s.edge_iff q t).mpr ⟨hl, hr⟩) (h t)

/-- Following redirects stops where no redirect leaves, or when it may not go on. -/
theorem hops_servingWithin (s : System α η) (hops : Nat) (q : QueueId) :
    ∃ n ≤ hops, s.outline.Hops n q (s.servingWithin hops q) ∧
      (n < hops → ∀ t, ¬ s.outline.Edge (s.servingWithin hops q) t) := by
  induction hops generalizing q with
  | zero => exact ⟨0, Nat.le_refl 0, .here, nofun⟩
  | succ hops ih =>
    by_cases hq : ∃ t, s.outline.Edge q t
    · obtain ⟨t, ht⟩ := hq
      obtain ⟨n, hn, hh, hend⟩ := ih t
      rw [servingWithin_of_edge ht]
      exact ⟨n + 1, by omega, .along ht hh, fun hlt => hend (by omega)⟩
    · rw [not_exists] at hq
      rw [servingWithin_of_not_edge hq]
      exact ⟨0, Nat.zero_le _, .here, fun _ => hq⟩

/-- As many redirects as there are queues are enough to come to the end. -/
theorem exists_hops_servingWithin {s : System α η} (h : s.outline.Tame) (q : QueueId)
    {hops : Nat} (hl : s.queues.length ≤ hops) :
    ∃ n ≤ s.queues.length, s.outline.Hops n q (s.servingWithin hops q) ∧
      ∀ t, ¬ s.outline.Edge (s.servingWithin hops q) t := by
  obtain ⟨n, hn, hh, hend⟩ := s.hops_servingWithin hops q
  have hle := h q n _ hh
  rw [length_faces_outline] at hle
  refine ⟨n, by omega, hh, fun t ht => ?_⟩
  have hlonger := h q (n + 1) t (hh.snoc ht)
  rw [length_faces_outline] at hlonger
  exact hend (by omega) t ht

/-- The serving queue is at the end of the redirects. -/
theorem endsAt_serving {s : System α η} (h : s.outline.Tame) (q : QueueId) :
    s.outline.EndsAt q (s.serving q) := by
  obtain ⟨n, -, hh, hend⟩ := exists_hops_servingWithin h q (Nat.le_refl _)
  exact ⟨hh.leads, hend⟩

/-- Who may follow more redirects comes to the same queue. -/
theorem servingWithin_eq {s : System α η} (h : s.outline.Tame) (q : QueueId) {hops : Nat}
    (hl : s.queues.length ≤ hops) : s.servingWithin hops q = s.serving q := by
  obtain ⟨n, -, hh, hend⟩ := exists_hops_servingWithin h q hl
  exact Outline.EndsAt.unique ⟨hh.leads, hend⟩ (endsAt_serving h q)

/-- One queue serves a queue that was moved and the one that it was moved into. -/
theorem serving_of_edge {s : System α η} (h : s.outline.Tame) {q t : QueueId}
    (he : s.outline.Edge q t) : s.serving q = s.serving t := by
  obtain ⟨hl, hend⟩ := endsAt_serving h t
  exact Outline.EndsAt.unique (endsAt_serving h q) ⟨.head he hl, hend⟩

/-! ## Calls that follow redirects -/

/-- Changing the stage of a call puts it to the changed one. -/
theorem modifyStage_eq_setStage {s : System α η} {c : CallerId} {r : Request α} {stage : Stage α}
    (f : Stage α → Stage α) (hc : s.callers[c]? = some ⟨r, stage⟩) :
    s.modifyStage c f = s.setStage c (f stage) := by
  have hcallers : (s.modifyStage c f).callers = (s.setStage c (f stage)).callers := by
    rw [setStage, callers_modifyStage s _ hc, callers_modifyStage s _ hc]
  exact congrArg (System.mk s.queues · s.runnable) hcallers

theorem setStage_self {s : System α η} {c : CallerId} {r : Request α} {stage : Stage α}
    (hc : s.callers[c]? = some ⟨r, stage⟩) : s.setStage c stage = s := by
  obtain ⟨hl, hget⟩ := List.getElem?_eq_some_iff.mp hc
  have hcallers : (s.setStage c stage).callers = s.callers := by
    rw [setStage, callers_modifyStage s _ hc, ← hget, List.set_getElem_self]
  exact congrArg (System.mk s.queues · s.runnable) hcallers

/-- The queue that a call has to do with. -/
def facing? (s : System α η) (c : CallerId) : Option QueueId :=
  match s.outline.calls[c]? with
  | some (_, .facing q) => some q
  | _ => none

/-- The queue with which a call has to do can be read from the outline. -/
theorem facing?_eq_some_iff (s : System α η) (c : CallerId) (q : QueueId) :
    s.facing? c = some q ↔ ∃ r, s.outline.calls[c]? = some (r, .facing q) := by
  unfold facing?
  rcases s.outline.calls[c]? with _ | ⟨r, p | outcome | _⟩ <;> simp

/-- A call that looks at a queue that was moved goes on to the next one. -/
theorem perform_turn_of_edge {s : System α η} {c : CallerId} {r : Request α} {q t : QueueId}
    {recalled : Bool} (hc : s.callers[c]? = some ⟨r, .ready q recalled⟩)
    (he : s.outline.Edge q t) :
    s.perform (.turn c) = (s.setStage c (.ready t false)).quietly := by
  obtain ⟨hl, hr⟩ := (s.edge_iff q t).mp he
  have hturn : s.turn c = (s.setStage c (.ready t false), none) := by
    simp only [turn, hc, examine, hl, hr]
  have hnone : (s.setStage c (.ready t false)).takenBy? c = none := by
    rw [takenBy?, outcome?, callers_setStage hc]
  rw [perform, hturn]
  simp only [hnone, ite_self]
  rfl

end System

namespace Course

/-- An event without an answer changes queues and calls only. -/
theorem next_of_quietly {k : Course α η} {e : Event α η} {s : System α η}
    (h : k.system.perform e = s.quietly) : k.next e = { k with system := s } := by
  rw [next, h]
  simp only [System.quietly, Option.toList_none, List.append_nil]

/-- A call that is made through a handle that exists is a new one. -/
theorem next_call {k : Course α η} {handle : QueueId} (h : handle < k.system.queues.length)
    (r : Request α) :
    k.next (.call handle r) = { k with system := (k.system.addCaller handle r).2 } :=
  next_of_quietly (by rw [System.perform, if_pos h])

/-- A call that has so many turns in a row follows as many redirects, and nothing else
happens. -/
theorem extend_turns_of_hops {k : Course α η} {c : CallerId} {r : Request α} {q t : QueueId}
    {recalled : Bool} {n : Nat} (hc : k.system.callers[c]? = some ⟨r, .ready q recalled⟩)
    (hh : k.system.outline.Hops n q t) :
    ∃ recalled', k.extend (List.replicate n (.turn c)) =
      { k with system := k.system.setStage c (.ready t recalled') } := by
  induction n generalizing k q recalled with
  | zero =>
    cases hh
    exact ⟨recalled, by rw [System.setStage_self hc]; rfl⟩
  | succ n ih =>
    obtain _ | @⟨_, _, z, _, he, hrest⟩ := hh
    have hnext := next_of_quietly (System.perform_turn_of_edge hc he)
    have hc' : (k.next (.turn c)).system.callers[c]? = some ⟨r, .ready z false⟩ := by
      rw [hnext]
      exact System.callers_setStage hc
    have hfaces : (k.next (.turn c)).system.outline.faces = k.system.outline.faces := by
      rw [hnext, System.outline_setStage _ _ hc]
    obtain ⟨recalled', hturns⟩ := ih hc' (hrest.of_faces hfaces)
    refine ⟨recalled', ?_⟩
    rw [List.replicate_succ, extend, List.foldl_cons, ← extend, hturns, hnext]
    dsimp only
    rw [System.setStage_setStage]

/-- Calls and redirects have to do with queues that exist, and redirects do not lead far. -/
structure Charted (k : Course α η) : Prop where
  /-- The queues exist. -/
  inRange : k.system.outline.InRange
  /-- Redirects do not lead far. -/
  tame : k.system.outline.Tame

theorem charted_start : (start (α := α) (η := η)).Charted :=
  ⟨Outline.inRange_start, Outline.tame_start⟩

/-- Every event is a step of the outline. -/
theorem Charted.step {k : Course α η} (h : k.Charted) (e : Event α η) :
    (k.system.outline).Step e.made? (k.system.perform e).taken (k.next e).system.outline :=
  System.step_perform h.inRange e

/-- Every event keeps a course charted. -/
theorem Charted.next {k : Course α η} (h : k.Charted) (e : Event α η) : (k.next e).Charted :=
  ⟨(h.step e).inRange h.inRange, fun q => (h.step e).spare (h.tame q)⟩

/-- Any events keep a course charted. -/
theorem Charted.extend {k : Course α η} (h : k.Charted) (events : List (Event α η)) :
    (k.extend events).Charted :=
  extend_induction h (fun _ e hk => hk.next e) events

theorem charted_after (events : List (Event α η)) : (after events).Charted :=
  charted_start.extend events

/-- Somebody follows the redirects of a handle, one lock at a time, while anything happens in
between: the start, how many redirects were followed, and where that has led. -/
inductive Chase (k : Course α η) (handle : QueueId) : Nat → Course α η → QueueId → Prop
  | start : Chase k handle 0 k handle
  | event {n k' q} (h : Chase k handle n k' q) (e : Event α η) : Chase k handle n (k'.next e) q
  | follow {n k' q t} (h : Chase k handle n k' q) (he : k'.system.outline.Edge q t) :
      Chase k handle (n + 1) k' t

/-- Who follows redirects follows no more than there are queues. -/
theorem Chase.le_length {k k' : Course α η} {handle q : QueueId} {n : Nat} (hk : k.Charted)
    (h : Chase k handle n k' q) : n ≤ k'.system.queues.length := by
  have hspare : k'.Charted ∧ k'.system.outline.Spare n q := by
    induction h with
    | start => exact ⟨hk, hk.tame handle⟩
    | event _ e ih => exact ⟨ih.1.next e, (ih.1.step e).spare ih.2⟩
    | follow _ he ih => exact ⟨ih.1, ih.2.follow he⟩
  rw [← System.length_faces_outline]
  exact hspare.2.followed_le

/-- Whether a call passes on from one queue to another one. -/
def passes (k k' : Course α η) (c : CallerId) : Nat :=
  match k.system.facing? c, k'.system.facing? c with
  | some p, some q => if p = q then 0 else 1
  | _, _ => 0

/-- How often a call passes on from one queue to another one. -/
def passages (c : CallerId) : Course α η → List (Event α η) → Nat
  | _, [] => 0
  | k, e :: events => k.passes (k.next e) c + passages c (k.next e) events

/-- A call that has passed on so often does not do so much longer. -/
structure Underway (k : Course α η) (c : CallerId) (passed : Nat) : Prop where
  /-- From its queue redirects do not lead far. -/
  spare : ∀ {q}, k.system.facing? c = some q → k.system.outline.Spare passed q
  /-- It did not pass on more often than there are queues. -/
  few : passed ≤ k.system.queues.length
  /-- It did not pass on before it was made. -/
  unmade : k.system.outline.calls.length ≤ c → passed = 0

/-- A call passes on along a redirect. -/
theorem Charted.edge_of_passes {k : Course α η} (h : k.Charted) (e : Event α η) {c : CallerId}
    {p q : QueueId} (hp : k.system.facing? c = some p)
    (hq : (k.next e).system.facing? c = some q) :
    p = q ∨ (k.next e).system.outline.Edge p q := by
  obtain ⟨r, hp⟩ := (System.facing?_eq_some_iff ..).mp hp
  obtain ⟨r', hq⟩ := (System.facing?_eq_some_iff ..).mp hq
  rcases (h.step e).facing hq with ⟨p', hp', he⟩ | hnew
  · rw [hp] at hp'
    cases hp'
    exact he
  · have hl := (List.getElem?_eq_some_iff.mp hp).1
    omega

/-- An event counts for a call that is underway if the call has passed on. A call that is not
underway any more has ended, and one that is new is made by the event. -/
theorem Underway.next {k : Course α η} {c : CallerId} {passed : Nat} (h : k.Underway c passed)
    (hk : k.Charted) (e : Event α η) : (k.next e).Underway c (passed + k.passes (k.next e) c) := by
  have hstep := hk.step e
  have hlength := hstep.length_faces_le
  simp only [System.length_faces_outline] at hlength
  have hfew := h.few
  have hcalls := hstep.length_calls_le
  cases hp : k.system.facing? c with
  | none =>
    have hzero : k.passes (k.next e) c = 0 := by simp only [passes, hp]
    rw [hzero, Nat.add_zero]
    refine ⟨fun {q} hq => ?_, by omega, fun hl => h.unmade (by omega)⟩
    obtain ⟨r, hq⟩ := (System.facing?_eq_some_iff ..).mp hq
    rcases hstep.facing hq with ⟨p, hp', -⟩ | hnew
    · have hfacing := (System.facing?_eq_some_iff ..).mpr ⟨r, hp'⟩
      rw [hp] at hfacing
      cases hfacing
    · rw [h.unmade (Nat.le_of_eq hnew.symm)]
      exact (hk.next e).tame q
  | some p =>
    have hspare := hstep.spare (h.spare hp)
    have hmade : c < k.system.outline.calls.length := by
      obtain ⟨r, hp⟩ := (System.facing?_eq_some_iff ..).mp hp
      exact (List.getElem?_eq_some_iff.mp hp).1
    have hmade' (hl : (k.next e).system.outline.calls.length ≤ c) :
        passed + k.passes (k.next e) c = 0 :=
      absurd (Nat.lt_of_lt_of_le hmade (Nat.le_trans hcalls hl)) (Nat.lt_irrefl _)
    cases hq : (k.next e).system.facing? c with
    | none =>
      have hzero : k.passes (k.next e) c = 0 := by simp only [passes, hp, hq]
      refine ⟨fun {q} hq' => ?_, by omega, hmade'⟩
      cases hq.symm.trans hq'
    | some q =>
      have hspare' : (k.next e).system.outline.Spare (passed + k.passes (k.next e) c) q := by
        simp only [passes, hp, hq]
        split_ifs with hpq
        · exact hpq ▸ hspare
        · exact hspare.follow ((hk.edge_of_passes e hp hq).resolve_left hpq)
      have hle := hspare'.followed_le
      rw [System.length_faces_outline] at hle
      refine ⟨fun {q'} hq' => ?_, hle, hmade'⟩
      obtain rfl := Option.some.inj (hq.symm.trans hq')
      exact hspare'

/-- In all its life a call passes on no more often than there are queues. -/
theorem Underway.passages_le {k : Course α η} {c : CallerId} {passed : Nat}
    (h : k.Underway c passed) (hk : k.Charted) (events : List (Event α η)) :
    passed + passages c k events ≤ (k.extend events).system.queues.length := by
  induction events generalizing k passed with
  | nil => exact h.few
  | cons e events ih =>
    have hle := ih (h.next hk e) (hk.next e)
    rw [passages, ← Nat.add_assoc]
    exact hle

/-- A call that is to be watched from now on. -/
theorem Charted.underway {k : Course α η} (hk : k.Charted) (c : CallerId) : k.Underway c 0 :=
  ⟨fun _ => hk.tame _, Nat.zero_le _, fun _ => rfl⟩

end Course

end Diameter.Queue
