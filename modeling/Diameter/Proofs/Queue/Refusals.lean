import Diameter.Proofs.Queue.Handles

/-!
# Calls at queues that refuse

Redirects of a call may lead to a queue that was destroyed. What can happen to such a call is
one of ten things, none of which stores or takes an item. Main statements: it never comes to
another end than being refused, unless it gives up, and once it was woken two turns more than
there are redirects before it are enough.
-/

namespace Diameter.Queue

variable {α η : Type}

/-- How a queue that was destroyed answers a request. -/
def Request.refusal : Request α → Outcome α
  | .push item => .refused item .closed
  | .pop _ => .failed .closed

/-- The call that gives up. -/
def Event.quitter? : Event α η → Option CallerId
  | .abandon c | .withdraw c _ => some c
  | _ => none

/-- Whether it is the turn of a call. -/
def Event.isTurnOf (c : CallerId) : Event α η → Bool
  | .turn d => d == c
  | _ => false

/-- How many turns a call has. -/
def turns (c : CallerId) (events : List (Event α η)) : Nat := events.countP (·.isTurnOf c)

namespace Outline

/-- So many redirects lead to a queue that was destroyed. -/
def Falls (o : Outline α) (n : Nat) (q : QueueId) : Prop :=
  ∃ d x, o.Hops n q d ∧ o.faces[d]? = some x ∧ x.lifecycle = .destroyed

theorem exists_hops_of_leads {o : Outline α} {q t : QueueId} (h : o.Leads q t) :
    ∃ n, o.Hops n q t := by
  induction h with
  | refl => exact ⟨0, .here⟩
  | tail _ he ih =>
    obtain ⟨n, hn⟩ := ih
    exact ⟨n + 1, hn.snoc he⟩

/-- Redirects lead to a destroyed queue exactly if one is some hops away. -/
theorem refuses_iff_exists_falls {o : Outline α} {q : QueueId} :
    o.Refuses q ↔ ∃ n, o.Falls n q := by
  constructor
  · rintro ⟨d, x, hd, hx, hl⟩
    obtain ⟨n, hn⟩ := exists_hops_of_leads hd
    exact ⟨n, d, x, hn, hx, hl⟩
  · rintro ⟨n, d, x, hn, hx, hl⟩
    exact ⟨d, x, hn.leads, hx, hl⟩

/-- Who is not at the destroyed queue yet is one redirect nearer to it at the next one. -/
theorem Falls.cases_head {o : Outline α} {n : Nat} {q : QueueId} (h : o.Falls n q) :
    (n = 0 ∧ ∃ x, o.faces[q]? = some x ∧ x.lifecycle = .destroyed) ∨
      ∃ m t, n = m + 1 ∧ o.Edge q t ∧ o.Falls m t := by
  obtain ⟨d, x, hh, hx, hl⟩ := h
  cases hh with
  | here => exact .inl ⟨rfl, x, hx, hl⟩
  | along he hrest => exact .inr ⟨_, _, rfl, he, d, x, hrest, hx, hl⟩

/-- A step takes nobody farther away from a queue that was destroyed. -/
theorem Step.falls {o o' : Outline α} {made : Option (Request α)} {taken : Option (Taking α)}
    (h : o.Step made taken o') {n : Nat} {q : QueueId} (hf : o.Falls n q) :
    ∃ m ≤ n, o'.Falls m q := by
  induction n generalizing q with
  | zero =>
    obtain ⟨-, x, hx, hl⟩ | ⟨m, t, hm, -⟩ := hf.cases_head
    · obtain ⟨x', hx', hl'⟩ := h.destroyed hx hl
      exact ⟨0, Nat.le_refl 0, q, x', .here, hx', hl'⟩
    · cases hm
  | succ n ih =>
    obtain ⟨hn, -⟩ | ⟨m, z, hm, ⟨items, hi⟩, hz⟩ := hf.cases_head
    · cases hn
    obtain rfl := Nat.succ.inj hm
    obtain ⟨⟨lifecycle, items', redirect⟩, hx', hl' | ⟨-, hl', hr⟩⟩ := h.face hi
    · exact ⟨0, Nat.zero_le _, q, _, .here, hx', hl'⟩
    · dsimp only at hl' hr
      rw [hl', hr.resolve_right (by simp)] at hx'
      obtain ⟨m, hle, d, x, hh, hx, hl⟩ := ih hz
      exact ⟨m + 1, by omega, d, x, .along ⟨items', hx'⟩ hh, hx, hl⟩

end Outline

/-! ## What becomes of such a call -/

/-- What an event makes of a call whose redirects lead to a queue that was destroyed. -/
inductive Retreat (o : Outline α) (r : Request α) (c : CallerId) :
    Event α η → Stage α → Stage α → Prop
  /-- Nothing, be it that others do something or that it was not the call's time. -/
  | stays {e stage} (ht : e.isTurnOf c = true → stage.goesOn = false)
      (hd : e = .depart c → stage.isLeaving = false) : Retreat o r c e stage stage
  /-- It is woken. -/
  | wakes {e p cause} (h : e.mover? ≠ some c) : Retreat o r c e (.parked p) (.woken p cause)
  /-- It is woken when it has begun to give up. -/
  | hears {e p cause late} (h : e.mover? ≠ some c) :
      Retreat o r c e (.leaving p none late) (.leaving p (some cause) late)
  /-- It goes on after it was woken. -/
  | returns {p cause} : Retreat o r c (.turn c) (.woken p cause) (.ready p true)
  /-- It follows a redirect. -/
  | follows {p t recalled} (h : o.Edge p t) :
      Retreat o r c (.turn c) (.ready p recalled) (.ready t false)
  /-- It is refused. -/
  | refused {p recalled} : Retreat o r c (.turn c) (.ready p recalled) (.ended r.refusal)
  /-- It is dropped before it has looked. -/
  | abandons {p} : Retreat o r c (.abandon c) (.ready p false) .dropped
  /-- It gives up waiting. -/
  | withdraws {p late} (h : late = true → r.deadline?.isSome = true) :
      Retreat o r c (.withdraw c late) (.parked p) (.leaving p none late)
  /-- It gives up after it was woken. -/
  | declines {p cause late} (h : late = true → r.deadline?.isSome = true) :
      Retreat o r c (.withdraw c late) (.woken p cause) (.leaving p (some cause) late)
  /-- It leaves the line. -/
  | departs {p held late} : Retreat o r c (.depart c) (.leaving p held late)
      (if late then .ended (.failed .timeout) else .dropped)

/-- The queue that a call has to do with refuses, if it still has to do with one. -/
def Stage.Refused (o : Outline α) (stage : Stage α) : Prop :=
  ∀ p, stage.spot = .facing p → o.Refuses p

/-- A wake-up respects that a call waits at a queue. -/
def Stage.standAt (q : QueueId) : Stage α → Stage α
  | .parked _ => .parked q
  | .woken _ cause => .woken q cause
  | _ => .woken q .all

/-- A wake-up respects that a call gives up at a queue. -/
def Stage.leaveAt (q : QueueId) (late : Bool) : Stage α → Stage α
  | .leaving _ held _ => .leaving q held late
  | .parked _ => .leaving q none late
  | .woken _ cause => .leaving q (some cause) late
  | _ => .leaving q (some .all) late

theorem Stage.respects_standAt (q : QueueId) : Stage.Respects (Stage.standAt (α := α) q) := by
  intro cause stage
  cases stage with
  | leaving p held late => cases held <;> rfl
  | _ => rfl

theorem Stage.respects_leaveAt (q : QueueId) (late : Bool) :
    Stage.Respects (Stage.leaveAt (α := α) q late) := by
  intro cause stage
  cases stage with
  | leaving p held late => cases held <;> rfl
  | _ => rfl

namespace System

/-- A queue that was destroyed refuses a call that looks at it. -/
theorem examine_of_destroyed {s : System α η} {q : QueueId}
    (h : (s.queue q).lifecycle = .destroyed) (c : CallerId) (r : Request α) :
    s.examine c r q = (s.setStage c (.ended r.refusal), none) := by
  cases r <;> simp only [examine, h, Request.refusal]

/-- The stage that was written is the stage that is there. -/
theorem stage_of_setStage {s : System α η} {c : CallerId} {r : Request α} {stage stage' : Stage α}
    (h : (s.setStage c stage).callers[c]? = some ⟨r, stage'⟩) : stage' = stage := by
  rw [setStage, modifyStage, List.getElem?_modify_eq, Option.map_eq_map,
    Option.map_eq_some_iff] at h
  obtain ⟨_, -, he⟩ := h
  exact (congrArg Caller.stage he).symm

end System

namespace Course

/-- What others do leaves a call in the image of each change that leaves it alone and respects
wake-ups. -/
theorem Charted.next_of_respects {k : Course α η} (hk : k.Charted) {c : CallerId} {r : Request α}
    {stage : Stage α} (hc : k.system.callers[c]? = some ⟨r, stage⟩) {g : Stage α → Stage α}
    (hg : Stage.Respects g) (hs : g stage = stage) {e : Event α η} (he : e.mover? ≠ some c) :
    ∃ stage', (k.next e).system.callers[c]? = some ⟨r, g stage'⟩ := by
  have hl := (List.getElem?_eq_some_iff.mp hc).1
  have hwrite := System.perform_modifyStage hg hl he
  have hsame : k.system.modifyStage c g = k.system := by
    rw [System.modifyStage_eq_setStage g hc, hs]
    exact System.setStage_self hc
  rw [hsame] at hwrite
  have hsystem : (k.next e).system = (k.next e).system.modifyStage c g :=
    congrArg Effect.system hwrite
  obtain ⟨stage', hget⟩ := hk.request_next hc e
  refine ⟨stage', ?_⟩
  rw [hsystem, System.modifyStage_eq_setStage g hget]
  exact System.callers_setStage hget

/-- An event makes one of these things of a call. -/
def Retreats (k : Course α η) (c : CallerId) (r : Request α) (stage : Stage α) (e : Event α η) :
    Prop :=
  ∃ stage', (k.next e).system.callers[c]? = some ⟨r, stage'⟩ ∧
    Retreat k.system.outline r c e stage stage'

/-- Others can do nothing to a call but wake it. -/
theorem Charted.retreat_of_others {k : Course α η} (hk : k.Charted) {c : CallerId}
    {r : Request α} {stage : Stage α} (hc : k.system.callers[c]? = some ⟨r, stage⟩)
    {e : Event α η} (he : e.mover? ≠ some c) : k.Retreats c r stage e := by
  have hstays (stage : Stage α) : Retreat k.system.outline r c e stage stage := by
    refine .stays (fun h => ?_) fun h => ?_
    · cases e with
      | turn d => exact absurd (congrArg some (beq_iff_eq.mp h)) he
      | _ => cases h
    · rw [h] at he
      exact absurd rfl he
  have hdeaf (hs : stage.Deaf) : k.Retreats c r stage e :=
    ⟨stage, hk.next_of_deaf hc hs he, hstays stage⟩
  cases stage with
  | parked p =>
    obtain ⟨stage', hget⟩ := hk.next_of_respects hc (Stage.respects_standAt p) rfl he
    refine ⟨_, hget, ?_⟩
    cases stage' with
    | parked _ => exact hstays (.parked p)
    | _ => exact .wakes he
  | leaving p held late =>
    cases held with
    | some cause => exact hdeaf fun _ => rfl
    | none =>
      obtain ⟨stage', hget⟩ := hk.next_of_respects hc (Stage.respects_leaveAt p late) rfl he
      refine ⟨_, hget, ?_⟩
      cases stage' with
      | parked _ => exact hstays (.leaving p none late)
      | leaving _ held _ =>
        cases held with
        | none => exact hstays (.leaving p none late)
        | some cause => exact .hears he
      | _ => exact .hears he
  | _ => exact hdeaf fun _ => rfl

/-- The call is not at a stage at which it can do this. -/
theorem retreats_of_same {k : Course α η} {c : CallerId} {r : Request α} {stage : Stage α}
    (hc : k.system.callers[c]? = some ⟨r, stage⟩) {e : Event α η}
    (ht : e.isTurnOf c = true → stage.goesOn = false)
    (hd : e = .depart c → stage.isLeaving = false) (hsame : (k.next e).system = k.system) :
    k.Retreats c r stage e :=
  ⟨stage, by rw [hsame, hc], .stays ht hd⟩

/-- The event writes the stage of the call. -/
theorem Charted.retreats_of_setStage {k : Course α η} (hk : k.Charted) {c : CallerId}
    {r : Request α} {stage new : Stage α} (hc : k.system.callers[c]? = some ⟨r, stage⟩)
    {e : Event α η} {s : System α η} (hsystem : (k.next e).system = s.setStage c new)
    (hnew : Retreat k.system.outline r c e stage new) : k.Retreats c r stage e := by
  obtain ⟨stage', hget⟩ := hk.request_next hc e
  rw [hsystem] at hget
  obtain rfl := System.stage_of_setStage hget
  exact ⟨_, hsystem ▸ hget, hnew⟩

/-- The turn of a call whose redirects lead to a queue that was destroyed. -/
theorem retreats_turn {k : Course α η} {c : CallerId} {r : Request α} {stage : Stage α}
    (hc : k.system.callers[c]? = some ⟨r, stage⟩) (hs : stage.Refused k.system.outline) :
    k.Retreats c r stage (.turn c) := by
  have hnext : (k.next (.turn c)).system = (k.system.turn c).1 := rfl
  cases stage with
  | ready p recalled =>
    obtain ⟨n, hn⟩ := Outline.refuses_iff_exists_falls.mp (hs p rfl)
    rcases hn.cases_head with ⟨-, x, hx, hl⟩ | ⟨m, t, -, he, -⟩
    · obtain ⟨-, rfl⟩ := System.queue_of_face hx
      refine ⟨_, ?_, .refused⟩
      rw [hnext, System.turn, hc]
      dsimp only
      rw [System.examine_of_destroyed hl]
      exact System.callers_setStage hc
    · refine ⟨_, ?_, .follows he⟩
      have hturn := congrArg Effect.system (System.perform_turn_of_edge hc he)
      rw [hnext]
      exact (congrArg (fun s => s.callers[c]?) hturn).trans (System.callers_setStage hc)
  | woken p cause =>
    refine ⟨_, ?_, .returns⟩
    exact (System.turn_of_woken hc).1
  | _ =>
    refine retreats_of_same hc (fun _ => rfl) (fun he => by cases he) ?_
    rw [hnext]
    simp only [System.turn, hc]

/-- A call that is given up retreats. -/
theorem Charted.retreats_abandon {k : Course α η} (hk : k.Charted) {c : CallerId} {r : Request α}
    {stage : Stage α} (hc : k.system.callers[c]? = some ⟨r, stage⟩) :
    k.Retreats c r stage (.abandon c) := by
  have hnext : (k.next (.abandon c)).system = k.system.abandon c := rfl
  unfold System.abandon at hnext
  simp only [hc] at hnext
  split at hnext
  · next hstage =>
    cases hstage
    exact hk.retreats_of_setStage hc hnext .abandons
  · exact retreats_of_same hc nofun nofun hnext

/-- A call that leaves the count retreats. If it is late it has a deadline. -/
theorem Charted.retreats_withdraw {k : Course α η} (hk : k.Charted) {c : CallerId}
    {r : Request α} {stage : Stage α} (hc : k.system.callers[c]? = some ⟨r, stage⟩)
    (late : Bool) : k.Retreats c r stage (.withdraw c late) := by
  have hnext : (k.next (.withdraw c late)).system =
      (if late && !k.system.isTimed c then k.system.quietly
        else (k.system.withdraw c late).quietly).system := rfl
  split_ifs at hnext with htimed
  · exact retreats_of_same hc nofun nofun hnext
  · have hlate (hl : late = true) : r.deadline?.isSome = true := by
      simpa [hl, System.isTimed, hc, Option.isSome_iff_ne_none] using htimed
    simp only [System.quietly, System.withdraw, hc] at hnext
    cases stage with
    | parked p => exact hk.retreats_of_setStage hc hnext (.withdraws hlate)
    | woken p cause => exact hk.retreats_of_setStage hc hnext (.declines hlate)
    | _ => exact retreats_of_same hc nofun nofun hnext

/-- A call that leaves the line retreats. The wake-up that it passes on does not reach itself. -/
theorem Charted.retreats_depart {k : Course α η} (hk : k.Charted) {c : CallerId} {r : Request α}
    {stage : Stage α} (hc : k.system.callers[c]? = some ⟨r, stage⟩) :
    k.Retreats c r stage (.depart c) := by
  have hnext : (k.next (.depart c)).system = k.system.depart c := rfl
  unfold System.depart at hnext
  simp only [hc] at hnext
  cases stage with
  | leaving p held late =>
    dsimp only at hnext
    have hdeaf : (if late then .ended (.failed .timeout) else .dropped : Stage α).Deaf := by
      cases late <;> exact fun _ => rfl
    rcases held with _ | _ | _
    · exact hk.retreats_of_setStage hc (s := k.system.modifyWaiting p r.side (·.leave c)) hnext
        .departs
    · refine hk.retreats_of_setStage hc (s := k.system.wakeOne p r.side) ?_ .departs
      rw [hnext]
      exact System.wakeOne_modifyStage hdeaf.respects k.system p r.side
    · exact hk.retreats_of_setStage hc hnext .departs
  | _ => exact retreats_of_same hc nofun (fun _ => rfl) hnext

/-- Each event does one of these things to a call whose redirects lead to a queue that was
destroyed. -/
theorem Charted.retreat {k : Course α η} (hk : k.Charted) {c : CallerId} {r : Request α}
    {stage : Stage α} (hc : k.system.callers[c]? = some ⟨r, stage⟩)
    (hs : stage.Refused k.system.outline) (e : Event α η) : k.Retreats c r stage e := by
  by_cases he : e.mover? = some c
  · cases e with
    | turn d =>
      obtain rfl := Option.some.inj he
      exact retreats_turn hc hs
    | abandon d =>
      obtain rfl := Option.some.inj he
      exact hk.retreats_abandon hc
    | withdraw d late =>
      obtain rfl := Option.some.inj he
      exact hk.retreats_withdraw hc late
    | depart d =>
      obtain rfl := Option.some.inj he
      exact hk.retreats_depart hc
    | _ => cases he
  · exact hk.retreat_of_others hc he

/-- What each step and each of these ten things keep is kept by all events. -/
theorem Charted.retreat_induction {P : Outline α → Stage α → Prop} {r : Request α} {c : CallerId}
    {A : Event α η → Prop} (hrefused : ∀ {o stage}, P o stage → stage.Refused o)
    (hstep : ∀ {o o' made taken stage}, o.Step made taken o' → P o stage → P o' stage)
    (hretreat : ∀ {o e stage stage'}, A e → Retreat o r c e stage stage' → P o stage →
      P o stage')
    {k : Course α η} (hk : k.Charted) {stage : Stage α}
    (hc : k.system.callers[c]? = some ⟨r, stage⟩) (h : P k.system.outline stage)
    {events : List (Event α η)} (hevents : ∀ e ∈ events, A e) :
    ∃ stage', (k.extend events).system.callers[c]? = some ⟨r, stage'⟩ ∧
      P (k.extend events).system.outline stage' := by
  induction events generalizing k stage with
  | nil => exact ⟨stage, hc, h⟩
  | cons e events ih =>
    obtain ⟨he, hrest⟩ := List.forall_mem_cons.mp hevents
    obtain ⟨stage', hget, hr⟩ := hk.retreat hc (hrefused h) e
    exact ih (hk.next e) hget (hstep (hk.step e) (hretreat he hr h)) hrest

/-- The same where all events are kept, also those of the call that gives up. -/
theorem Charted.retreat_invariant {P : Outline α → Stage α → Prop} {r : Request α} {c : CallerId}
    (hrefused : ∀ {o stage}, P o stage → stage.Refused o)
    (hstep : ∀ {o o' made taken stage}, o.Step made taken o' → P o stage → P o' stage)
    (hretreat : ∀ {o stage stage'} {e : Event α η}, Retreat o r c e stage stage' → P o stage →
      P o stage')
    {k : Course α η} (hk : k.Charted) {stage : Stage α}
    (hc : k.system.callers[c]? = some ⟨r, stage⟩) (h : P k.system.outline stage)
    (events : List (Event α η)) :
    ∃ stage', (k.extend events).system.callers[c]? = some ⟨r, stage'⟩ ∧
      P (k.extend events).system.outline stage' :=
  hk.retreat_induction (A := fun _ => True) hrefused hstep (fun _ => hretreat) hc h
    fun _ _ => trivial

end Course

/-! ## It is refused, or gives up -/

/-- A call at this stage is going to be refused, or was, or gives up. -/
def Stage.TurnedAway (r : Request α) (o : Outline α) : Stage α → Prop
  | .ready p _ | .parked p | .woken p _ => o.Refuses p
  | .leaving _ _ late => late = true → r.deadline?.isSome = true
  | .ended outcome =>
    outcome = r.refusal ∨ outcome = .failed .timeout ∧ r.deadline?.isSome = true
  | .dropped => True

/-- A call that is turned away has to do with queues that refuse. -/
theorem Stage.TurnedAway.refused {r : Request α} {o : Outline α} {stage : Stage α}
    (h : stage.TurnedAway r o) : stage.Refused o := by
  intro p hp
  cases stage with
  | ready q recalled => cases hp; exact h
  | parked q => cases hp; exact h
  | woken q cause => cases hp; exact h
  | leaving q held late => cases late <;> cases hp
  | _ => cases hp

/-- A call that is turned away stays so while others go on. -/
theorem Outline.Step.turnedAway {r : Request α} {o o' : Outline α} {made : Option (Request α)}
    {taken : Option (Taking α)} (h : o.Step made taken o') {stage : Stage α}
    (ht : stage.TurnedAway r o) : stage.TurnedAway r o' := by
  cases stage with
  | ready q recalled => exact h.refuses ht
  | parked q => exact h.refuses ht
  | woken q cause => exact h.refuses ht
  | _ => exact ht

/-- A call that is turned away stays so whatever becomes of it. -/
theorem Retreat.turnedAway {r : Request α} {o : Outline α} {c : CallerId} {e : Event α η}
    {stage stage' : Stage α} (h : Retreat o r c e stage stage') (ht : stage.TurnedAway r o) :
    stage'.TurnedAway r o := by
  cases h with
  | stays _ _ => exact ht
  | wakes _ => exact ht
  | hears _ => exact ht
  | returns => exact ht
  | follows he => exact Outline.Refuses.extend ht (.single he)
  | refused => exact .inl rfl
  | abandons => trivial
  | withdraws hl => exact hl
  | declines hl => exact hl
  | @departs p held late =>
    cases late with
    | true => exact .inr ⟨rfl, ht rfl⟩
    | false => trivial

/-- A call that has not waited, and is going to be refused, or was, or was given up. -/
def Stage.Unwaited (r : Request α) (o : Outline α) : Stage α → Prop
  | .ready p _ => o.Refuses p
  | .ended outcome => outcome = r.refusal
  | .dropped => True
  | _ => False

/-- A call that has not waited and is turned away has to do with queues that refuse. -/
theorem Stage.Unwaited.refused {r : Request α} {o : Outline α} {stage : Stage α}
    (h : stage.Unwaited r o) : stage.Refused o := by
  intro p hp
  cases stage with
  | ready q recalled => cases hp; exact h
  | ended outcome => cases hp
  | dropped => cases hp
  | _ => exact h.elim

theorem Outline.Step.unwaited {r : Request α} {o o' : Outline α} {made : Option (Request α)}
    {taken : Option (Taking α)} (h : o.Step made taken o') {stage : Stage α}
    (hu : stage.Unwaited r o) : stage.Unwaited r o' := by
  cases stage with
  | ready q recalled => exact h.refuses hu
  | _ => exact hu

/-- A call that has not waited never does where it is refused. -/
theorem Retreat.unwaited {r : Request α} {o : Outline α} {c : CallerId} {e : Event α η}
    {stage stage' : Stage α} (h : Retreat o r c e stage stage') (hu : stage.Unwaited r o) :
    stage'.Unwaited r o := by
  cases h with
  | stays _ _ => exact hu
  | follows he => exact Outline.Refuses.extend hu (.single he)
  | refused => rfl
  | abandons => trivial
  | _ => exact hu.elim

/-- A call that did not give up: it has to do with a queue that refuses, or was refused. -/
def Stage.Firm (r : Request α) (o : Outline α) : Stage α → Prop
  | .ready p _ | .parked p | .woken p _ => o.Refuses p
  | .ended outcome => outcome = r.refusal
  | _ => False

/-- A call that did not give up is turned away. -/
theorem Stage.Firm.turnedAway {r : Request α} {o : Outline α} {stage : Stage α}
    (h : stage.Firm r o) : stage.TurnedAway r o := by
  cases stage with
  | ended outcome => exact .inl h
  | leaving q held late => exact h.elim
  | dropped => trivial
  | _ => exact h

/-- A call that has to do with a queue that refuses did not give up. -/
theorem Stage.Firm.of_facing {r : Request α} {o : Outline α} {stage : Stage α} {p : QueueId}
    (hp : stage.spot = .facing p) (h : o.Refuses p) : stage.Firm r o := by
  cases stage with
  | leaving q held late => cases late <;> cases hp
  | ended outcome => cases hp
  | dropped => cases hp
  | _ => cases hp; exact h

theorem Outline.Step.firm {r : Request α} {o o' : Outline α} {made : Option (Request α)}
    {taken : Option (Taking α)} (h : o.Step made taken o') {stage : Stage α}
    (hf : stage.Firm r o) : stage.Firm r o' := by
  cases stage with
  | ready q recalled => exact h.refuses hf
  | parked q => exact h.refuses hf
  | woken q cause => exact h.refuses hf
  | _ => exact hf

/-- Who does not give up stays firm. -/
theorem Retreat.firm {r : Request α} {o : Outline α} {c : CallerId} {e : Event α η}
    {stage stage' : Stage α} (he : e.quitter? ≠ some c) (h : Retreat o r c e stage stage')
    (hf : stage.Firm r o) : stage'.Firm r o := by
  cases h with
  | stays _ _ => exact hf
  | wakes _ => exact hf
  | hears _ => exact hf
  | returns => exact hf
  | follows hedge => exact Outline.Refuses.extend hf (.single hedge)
  | refused => rfl
  | departs => exact hf.elim
  | _ => exact absurd rfl he

/-! ## It does not take long -/

/-- So many turns are enough for a call at this stage to come to its end, or it gives up. -/
def Stage.DueIn (o : Outline α) (n : Nat) : Stage α → Prop
  | .ready p _ => ∃ m, o.Falls m p ∧ m + 1 ≤ n
  | .woken p _ => ∃ m, o.Falls m p ∧ m + 2 ≤ n
  | .parked _ => False
  | _ => True

/-- A call that is due has to do with queues that refuse. -/
theorem Stage.DueIn.refused {o : Outline α} {n : Nat} {stage : Stage α} (h : stage.DueIn o n) :
    stage.Refused o := by
  intro p hp
  cases stage with
  | ready q recalled =>
    cases hp
    exact Outline.refuses_iff_exists_falls.mpr (h.imp fun _ => And.left)
  | woken q cause =>
    cases hp
    exact Outline.refuses_iff_exists_falls.mpr (h.imp fun _ => And.left)
  | parked q => exact h.elim
  | leaving q held late => cases late <;> cases hp
  | _ => cases hp

/-- A call that is due in so many turns is due in more of them. -/
theorem Stage.DueIn.mono {o : Outline α} {n n' : Nat} {stage : Stage α} (h : stage.DueIn o n)
    (hn : n ≤ n') : stage.DueIn o n' := by
  cases stage with
  | ready q recalled => exact h.imp fun _ hm => ⟨hm.1, Nat.le_trans hm.2 hn⟩
  | woken q cause => exact h.imp fun _ hm => ⟨hm.1, Nat.le_trans hm.2 hn⟩
  | _ => exact h

/-- A call stays due in as many turns while others go on, as its way does not get longer. -/
theorem Outline.Step.dueIn {o o' : Outline α} {made : Option (Request α)}
    {taken : Option (Taking α)} (h : o.Step made taken o') {n : Nat} {stage : Stage α}
    (hd : stage.DueIn o n) : stage.DueIn o' n := by
  have hnear {p : QueueId} {more : Nat} (hf : ∃ m, o.Falls m p ∧ m + more ≤ n) :
      ∃ m, o'.Falls m p ∧ m + more ≤ n := by
    obtain ⟨m, hm, hle⟩ := hf
    obtain ⟨m', hm', hfalls⟩ := h.falls hm
    exact ⟨m', hfalls, by omega⟩
  cases stage with
  | ready q recalled => exact hnear hd
  | woken q cause => exact hnear hd
  | _ => exact hd

/-- Each turn is one of those that are needed. -/
theorem Retreat.dueIn {r : Request α} {o : Outline α} {c : CallerId} {e : Event α η}
    {stage stage' : Stage α} (h : Retreat o r c e stage stage') {n : Nat}
    (hd : stage.DueIn o n) : stage'.DueIn o (n - (e.isTurnOf c).toNat) := by
  cases h with
  | stays ht _ =>
    cases hturn : e.isTurnOf c with
    | false => exact hd
    | true =>
      have hstill := ht hturn
      cases stage with
      | ready q recalled => cases hstill
      | woken q cause => cases hstill
      | _ => exact hd
  | wakes _ => exact hd.elim
  | returns =>
    obtain ⟨m, hm, hle⟩ := hd
    have hone : (Event.turn (α := α) (η := η) c).isTurnOf c = true := beq_self_eq_true c
    refine ⟨m, hm, ?_⟩
    rw [hone, Bool.toNat_true]
    omega
  | @follows p t recalled hedge =>
    obtain ⟨m, hm, hle⟩ := hd
    have hone : (Event.turn (α := α) (η := η) c).isTurnOf c = true := beq_self_eq_true c
    rcases hm.cases_head with ⟨-, x, hx, hl⟩ | ⟨m', t', rfl, hedge', hm'⟩
    · exact absurd hedge (Outline.not_edge_of_destroyed hx hl)
    · obtain rfl := o.edge_unique hedge hedge'
      refine ⟨m', hm', ?_⟩
      rw [hone, Bool.toNat_true]
      omega
  | departs => split_ifs <;> trivial
  | _ => trivial

namespace Course

/-- A call that is due in so many turns is at its end, or gives up, when it had them. -/
theorem Charted.dueIn_extend {k : Course α η} (hk : k.Charted) {c : CallerId} {r : Request α}
    {stage : Stage α} (hc : k.system.callers[c]? = some ⟨r, stage⟩) {n : Nat}
    (h : stage.DueIn k.system.outline n) (events : List (Event α η)) :
    ∃ stage', (k.extend events).system.callers[c]? = some ⟨r, stage'⟩ ∧
      stage'.DueIn (k.extend events).system.outline (n - turns c events) := by
  induction events generalizing k stage n with
  | nil => exact ⟨stage, hc, h⟩
  | cons e events ih =>
    obtain ⟨stage', hget, hr⟩ := hk.retreat hc h.refused e
    have hcount : turns c (e :: events) = turns c events + (e.isTurnOf c).toNat := by
      rw [turns, turns, List.countP_cons]
      cases e.isTurnOf c <;> rfl
    have hextend := ih (hk.next e) hget ((hk.step e).dueIn (hr.dueIn h))
    rw [hcount, Nat.add_comm, ← Nat.sub_sub]
    exact hextend

end Course

/-- Who gives up when no turn is left has come to its end when it has left the line. -/
theorem Retreat.ended_of_depart {r : Request α} {o : Outline α} {c : CallerId}
    {stage stage' : Stage α} (h : Retreat (η := η) o r c (.depart c) stage stage')
    (hd : stage.DueIn o 0) : stage' = .dropped ∨ ∃ outcome, stage' = .ended outcome := by
  cases h with
  | stays _ hl =>
    have hleft := hl rfl
    cases stage with
    | ready p recalled =>
      obtain ⟨m, -, hm⟩ := hd
      omega
    | woken p cause =>
      obtain ⟨m, -, hm⟩ := hd
      omega
    | parked p => exact hd.elim
    | leaving p held late => cases hleft
    | ended outcome => exact .inr ⟨outcome, rfl⟩
    | dropped => exact .inl rfl
  | wakes _ => exact hd.elim
  | hears hm => exact absurd rfl hm
  | @departs p held late =>
    cases late with
    | true => exact .inr ⟨_, rfl⟩
    | false => exact .inl rfl

/-- Who does not give up is refused when no turn is left. -/
theorem Stage.Firm.eq_ended {r : Request α} {o : Outline α} {stage : Stage α}
    (hf : stage.Firm r o) (hd : stage.DueIn o 0) : stage = .ended r.refusal := by
  cases stage with
  | ready p recalled =>
    obtain ⟨m, -, hm⟩ := hd
    omega
  | woken p cause =>
    obtain ⟨m, -, hm⟩ := hd
    omega
  | parked p => exact hd.elim
  | ended outcome => exact congrArg Stage.ended hf
  | _ => exact hf.elim

end Diameter.Queue
