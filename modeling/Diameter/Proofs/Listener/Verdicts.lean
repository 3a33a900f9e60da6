import Diameter.Message.Draft
import Diameter.Proofs.Handshake.Script
import Diameter.Proofs.Listener.Sheet
import Diameter.Proofs.Listener.Stopping
import Mathlib.Data.List.Induction

/-!
# Each handshake ends as its own far end has it

Whatever happens to other connections, the end of a handshake follows from the script of its
own far end, the time at which it was accepted, what the turn that decided it saw of its
token, and whether a stop took its entry before the handshake claimed it. The only assumption
is about time: the clock does not pass a point in time at which the handshake has something to
do, and a turn finds the connection as the script has it. The runs at the end show what a script
does not decide: a verdict stands although the entry was taken, a turn that is late hands a late
message off, and a full event queue keeps a handshake from ending.
-/

namespace Diameter.Listener

open Handshake (Script)

/-! ## Entries -/

/-- The deeds say who has left the set, and who is pending has not left it by itself. -/
structure Entered (r : Roster) (ds : List Deed) : Prop where
  /-- The deeds say who has left the set. -/
  listed : Listed r ds
  /-- Who is pending has not left it by itself. -/
  unclaimed : ∀ h c, r.places[h]? = some ⟨c, .pending⟩ → .claimed h ∉ ds

/-- A pending handshake is in the set unless a stop took its entry. -/
theorem Entered.mem_iff {r : Roster} {ds : List Deed} (he : Entered r ds) {h : HandshakeId}
    {c : ConnectionId} (hr : r.places[h]? = some ⟨c, .pending⟩) :
    h ∈ r.outstanding ↔ .drained h ∉ ds := by
  constructor
  · exact fun hm => (he.listed.inside h hm).2
  · intro hd
    obtain hm | hc | hd' := he.listed.left h (Roster.lt_length_places hr)
    · exact hm
    · exact absurd hc (he.unclaimed h c hr)
    · exact absurd hd' hd

/-- A deed keeps this. A handshake that stands elsewhere after it is not pending, and those that
are pending stand where they stood or are new. -/
theorem Entered.step {r s : Roster} {ds es : List Deed} (he : Entered r ds)
    (step : Roster.Step r es s) : Entered s (ds ++ es) := by
  refine ⟨he.listed.step step, fun i c hi hm => ?_⟩
  have hsame (hes : .claimed i ∉ es) (hr : ∃ c, r.places[i]? = some ⟨c, .pending⟩) : False := by
    obtain ⟨c, hr⟩ := hr
    exact (List.mem_append.mp hm).elim (he.unclaimed i c hr) hes
  have hput {h : HandshakeId} {d : ConnectionId} {old stand : Stand} {r' : Roster}
      (hr : r.places[h]? = some ⟨d, old⟩) (hplaces : r'.places = r.places)
      (hstand : stand ≠ .pending) (hi : (r'.put h stand).places[i]? = some ⟨c, .pending⟩) :
      i ≠ h ∧ r.places[i]? = some ⟨c, .pending⟩ := by
    obtain ⟨-, hx⟩ | ⟨hne, hx⟩ := Roster.places_put (hplaces ▸ hr) hi
    · exact absurd (congrArg Place.stand hx).symm hstand
    · exact ⟨hne, hplaces ▸ hx⟩
  cases step with
  | connect hc => exact hsame (by simp) ⟨c, hi⟩
  | start hr => exact hsame (by simp) ⟨c, hi⟩
  | drop => exact hsame (by simp) ⟨c, hi⟩
  | accept hr hc =>
    have hold : .claimed i ∈ ds := (List.mem_append.mp hm).elim id fun h => by simp at h
    have hlt := he.listed.numbered i (.inl hold)
    exact hsame (by simp) ⟨c, (List.getElem?_append_left hlt).symm.trans hi⟩
  | strand hr hc => exact hsame (by simp) ⟨c, hi⟩
  | claimClosing hr hs ho =>
    obtain ⟨hne, hi⟩ := hput hr rfl (by simp) hi
    exact hsame (by simpa using hne) ⟨c, hi⟩
  | claimHanding hr hs =>
    obtain ⟨hne, hi⟩ := hput hr rfl (by simp) hi
    exact hsame (by simpa using hne) ⟨c, hi⟩
  | yield hr hs ho => exact hsame (by simp) ⟨c, (hput hr rfl (by simp) hi).2⟩
  | @close h d outcome stand hr hs =>
    have hstand : stand ≠ .pending := by rcases hs with rfl | rfl <;> simp
    exact hsame (by simp) ⟨c, (hput hr rfl hstand hi).2⟩
  | raise hr ho => exact hsame (by simp) ⟨c, (hput hr rfl (by simp) hi).2⟩
  | handOver hr => exact hsame (by simp) ⟨c, (hput hr rfl (by simp) hi).2⟩
  | complete hr => exact hsame (by simp) ⟨c, (hput hr rfl (by simp) hi).2⟩
  | release hc => exact hsame (by simp) ⟨c, hi⟩
  | drain => exact hsame (by simp) ⟨c, hi⟩

/-- Any deeds keep this. -/
theorem Entered.path {r s : Roster} {ds es : List Deed} (he : Entered r ds)
    (path : Roster.Path r es s) : Entered s (ds ++ es) := by
  induction path with
  | nil => rwa [List.append_nil]
  | snoc path step ih =>
    rw [← List.append_assoc]
    exact ih.step step

/-- A new listener has nobody in its set. -/
theorem entered_new (address : String) (transport : Transport) (security : Security)
    (terms : AcceptTerms) (surroundings : Surroundings) :
    Entered (Listener.new address transport security terms surroundings).roster [] where
  listed := by
    constructor
    · intro h hm
      cases hm
    · intro h hm
      cases hm
    · intro h hlt
      cases hlt
    · intro h hm
      cases hm
    · intro h hm
      rcases hm with hm | hm <;> cases hm
  unclaimed h c hr := by cases hr

/-- A stop takes only entries that are there. -/
theorem mem_outstanding_of_drained {l : Listener} {e : Event} {h : HandshakeId}
    (hm : .drained h ∈ l.deeds e) : h ∈ l.outstanding := by
  obtain rfl := eq_drain_of_drained hm
  simpa [deeds] using hm

/-! ## One handshake on its way -/

/-- How a handshake ends that has left the set. -/
def Phase.outcome? : Phase → Option HandshakeOutcome
  | .closing outcome _ | .ended outcome => some outcome
  | .raising what => some (.fatal what)
  | .handing _ | .keeping _ _ | .storing _ => some .handedOff
  | .waiting _ | .leaving _ => none

/-- What follows the claim has the outcome that the script ends with. -/
theorem outcome_afterClaim (l : Listener) (c : ConnectionId) (claimed : Bool)
    (decision : Handshake.Decision) :
    (l.afterClaim c claimed decision).1.outcome? = some (Script.ending claimed decision) := by
  rcases decision with _ | _ | _ | _ <;> cases claimed <;> rfl

/-- Who has an outcome is not pending. -/
theorem stand_ne_pending_of_outcome {phase : Phase} {outcome : HandshakeOutcome}
    (h : phase.outcome? = some outcome) : phase.stand ≠ .pending := by
  cases phase <;> simp [Phase.outcome?, Phase.stand] at h ⊢

/-- A handshake that has left the set ends as it was decided. -/
theorem Accepted.Step.outcome {l : Listener} {h : HandshakeId} {x : Accepted} {e : Event}
    {phase : Phase} (hs : x.Step l h e phase) {outcome : HandshakeOutcome}
    (ho : x.phase.outcome? = some outcome) : phase.outcome? = some outcome := by
  cases hs with
  | poll hp hc => simp [hp, Phase.outcome?] at ho
  | close hp _ | fail hp | keep hp _ | queue hp _ | kept hp _ | stored hp _ =>
    rw [hp] at ho
    exact ho

/-- What an event makes of one handshake. -/
inductive Fate (l : Listener) (h : HandshakeId) : Event → Accepted → Prop
  /-- It stays as it is. -/
  | kept {e : Event} {x : Accepted} (hx : l.handshakes[h]? = some x) : Fate l h e x
  /-- It moves on to another phase. -/
  | moved {e : Event} {x : Accepted} {phase : Phase} (hx : l.handshakes[h]? = some x)
      (hs : x.Step l h e phase) : Fate l h e { x with phase }
  /-- It leaves the set. -/
  | claimed {x : Accepted} {decision : Handshake.Decision} (hx : l.handshakes[h]? = some x)
      (hp : x.phase = .leaving decision) :
      Fate l h (.claim h) { x with
        phase := (l.afterClaim x.connection (l.outstanding.contains h) decision).1 }
  /-- It stops the daemon. -/
  | raised {x : Accepted} {what : String} (hx : l.handshakes[h]? = some x)
      (hp : x.phase = .raising what) : Fate l h (.raise h) { x with phase := .ended (.fatal what) }
  /-- It is started. -/
  | started {overlooks : Bool} {c : ConnectionId} {deadline : Nat} {token : TokenId}
      (hh : l.handshakes.length = h) (hd : Clock.after? l.now l.timeout = some deadline) :
      Fate l h (.accept overlooks) ⟨c, deadline, token, .waiting .turn⟩

/-- After one handshake has moved on, the others are as they were. -/
theorem Sheet.handshakes_setPhase {s : Sheet} {h i : HandshakeId} {phase : Phase} {y : Accepted}
    (hy : (s.setPhase i phase).handshakes[h]? = some y) :
    s.handshakes[h]? = some y ∨
      i = h ∧ ∃ x, s.handshakes[h]? = some x ∧ y = { x with phase } := by
  rw [Sheet.setPhase, List.getElem?_modify] at hy
  obtain ⟨x, hx, hy⟩ := Option.map_eq_some_iff.mp hy
  by_cases hi : i = h
  · rw [if_pos hi] at hy
    exact .inr ⟨hi, x, hx, hy.symm⟩
  · rw [if_neg hi] at hy
    exact .inl (hy ▸ hx)

/-- Every step of the sheet is about one handshake, or leaves all as they are. -/
theorem Sheet.Step.fate {l : Listener} {e : Event} {s : Sheet} (hs : Sheet.Step l e s)
    {h : HandshakeId} {y : Accepted} (hy : s.handshakes[h]? = some y) : Fate l h e y := by
  cases hs with
  | @dispatched overlooks c deadline ha hd =>
    obtain hlt | hge := Nat.lt_or_ge h l.handshakes.length
    · exact .kept ((List.getElem?_append_left hlt).symm.trans hy)
    · have hnew := (List.getElem?_append_right hge).symm.trans hy
      obtain heq | hlt := Nat.eq_or_lt_of_le hge
      · rw [heq, Nat.sub_self, List.getElem?_cons_zero] at hnew
        cases hnew
        exact .started heq hd
      · rw [List.getElem?_eq_none (by simp; omega)] at hnew
        cases hnew
  | @claimed i x decision hx hp =>
    obtain hy | ⟨rfl, z, hz, rfl⟩ := Sheet.handshakes_setPhase hy
    · exact .kept hy
    · obtain rfl := Option.some.inj (hx.symm.trans hz)
      exact .claimed hx hp
  | @raised i x what hx hp =>
    have hy : (l.sheet.setPhase i (.ended (.fatal what))).handshakes[h]? = some y := hy
    obtain hy | ⟨rfl, z, hz, rfl⟩ := Sheet.handshakes_setPhase hy
    · exact .kept hy
    · obtain rfl := Option.some.inj (hx.symm.trans hz)
      exact .raised hx hp
  | @moved _ i x phase hx hs =>
    obtain hy | ⟨rfl, z, hz, rfl⟩ := Sheet.handshakes_setPhase hy
    · exact .kept hy
    · obtain rfl := Option.some.inj (hx.symm.trans hz)
      exact .moved hx hs
  | _ => exact .kept hy

/-- Only the clock lets time pass. -/
theorem Sheet.Step.now_eq {l : Listener} {e : Event} {s : Sheet} (hs : Sheet.Step l e s)
    (he : ∀ now, e ≠ .clock now) : s.now = l.now := by
  cases hs with
  | ticked => exact absurd rfl (he _)
  | _ => rfl

/-! ## On time -/

/-- The connection, the deadline and the wait of a handshake that waits. -/
def waiting? (l : Listener) (h : HandshakeId) : Option (ConnectionId × Nat × Handshake.Wait) :=
  match l.handshakes[h]? with
  | some ⟨c, deadline, _, .waiting wait⟩ => some (c, deadline, wait)
  | _ => none

/-- A handshake in a waiting phase waits. -/
theorem waiting_of_phase {l : Listener} {h : HandshakeId} {x : Accepted} {wait : Handshake.Wait}
    (hx : l.handshakes[h]? = some x) (hp : x.phase = .waiting wait) :
    l.waiting? h = some (x.connection, x.deadline, wait) := by
  obtain ⟨c, deadline, token, phase⟩ := x
  cases hp
  simp only [waiting?, hx]

/-- A handshake in no waiting phase does not wait. -/
theorem waiting_eq_none {l : Listener} {h : HandshakeId} {x : Accepted}
    (hx : l.handshakes[h]? = some x) (hp : ∀ wait, x.phase ≠ .waiting wait) :
    l.waiting? h = none := by
  obtain ⟨c, deadline, token, phase⟩ := x
  cases phase with
  | waiting wait => exact absurd rfl (hp wait)
  | _ => simp only [waiting?, hx]

/-- A turn of a wait that finds its connection. -/
theorem perform_poll {l : Listener} {h : HandshakeId} {x : Accepted} {wait : Handshake.Wait}
    {connection : Connection} (hx : l.handshakes[h]? = some x) (hp : x.phase = .waiting wait)
    (hc : l.connections[x.connection]? = some connection) (overlooks : Bool) :
    let turn := Handshake.poll ⟨l.security, l.codec, x.deadline⟩ l.now
      (!overlooks && l.isCancelled h) wait connection
    (l.perform (.poll h overlooks)).handshakes[h]? = some { x with phase := .ofPoll turn.1 } ∧
      (l.perform (.poll h overlooks)).connections[x.connection]? = some turn.2 := by
  intro turn
  obtain ⟨c, deadline, token, phase⟩ := x
  cases hp
  have hperform : l.perform (.poll h overlooks) =
      (l.modifyConnection c fun _ => turn.2).setPhase h (.ofPoll turn.1) := by
    simp only [perform, pollSeeing, hx, hc]
    rcases turn.1 with next | decision <;> rfl
  rw [hperform]
  constructor
  · simp [setPhase, modifyConnection, mapSurroundings, hx]
  · simp [setPhase, modifyConnection, mapSurroundings, Surroundings.modifyConnection, hc]

/-- Whether a happening is a turn of the wait of a handshake. -/
def Happening.polls (x : Happening) (h : HandshakeId) : Bool :=
  match x with
  | .own (.poll i _) => i == h
  | _ => false

namespace Course

/-- What happens is on time for a handshake that waits: time goes on and does not pass a point
at which the wait has something to do, and a turn of it finds the connection as the script has
it. -/
def Prompt (script : Script) (h : HandshakeId) (k : Course) (x : Happening) : Prop :=
  ∀ w ∈ k.listener.waiting? h,
    (k.listener.now ≤ (k.happen x).listener.now ∧
      ∀ time < (k.happen x).listener.now, k.listener.now ≤ time → ¬ script.Due w.2.1 time w.2.2) ∧
    (x.polls h = true →
      ∀ c ∈ k.listener.connections[w.1]?, script.ShownBy k.listener.now c)

instance (script : Script) (h : HandshakeId) (k : Course) (x : Happening) :
    Decidable (Prompt script h k x) :=
  inferInstanceAs (Decidable (∀ w ∈ k.listener.waiting? h,
    (k.listener.now ≤ (k.happen x).listener.now ∧
      ∀ time < (k.happen x).listener.now, k.listener.now ≤ time → ¬ script.Due w.2.1 time w.2.2) ∧
    (x.polls h = true →
      ∀ c ∈ k.listener.connections[w.1]?, script.ShownBy k.listener.now c)))

/-- Everything that happens is on time for a handshake. -/
def OnTime (script : Script) (h : HandshakeId) : Course → List Happening → Prop
  | _, [] => True
  | k, x :: rest => Prompt script h k x ∧ OnTime script h (k.happen x) rest

instance decidableOnTime (script : Script) (h : HandshakeId) :
    (k : Course) → (happenings : List Happening) → Decidable (OnTime script h k happenings)
  | _, [] => .isTrue trivial
  | k, x :: rest =>
    have := decidableOnTime script h (k.happen x) rest
    inferInstanceAs (Decidable (Prompt script h k x ∧ OnTime script h (k.happen x) rest))

/-- Happenings are on time if those before the last one are, and the last one is prompt. -/
theorem OnTime.concat {script : Script} {h : HandshakeId} {k : Course}
    {happenings : List Happening} {x : Happening} (ht : OnTime script h k (happenings ++ [x])) :
    OnTime script h k happenings ∧ Prompt script h (k.through happenings) x := by
  induction happenings generalizing k with
  | nil => exact ⟨trivial, ht.1⟩
  | cons y happenings ih => exact ⟨⟨ht.1, (ih ht.2).1⟩, (ih ht.2).2⟩

/-- The handshake is started at a time. -/
def StartsAt (k : Course) (happenings : List Happening) (h : HandshakeId) (time : Nat) : Prop :=
  ∃ earlier overlooks, earlier ++ [.own (.accept overlooks)] <+: happenings ∧
    (k.through earlier).listener.handshakes.length = h ∧
    (k.through earlier).listener.now = time ∧
    h < ((k.through earlier).listener.perform (.accept overlooks)).handshakes.length

/-- A turn decides the wait of the handshake. `seen` tells whether it sees a cancellation. -/
def DecidesSeeing (k : Course) (happenings : List Happening) (h : HandshakeId) (seen : Bool) :
    Prop :=
  ∃ earlier overlooks, earlier ++ [.own (.poll h overlooks)] <+: happenings ∧
    (k.through earlier).listener.waiting? h ≠ none ∧
    ((k.through earlier).listener.perform (.poll h overlooks)).waiting? h = none ∧
    seen = (!overlooks && (k.through earlier).listener.isCancelled h)

/-- A handshake starts at the same time, whatever happens later. -/
theorem StartsAt.mono {k : Course} {happenings more : List Happening} {h : HandshakeId}
    {time : Nat} (hs : k.StartsAt happenings h time) : k.StartsAt (happenings ++ more) h time := by
  obtain ⟨earlier, overlooks, hprefix, hrest⟩ := hs
  exact ⟨earlier, overlooks, hprefix.trans (List.prefix_append _ _), hrest⟩

/-- What was seen at the decision was seen, whatever happens later. -/
theorem DecidesSeeing.mono {k : Course} {happenings more : List Happening} {h : HandshakeId}
    {seen : Bool} (hs : k.DecidesSeeing happenings h seen) :
    k.DecidesSeeing (happenings ++ more) h seen := by
  obtain ⟨earlier, overlooks, hprefix, hrest⟩ := hs
  exact ⟨earlier, overlooks, hprefix.trans (List.prefix_append _ _), hrest⟩

end Course

/-! ## What is known of a handshake -/

/-- What is known of a handshake that was accepted at a time: it is on schedule, or it was
decided as its script has it. `entered` tells that no stop has taken its entry. -/
def Told (script : Script) (terms : Handshake.Terms) (accepted now : Nat) (entered : Bool)
    (decides : Bool → Prop) : Phase → Prop
  | .waiting wait => script.OnSchedule terms accepted now wait
  | .leaving decision => ∃ seen, decides seen ∧ decision = script.decision terms accepted seen
  | phase => ∃ seen, decides seen ∧
      phase.outcome? = some (Script.ending entered (script.decision terms accepted seen))

section

variable {script : Script} {terms : Handshake.Terms} {accepted now : Nat} {entered : Bool}
  {decides : Bool → Prop} {phase : Phase}

/-- Of a handshake with an outcome it is told that it ends as its script does. -/
theorem told_iff_of_outcome {outcome : HandshakeOutcome} (ho : phase.outcome? = some outcome) :
    Told script terms accepted now entered decides phase ↔ ∃ seen, decides seen ∧
      outcome = Script.ending entered (script.decision terms accepted seen) := by
  have hiff : Told script terms accepted now entered decides phase ↔ ∃ seen, decides seen ∧
      phase.outcome? = some (Script.ending entered (script.decision terms accepted seen)) := by
    cases phase with
    | waiting wait => cases ho
    | leaving decision => cases ho
    | _ => exact Iff.rfl
  rw [hiff, ho]
  simp only [Option.some.injEq]

/-- What is known of a handshake stays known as time passes and other things are decided. -/
theorem Told.mono (ht : Told script terms accepted now entered decides phase) {later : Nat}
    {entered' : Bool} {decides' : Bool → Prop}
    (htime : ∀ wait, phase = .waiting wait → now ≤ later ∧
      ∀ time < later, now ≤ time → ¬ script.Due terms.deadline time wait)
    (hentered : phase.stand ≠ .pending → entered' = entered)
    (hdecides : ∀ seen, decides seen → decides' seen) :
    Told script terms accepted later entered' decides' phase := by
  have hoftold {outcome : HandshakeOutcome} (ho : phase.outcome? = some outcome) :
      Told script terms accepted later entered' decides' phase := by
    obtain ⟨seen, hseen, he⟩ := (told_iff_of_outcome ho).mp ht
    rw [told_iff_of_outcome ho, hentered (stand_ne_pending_of_outcome ho)]
    exact ⟨seen, hdecides seen hseen, he⟩
  cases phase with
  | waiting wait =>
    obtain ⟨hlater, hdue⟩ := htime wait rfl
    exact ht.later hlater fun time hle hlt => hdue time hlt hle
  | leaving decision =>
    obtain ⟨seen, hseen, he⟩ := ht
    exact ⟨seen, hdecides seen hseen, he⟩
  | _ => exact hoftold rfl

end

/-- What the clock shows after a span. -/
theorem eq_add_of_after? {now span deadline : Nat} (h : Clock.after? now span = some deadline) :
    deadline = now + span := by
  unfold Clock.after? at h
  split at h
  · exact (Option.some.inj h).symm
  · cases h

namespace Course

/-- No entry is taken of a handshake that has left the set. -/
theorem drained_next {k : Course} (he : Entered k.listener.roster k.deeds) {h : HandshakeId}
    {x : Accepted} (hx : k.listener.handshakes[h]? = some x) {e : Event}
    (hs : x.phase.stand ≠ .pending ∨ e ≠ .drain) :
    decide (.drained h ∉ (k.next e).deeds) = decide (.drained h ∉ k.deeds) := by
  have hnew : .drained h ∉ k.listener.deeds e := by
    intro hm
    obtain hs | hs := hs
    · exact he.listed.not_outstanding (places_roster _ hx) hs (mem_outstanding_of_drained hm)
    · exact hs (eq_drain_of_drained hm)
  have hiff : .drained h ∈ (k.next e).deeds ↔ .drained h ∈ k.deeds := by
    simp [Course.next, hnew]
  simp only [hiff]

/-- What is known of a handshake: when it was accepted, and where it has come to since. -/
def Traced (script : Script) (k : Course) (happenings : List Happening) (h : HandshakeId)
    (x : Accepted) : Prop :=
  ∃ accepted, k.StartsAt happenings h accepted ∧
    x.deadline = accepted + k.listener.timeout ∧
    Told script ⟨k.listener.security, k.listener.codec, x.deadline⟩ accepted
      (k.through happenings).listener.now (.drained h ∉ (k.through happenings).deeds)
      (k.DecidesSeeing happenings h) x.phase

variable {script : Script} {k : Course} {happenings : List Happening} {h : HandshakeId}

/-- The terms and the security are those of the beginning. -/
theorem bearings_through (k : Course) (happenings : List Happening) :
    (k.through happenings).listener.toAcceptTerms = k.listener.toAcceptTerms ∧
      (k.through happenings).listener.security = k.listener.security := by
  refine through_induction (P := fun m => m.listener.toAcceptTerms = k.listener.toAcceptTerms ∧
    m.listener.security = k.listener.security) ⟨rfl, rfl⟩ (fun m x hm => ?_) happenings
  cases x with
  | own e =>
    obtain ⟨hterms, -, hsecurity, -⟩ := (sheet_perform m.listener e).bearings
    exact ⟨hterms.trans hm.1, hsecurity.trans hm.2⟩
  | around surroundings => exact hm

/-- The deeds say who has left the set, whatever happens. -/
theorem entered_through (hk : Entered k.listener.roster k.deeds) (happenings : List Happening) :
    Entered (k.through happenings).listener.roster (k.through happenings).deeds := by
  refine through_induction (P := fun m => Entered m.listener.roster m.deeds) hk
    (fun m x hm => ?_) happenings
  cases x with
  | own e => exact hm.path (path_perform m.listener e)
  | around surroundings =>
    obtain ⟨⟨hwaits, hinside, hleft, honce, hnumbered⟩, hunclaimed⟩ := hm
    exact ⟨⟨hwaits, hinside, hleft, honce, hnumbered⟩, hunclaimed⟩

/-- A handshake to which nothing happens stays traced. -/
theorem Traced.kept {x : Accepted} (ht : k.Traced script happenings h x)
    (hx : (k.through happenings).listener.handshakes[h]? = some x) {y : Happening}
    (hp : Prompt script h (k.through happenings) y)
    (hentered : x.phase.stand ≠ .pending →
      decide (.drained h ∉ ((k.through happenings).happen y).deeds) =
        decide (.drained h ∉ (k.through happenings).deeds)) :
    k.Traced script (happenings ++ [y]) h x := by
  obtain ⟨accepted, hstarts, hdeadline, htold⟩ := ht
  refine ⟨accepted, hstarts.mono, hdeadline, ?_⟩
  rw [through_concat]
  refine htold.mono (fun wait hw => ?_) hentered fun _ => DecidesSeeing.mono
  exact (hp _ (waiting_of_phase hx hw)).1

/-- An event that is not one of the clock lets no time pass. -/
theorem now_concat {e : Event} (he : ∀ now, e ≠ .clock now) :
    (k.through (happenings ++ [.own e])).listener.now = (k.through happenings).listener.now := by
  rw [through_concat]
  exact (sheet_perform (k.through happenings).listener e).now_eq he

/-- A handshake that has left the set ends as it was decided. -/
theorem Traced.decided {x : Accepted} (ht : k.Traced script happenings h x)
    (hentered : Entered (k.through happenings).listener.roster (k.through happenings).deeds)
    (hx : (k.through happenings).listener.handshakes[h]? = some x) {phase : Phase}
    {outcome : HandshakeOutcome} (ho : x.phase.outcome? = some outcome)
    (ho' : phase.outcome? = some outcome) (e : Event) :
    k.Traced script (happenings ++ [.own e]) h { x with phase } := by
  obtain ⟨accepted, hstarts, hdeadline, htold⟩ := ht
  obtain ⟨seen, hseen, heq⟩ := (told_iff_of_outcome ho).mp htold
  refine ⟨accepted, hstarts.mono, hdeadline, (told_iff_of_outcome ho').mpr ?_⟩
  rw [through_concat, happen_own,
    drained_next hentered hx (.inl (stand_ne_pending_of_outcome ho))]
  exact ⟨seen, hseen.mono, heq⟩

/-- A turn of a wait that is on time keeps to the schedule of the script, or decides as the
script has it. -/
theorem Traced.polled {x : Accepted} (ht : k.Traced script happenings h x)
    (hx : (k.through happenings).listener.handshakes[h]? = some x) {overlooks : Bool}
    (hp : Prompt script h (k.through happenings) (.own (.poll h overlooks)))
    {wait : Handshake.Wait} (hw : x.phase = .waiting wait) {connection : Connection}
    (hc : (k.through happenings).listener.connections[x.connection]? = some connection) :
    k.Traced script (happenings ++ [.own (.poll h overlooks)]) h { x with
      phase := .ofPoll (Handshake.poll ⟨(k.through happenings).listener.security,
        (k.through happenings).listener.codec, x.deadline⟩ (k.through happenings).listener.now
        (!overlooks && (k.through happenings).listener.isCancelled h) wait connection).1 } := by
  obtain ⟨accepted, hstarts, hdeadline, htold⟩ := ht
  obtain ⟨hterms, hsecurity⟩ := bearings_through k happenings
  have hcodec : (k.through happenings).listener.codec = k.listener.codec :=
    congrArg AcceptTerms.codec hterms
  have hwaiting := waiting_of_phase hx hw
  have hshown : script.ShownBy (k.through happenings).listener.now connection :=
    (hp _ hwaiting).2 (beq_self_eq_true h) connection hc
  rw [hw] at htold
  have hafter := (perform_poll hx hw hc overlooks).1
  rw [hsecurity, hcodec] at hafter ⊢
  refine ⟨accepted, hstarts.mono, hdeadline, ?_⟩
  obtain hdecision | ⟨next, hnext, hschedule⟩ :=
    htold.poll hshown (!overlooks && (k.through happenings).listener.isCancelled h)
  · rw [hdecision] at hafter ⊢
    refine ⟨_, ⟨happenings, overlooks, List.prefix_refl _, ?_, ?_, rfl⟩, rfl⟩
    · rw [hwaiting]
      exact Option.some_ne_none _
    · exact waiting_eq_none hafter fun wait hw => by cases hw
  · rw [hnext, now_concat fun now he => by cases he]
    exact hschedule

/-- A handshake that was decided ends by that decision, and by whether a stop took its entry
before it leaves the set. -/
theorem Traced.claimed {x : Accepted} (ht : k.Traced script happenings h x)
    (hentered : Entered (k.through happenings).listener.roster (k.through happenings).deeds)
    (hx : (k.through happenings).listener.handshakes[h]? = some x) {decision : Handshake.Decision}
    (hw : x.phase = .leaving decision) :
    k.Traced script (happenings ++ [.own (.claim h)]) h { x with
      phase := ((k.through happenings).listener.afterClaim x.connection
        ((k.through happenings).listener.outstanding.contains h) decision).1 } := by
  obtain ⟨accepted, hstarts, hdeadline, htold⟩ := ht
  rw [hw] at htold
  obtain ⟨seen, hseen, rfl⟩ := htold
  have hplace : (k.through happenings).listener.roster.places[h]? =
      some ⟨x.connection, .pending⟩ := by
    rw [places_roster _ hx, hw]
    rfl
  have hin : (k.through happenings).listener.outstanding.contains h =
      decide (.drained h ∉ (k.through happenings).deeds) := by
    rw [Bool.eq_iff_iff, decide_eq_true_iff, List.contains_iff_mem]
    exact hentered.mem_iff hplace
  refine ⟨accepted, hstarts.mono, hdeadline,
    (told_iff_of_outcome (outcome_afterClaim _ _ _ _)).mpr ⟨seen, hseen.mono, ?_⟩⟩
  rw [through_concat, happen_own, drained_next hentered hx (.inr fun he => by cases he), hin]

/-- A handshake that starts is on schedule. -/
theorem traced_started {overlooks : Bool} {c : ConnectionId} {deadline : Nat} {token : TokenId}
    (hh : (k.through happenings).listener.handshakes.length = h)
    (hd : Clock.after? (k.through happenings).listener.now (k.through happenings).listener.timeout =
      some deadline)
    (hlt : h < ((k.through happenings).listener.perform (.accept overlooks)).handshakes.length) :
    k.Traced script (happenings ++ [.own (.accept overlooks)]) h
      ⟨c, deadline, token, .waiting .turn⟩ := by
  have hdeadline : deadline = (k.through happenings).listener.now + k.listener.timeout := by
    rw [eq_add_of_after? hd]
    exact congrArg (_ + ·) (congrArg AcceptTerms.timeout (bearings_through k happenings).1)
  refine ⟨_, ⟨happenings, overlooks, List.prefix_refl _, hh, rfl, hlt⟩, hdeadline, ?_⟩
  rw [now_concat fun now he => by cases he]
  exact Script.onSchedule_turn script (hdeadline ▸ Nat.le_add_right _ _)

/-- What an event makes of a traced handshake is traced. -/
theorem traced_next (hentered : Entered (k.through happenings).listener.roster
      (k.through happenings).deeds)
    (ht : ∀ x, (k.through happenings).listener.handshakes[h]? = some x →
      k.Traced script happenings h x) {e : Event}
    (hp : Prompt script h (k.through happenings) (.own e)) {y : Accepted}
    (hy : ((k.through happenings).listener.perform e).handshakes[h]? = some y) :
    k.Traced script (happenings ++ [.own e]) h y := by
  cases (sheet_perform (k.through happenings).listener e).fate hy with
  | kept hx => exact (ht y hx).kept hx hp fun hs => drained_next hentered hx (.inl hs)
  | @moved _ x phase hx hs =>
    cases ho : x.phase.outcome? with
    | some outcome => exact (ht x hx).decided hentered hx ho (hs.outcome ho) e
    | none =>
      cases hs with
      | poll hw hc => exact (ht x hx).polled hx hp hw hc
      | close hw _ | fail hw | keep hw _ | queue hw _ | kept hw _ | stored hw _ =>
        rw [hw] at ho
        cases ho
  | @claimed x decision hx hw => exact (ht x hx).claimed hentered hx hw
  | @raised x what hx hw =>
    have hfatal : x.phase.outcome? = some (.fatal what) := by
      rw [hw]
      rfl
    exact (ht x hx).decided hentered hx hfatal rfl _
  | started hh hd => exact traced_started hh hd (List.getElem?_eq_some_iff.mp hy).1

/-- Every handshake that is on time is traced. -/
theorem traced_through (hk : Entered k.listener.roster k.deeds) (hnew : k.listener.handshakes = [])
    (ht : OnTime script h k happenings) {x : Accepted}
    (hx : (k.through happenings).listener.handshakes[h]? = some x) :
    k.Traced script happenings h x := by
  induction happenings using List.reverseRecOn generalizing x with
  | nil =>
    have hx : k.listener.handshakes[h]? = some x := hx
    rw [hnew] at hx
    cases hx
  | append_singleton happenings y ih =>
    obtain ⟨ht, hp⟩ := ht.concat
    have htraced := fun x => ih (x := x) ht
    rw [through_concat] at hx
    cases y with
    | own e => exact traced_next (entered_through hk happenings) htraced hp hx
    | around surroundings => exact (htraced x hx).kept hx hp fun _ => rfl

/-- A turn at the deadline that finds its connection ends the wait. -/
theorem waiting_poll_at_deadline {l : Listener} {x : Accepted} (hx : l.handshakes[h]? = some x)
    (hd : x.deadline ≤ l.now) {c : Connection} (hc : l.connections[x.connection]? = some c)
    (overlooks : Bool) : (l.perform (.poll h overlooks)).waiting? h = none := by
  cases hp : x.phase with
  | waiting wait =>
    have hafter := (perform_poll hx hp hc overlooks).1
    rcases hpoll : Handshake.poll ⟨l.security, l.codec, x.deadline⟩ l.now
      (!overlooks && l.isCancelled h) wait c with ⟨next | decision, after⟩
    · exact absurd (congrArg Prod.fst hpoll) (Handshake.poll_at_deadline hd _ _ _ _)
    · rw [hpoll] at hafter
      exact waiting_eq_none hafter fun wait hw => by cases hw
  | _ =>
    obtain ⟨connection, deadline, token, phase⟩ := x
    cases hp
    simp only [perform, pollSeeing, hx]
    exact waiting_eq_none hx fun wait hw => by cases hw

/-- Whatever other connections, the shutdown, stops and the peer layer do: a handshake that is
on time and has ended was decided by one turn of its wait, and its outcome is computed from the
script of its far end, the time at which it was accepted, the timeout, what that turn saw of
its token, and whether a stop took its entry, as one of the ways in which a handshake can end.
A stop that takes the entry keeps a message from being handed over; a verdict against the peer
stands. Who is handed off was received in time, the TLS handshake included. And no handshake
waits after a turn at its deadline. -/
theorem ends_as_scripted (address : String) (transport : Transport) (security : Security)
    (terms : AcceptTerms) (surroundings : Surroundings) (script : Script) (h : HandshakeId)
    (happenings : List Happening)
    (ht : OnTime script h (start address transport security terms surroundings) happenings)
    {x : Accepted}
    (hx : ((start address transport security terms surroundings).through
      happenings).listener.handshakes[h]? = some x) :
    let k := start address transport security terms surroundings
    let l := (k.through happenings).listener
    let entered : Bool := .drained h ∉ (k.through happenings).deeds
    ∃ accepted, k.StartsAt happenings h accepted ∧ x.deadline = accepted + terms.timeout ∧
      (∀ outcome, x.phase = .ended outcome → ∃ seen, k.DecidesSeeing happenings h seen ∧
        let scripted : Handshake.Terms := ⟨security, terms.codec, accepted + terms.timeout⟩
        outcome = Script.ending entered (script.decision scripted accepted seen) ∧
        script.Ends scripted accepted entered seen outcome ∧
        (outcome = .handedOff → ∃ frame, script.Receives scripted accepted (.ok frame))) ∧
      ∀ overlooks c, x.deadline ≤ l.now → l.connections[x.connection]? = some c →
        (l.perform (.poll h overlooks)).waiting? h = none := by
  intro k l entered
  have hnew : Entered k.listener.roster k.deeds :=
    entered_new address transport security terms surroundings
  obtain ⟨accepted, hstarts, hdeadline, htold⟩ := traced_through hnew rfl ht hx
  refine ⟨accepted, hstarts, hdeadline, fun outcome hended => ?_,
    fun overlooks c hd hc => waiting_poll_at_deadline hx hd hc overlooks⟩
  have ho : x.phase.outcome? = some outcome := by
    rw [hended]
    rfl
  obtain ⟨seen, hseen, houtcome⟩ := (told_iff_of_outcome ho).mp htold
  rw [hdeadline] at houtcome
  have hends : script.Ends ⟨security, terms.codec, accepted + terms.timeout⟩ accepted entered seen
      outcome := by
    rw [houtcome]
    exact script.ends_decision _ _ _ _
  exact ⟨seen, hseen, houtcome, hends, hends.in_time⟩

/-- The first message of a client. -/
def firstFrame : Octets := (Draft.capabilitiesRequest 7 "h" "r" Address.anyV4).write

/-- A client whose TLS handshake takes a while and whose message comes at the deadline. -/
def slowClient : Script := ⟨⟨3, none⟩, some (12, .ok firstFrame)⟩

/-- The slow client is accepted at 2. Another client connects and says nothing. -/
def twoClients : List Happening :=
  [.own .start, .own (.connect "a" "a" ⟨3, none⟩), .own (.connect "b" "b" ⟨9, none⟩),
    .own (.clock 2), .own (.accept false), .own (.accept false), .own (.poll 1 false),
    .own (.poll 0 false), .own (.clock 5), .own (.poll 0 false), .own (.clock 12),
    .own (.deliver 0 (.ok firstFrame)), .own (.poll 0 false), .own (.poll 1 false),
    .own (.claim 0), .own (.handOver 0), .own (.completeHandOver 0)]

/-- The listener that the slow client meets. -/
def slowStart : Course := start "a" .tcp .tls ⟨10, .base, .keeper 0⟩ (.new 0)

/-- Two clients connect to a listener with TLS. The message of the slow one is complete at the
very moment of its deadline, and it is handed off. -/
theorem message_at_deadline_is_handed_off :
    OnTime slowClient 0 slowStart twoClients ∧
      ∃ x, (slowStart.through twoClients).listener.handshakes[0]? = some x ∧
        x.phase = .ended .handedOff ∧ x.deadline = 12 ∧
        ∃ frame, slowClient.Receives ⟨.tls, .base, 12⟩ 2 (.ok frame) := by
  have ht : OnTime slowClient 0 slowStart twoClients := by decide +kernel
  have hfirst : ((slowStart.through twoClients).listener.handshakes[0]?).map
      (fun x => (x.deadline, x.phase.stand)) = some (12, .ended .handedOff) := by decide +kernel
  obtain ⟨x, hx, hfound⟩ := Option.map_eq_some_iff.mp hfirst
  obtain ⟨hdeadline, hstand⟩ := Prod.mk.inj hfound
  have hended : x.phase = .ended .handedOff := by
    cases hphase : x.phase with
    | ended outcome =>
      rw [hphase] at hstand
      cases hstand
      rfl
    | _ => simp [Phase.stand, hphase] at hstand
  obtain ⟨accepted, -, haccepted, hdecided, -⟩ := ends_as_scripted "a" .tcp .tls
    ⟨10, .base, .keeper 0⟩ (.new 0) slowClient 0 twoClients ht hx
  obtain ⟨seen, -, -, -, hreceives⟩ := hdecided _ hended
  have htwelve : 12 = accepted + 10 := hdeadline.symm.trans haccepted
  obtain rfl : accepted = 2 := by omega
  exact ⟨ht, x, hx, hended, hdeadline, hreceives rfl⟩

/-- Two clients in the clear, each of which is given ten units of time. -/
def clearStart (peers : PeerLayer) : Course :=
  start "a" .tcp .clear ⟨10, .base, peers⟩ (.new 1)

/-- Two clients connect and are accepted, and are waited for. -/
def acceptsBoth : List Happening :=
  [.own .start, .own (.connect "a" "a" ⟨0, none⟩), .own (.connect "b" "b" ⟨0, none⟩),
    .own (.accept false), .own (.accept false), .own (.poll 0 false), .own (.poll 1 false)]

/-- A client goes away. A stop takes the entry after this was noticed and before the handshake
leaves the set. -/
def goneBeforeStop : List Happening :=
  acceptsBoth ++ [.own (.deliver 0 (.error .closed)), .own (.poll 0 false), .own .cancelAll,
    .own .drain, .own (.claim 0), .own (.close 0)]

/-- A handshake whose message is there is handed over, as far as the peer layer lets it. -/
def handsOver (h : HandshakeId) : List Happening :=
  [.own (.deliver h (.ok firstFrame)), .own (.poll h false), .own (.claim h), .own (.handOver h),
    .own (.completeHandOver h)]

/-- The message of a client comes when twice its time is over, and the wait has no turn before
that. -/
def lateTurn : List Happening := acceptsBoth ++ .own (.clock 20) :: handsOver 0

/-- Where the handshakes stand. -/
def stands (k : Course) : List Stand := k.listener.handshakes.map fun x => x.phase.stand

/-- Three runs whose ends no script tells. In the first a verdict stands although a stop has taken
the entry. In the second a message is handed off that came after the deadline, because the wait
had its turn late. In the third the event queue has room for one peer: the same client that is
handed off if it is alone is not handed off, nor ends otherwise however often it has a turn, after
another one has been. -/
theorem outcome_apart_from_script :
    ((clearStart (.keeper 0)).through goneBeforeStop).stands =
        [.ended (.rejected (.receive ConnectionError.closed.message)), .pending] ∧
      .drained 0 ∈ ((clearStart (.keeper 0)).through goneBeforeStop).deeds ∧
    (((clearStart (.keeper 0)).through (acceptsBoth ++ [.own (.clock 20)])).listener.handshakes.map
        fun x => decide (x.deadline < 20)) = [true, true] ∧
      ((clearStart (.keeper 0)).through lateTurn).stands = [.ended .handedOff, .pending] ∧
    ((clearStart .events).through (acceptsBoth ++ handsOver 1)).stands =
        [.pending, .ended .handedOff] ∧
      ((clearStart .events).through (acceptsBoth ++ handsOver 0 ++ handsOver 1)).stands =
        [.ended .handedOff, .given] ∧
      ((clearStart .events).through (acceptsBoth ++ handsOver 0 ++ handsOver 1 ++
        [.own (.clock 30), .own (.poll 1 false), .own (.completeHandOver 1)])).stands =
        [.ended .handedOff, .given] := by
  decide +kernel

end Course

end Diameter.Listener
