import Diameter.Proofs.Listener.Gate
import Diameter.Proofs.Listener.Stopping
import Mathlib.Data.List.Count

/-!
# The set of outstanding handshakes

The accept loop does three things for a connection: it puts the handshake into the set, starts
its task, and notes the task in the entry. As soon as the task is started it runs beside the
loop, so it may be over before it is noted. A stop cancels, takes the accept loop to wait for,
waits for it, takes all entries out of the set, and waits for the tasks that are noted in them.

Here these points are kept apart, and stops come one after another, as many as may be. That
each entry a stop takes has its task rests on the order of the stop: the loop, which is the
only one to put entries into the set, has ended before the set is emptied, and it does not end
between putting an entry in and noting its task.
-/

namespace Diameter.Listener

/-- A handshake that the accept loop has put into the set and has not finished with. -/
structure Starting where
  /-- The handshake. -/
  handshake : HandshakeId
  /-- Whether its task has been started. -/
  spawned : Bool
  deriving DecidableEq, Repr

/-- An entry that a stop took out of the set. -/
structure Taken where
  /-- The handshake. -/
  handshake : HandshakeId
  /-- Whether its task was noted. Without it there is nothing to wait for. -/
  hasTask : Bool
  deriving DecidableEq, Repr

/-- How far the stop has come that is going on. -/
inductive StopPhase where
  /-- There is none. -/
  | resting
  /-- It waits for the accept loop, unless somebody has taken the loop before. -/
  | joining (waits : Bool)
  /-- It waits for the tasks that are noted in the entries it took. -/
  | awaiting (taken : List Taken)
  deriving DecidableEq, Repr

/-- A listener whose stops come one after another. -/
structure Service where
  /-- The course. -/
  course : Course
  /-- What the accept loop is about. -/
  starting : Option Starting
  /-- The handshakes in whose entries the task was noted. -/
  noted : List HandshakeId
  /-- How far the stop has come. -/
  stop : StopPhase

/-- The handshake whose task the event is a step of. -/
def Event.task? : Event → Option HandshakeId
  | .poll h _ | .claim h | .close h | .raise h | .handOver h | .completeHandOver h => some h
  | _ => none

namespace Service

/-- What happens next. -/
inductive Move where
  /-- An event outside the accept loop and the stop. -/
  | other (e : Event)
  /-- The accept loop goes round, and puts an entry into the set if it accepts something. -/
  | accept (overlooks : Bool)
  /-- The accept loop goes on with the handshake that it is about. -/
  | goOn
  /-- The stop goes on, or another one is called. -/
  | stop

/-- An event outside the accept loop and the stop. A task that was not started does nothing. -/
def meet (k : Service) (e : Event) : Service :=
  if e.isStaged || e.task?.any fun h => k.starting == some ⟨h, false⟩ then k
  else { k with course := k.course.next e }

/-- The accept loop goes round, if it is not about a handshake. -/
def accept (k : Service) (overlooks : Bool) : Service :=
  if k.starting.isSome then k
  else
    let h := k.course.listener.handshakes.length
    let course := k.course.next (.accept overlooks)
    if h < course.listener.handshakes.length then
      { k with course, starting := some ⟨h, false⟩ }
    else { k with course }

/-- The accept loop starts the task, and then notes it if the entry is still there. -/
def goOn (k : Service) : Service :=
  match k.starting with
  | none => k
  | some ⟨h, false⟩ => { k with starting := some ⟨h, true⟩ }
  | some ⟨h, true⟩ =>
    let noted := if h ∈ k.course.listener.outstanding then k.noted ++ [h] else k.noted
    { k with starting := none, noted }

/-- An entry as a stop finds it. -/
def take (k : Service) (h : HandshakeId) : Taken := ⟨h, k.noted.contains h⟩

/-- Whether there is nothing to wait for any more. -/
def isJoined (k : Service) (x : Taken) : Bool :=
  !x.hasTask || k.course.listener.hasEnded x.handshake

/-- The stop goes on, if it need not wait. It is called after the listener was started. -/
def proceed (k : Service) : Service :=
  match k.stop with
  | .resting =>
    if k.course.listener.acceptor = .idle then k
    else { k with
      course := (k.course.next .cancelAll).next .join
      stop := .joining k.course.listener.hasLoop }
  | .joining waits =>
    if waits = true ∧ k.course.listener.acceptor = .accepting then k
    else { k with
      course := k.course.next .drain
      stop := .awaiting (k.course.listener.outstanding.map k.take) }
  | .awaiting taken =>
    if taken.all k.isJoined then
      { k with course := k.course.next (.conclude (taken.map Taken.handshake)), stop := .resting }
    else k

/-- What a move leads to. -/
def next (k : Service) : Move → Service
  | .other e => k.meet e
  | .accept overlooks => k.accept overlooks
  | .goOn => k.goOn
  | .stop => k.proceed

/-- What moves lead to. -/
def extend (k : Service) (moves : List Move) : Service := moves.foldl next k

/-- A listener that has just been made. -/
def start (address : String) (transport : Transport) (security : Security)
    (terms : AcceptTerms) (surroundings : Surroundings) : Service :=
  ⟨.start address transport security terms surroundings, none, [], .resting⟩

/-- What every move keeps holds after all moves. -/
theorem extend_induction {P : Service → Prop} {k : Service} (hk : P k)
    (step : ∀ k m, P k → P (k.next m)) (moves : List Move) : P (k.extend moves) := by
  induction moves generalizing k with
  | nil => exact hk
  | cons m moves ih => exact ih (step k m hk)

end Service

/-! ## How often an entry leaves the set -/

/-- Every handshake has one entry, which is in the set or has left it once. -/
def EnteredOnce (r : Roster) (ds : List Deed) : Prop :=
  ∀ h, ds.count (.claimed h) + ds.count (.drained h) + r.outstanding.count h =
    if h < r.places.length then 1 else 0

/-- Deeds by which nobody leaves the set, and nobody new comes, leave every handshake with one
entry. -/
theorem EnteredOnce.silent {r s : Roster} {ds es : List Deed} (hr : EnteredOnce r ds)
    (hes : Silent es) (hout : s.outstanding = r.outstanding)
    (hlength : s.places.length = r.places.length) : EnteredOnce s (ds ++ es) := by
  intro h
  rw [List.count_append, List.count_append, List.count_eq_zero.mpr (hes h).1,
    List.count_eq_zero.mpr (hes h).2, hout, hlength]
  exact hr h

/-- A claim takes the entry of a handshake out of the set. -/
theorem EnteredOnce.claim {r : Roster} {ds : List Deed} (hr : EnteredOnce r ds) {h : HandshakeId}
    (hm : h ∈ r.outstanding) (stand : Stand) :
    EnteredOnce ((r.leave h).put h stand) (ds ++ [.claimed h]) := by
  intro i
  have hold := hr i
  rw [(r.leave h).length_put h stand, List.count_append, List.count_append]
  have hleft : ((r.leave h).put h stand).outstanding = r.outstanding.filter (· != h) := rfl
  rw [hleft, show (r.leave h).places = r.places from rfl, ← hold]
  by_cases hi : i = h
  · subst hi
    have hthere : 1 ≤ r.outstanding.count i := List.one_le_count_iff.mpr hm
    have hgone : (r.outstanding.filter (· != i)).count i = 0 :=
      List.count_eq_zero.mpr fun hf => by simp at hf
    have hone : r.outstanding.count i = 1 := by split at hold <;> omega
    simp [hgone, hone]
    omega
  · have hkept : (r.outstanding.filter (· != h)).count i = r.outstanding.count i :=
      List.count_filter (by simpa using hi)
    rw [hkept]
    simp [Ne.symm hi]

/-- A handshake that starts is entered once. -/
theorem EnteredOnce.dispatch {r : Roster} {ds : List Deed} (hr : EnteredOnce r ds)
    (c d : ConnectionId) (rest : List ConnectionId) :
    EnteredOnce ({ r with coming := rest }.dispatch c) (ds ++ [.accepted d]) := by
  intro h
  have hold := hr h
  have hlength : ({ r with coming := rest }.dispatch c).places.length = r.places.length + 1 :=
    List.length_append
  have hout : ({ r with coming := rest }.dispatch c).outstanding =
      r.outstanding ++ [r.places.length] := rfl
  rw [hlength, hout, List.count_append, List.count_append, List.count_append]
  have hnone : [(.accepted d : Deed)].count (.claimed h) = 0 ∧
      [(.accepted d : Deed)].count (.drained h) = 0 := by simp
  rw [hnone.1, hnone.2, List.count_singleton]
  by_cases hh : h = r.places.length
  · subst hh
    rw [if_neg (Nat.lt_irrefl _)] at hold
    rw [if_pos (Nat.lt_succ_self _), if_pos (beq_self_eq_true _)]
    omega
  · have hiff : h < r.places.length + 1 ↔ h < r.places.length :=
      ⟨fun hlt => Nat.lt_of_le_of_ne (Nat.le_of_lt_succ hlt) hh, Nat.lt_succ_of_lt⟩
    simpa [hiff, Ne.symm hh] using hold

/-- Draining takes all entries out of the set. -/
theorem EnteredOnce.drain {r : Roster} {ds : List Deed} (hr : EnteredOnce r ds) :
    EnteredOnce { r with outstanding := [] } (ds ++ r.outstanding.map .drained) := by
  intro h
  have hnone : (r.outstanding.map Deed.drained).count (.claimed h) = 0 :=
    List.count_eq_zero.mpr (by simp)
  have hall : (r.outstanding.map Deed.drained).count (.drained h) = r.outstanding.count h :=
    List.count_map_of_injective _ _ (fun _ _ he => Deed.drained.inj he) h
  have hold := hr h
  rw [List.count_append, List.count_append, hnone, hall]
  rw [show ({ r with outstanding := [] } : Roster).outstanding.count h = 0 from rfl]
  exact (Nat.add_assoc ..).symm.trans hold

/-- A deed leaves every handshake with one entry. -/
theorem EnteredOnce.step {r s : Roster} {ds es : List Deed} (hr : EnteredOnce r ds)
    (step : Roster.Step r es s) : EnteredOnce s (ds ++ es) := by
  have hnone : Silent [] := fun h => by simp
  cases step with
  | connect hc => exact hr.silent hnone rfl rfl
  | start ha => exact hr.silent hnone rfl rfl
  | drop => exact hr.silent hnone rfl rfl
  | accept ha hc => exact hr.dispatch _ _ _
  | strand ha hc => exact hr.silent (fun h => by simp) rfl rfl
  | claimClosing hp hm ho => exact hr.claim hm _
  | claimHanding hp hm => exact hr.claim hm _
  | yield hp hm ho => exact hr.silent hnone rfl (r.length_put _ _)
  | close hp hs => exact hr.silent (fun h => by simp) rfl ((r.close _).length_put _ _)
  | raise hp ho => exact hr.silent hnone rfl (r.length_put _ _)
  | handOver hp => exact hr.silent (fun h => by simp) rfl (r.length_put _ _)
  | complete hp => exact hr.silent hnone rfl (r.length_put _ _)
  | release hc => exact hr.silent (fun h => by simp) rfl rfl
  | drain => exact hr.drain

theorem EnteredOnce.path {r s : Roster} {ds es : List Deed} (hr : EnteredOnce r ds)
    (path : Roster.Path r es s) : EnteredOnce s (ds ++ es) := by
  induction path with
  | nil => rwa [List.append_nil]
  | snoc path step ih =>
    rw [← List.append_assoc]
    exact ih.step step

/-- Who is in the set was dispatched and has not left it. -/
theorem EnteredOnce.mem_iff {r : Roster} {ds : List Deed} (hr : EnteredOnce r ds)
    (h : HandshakeId) : h ∈ r.outstanding ↔
      h < r.places.length ∧ .claimed h ∉ ds ∧ .drained h ∉ ds := by
  have hold := hr h
  rw [← List.count_pos_iff, ← List.count_eq_zero, ← List.count_eq_zero]
  by_cases hlt : h < r.places.length
  · rw [if_pos hlt] at hold
    simp only [hlt, true_and]
    omega
  · rw [if_neg hlt] at hold
    simp only [hlt, false_and, iff_false]
    omega

/-! ## Nothing comes after the set was emptied -/

namespace Roster

/-- Without an acceptor, and with nobody in the set, nobody is dispatched and nobody leaves. -/
theorem Step.quiet {r s : Roster} {ds : List Deed} (step : Step r ds s)
    (hr : r.acceptor = .dropped ∧ r.outstanding = []) :
    s.places.length = r.places.length ∧ Silent ds := by
  obtain ⟨hdropped, hnobody⟩ := hr
  have hnone : Silent [] := fun h => by simp
  cases step with
  | connect hc => exact ⟨rfl, hnone⟩
  | start hidle => exact ⟨rfl, hnone⟩
  | drop => exact ⟨rfl, hnone⟩
  | accept haccepting hc =>
    rw [hdropped] at haccepting
    cases haccepting
  | strand ha hc => exact ⟨rfl, fun h => by simp⟩
  | claimClosing hp hm ho =>
    rw [hnobody] at hm
    cases hm
  | claimHanding hp hm =>
    rw [hnobody] at hm
    cases hm
  | yield hp hm ho => exact ⟨r.length_put _ _, hnone⟩
  | close hp hs => exact ⟨(r.close _).length_put _ _, fun h => by simp⟩
  | raise hp ho => exact ⟨r.length_put _ _, hnone⟩
  | handOver hp => exact ⟨r.length_put _ _, fun h => by simp⟩
  | complete hp => exact ⟨r.length_put _ _, hnone⟩
  | release hc => exact ⟨rfl, fun h => by simp⟩
  | drain =>
    rw [hnobody]
    exact ⟨rfl, hnone⟩

/-- With no acceptor and an empty set, any deeds start no handshake and enter none. -/
theorem Path.quiet {r s : Roster} {ds : List Deed} (path : Path r ds s)
    (hr : r.acceptor = .dropped ∧ r.outstanding = []) :
    s.places.length = r.places.length ∧ Silent ds := by
  induction path with
  | nil => exact ⟨rfl, fun h => by simp⟩
  | snoc path step ih =>
    obtain ⟨hlength, hsilent⟩ := step.quiet (path.emptied hr)
    refine ⟨hlength.trans ih.1, fun h => ?_⟩
    simp [(ih.2 h).1, (ih.2 h).2, (hsilent h).1, (hsilent h).2]

end Roster

/-- Who is over stays so. -/
theorem hasEnded_perform {l : Listener} {h : HandshakeId} (hl : l.hasEnded h = true) (e : Event) :
    (l.perform e).hasEnded h = true := by
  obtain ⟨c, outcome, hplace⟩ := hasEnded_iff.mp hl
  exact hasEnded_iff.mpr ⟨c, outcome, (path_perform l e).ended_kept hplace⟩

/-! ## The stop -/

/-- What holds of the entries and of the stop. -/
structure Tidy (n : Nat) (k : Course) (stop : StopPhase) : Prop where
  sound : Sound n k.listener.roster k.deeds
  once : EnteredOnce k.listener.roster k.deeds
  begun : stop ≠ .resting → k.listener.acceptor ≠ .idle
  emptied : ∀ taken, stop = .awaiting taken →
    k.listener.acceptor = .dropped ∧ k.listener.outstanding = []
  tasks : ∀ taken, stop = .awaiting taken → ∀ x ∈ taken, x.hasTask = true
  joined : ∀ h, .drained h ∈ k.deeds → k.listener.hasEnded h = true ∨
    ∃ taken, stop = .awaiting taken ∧ ⟨h, true⟩ ∈ taken

/-- An event that takes no entries leaves the stop as it is. -/
theorem Tidy.event {n : Nat} {k : Course} {stop : StopPhase} (hk : Tidy n k stop) {e : Event}
    (he : e ≠ .drain) : Tidy n (k.next e) stop := by
  have hpath := path_perform k.listener e
  refine ⟨hk.sound.path hpath, hk.once.path hpath, fun hs => hpath.started (hk.begun hs),
    fun taken hs => hpath.emptied (hk.emptied taken hs), hk.tasks, fun h hm => ?_⟩
  obtain hm | hm := List.mem_append.mp hm
  · exact (hk.joined h hm).imp_left fun hl => hasEnded_perform hl e
  · exact absurd (eq_drain_of_drained hm) he

namespace Service

/-- What holds of the accept loop: it can be waited for, it is open as long as it is about a
handshake, and every other entry has its task. -/
structure Attended (k : Service) : Prop where
  awaited : k.course.listener.acceptor = .accepting →
    k.course.listener.hasLoop = true ∨ k.stop = .joining true
  shut : k.stop = .joining false → k.course.listener.acceptor = .dropped
  dispatching : k.starting ≠ none → k.course.listener.acceptor = .accepting
  filed : ∀ h ∈ k.course.listener.outstanding,
    h ∈ k.noted ∨ ∃ spawned, k.starting = some ⟨h, spawned⟩

/-- What others do leaves every handshake with its task. -/
theorem Attended.meet {k : Service} (hk : k.Attended) (e : Event) : (k.meet e).Attended := by
  unfold Service.meet
  split
  · exact hk
  · rename_i he
    have he : e.isStaged = false := by
      simp only [Bool.or_eq_true, not_or] at he
      exact Bool.eq_false_iff.mpr he.1
    have hgate := gate_perform k.course.listener he
    have hkept (ha : k.course.listener.acceptor ≠ .idle) :
        (k.course.listener.perform e).gate = k.course.listener.gate :=
      hgate.resolve_right fun hidle => ha hidle.1
    constructor
    · intro ha
      obtain hsame | ⟨-, hloop⟩ := hgate
      · have hbefore : k.course.listener.acceptor = .accepting :=
          (congrArg Prod.fst hsame).symm.trans ha
        exact (hk.awaited hbefore).imp_left (congrArg Prod.snd hsame).trans
      · exact .inl (hloop ha)
    · intro hs
      have hdropped := hk.shut hs
      exact (congrArg Prod.fst (hkept (by simp [hdropped]))).trans hdropped
    · intro hs
      have haccepting := hk.dispatching hs
      exact (congrArg Prod.fst (hkept (by simp [haccepting]))).trans haccepting
    · intro h hm
      refine hk.filed h (mem_outstanding_of_perform ?_ hm)
      rintro overlooks rfl
      cases he

/-- A round of the loop leaves every handshake with its task. -/
theorem Attended.accept {k : Service} (hk : k.Attended) (overlooks : Bool) :
    (k.accept overlooks).Attended := by
  unfold Service.accept
  split
  · exact hk
  · rename_i hnone
    have hnone : k.starting = none := by simpa using hnone
    have hfiled : ∀ h ∈ k.course.listener.outstanding, h ∈ k.noted := by
      intro h hm
      refine (hk.filed h hm).resolve_right ?_
      rintro ⟨spawned, hs⟩
      rw [hnone] at hs
      cases hs
    have hround : Round k.course.listener (k.course.next (.accept overlooks)).listener :=
      round_acceptSeeing _ _
    dsimp only
    generalize (k.course.next (.accept overlooks)) = course at hround ⊢
    cases hround with
    | idle hgate hhandshakes houtstanding =>
      rw [hhandshakes, if_neg (Nat.lt_irrefl _)]
      constructor
      · intro ha
        obtain hsame | hdropped := hgate
        · have hbefore := (congrArg Prod.fst hsame).symm.trans ha
          exact (hk.awaited hbefore).imp_left (congrArg Prod.snd hsame).trans
        · cases (congrArg Prod.fst hdropped).symm.trans ha
      · intro hs
        obtain hsame | hdropped := hgate
        · exact (congrArg Prod.fst hsame).trans (hk.shut hs)
        · exact congrArg Prod.fst hdropped
      · exact fun hs => absurd hnone hs
      · intro h hm
        exact .inl (hfiled h (houtstanding ▸ hm))
    | dispatched haccepts hgate hhandshakes houtstanding =>
      rw [hhandshakes, if_pos (Nat.lt_succ_self _)]
      have hacceptor := (congrArg Prod.fst hgate).trans haccepts
      constructor
      · exact fun _ => (hk.awaited haccepts).imp_left (congrArg Prod.snd hgate).trans
      · intro hs
        cases haccepts.symm.trans (hk.shut hs)
      · exact fun _ => hacceptor
      · intro h hm
        rw [show course.listener.outstanding = _ from houtstanding, List.mem_append,
          List.mem_singleton] at hm
        obtain hm | rfl := hm
        · exact .inl (hfiled h hm)
        · exact .inr ⟨false, rfl⟩

/-- A stop that goes on leaves every handshake with its task. -/
theorem Attended.goOn {k : Service} (hk : k.Attended) : k.goOn.Attended := by
  obtain ⟨course, starting, noted, stop⟩ := k
  unfold Service.goOn
  rcases starting with _ | ⟨h, spawned⟩
  · exact hk
  · cases spawned with
    | false =>
      refine ⟨hk.awaited, hk.shut, fun _ => hk.dispatching (by simp), fun i hm => ?_⟩
      refine (hk.filed i hm).imp_right ?_
      rintro ⟨spawned, hs⟩
      cases hs
      exact ⟨true, rfl⟩
    | true =>
      refine ⟨hk.awaited, hk.shut, fun hs => absurd rfl hs, fun i hm => .inl ?_⟩
      dsimp only at hm ⊢
      obtain hi | ⟨spawned, hs⟩ := hk.filed i hm
      · split
        · exact List.mem_append_left _ hi
        · exact hi
      · cases hs
        rw [if_pos hm]
        simp

/-- What holds of a listener whose stops come one after another. -/
structure Regular (n : Nat) (k : Service) : Prop where
  tidy : Tidy n k.course k.stop
  attended : k.Attended

/-- When the accept loop need not be waited for any more, it has ended. -/
theorem Regular.dropped {n : Nat} {k : Service} (hk : k.Regular n) {waits : Bool}
    (hstop : k.stop = .joining waits)
    (hgo : ¬(waits = true ∧ k.course.listener.acceptor = .accepting)) :
    k.course.listener.acceptor = .dropped := by
  cases waits with
  | false => exact hk.attended.shut hstop
  | true =>
    have hbegun := hk.tidy.begun (by simp [hstop])
    cases hacceptor : k.course.listener.acceptor with
    | idle => exact absurd hacceptor hbegun
    | accepting => exact absurd ⟨rfl, hacceptor⟩ hgo
    | dropped => rfl

/-- A stop is called. -/
theorem Regular.call {n : Nat} {k : Service} (hk : k.Regular n) (hstop : k.stop = .resting)
    (hstarted : k.course.listener.acceptor ≠ .idle) :
    Regular n { k with
      course := (k.course.next .cancelAll).next .join
      stop := .joining k.course.listener.hasLoop } := by
  have htidy := (hk.tidy.event (e := .cancelAll) (by simp)).event (e := .join) (by simp)
  have hacceptor : ((k.course.next .cancelAll).next .join).listener.acceptor =
      k.course.listener.acceptor := congrArg Prod.fst (gate_scheduleCancelled _)
  constructor
  · refine ⟨htidy.sound, htidy.once, fun _ => hacceptor ▸ hstarted, fun taken hs => (by cases hs),
      fun taken hs => (by cases hs), fun h hm => .inl ?_⟩
    refine (htidy.joined h hm).resolve_right ?_
    rintro ⟨taken, hs, -⟩
    rw [hstop] at hs
    cases hs
  · have hawaited (ha : k.course.listener.acceptor = .accepting) :
        k.course.listener.hasLoop = true := by
      refine (hk.attended.awaited ha).resolve_right fun hs => ?_
      rw [hstop] at hs
      cases hs
    constructor
    · exact fun ha => .inr (congrArg StopPhase.joining (hawaited (hacceptor ▸ ha)))
    · intro hs
      have hloop : k.course.listener.hasLoop = false := StopPhase.joining.inj hs
      refine hacceptor.trans ?_
      cases ha : k.course.listener.acceptor with
      | idle => exact absurd ha hstarted
      | accepting => cases (hawaited ha).symm.trans hloop
      | dropped => rfl
    · exact fun hs => hacceptor.trans (hk.attended.dispatching hs)
    · intro h hm
      exact hk.attended.filed h (mem_outstanding_of_perform (by simp)
        (mem_outstanding_of_perform (e := .join) (by simp) hm))

/-- A stop takes all entries. Each of them has its task, since the accept loop has ended. -/
theorem Regular.takeAll {n : Nat} {k : Service} (hk : k.Regular n) {waits : Bool}
    (hstop : k.stop = .joining waits) (hdropped : k.course.listener.acceptor = .dropped) :
    Regular n { k with
      course := k.course.next .drain
      stop := .awaiting (k.course.listener.outstanding.map k.take) } := by
  have hpath := path_perform k.course.listener .drain
  have hafter : (k.course.next .drain).listener.acceptor = .dropped := by
    have hdrain : k.course.listener.drain.2.acceptor = .dropped := by
      simp [drain, hdropped, showOutstanding]
    exact hdrain
  have hnone : k.starting = none := by
    by_contra hs
    cases hdropped.symm.trans (hk.attended.dispatching hs)
  have htask : ∀ h ∈ k.course.listener.outstanding, k.take h = ⟨h, true⟩ := by
    intro h hm
    have hnoted : h ∈ k.noted := by
      refine (hk.attended.filed h hm).resolve_right ?_
      rintro ⟨spawned, hs⟩
      rw [hnone] at hs
      cases hs
    simp [take, hnoted]
  constructor
  · refine ⟨hk.tidy.sound.path hpath, hk.tidy.once.path hpath, fun _ => by simp [hafter],
      fun _ _ => ⟨hafter, rfl⟩, ?_, ?_⟩
    · intro taken hs x hx
      cases hs
      obtain ⟨h, hm, rfl⟩ := List.mem_map.mp hx
      rw [htask h hm]
    · intro h hm
      obtain hm | hm := List.mem_append.mp hm
      · refine .inl (hasEnded_perform ((hk.tidy.joined h hm).resolve_right ?_) _)
        rintro ⟨taken, hs, -⟩
        rw [hstop] at hs
        cases hs
      · have hm : .drained h ∈ k.course.listener.outstanding.map Deed.drained := hm
        obtain ⟨i, hi, he⟩ := List.mem_map.mp hm
        cases he
        exact .inr ⟨_, rfl, htask h hi ▸ List.mem_map_of_mem hi⟩
  · refine ⟨fun ha => ?_, fun hs => ?_, fun hs => absurd hnone hs, fun h hm => ?_⟩
    · cases hafter.symm.trans ha
    · cases hs
    · cases hm

/-- A stop returns. -/
theorem Regular.conclude {n : Nat} {k : Service} (hk : k.Regular n) {taken : List Taken}
    (hstop : k.stop = .awaiting taken) (hall : taken.all k.isJoined = true) :
    Regular n { k with
      course := k.course.next (.conclude (taken.map Taken.handshake)), stop := .resting } := by
  have htidy := hk.tidy.event (e := .conclude (taken.map Taken.handshake)) (by simp)
  have hdropped := (htidy.emptied taken hstop).1
  constructor
  · refine ⟨htidy.sound, htidy.once, fun hs => absurd rfl hs, fun taken hs => (by cases hs),
      fun taken hs => (by cases hs), fun h hm => .inl ?_⟩
    obtain hended | ⟨others, hs, hx⟩ := htidy.joined h hm
    · exact hended
    · rw [hstop] at hs
      cases hs
      have hjoined := List.all_eq_true.mp hall _ hx
      exact hasEnded_perform (by simpa [isJoined] using hjoined) _
  · refine ⟨fun ha => ?_, fun hs => ?_, ?_, fun h hm => ?_⟩
    · cases hdropped.symm.trans ha
    · cases hs
    · intro hs
      cases (hk.tidy.emptied taken hstop).1.symm.trans (hk.attended.dispatching hs)
    · rw [show (k.course.next _).listener.outstanding = [] from (htidy.emptied taken hstop).2] at hm
      cases hm

/-- A step of the stop keeps the service regular. -/
theorem Regular.proceed {n : Nat} {k : Service} (hk : k.Regular n) : k.proceed.Regular n := by
  unfold Service.proceed
  split
  · rename_i hstop
    split
    · exact hk
    · rename_i hstarted
      exact hk.call hstop hstarted
  · rename_i waits hstop
    split
    · exact hk
    · rename_i hgo
      exact hk.takeAll hstop (hk.dropped hstop hgo)
  · rename_i taken hstop
    split
    · rename_i hall
      exact hk.conclude hstop hall
    · exact hk

/-- Every move keeps the service regular. -/
theorem Regular.next {n : Nat} {k : Service} (hk : k.Regular n) (m : Move) :
    (k.next m).Regular n := by
  cases m with
  | other e =>
    refine ⟨?_, hk.attended.meet e⟩
    dsimp only [Service.next, Service.meet]
    split
    · exact hk.tidy
    · rename_i he
      refine hk.tidy.event ?_
      rintro rfl
      exact he rfl
  | accept overlooks =>
    refine ⟨?_, hk.attended.accept overlooks⟩
    have htidy := hk.tidy.event (e := .accept overlooks) (by simp)
    dsimp only [Service.next, Service.accept]
    split
    · exact hk.tidy
    · split <;> exact htidy
  | goOn =>
    refine ⟨?_, hk.attended.goOn⟩
    dsimp only [Service.next, Service.goOn]
    split <;> exact hk.tidy
  | stop => exact hk.proceed

theorem regular_start (address : String) (transport : Transport) (security : Security)
    (terms : AcceptTerms) (surroundings : Surroundings) :
    Regular surroundings.connections.length
      (start address transport security terms surroundings) := by
  constructor
  · refine ⟨sound_new address transport security terms surroundings, fun h => ?_, ?_, ?_, ?_, ?_⟩
    · rfl
    · exact fun hs => absurd rfl hs
    · intro taken hs
      cases hs
    · intro taken hs
      cases hs
    · intro h hm
      cases hm
  · refine ⟨fun ha => ?_, fun hs => ?_, fun hs => absurd rfl hs, fun h hm => ?_⟩
    · cases ha
    · cases hs
    · cases hm

theorem regular_extend {n : Nat} {k : Service} (hk : k.Regular n) (moves : List Move) :
    (k.extend moves).Regular n := extend_induction hk (fun _ m hk => hk.next m) moves

/-! ## After the set was emptied -/

/-- What moves lead to is what events lead to. -/
theorem exists_events (k : Service) (moves : List Move) :
    ∃ events, (k.extend moves).course = k.course.extend events := by
  refine extend_induction (P := fun later => ∃ events, later.course = k.course.extend events)
    ⟨[], rfl⟩ ?_ moves
  intro later m hall
  obtain ⟨events, hevents⟩ := hall
  have hone (e : Event) : ∃ events, later.course.next e = k.course.extend events :=
    ⟨events ++ [e], by rw [Course.extend_append, ← hevents]; rfl⟩
  have hnone : ∃ events, later.course = k.course.extend events := ⟨events, hevents⟩
  cases m with
  | other e =>
    dsimp only [Service.next, meet]
    split
    · exact hnone
    · exact hone e
  | accept overlooks =>
    dsimp only [Service.next, Service.accept]
    split
    · exact hnone
    · split <;> exact hone _
  | goOn =>
    dsimp only [Service.next, goOn]
    split <;> exact hnone
  | stop =>
    dsimp only [Service.next, proceed]
    split
    · split
      · exact hnone
      · refine ⟨events ++ [.cancelAll, .join], ?_⟩
        rw [Course.extend_append, ← hevents]
        rfl
    · split
      · exact hnone
      · exact hone _
    · split
      · exact hone _
      · exact hnone

end Service

/-- Once the acceptor has gone and the set is empty, nobody is put into the set and nobody claims
an entry any more. -/
theorem Course.quiet_extend {k : Course} (hk : k.listener.acceptor = .dropped ∧
    k.listener.outstanding = []) (events : List Event) :
    (k.extend events).listener.outstanding = [] ∧
    (k.extend events).listener.handshakes.length = k.listener.handshakes.length ∧
    ∀ h, .claimed h ∈ (k.extend events).deeds → .claimed h ∈ k.deeds := by
  have hlength (l : Listener) : l.roster.places.length = l.handshakes.length := List.length_map ..
  have hall : ((k.extend events).listener.roster.acceptor = .dropped ∧
      (k.extend events).listener.roster.outstanding = []) ∧
      (k.extend events).listener.handshakes.length = k.listener.handshakes.length ∧
      ∀ h, .claimed h ∈ (k.extend events).deeds → .claimed h ∈ k.deeds := by
    refine Course.extend_induction (P := fun later =>
      (later.listener.roster.acceptor = .dropped ∧ later.listener.roster.outstanding = []) ∧
      later.listener.handshakes.length = k.listener.handshakes.length ∧
      ∀ h, .claimed h ∈ later.deeds → .claimed h ∈ k.deeds) ⟨hk, rfl, fun _ => id⟩ ?_ events
    intro later e hlater
    obtain ⟨hshut, hsame, hclaimed⟩ := hlater
    have hpath := path_perform later.listener e
    obtain ⟨hquiet, hsilent⟩ := hpath.quiet hshut
    rw [hlength, hlength] at hquiet
    refine ⟨hpath.emptied hshut, hquiet.trans hsame, fun h hm => ?_⟩
    exact hclaimed h ((List.mem_append.mp hm).resolve_right (hsilent h).1)
  exact ⟨hall.1.2, hall.2⟩

namespace Service

/-- While nobody's stop overlaps another: the set holds the handshakes that were dispatched and
have neither claimed their entry nor lost it to a stop. Every entry leaves the set once, in one
of these two ways. Who is over is not in the set. Each handshake whose entry a stop took is over,
or that stop still waits for its task, which every entry has that a stop takes. From then on the
set stays empty, nobody is dispatched, nobody claims an entry, and who had not claimed before is
not handed off. -/
theorem outstanding_at_every_moment (address : String) (transport : Transport)
    (security : Security) (terms : AcceptTerms) (surroundings : Surroundings)
    (moves more : List Move) {k later : Service}
    (hk : k = (start address transport security terms surroundings).extend moves)
    (hlater : later = k.extend more) :
    (∀ h, h ∈ k.course.listener.outstanding ↔ h < k.course.listener.handshakes.length ∧
      .claimed h ∉ k.course.deeds ∧ .drained h ∉ k.course.deeds) ∧
    (∀ h, k.course.deeds.count (.claimed h) + k.course.deeds.count (.drained h) +
      k.course.listener.outstanding.count h =
        if h < k.course.listener.handshakes.length then 1 else 0) ∧
    (∀ h, k.course.listener.hasEnded h = true → h ∉ k.course.listener.outstanding) ∧
    (∀ h, .drained h ∈ k.course.deeds → k.course.listener.hasEnded h = true ∨
      ∃ taken, k.stop = .awaiting taken ∧ ⟨h, true⟩ ∈ taken) ∧
    ∀ taken, k.stop = .awaiting taken →
      (∀ x ∈ taken, x.hasTask = true) ∧
      ((k.next .stop).stop = .resting ↔
        ∀ x ∈ taken, k.course.listener.hasEnded x.handshake = true) ∧
      later.course.listener.outstanding = [] ∧
      later.course.listener.handshakes.length = k.course.listener.handshakes.length ∧
      (∀ h, .claimed h ∈ later.course.deeds → .claimed h ∈ k.course.deeds) ∧
      ∀ h x, later.course.listener.handshakes[h]? = some x → .claimed h ∉ k.course.deeds →
        later.course.handings x.connection = 0 ∧ x.phase ≠ .ended .handedOff := by
  have hregular : Regular _ k :=
    hk ▸ regular_extend (regular_start address transport security terms surroundings) moves
  have hregular' : Regular _ later := hlater ▸ regular_extend hregular more
  have hlength : k.course.listener.roster.places.length =
      k.course.listener.handshakes.length := List.length_map ..
  have honce := hregular.tidy.once
  refine ⟨fun h => hlength ▸ honce.mem_iff h, fun h => hlength ▸ honce h, ?_, hregular.tidy.joined,
    fun taken hstop => ?_⟩
  · intro h hended
    obtain ⟨c, outcome, hplace⟩ := hasEnded_iff.mp hended
    exact hregular.tidy.sound.listed.not_outstanding hplace (by simp)
  · have htasks := hregular.tidy.tasks taken hstop
    obtain ⟨events, hevents⟩ := exists_events k more
    rw [← hlater] at hevents
    have hquiet := Course.quiet_extend (hregular.tidy.emptied taken hstop) events
    rw [← hevents] at hquiet
    refine ⟨htasks, ?_, hquiet.1, hquiet.2.1, hquiet.2.2, fun h x hx hunclaimed => ?_⟩
    · have hjoined : taken.all k.isJoined = true ↔
          ∀ x ∈ taken, k.course.listener.hasEnded x.handshake = true := by
        rw [List.all_eq_true]
        refine forall₂_congr fun x hx => ?_
        simp [isJoined, htasks x hx]
      rw [← hjoined]
      simp only [Service.next, proceed, hstop]
      split
      · exact iff_of_true rfl ‹_›
      · exact iff_of_false (by rw [hstop]; simp) ‹_›
    · have hplace := places_roster later.course.listener hx
      have hfits := hregular'.tidy.sound.owned.fits h _ hplace
      have haway : x.phase.stand.isAway = false :=
        Bool.eq_false_iff.mpr fun ha => hunclaimed (hquiet.2.2 h (hfits.away ha))
      refine ⟨hfits.handed.trans ?_, fun hphase => ?_⟩
      · generalize x.phase.stand = stand at haway
        cases stand with
        | given => cases haway
        | ended outcome =>
          refine Stand.handings_ended ?_
          rintro rfl
          cases haway
        | _ => rfl
      · rw [hphase] at haway
        cases haway

/-- The first handshake is over before its task is noted. The second is in the set when a stop
comes, which takes its entry with its task. -/
theorem second_taken_with_its_task :
    let terms : AcceptTerms := ⟨1000, .base, .events⟩
    let k := (start "a" .tcp .clear terms (.new 0)).extend
      [.other .start, .other (.connect "a" "b" ⟨0, none⟩), .other (.connect "c" "d" ⟨0, none⟩),
        .accept false, .goOn, .other (.finishInbox 0), .other (.poll 0 false), .other (.claim 0),
        .other (.close 0), .goOn, .accept false, .goOn, .goOn, .stop, .accept false, .stop]
    let later := k.extend [.other (.poll 1 false), .other (.claim 1), .other (.close 1), .stop]
    k.stop = .awaiting [⟨1, true⟩] ∧ later.course.listener.outstanding = [] ∧
      .claimed 1 ∉ later.course.deeds := by
  intro terms k later
  have hstop : k.stop = .awaiting [⟨1, true⟩] := by decide +kernel
  have hunclaimed : .claimed 1 ∉ k.course.deeds := by decide +kernel
  have hk : k = (start "a" .tcp .clear terms (.new 0)).extend _ := rfl
  have hlater : later = k.extend _ := rfl
  obtain ⟨-, -, -, -, hafter⟩ := outstanding_at_every_moment _ _ _ _ _ _ _ hk hlater
  obtain ⟨-, -, hempty, -, hclaimed, -⟩ := hafter _ hstop
  exact ⟨hstop, hempty, fun hm => hunclaimed (hclaimed 1 hm)⟩

end Service

end Diameter.Listener
