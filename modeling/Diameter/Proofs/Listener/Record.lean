import Diameter.Proofs.Listener.Tenure

/-!
# The record of a tenure

The record of a listener and its calls keeps who has the acceptor, whether the task of the loop is
noted, the status, the connection and the token of every handshake, the shutdown, and all that is
kept beside the listener. What handshakes do, the backlog, the set, turns, notes and metrics are
forgotten. Every move is one of a few steps of the record.
-/

namespace Diameter.Listener

open Shutdown (Agrees Call Clamour Extends)

/-- What is known of a handshake from the start: its connection and its token. -/
def Accepted.origin (x : Accepted) : ConnectionId × TokenId := (x.connection, x.token)

/-- What decides how a listener starts and ends. -/
structure Record where
  /-- Who holds the acceptor. -/
  acceptor : AcceptorState
  /-- Whether the task of the loop is noted. -/
  hasLoop : Bool
  /-- How far the listener has come. -/
  status : ListenerStatus
  /-- The label. -/
  label : String
  /-- What cancels the loop and every handshake. -/
  token : TokenId
  /-- The connections and tokens of all handshakes. -/
  origins : List (ConnectionId × TokenId)
  /-- The shutdown. -/
  shutdown : Shutdown
  /-- What the accept loop is about. -/
  loop : LoopStage
  /-- The calls that start the listener. -/
  starts : List Launch
  /-- The calls that stop it. -/
  stops : List Recall
  /-- The calls of others that raise the shutdown. -/
  calls : List Call
  /-- The results that the loop has taken. -/
  taken : List (Except SystemError ConnectionId)
  /-- The connection over which the loop broke down. -/
  stranded : List ConnectionId
  /-- Whether the loop has seen its token cancelled. -/
  observed : Bool
  /-- The reason that the loop has found when it came to note its own. -/
  found : Option (Option ShutdownReason)
  /-- Whether starts and stops were called one after another. -/
  apart : Bool

/-- The record of what is kept of a listener, and of what is kept beside it. -/
def Tenure.recordOf (t : Tenure) (gate : AcceptorState × Bool) (s : Sheet) : Record where
  acceptor := gate.1
  hasLoop := gate.2
  status := s.status
  label := s.label
  token := s.token
  origins := s.handshakes.map Accepted.origin
  shutdown := s.shutdown
  loop := t.loop
  starts := t.starts
  stops := t.stops
  calls := t.calls
  taken := t.taken
  stranded := t.stranded
  observed := t.observed
  found := t.found
  apart := t.apart

/-- The record of a tenure. -/
def Tenure.record (t : Tenure) : Record := t.recordOf t.listener.gate t.listener.sheet

/-- An acceptor that was never used goes away. -/
def AcceptorState.letGo : AcceptorState → AcceptorState
  | .idle | .dropped => .dropped
  | .accepting => .accepting

/-- Whether no start and no stop is going on. -/
def Record.isQuiet (s : Record) : Bool :=
  s.starts.all (· != .filing) && s.stops.all (· == .returned)

/-- What others do to the shutdown. -/
inductive Stir (s : Shutdown) (calls : List Call) : Shutdown → List Call → Prop
  /-- Nothing. -/
  | same : Stir s calls s calls
  /-- A call is made or goes on, or a token is derived or cancelled. -/
  | outside (e : Clamour.Event) :
      Stir s calls (Clamour.next ⟨s, calls⟩ e).shutdown (Clamour.next ⟨s, calls⟩ e).calls
  /-- Somebody raises it in one step. -/
  | raised (reason : ShutdownReason) : Stir s calls (s.trigger reason).2 calls

/-- What a move makes of the record. -/
inductive Record.Step (s : Record) : Record → Prop
  /-- Others do something. -/
  | calm {shutdown : Shutdown} {calls : List Call} (h : Stir s.shutdown s.calls shutdown calls) :
      Step s { s with shutdown, calls }
  /-- The loop sees its token cancelled. -/
  | observed (h : s.loop = .turning) : Step s { s with loop := .leaving, observed := true }
  /-- The loop takes an error that passes. -/
  | passed {e : SystemError} (h : s.loop = .turning) (he : e.isTransient = true) :
      Step s { s with taken := s.taken ++ [.error e] }
  /-- The loop takes a connection and puts its handshake into the set. -/
  | dispatched {c : ConnectionId} {i : HandshakeId} (h : s.loop = .turning) :
      Step s { s with
        shutdown := (s.shutdown.child s.token).2
        origins := s.origins ++ [(c, (s.shutdown.child s.token).1)]
        loop := .starting i false
        taken := s.taken ++ [.ok c] }
  /-- The loop takes a connection and breaks down over it. -/
  | stranded {c : ConnectionId} (h : s.loop = .turning) :
      Step s { s with
        loop := .leaving
        taken := s.taken ++ [.ok c]
        stranded := s.stranded ++ [c] }
  /-- The loop takes an error that does not pass. -/
  | met {e : SystemError} (h : s.loop = .turning) (he : e.isTransient = false) :
      Step s { s with loop := .failing e, taken := s.taken ++ [.error e] }
  /-- The loop starts the task of a handshake. -/
  | spawned {i : HandshakeId} (h : s.loop = .starting i false) :
      Step s { s with loop := .starting i true }
  /-- The loop has noted the task. -/
  | noted {i : HandshakeId} (h : s.loop = .starting i true) : Step s { s with loop := .turning }
  /-- The loop changes the status. -/
  | failed {e : SystemError} (h : s.loop = .failing e) :
      Step s { s with status := s.status.advance .failed, loop := .blaming }
  /-- The loop notes its reason, unless there is one. -/
  | blamed (h : s.loop = .blaming) :
      Step s { s with
        shutdown := (s.shutdown.note (.listenerFailed s.label)).2
        loop := if s.shutdown.reason.isNone then .raising else .leaving
        found := some s.shutdown.reason }
  /-- The loop cancels the root. -/
  | raised (h : s.loop = .raising) :
      Step s { s with shutdown := s.shutdown.cancel Shutdown.root, loop := .leaving }
  /-- The loop lets go of the acceptor. -/
  | dropped (h : s.loop = .leaving) : Step s { s with acceptor := .dropped, loop := .gone }
  /-- The listener starts. -/
  | started (ha : s.acceptor = .idle) (hs : s.status.canBecome .running = true) :
      Step s { s with
        acceptor := .accepting
        status := .running
        loop := .turning
        starts := s.starts ++ [.filing]
        apart := s.apart && s.isQuiet }
  /-- The listener cannot be started. -/
  | refused {e : ListenerError} (h : s.acceptor = .idle → s.status.canBecome .running = false) :
      Step s { s with
        acceptor := s.acceptor.letGo
        starts := s.starts ++ [.refused e]
        apart := s.apart && s.isQuiet }
  /-- A start notes the task of the loop. -/
  | filed {i : Nat} (hi : s.starts[i]? = some .filing) :
      Step s { s with hasLoop := true, starts := s.starts.set i .succeeded }
  /-- A stop is called. -/
  | called : Step s { s with stops := s.stops ++ [.called], apart := s.apart && s.isQuiet }
  /-- A stop cancels the loop and all handshakes. -/
  | cancelled {i : Nat} (hi : s.stops[i]? = some .called) :
      Step s { s with
        shutdown := s.shutdown.cancel s.token
        stops := s.stops.set i .cancelled }
  /-- A stop asks for the task of the loop. -/
  | asked {i : Nat} (hi : s.stops[i]? = some .cancelled) :
      Step s { s with hasLoop := false, stops := s.stops.set i (.joining s.hasLoop) }
  /-- A stop lets go of an acceptor that was never used. -/
  | joined {i : Nat} {waits : Bool} (hi : s.stops[i]? = some (.joining waits))
      (h : waits = true → s.loop.isLive = false) :
      Step s { s with acceptor := s.acceptor.letGo, stops := s.stops.set i .emptying }
  /-- A stop takes the entries. -/
  | emptied {i : Nat} {taken : List Taken} (hi : s.stops[i]? = some .emptying) :
      Step s { s with stops := s.stops.set i (.awaiting taken) }
  /-- A stop ends the listener. -/
  | concluded {i : Nat} {taken : List Taken} (hi : s.stops[i]? = some (.awaiting taken)) :
      Step s { s with
        status := s.status.advance .terminated
        stops := s.stops.set i .returned }

namespace Record

/-- What nothing is done to stays as it is. -/
theorem Step.same (s : Record) : Step s s := .calm .same

end Record

namespace Tenure

variable {t : Tenure}

/-! ## What others do -/

/-- In another phase a handshake still comes from where it came. -/
theorem map_origin_modify (xs : List Accepted) (h : HandshakeId) (phase : Phase) :
    (xs.modify h fun x => { x with phase }).map Accepted.origin = xs.map Accepted.origin := by
  refine List.ext_getElem? fun i => ?_
  rw [List.getElem?_map, List.getElem?_map, List.getElem?_modify]
  cases xs[i]? with
  | none => rfl
  | some x =>
    show some (Accepted.origin (if h = i then _ else _)) = _
    split <;> rfl

end Tenure

/-- An event outside the loop, the starts and the stops is about the shutdown at most. -/
theorem Sheet.Step.calm {l : Listener} {e : Event} {s : Sheet}
    (step : Sheet.Step l e s) (he : e.isCalm = true) (hroot : e.sparesRoot = true)
    (calls : List Call) :
    s.status = l.status ∧ s.handshakes.map Accepted.origin = l.handshakes.map Accepted.origin ∧
      Stir l.shutdown calls s.shutdown calls := by
  cases step with
  | same => exact ⟨rfl, rfl, .same⟩
  | ticked => exact ⟨rfl, rfl, .same⟩
  | triggered => exact ⟨rfl, rfl, .raised _⟩
  | @cancelled token =>
    have hstir : Stir l.shutdown calls (Clamour.next ⟨l.shutdown, calls⟩ (.cancel token)).shutdown
        (Clamour.next ⟨l.shutdown, calls⟩ (.cancel token)).calls := .outside _
    rw [Clamour.next] at hstir
    dsimp only at hstir
    rw [if_neg (bne_iff_ne.mp hroot)] at hstir
    exact ⟨rfl, rfl, hstir⟩
  | claimed => exact ⟨rfl, Tenure.map_origin_modify _ _ _, .same⟩
  | raised => exact ⟨rfl, Tenure.map_origin_modify _ _ _, .raised _⟩
  | moved => exact ⟨rfl, Tenure.map_origin_modify _ _ _, .same⟩
  | cancelledAll | started | concluded | drained | failed | dispatched => cases he

namespace Tenure

variable {t : Tenure}

/-- A step may be taken from what is known of the gate and of the sheet. -/
theorem step_of_eq {before : Record} {gate : AcceptorState × Bool} {s : Sheet}
    (hgate : t.listener.gate = gate) (hsheet : t.listener.sheet = s)
    (step : Record.Step before (t.recordOf gate s)) : Record.Step before t.record := by
  rwa [record, hgate, hsheet]

theorem step_other (t : Tenure) (e : Event) : Record.Step t.record (t.other e).record := by
  unfold other
  split
  · exact .same _
  · next hcan =>
    have hcan := Bool.eq_false_iff.mpr hcan
    rw [Bool.or_eq_false_iff, Bool.or_eq_false_iff, decide_eq_false_iff_not,
      decide_eq_false_iff_not, Bool.not_eq_false, Bool.not_eq_false] at hcan
    obtain ⟨⟨hcalm, hroot⟩, -⟩ := hcan
    have hgate : (t.listener.perform e).gate = t.listener.gate := by
      refine gate_other t.listener ?_ ?_
      · cases e with
        | start => cases hcalm
        | _ => exact (Bool.not_eq_true' _).mp hcalm
      · rintro rfl
        cases hcalm
    have hstep := sheet_perform t.listener e
    obtain ⟨hstatus, horigins, hstir⟩ := hstep.calm hcalm hroot t.calls
    obtain ⟨-, hlabel, -, htoken⟩ := hstep.bearings
    refine step_of_eq hgate rfl ?_
    unfold recordOf
    rw [hstatus, horigins, hlabel, htoken]
    exact .calm hstir

/-- What the loop takes is one step of the record. -/
theorem step_take (hloop : t.loop = .turning) (rest : List (Except SystemError ConnectionId))
    (result : Except SystemError ConnectionId) :
    Record.Step t.record (t.take { t.listener with backlog := rest } result).record := by
  unfold take
  cases result with
  | ok c =>
    dsimp only
    split
    · next deadline _ =>
      refine step_of_eq (gate_dispatch _ c deadline) (sheet_dispatch _ c deadline) ?_
      unfold recordOf
      rw [List.map_append]
      exact .dispatched hloop
    · exact .stranded hloop
  | error e =>
    dsimp only
    split
    · next he => exact .passed hloop he
    · next he => exact .met hloop (Bool.eq_false_iff.mpr he)

/-- A round of the loop is one step of the record. -/
theorem step_round (hloop : t.loop = .turning) (overlooks : Bool) :
    Record.Step t.record (t.round overlooks).record := by
  unfold round
  split
  · exact .observed hloop
  · split
    · split
      · exact step_take hloop _ _
      · exact .same _
    · exact step_take hloop _ _

theorem step_goOn (t : Tenure) (overlooks : Bool) :
    Record.Step t.record (t.goOn overlooks).record := by
  cases hloop : t.loop with
  | absent =>
    unfold goOn
    rw [hloop]
    exact .same _
  | turning =>
    unfold goOn
    rw [hloop]
    exact step_round hloop overlooks
  | starting h spawned =>
    unfold goOn
    rw [hloop]
    cases spawned with
    | false => exact .spawned hloop
    | true => exact .noted hloop
  | failing e =>
    rw [goOn_failing hloop]
    exact .failed hloop
  | blaming =>
    rw [goOn_blaming hloop]
    exact .blamed hloop
  | raising =>
    rw [goOn_raising hloop]
    exact step_of_eq (gate_scheduleCancelled _) (sheet_scheduleCancelled _) (.raised hloop)
  | leaving =>
    rw [goOn_leaving hloop]
    exact step_of_eq (gate_dropAcceptor _) (sheet_dropAcceptor _) (.dropped hloop)
  | gone =>
    rw [goOn_gone hloop]
    exact .same _

/-- There is nothing to let go of but a listener that was not started. -/
theorem letGo_of_ne {a : AcceptorState} (h : a ≠ .idle) : a.letGo = a := by
  cases a with
  | idle => exact absurd rfl h
  | accepting | dropped => rfl

/-- A listener lets go of an acceptor that was never used. -/
theorem record_letGo (t : Tenure) :
    ({ t with listener := if t.listener.acceptor = .idle then t.listener.dropAcceptor
        else t.listener } : Tenure).record =
      { t.record with acceptor := t.listener.acceptor.letGo } := by
  split
  · next hidle =>
    unfold record
    rw [gate_dropAcceptor, sheet_dropAcceptor, hidle]
    rfl
  · next hidle =>
    rw [letGo_of_ne hidle]
    rfl

theorem step_callStart (t : Tenure) : Record.Step t.record t.callStart.record := by
  unfold callStart Listener.start
  split
  · next hstart =>
    split at hstart
    · next hcan =>
      obtain ⟨-, rfl⟩ := Prod.mk.inj hstart
      have hgate := gate_schedule
        { t.listener with status := .running, acceptor := .accepting, hasLoop := true } .acceptLoop
      have hsheet := sheet_schedule
        { t.listener with status := .running, acceptor := .accepting, hasLoop := true } .acceptLoop
      exact step_of_eq (congrArg (fun gate => (gate.1, t.listener.hasLoop)) hgate) hsheet
        (.started hcan.1 hcan.2)
    · cases (Prod.mk.inj hstart).1
  · next e _ hstart =>
    split at hstart
    · cases (Prod.mk.inj hstart).1
    · next hcan =>
      obtain ⟨-, rfl⟩ := Prod.mk.inj hstart
      have hletGo := record_letGo { t with
        starts := t.starts ++ [.refused e], apart := t.apart && t.isQuiet }
      refine hletGo ▸ .refused fun hidle => ?_
      exact Bool.eq_false_iff.mpr fun hbecome => hcan ⟨hidle, hbecome⟩

theorem step_launch (t : Tenure) (i : Nat) : Record.Step t.record (t.launch i).record := by
  unfold launch
  split
  · next hi => exact .filed hi
  · exact .same _

theorem gate_conclude (l : Listener) (taken : List HandshakeId) :
    (l.conclude taken).gate = l.gate := by
  unfold conclude
  split <;> rfl

/-- A stop that returns changes the status and nothing else on the sheet. -/
theorem sheet_conclude (l : Listener) (taken : List HandshakeId) :
    (l.conclude taken).sheet =
      { l.sheet with status := l.status.advance .terminated } := by
  unfold conclude ListenerStatus.advance
  split <;> rfl

theorem step_proceed (t : Tenure) (i : Nat) : Record.Step t.record (t.proceed i).record := by
  unfold proceed
  dsimp only
  split
  · next hi =>
    exact step_of_eq (gate_scheduleCancelled _) (sheet_scheduleCancelled _) (.cancelled hi)
  · next hi => exact .asked hi
  · next waits hi =>
    split
    · exact .same _
    · next hover =>
      rw [Bool.and_eq_true, not_and, Bool.not_eq_true] at hover
      exact record_letGo { t with stops := t.stops.set i .emptying } ▸ .joined hi hover
  · next hi => exact .emptied hi
  · next taken hi =>
    split
    · exact step_of_eq (gate_conclude _ _) (sheet_conclude _ _) (.concluded hi)
    · exact .same _
  · exact .same _
  · exact .same _

/-- Every move is a step of the record. -/
theorem step_next (t : Tenure) (m : Move) : Record.Step t.record (t.next m).record := by
  cases m with
  | other e => exact step_other t e
  | around s => exact .same _
  | outside e => exact .calm (.outside e)
  | loop overlooks => exact step_goOn t overlooks
  | start => exact step_callStart t
  | launch i => exact step_launch t i
  | stop => exact .called
  | proceed i => exact step_proceed t i

end Tenure

end Diameter.Listener
