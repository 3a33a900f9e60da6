import Diameter.Proofs.Listener.Service
import Diameter.Proofs.Listener.Tokens

/-!
# A listener from its start to its end

A listener is started and stopped by calls, any number of each, and they may overlap. A start
makes the listener run, starts the accept loop, and notes the task of the loop after that. A stop
cancels, takes the task of the loop if it is noted, waits for the loop if it took it, lets go of
an acceptor that was never used, takes the entries, waits for their tasks, and ends the listener.
When accepting fails for good, the loop changes the status, notes the reason of the shutdown,
cancels its root, and lets go of the acceptor.

All these points are kept apart here, and between them anything else may happen: handshakes go on,
others share the surroundings with the listener and change them, and calls to the shutdown, of
which each takes two steps, go on too. What is not written into the state of the listener is kept
beside it: the results that the loop has taken, and what it has found when it came to raise the
shutdown.

A loop, a start or a stop that nobody comes in between does what the listener does in one step.
-/

namespace Diameter.Listener

/-- What the accept loop is about. -/
inductive LoopStage where
  /-- It has not been started. -/
  | absent
  /-- It looks at its token and takes the next result. -/
  | turning
  /-- It has put a handshake into the set, starts its task, and then notes it. -/
  | starting (h : HandshakeId) (spawned : Bool)
  /-- Accepting has failed for good, and the status is changed next. -/
  | failing (error : SystemError)
  /-- The reason of the shutdown is noted next. -/
  | blaming
  /-- It was the first to note one, and the root is cancelled next. -/
  | raising
  /-- The acceptor goes away next. -/
  | leaving
  /-- It is over. -/
  | gone
  deriving DecidableEq

/-- Whether the loop is still there. -/
def LoopStage.isLive : LoopStage → Bool
  | .absent | .gone => false
  | _ => true

/-- How many turns the loop needs at most, once accepting has failed for good. -/
def LoopStage.left : LoopStage → Nat
  | .failing _ => 4
  | .blaming => 3
  | .raising => 2
  | .leaving => 1
  | _ => 0

/-- What has become of a call that starts the listener. -/
inductive Launch where
  /-- The loop runs, and its task is noted next. -/
  | filing
  /-- It has succeeded. -/
  | succeeded
  /-- It was refused. -/
  | refused (error : ListenerError)
  deriving DecidableEq

/-- Whether the call has started the listener. -/
def Launch.hasSucceeded : Launch → Bool
  | .filing | .succeeded => true
  | .refused _ => false

/-- How far a call that stops the listener has come. -/
inductive Recall where
  /-- It has done nothing. -/
  | called
  /-- It has cancelled the loop and all handshakes. -/
  | cancelled
  /-- It has asked for the task of the loop, and waits for it if it got it. -/
  | joining (waits : Bool)
  /-- An acceptor that was never used is gone. -/
  | emptying
  /-- It waits for the tasks that are noted in the entries it took. -/
  | awaiting (taken : List Taken)
  /-- It has returned. -/
  | returned
  deriving DecidableEq

/-- Whether the call has made sure that an acceptor that was never used is gone. -/
def Recall.hasEmptied : Recall → Bool
  | .called | .cancelled | .joining _ => false
  | .emptying | .awaiting _ | .returned => true

/-- The step of a stop that a call makes next, where it is one step. -/
def Recall.event? : Recall → Option Event
  | .called => some .cancelAll
  | .cancelled => some .join
  | .awaiting taken => some (.conclude (taken.map Taken.handshake))
  | .joining _ | .emptying | .returned => none

/-- A listener, and all calls that start and stop it. -/
structure Tenure where
  /-- The listener. -/
  listener : Listener
  /-- What the accept loop is about. -/
  loop : LoopStage
  /-- The handshakes in whose entries the task was noted. -/
  noted : List HandshakeId
  /-- The calls that start the listener, first to last. -/
  starts : List Launch
  /-- The calls that stop it. -/
  stops : List Recall
  /-- The calls of others that raise the shutdown. -/
  calls : List Shutdown.Call
  /-- The results that the accept loop has taken, first to last. -/
  taken : List (Except SystemError ConnectionId)
  /-- The connection over which the loop broke down. -/
  stranded : List ConnectionId
  /-- Whether the loop has seen its token cancelled. -/
  observed : Bool
  /-- The reason that the loop has found when it came to note its own, if it came to that. -/
  found : Option (Option ShutdownReason)
  /-- Whether no start and no stop was called while another one was going on. -/
  apart : Bool

/-- Whether an event is neither a step of the accept loop nor one of a start or a stop. -/
def Event.isCalm : Event → Bool
  | .start => false
  | e => !e.isStaged

/-- Raising the shutdown is noting the reason and, for the first one who does, cancelling the
root. -/
theorem trigger_of_none {l : Listener} (h : l.shutdown.reason = none) (reason : ShutdownReason) :
    (l.trigger reason).2 =
      { l with shutdown := (l.shutdown.note reason).2.cancel Shutdown.root }.scheduleCancelled := by
  unfold trigger
  rw [Shutdown.trigger_eq, h]
  rfl

/-- A shutdown that has a reason keeps it, and the listener stays as it is. -/
theorem trigger_of_some {l : Listener} {r : ShutdownReason} (h : l.shutdown.reason = some r)
    (reason : ShutdownReason) : (l.trigger reason).2 = l := by
  unfold trigger
  rw [Shutdown.trigger_eq, h]
  rfl

namespace Tenure

/-- What happens next. -/
inductive Move where
  /-- Something else happens to the listener. -/
  | other (e : Event)
  /-- Others change what they share with it, but for the shutdown. -/
  | around (surroundings : Surroundings)
  /-- Others do something about the shutdown. -/
  | outside (e : Shutdown.Clamour.Event)
  /-- The accept loop goes on. -/
  | loop (overlooks : Bool)
  /-- Somebody starts the listener. -/
  | start
  /-- A start goes on. -/
  | launch (i : Nat)
  /-- Somebody stops the listener. -/
  | stop
  /-- A stop goes on. -/
  | proceed (i : Nat)
  deriving Inhabited

/-- Whether a move is one of the accept loop. -/
def Move.isLoop : Move → Bool
  | .loop _ => true
  | _ => false

variable (t : Tenure)

/-- The task of a handshake that was not started does nothing, and nobody outside cancels the
root. -/
def other (e : Event) : Tenure :=
  if e.isCalm = false || e.sparesRoot = false ||
      e.task?.any (fun h => t.loop = .starting h false) then t
  else { t with listener := t.listener.perform e }

/-- Others do something about the shutdown. -/
def outside (e : Shutdown.Clamour.Event) : Tenure :=
  let w := Shutdown.Clamour.next ⟨t.listener.shutdown, t.calls⟩ e
  { t with listener := { t.listener with shutdown := w.shutdown }, calls := w.calls }

/-- The loop takes a result. `l` is the listener without it. -/
def take (l : Listener) (result : Except SystemError ConnectionId) : Tenure :=
  let t := { t with taken := t.taken ++ [result] }
  match result with
  | .ok c =>
    let l := l.countAccepted
    match Clock.after? l.now l.timeout with
    | some deadline =>
      { t with listener := l.dispatch c deadline, loop := .starting l.handshakes.length false }
    | none =>
      { t with
        listener := l.modifyConnection c Connection.release
        loop := .leaving
        stranded := t.stranded ++ [c] }
  | .error e =>
    if e.isTransient then { t with listener := l.write (.transient e.text) }
    else { t with listener := l, loop := .failing e }

/-- The loop looks at its token and takes the next result, if there is one. -/
def round (overlooks : Bool) : Tenure :=
  if !overlooks && t.listener.shutdown.isCancelled t.listener.token then
    { t with loop := .leaving, observed := true }
  else
    match t.listener.backlog with
    | [] => if t.listener.exhausted then t.take t.listener (.error exhaustedError) else t
    | result :: rest => t.take { t.listener with backlog := rest } result

/-- The accept loop goes on. -/
def goOn (overlooks : Bool) : Tenure :=
  match t.loop with
  | .absent | .gone => t
  | .turning => t.round overlooks
  | .starting h false => { t with loop := .starting h true }
  | .starting h true =>
    { t with
      noted := if h ∈ t.listener.outstanding then t.noted ++ [h] else t.noted
      loop := .turning }
  | .failing e =>
    { t with
      listener := { t.listener with status := t.listener.status.advance .failed }.write
        (.acceptFailed e.text)
      loop := .blaming }
  | .blaming =>
    let (first, shutdown) := t.listener.shutdown.note (.listenerFailed t.listener.label)
    { t with
      listener := { t.listener with shutdown }
      found := some t.listener.shutdown.reason
      loop := if first then .raising else .leaving }
  | .raising =>
    let shutdown := t.listener.shutdown.cancel Shutdown.root
    { t with
      listener := { t.listener with shutdown }.scheduleCancelled
      loop := .leaving }
  | .leaving => { t with listener := t.listener.dropAcceptor, loop := .gone }

/-- Whether no start and no stop is going on. -/
def isQuiet : Bool := t.starts.all (· != .filing) && t.stops.all (· == .returned)

/-- Somebody starts the listener. Whether that succeeds is decided at once. -/
def callStart : Tenure :=
  match t.listener.start with
  | (.ok _, l) =>
    { t with
      listener := { l with hasLoop := t.listener.hasLoop }
      loop := .turning
      starts := t.starts ++ [.filing]
      apart := t.apart && t.isQuiet }
  | (.error e, l) =>
    { t with listener := l, starts := t.starts ++ [.refused e], apart := t.apart && t.isQuiet }

/-- A start notes the task of the loop. -/
def launch (i : Nat) : Tenure :=
  match t.starts[i]? with
  | some .filing =>
    { t with
      listener := { t.listener with hasLoop := true }
      starts := t.starts.set i .succeeded }
  | _ => t

/-- An entry as a stop finds it. -/
def entry (h : HandshakeId) : Taken := ⟨h, t.noted.contains h⟩

/-- Whether there is nothing to wait for any more. -/
def isJoined (x : Taken) : Bool := !x.hasTask || t.listener.hasEnded x.handshake

/-- Somebody stops the listener. -/
def callStop : Tenure :=
  { t with stops := t.stops ++ [.called], apart := t.apart && t.isQuiet }

/-- A stop goes on, if it need not wait. -/
def proceed (i : Nat) : Tenure :=
  let l := t.listener
  match t.stops[i]? with
  | some .called => { t with listener := l.cancelAll, stops := t.stops.set i .cancelled }
  | some .cancelled =>
    { t with
      listener := { l with hasLoop := false }
      stops := t.stops.set i (.joining l.hasLoop) }
  | some (.joining waits) =>
    if waits && t.loop.isLive then t
    else { t with
      listener := if l.acceptor = .idle then l.dropAcceptor else l
      stops := t.stops.set i .emptying }
  | some .emptying =>
    { t with
      listener := { l with outstanding := [] }.showOutstanding 0
      stops := t.stops.set i (.awaiting (l.outstanding.map t.entry)) }
  | some (.awaiting taken) =>
    if taken.all t.isJoined then
      { t with
        listener := l.conclude (taken.map Taken.handshake)
        stops := t.stops.set i .returned }
    else t
  | some .returned | none => t

/-- What a move leads to. One that cannot be made changes nothing. -/
def next : Move → Tenure
  | .other e => t.other e
  | .around s =>
    { t with listener.toSurroundings := { s with shutdown := t.listener.shutdown } }
  | .outside e => t.outside e
  | .loop overlooks => t.goOn overlooks
  | .start => t.callStart
  | .launch i => t.launch i
  | .stop => t.callStop
  | .proceed i => t.proceed i

/-- What moves lead to. -/
def extend (moves : List Move) : Tenure := moves.foldl next t

/-- A listener that has just been made in the middle of a clamour, and that nobody has called. -/
def start (address : String) (transport : Transport) (security : Security)
    (terms : AcceptTerms) (surroundings : Surroundings) (w : Shutdown.Clamour) : Tenure where
  listener := .new address transport security terms { surroundings with shutdown := w.shutdown }
  loop := .absent
  noted := []
  starts := []
  stops := []
  calls := w.calls
  taken := []
  stranded := []
  observed := false
  found := none
  apart := true

variable {t}

/-! ## How the loop leaves -/

/-- A loop that has met an error writes the status next. -/
theorem goOn_failing {e : SystemError} (h : t.loop = .failing e) (overlooks : Bool) :
    t.goOn overlooks = { t with
      listener := { t.listener with status := t.listener.status.advance .failed }.write
        (.acceptFailed e.text)
      loop := .blaming } := by
  unfold goOn
  rw [h]

/-- A loop that has written the status notes its reason next. -/
theorem goOn_blaming (h : t.loop = .blaming) (overlooks : Bool) :
    t.goOn overlooks = { t with
      listener := { t.listener with
        shutdown := (t.listener.shutdown.note (.listenerFailed t.listener.label)).2 }
      found := some t.listener.shutdown.reason
      loop := if t.listener.shutdown.reason.isNone then .raising else .leaving } := by
  unfold goOn
  rw [h, Shutdown.note_eq]

/-- A loop that has noted its reason cancels the root next. -/
theorem goOn_raising (h : t.loop = .raising) (overlooks : Bool) :
    t.goOn overlooks = { t with
      listener := { t.listener with
        shutdown := t.listener.shutdown.cancel Shutdown.root }.scheduleCancelled
      loop := .leaving } := by
  unfold goOn
  rw [h]

/-- A loop that leaves lets go of the acceptor next. -/
theorem goOn_leaving (h : t.loop = .leaving) (overlooks : Bool) :
    t.goOn overlooks = { t with listener := t.listener.dropAcceptor, loop := .gone } := by
  unfold goOn
  rw [h]

/-- A loop that is gone does nothing. -/
theorem goOn_gone (h : t.loop = .gone) (overlooks : Bool) : t.goOn overlooks = t := by
  unfold goOn
  rw [h]

/-! ## Nobody comes in between -/

/-- A loop that fails, and that nobody comes in between, fails in one step. -/
theorem turns_of_failing {e : SystemError} (hloop : t.loop = .failing e) :
    (t.extend (List.replicate 4 (.loop false))).listener = t.listener.failAccept e ∧
      (t.extend (List.replicate 4 (.loop false))).loop = .gone := by
  show ((((t.goOn false).goOn false).goOn false).goOn false).listener = _ ∧
    ((((t.goOn false).goOn false).goOn false).goOn false).loop = _
  have hfailing := goOn_failing hloop false
  have hblaming := goOn_blaming (t := t.goOn false) (by rw [hfailing]) false
  unfold failAccept
  dsimp only
  rw [show (Listener.write { t.listener with status := t.listener.status.advance .failed }
    (.acceptFailed e.text)) = (t.goOn false).listener by rw [hfailing]]
  generalize t.goOn false = u at hblaming ⊢
  cases hreason : u.listener.shutdown.reason with
  | none =>
    have hraising := goOn_raising (t := u.goOn false) (by rw [hblaming, hreason]; rfl) false
    rw [goOn_leaving (by rw [hraising]), hraising, hblaming, trigger_of_none hreason]
    dsimp only
    exact ⟨rfl, rfl⟩
  | some reason =>
    have hleaving := goOn_leaving (t := u.goOn false) (by rw [hblaming, hreason]; rfl) false
    rw [goOn_gone (by rw [hleaving]), hleaving, hblaming, trigger_of_some hreason,
      Shutdown.note_of_some hreason]
    exact ⟨rfl, rfl⟩

/-- A round of the loop that nobody comes in between is done in one step. -/
theorem exists_turns_of_round (hloop : t.loop = .turning) (haccepting : t.listener.acceptor = .accepting)
    (overlooks : Bool) : ∃ n,
      (t.extend (.loop overlooks :: List.replicate n (.loop false))).listener =
        t.listener.acceptSeeing (!overlooks && t.listener.shutdown.isCancelled t.listener.token) := by
  have hround (n : Nat) : t.extend (.loop overlooks :: List.replicate n (.loop false)) =
      (t.round overlooks).extend (List.replicate n (.loop false)) := by
    show (t.goOn overlooks).extend _ = _
    unfold goOn
    rw [hloop]
  have hone (u : Tenure) : u.extend (List.replicate 1 (.loop false)) = u.goOn false := rfl
  unfold acceptSeeing
  rw [if_neg (not_not_intro haccepting)]
  cases hseen : !overlooks && t.listener.shutdown.isCancelled t.listener.token with
  | true =>
    refine ⟨1, ?_⟩
    rw [hround, hone, round, if_pos hseen, if_pos rfl]
    rfl
  | false =>
    have htake (l : Listener) (result : Except SystemError ConnectionId) :
        ∃ n, ((t.take l result).extend (List.replicate n (.loop false))).listener =
          l.acceptResult result := by
      unfold take acceptResult
      cases result with
      | ok c =>
        dsimp only
        cases Clock.after? l.countAccepted.now l.countAccepted.timeout with
        | some deadline => exact ⟨0, rfl⟩
        | none => exact ⟨1, rfl⟩
      | error e =>
        dsimp only
        cases e.isTransient with
        | true => exact ⟨0, rfl⟩
        | false => exact ⟨4, (turns_of_failing rfl).1⟩
    rw [if_neg Bool.false_ne_true]
    unfold acceptNext
    rcases hbacklog : t.listener.backlog with _ | ⟨result, rest⟩
    · dsimp only
      cases hexhausted : t.listener.exhausted with
      | true =>
        obtain ⟨n, hn⟩ := htake t.listener (.error exhaustedError)
        refine ⟨n, ?_⟩
        rw [hround, round, hseen, if_neg Bool.false_ne_true, hbacklog]
        dsimp only
        rw [hexhausted, if_pos rfl, hn]
        rfl
      | false =>
        refine ⟨0, ?_⟩
        rw [hround, round, hseen, if_neg Bool.false_ne_true, hbacklog]
        dsimp only
        rw [hexhausted]
        rfl
    · obtain ⟨n, hn⟩ := htake { t.listener with backlog := rest } result
      refine ⟨n, ?_⟩
      rw [hround, round, hseen, if_neg Bool.false_ne_true, hbacklog]
      exact hn

/-- A start that nobody comes in between is done in one step. -/
theorem start_alone (t : Tenure) :
    (t.extend [.start, .launch t.starts.length]).listener = t.listener.start.2 := by
  show (t.callStart.launch t.starts.length).listener = _
  rcases hstart : t.listener.start with ⟨e | done, l⟩
  · have hcall : t.callStart = { t with
        listener := l, starts := t.starts ++ [.refused e], apart := t.apart && t.isQuiet } := by
      unfold callStart
      rw [hstart]
    rw [hcall, launch, List.getElem?_concat_length]
  · have hcall : t.callStart = { t with
        listener := { l with hasLoop := t.listener.hasLoop }, loop := .turning
        starts := t.starts ++ [.filing], apart := t.apart && t.isQuiet } := by
      unfold callStart
      rw [hstart]
    rw [hcall, launch, List.getElem?_concat_length]
    have hloop : l.hasLoop = true := by
      unfold Listener.start at hstart
      split at hstart
      · obtain ⟨-, rfl⟩ := Prod.mk.inj hstart
        exact congrArg Prod.snd (gate_schedule _ _)
      · cases (Prod.mk.inj hstart).1
    dsimp only
    rw [← hloop]

/-- A call that stops the listener cancels it, asks for the loop and ends it as a stop does. -/
theorem proceed_event {i : Nat} {stage : Recall} {e : Event} (hi : t.stops[i]? = some stage)
    (he : stage.event? = some e) : (t.proceed i).listener = t.listener.perform e ∨ t.proceed i = t := by
  unfold proceed
  rw [hi]
  cases stage with
  | called | cancelled =>
    cases he
    exact .inl rfl
  | awaiting taken =>
    cases he
    dsimp only
    split
    · exact .inl rfl
    · exact .inr rfl
  | joining | emptying | returned => cases he

/-- When it need not wait for the loop any more, and nobody comes in between, it lets go of the
acceptor and takes the entries in one step. -/
theorem proceed_drain {i : Nat} {waits : Bool} (hi : t.stops[i]? = some (.joining waits))
    (hover : (waits && t.loop.isLive) = false) :
    ((t.proceed i).proceed i).listener = t.listener.perform .drain := by
  have hjoined : t.proceed i = { t with
      listener := if t.listener.acceptor = .idle then t.listener.dropAcceptor else t.listener
      stops := t.stops.set i .emptying } := by
    unfold proceed
    rw [hi]
    dsimp only
    rw [hover]
    rfl
  have hat : (t.stops.set i .emptying)[i]? = some .emptying :=
    List.getElem?_set_self (List.getElem?_eq_some_iff.mp hi).1
  rw [hjoined, proceed]
  dsimp only
  rw [hat]
  rfl

end Tenure

end Diameter.Listener
