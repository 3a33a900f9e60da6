import Diameter.Proofs.Listener.Steps

/-!
# How handshakes move on

The sheet of a listener keeps its terms, its status, the time, the shutdown, the set, and
every handshake with its deadline, its token and its phase. Turns, notes, metrics, the
backlog, the connections and the event queue are forgotten. Each event is one of a few steps
of the sheet: nothing, something about the time, the shutdown or the status, a handshake that
is dispatched, or one handshake that moves on to another phase.

Around a listener anything may happen: other listeners and the daemon share the clock, the
connections, the event queue and the shutdown with it. A happening is an event of the
listener or a change of its surroundings, in whatever way.
-/

namespace Diameter.Listener

/-- What decides how the handshakes of a listener go on. -/
structure Sheet where
  /-- How connections are treated. -/
  terms : AcceptTerms
  /-- The label. -/
  label : String
  /-- The address, as it is written. -/
  address : String
  /-- The transport. -/
  transport : Transport
  /-- When TLS starts. -/
  security : Security
  /-- What cancels every handshake. -/
  token : TokenId
  /-- How far the listener has come. -/
  status : ListenerStatus
  /-- The time. -/
  now : Nat
  /-- The shutdown. -/
  shutdown : Shutdown
  /-- All handshakes. -/
  handshakes : List Accepted
  /-- The handshakes that are outstanding. -/
  outstanding : List HandshakeId

/-- The sheet of a listener. -/
def sheet (l : Listener) : Sheet where
  terms := l.toAcceptTerms
  label := l.label
  address := l.address
  transport := l.transport
  security := l.security
  token := l.token
  status := l.status
  now := l.now
  shutdown := l.shutdown
  handshakes := l.handshakes
  outstanding := l.outstanding

/-- The sheet with one handshake in another phase. -/
def Sheet.setPhase (s : Sheet) (h : HandshakeId) (phase : Phase) : Sheet :=
  { s with handshakes := s.handshakes.modify h fun x => { x with phase } }

/-- The sheet after an entry has left the set. -/
def Sheet.leave (s : Sheet) (h : HandshakeId) : Sheet :=
  { s with outstanding := s.outstanding.filter (· != h) }

/-- The phase after a turn of the wait. -/
def Phase.ofPoll : Handshake.Wait ⊕ Handshake.Decision → Phase
  | .inl wait => .waiting wait
  | .inr decision => .leaving decision

/-- What a handshake moves on to by an event that is about its phase alone. -/
inductive Accepted.Step (l : Listener) (h : HandshakeId) (x : Accepted) : Event → Phase → Prop
  /-- It has a turn of its wait. -/
  | poll {overlooks : Bool} {wait : Handshake.Wait} {connection : Connection}
      (hp : x.phase = .waiting wait) (hc : l.connections[x.connection]? = some connection) :
      Step l h x (.poll h overlooks) (.ofPoll (Handshake.poll ⟨l.security, l.codec, x.deadline⟩
        l.now (!overlooks && l.isCancelled h) wait connection).1)
  /-- It closes its connection. -/
  | close {outcome : HandshakeOutcome} {late : Bool} (hp : x.phase = .closing outcome late)
      (ho : ∀ what, outcome ≠ .fatal what) : Step l h x (.close h) (.ended outcome)
  /-- It closes its connection because of a failure of our own. -/
  | fail {what : String} {late : Bool} (hp : x.phase = .closing (.fatal what) late) :
      Step l h x (.close h) (.raising what)
  /-- A keeper gets the connection. -/
  | keep {arrival : Arrival} {delay : Nat} (hp : x.phase = .handing arrival)
      (hk : l.peers = .keeper delay) :
      Step l h x (.handOver h) (.keeping arrival (l.now + delay))
  /-- The event queue is to get the connection. -/
  | queue {arrival : Arrival} (hp : x.phase = .handing arrival) (hk : l.peers = .events) :
      Step l h x (.handOver h) (.storing l.events.callers.length)
  /-- A keeper has the connection. -/
  | kept {arrival : Arrival} {done : Nat} (hp : x.phase = .keeping arrival done)
      (hd : done ≤ l.now) : Step l h x (.completeHandOver h) (.ended .handedOff)
  /-- The call to the event queue has ended. -/
  | stored {caller : Queue.CallerId} (hp : x.phase = .storing caller)
      (he : ∃ request outcome, (l.events.run caller l.now).1.callers[caller]? =
        some ⟨request, .ended outcome⟩) :
      Step l h x (.completeHandOver h) (.ended .handedOff)

/-- The error that the accept loop meets next. -/
def nextError? (l : Listener) : Option SystemError :=
  match l.backlog with
  | [] => if l.exhausted then some exhaustedError else none
  | .error e :: _ => some e
  | .ok _ :: _ => none

/-- What an event makes of the sheet. -/
inductive Sheet.Step (l : Listener) : Event → Sheet → Prop
  /-- Nothing. -/
  | same {e : Event} : Step l e l.sheet
  /-- The clock shows another time. -/
  | ticked {now : Nat} : Step l (.clock now) { l.sheet with now }
  /-- Somebody raises the shutdown. -/
  | triggered {reason : ShutdownReason} :
      Step l (.trigger reason) { l.sheet with shutdown := (l.shutdown.trigger reason).2 }
  /-- Somebody cancels a token. -/
  | cancelled {token : TokenId} :
      Step l (.cancel token) { l.sheet with shutdown := l.shutdown.cancel token }
  /-- A stop cancels everything. -/
  | cancelledAll : Step l .cancelAll { l.sheet with shutdown := l.shutdown.cancel l.token }
  /-- The listener starts. -/
  | started : Step l .start { l.sheet with status := .running }
  /-- A stop returns. -/
  | concluded {taken : List HandshakeId} :
      Step l (.conclude taken) { l.sheet with status := .terminated }
  /-- A stop takes every entry. -/
  | drained : Step l .drain { l.sheet with outstanding := [] }
  /-- Accepting fails for good. -/
  | failed {overlooks : Bool} {e : SystemError} (ha : l.acceptor = .accepting)
      (he : l.nextError? = some e) (ht : e.isTransient = false) :
      Step l (.accept overlooks) { l.sheet with
        status := l.status.advance .failed
        shutdown := (l.shutdown.trigger (.listenerFailed l.label)).2 }
  /-- A handshake is started for a connection. -/
  | dispatched {overlooks : Bool} {c : ConnectionId} {deadline : Nat}
      (ha : l.acceptor = .accepting) (hd : Clock.after? l.now l.timeout = some deadline) :
      Step l (.accept overlooks) { l.sheet with
        shutdown := (l.shutdown.child l.token).2
        handshakes := l.handshakes ++
          [⟨c, deadline, (l.shutdown.child l.token).1, .waiting .turn⟩]
        outstanding := l.outstanding ++ [l.handshakes.length] }
  /-- A handshake leaves the set. -/
  | claimed {h : HandshakeId} {x : Accepted} {decision : Handshake.Decision}
      (hx : l.handshakes[h]? = some x) (hp : x.phase = .leaving decision) :
      Step l (.claim h) ((l.sheet.leave h).setPhase h
        (l.afterClaim x.connection (l.outstanding.contains h) decision).1)
  /-- A handshake stops the daemon. -/
  | raised {h : HandshakeId} {x : Accepted} {what : String} (hx : l.handshakes[h]? = some x)
      (hp : x.phase = .raising what) :
      Step l (.raise h) { l.sheet.setPhase h (.ended (.fatal what)) with
        shutdown := (l.shutdown.trigger (.internal what)).2 }
  /-- A handshake moves on to another phase. -/
  | moved {e : Event} {h : HandshakeId} {x : Accepted} {phase : Phase}
      (hx : l.handshakes[h]? = some x) (hs : x.Step l h e phase) :
      Step l e (l.sheet.setPhase h phase)

/-! ## What leaves the sheet as it is -/

theorem sheet_schedule (l : Listener) (task : Task) : (l.schedule task).sheet = l.sheet := by
  unfold schedule
  split <;> rfl

theorem sheet_foldl_schedule (hs : List HandshakeId) (l : Listener) :
    (hs.foldl (fun l h => l.schedule (.handshake h)) l).sheet = l.sheet := by
  induction hs generalizing l with
  | nil => rfl
  | cons h hs ih => exact (ih _).trans (sheet_schedule l _)

theorem sheet_scheduleCancelled (l : Listener) : l.scheduleCancelled.sheet = l.sheet := by
  unfold scheduleCancelled
  dsimp only
  split
  · rw [sheet_schedule, sheet_foldl_schedule]
  · rw [sheet_foldl_schedule]

theorem sheet_scheduleWoken (l : Listener) : l.scheduleWoken.sheet = l.sheet :=
  sheet_foldl_schedule _ _

theorem sheet_tell (l : Listener) (crossing : Option (Queue.Crossing String)) :
    (l.mapSurroundings (·.tell crossing)).sheet = l.sheet := by
  cases crossing <;> rfl

theorem sheet_dropAcceptor (l : Listener) : l.dropAcceptor.sheet = l.sheet := by
  have hlost (lost : List ConnectionId) (l : Listener) :
      (lost.foldl (fun l c => l.modifyConnection c Connection.release) l).sheet = l.sheet := by
    induction lost generalizing l with
    | nil => rfl
    | cons c lost ih => exact ih _
  exact hlost _ l

theorem sheet_offer (l : Listener) (result : Except SystemError ConnectionId) :
    (l.offer result).1.sheet = l.sheet := by
  unfold offer
  split
  · split <;> rfl
  · dsimp only
    split
    · exact sheet_schedule _ _
    · rfl

theorem sheet_popEvent (l : Listener) (discard : Bool) :
    (l.popEvent discard).1.sheet = l.sheet := by
  have hshared : l.toSurroundings.popEvent.2.now = l.now ∧
      l.toSurroundings.popEvent.2.shutdown = l.shutdown := by
    have htell (s : Surroundings) (crossing : Option (Queue.Crossing String)) :
        (s.tell crossing).now = s.now ∧ (s.tell crossing).shutdown = s.shutdown := by
      cases crossing <;> exact ⟨rfl, rfl⟩
    unfold Surroundings.popEvent
    split
    all_goals exact htell _ _
  unfold popEvent
  rcases hpop : l.toSurroundings.popEvent with ⟨result, surroundings⟩
  rw [hpop] at hshared
  have hsame : ({ l with toSurroundings := surroundings } : Listener).sheet = l.sheet :=
    (congrArg (fun now => { l.sheet with now, shutdown := surroundings.shutdown })
      hshared.1).trans (congrArg (fun shutdown => { l.sheet with shutdown }) hshared.2)
  cases result with
  | error e => exact hsame
  | ok arrival =>
    dsimp only
    split
    · exact (sheet_scheduleWoken _).trans hsame
    · exact (sheet_scheduleWoken _).trans hsame

theorem sheet_destroyEvents (l : Listener) : (l.act .destroyEvents).1.sheet = l.sheet := by
  dsimp only [act]
  split
  · rfl
  · exact sheet_scheduleWoken _

/-! ## What changes it -/

/-- A handshake in another phase is in that phase on the sheet. -/
theorem sheet_setPhase (l : Listener) (h : HandshakeId) (phase : Phase) :
    (l.setPhase h phase).sheet = l.sheet.setPhase h phase := rfl

/-- A handshake that finishes has its outcome on the sheet, and what it notes is not there. -/
theorem sheet_finish (l : Listener) (h : HandshakeId) (outcome : HandshakeOutcome) :
    (l.finish h outcome).sheet = l.sheet.setPhase h (.ended outcome) := rfl

/-- Raising a shutdown changes the shutdown and nothing else on the sheet. -/
theorem sheet_trigger (l : Listener) (reason : ShutdownReason) :
    (l.trigger reason).2.sheet =
      { l.sheet with shutdown := (l.shutdown.trigger reason).2 } := by
  unfold trigger
  rcases htrigger : l.shutdown.trigger reason with ⟨first, shutdown⟩
  cases first with
  | true => exact sheet_scheduleCancelled _
  | false =>
    have hsame : shutdown = l.shutdown := by
      unfold Shutdown.trigger Shutdown.note at htrigger
      cases hreason : l.shutdown.reason with
      | some reason =>
        simp only [hreason] at htrigger
        cases htrigger
        rfl
      | none => simp [hreason] at htrigger
    rw [hsame]
    rfl

/-- A failed accept takes the status on and raises a shutdown. -/
theorem sheet_failAccept (l : Listener) (e : SystemError) :
    (l.failAccept e).sheet = { l.sheet with
      status := l.status.advance .failed
      shutdown := (l.shutdown.trigger (.listenerFailed l.label)).2 } := by
  unfold failAccept
  dsimp only
  rw [sheet_dropAcceptor, sheet_trigger]
  rfl

/-- Accepting a connection makes a token and a handshake, and enters it. -/
theorem sheet_dispatch (l : Listener) (c : ConnectionId) (deadline : Nat) :
    (l.dispatch c deadline).sheet = { l.sheet with
      shutdown := (l.shutdown.child l.token).2
      handshakes := l.handshakes ++
        [⟨c, deadline, (l.shutdown.child l.token).1, .waiting .turn⟩]
      outstanding := l.outstanding ++ [l.handshakes.length] } := by
  unfold dispatch
  dsimp only
  rw [sheet_schedule]
  rfl

/-- Draining empties the set and cancels who was in it. -/
theorem sheet_drain (l : Listener) : l.drain.2.sheet = { l.sheet with outstanding := [] } := by
  unfold drain
  dsimp only
  split
  · exact congrArg (fun s => { s with outstanding := [] }) (sheet_dropAcceptor l)
  · rfl

/-- What follows the claim is not on the sheet before the phase is. -/
theorem sheet_afterClaim (l : Listener) (c : ConnectionId) (claimed : Bool)
    (decision : Handshake.Decision) : (l.afterClaim c claimed decision).2.sheet = l.sheet := by
  rcases decision with _ | _ | _ | _ <;> cases claimed <;> rfl

/-- What a handshake moves on to depends on its decision and its entry alone. -/
theorem phase_afterClaim (l m : Listener) (c : ConnectionId) (claimed : Bool)
    (decision : Handshake.Decision) :
    (l.afterClaim c claimed decision).1 = (m.afterClaim c claimed decision).1 := by
  rcases decision with _ | _ | _ | _ <;> cases claimed <;> rfl

/-! ## Every event is a step -/

theorem step_acceptSeeing (l : Listener) (overlooks cancelled : Bool) :
    Sheet.Step l (.accept overlooks) (l.acceptSeeing cancelled).sheet := by
  unfold acceptSeeing
  split
  · exact .same
  · rename_i ha
    have ha : l.acceptor = .accepting := Decidable.not_not.mp ha
    split
    · rw [sheet_dropAcceptor]
      exact .same
    · unfold acceptNext
      rcases hbacklog : l.backlog with _ | ⟨result, rest⟩
      · dsimp only
        split
        · rename_i hexhausted
          rw [sheet_failAccept]
          have herror : l.nextError? = some exhaustedError := by
            simp only [nextError?, hbacklog, hexhausted, if_true]
          exact .failed ha herror rfl
        · exact .same
      · cases result with
        | ok c =>
          dsimp only [acceptResult]
          cases hdeadline : Clock.after? l.now l.timeout with
          | some deadline =>
            have hafter : Clock.after? ({ l with backlog := rest }.countAccepted).now
                ({ l with backlog := rest }.countAccepted).timeout = some deadline := hdeadline
            rw [hafter]
            dsimp only
            rw [sheet_dispatch]
            exact .dispatched ha hdeadline
          | none =>
            have hafter : Clock.after? ({ l with backlog := rest }.countAccepted).now
                ({ l with backlog := rest }.countAccepted).timeout = none := hdeadline
            rw [hafter]
            dsimp only [breakLoop]
            rw [sheet_dropAcceptor]
            exact .same
        | error e =>
          dsimp only [acceptResult]
          split
          · exact .same
          · rename_i htransient
            rw [sheet_failAccept]
            have herror : l.nextError? = some e := by simp only [nextError?, hbacklog]
            exact .failed ha herror (Bool.eq_false_iff.mpr htransient)

theorem step_pollSeeing (l : Listener) (h : HandshakeId) (overlooks : Bool) :
    Sheet.Step l (.poll h overlooks)
      (l.pollSeeing h (!overlooks && l.isCancelled h)).sheet := by
  unfold pollSeeing
  rcases hx : l.handshakes[h]? with _ | ⟨c, deadline, token, phase⟩
  · exact .same
  · cases phase with
    | waiting wait =>
      dsimp only
      cases hc : l.connections[c]? with
      | none => exact .same
      | some connection =>
        have hstep : Accepted.Step l h ⟨c, deadline, token, .waiting wait⟩ (.poll h overlooks)
            (.ofPoll (Handshake.poll ⟨l.security, l.codec, deadline⟩ l.now
              (!overlooks && l.isCancelled h) wait connection).1) := .poll rfl hc
        have hmoved := Sheet.Step.moved hx hstep
        dsimp only at hmoved ⊢
        split
        · rename_i hnext
          rw [hnext] at hmoved
          exact hmoved
        · rename_i hnext
          rw [hnext] at hmoved
          exact hmoved
    | _ => exact .same

theorem step_claim (l : Listener) (h : HandshakeId) : Sheet.Step l (.claim h) (l.claim h).sheet := by
  unfold claim
  rcases hx : l.handshakes[h]? with _ | ⟨c, deadline, token, phase⟩
  · exact .same
  · cases phase with
    | leaving decision =>
      have hstep := Sheet.Step.claimed hx rfl
      dsimp only at hstep ⊢
      rw [sheet_setPhase, sheet_afterClaim]
      by_cases hs : l.outstanding.contains h = true
      · simp only [hs, if_true] at hstep ⊢
        rw [phase_afterClaim _ l]
        exact hstep
      · simp only [hs, if_false, Bool.false_eq_true] at hstep ⊢
        have hleave : l.sheet.leave h = l.sheet := by
          have hfilter : l.outstanding.filter (· != h) = l.outstanding := by
            refine List.filter_eq_self.mpr fun a ha => ?_
            refine bne_iff_ne.mpr ?_
            rintro rfl
            exact hs (List.contains_iff_mem.mpr ha)
          exact congrArg (fun outstanding => { l.sheet with outstanding }) hfilter
        rw [hleave] at hstep
        exact hstep
    | _ => exact .same

theorem step_close (l : Listener) (h : HandshakeId) : Sheet.Step l (.close h) (l.close h).sheet := by
  unfold close
  rcases hx : l.handshakes[h]? with _ | ⟨c, deadline, token, phase⟩
  · exact .same
  · cases phase with
    | closing outcome late =>
      cases outcome with
      | fatal what => exact .moved hx (.fail rfl)
      | handedOff => exact .moved hx (.close rfl (by simp))
      | rejected reason => exact .moved hx (.close rfl (by simp))
      | cancelled => exact .moved hx (.close rfl (by simp))
    | _ => exact .same

theorem step_raise (l : Listener) (h : HandshakeId) : Sheet.Step l (.raise h) (l.raise h).sheet := by
  unfold raise
  rcases hx : l.handshakes[h]? with _ | ⟨c, deadline, token, phase⟩
  · exact .same
  · cases phase with
    | raising what =>
      dsimp only
      rw [sheet_finish, sheet_trigger]
      exact .raised hx rfl
    | _ => exact .same

theorem step_handOver (l : Listener) (h : HandshakeId) :
    Sheet.Step l (.handOver h) (l.handOver h).sheet := by
  unfold handOver
  rcases hx : l.handshakes[h]? with _ | ⟨c, deadline, token, phase⟩
  · exact .same
  · cases phase with
    | handing arrival =>
      dsimp only
      cases hpeers : l.peers with
      | keeper delay => exact .moved hx (.keep rfl hpeers)
      | events => exact .moved hx (.queue rfl hpeers)
    | _ => exact .same

theorem sheet_afterRun (l : Listener) (caller : Queue.CallerId) :
    (l.afterRun caller).sheet = l.sheet := (sheet_scheduleWoken _).trans (sheet_tell _ _)

theorem step_completeHandOver (l : Listener) (h : HandshakeId) :
    Sheet.Step l (.completeHandOver h) (l.completeHandOver h).sheet := by
  rcases hx : l.handshakes[h]? with _ | ⟨c, deadline, token, phase⟩
  · unfold completeHandOver
    rw [hx]
    exact .same
  · cases phase with
    | storing caller =>
      rw [completeHandOver_of_storing l hx rfl, callers_afterRun]
      have hsheet := l.sheet_afterRun caller
      generalize l.afterRun caller = after at hsheet ⊢
      rcases hcall : (l.events.run caller l.now).1.callers[caller]? with _ | ⟨request, stage⟩
      · exact hsheet ▸ .same
      · cases stage with
        | ended outcome =>
          have hmoved : Sheet.Step l (.completeHandOver h)
              (l.sheet.setPhase h (.ended .handedOff)) :=
            .moved hx (.stored rfl ⟨request, outcome, hcall⟩)
          rw [← hsheet] at hmoved
          cases outcome <;> exact hmoved
        | _ => exact hsheet ▸ .same
    | keeping arrival done =>
      unfold completeHandOver
      rw [hx]
      dsimp only
      split
      · exact .same
      · next hd => exact .moved hx (.kept rfl (Nat.le_of_not_lt hd))
    | _ =>
      unfold completeHandOver
      rw [hx]
      exact .same

/-- Every event is a step of the sheet. -/
theorem sheet_perform (l : Listener) (e : Event) : Sheet.Step l e (l.perform e).sheet := by
  have hsame {after : Listener} (h : after.sheet = l.sheet) : Sheet.Step l e after.sheet :=
    h ▸ .same
  cases e with
  | connect name description tls => exact hsame (sheet_offer _ _)
  | acceptError error => exact hsame (sheet_offer _ _)
  | exhaust =>
    refine hsame ?_
    dsimp only [perform, act]
    split
    · exact sheet_schedule _ _
    · rfl
  | deliver c result => exact .same
  | finishInbox c => exact .same
  | clock now => exact .ticked
  | trigger reason =>
    rw [perform, sheet_trigger]
    exact .triggered
  | cancel token => exact .cancelled
  | start =>
    dsimp only [perform]
    unfold Listener.start
    split
    · rw [sheet_schedule]
      exact .started
    · dsimp only
      split
      · rw [sheet_dropAcceptor]
        exact .same
      · exact .same
  | accept overlooks => exact step_acceptSeeing l overlooks _
  | poll h overlooks => exact step_pollSeeing l h overlooks
  | claim h => exact step_claim l h
  | close h => exact step_close l h
  | raise h => exact step_raise l h
  | handOver h => exact step_handOver l h
  | completeHandOver h => exact step_completeHandOver l h
  | popEvent discard => exact hsame (sheet_popEvent l discard)
  | clearAlarm => exact .same
  | destroyEvents => exact hsame (sheet_destroyEvents l)
  | cancelAll =>
    rw [perform, cancelAll, sheet_scheduleCancelled]
    exact .cancelledAll
  | drain =>
    rw [perform, sheet_drain]
    exact .drained
  | conclude taken =>
    dsimp only [perform, conclude]
    split
    · exact .concluded
    · exact .same
  | join => exact .same
  | arrange runnable => exact .same
  | forget => exact .same

/-! ## A listener among others -/

/-- What happens to a listener that is not alone. -/
inductive Happening where
  /-- An event of its own. -/
  | own (event : Event)
  /-- Others change what they share with it. -/
  | around (surroundings : Surroundings)

namespace Course

/-- The course after one more happening. -/
def happen (k : Course) : Happening → Course
  | .own e => k.next e
  | .around surroundings =>
    { k with listener := { k.listener with toSurroundings := surroundings } }

/-- The course after more happenings. -/
def through (k : Course) (happenings : List Happening) : Course := happenings.foldl happen k

/-- Happenings in a row can happen in two parts. -/
theorem through_append (k : Course) (happenings more : List Happening) :
    k.through (happenings ++ more) = (k.through happenings).through more := List.foldl_append

/-- The last happening meets what the others have left. -/
theorem through_concat (k : Course) (happenings : List Happening) (x : Happening) :
    k.through (happenings ++ [x]) = (k.through happenings).happen x :=
  through_append k happenings [x]

/-- An event of the listener itself happens as in a course. -/
theorem happen_own (k : Course) (e : Event) : k.happen (.own e) = k.next e := rfl

/-- What holds at the start and is kept by whatever happens holds for ever. -/
theorem through_induction {P : Course → Prop} {k : Course} (hk : P k)
    (step : ∀ k x, P k → P (k.happen x)) (happenings : List Happening) :
    P (k.through happenings) := by
  induction happenings generalizing k with
  | nil => exact hk
  | cons x happenings ih => exact ih (step k x hk)

end Course

/-- The terms, the label, the security and the token of a listener stay as they are. -/
theorem Sheet.Step.bearings {l : Listener} {e : Event} {s : Sheet} (h : Sheet.Step l e s) :
    s.terms = l.toAcceptTerms ∧ s.label = l.label ∧ s.security = l.security ∧
      s.token = l.token := by
  cases h <;> exact ⟨rfl, rfl, rfl, rfl⟩

/-- So does what it listens on. -/
theorem Sheet.Step.site {l : Listener} {e : Event} {s : Sheet} (h : Sheet.Step l e s) :
    s.address = l.address ∧ s.transport = l.transport := by
  cases h <;> exact ⟨rfl, rfl⟩

end Diameter.Listener
