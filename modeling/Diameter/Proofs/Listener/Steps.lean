import Diameter.Proofs.Listener.Roster

/-!
# Events are paths of the roster

One lemma for each event: the roster of the listener goes along a path with the deeds of the
event. Everything about ownership then follows from the steps of the roster alone.
-/

namespace Diameter.Listener

/-! ## The wait closes nothing -/

theorem closes_begin (terms : Handshake.Terms) (now : Nat) (c : Connection) :
    (Handshake.begin terms now c).2.closes = c.closes := by
  unfold Handshake.begin
  cases terms.security <;> rfl

theorem closes_receive {c after : Connection} {result : Except ConnectionError Octets}
    (h : c.receive = some (result, after)) : after.closes = c.closes := by
  unfold Connection.receive at h
  split at h
  · cases h
    rfl
  · split at h
    · cases h
      rfl
    · cases h

theorem closes_takeMessage {terms : Handshake.Terms} {c after : Connection} {verdict : Verdict}
    (h : Handshake.takeMessage terms c = some (verdict, after)) :
    after.closes = c.closes := by
  unfold Handshake.takeMessage at h
  split at h
  · cases h
  all_goals
    rename_i hreceive
    cases h
    exact closes_receive hreceive

theorem closes_awaitMessage (terms : Handshake.Terms) (c : Connection) :
    (Handshake.awaitMessage terms c).2.closes = c.closes := by
  unfold Handshake.awaitMessage
  split
  · rename_i htake
    exact closes_takeMessage htake
  · rfl

theorem closes_awaitTls (terms : Handshake.Terms) (now done : Nat) (c : Connection) :
    (Handshake.awaitTls terms now done c).2.closes = c.closes := by
  unfold Handshake.awaitTls
  split
  · rfl
  · split
    · rfl
    · exact closes_awaitMessage terms (Handshake.askMessage c).2

theorem closes_progress (terms : Handshake.Terms) (now : Nat) (wait : Handshake.Wait)
    (c : Connection) : (Handshake.progress terms now wait c).2.closes = c.closes := by
  have hbegin := closes_begin terms now c
  unfold Handshake.progress
  cases wait with
  | turn =>
    dsimp only
    split
    · rename_i hb
      rw [hb] at hbegin
      exact (closes_awaitTls _ _ _ _).trans hbegin
    · rename_i hb
      rw [hb] at hbegin
      exact (closes_awaitMessage _ _).trans hbegin
  | tls done => exact closes_awaitTls _ _ _ _
  | message => exact closes_awaitMessage _ _

/-- A poll closes nothing. -/
theorem closes_poll (terms : Handshake.Terms) (now : Nat) (cancelled : Bool)
    (wait : Handshake.Wait) (c : Connection) :
    (Handshake.poll terms now cancelled wait c).2.closes = c.closes := by
  have hprogress := closes_progress terms now wait c
  unfold Handshake.poll
  split
  · rfl
  · split
    · rename_i hp
      rw [hp] at hprogress
      exact hprogress
    · rename_i hp
      rw [hp] at hprogress
      split <;> exact hprogress

/-- Standing where it stands, a handshake leaves the roster. -/
theorem Roster.put_self {r : Roster} {h : HandshakeId} {c : ConnectionId} {stand : Stand}
    (hr : r.places[h]? = some ⟨c, stand⟩) : r.put h stand = r := by
  have hplaces : r.places.modify h (fun x => { x with stand }) = r.places := by
    apply List.ext_getElem?
    intro i
    rw [List.getElem?_modify]
    by_cases hi : h = i
    · subst hi
      simp [hr]
    · simp [hi]
  rw [Roster.put, hplaces]

/-- A poll leaves the roster, as a handshake is pending until its claim. -/
theorem roster_pollSeeing (l : Listener) (h : HandshakeId) (cancelled : Bool) :
    (l.pollSeeing h cancelled).roster = l.roster := by
  unfold pollSeeing
  split
  · rename_i c deadline token wait hx
    split
    · rfl
    · rename_i connection hc
      have hplace : l.roster.places[h]? = some ⟨c, .pending⟩ := places_roster l hx
      have hsame := roster_modifyConnection l c
        (f := fun _ => (Handshake.poll ⟨l.security, l.codec, deadline⟩ l.now cancelled wait
          connection).2) fun x hcx => by
        rw [hc] at hcx
        cases hcx
        exact closes_poll _ _ _ _ _
      dsimp only
      split <;>
      · rw [roster_setPhase, hsame]
        exact Roster.put_self hplace
  · rfl

/-! ## The accept loop -/

/-- A failed accept drops what was coming. -/
theorem roster_failAccept (l : Listener) (e : SystemError) :
    (l.failAccept e).roster = l.roster.drop := by
  unfold failAccept
  dsimp only
  rw [roster_dropAcceptor, roster_trigger, roster_write]
  rfl

/-- A loop that breaks down drops what was coming. -/
theorem roster_breakLoop (l : Listener) (c : ConnectionId) :
    (l.breakLoop c).roster = l.roster.drop := by
  have hsame : (l.modifyConnection c Connection.release).roster = l.roster :=
    roster_modifyConnection l c fun _ _ => rfl
  rw [breakLoop, roster_dropAcceptor, hsame]

/-- Taking a result from the acceptor takes a connection from those that are coming, or
leaves them as they are. -/
theorem coming_of_backlog {l : Listener} {result : Except SystemError ConnectionId}
    {rest : List (Except SystemError ConnectionId)} (h : l.backlog = result :: rest) :
    l.roster.coming = result.toOption.toList ++ rest.filterMap Except.toOption := by
  rw [roster, h]
  cases result <;> rfl

/-- Taking the next connection does the deeds that are listed for it. -/
theorem path_acceptNext {l : Listener} (ha : l.acceptor = .accepting) :
    Roster.Path l.roster l.nextDeeds l.acceptNext.roster := by
  unfold acceptNext nextDeeds
  rcases hbacklog : l.backlog with _ | ⟨result, rest⟩
  · dsimp only
    split
    · rw [roster_failAccept]
      exact (Roster.Step.drop l.roster).path
    · exact .nil l.roster
  · have hcoming := coming_of_backlog hbacklog
    cases result with
    | ok c =>
      have hc : l.roster.coming = c :: rest.filterMap Except.toOption := hcoming
      unfold acceptResult
      dsimp only
      cases hdeadline : Clock.after? l.now l.timeout with
      | some deadline =>
        have hafter : Clock.after? ({ l with backlog := rest }.countAccepted).now
            ({ l with backlog := rest }.countAccepted).timeout = some deadline := hdeadline
        rw [hafter]
        dsimp only
        rw [roster_dispatch, roster_countAccepted]
        exact (Roster.Step.accept l.roster ha hc).path
      | none =>
        have hafter : Clock.after? ({ l with backlog := rest }.countAccepted).now
            ({ l with backlog := rest }.countAccepted).timeout = none := hdeadline
        rw [hafter]
        dsimp only
        rw [roster_breakLoop, roster_countAccepted]
        exact (Roster.Step.strand l.roster ha hc).path
    | error e =>
      have hsame : { l with backlog := rest }.roster = l.roster :=
        congrArg (fun coming => { l.roster with coming }) hcoming.symm
      unfold acceptResult
      dsimp only
      split
      · rw [roster_write, hsame]
        exact .nil l.roster
      · rw [roster_failAccept, hsame]
        exact (Roster.Step.drop l.roster).path

/-- A turn of the accept loop does the deeds that are listed for it. -/
theorem path_acceptSeeing (l : Listener) (cancelled : Bool) :
    Roster.Path l.roster (l.acceptDeeds cancelled) (l.acceptSeeing cancelled).roster := by
  unfold acceptDeeds acceptSeeing
  split
  · exact .nil l.roster
  · rename_i ha
    split
    · rw [roster_dropAcceptor]
      exact (Roster.Step.drop l.roster).path
    · exact path_acceptNext (Decidable.not_not.mp ha)

/-! ## The handshakes -/

/-- What follows the claim is not on the roster before the phase is. -/
theorem roster_afterClaim (l : Listener) (c : ConnectionId) (claimed : Bool)
    (decision : Handshake.Decision) : (l.afterClaim c claimed decision).2.roster = l.roster := by
  rcases decision with _ | _ | _ | _ <;> cases claimed <;> rfl

/-- A handshake that has left the set closes its connection, unless it left by itself. -/
theorem stand_afterClaim (l : Listener) (c : ConnectionId) (claimed : Bool)
    (decision : Handshake.Decision) :
    (∃ outcome, outcome ≠ .handedOff ∧
      (l.afterClaim c claimed decision).1.stand = .closing outcome) ∨
    (claimed = true ∧ (l.afterClaim c claimed decision).1.stand = .handing c) := by
  rcases decision with _ | m | reason | what
  · exact .inl ⟨.cancelled, by decide, rfl⟩
  · cases claimed
    · exact .inl ⟨.cancelled, by decide, rfl⟩
    · exact .inr ⟨rfl, rfl⟩
  · exact .inl ⟨.rejected reason, (by intro h; cases h), rfl⟩
  · exact .inl ⟨.fatal what, (by intro h; cases h), rfl⟩

theorem path_claim (l : Listener) (h : HandshakeId) :
    Roster.Path l.roster (l.claimDeeds h) (l.claim h).roster := by
  unfold claimDeeds claim
  rcases hx : l.handshakes[h]? with _ | ⟨c, deadline, token, phase⟩
  · exact .nil l.roster
  · cases phase with
    | leaving decision =>
      have hplace : l.roster.places[h]? = some ⟨c, .pending⟩ := places_roster l hx
      dsimp only
      rw [roster_setPhase, roster_afterClaim]
      by_cases hs : l.outstanding.contains h = true
      · have hmem : h ∈ l.roster.outstanding := List.contains_iff_mem.mp hs
        simp only [hs, if_true]
        rw [roster_showOutstanding]
        obtain ⟨outcome, ho, hstand⟩ | ⟨-, hstand⟩ := stand_afterClaim _ c true decision
        · rw [hstand]
          exact (Roster.Step.claimClosing l.roster hplace hmem ho).path
        · rw [hstand]
          exact (Roster.Step.claimHanding l.roster hplace hmem).path
      · have hmem : h ∉ l.roster.outstanding := fun hm => hs (List.contains_iff_mem.mpr hm)
        simp only [hs, if_false, Bool.false_eq_true]
        obtain ⟨outcome, ho, hstand⟩ | ⟨hclaimed, -⟩ := stand_afterClaim l c false decision
        · rw [hstand]
          exact (Roster.Step.yield l.roster hplace hmem ho).path
        · cases hclaimed
    | _ => exact .nil l.roster

theorem path_close (l : Listener) (h : HandshakeId) :
    Roster.Path l.roster (l.closeDeeds h) (l.close h).roster := by
  unfold closeDeeds close
  rcases hx : l.handshakes[h]? with _ | ⟨c, deadline, token, phase⟩
  · exact .nil l.roster
  · cases phase with
    | closing outcome late =>
      have hplace : l.roster.places[h]? = some ⟨c, .closing outcome⟩ := places_roster l hx
      have hstep {stand : Stand} (hs : stand = .raising ∨ stand = .ended outcome) :
          Roster.Step l.roster [.closed c]
            ((l.mapSurroundings (·.closeConnection c)).roster.put h stand) := by
        rw [roster_closeConnection]
        exact .close l.roster hplace hs
      cases outcome with
      | fatal what =>
        dsimp only
        rw [roster_setPhase]
        exact (hstep (.inl rfl)).path
      | _ =>
        dsimp only
        rw [roster_finish, roster_setPhase]
        exact (hstep (.inr rfl)).path
    | _ => exact .nil l.roster

/-- Raising an internal failure does nothing to the connections. -/
theorem path_raise (l : Listener) (h : HandshakeId) :
    Roster.Path l.roster [] (l.raise h).roster := by
  unfold raise
  rcases hx : l.handshakes[h]? with _ | ⟨c, deadline, token, phase⟩
  · exact .nil l.roster
  · cases phase with
    | raising what =>
      have hplace : l.roster.places[h]? = some ⟨c, .raising⟩ := places_roster l hx
      dsimp only
      rw [roster_finish, roster_setPhase, roster_trigger]
      exact (Roster.Step.raise l.roster hplace (fun ho => by cases ho)).path
    | _ => exact .nil l.roster

/-! ## The peer layer -/

theorem path_handOver (l : Listener) (h : HandshakeId) :
    Roster.Path l.roster (l.handOverDeeds h) (l.handOver h).roster := by
  unfold handOverDeeds handOver
  rcases hx : l.handshakes[h]? with _ | ⟨c, deadline, token, phase⟩
  · exact .nil l.roster
  · cases phase with
    | handing arrival =>
      have hplace : l.roster.places[h]? = some ⟨c, .handing arrival.connection⟩ :=
        places_roster l hx
      dsimp only
      cases l.peers with
      | keeper delay =>
        dsimp only
        rw [roster_setPhase]
        exact (Roster.Step.handOver l.roster hplace).path
      | events =>
        dsimp only
        rw [roster_setPhase]
        exact (Roster.Step.handOver l.roster hplace).path
    | _ => exact .nil l.roster

/-- Closing the connection of an arrival is a step, if there is such a connection. -/
theorem path_release {l after : Listener} (h : after.roster = l.roster) (c : ConnectionId) :
    Roster.Path l.roster (l.releaseDeeds c)
      (after.mapSurroundings (·.closeConnection c)).roster := by
  have hlength : l.roster.closes.length = l.connections.length := List.length_map ..
  rw [roster_closeConnection, h, releaseDeeds]
  split
  · rename_i hc
    exact (Roster.Step.release l.roster (hlength ▸ hc)).path
  · rename_i hc
    have hout : l.roster.closes.length ≤ c := hlength ▸ Nat.le_of_not_lt hc
    have hsame : l.roster.close c = l.roster := by
      rw [Roster.close, List.modify_eq_self hout]
    rw [hsame]
    exact .nil l.roster

/-- Giving woken handshakes their turn leaves the calls of the queue. -/
theorem callers_scheduleWoken (l : Listener) :
    l.scheduleWoken.events.callers = l.events.callers := by
  rw [scheduleWoken]
  dsimp only
  rw [toSurroundings_foldl_schedule]

theorem events_tell (l : Listener) (crossing : Option (Queue.Crossing String)) :
    (l.mapSurroundings (·.tell crossing)).events = l.events := by
  cases crossing <;> rfl

/-- What a call to the event queue has led to decides whether its connection is closed. -/
theorem path_stored {l after : Listener} {h : HandshakeId} {c : ConnectionId}
    (hroster : after.roster = l.roster) (hplace : l.roster.places[h]? = some ⟨c, .given⟩)
    (call : Option (Queue.Caller Arrival)) :
    Roster.Path l.roster
      (match call with
      | some ⟨_, .ended (.refused arrival _)⟩ => l.releaseDeeds arrival.connection
      | _ => [])
      (match call with
      | some ⟨_, .ended (.refused arrival e)⟩ => (after.discard arrival e).finish h .handedOff
      | some ⟨_, .ended _⟩ => after.finish h .handedOff
      | _ => after).roster := by
  have hcomplete : Roster.Path l.roster [] (after.finish h .handedOff).roster := by
    rw [roster_finish, roster_setPhase, hroster]
    exact (Roster.Step.complete l.roster hplace).path
  have hnothing : Roster.Path l.roster [] after.roster := hroster ▸ .nil l.roster
  rcases call with _ | ⟨request, stage⟩
  · exact hnothing
  · cases stage with
    | ended outcome =>
      cases outcome with
      | refused arrival e =>
        have hrelease : Roster.Path l.roster (l.releaseDeeds arrival.connection)
            (after.discard arrival e).roster :=
          path_release ((roster_write after _).trans hroster) arrival.connection
        have hplace' : (after.discard arrival e).roster.places[h]? = some ⟨c, .given⟩ := by
          rw [discard, roster_closeConnection, roster_write, hroster]
          exact hplace
        have hpath := hrelease.snoc (.complete _ hplace')
        rw [List.append_nil] at hpath
        dsimp only
        rw [roster_finish, roster_setPhase]
        exact hpath
      | _ => exact hcomplete
    | _ => exact hnothing

/-- The listener after the push of a handshake has gone on. -/
def afterRun (l : Listener) (caller : Queue.CallerId) : Listener :=
  let (events, crossing) := l.events.run caller l.now
  (({ l with events } : Listener).mapSurroundings (·.tell crossing)).scheduleWoken

theorem roster_afterRun (l : Listener) (caller : Queue.CallerId) :
    (l.afterRun caller).roster = l.roster := (roster_scheduleWoken _).trans (roster_tell _ _)

/-- The calls after a caller has run are those of the queue. -/
theorem callers_afterRun (l : Listener) (caller : Queue.CallerId) :
    (l.afterRun caller).events.callers = (l.events.run caller l.now).1.callers := by
  unfold afterRun
  rw [callers_scheduleWoken, events_tell]

/-- The handshake sees what has become of its push. -/
theorem completeHandOver_of_storing (l : Listener) {h : HandshakeId} {x : Accepted}
    (hx : l.handshakes[h]? = some x) {caller : Queue.CallerId}
    (hphase : x.phase = .storing caller) : l.completeHandOver h =
      match (l.afterRun caller).events.callers[caller]? with
      | some ⟨_, .ended (.refused arrival e)⟩ =>
        ((l.afterRun caller).discard arrival e).finish h .handedOff
      | some ⟨_, .ended _⟩ => (l.afterRun caller).finish h .handedOff
      | _ => l.afterRun caller := by
  obtain ⟨c, deadline, token, phase⟩ := x
  obtain rfl : phase = .storing caller := hphase
  unfold completeHandOver
  rw [hx]
  rfl

/-- Going on with a push does a deed only where the queue has refused the connection. -/
theorem completeDeeds_of_storing (l : Listener) {h : HandshakeId} {x : Accepted}
    (hx : l.handshakes[h]? = some x) {caller : Queue.CallerId}
    (hphase : x.phase = .storing caller) : l.completeDeeds h =
      match (l.afterRun caller).events.callers[caller]? with
      | some ⟨_, .ended (.refused arrival _)⟩ => l.releaseDeeds arrival.connection
      | _ => [] := by
  obtain ⟨c, deadline, token, phase⟩ := x
  obtain rfl : phase = .storing caller := hphase
  unfold completeDeeds
  rewrite [hx, callers_afterRun]
  rfl

/-- Going on with a push does the deeds that are listed for it. -/
theorem path_completeHandOver (l : Listener) (h : HandshakeId) :
    Roster.Path l.roster (l.completeDeeds h) (l.completeHandOver h).roster := by
  rcases hx : l.handshakes[h]? with _ | ⟨c, deadline, token, phase⟩
  · unfold completeDeeds completeHandOver
    rw [hx]
    exact .nil l.roster
  · cases phase with
    | storing caller =>
      have hplace : l.roster.places[h]? = some ⟨c, .given⟩ := places_roster l hx
      have hroster := l.roster_afterRun caller
      rw [completeDeeds_of_storing l hx rfl, completeHandOver_of_storing l hx rfl]
      generalize l.afterRun caller = after at hroster ⊢
      exact path_stored hroster hplace _
    | keeping arrival done =>
      have hplace : l.roster.places[h]? = some ⟨c, .given⟩ := places_roster l hx
      unfold completeDeeds completeHandOver
      rw [hx]
      dsimp only
      split
      · exact .nil l.roster
      · rw [roster_finish, roster_setPhase]
        exact (Roster.Step.complete l.roster hplace).path
    | _ =>
      unfold completeDeeds completeHandOver
      rw [hx]
      exact .nil l.roster

theorem path_popEvent (l : Listener) (discard : Bool) :
    Roster.Path l.roster (l.popDeeds discard) (l.popEvent discard).1.roster := by
  have htell (s : Surroundings) (crossing : Option (Queue.Crossing String)) :
      (s.tell crossing).connections = s.connections := by
    cases crossing <;> rfl
  have hsame : ∀ result surroundings, l.toSurroundings.popEvent = (result, surroundings) →
      ({ l with toSurroundings := surroundings } : Listener).roster = l.roster := by
    intro result surroundings hpop
    have hconnections : surroundings.connections = l.connections := by
      have hafter := congrArg (fun p => p.2.connections) hpop
      unfold Surroundings.popEvent at hafter
      dsimp only at hafter
      split at hafter
      all_goals exact hafter.symm.trans (htell _ _)
    exact congrArg (fun connections => { l.roster with
      closes := connections.map Connection.closes }) hconnections
  unfold popDeeds popEvent
  rcases hpop : l.toSurroundings.popEvent with ⟨result, surroundings⟩
  have hroster := hsame result surroundings hpop
  cases result with
  | error e =>
    dsimp only
    rw [hroster]
    exact .nil l.roster
  | ok arrival =>
    dsimp only
    have hwoken := (roster_scheduleWoken { l with toSurroundings := surroundings }).trans hroster
    split
    · exact path_release hwoken arrival.connection
    · rw [hwoken]
      exact .nil l.roster

/-! ## What comes from outside -/

/-- A client that connects is one more that is coming, or is refused. -/
theorem path_connect (l : Listener) (name description : String) (tls : TlsScript) :
    Roster.Path l.roster [] (l.act (.connect name description tls)).1.roster := by
  have hid : l.connections.length = l.roster.closes.length := (List.length_map ..).symm
  have hconnected (coming : List (Except SystemError ConnectionId)) :
      ({ l with
        connections := l.connections ++ [Connection.new name description tls]
        backlog := coming } : Listener).roster =
      { l.roster with
        coming := coming.filterMap Except.toOption, closes := l.roster.closes ++ [0] } := by
    simp [roster, Connection.new]
  dsimp only [act]
  unfold offer
  dsimp only
  split
  · have hrefused := (roster_modifyConnection _ l.connections.length
      (f := Connection.release) fun _ _ => rfl).trans (hconnected l.backlog)
    rw [hrefused]
    exact (Roster.Step.connect l.roster (.inl rfl)).path
  · have hcoming : (l.backlog ++ [Except.ok l.connections.length]).filterMap Except.toOption =
        l.roster.coming ++ [l.roster.closes.length] := by
      rw [List.filterMap_append, hid]
      rfl
    have hoffered := hconnected (l.backlog ++ [.ok l.connections.length])
    have hpath := hoffered ▸ (Roster.Step.connect l.roster (.inr hcoming)).path
    split
    · rw [roster_schedule]
      exact hpath
    · exact hpath

theorem roster_acceptError (l : Listener) (error : SystemError) :
    (l.offer (.error error)).1.roster = l.roster := by
  have hsame : ({ l with backlog := l.backlog ++ [.error error] } : Listener).roster =
      l.roster := by
    simp [roster, Except.toOption]
  unfold offer
  dsimp only
  split
  · rfl
  · split
    · exact (roster_schedule _ _).trans hsame
    · exact hsame

theorem roster_exhaust (l : Listener) : (l.act .dropAcceptor).1.roster = l.roster := by
  dsimp only [act]
  split
  · exact roster_schedule _ _
  · rfl

theorem roster_destroyEvents (l : Listener) :
    (l.act .destroyEvents).1.roster = l.roster := by
  dsimp only [act]
  split
  · rfl
  · exact roster_scheduleWoken _

theorem roster_conclude (l : Listener) (taken : List HandshakeId) :
    (l.conclude taken).roster = l.roster := by
  unfold conclude
  split <;> rfl

/-- Starting a listener does nothing to the connections. -/
theorem path_start (l : Listener) :
    Roster.Path l.roster [] l.start.2.roster := by
  unfold Listener.start
  split
  · rename_i hstart
    rw [roster_schedule]
    exact (Roster.Step.start l.roster hstart.1).path
  · dsimp only
    split
    · rw [roster_dropAcceptor]
      exact (Roster.Step.drop l.roster).path
    · exact .nil l.roster

/-- Draining drains everybody who is in the set. -/
theorem path_drain (l : Listener) :
    Roster.Path l.roster (l.outstanding.map .drained) l.drain.2.roster := by
  unfold drain
  dsimp only
  rw [roster_showOutstanding]
  split
  · have hdrained : ({ l.dropAcceptor with outstanding := [] } : Listener).roster =
        { l.roster.drop with outstanding := [] } :=
      congrArg (fun r => { r with outstanding := [] }) (roster_dropAcceptor l)
    rw [hdrained]
    exact (Roster.Step.drop l.roster).path.snoc (.drain l.roster.drop)
  · exact (Roster.Step.drain l.roster).path

/-- Every event takes the roster along a path, with its deeds. -/
theorem path_perform (l : Listener) (e : Event) :
    Roster.Path l.roster (l.deeds e) (l.perform e).roster := by
  have hsame {after : Listener} (h : after.roster = l.roster) :
      Roster.Path l.roster [] after.roster := h ▸ .nil l.roster
  cases e with
  | connect name description tls => exact path_connect l name description tls
  | acceptError error => exact hsame (roster_acceptError l error)
  | exhaust => exact hsame (roster_exhaust l)
  | deliver c result => exact hsame (roster_modifyConnection l c fun _ _ => rfl)
  | finishInbox c => exact hsame (roster_modifyConnection l c fun _ _ => rfl)
  | clock now => exact hsame rfl
  | trigger reason => exact hsame (roster_trigger l reason)
  | cancel token => exact hsame rfl
  | start => exact path_start l
  | accept overlooks => exact path_acceptSeeing l _
  | poll h overlooks => exact hsame (roster_pollSeeing l h _)
  | claim h => exact path_claim l h
  | close h => exact path_close l h
  | raise h => exact path_raise l h
  | handOver h => exact path_handOver l h
  | completeHandOver h => exact path_completeHandOver l h
  | popEvent discard => exact path_popEvent l discard
  | clearAlarm => exact hsame rfl
  | destroyEvents => exact hsame (roster_destroyEvents l)
  | cancelAll => exact hsame (roster_scheduleCancelled _)
  | drain => exact path_drain l
  | conclude taken => exact hsame (roster_conclude l taken)
  | join => exact hsame rfl
  | arrange runnable => exact hsame rfl
  | forget => exact hsame rfl

end Diameter.Listener
