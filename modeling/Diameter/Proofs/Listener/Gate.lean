import Diameter.Proofs.Listener.Sheet

/-!
# Who can accept

The gate of a listener is open while the accept loop holds the acceptor. Only a start opens it,
and only the accept loop, a start that fails and a stop shut it: no other event is about the
acceptor or about the accept loop that can be waited for. One round of the accept loop either
starts one handshake and leaves the gate open, or starts nobody.
-/

namespace Diameter.Listener

/-- Whether an event is a step of the accept loop or of a stop. -/
def Event.isStaged : Event → Bool
  | .accept _ | .cancelAll | .join | .drain | .conclude _ => true
  | _ => false

/-- Who holds the acceptor, and whether there is an accept loop that nobody has waited for. -/
def gate (l : Listener) : AcceptorState × Bool := (l.acceptor, l.hasLoop)

theorem gate_schedule (l : Listener) (task : Task) : (l.schedule task).gate = l.gate := by
  unfold schedule
  split <;> rfl

theorem gate_foldl_schedule (hs : List HandshakeId) (l : Listener) :
    (hs.foldl (fun l h => l.schedule (.handshake h)) l).gate = l.gate := by
  induction hs generalizing l with
  | nil => rfl
  | cons h hs ih => exact (ih _).trans (gate_schedule l _)

theorem gate_scheduleCancelled (l : Listener) : l.scheduleCancelled.gate = l.gate := by
  unfold scheduleCancelled
  dsimp only
  split
  · rw [gate_schedule, gate_foldl_schedule]
  · rw [gate_foldl_schedule]

theorem gate_trigger (l : Listener) (reason : ShutdownReason) :
    (l.trigger reason).2.gate = l.gate := by
  unfold trigger
  split
  · exact gate_scheduleCancelled _
  · rfl

theorem gate_scheduleWoken (l : Listener) : l.scheduleWoken.gate = l.gate :=
  gate_foldl_schedule _ _

theorem gate_tell (l : Listener) (crossing : Option (Queue.Crossing String)) :
    (l.mapSurroundings (·.tell crossing)).gate = l.gate := by
  cases crossing <;> rfl

theorem gate_offer (l : Listener) (result : Except SystemError ConnectionId) :
    (l.offer result).1.gate = l.gate := by
  unfold offer
  split
  · split <;> rfl
  · dsimp only
    split
    · exact gate_schedule _ _
    · rfl

/-- The loop lets go of the acceptor and stays. -/
theorem gate_dropAcceptor (l : Listener) : l.dropAcceptor.gate = (.dropped, l.hasLoop) := by
  have hlost (lost : List ConnectionId) (l : Listener) :
      (lost.foldl (fun l c => l.modifyConnection c Connection.release) l).hasLoop =
        l.hasLoop := by
    induction lost generalizing l with
    | nil => rfl
    | cons c lost ih => exact ih _
  exact congrArg (Prod.mk AcceptorState.dropped) (hlost _ l)

/-- A failure lets go of the acceptor. -/
theorem gate_failAccept (l : Listener) (e : SystemError) :
    (l.failAccept e).gate = (.dropped, l.hasLoop) := by
  unfold failAccept
  dsimp only
  rw [gate_dropAcceptor]
  exact congrArg (fun gate : AcceptorState × Bool => (AcceptorState.dropped, gate.2))
    (gate_trigger _ _)

theorem gate_dispatch (l : Listener) (c : ConnectionId) (deadline : Nat) :
    (l.dispatch c deadline).gate = l.gate := by
  unfold dispatch
  dsimp only
  rw [gate_schedule]
  rfl

theorem gate_pollSeeing (l : Listener) (h : HandshakeId) (cancelled : Bool) :
    (l.pollSeeing h cancelled).gate = l.gate := by
  unfold pollSeeing
  split
  · split
    · rfl
    · dsimp only
      split <;> rfl
  · rfl

theorem gate_claim (l : Listener) (h : HandshakeId) : (l.claim h).gate = l.gate := by
  have hafter (m : Listener) (c : ConnectionId) (claimed : Bool)
      (decision : Handshake.Decision) : (m.afterClaim c claimed decision).2.gate = m.gate := by
    rcases decision with _ | _ | _ | _ <;> cases claimed <;> rfl
  unfold claim
  split
  · dsimp only
    refine (hafter _ _ _ _).trans ?_
    split <;> rfl
  · rfl

theorem gate_close (l : Listener) (h : HandshakeId) : (l.close h).gate = l.gate := by
  unfold close
  split
  · dsimp only
    split <;> rfl
  · rfl

theorem gate_raise (l : Listener) (h : HandshakeId) : (l.raise h).gate = l.gate := by
  unfold raise
  split
  · exact gate_trigger _ _
  · rfl

theorem gate_handOver (l : Listener) (h : HandshakeId) : (l.handOver h).gate = l.gate := by
  unfold handOver
  split
  · split <;> rfl
  · rfl

theorem gate_completeHandOver (l : Listener) (h : HandshakeId) :
    (l.completeHandOver h).gate = l.gate := by
  have hgate (caller : Queue.CallerId) : (l.afterRun caller).gate = l.gate :=
    (gate_scheduleWoken _).trans (gate_tell _ _)
  rcases hx : l.handshakes[h]? with _ | ⟨c, deadline, token, phase⟩
  · unfold completeHandOver
    rw [hx]
  · cases phase with
    | storing caller =>
      have hafter := hgate caller
      rw [completeHandOver_of_storing l hx rfl]
      generalize l.afterRun caller = after at hafter ⊢
      split <;> exact hafter
    | keeping arrival done =>
      unfold completeHandOver
      rw [hx]
      dsimp only
      split <;> rfl
    | _ =>
      unfold completeHandOver
      rw [hx]

theorem gate_popEvent (l : Listener) (discard : Bool) : (l.popEvent discard).1.gate = l.gate := by
  unfold popEvent
  split
  · rfl
  · dsimp only
    split <;> exact gate_scheduleWoken _

theorem gate_destroyEvents (l : Listener) : (l.act .destroyEvents).1.gate = l.gate := by
  dsimp only [act]
  split
  · rfl
  · exact gate_scheduleWoken _

/-- A start opens the gate, or shuts it for good. A listener that has been started before stays
as it is. -/
theorem gate_start (l : Listener) : l.start.2.gate = l.gate ∨
    l.acceptor = .idle ∧ (l.start.2.acceptor = .accepting → l.start.2.hasLoop = true) := by
  unfold Listener.start
  split
  · rename_i hidle
    refine .inr ⟨hidle.1, fun _ => ?_⟩
    exact congrArg Prod.snd (gate_schedule _ _)
  · dsimp only
    split
    · rename_i hidle
      refine .inr ⟨hidle, fun ha => ?_⟩
      cases (congrArg Prod.fst (gate_dropAcceptor l)).symm.trans ha
    · exact .inl rfl

/-- Outside the accept loop, a start and a stop nothing is about the acceptor. -/
theorem gate_other (l : Listener) {e : Event} (he : e.isStaged = false) (hstart : e ≠ .start) :
    (l.perform e).gate = l.gate := by
  cases e with
  | connect name description tls => exact gate_offer _ _
  | acceptError error => exact gate_offer _ _
  | exhaust =>
    dsimp only [perform, act]
    split
    · exact gate_schedule _ _
    · rfl
  | trigger reason => exact gate_trigger l reason
  | start => exact absurd rfl hstart
  | accept overlooks => cases he
  | poll h overlooks => exact gate_pollSeeing l h _
  | claim h => exact gate_claim l h
  | close h => exact gate_close l h
  | raise h => exact gate_raise l h
  | handOver h => exact gate_handOver l h
  | completeHandOver h => exact gate_completeHandOver l h
  | popEvent discard => exact gate_popEvent l discard
  | destroyEvents => exact gate_destroyEvents l
  | cancelAll => cases he
  | drain => cases he
  | conclude taken => cases he
  | join => cases he
  | deliver c result => rfl
  | finishInbox c => rfl
  | clock now => rfl
  | cancel token => rfl
  | clearAlarm => rfl
  | arrange runnable => rfl
  | forget => rfl

/-- Outside the accept loop and a stop only a start is about the acceptor. -/
theorem gate_perform (l : Listener) {e : Event} (he : e.isStaged = false) :
    (l.perform e).gate = l.gate ∨ l.acceptor = .idle ∧
      ((l.perform e).acceptor = .accepting → (l.perform e).hasLoop = true) := by
  cases e with
  | start => exact gate_start l
  | _ => exact .inl (gate_other l he nofun)

/-- What one round of the accept loop leads to. -/
inductive Round (l after : Listener) : Prop
  /-- Nobody is started, and the gate may be shut. -/
  | idle (gate : after.gate = l.gate ∨ after.gate = (.dropped, l.hasLoop))
      (handshakes : after.handshakes = l.handshakes)
      (outstanding : after.outstanding = l.outstanding)
  /-- A handshake is started, and the gate stays open. -/
  | dispatched (accepts : l.acceptor = .accepting) (gate : after.gate = l.gate)
      (handshakes : after.handshakes.length = l.handshakes.length + 1)
      (outstanding : after.outstanding = l.outstanding ++ [l.handshakes.length])

/-- A round may end in a failure. -/
theorem round_failAccept {l before : Listener} (hloop : before.hasLoop = l.hasLoop)
    (hhandshakes : before.handshakes = l.handshakes)
    (houtstanding : before.outstanding = l.outstanding) (e : SystemError) :
    Round l (before.failAccept e) := by
  have hsheet := sheet_failAccept before e
  exact .idle (.inr (hloop ▸ gate_failAccept before e))
    ((congrArg Sheet.handshakes hsheet).trans hhandshakes)
    ((congrArg Sheet.outstanding hsheet).trans houtstanding)

/-- A round may end with the loop letting go of the acceptor. -/
theorem round_dropAcceptor {l before : Listener} (hloop : before.hasLoop = l.hasLoop)
    (hhandshakes : before.handshakes = l.handshakes)
    (houtstanding : before.outstanding = l.outstanding) : Round l before.dropAcceptor := by
  have hsheet := sheet_dropAcceptor before
  exact .idle (.inr (hloop ▸ gate_dropAcceptor before))
    ((congrArg Sheet.handshakes hsheet).trans hhandshakes)
    ((congrArg Sheet.outstanding hsheet).trans houtstanding)

/-- Taking the next connection is a round. -/
theorem round_acceptNext {l : Listener} (ha : l.acceptor = .accepting) : Round l l.acceptNext := by
  unfold acceptNext
  rcases hbacklog : l.backlog with _ | ⟨result, rest⟩
  · dsimp only
    split
    · exact round_failAccept rfl rfl rfl _
    · exact .idle (.inl rfl) rfl rfl
  · cases result with
    | ok c =>
      dsimp only [acceptResult]
      split
      · rename_i deadline _
        have hsheet := sheet_dispatch ({ l with backlog := rest }.countAccepted) c deadline
        refine .dispatched ha (gate_dispatch _ _ _) ?_ (congrArg Sheet.outstanding hsheet)
        exact (congrArg (fun s => s.handshakes.length) hsheet).trans List.length_append
      · exact round_dropAcceptor rfl rfl rfl
    | error e =>
      dsimp only [acceptResult]
      split
      · exact .idle (.inl rfl) rfl rfl
      · exact @round_failAccept l { l with backlog := rest } rfl rfl rfl e

/-- Whatever the loop sees of its token, it makes a round. -/
theorem round_acceptSeeing (l : Listener) (cancelled : Bool) :
    Round l (l.acceptSeeing cancelled) := by
  unfold acceptSeeing
  split
  · exact .idle (.inl rfl) rfl rfl
  · rename_i ha
    split
    · exact round_dropAcceptor rfl rfl rfl
    · exact round_acceptNext (Decidable.not_not.mp ha)

/-- Only the accept loop puts entries into the set. -/
theorem mem_outstanding_of_perform {l : Listener} {e : Event}
    (he : ∀ overlooks, e ≠ .accept overlooks) {h : HandshakeId}
    (hm : h ∈ (l.perform e).outstanding) : h ∈ l.outstanding := by
  have hstep := sheet_perform l e
  have hm : h ∈ (l.perform e).sheet.outstanding := hm
  generalize (l.perform e).sheet = s at hstep hm
  cases hstep with
  | failed ha _ _ => exact absurd rfl (he _)
  | dispatched ha _ => exact absurd rfl (he _)
  | drained => cases hm
  | claimed hx hp => exact (List.mem_filter.mp hm).1
  | _ => exact hm

end Diameter.Listener
