import Diameter.Proofs.Listener.Sheet
import Diameter.Proofs.Message.Blame
import Diameter.Proofs.Shutdown.Tokens

/-!
# No client stops the daemon

With a codec that always puts the blame on the peer no handshake comes to a failure of our
own, whatever its far end does and whatever happens around the listener. Then handshakes leave
the status and the shutdown alone, and of all that a listener does by itself only an accept
loop that cannot go on raises the shutdown.
-/

namespace Diameter.Listener

/-- The handshake in this phase has not failed on our side. -/
def Phase.Blameless : Phase → Prop
  | .leaving (.judged (.failed _)) | .closing (.fatal _) _ | .raising _ | .ended (.fatal _) => False
  | _ => True

/-- The handshake that an event is about. -/
def Event.handshake? : Event → Option HandshakeId
  | .poll h _ | .claim h | .close h | .raise h | .handOver h | .completeHandOver h => some h
  | _ => none

/-- All handshakes are blameless, and the codec is dependable. -/
structure Sheet.Blameless (s : Sheet) : Prop where
  /-- The codec never fails by itself. -/
  codec : s.terms.codec.Dependable
  /-- No handshake has failed on our side. -/
  phases : ∀ x ∈ s.handshakes, x.phase.Blameless

/-! ## Each step is blameless -/

/-- What progress is made ends in no failure of our own. -/
theorem progress_ne_failed {terms : Handshake.Terms} (hcodec : terms.codec.Dependable)
    (now : Nat) (wait : Handshake.Wait) (c : Connection) (what : String) :
    (Handshake.progress terms now wait c).1 ≠ .inr (.failed what) := by
  have hmessage (c : Connection) : (Handshake.awaitMessage terms c).1 ≠ .inr (.failed what) := by
    unfold Handshake.awaitMessage Handshake.takeMessage
    cases hreceive : c.receive with
    | none => simp
    | some received =>
      obtain ⟨result, after⟩ := received
      cases result with
      | error e => simp
      | ok frame => simpa using hcodec.judge_ne_failed frame what
  have htls (done : Nat) (c : Connection) :
      (Handshake.awaitTls terms now done c).1 ≠ .inr (.failed what) := by
    unfold Handshake.awaitTls
    split
    · simp
    · split
      · simp
      · exact hmessage _
  unfold Handshake.progress
  cases wait with
  | turn =>
    dsimp only
    split
    · exact htls _ _
    · exact hmessage _
  | tls done => exact htls _ _
  | message => exact hmessage _

/-- A poll of a dependable codec leads to no phase that blames it. -/
theorem blameless_ofPoll {terms : Handshake.Terms} (hcodec : terms.codec.Dependable) (now : Nat)
    (cancelled : Bool) (wait : Handshake.Wait) (c : Connection) :
    (Phase.ofPoll (Handshake.poll terms now cancelled wait c).1).Blameless := by
  unfold Handshake.poll
  split
  · trivial
  · have hprogress := progress_ne_failed hcodec now wait c
    rcases hp : Handshake.progress terms now wait c with ⟨verdict | verdict, after⟩
    · dsimp only
      split <;> trivial
    · cases verdict with
      | failed what => exact absurd (congrArg Prod.fst hp) (hprogress what)
      | _ => trivial

/-- What a handshake moves on to is blameless. -/
theorem Accepted.Step.blameless {l : Listener} {h : HandshakeId} {x : Accepted} {e : Event}
    {phase : Phase} (hs : x.Step l h e phase) (hcodec : l.codec.Dependable)
    (hx : x.phase.Blameless) : phase.Blameless := by
  cases hs with
  | poll hp hc => exact blameless_ofPoll hcodec _ _ _ _
  | @close outcome late hp ho =>
    cases outcome with
    | fatal what => exact absurd rfl (ho what)
    | _ => trivial
  | fail hp =>
    rw [hp] at hx
    exact hx.elim
  | _ => trivial

/-- Leaving the set with a decision that blames nobody blames nobody. -/
theorem blameless_afterClaim (l : Listener) (c : ConnectionId) (claimed : Bool)
    {decision : Handshake.Decision} (h : (Phase.leaving decision).Blameless) :
    (l.afterClaim c claimed decision).1.Blameless := by
  rcases decision with _ | _ | _ | what
  · trivial
  · cases claimed <;> trivial
  · trivial
  · exact h.elim

/-- The phases of a sheet are blameless with one of them changed. -/
theorem Sheet.Blameless.setPhase {s : Sheet} (hs : s.Blameless) (h : HandshakeId) {phase : Phase}
    (hp : phase.Blameless) : (s.setPhase h phase).Blameless := by
  refine ⟨hs.codec, fun x hx => ?_⟩
  obtain ⟨i, hi⟩ := List.mem_iff_getElem?.mp hx
  simp only [Sheet.setPhase, List.getElem?_modify] at hi
  rcases hget : s.handshakes[i]? with _ | y
  · simp [hget] at hi
  · rw [hget] at hi
    by_cases hih : h = i
    · obtain rfl : { y with phase := phase } = x := by simpa [hih] using hi
      exact hp
    · obtain rfl : y = x := by simpa [hih] using hi
      exact hs.phases y (List.mem_of_getElem? hget)

/-- Every step keeps all handshakes blameless. -/
theorem Sheet.Step.blameless {l : Listener} {e : Event} {s : Sheet} (hs : Sheet.Step l e s)
    (hl : l.sheet.Blameless) : s.Blameless := by
  have hphase {h : HandshakeId} {x : Accepted} (hx : l.handshakes[h]? = some x) :
      x.phase.Blameless := hl.phases x (List.mem_of_getElem? hx)
  cases hs with
  | dispatched ha hd =>
    refine ⟨hl.codec, fun x hx => ?_⟩
    rcases List.mem_append.mp hx with hx | hx
    · exact hl.phases x hx
    · rw [List.mem_singleton.mp hx]
      trivial
  | @claimed h x decision hx hp =>
    have hleft := hphase hx
    rw [hp] at hleft
    have hleave : (l.sheet.leave h).Blameless := ⟨hl.codec, hl.phases⟩
    exact hleave.setPhase h (blameless_afterClaim l _ _ hleft)
  | raised hx hp =>
    have hraising := hphase hx
    rw [hp] at hraising
    exact hraising.elim
  | moved hx hs => exact hl.setPhase _ (hs.blameless hl.codec (hphase hx))
  | _ => exact ⟨hl.codec, hl.phases⟩

/-! ## Who changes the status and the shutdown -/

/-- Accepting fails for good at this event. -/
def FailsAt (l : Listener) (e : Event) : Prop :=
  ∃ overlooks error, e = .accept overlooks ∧ l.acceptor = .accepting ∧
    l.nextError? = some error ∧ error.isTransient = false

/-- A blameless handshake leaves the status and the shutdown alone. -/
theorem Sheet.Step.unmoved {l : Listener} {e : Event} {s : Sheet} (hs : Sheet.Step l e s)
    (hl : l.sheet.Blameless) (he : e.handshake?.isSome) :
    s.status = l.status ∧ s.shutdown = l.shutdown := by
  cases hs with
  | raised hx hp =>
    have hraising := hl.phases _ (List.mem_of_getElem? hx)
    rw [hp] at hraising
    exact hraising.elim
  | same => exact ⟨rfl, rfl⟩
  | claimed hx hp => exact ⟨rfl, rfl⟩
  | moved hx hs => exact ⟨rfl, rfl⟩
  | _ => cases he

/-- The shutdown of a blameless listener is raised by others, or because accepting fails for
good. -/
theorem Sheet.Step.raised_by {l : Listener} {e : Event} {s : Sheet} (hs : Sheet.Step l e s)
    (hl : l.sheet.Blameless) {reason : ShutdownReason} (hnone : l.shutdown.reason = none)
    (hr : s.shutdown.reason = some reason) :
    e = .trigger reason ∨ l.FailsAt e ∧ reason = .listenerFailed l.label := by
  have hsame {t : Shutdown} (ht : t.reason = l.shutdown.reason) : t.reason ≠ some reason := by
    rw [ht, hnone]
    simp
  cases hs with
  | triggered =>
    rw [Shutdown.reason_trigger, hnone] at hr
    cases hr
    exact .inl rfl
  | @failed overlooks error ha he ht =>
    rw [Shutdown.reason_trigger, hnone] at hr
    cases hr
    exact .inr ⟨⟨overlooks, error, rfl, ha, he, ht⟩, rfl⟩
  | raised hx hp =>
    have hraising := hl.phases _ (List.mem_of_getElem? hx)
    rw [hp] at hraising
    exact hraising.elim
  | _ => exact absurd hr (hsame rfl)

/-- A listener fails only because accepting fails for good. -/
theorem Sheet.Step.failed_by {l : Listener} {e : Event} {s : Sheet} (hs : Sheet.Step l e s)
    (hl : l.status ≠ .failed) (hf : s.status = .failed) : l.FailsAt e := by
  cases hs with
  | @failed overlooks error ha he ht => exact ⟨overlooks, error, rfl, ha, he, ht⟩
  | started => cases hf
  | concluded => cases hf
  | _ => exact absurd hf hl

namespace Course

/-- Whatever happens to a listener with a dependable codec, and around it, it stays
blameless. -/
theorem blameless_through {address : String} {transport : Transport} {security : Security}
    {terms : AcceptTerms} (hcodec : terms.codec.Dependable) (surroundings : Surroundings)
    (happenings : List Happening) :
    ((start address transport security terms surroundings).through
      happenings).listener.sheet.Blameless := by
  have hstart : (start address transport security terms surroundings).listener.sheet.Blameless := by
    refine ⟨hcodec, fun x hx => ?_⟩
    cases hx
  refine through_induction (P := fun k => k.listener.sheet.Blameless) hstart
    (fun k x hk => ?_) happenings
  · cases x with
    | own e => exact (sheet_perform k.listener e).blameless hk
    | around surroundings => exact ⟨hk.codec, hk.phases⟩

/-- For every dictionary, every listener that judges by it, and whatever its clients, other
listeners, the daemon and the peer layer do: a handshake that has ended was handed off,
rejected or cancelled, and none is about to stop the daemon; no step of a handshake changes
the status or the shutdown; the first reason of a shutdown comes from outside, or from an
accept loop that met an error which is not transient, and only such an error makes the
listener fail. For every frame and message the codec blames the peer, never itself. -/
theorem no_client_stops_the_daemon (d : Dictionary) (address : String) (transport : Transport)
    (security : Security) (timeout : Nat) (peers : PeerLayer) (surroundings : Surroundings)
    (happenings : List Happening) :
    let l := ((start address transport security ⟨timeout, .ofDictionary d, peers⟩
      surroundings).through happenings).listener
    (∀ x ∈ l.handshakes, (∀ what, x.phase ≠ .raising what) ∧
      ∀ outcome, x.phase = .ended outcome →
        outcome = .handedOff ∨ (∃ reason, outcome = .rejected reason) ∨ outcome = .cancelled) ∧
    (∀ e, e.handshake?.isSome →
      (l.perform e).status = l.status ∧ (l.perform e).shutdown = l.shutdown) ∧
    (∀ e reason, l.shutdown.reason = none → (l.perform e).shutdown.reason = some reason →
      e = .trigger reason ∨ l.FailsAt e ∧ reason = .listenerFailed l.label) ∧
    (∀ e, l.status ≠ .failed → (l.perform e).status = .failed → l.FailsAt e) ∧
    (∀ frame e, (Codec.ofDictionary d).parse frame = .error e → ∀ text, e ≠ .internal text) ∧
    ∀ m e, (Codec.ofDictionary d).validate m = .error e → ∀ text, e ≠ .internal text := by
  intro l
  have hcodec := Codec.dependable_ofDictionary d
  have hl : l.sheet.Blameless := blameless_through hcodec surroundings happenings
  have hinternal {e : MessageError} (he : e.isFatal = false) (text : String) :
      e ≠ .internal text := by
    rintro rfl
    cases he
  refine ⟨fun x hx => ⟨fun what hp => ?_, fun outcome hp => ?_⟩, fun e he => ?_,
    fun e reason hnone hr => ?_, fun e hn hf => ?_, fun frame e h => ?_, fun m e h => ?_⟩
  · have hblame := hl.phases x hx
    rw [hp] at hblame
    exact hblame
  · have hblame := hl.phases x hx
    rw [hp] at hblame
    cases outcome with
    | handedOff => exact .inl rfl
    | rejected reason => exact .inr (.inl ⟨reason, rfl⟩)
    | cancelled => exact .inr (.inr rfl)
    | fatal what => exact hblame.elim
  · exact (sheet_perform l e).unmoved hl he
  · exact (sheet_perform l e).raised_by hl hnone hr
  · exact (sheet_perform l e).failed_by hn hf
  · exact hinternal (hcodec.parse frame e h)
  · exact hinternal (hcodec.validate m e h)

/-- A client sends three octets and goes; then the acceptor fails for good. -/
def threeOctets : List Happening :=
  [.own .start, .own (.connect "c" "d" ⟨0, none⟩), .own (.accept false),
    .own (.deliver 0 (.ok [1, 2, 3])), .own (.finishInbox 0), .own (.poll 0 false),
    .own (.claim 0), .own (.close 0), .own .exhaust]

/-- A client whose frame is three octets long is rejected, and nothing is raised over it. The
acceptor that fails after that does end the listener and raises a shutdown. -/
theorem three_octets_are_rejected :
    let l := ((start "a" .tcp .clear ⟨1000, .ofDictionary .base, .events⟩ (.new 0)).through
      threeOctets).listener
    (∃ x ∈ l.handshakes, ∃ reason, x.phase = .ended (.rejected reason) ∧
        HandshakeOutcome.rejected reason ≠ .fatal "") ∧
      (l.perform (.raise 0)).shutdown = l.shutdown ∧
      (l.perform (.accept false)).status = .failed ∧
      (l.perform (.accept false)).shutdown.reason = some (.listenerFailed l.label) ∧
      l.FailsAt (.accept false) ∧
      (Codec.ofDictionary .base).parse [1, 2, 3] = .error (.malformed .shortFrame) ∧
      MessageError.malformed .shortFrame ≠ .internal "" := by
  intro l
  obtain ⟨hended, hhandshake, hraised, -, hparse, -⟩ := no_client_stops_the_daemon .base "a"
    .tcp .clear 1000 .events (.new 0) threeOctets
  have hstands : l.handshakes.map (fun x => x.phase.stand) =
      [.ended (.rejected (.parse "malformed message: frame shorter than the header"))] := by
    decide +kernel
  obtain ⟨x, hx, hstand⟩ : ∃ x ∈ l.handshakes, x.phase.stand =
      .ended (.rejected (.parse "malformed message: frame shorter than the header")) := by
    refine List.mem_map.mp ?_
    rw [hstands]
    exact List.mem_singleton_self _
  have hafter : (l.perform (.accept false)).status = .failed := by decide +kernel
  have hreason : (l.perform (.accept false)).shutdown.reason = some (.listenerFailed l.label) := by
    decide +kernel
  have hshort : (Codec.ofDictionary .base).parse [1, 2, 3] = .error (.malformed .shortFrame) := rfl
  refine ⟨⟨x, hx, ?_⟩, (hhandshake (.raise 0) rfl).2, hafter, hreason, ?_, hshort,
    hparse _ _ hshort ""⟩
  · cases hphase : x.phase with
    | ended outcome =>
      rw [hphase] at hstand
      cases hstand
      rcases (hended x hx).2 _ hphase with h | ⟨reason, hreason⟩ | h
      · cases h
      · exact ⟨_, rfl, by simp⟩
      · cases h
    | _ => simp [Phase.stand, hphase] at hstand
  · exact ((hraised (.accept false) _ (by decide +kernel) hreason).resolve_left (by simp)).1

end Course

end Diameter.Listener
