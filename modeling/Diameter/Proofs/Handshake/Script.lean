import Mathlib.Tactic.Common
import Diameter.Handshake.Basic

/-!
# What a far end does and what comes of it

A script says how a far end behaves until its first message: the TLS handshake, then a frame
or an error and when it can be received. From the script, the terms and the time at which the
connection was accepted follows when the wait would be over by itself and with which verdict,
and so what is decided if nobody cancels the wait.

Time is kept by whoever gives the wait its turns. Nothing is assumed about when turns come,
except that the clock does not pass a point in time at which the wait has something to do.
-/

namespace Diameter.Handshake

/-- How a far end behaves until its first message. -/
structure Script where
  /-- The TLS handshake. -/
  tls : TlsScript
  /-- From when on something can be received, and what. -/
  message : Option (Nat × Except ConnectionError Octets)

namespace Script

/-- What can be received at a point in time. -/
def offer? (s : Script) (now : Nat) : Option (Except ConnectionError Octets) :=
  match s.message with
  | some (time, result) => if time ≤ now then some result else none
  | none => none

/-- The connection is as the script has it. -/
def ShownBy (s : Script) (now : Nat) (c : Connection) : Prop :=
  c.tls = s.tls ∧ c.receive.map Prod.fst = s.offer? now

instance (s : Script) (now : Nat) (c : Connection) : Decidable (s.ShownBy now c) :=
  inferInstanceAs (Decidable (c.tls = s.tls ∧ c.receive.map Prod.fst = s.offer? now))

/-- What is made of something received. -/
def classify (codec : Codec) : Except ConnectionError Octets → Verdict
  | .error e => .rejected (.receive e.message)
  | .ok frame => codec.judge frame

/-- When something is received by somebody who asks from the given time on, and what is made
of it. -/
def receipt? (s : Script) (codec : Codec) (asked : Nat) : Option (Nat × Verdict) :=
  s.message.map fun (time, result) => (max asked time, classify codec result)

/-- When the wait would be over by itself, and with which verdict. -/
def result? (s : Script) (security : Security) (codec : Codec) (accepted : Nat) :
    Option (Nat × Verdict) :=
  match security with
  | .clear => s.receipt? codec accepted
  | .tls =>
    let done := accepted + s.tls.delay
    match s.tls.failure with
    | some e => some (done, .rejected (.tlsFailed e.message))
    | none => s.receipt? codec done

/-- What the wait comes to if nobody cancels it. -/
def judged (s : Script) (terms : Terms) (accepted : Nat) : Verdict :=
  match s.result? terms.security terms.codec accepted with
  | some (time, verdict) => if time ≤ terms.deadline then verdict else .rejected .timeout
  | none => .rejected .timeout

/-- What is decided. `seen` tells that the turn which decides sees a cancellation. -/
def decision (s : Script) (terms : Terms) (accepted : Nat) (seen : Bool) : Decision :=
  if seen then .cancelled else .judged (s.judged terms accepted)

/-- The wait has something to do at a point in time. -/
def Due (s : Script) (deadline now : Nat) : Wait → Prop
  | .turn => True
  | .tls done => done ≤ now ∨ deadline ≤ now
  | .message => (s.offer? now).isSome ∨ deadline ≤ now

instance (s : Script) (deadline now : Nat) : (wait : Wait) → Decidable (s.Due deadline now wait)
  | .turn => .isTrue trivial
  | .tls done => inferInstanceAs (Decidable (done ≤ now ∨ deadline ≤ now))
  | .message => inferInstanceAs (Decidable ((s.offer? now).isSome ∨ deadline ≤ now))

/-! ## Where a wait is that was never late -/

/-- What the wait waits for at a time, if it was accepted at another one and has had its turns
when it had something to do. -/
structure OnSchedule (s : Script) (terms : Terms) (accepted now : Nat) (wait : Wait) : Prop where
  /-- Time goes on. -/
  since : accepted ≤ now
  /-- The deadline has not passed. -/
  within : now ≤ terms.deadline
  /-- Nothing came before. -/
  nothing : ∀ time verdict, s.result? terms.security terms.codec accepted = some (time, verdict) →
    now ≤ time
  /-- The wait has its first turn at once. -/
  turn : wait = .turn → now = accepted
  /-- The TLS handshake was started at once. -/
  tls : ∀ done, wait = .tls done →
    terms.security = .tls ∧ done = accepted + s.tls.delay ∧ now ≤ done
  /-- A message is asked for once there is no TLS handshake to wait for. -/
  message : wait = .message → terms.security = .tls →
    s.tls.failure = none ∧ accepted + s.tls.delay ≤ now

variable {s : Script} {terms : Terms} {accepted now : Nat}

/-- A script offers its message once the time of the message has come. -/
theorem offer?_eq_some_iff {result : Except ConnectionError Octets} :
    s.offer? now = some result ↔ ∃ time, s.message = some (time, result) ∧ time ≤ now := by
  unfold offer?
  rcases s.message with _ | ⟨time, first⟩
  · simp
  · by_cases h : time ≤ now
    · simp [h]
    · simp [h]

/-- Nothing is there before the time of the message. -/
theorem lt_of_offer?_eq_none {time : Nat} {result : Except ConnectionError Octets}
    (hm : s.message = some (time, result)) (h : s.offer? now = none) : now < time := by
  by_contra hle
  have hsome := offer?_eq_some_iff.mpr ⟨time, hm, Nat.le_of_not_lt hle⟩
  rw [h] at hsome
  cases hsome

/-- When a message is asked for, if the TLS handshake does not fail. -/
def asked (s : Script) (security : Security) (accepted : Nat) : Nat :=
  match security with
  | .clear => accepted
  | .tls => accepted + s.tls.delay

theorem le_asked (s : Script) (security : Security) (accepted : Nat) :
    accepted ≤ s.asked security accepted := by
  cases security with
  | clear => exact Nat.le_refl _
  | tls => exact Nat.le_add_right _ _

/-- A script whose TLS fails ends with that failure. -/
theorem result?_of_failure {security : Security} {codec : Codec} {e : ConnectionError}
    (hs : security = .tls) (hf : s.tls.failure = some e) :
    s.result? security codec accepted =
      some (s.asked security accepted, .rejected (.tlsFailed e.message)) := by
  subst hs
  simp only [result?, hf, asked]

/-- A script without a failure of TLS ends with its message. -/
theorem result?_of_no_failure {security : Security} {codec : Codec}
    (hf : security = .tls → s.tls.failure = none) :
    s.result? security codec accepted = s.receipt? codec (s.asked security accepted) := by
  cases security with
  | clear => rfl
  | tls => simp only [result?, hf rfl, asked]

/-- A message is judged when it is there and was asked for, whichever is later. -/
theorem receipt?_eq_some_iff {codec : Codec} {asked time : Nat} {verdict : Verdict} :
    s.receipt? codec asked = some (time, verdict) ↔
      ∃ first result, s.message = some (first, result) ∧ max asked first = time ∧
        classify codec result = verdict := by
  simp [receipt?, Option.map_eq_some_iff]

/-- Nothing comes of a connection before a message could be asked for. -/
theorem asked_le_of_result? {security : Security} {codec : Codec} {time : Nat}
    {verdict : Verdict} (h : s.result? security codec accepted = some (time, verdict)) :
    s.asked security accepted ≤ time := by
  have hreceipt (hf : security = .tls → s.tls.failure = none) :
      s.asked security accepted ≤ time := by
    rw [result?_of_no_failure hf] at h
    obtain ⟨first, result, -, rfl, -⟩ := receipt?_eq_some_iff.mp h
    exact Nat.le_max_left _ _
  cases hs : security with
  | clear => exact hs ▸ hreceipt fun ht => by cases hs.symm.trans ht
  | tls =>
    cases hf : s.tls.failure with
    | none => exact hs ▸ hreceipt fun _ => hf
    | some e =>
      rw [result?_of_failure hs hf] at h
      obtain ⟨rfl, -⟩ := Prod.mk.inj (Option.some.inj h)
      exact Nat.le_of_eq (by rw [hs])

/-- A connection that is accepted has its first turn to come. -/
theorem onSchedule_turn (s : Script) {terms : Terms} {accepted : Nat}
    (h : accepted ≤ terms.deadline) : s.OnSchedule terms accepted accepted .turn where
  since := Nat.le_refl _
  within := h
  nothing _ _ hr := Nat.le_trans (s.le_asked _ _) (asked_le_of_result? hr)
  turn _ := rfl
  tls _ h := by cases h
  message h := by cases h

/-! ## Time passes -/

/-- A deadline that the clock does not pass is kept. -/
theorem OnSchedule.within_later {wait : Wait} (h : s.OnSchedule terms accepted now wait)
    {later : Nat} (hdue : ∀ time, now ≤ time → time < later → ¬ s.Due terms.deadline time wait) :
    later ≤ terms.deadline := by
  by_contra hlt
  refine hdue terms.deadline h.within (Nat.lt_of_not_le hlt) ?_
  cases wait with
  | turn => trivial
  | tls done => exact .inr (Nat.le_refl _)
  | message => exact .inr (Nat.le_refl _)

/-- A message that the clock does not pass is there in time. -/
theorem OnSchedule.nothing_later {wait : Wait} (h : s.OnSchedule terms accepted now wait)
    {later : Nat} (hdue : ∀ time, now ≤ time → time < later → ¬ s.Due terms.deadline time wait)
    {time : Nat} {verdict : Verdict}
    (hr : s.result? terms.security terms.codec accepted = some (time, verdict)) :
    later ≤ time := by
  have hnow := h.nothing time verdict hr
  by_contra hlt
  cases wait with
  | turn => exact hdue now (Nat.le_refl _) (by omega) trivial
  | tls done =>
    obtain ⟨hsecurity, rfl, hdone⟩ := h.tls done rfl
    have hasked := asked_le_of_result? hr
    rw [hsecurity] at hasked
    exact hdue _ hdone (Nat.lt_of_le_of_lt hasked (Nat.lt_of_not_le hlt)) (.inl (Nat.le_refl _))
  | message =>
    rw [result?_of_no_failure fun hs => (h.message rfl hs).1] at hr
    obtain ⟨first, result, hm, rfl, -⟩ := receipt?_eq_some_iff.mp hr
    refine hdue (max now first) (Nat.le_max_left _ _) (by omega) (.inl ?_)
    rw [offer?_eq_some_iff.mpr ⟨first, hm, Nat.le_max_right _ _⟩]
    rfl

/-- Time that passes nothing that the wait has to do keeps the wait on schedule. -/
theorem OnSchedule.later {wait : Wait} (h : s.OnSchedule terms accepted now wait) {later : Nat}
    (hl : now ≤ later)
    (hdue : ∀ time, now ≤ time → time < later → ¬ s.Due terms.deadline time wait) :
    s.OnSchedule terms accepted later wait where
  since := Nat.le_trans h.since hl
  within := h.within_later hdue
  nothing _ _ hr := h.nothing_later hdue hr
  turn hw := by
    subst hw
    by_contra hne
    have hstart := h.turn rfl
    exact hdue now (Nat.le_refl _) (by omega) trivial
  tls done hw := by
    subst hw
    obtain ⟨hsecurity, hdone, hnow⟩ := h.tls done rfl
    refine ⟨hsecurity, hdone, ?_⟩
    by_contra hlt
    exact hdue done hnow (Nat.lt_of_not_le hlt) (.inl (Nat.le_refl _))
  message hw hsecurity := by
    obtain ⟨hfailure, hdone⟩ := h.message hw hsecurity
    exact ⟨hfailure, Nat.le_trans hdone hl⟩

/-! ## A turn of the wait -/

/-- What progress on schedule means: a verdict is the one of the script and not early, and
what is still waited for is on schedule and comes later. -/
def Progressed (s : Script) (terms : Terms) (accepted now : Nat) : Wait ⊕ Verdict → Prop
  | .inr verdict => ∃ time ≤ now,
      s.result? terms.security terms.codec accepted = some (time, verdict)
  | .inl wait => s.OnSchedule terms accepted now wait ∧
      ∀ time verdict, s.result? terms.security terms.codec accepted = some (time, verdict) →
        now < time

/-- What can be received does not depend on how often it was asked for. -/
theorem receive_askMessage (c : Connection) :
    (askMessage c).2.receive.map Prod.fst = c.receive.map Prod.fst := by
  unfold askMessage Connection.receive
  cases c.inbox with
  | nil => cases c.ended <;> rfl
  | cons result rest => rfl

/-- Starting TLS leaves a connection as its script has it. -/
theorem shownBy_begin {c : Connection} (hs : terms.security = .tls) (hc : s.ShownBy now c) :
    s.ShownBy now (begin terms now c).2 := by
  refine ⟨?_, Eq.trans ?_ hc.2⟩
  · simp only [Handshake.begin, hs, hc.1]
  · simp only [Handshake.begin, hs]
    unfold Connection.receive
    cases c.inbox with
    | nil => cases c.ended <;> rfl
    | cons result rest => rfl

/-- A message is taken as soon as it is there. -/
theorem progressed_awaitMessage {wait : Wait} (h : s.OnSchedule terms accepted now wait)
    (hf : terms.security = .tls → s.tls.failure = none)
    (hasked : s.asked terms.security accepted ≤ now) {c : Connection}
    (hc : c.receive.map Prod.fst = s.offer? now) :
    s.Progressed terms accepted now (awaitMessage terms c).1 := by
  have hresult : s.result? terms.security terms.codec accepted =
      s.receipt? terms.codec (s.asked terms.security accepted) := result?_of_no_failure hf
  unfold awaitMessage takeMessage
  rcases hreceive : c.receive with _ | ⟨result, after⟩
  · rw [hreceive] at hc
    refine ⟨⟨h.since, h.within, h.nothing, nofun, nofun, fun _ hs => ⟨hf hs, ?_⟩⟩,
      fun time verdict hr => ?_⟩
    · rw [hs] at hasked
      exact hasked
    · rw [hresult] at hr
      obtain ⟨first, result, hm, rfl, -⟩ := receipt?_eq_some_iff.mp hr
      exact Nat.lt_of_lt_of_le (lt_of_offer?_eq_none hm hc.symm) (Nat.le_max_right _ _)
  · rw [hreceive] at hc
    obtain ⟨first, hm, hle⟩ := offer?_eq_some_iff.mp hc.symm
    have hreceipt : s.result? terms.security terms.codec accepted =
        some (max (s.asked terms.security accepted) first, classify terms.codec result) := by
      rw [hresult]
      exact receipt?_eq_some_iff.mpr ⟨first, result, hm, rfl, rfl⟩
    cases result with
    | error e => exact ⟨_, Nat.max_le.mpr ⟨hasked, hle⟩, hreceipt⟩
    | ok frame => exact ⟨_, Nat.max_le.mpr ⟨hasked, hle⟩, hreceipt⟩

/-- The TLS handshake is waited for until it is over. -/
theorem progressed_awaitTls {wait : Wait} (h : s.OnSchedule terms accepted now wait)
    (hs : terms.security = .tls) {done : Nat} (hdone : done = accepted + s.tls.delay)
    {c : Connection} (hc : s.ShownBy now c) :
    s.Progressed terms accepted now (awaitTls terms now done c).1 := by
  have hasked : s.asked terms.security accepted = done := by
    rw [hs, hdone]
    rfl
  unfold awaitTls
  split
  · rename_i hlt
    refine ⟨⟨h.since, h.within, h.nothing, nofun, fun d hd => ?_, nofun⟩,
      fun time verdict hr => ?_⟩
    · cases hd
      exact ⟨hs, hdone, Nat.le_of_lt hlt⟩
    · exact Nat.lt_of_lt_of_le hlt (hasked ▸ asked_le_of_result? hr)
  · rename_i hlt
    have hle : s.asked terms.security accepted ≤ now := hasked ▸ Nat.le_of_not_lt hlt
    rw [hc.1]
    cases hf : s.tls.failure with
    | some e => exact ⟨_, hle, result?_of_failure hs hf⟩
    | none =>
      exact progressed_awaitMessage h (fun _ => hf) hle ((receive_askMessage c).trans hc.2)

/-- A poll at some time makes of a wait what its script says about that time. -/
theorem progressed_progress {wait : Wait} (h : s.OnSchedule terms accepted now wait)
    {c : Connection} (hc : s.ShownBy now c) :
    s.Progressed terms accepted now (progress terms now wait c).1 := by
  unfold progress
  cases wait with
  | turn =>
    cases hs : terms.security with
    | clear =>
      have hasked : s.asked terms.security accepted ≤ now := by
        rw [hs]
        exact h.since
      have hbegin : begin terms now c = askMessage c := by simp only [Handshake.begin, hs]
      rw [hbegin]
      exact progressed_awaitMessage h (fun ht => by cases hs.symm.trans ht) hasked
        ((receive_askMessage c).trans hc.2)
    | tls =>
      have hbegin : (begin terms now c).1 = .tls (accepted + s.tls.delay) := by
        simp only [Handshake.begin, hs, hc.1, h.turn rfl]
      have hshown := shownBy_begin hs hc
      rcases hb : begin terms now c with ⟨wait, started⟩
      rw [hb] at hbegin hshown
      obtain rfl : wait = .tls (accepted + s.tls.delay) := hbegin
      exact progressed_awaitTls h hs rfl hshown
  | tls done =>
    obtain ⟨hs, hdone, -⟩ := h.tls done rfl
    exact progressed_awaitTls h hs hdone hc
  | message =>
    refine progressed_awaitMessage h (fun hs => (h.message rfl hs).1) ?_ hc.2
    cases hs : terms.security with
    | clear => exact h.since
    | tls => exact (h.message rfl hs).2

/-- A turn of a wait on schedule: a cancellation that is seen decides it. Otherwise it is
decided as the script has it, or goes on on schedule before the deadline. -/
theorem OnSchedule.poll {wait : Wait} (h : s.OnSchedule terms accepted now wait)
    {c : Connection} (hc : s.ShownBy now c) (cancelled : Bool) :
    (Handshake.poll terms now cancelled wait c).1 =
        .inr (s.decision terms accepted cancelled) ∨
      ∃ next, (Handshake.poll terms now cancelled wait c).1 = .inl next ∧
        s.OnSchedule terms accepted now next := by
  unfold Handshake.poll decision
  cases cancelled with
  | true => exact .inl rfl
  | false =>
    have hprogress := progressed_progress h hc
    rcases hp : progress terms now wait c with ⟨next | verdict, after⟩
    · rw [hp] at hprogress
      obtain ⟨honSchedule, hlater⟩ := hprogress
      simp only [Bool.false_eq_true, if_false]
      by_cases hdeadline : terms.deadline ≤ now
      · left
        have htimeout : s.judged terms accepted = .rejected .timeout := by
          unfold judged
          split
          · next time verdict hr =>
            have hlt := hlater time verdict hr
            rw [if_neg (by omega)]
          · rfl
        rw [if_pos hdeadline, htimeout]
      · right
        exact ⟨next, by rw [if_neg hdeadline], honSchedule⟩
    · rw [hp] at hprogress
      obtain ⟨time, htime, hr⟩ := hprogress
      left
      have hjudged : s.judged terms accepted = verdict := by
        unfold judged
        rw [hr]
        exact if_pos (Nat.le_trans htime h.within)
      simp only [Bool.false_eq_true, if_false, hjudged]

/-! ## How it ends -/

/-- How a handshake ends whose wait came to a decision. `entered` tells that it found its entry
in the set. -/
def ending (entered : Bool) : Decision → HandshakeOutcome
  | .cancelled => .cancelled
  | .judged (.rejected reason) => .rejected reason
  | .judged (.failed what) => .fatal what
  | .judged (.accepted _) => if entered then .handedOff else .cancelled

/-- Something is received in time by a wait that is not cancelled. -/
structure Receives (s : Script) (terms : Terms) (accepted : Nat)
    (result : Except ConnectionError Octets) : Prop where
  /-- The TLS handshake, if there is one, does not fail. -/
  secured : terms.security = .tls → s.tls.failure = none
  /-- The deadline leaves time for the TLS handshake and for the message. -/
  offered : ∃ first, s.message = some (first, result) ∧
    max (s.asked terms.security accepted) first ≤ terms.deadline

/-- The ways in which a handshake can end, in the order in which they are looked for. -/
inductive Ends (s : Script) (terms : Terms) (accepted : Nat) (entered : Bool) :
    Bool → HandshakeOutcome → Prop
  /-- The turn which decides sees a cancellation. -/
  | cancelled : Ends s terms accepted entered true .cancelled
  /-- The TLS handshake fails in time. -/
  | tlsFailed {e : ConnectionError} (hs : terms.security = .tls) (hf : s.tls.failure = some e)
      (hd : accepted + s.tls.delay ≤ terms.deadline) :
      Ends s terms accepted entered false (.rejected (.tlsFailed e.message))
  /-- Nothing can be received. -/
  | receive {e : ConnectionError} (hr : s.Receives terms accepted (.error e)) :
      Ends s terms accepted entered false (.rejected (.receive e.message))
  /-- The frame is no message. -/
  | parse {frame : Octets} {e : MessageError} (hr : s.Receives terms accepted (.ok frame))
      (hp : terms.codec.parse frame = .error e) (hb : e.isFatal = false) :
      Ends s terms accepted entered false (.rejected (.parse e.message))
  /-- The codec fails over the frame. -/
  | parseFailed {frame : Octets} {e : MessageError} (hr : s.Receives terms accepted (.ok frame))
      (hp : terms.codec.parse frame = .error e) (hb : e.isFatal = true) :
      Ends s terms accepted entered false (.fatal e.message)
  /-- The message breaks the rules. -/
  | validation {frame : Octets} {m : Message} {e : MessageError}
      (hr : s.Receives terms accepted (.ok frame)) (hp : terms.codec.parse frame = .ok m)
      (hv : terms.codec.validate m = .error e) (hb : e.isFatal = false) :
      Ends s terms accepted entered false (.rejected (.validation e.message))
  /-- The codec fails over the message. -/
  | validationFailed {frame : Octets} {m : Message} {e : MessageError}
      (hr : s.Receives terms accepted (.ok frame)) (hp : terms.codec.parse frame = .ok m)
      (hv : terms.codec.validate m = .error e) (hb : e.isFatal = true) :
      Ends s terms accepted entered false (.fatal e.message)
  /-- The message is another one than the first of an exchange. -/
  | notCapabilities {frame : Octets} {m : Message} (hr : s.Receives terms accepted (.ok frame))
      (hp : terms.codec.parse frame = .ok m) (hv : terms.codec.validate m = .ok ())
      (hc : m.header.isCapabilitiesRequest = false) :
      Ends s terms accepted entered false (.rejected
        (.notCapabilities m.header.commandCode m.header.applicationId m.header.isRequest))
  /-- The message is the right one, and the entry is still there. -/
  | handedOff {frame : Octets} {m : Message} (hr : s.Receives terms accepted (.ok frame))
      (hp : terms.codec.parse frame = .ok m) (hv : terms.codec.validate m = .ok ())
      (hc : m.header.isCapabilitiesRequest = true) (he : entered = true) :
      Ends s terms accepted entered false .handedOff
  /-- The message is the right one, but a stop took the entry. -/
  | drained {frame : Octets} {m : Message} (hr : s.Receives terms accepted (.ok frame))
      (hp : terms.codec.parse frame = .ok m) (hv : terms.codec.validate m = .ok ())
      (hc : m.header.isCapabilitiesRequest = true) (he : entered = false) :
      Ends s terms accepted entered false .cancelled
  /-- The TLS handshake and the message are not over in time. -/
  | timeout (hr : ∀ time verdict,
        s.result? terms.security terms.codec accepted = some (time, verdict) →
          terms.deadline < time) :
      Ends s terms accepted entered false (.rejected .timeout)

/-- What is received in time is judged by the codec. -/
theorem Receives.ends {result : Except ConnectionError Octets}
    (hr : s.Receives terms accepted result) (entered : Bool) :
    s.Ends terms accepted entered false (ending entered (.judged (classify terms.codec result))) := by
  cases result with
  | error e => exact .receive hr
  | ok frame =>
    dsimp only [classify, Codec.judge]
    cases hp : terms.codec.parse frame with
    | error e =>
      dsimp only [MessageError.verdict]
      cases hb : e.isFatal with
      | true => exact .parseFailed hr hp hb
      | false => exact .parse hr hp hb
    | ok m =>
      dsimp only
      cases hv : terms.codec.validate m with
      | error e =>
        dsimp only [MessageError.verdict]
        cases hb : e.isFatal with
        | true => exact .validationFailed hr hp hv hb
        | false => exact .validation hr hp hv hb
      | ok _ =>
        dsimp only
        cases hc : m.header.isCapabilitiesRequest with
        | false => exact .notCapabilities hr hp hv hc
        | true =>
          cases entered with
          | true => exact .handedOff hr hp hv hc rfl
          | false => exact .drained hr hp hv hc rfl

/-- What comes of a script is one of the ways in which a handshake can end. -/
theorem ends_decision (s : Script) (terms : Terms) (accepted : Nat) (entered seen : Bool) :
    s.Ends terms accepted entered seen (ending entered (s.decision terms accepted seen)) := by
  cases seen with
  | true => exact .cancelled
  | false =>
    change s.Ends terms accepted entered false (ending entered (.judged (s.judged terms accepted)))
    have hlate (hr : ∀ time verdict,
        s.result? terms.security terms.codec accepted = some (time, verdict) →
          terms.deadline < time) :
        s.Ends terms accepted entered false
          (ending entered (.judged (.rejected .timeout))) := .timeout hr
    unfold judged
    cases hresult : s.result? terms.security terms.codec accepted with
    | none => exact hlate fun time verdict hr => by simp [hresult] at hr
    | some found =>
      obtain ⟨time, verdict⟩ := found
      dsimp only
      split_ifs with hd
      · by_cases hf : terms.security = .tls → s.tls.failure = none
        · rw [result?_of_no_failure hf] at hresult
          obtain ⟨first, result, hm, rfl, rfl⟩ := receipt?_eq_some_iff.mp hresult
          exact Receives.ends ⟨hf, first, hm, hd⟩ entered
        · obtain ⟨hs, hf⟩ := Classical.not_imp.mp hf
          obtain ⟨e, hf⟩ := Option.ne_none_iff_exists'.mp hf
          rw [result?_of_failure hs hf, hs] at hresult
          cases hresult
          exact .tlsFailed hs hf hd
      · refine hlate fun later other hr => ?_
        rw [hresult] at hr
        cases hr
        exact Nat.lt_of_not_le hd

/-- Who is handed off was in time. -/
theorem Ends.in_time {entered seen : Bool} {outcome : HandshakeOutcome}
    (h : s.Ends terms accepted entered seen outcome) (ho : outcome = .handedOff) :
    ∃ frame, s.Receives terms accepted (.ok frame) := by
  cases h with
  | handedOff hr => exact ⟨_, hr⟩
  | _ => cases ho

end Script

/-- A turn of the wait at the deadline ends it, whatever it finds. -/
theorem poll_at_deadline {terms : Terms} {now : Nat} (h : terms.deadline ≤ now) (cancelled : Bool)
    (wait next : Wait) (c : Connection) : (poll terms now cancelled wait c).1 ≠ .inl next := by
  unfold poll
  intro he
  cases cancelled with
  | true => cases he
  | false =>
    rcases hp : progress terms now wait c with ⟨waiting | verdict, after⟩
    · simp only [hp, Bool.false_eq_true, if_false, if_pos h, reduceCtorEq] at he
    · simp only [hp, Bool.false_eq_true, if_false, reduceCtorEq] at he

end Diameter.Handshake
