import Diameter.Handshake.Basic
import Diameter.Proofs.Message.Judging

/-!
# Who is to blame for a message

Whatever octets arrive, the reader finds a message or a malformation; whatever the message
and the dictionary, the check finds a missing, a surplus or an invalid AVP, or nothing. So a
codec that judges by a dictionary always puts the blame on the peer.
-/

namespace Diameter

/-! ## Reading -/

/-- A header that cannot be read is malformed. -/
theorem Header.malformed_of_read {raw : Octets} {e : MessageError}
    (h : Header.read raw = .error e) : ∃ cause, e = .malformed cause := by
  unfold Header.read at h
  dsimp only at h
  split at h
  · exact ⟨_, (Except.error.inj h).symm⟩
  · split at h
    · exact ⟨_, (Except.error.inj h).symm⟩
    · cases h

/-- An AVP that cannot be read is malformed, each of the four checks in its own way. -/
theorem Avp.malformed_of_read {offset : Nat} {rest : Octets} {e : MessageError}
    (h : Avp.read offset rest = .error e) : ∃ cause, e = .malformed cause := by
  unfold Avp.read at h
  dsimp only at h
  repeat' split at h
  all_goals first
    | exact ⟨_, (Except.error.inj h).symm⟩
    | cases h

/-- AVPs that cannot be read are malformed. -/
theorem Avp.malformed_of_readAll {offset : Nat} {rest : Octets} {e : MessageError}
    (h : Avp.readAll offset rest = .error e) : ∃ cause, e = .malformed cause := by
  induction offset, rest using Avp.readAll.induct with
  | case1 offset =>
    rw [readAll, if_pos rfl] at h
    cases h
  | case2 offset rest hne error hread =>
    rw [readAll, if_neg hne, hread] at h
    obtain rfl := Except.error.inj h
    exact malformed_of_read hread
  | case3 offset rest hne avp hread error hrest ih =>
    rw [readAll, if_neg hne, hread] at h
    dsimp only at h
    rw [hrest] at h
    obtain rfl := Except.error.inj h
    exact ih hrest
  | case4 offset rest hne avp hread avps hrest ih =>
    rw [readAll, if_neg hne, hread] at h
    dsimp only at h
    rw [hrest] at h
    cases h

/-- A message that cannot be read is malformed. -/
theorem Message.malformed_of_read {raw : Octets} {e : MessageError}
    (h : Message.read raw = .error e) : ∃ cause, e = .malformed cause := by
  rw [read_eq] at h
  split at h
  · next error hheader =>
    obtain rfl := Except.error.inj h
    exact Header.malformed_of_read hheader
  · split_ifs at h
    · exact ⟨_, (Except.error.inj h).symm⟩
    · exact ⟨_, (Except.error.inj h).symm⟩
    · split at h
      · next error hall =>
        obtain rfl := Except.error.inj h
        exact Avp.malformed_of_readAll hall
      · cases h

/-- Whatever cannot be parsed is malformed. -/
theorem Codec.malformed_of_parseFrame {raw : Octets} {e : MessageError}
    (h : Codec.parseFrame raw = .error e) : ∃ cause, e = .malformed cause := by
  unfold parseFrame at h
  split at h
  · exact Message.malformed_of_read h
  · exact ⟨_, (Except.error.inj h).symm⟩

/-! ## Checking -/

namespace Dictionary

/-- Every fault of a message is that of its sender. -/
theorem not_fatal_of_check {d : Dictionary} {m : Message} {e : MessageError}
    (h : d.check m = .error e) : e.isFatal = false := by
  obtain ⟨grammar, -, hfault⟩ := check_eq_error_iff.mp h
  cases hfault <;> rfl

end Dictionary

/-! ## Judging -/

/-- The codec never fails by itself. -/
structure Codec.Dependable (codec : Codec) : Prop where
  /-- What it cannot parse is the fault of the peer. -/
  parse : ∀ raw e, codec.parse raw = .error e → e.isFatal = false
  /-- What it does not accept is the fault of the peer. -/
  validate : ∀ m e, codec.validate m = .error e → e.isFatal = false

/-- A codec that judges by a dictionary never fails by itself. -/
theorem Codec.dependable_ofDictionary (d : Dictionary) : (Codec.ofDictionary d).Dependable where
  parse raw e h := by
    obtain ⟨cause, rfl⟩ := malformed_of_parseFrame h
    rfl
  validate _ _ h := Dictionary.not_fatal_of_check h

/-- An error that is not fatal rejects the connection. -/
theorem MessageError.verdict_of_not_fatal {e : MessageError} (h : e.isFatal = false)
    (reject : String → RejectReason) : e.verdict reject = .rejected (reject e.message) := by
  rw [verdict, h]
  rfl

/-- A codec that never fails by itself never blames our side. -/
theorem Codec.Dependable.judge_ne_failed {codec : Codec} (h : codec.Dependable)
    (frame : Octets) (what : String) : codec.judge frame ≠ .failed what := by
  unfold judge
  split
  · next e hparse =>
    rw [MessageError.verdict_of_not_fatal (h.parse _ _ hparse)]
    exact Verdict.noConfusion
  · split
    · next e hvalidate =>
      rw [MessageError.verdict_of_not_fatal (h.validate _ _ hvalidate)]
      exact Verdict.noConfusion
    · split <;> exact Verdict.noConfusion

end Diameter
