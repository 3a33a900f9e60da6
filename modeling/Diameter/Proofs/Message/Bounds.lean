import Diameter.Proofs.Message.Strict

/-!
# Reading within bounds

The strict reader goes over the AVPs of a frame in a walk, one step for each of them. What a step
comes to is looked at once; where the walk stands after any number of steps and where it ends
follow by induction on the walk. Main statement: whatever the octets, a message is read without a
breakdown, and the outcome is that of the reader. The walk stays at multiples of four between the
header and the end of the frame, each step leads on by at least eight octets, and the walk ends at
the end of the frame or with a refusal. No AVP takes up more than what is left, since the length
of the frame is a multiple of four.
-/

namespace Diameter

/-- How far a walk over the AVPs of a frame has come. -/
structure Walk where
  /-- Where the next AVP starts. -/
  offset : Nat
  /-- The AVPs before that. -/
  avps : List Avp

namespace Walk

/-- A walk starts behind the header. -/
def start : Walk := ⟨Header.size, []⟩

/-- One step, over one AVP. -/
def step (raw : Octets) (w : Walk) : Strict Walk := do
  let (avp, taken) ← Avp.readStrict raw w.offset
  return ⟨← Strict.plus w.offset taken, w.avps ++ [avp]⟩

variable {raw : Octets} {w v : Walk} {n : Nat} {header : Header}

/-- A step leads on, if octets are left. -/
theorem lt_of_step (hleft : w.offset < raw.length) (h : w.step raw = .ok v) :
    w.offset < v.offset := by
  simp only [step, Strict.bind_eq_ok_iff] at h
  obtain ⟨⟨avp, taken⟩, hread, offset, hplus, hresult⟩ := h
  have htaken : 0 < taken := Avp.taken_pos hleft hread
  have hsum : w.offset + taken = offset := Strict.eq_of_plus hplus
  have hoffset : offset = v.offset := congrArg Walk.offset (Except.ok.inj hresult)
  omega

/-- The AVPs up to the end of the frame, one step after the other. -/
def finish (raw : Octets) (w : Walk) : Strict (List Avp) :=
  if _ : w.offset < raw.length then
    match _ : w.step raw with
    | .error e => .error e
    | .ok v => v.finish raw
  else .ok w.avps
termination_by raw.length - w.offset
decreasing_by
  have hlt := lt_of_step ‹w.offset < raw.length› ‹w.step raw = .ok v›
  omega

/-- The header of a frame is such that the walk over the AVPs begins. -/
structure Begins (raw : Octets) (header : Header) : Prop where
  /-- It is read. -/
  read : Header.readStrict raw = .ok header
  /-- It declares the length of the frame. -/
  length : header.length = raw.length
  /-- That is a multiple of four. -/
  aligned : header.length % 4 = 0

/-- Where a walk has come to after `n` steps, none of which was taken at the end of the frame. -/
inductive After (raw : Octets) : (n : Nat) → Walk → Prop
  /-- It stands behind the header. -/
  | start {header : Header} (hbegins : Begins raw header) : After raw 0 start
  /-- It has taken one more step. -/
  | step {n : Nat} {w v : Walk} (hw : After raw n w) (hleft : w.offset < raw.length)
      (hstep : w.step raw = .ok v) : After raw (n + 1) v

/-- After `n` steps the walk is inside its frame. -/
structure Inside (raw : Octets) (n : Nat) (w : Walk) : Prop where
  /-- The next AVP starts at a multiple of four. -/
  aligned : w.offset % 4 = 0
  /-- Every step led on by at least eight octets. -/
  advanced : Header.size + 8 * n ≤ w.offset
  /-- None led beyond the end. -/
  le_length : w.offset ≤ raw.length

/-- What the next step comes to. -/
inductive Comes (raw : Octets) (w : Walk) : Prop
  /-- The AVP is refused, for the cause that the reader finds. -/
  | refused (e : MessageError) (hread : Avp.read w.offset (raw.drop w.offset) = .error e)
      (hstrict : Avp.readStrict raw w.offset = .error (.refused e))
      (hstep : w.step raw = .error (.refused e))
  /-- The AVP is the one that the reader finds, of the length that its header says. That length,
  rounded up, is at least eight and at most what is left, and is what the AVP takes up. -/
  | taken (avp : Avp) (hread : Avp.read w.offset (raw.drop w.offset) = .ok avp)
      (hlength : Octets.word raw (w.offset + 5) 3 = avp.length)
      (hsize : 8 ≤ Octets.padded avp.length)
      (hfits : Octets.padded avp.length ≤ raw.length - w.offset)
      (hstrict : Avp.readStrict raw w.offset = .ok (avp, Octets.padded avp.length))
      (hstep : w.step raw = .ok ⟨w.offset + Octets.padded avp.length, w.avps ++ [avp]⟩)

/-! ## One step -/

/-- A walk begins in a frame whose length is a multiple of four and fits into three octets. -/
theorem Begins.frame (h : Begins raw header) :
    Header.size ≤ raw.length ∧ raw.length % 4 = 0 ∧ raw.length < Octets.span 3 := by
  have hread : Header.read raw = .ok header := by
    rw [← Strict.ofReading_eq_ok_iff, ← Header.readStrict_eq, h.read]
  obtain ⟨hsize, -, hheader⟩ := Header.read_eq_ok_iff.mp hread
  have hlength := h.length
  have haligned := h.aligned
  have hlt : header.length < Octets.span 3 := by
    rw [hheader]
    exact Octets.word_lt (Nat.le_trans (by decide) hsize)
  omega

/-- A step that is taken inside the frame comes to what the reader comes to there. What is left is
a multiple of four as well, so that rounding up does not lead beyond it. -/
theorem Inside.comes (h : w.Inside raw n) (hbegins : Begins raw header)
    (hleft : w.offset < raw.length) : w.Comes raw := by
  obtain ⟨-, haligned, hlt⟩ := hbegins.frame
  have hword : 2 ^ 32 ≤ USize.size := USize.le_size
  have hspan : Octets.span 3 + Octets.span 3 < 2 ^ 32 := by decide
  have hroom : raw.length + Octets.span 3 ≤ USize.size := by omega
  have hstrict := Avp.readStrict_eq h.le_length hroom
  cases hread : Avp.read w.offset (raw.drop w.offset) with
  | error e =>
    rw [hread] at hstrict
    have hstep : w.step raw = .error (.refused e) := by
      rw [step, hstrict]
      rfl
    exact .refused e hread hstrict hstep
  | ok avp =>
    obtain ⟨hlength, hheld⟩ := Avp.length_of_read hread
    rw [Octets.word, List.drop_drop] at hlength
    rw [List.length_drop] at hheld
    have hsize : 8 ≤ Octets.padded avp.length := avp.eight_le_size
    have hfits : Octets.padded avp.length ≤ raw.length - w.offset := by
      have hoffset := h.aligned
      unfold Octets.padded
      omega
    have htaken : Avp.readStrict raw w.offset = .ok (avp, Octets.padded avp.length) := by
      rw [hstrict, hread, ← Nat.min_eq_left hfits]
      rfl
    have hsum : w.offset + Octets.padded avp.length < USize.size := by omega
    have hstep : w.step raw = .ok ⟨w.offset + Octets.padded avp.length, w.avps ++ [avp]⟩ := by
      rw [step, htaken, Strict.ok_bind]
      dsimp only
      rw [Strict.plus_of_lt hsum]
      rfl
    exact .taken avp hread hlength.symm hsize hfits htaken hstep

/-! ## A run of steps -/

/-- A walk that has begun has read the header. -/
theorem After.exists_begins (h : After raw n w) : ∃ header, Begins raw header := by
  induction h with
  | start hbegins => exact ⟨_, hbegins⟩
  | step _ _ _ ih => exact ih

/-- A walk never leaves its frame. -/
theorem After.inside (h : After raw n w) : w.Inside raw n := by
  induction h with
  | start hbegins => exact ⟨rfl, Nat.le_refl _, hbegins.frame.1⟩
  | @step n w v hw hleft hstep ih =>
    obtain ⟨header, hbegins⟩ := hw.exists_begins
    cases ih.comes hbegins hleft with
    | refused e _ _ hrefused => cases hrefused.symm.trans hstep
    | taken avp _ _ hsize hfits _ htaken =>
      obtain rfl := Except.ok.inj (htaken.symm.trans hstep)
      have haligned := ih.aligned
      have hadvanced := ih.advanced
      have hmultiple : Octets.padded avp.length % 4 = 0 := Nat.mul_mod_left ..
      refine ⟨?_, ?_, ?_⟩ <;> dsimp only <;> omega

/-- The next step of a walk comes to what the reader comes to. -/
theorem After.comes (h : After raw n w) (hleft : w.offset < raw.length) : w.Comes raw := by
  obtain ⟨header, hbegins⟩ := h.exists_begins
  exact h.inside.comes hbegins hleft

/-- A walk takes at most one step for each eight octets of the body. -/
theorem After.le_div (h : After raw n w) : n ≤ (raw.length - Header.size) / 8 := by
  have hadvanced := h.inside.advanced
  have hle := h.inside.le_length
  omega

/-! ## The end of a walk -/

/-- A walk at the end of the frame has its AVPs. -/
theorem finish_of_end (hend : ¬ w.offset < raw.length) : w.finish raw = .ok w.avps := by
  rw [finish, dif_neg hend]

/-- A walk that cannot take its next step ends with the failure of it. -/
theorem finish_of_error {e : ReadingFailure} (hleft : w.offset < raw.length)
    (hstep : w.step raw = .error e) : w.finish raw = .error e := by
  rw [finish, dif_pos hleft]
  split
  · next e' herror => exact congrArg Except.error (Except.error.inj (herror.symm.trans hstep))
  · next v hv => cases hv.symm.trans hstep

/-- A walk ends as what its next step leads to. -/
theorem finish_of_ok (hleft : w.offset < raw.length) (hstep : w.step raw = .ok v) :
    w.finish raw = v.finish raw := by
  rw [finish, dif_pos hleft]
  split
  · next e herror => cases herror.symm.trans hstep
  · next v' hv => rw [Except.ok.inj (hv.symm.trans hstep)]

/-- A walk ends, at the end of the frame or with a refusal, and this is how it finishes. -/
theorem After.exists_end (h : After raw n w) : ∃ m v, After raw m v ∧
    (v.offset = raw.length ∧ w.finish raw = .ok v.avps ∨
      v.offset < raw.length ∧ ∃ e, Avp.readStrict raw v.offset = .error (.refused e) ∧
        w.finish raw = .error (.refused e)) := by
  induction w using finish.induct raw generalizing n with
  | case1 w hleft error herror =>
    cases h.comes hleft with
    | refused e _ hstrict hstep =>
      exact ⟨n, w, h, .inr ⟨hleft, e, hstrict, finish_of_error hleft hstep⟩⟩
    | taken avp _ _ _ _ _ hstep => cases herror.symm.trans hstep
  | case2 w hleft v hstep ih =>
    rw [finish_of_ok hleft hstep]
    exact ih (h.step hleft hstep)
  | case3 w hend =>
    have hstop : w.offset = raw.length :=
      Nat.le_antisymm h.inside.le_length (Nat.le_of_not_lt hend)
    exact ⟨n, w, h, .inl ⟨hstop, finish_of_end hend⟩⟩

end Walk

/-! ## The outcome of a walk -/

namespace Avp

variable {offset : Nat} {rest : Octets} {avp : Avp} {e : MessageError}

/-- Reading all AVPs fails as reading the first one does. -/
theorem readAll_of_error (hne : rest ≠ []) (h : Avp.read offset rest = .error e) :
    Avp.readAll offset rest = .error e := by
  rw [readAll, if_neg hne, h]

/-- Reading all AVPs reads the first one, and then all that follow it. -/
theorem readAll_of_ok (hne : rest ≠ []) (h : Avp.read offset rest = .ok avp) :
    Avp.readAll offset rest =
      (Avp.readAll (offset + avp.size) (rest.drop avp.size)).map (avp :: ·) := by
  rw [readAll, if_neg hne, h]
  dsimp only
  cases Avp.readAll (offset + avp.size) (rest.drop avp.size) <;> rfl

end Avp

namespace Walk

variable {raw : Octets} {w : Walk} {n : Nat} {header : Header}

theorem drop_ne_nil (hleft : w.offset < raw.length) : raw.drop w.offset ≠ [] :=
  mt List.drop_eq_nil_iff.mp (Nat.not_le.mpr hleft)

/-- A walk adds the AVPs that the reader finds from where it stands. -/
theorem After.finish_eq (h : After raw n w) : w.finish raw =
    .ofReading ((Avp.readAll w.offset (raw.drop w.offset)).map (w.avps ++ ·)) := by
  induction w using finish.induct raw generalizing n with
  | case1 w hleft error herror =>
    cases h.comes hleft with
    | refused e hread _ hstep =>
      rw [finish_of_error hleft hstep, Avp.readAll_of_error (drop_ne_nil hleft) hread]
      rfl
    | taken avp _ _ _ _ _ hstep => cases herror.symm.trans hstep
  | case2 w hleft v hstep ih =>
    cases h.comes hleft with
    | refused e _ _ herror => cases herror.symm.trans hstep
    | taken avp hread _ _ _ _ htaken =>
      obtain rfl := Except.ok.inj (htaken.symm.trans hstep)
      rw [finish_of_ok hleft hstep, ih (h.step hleft hstep),
        Avp.readAll_of_ok (drop_ne_nil hleft) hread, Avp.size, List.drop_drop]
      dsimp only
      cases Avp.readAll (w.offset + Octets.padded avp.length)
        (raw.drop (w.offset + Octets.padded avp.length)) with
      | error e => rfl
      | ok avps => exact congrArg Except.ok (List.append_assoc w.avps [avp] avps)
  | case3 w hend =>
    have hrest : raw.drop w.offset = [] := List.drop_eq_nil_iff.mpr (Nat.le_of_not_lt hend)
    rw [finish_of_end hend, hrest, Avp.readAll, if_pos rfl]
    exact congrArg Except.ok (List.append_nil w.avps).symm

/-- A walk that begins finishes with the AVPs that the reader finds behind the header. -/
theorem Begins.finish_eq (h : Begins raw header) :
    start.finish raw = .ofReading (Avp.readAll Header.size (raw.drop Header.size)) := by
  rw [(After.start h).finish_eq, start]
  dsimp only
  cases Avp.readAll Header.size (raw.drop Header.size) <;> rfl

end Walk

/-! ## Messages -/

namespace Message

/-- The message that a complete frame holds, read strictly. -/
def readStrict (raw : Octets) : Strict Message := do
  let header ← Header.readStrict raw
  Strict.require (header.length = raw.length) (.wrongLength header.length raw.length)
  Strict.require (header.length % 4 = 0) (.unaligned header.length)
  let avps ← Walk.start.finish raw
  return { header, avps, raw }

variable {raw : Octets} {header : Header}

/-- Once the walk begins, the message is what it finishes with. -/
theorem readStrict_of_begins (h : Walk.Begins raw header) :
    readStrict raw = (Walk.start.finish raw).map fun avps => { header, avps, raw } := by
  rw [readStrict, h.read, Strict.ok_bind, Strict.require_pos h.length, Strict.ok_bind,
    Strict.require_pos h.aligned, Strict.ok_bind]
  cases Walk.start.finish raw <;> rfl

/-- A message is read without a breakdown, whatever the octets. -/
theorem readStrict_eq (raw : Octets) :
    Message.readStrict raw = .ofReading (Message.read raw) := by
  rw [read_eq]
  cases hread : Header.read raw with
  | error e =>
    rw [readStrict, Header.readStrict_eq, hread]
    rfl
  | ok header =>
    have hheader : Header.readStrict raw = .ok header := by
      rw [Header.readStrict_eq, hread]
      rfl
    dsimp only
    split_ifs with hlength haligned
    · rw [readStrict, hheader, Strict.ok_bind, Strict.require_neg hlength]
      rfl
    · rw [readStrict, hheader, Strict.ok_bind, Strict.require_pos (not_not.mp hlength),
        Strict.ok_bind, Strict.require_neg haligned]
      rfl
    · have hbegins : Walk.Begins raw header :=
        ⟨hheader, not_not.mp hlength, not_not.mp haligned⟩
      rw [readStrict_of_begins hbegins, hbegins.finish_eq]
      cases Avp.readAll Header.size (raw.drop Header.size) <;> rfl

/-- Whatever the octets, the strict readers of headers and of messages come to the outcome of the
reader, so that no octet is asked for that is not there, no run is cut out that does not lie inside
the frame, and no number outgrows the machine word. After any number of steps the walk over the
AVPs stands at a multiple of four between the header and the end of the frame, at least eight
octets a step behind the header. Its next step comes to what the reader comes to there; an AVP
that is taken takes up its length, rounded up, which is never more than what is left. The walk ends
after at most one step for each eight octets of the body, at the end of the frame with the message
or before that with a refusal. -/
theorem reads_within_bounds (raw : Octets) :
    Header.readStrict raw = .ofReading (Header.read raw) ∧
    Message.readStrict raw = .ofReading (Message.read raw) ∧
    (∀ n w, Walk.After raw n w → w.Inside raw n ∧ (w.offset < raw.length → w.Comes raw)) ∧
    ∀ header, Walk.Begins raw header → ∃ n w, Walk.After raw n w ∧
      n ≤ (raw.length - Header.size) / 8 ∧
      (w.offset = raw.length ∧ Message.readStrict raw = .ok ⟨header, w.avps, raw⟩ ∨
        w.offset < raw.length ∧ ∃ e, Avp.readStrict raw w.offset = .error (.refused e) ∧
          Message.readStrict raw = .error (.refused e)) := by
  refine ⟨Header.readStrict_eq raw, readStrict_eq raw, ?_, ?_⟩
  · intro n w hw
    exact ⟨hw.inside, hw.comes⟩
  · intro header hbegins
    obtain ⟨n, w, hw, hend⟩ := (Walk.After.start hbegins).exists_end
    refine ⟨n, w, hw, hw.le_div, ?_⟩
    rw [readStrict_of_begins hbegins]
    rcases hend with ⟨hstop, hfinish⟩ | ⟨hleft, e, hstrict, hfinish⟩
    · rw [hfinish]
      exact .inl ⟨hstop, rfl⟩
    · rw [hfinish]
      exact .inr ⟨hleft, e, hstrict, rfl⟩

/-- A request whose first AVP is complete and whose second one is longer than the frame. -/
def overrunning : Octets :=
  [1, 0, 0, 40, 128, 0, 1, 24, 0, 0, 0, 0, 0, 0, 0, 7, 0, 0, 0, 9] ++
    [0, 0, 1, 8, 64, 0, 0, 9, 97, 255, 254, 253] ++ [0, 0, 1, 40, 64, 0, 0, 255]

/-- Its header. -/
def overrunningHeader : Header := ⟨1, 40, 128, 280, 0, 7, 9⟩

/-- The walk over its first AVP. -/
def overrunningWalk : Walk := ⟨32, [⟨264, 64, none, [97]⟩]⟩

/-- The walk over that frame begins, takes a step and ends after at most two of them. -/
theorem overrun_within_bounds :
    Walk.Begins overrunning overrunningHeader ∧ Walk.After overrunning 1 overrunningWalk ∧
    overrunningWalk.Inside overrunning 1 ∧ overrunningWalk.Comes overrunning ∧
    ∃ n w, Walk.After overrunning n w ∧ n ≤ 2 ∧
      (w.offset = 40 ∧
          Message.readStrict overrunning = .ok ⟨overrunningHeader, w.avps, overrunning⟩ ∨
        w.offset < 40 ∧ ∃ e, Avp.readStrict overrunning w.offset = .error (.refused e) ∧
          Message.readStrict overrunning = .error (.refused e)) := by
  obtain ⟨hheader, -, hwalk, hend⟩ := reads_within_bounds overrunning
  have hread : Header.read overrunning = .ok overrunningHeader := by cbv
  have hbegins : Walk.Begins overrunning overrunningHeader :=
    ⟨by rw [hheader, hread]; rfl, rfl, rfl⟩
  have hfirst : Avp.read 20 (overrunning.drop 20) = .ok ⟨264, 64, none, [97]⟩ := by cbv
  have hafter : Walk.After overrunning 1 overrunningWalk := by
    cases (hwalk 0 Walk.start (.start hbegins)).2 (by decide) with
    | refused e herror _ _ => cases herror.symm.trans hfirst
    | taken avp havp _ _ _ _ hstep =>
      obtain rfl := Except.ok.inj (havp.symm.trans hfirst)
      exact (Walk.After.start hbegins).step (by decide) hstep
  obtain ⟨hinside, hcomes⟩ := hwalk 1 overrunningWalk hafter
  exact ⟨hbegins, hafter, hinside, hcomes (by decide), hend _ hbegins⟩

end Message

end Diameter
