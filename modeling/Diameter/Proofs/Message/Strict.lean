import Diameter.Proofs.Message.Grammar

/-!
# A reader that watches its bounds

The reader of a message looks at octets by their place, and where there are none it makes do
with fewer. A strict reader takes the same steps one at a time, and breaks down as soon as it asks
for an octet that is not there, cuts out a run that does not lie inside the frame, takes more from
a number than it holds, or adds up more than a machine word can hold. Main statements: whatever
the octets, the header is read without a breakdown, and so is an AVP at any place of a frame that
leaves the machine word room for one more length; the result is that of the reader.
-/

namespace Diameter

/-- How a strict reading ends without a result. -/
inductive ReadingFailure where
  /-- Something was asked for that is not there, or that no machine word can hold. -/
  | breakdown
  /-- The octets are refused. -/
  | refused (e : MessageError)
  deriving DecidableEq, Repr

/-- A reading that breaks down as soon as it leaves its bounds. -/
abbrev Strict := Except ReadingFailure

namespace Strict

/-- Go on if the condition holds, and refuse the octets for the given cause if not. -/
def require (condition : Prop) [Decidable condition] (cause : Malformation) : Strict Unit :=
  if condition then .ok () else .error (.refused (.malformed cause))

/-- A sum, which a machine word has to hold. -/
def plus (m n : Nat) : Strict Nat := if m + n < USize.size then .ok (m + n) else .error .breakdown

/-- A difference, which must not be negative. -/
def minus (m n : Nat) : Strict Nat := if n ≤ m then .ok (m - n) else .error .breakdown

/-- The octets from one place to another, which have to lie inside the run in this order. -/
def cut (bs : Octets) (start stop : Nat) : Strict Octets :=
  if start ≤ stop ∧ stop ≤ bs.length then .ok ((bs.take stop).drop start) else .error .breakdown

/-- The number in the next `width` octets, which have to be there, and what follows them. -/
def next (width : Nat) (bs : Octets) : Strict (Nat × Octets) :=
  if width ≤ bs.length then .ok (Octets.toNat (bs.take width), bs.drop width)
  else .error .breakdown

/-- The number in the next three octets, of which the first is taken before the other two. -/
def nextThree (bs : Octets) : Strict (Nat × Octets) := do
  let (high, bs) ← next 1 bs
  let (low, bs) ← next 2 bs
  return (high <<< 16 ||| low, bs)

/-- What the reader finds, as the outcome of a strict reading that does not break down. -/
def ofReading {α : Type} (x : Except MessageError α) : Strict α := x.mapError .refused

end Strict

/-! ## The strict reader -/

/-- The header at the start of a frame. -/
def Header.readStrict (raw : Octets) : Strict Header := do
  Strict.require (size ≤ raw.length) (.shortHeader raw.length)
  let (version, rest) ← Strict.next 1 raw
  Strict.require (UInt8.ofNat version = protocolVersion) (.version (.ofNat version))
  let (length, rest) ← Strict.nextThree rest
  let (flags, rest) ← Strict.next 1 rest
  let (commandCode, rest) ← Strict.nextThree rest
  let (applicationId, rest) ← Strict.next 4 rest
  let (hopByHop, rest) ← Strict.next 4 rest
  let (endToEnd, _) ← Strict.next 4 rest
  return {
    version := .ofNat version
    length
    flags := .ofNat flags
    commandCode := .ofNat commandCode
    applicationId := .ofNat applicationId
    hopByHop := .ofNat hopByHop
    endToEnd := .ofNat endToEnd }

namespace Avp

/-- The vendor at the head of `rest`, if the flags announce one. -/
def vendorStrict (code : UInt32) (flags : UInt8) (rest : Octets) : Strict (Option UInt32) :=
  if flags &&& vendorFlag ≠ 0 then do
    Strict.require (4 ≤ rest.length) (.truncatedVendor code)
    let (vendor, _) ← Strict.next 4 rest
    return some (.ofNat vendor)
  else return none

/-- The AVP whose header was read at a place of a frame, and how many octets of the frame it takes
up: its length rounded up in the two low bits, or all that is left if that is less. -/
def valueStrict (raw : Octets) (offset : Nat) (code : UInt32) (flags : UInt8) (length : Nat)
    (vendorId : Option UInt32) : Strict (Avp × Nat) := do
  let start := headerLength vendorId
  Strict.require (start ≤ length) (.shortAvp code length)
  let stop ← Strict.plus offset length
  Strict.require (stop ≤ raw.length) (.overrun code length)
  let data ← Strict.cut raw (← Strict.plus offset start) (← Strict.plus offset length)
  let raised ← Strict.plus length 3
  let left ← Strict.minus raw.length offset
  return ({ code, flags, vendorId, data }, min (raised >>> 2 <<< 2) left)

/-- The AVP at a place of a frame, and how many octets of the frame it takes up. -/
def readStrict (raw : Octets) (offset : Nat) : Strict (Avp × Nat) := do
  let rest ← Strict.cut raw offset raw.length
  Strict.require (8 ≤ rest.length) (.truncatedAvp offset)
  let (code, rest) ← Strict.next 4 rest
  let (flags, rest) ← Strict.next 1 rest
  let (length, rest) ← Strict.nextThree rest
  let vendorId ← vendorStrict (.ofNat code) (.ofNat flags) rest
  valueStrict raw offset (.ofNat code) (.ofNat flags) length vendorId

end Avp

/-! ## Single accesses -/

namespace Strict

variable {α β : Type} {p : Prop} [Decidable p] {cause : Malformation} {bs : Octets}
  {offset width start stop k m n : Nat}

theorem ok_bind (a : α) (f : α → Strict β) : (Except.ok a >>= f) = f a := rfl

theorem error_bind (e : ReadingFailure) (f : α → Strict β) :
    (Except.error e >>= f) = .error e := rfl

/-- Two readings in a row have a result if each of them has one. -/
theorem bind_eq_ok_iff {x : Strict α} {f : α → Strict β} {b : β} :
    (x >>= f) = .ok b ↔ ∃ a, x = .ok a ∧ f a = .ok b := by
  cases x with
  | error e => exact iff_of_false nofun fun ⟨_, h, _⟩ => nomatch h
  | ok a => exact ⟨fun h => ⟨a, rfl, h⟩, fun ⟨_, h, hf⟩ => Except.ok.inj h ▸ hf⟩

theorem require_pos (hp : p) : require p cause = .ok () := if_pos hp

theorem require_neg (hp : ¬ p) : require p cause = .error (.refused (.malformed cause)) :=
  if_neg hp

/-- A reading that goes on found what it required. -/
theorem of_require {u : Unit} (h : require p cause = .ok u) : p := by
  by_contra hp
  rw [require_neg hp] at h
  cases h

/-- A sum that a machine word holds is the sum. -/
theorem plus_of_lt (h : m + n < USize.size) : plus m n = .ok (m + n) := if_pos h

theorem eq_of_plus (h : plus m n = .ok k) : m + n = k := by
  unfold plus at h
  split_ifs at h
  exact Except.ok.inj h

/-- A difference that is not negative is the difference. -/
theorem minus_of_le (h : n ≤ m) : minus m n = .ok (m - n) := if_pos h

theorem eq_of_minus (h : minus m n = .ok k) : m - n = k := by
  unfold minus at h
  split_ifs at h
  exact Except.ok.inj h

/-- A slice within its bounds is what lies between them. -/
theorem cut_of_le (h : start ≤ stop) (hs : stop ≤ bs.length) :
    cut bs start stop = .ok ((bs.take stop).drop start) := if_pos ⟨h, hs⟩

/-- The number at the head of a run that is long enough. -/
theorem next_of_le (h : width ≤ bs.length) :
    next width bs = .ok (Octets.word bs 0 width, bs.drop width) := if_pos h

/-- The number behind the first octets of a run that is long enough. -/
theorem next_drop (h : offset + width ≤ bs.length) :
    next width (bs.drop offset) = .ok (Octets.word bs offset width, bs.drop (offset + width)) := by
  have hw : width ≤ (bs.drop offset).length := by
    rw [List.length_drop]
    omega
  rw [next, if_pos hw, List.drop_drop, Octets.word]

/-- The same for three octets, the first of which counts for the other two. -/
theorem nextThree_drop (h : offset + 3 ≤ bs.length) :
    nextThree (bs.drop offset) = .ok (Octets.word bs offset 3, bs.drop (offset + 3)) := by
  have hfirst : offset + 1 ≤ bs.length := by omega
  have hothers : offset + 1 + 2 ≤ bs.length := by omega
  have hlow : Octets.word bs (offset + 1) 2 < 2 ^ 16 := Octets.word_lt hothers
  have hword : Octets.word bs offset 3 =
      Octets.word bs offset 1 <<< 16 ||| Octets.word bs (offset + 1) 2 := by
    rw [← Nat.shiftLeft_add_eq_or_of_lt hlow, Nat.shiftLeft_eq]
    exact Octets.word_add (show offset + (1 + 2) ≤ bs.length from h)
  rw [nextThree, next_drop hfirst, ok_bind]
  dsimp only
  rw [next_drop hothers, ok_bind, hword]
  rfl

theorem ofReading_eq_ok_iff {x : Except MessageError α} {a : α} :
    ofReading x = .ok a ↔ x = .ok a := by
  cases x with
  | error e => exact iff_of_false nofun nofun
  | ok b => exact ⟨fun h => congrArg Except.ok (Except.ok.inj h), fun h => congrArg ofReading h⟩

end Strict

/-! ## Headers -/

/-- A header is read without a breakdown, whatever the octets: every number that is read after the
check of the length lies in the first twenty of them. -/
theorem Header.readStrict_eq (raw : Octets) :
    Header.readStrict raw = .ofReading (Header.read raw) := by
  rw [readStrict, Header.read]
  dsimp only
  by_cases hsize : size ≤ raw.length
  · have hlong : 20 ≤ raw.length := hsize
    have hfirst : 1 ≤ raw.length := by omega
    rw [Strict.require_pos hsize, Strict.ok_bind, Strict.next_of_le hfirst, Strict.ok_bind,
      (Octets.holds_iff size raw).mpr hsize, Bool.not_true, if_neg Bool.false_ne_true]
    dsimp only
    by_cases hversion : UInt8.ofNat (Octets.word raw 0 1) = protocolVersion
    · rw [Strict.require_pos hversion, Strict.ok_bind, if_neg (not_not.mpr hversion)]
      simp (disch := omega) only [Strict.next_drop, Strict.nextThree_drop, Strict.ok_bind]
      rfl
    · rw [Strict.require_neg hversion, Strict.error_bind, if_pos hversion]
      rfl
  · have hshort : Octets.holds size raw = false := by
      rw [← Bool.not_eq_true, Octets.holds_iff]
      exact hsize
    rw [Strict.require_neg hsize, Strict.error_bind, hshort]
    rfl

/-! ## AVPs -/

namespace Avp

variable {raw rest : Octets} {offset length taken : Nat} {code : UInt32} {flags : UInt8}
  {vendorId : Option UInt32} {avp : Avp} {e : MessageError}

/-- The vendor of the AVP at the head of `rest`, if its flags announce one. -/
def vendorAt (rest : Octets) : Option UInt32 :=
  if UInt8.ofNat (Octets.word rest 4 1) &&& vendorFlag ≠ 0 then
    some (.ofNat (Octets.word rest 8 4))
  else none

/-- An AVP is read in four checks, of which the first that fails is the one reported. -/
theorem read_eq (offset : Nat) (rest : Octets) : Avp.read offset rest =
    if ¬ 8 ≤ rest.length then .error (.malformed (.truncatedAvp offset))
    else if ¬ headerLength (vendorAt rest) ≤ rest.length then
      .error (.malformed (.truncatedVendor (.ofNat (Octets.word rest 0 4))))
    else if Octets.word rest 5 3 < headerLength (vendorAt rest) then
      .error (.malformed (.shortAvp (.ofNat (Octets.word rest 0 4)) (Octets.word rest 5 3)))
    else if ¬ Octets.word rest 5 3 ≤ rest.length then
      .error (.malformed (.overrun (.ofNat (Octets.word rest 0 4)) (Octets.word rest 5 3)))
    else .ok ⟨.ofNat (Octets.word rest 0 4), .ofNat (Octets.word rest 4 1), vendorAt rest,
      (rest.take (Octets.word rest 5 3)).drop (headerLength (vendorAt rest))⟩ := by
  unfold Avp.read
  dsimp only
  simp only [Bool.not_eq_true', ← Bool.not_eq_true, Octets.holds_iff]
  rfl

/-- Header and value have the length by which the value is cut out. -/
theorem length_of_cut (hstart : headerLength vendorId ≤ length) (hfits : length ≤ rest.length)
    (code : UInt32) (flags : UInt8) :
    (Avp.mk code flags vendorId ((rest.take length).drop (headerLength vendorId))).length =
      length := by
  rw [Avp.length, List.length_drop, List.length_take]
  dsimp only
  omega

/-- An AVP that is read has the length that its header says, and lies in what it is read from. -/
theorem length_of_read (h : Avp.read offset rest = .ok avp) :
    avp.length = Octets.word rest 5 3 ∧ avp.length ≤ rest.length := by
  rw [read_eq] at h
  split_ifs at h with hhead hvendor hshort hfits
  have hlength := length_of_cut (Nat.le_of_not_lt hshort) hfits
  obtain rfl := Except.ok.inj h
  exact ⟨hlength .., Nat.le_trans (Nat.le_of_eq (hlength ..)) hfits⟩

/-- The vendor is read without a breakdown, if what stands before it is there. -/
theorem vendorStrict_eq (h : 8 ≤ rest.length) (code : UInt32) :
    vendorStrict code (.ofNat (Octets.word rest 4 1)) (rest.drop 8) =
      if ¬ headerLength (vendorAt rest) ≤ rest.length then
        .error (.refused (.malformed (.truncatedVendor code)))
      else .ok (vendorAt rest) := by
  rw [vendorStrict, vendorAt]
  by_cases hflag : UInt8.ofNat (Octets.word rest 4 1) &&& vendorFlag ≠ 0
  · have hlength : headerLength (some (UInt32.ofNat (Octets.word rest 8 4))) = 12 := rfl
    have hrest : 4 ≤ (rest.drop 8).length ↔ 12 ≤ rest.length := by
      rw [List.length_drop]
      omega
    rw [if_pos hflag, if_pos hflag, hlength]
    by_cases hvendor : 12 ≤ rest.length
    · rw [Strict.require_pos (hrest.mpr hvendor), Strict.ok_bind, Strict.next_drop hvendor,
        if_neg (not_not.mpr hvendor)]
      rfl
    · rw [Strict.require_neg (mt hrest.mp hvendor), if_pos hvendor]
      rfl
  · have hlength : headerLength none = 8 := rfl
    rw [if_neg hflag, if_neg hflag, hlength, if_neg (not_not.mpr h)]
    rfl

/-- Rounding up in the two low bits leads to the next multiple of four. -/
theorem shiftRight_shiftLeft_eq_padded (n : Nat) : (n + 3) >>> 2 <<< 2 = Octets.padded n := by
  rw [Nat.shiftRight_eq_div_pow, Nat.shiftLeft_eq]
  rfl

/-- The value of an AVP is cut out without a breakdown, wherever the AVP lies in a frame that
leaves the machine word room for the length. -/
theorem valueStrict_eq (hoffset : offset ≤ raw.length) (hlength : length < Octets.span 3)
    (hroom : raw.length + Octets.span 3 ≤ USize.size) :
    valueStrict raw offset code flags length vendorId =
      if length < headerLength vendorId then
        .error (.refused (.malformed (.shortAvp code length)))
      else if ¬ length ≤ (raw.drop offset).length then
        .error (.refused (.malformed (.overrun code length)))
      else .ok (⟨code, flags, vendorId,
          ((raw.drop offset).take length).drop (headerLength vendorId)⟩,
        min (Octets.padded length) (raw.length - offset)) := by
  have hraised : length + 3 < USize.size := by
    have hword : 2 ^ 32 ≤ USize.size := USize.le_size
    have hspan : Octets.span 3 + 3 < 2 ^ 32 := by decide
    omega
  have hstop : offset + length < USize.size := by omega
  have hover : length ≤ (raw.drop offset).length ↔ offset + length ≤ raw.length := by
    rw [List.length_drop]
    omega
  rw [valueStrict]
  split_ifs with hshort hfits
  · rw [Strict.require_neg (Nat.not_le.mpr hshort), Strict.error_bind]
  · have hstart : offset + headerLength vendorId < USize.size := by omega
    have hcut : Strict.cut raw (offset + headerLength vendorId) (offset + length) =
        .ok (((raw.drop offset).take length).drop (headerLength vendorId)) := by
      rw [Strict.cut_of_le (by omega) (hover.mp hfits), List.take_drop, List.drop_drop]
    rw [Strict.require_pos (Nat.le_of_not_lt hshort), Strict.ok_bind, Strict.plus_of_lt hstop,
      Strict.ok_bind, Strict.require_pos (hover.mp hfits), Strict.ok_bind,
      Strict.plus_of_lt hstart, Strict.ok_bind, Strict.ok_bind, hcut, Strict.ok_bind,
      Strict.plus_of_lt hraised, Strict.ok_bind, Strict.minus_of_le hoffset, Strict.ok_bind,
      shiftRight_shiftLeft_eq_padded]
    rfl
  · rw [Strict.require_pos (Nat.le_of_not_lt hshort), Strict.ok_bind, Strict.plus_of_lt hstop,
      Strict.ok_bind, Strict.require_neg (mt hover.mpr hfits), Strict.error_bind]

/-- An AVP is read without a breakdown at any place of a frame that leaves the machine word room
for its length. -/
theorem readStrict_eq (hoffset : offset ≤ raw.length)
    (hroom : raw.length + Octets.span 3 ≤ USize.size) :
    readStrict raw offset = .ofReading ((Avp.read offset (raw.drop offset)).map fun avp =>
      (avp, min avp.size (raw.length - offset))) := by
  have hcut : Strict.cut raw offset raw.length = .ok (raw.drop offset) := by
    rw [Strict.cut_of_le hoffset (Nat.le_refl _), List.take_length]
  rw [readStrict, hcut, Strict.ok_bind, read_eq]
  by_cases hhead : 8 ≤ (raw.drop offset).length
  · have hcode : 4 ≤ (raw.drop offset).length := by omega
    have hflags : 4 + 1 ≤ (raw.drop offset).length := by omega
    rw [Strict.require_pos hhead, Strict.ok_bind, Strict.next_of_le hcode, Strict.ok_bind,
      if_neg (not_not.mpr hhead)]
    dsimp only
    rw [Strict.next_drop hflags, Strict.ok_bind]
    dsimp only
    rw [Strict.nextThree_drop hhead, Strict.ok_bind]
    dsimp only
    rw [vendorStrict_eq hhead]
    by_cases hvendor : headerLength (vendorAt (raw.drop offset)) ≤ (raw.drop offset).length
    · rw [if_neg (not_not.mpr hvendor), if_neg (not_not.mpr hvendor), Strict.ok_bind,
        valueStrict_eq hoffset (Octets.word_lt hhead) hroom]
      split_ifs with hshort hfits
      · rfl
      · have hlength := length_of_cut (Nat.le_of_not_lt hshort) hfits
        exact congrArg (fun n => Except.ok (_, min (Octets.padded n) _)) (hlength _ _).symm
      · rfl
    · rw [if_pos hvendor, if_pos hvendor, Strict.error_bind]
      rfl
  · rw [Strict.require_neg hhead, Strict.error_bind, if_pos hhead]
    rfl

/-- A place behind the end of the frame is out of bounds. -/
example : readStrict [] 1 = .error .breakdown := rfl

/-- An AVP whose value was cut out takes up at least one of the octets that are left. -/
theorem taken_pos_of_value (hleft : offset < raw.length)
    (h : valueStrict raw offset code flags length vendorId = .ok (avp, taken)) : 0 < taken := by
  simp only [valueStrict, Strict.bind_eq_ok_iff] at h
  obtain ⟨_, hstart, _, -, _, -, _, -, _, -, _, -, raised, hraised, left, hminus, hresult⟩ := h
  have hlength := Strict.of_require hstart
  have hheader : 8 ≤ headerLength vendorId := by
    unfold headerLength
    split <;> omega
  have htaken : min (raised >>> 2 <<< 2) left = taken :=
    (Prod.mk.inj (Except.ok.inj hresult)).2
  rw [← Strict.eq_of_plus hraised, ← Strict.eq_of_minus hminus,
    shiftRight_shiftLeft_eq_padded] at htaken
  have hpadded := Octets.le_padded length
  omega

/-- An AVP that is read takes up at least one of the octets that are left. -/
theorem taken_pos (hleft : offset < raw.length)
    (h : readStrict raw offset = .ok (avp, taken)) : 0 < taken := by
  simp only [readStrict, Strict.bind_eq_ok_iff] at h
  obtain ⟨_, -, _, -, _, -, _, -, _, -, _, -, hvalue⟩ := h
  exact taken_pos_of_value hleft hvalue

end Avp

end Diameter
