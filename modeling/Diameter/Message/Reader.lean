import Diameter.Message.Basic

/-!
# Reading a message

A frame is read from left to right: header, lengths, then one AVP after the other.
The first fault that is met is the one reported. Each AVP takes up at least eight
octets, so the reading ends.
-/

namespace Diameter

/-- The header at the start of a frame. -/
def Header.read (raw : Octets) : Except MessageError Header :=
  let version : UInt8 := .ofNat (Octets.word raw 0 1)
  if !Octets.holds size raw then .error (.malformed (.shortHeader raw.length))
  else if version ≠ protocolVersion then .error (.malformed (.version version))
  else .ok {
    version
    length := Octets.word raw 1 3
    flags := .ofNat (Octets.word raw 4 1)
    commandCode := .ofNat (Octets.word raw 5 3)
    applicationId := .ofNat (Octets.word raw 8 4)
    hopByHop := .ofNat (Octets.word raw 12 4)
    endToEnd := .ofNat (Octets.word raw 16 4) }

/-- The AVP at the head of `rest`, which is what follows the first `offset` octets. -/
def Avp.read (offset : Nat) (rest : Octets) : Except MessageError Avp :=
  let code : UInt32 := .ofNat (Octets.word rest 0 4)
  let flags : UInt8 := .ofNat (Octets.word rest 4 1)
  let length := Octets.word rest 5 3
  let vendorId : Option UInt32 :=
    if flags &&& vendorFlag ≠ 0 then some (.ofNat (Octets.word rest 8 4)) else none
  let start := headerLength vendorId
  if !Octets.holds 8 rest then .error (.malformed (.truncatedAvp offset))
  else if !Octets.holds start rest then .error (.malformed (.truncatedVendor code))
  else if length < start then .error (.malformed (.shortAvp code length))
  else if !Octets.holds length rest then .error (.malformed (.overrun code length))
  else .ok { code, flags, vendorId, data := (rest.take length).drop start }

/-- The AVPs that fill `rest`. -/
def Avp.readAll (offset : Nat) (rest : Octets) : Except MessageError (List Avp) :=
  if rest = [] then .ok []
  else
    match Avp.read offset rest with
    | .error e => .error e
    | .ok avp =>
      match Avp.readAll (offset + avp.size) (rest.drop avp.size) with
      | .error e => .error e
      | .ok avps => .ok (avp :: avps)
termination_by rest.length
decreasing_by
  have := Avp.eight_le_size avp
  have : rest.length ≠ 0 := by simpa using ‹¬rest = []›
  simp only [List.length_drop]
  omega

/-- The message that a complete frame holds. -/
def Message.read (raw : Octets) : Except MessageError Message := do
  let header ← Header.read raw
  let held := raw.length
  if header.length ≠ held then throw (.malformed (.wrongLength header.length held))
  if header.length % 4 ≠ 0 then throw (.malformed (.unaligned header.length))
  let avps ← Avp.readAll Header.size (raw.drop Header.size)
  return { header, avps, raw }

end Diameter
