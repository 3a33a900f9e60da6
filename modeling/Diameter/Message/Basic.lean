import Diameter.Address.Basic
import Diameter.Message.Error

/-!
# Messages

A message is a header of twenty octets and a list of attribute-value pairs. An AVP
is looked up by its code alone; its vendor plays no part.
-/

namespace Diameter

/-- The only version in use. -/
def protocolVersion : UInt8 := 1

/-- The application that the exchanges between peers belong to. -/
def baseApplication : UInt32 := 0

namespace Command

/-- The exchange that opens a connection. -/
def capabilitiesExchange : UInt32 := 257

/-- The exchange that probes a silent connection. -/
def deviceWatchdog : UInt32 := 280

/-- The exchange that announces a disconnect. -/
def disconnectPeer : UInt32 := 282

end Command

namespace AvpCode

/-- An address of the sender. -/
def hostIpAddress : UInt32 := 257

/-- The name of the sender. -/
def originHost : UInt32 := 264

/-- The vendor of the sender. -/
def vendorId : UInt32 := 266

/-- The outcome that an answer reports. -/
def resultCode : UInt32 := 268

/-- The product of the sender. -/
def productName : UInt32 := 269

/-- Why a peer disconnects. -/
def disconnectCause : UInt32 := 273

/-- The realm of the sender. -/
def originRealm : UInt32 := 296

end AvpCode

/-- The header of a message. -/
structure Header where
  /-- The protocol version. -/
  version : UInt8
  /-- The length of the whole message, header included. -/
  length : Nat
  /-- The command flags. -/
  flags : UInt8
  /-- What is asked or answered. -/
  commandCode : UInt32
  /-- The application that the command belongs to. -/
  applicationId : UInt32
  /-- Pairs an answer with its request on one connection. -/
  hopByHop : UInt32
  /-- Pairs an answer with its request from end to end. -/
  endToEnd : UInt32
  deriving DecidableEq, Repr

namespace Header

/-- The length of a header. -/
def size : Nat := 20

/-- The command flag of a request. -/
def requestFlag : UInt8 := 0x80

/-- Whether the message is a request. -/
def isRequest (h : Header) : Bool := h.flags &&& requestFlag != 0

/-- Whether the message is the request that opens a connection. -/
def isCapabilitiesRequest (h : Header) : Bool :=
  h.commandCode == Command.capabilitiesExchange && h.applicationId == baseApplication
    && h.isRequest

end Header

/-- An attribute-value pair. -/
structure Avp where
  /-- What the value means. -/
  code : UInt32
  /-- The AVP flags. -/
  flags : UInt8
  /-- Who defined the code, if the vendor flag is set. -/
  vendorId : Option UInt32
  /-- The value without its padding. -/
  data : Octets
  deriving DecidableEq, Repr

namespace Avp

/-- The flag of an AVP that names its vendor. -/
def vendorFlag : UInt8 := 0x80

/-- The flag of an AVP that has to be understood. -/
def mandatoryFlag : UInt8 := 0x40

/-- Whether the AVP has to be understood. -/
def isMandatory (a : Avp) : Bool := a.flags &&& mandatoryFlag != 0

/-- The length of an AVP header, which is longer if it names a vendor. -/
def headerLength (vendorId : Option UInt32) : Nat := if vendorId.isSome then 12 else 8

/-- The length of header and data. -/
def length (a : Avp) : Nat := headerLength a.vendorId + a.data.length

/-- The octets that the AVP takes up, padding included. -/
def size (a : Avp) : Nat := Octets.padded a.length

/-- The value as text. -/
def text? (a : Avp) : Option String := Octets.text? a.data

/-- The value as a number of 32 bits. -/
def number? (a : Avp) : Option UInt32 :=
  if a.data.length = 4 then some (.ofNat (Octets.toNat a.data)) else none

/-- The number that stands for the family of an address. -/
def familyOf (address : Address) : Nat := if address.isV4 then 1 else 2

/-- The value as an address: the number of its family, then its octets. -/
def address? (a : Avp) : Option Address :=
  match Address.ofOctets? (a.data.drop 2) with
  | some address =>
    if Octets.toNat (a.data.take 2) = familyOf address then some address else none
  | none => none

theorem eight_le_size (a : Avp) : 8 ≤ a.size := by
  have enough : 8 ≤ a.length := by
    unfold length headerLength
    split <;> omega
  exact Nat.le_trans enough (Octets.le_padded a.length)

end Avp

/-- A message as it was read. -/
structure Message where
  /-- Its header. -/
  header : Header
  /-- Its AVPs in order. -/
  avps : List Avp
  /-- The frame that it was read from. -/
  raw : Octets
  deriving DecidableEq, Repr

namespace Message

/-- The first AVP with the given code. -/
def find? (m : Message) (code : UInt32) : Option Avp := m.avps.find? (·.code == code)

/-- How many AVPs have the given code. -/
def count (m : Message) (code : UInt32) : Nat := m.avps.countP (·.code == code)

/-- The name that the sender gives itself. -/
def originHost? (m : Message) : Option String := (m.find? AvpCode.originHost).bind Avp.text?

/-- The realm that the sender gives itself. -/
def originRealm? (m : Message) : Option String := (m.find? AvpCode.originRealm).bind Avp.text?

end Message

end Diameter
