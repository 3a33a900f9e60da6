/-!
# Why a message is refused

A frame may break the wire grammar, or a well-formed message may break the grammar
of its command. The wording of every cause is given here and nowhere else.
-/

namespace Diameter

/-- How a frame breaks the wire grammar. -/
inductive Malformation where
  /-- The frame ends inside the header. -/
  | shortFrame
  /-- Only `held` octets are there. -/
  | shortHeader (held : Nat)
  /-- The version is not the one in use. -/
  | version (found : UInt8)
  /-- The header declares another length than the frame has. -/
  | wrongLength (declared held : Nat)
  /-- The length is not a multiple of four. -/
  | unaligned (length : Nat)
  /-- An AVP header does not fit into what is left. -/
  | truncatedAvp (offset : Nat)
  /-- The vendor of an AVP does not fit into what is left. -/
  | truncatedVendor (code : UInt32)
  /-- The length of an AVP is less than its header. -/
  | shortAvp (code : UInt32) (length : Nat)
  /-- The length of an AVP is more than what is left. -/
  | overrun (code : UInt32) (length : Nat)
  /-- A cause that another codec describes in its own words. -/
  | described (text : String)
  deriving DecidableEq, Repr

/-- The wording of a malformation. -/
def Malformation.message : Malformation → String
  | .shortFrame => "frame shorter than the header"
  | .shortHeader held => s!"{held} bytes is shorter than the header"
  | .version found => s!"unsupported version {found.toNat}"
  | .wrongLength declared held => s!"header declares {declared} bytes, frame holds {held}"
  | .unaligned length => s!"length {length} is not a multiple of 4"
  | .truncatedAvp offset => s!"truncated AVP header at offset {offset}"
  | .truncatedVendor code => s!"AVP {code.toNat}: truncated vendor id"
  | .shortAvp code length => s!"AVP {code.toNat}: length {length} below header size"
  | .overrun code length => s!"AVP {code.toNat}: length {length} overruns the message"
  | .described text => text

/-- What an AVP should have held. -/
inductive AvpFault where
  /-- A host or realm name that is not empty. -/
  | notIdentity
  /-- An address of either family. -/
  | notAddress
  /-- A reason that another codec describes in its own words. -/
  | described (text : String)
  deriving DecidableEq, Repr

/-- The wording of an AVP fault. -/
def AvpFault.message : AvpFault → String
  | .notIdentity => "not a valid DiameterIdentity"
  | .notAddress => "not an IPv4 or IPv6 address"
  | .described text => text

/-- Why a codec refuses a message. -/
inductive MessageError where
  /-- The octets are no message. -/
  | malformed (cause : Malformation)
  /-- An AVP occurs less often than its command asks for. -/
  | missingAvp (command avp : UInt32)
  /-- An AVP occurs more often than its command allows. -/
  | tooManyAvps (command avp : UInt32) (count most : Nat)
  /-- An AVP does not hold what its code promises. -/
  | invalidAvp (avp : UInt32) (fault : AvpFault)
  /-- The codec itself failed, which no peer can be blamed for. -/
  | internal (text : String)
  deriving DecidableEq, Repr

namespace MessageError

/-- The wording of a refusal. -/
def message : MessageError → String
  | malformed cause => s!"malformed message: {cause.message}"
  | missingAvp command avp =>
    s!"command {command.toNat}: missing required AVP {avp.toNat}"
  | tooManyAvps command avp count most =>
    s!"command {command.toNat}: AVP {avp.toNat} occurs {count} times, at most {most} allowed"
  | invalidAvp avp fault => s!"AVP {avp.toNat}: {fault.message}"
  | internal text => s!"codec internal error: {text}"

/-- Whether the failure is our own and not the peer's. -/
def isFatal : MessageError → Bool
  | internal _ => true
  | _ => false

end MessageError

end Diameter
