import Diameter.Message.Basic

/-!
# Writing a message

A draft collects AVPs in the order in which they are to be sent. Writing it fills in
the lengths, of which only the low 24 bits fit, and pads every AVP with zeros.
-/

namespace Diameter

/-- The octets of a header. -/
def Header.write (h : Header) : Octets :=
  h.version :: Octets.ofNat 3 h.length ++ h.flags :: Octets.ofNat 3 h.commandCode.toNat
    ++ Octets.ofNat 4 h.applicationId.toNat ++ Octets.ofNat 4 h.hopByHop.toNat
    ++ Octets.ofNat 4 h.endToEnd.toNat

namespace Avp

/-- The octets of an AVP up to its data. -/
def writeHeader (a : Avp) : Octets :=
  Octets.ofNat 4 a.code.toNat ++ a.flags :: Octets.ofNat 3 a.length
    ++ (match a.vendorId with
      | some vendor => Octets.ofNat 4 vendor.toNat
      | none => [])

/-- The octets of an AVP with its padding. -/
def write (a : Avp) : Octets :=
  a.writeHeader ++ a.data ++ List.replicate (a.size - a.length) 0

/-- An AVP that has to be understood. -/
def ofData (code : UInt32) (data : Octets) : Avp := ⟨code, mandatoryFlag, none, data⟩

/-- An AVP that holds text. -/
def ofText (code : UInt32) (value : String) : Avp := ofData code (Octets.ofText value)

/-- An AVP that holds a number. -/
def ofNumber (code value : UInt32) : Avp := ofData code (Octets.ofNat 4 value.toNat)

/-- An AVP that holds an address. -/
def ofAddress (code : UInt32) (value : Address) : Avp :=
  ofData code (Octets.ofNat 2 (familyOf value) ++ value.octets)

/-- An AVP whose code a vendor defined. -/
def ofVendor (code vendor : UInt32) (data : Octets) : Avp :=
  ⟨code, vendorFlag, some vendor, data⟩

end Avp

/-- A message that is being put together. -/
structure Draft where
  /-- The command flags. -/
  flags : UInt8
  /-- The command, of which the low 24 bits are sent. -/
  commandCode : UInt32
  /-- The application. -/
  applicationId : UInt32
  /-- The identifier for one connection. -/
  hopByHop : UInt32
  /-- The identifier from end to end. -/
  endToEnd : UInt32
  /-- The AVPs in the order of sending. -/
  avps : List Avp
  deriving DecidableEq, Repr

namespace Draft

/-- The product name that a probe sends. -/
def productName : String := "diameter-acceptor"

/-- A request without AVPs that carries `id` as both identifiers. -/
def request (id command application : UInt32) : Draft :=
  ⟨Header.requestFlag, command, application, id, id, []⟩

/-- An answer without AVPs that carries `id` as both identifiers. -/
def answer (id command application : UInt32) : Draft :=
  ⟨0, command, application, id, id, []⟩

/-- The draft with one more AVP at its end. -/
def push (d : Draft) (avp : Avp) : Draft := { d with avps := d.avps ++ [avp] }

/-- The request that opens a connection, with everything that the base grammar asks for. -/
def capabilitiesRequest (id : UInt32) (host realm : String) (address : Address) : Draft :=
  { request id Command.capabilitiesExchange baseApplication with
    avps := [
      .ofText AvpCode.originHost host,
      .ofText AvpCode.originRealm realm,
      .ofAddress AvpCode.hostIpAddress address,
      .ofNumber AvpCode.vendorId 0,
      .ofText AvpCode.productName productName] }

/-- The request that probes a silent connection. -/
def watchdogRequest (id : UInt32) (host realm : String) : Draft :=
  { request id Command.deviceWatchdog baseApplication with
    avps := [.ofText AvpCode.originHost host, .ofText AvpCode.originRealm realm] }

/-- What a draft starts from. -/
inductive Opening where
  /-- A request or answer without AVPs. -/
  | request
  | answer
  /-- A request with the AVPs that it needs. -/
  | capabilities
  | watchdog
  /-- The copy of a request. -/
  | copy
  deriving DecidableEq, Repr

/-- A draft that starts from `opening` and carries `id`. -/
def opened (id : UInt32) : Opening → Draft
  | .request | .copy => request id Command.deviceWatchdog baseApplication
  | .answer => answer id Command.deviceWatchdog baseApplication
  | .capabilities => capabilitiesRequest id "" "" Address.anyV4
  | .watchdog => watchdogRequest id "" ""

/-- Drafts that are made one after the other. Each takes the next identifier; a copy has
that of the request which it was copied from. -/
def series (id : UInt32) : List Opening → List Draft
  | [] => []
  | opening :: rest => opened id opening :: series (id + 1) rest

/-- The length of the written message. -/
def size (d : Draft) : Nat := Header.size + d.avps.foldr (fun avp n => avp.size + n) 0

/-- The header that the draft is sent with. -/
def header (d : Draft) : Header :=
  ⟨protocolVersion, d.size, d.flags, d.commandCode, d.applicationId, d.hopByHop, d.endToEnd⟩

/-- The octets of the message. -/
def write (d : Draft) : Octets := d.header.write ++ d.avps.flatMap Avp.write

end Draft

end Diameter
