import Diameter.Message.Reader

/-!
# Command grammars

A dictionary holds, for some commands, how often each AVP may occur in a request and
in an answer. A message whose command has no grammar is accepted. Otherwise the rules
are checked in order, then the names of host and realm, then every address.
-/

namespace Diameter

/-- How often an AVP may occur. -/
structure Rule where
  /-- The AVP. -/
  code : UInt32
  /-- The least number of occurrences. -/
  least : Nat
  /-- The greatest number of occurrences, if there is one. -/
  most : Option Nat
  deriving DecidableEq, Repr

/-- An AVP that occurs exactly once. -/
def Rule.required (code : UInt32) : Rule := ⟨code, 1, some 1⟩

/-- An AVP that occurs at least once. -/
def Rule.oneOrMore (code : UInt32) : Rule := ⟨code, 1, none⟩

/-- The grammar of a command. -/
structure Grammar where
  /-- The name of the command. -/
  name : String
  /-- The rules for a request. -/
  request : List Rule
  /-- The rules for an answer. -/
  answer : List Rule
  deriving DecidableEq, Repr

/-- Grammars by command code. Of two for one command the first is in force. -/
structure Dictionary where
  /-- The grammars, the latest first. -/
  grammars : List (UInt32 × Grammar)
  deriving DecidableEq, Repr

namespace Dictionary

/-- The dictionary that accepts every message. -/
def empty : Dictionary := ⟨[]⟩

/-- The dictionary in which `grammar` is in force for `code`. -/
def insert (d : Dictionary) (code : UInt32) (grammar : Grammar) : Dictionary :=
  ⟨(code, grammar) :: d.grammars⟩

/-- The grammar in force for a command. -/
def grammar? (d : Dictionary) (code : UInt32) : Option Grammar := d.grammars.lookup code

/-- The rules that say who sends a message. -/
def originRules : List Rule := [.required AvpCode.originHost, .required AvpCode.originRealm]

/-- The rules that describe the capabilities of the sender. -/
def capabilityRules : List Rule :=
  originRules ++ [.oneOrMore AvpCode.hostIpAddress, .required AvpCode.vendorId,
    .required AvpCode.productName]

/-- The commands that peers exchange about their connection. -/
def base : Dictionary :=
  ⟨[(Command.capabilitiesExchange,
      ⟨"Capabilities-Exchange", capabilityRules,
        .required AvpCode.resultCode :: capabilityRules⟩),
    (Command.deviceWatchdog,
      ⟨"Device-Watchdog", originRules, .required AvpCode.resultCode :: originRules⟩),
    (Command.disconnectPeer,
      ⟨"Disconnect-Peer", originRules ++ [.required AvpCode.disconnectCause],
        .required AvpCode.resultCode :: originRules⟩)]⟩

/-- Whether a rule of `command` is kept. Too few is reported before too many. -/
def checkRule (m : Message) (rule : Rule) : Except MessageError Unit :=
  let command := m.header.commandCode
  let count := m.count rule.code
  if count < rule.least then .error (.missingAvp command rule.code)
  else
    match rule.most with
    | none => .ok ()
    | some most =>
      if most < count then .error (.tooManyAvps command rule.code count most) else .ok ()

/-- Whether the first AVP of the given code, if there is one, is a name. -/
def checkIdentity (m : Message) (code : UInt32) : Except MessageError Unit :=
  match m.find? code with
  | none => .ok ()
  | some avp =>
    if avp.data = [] ∨ avp.text? = none then .error (.invalidAvp code .notIdentity) else .ok ()

/-- Whether an AVP that should hold an address does. -/
def checkAddress (avp : Avp) : Except MessageError Unit :=
  if avp.code = AvpCode.hostIpAddress ∧ avp.address? = none then
    .error (.invalidAvp avp.code .notAddress)
  else .ok ()

/-- Whether a message keeps the grammar of its command. -/
def check (d : Dictionary) (m : Message) : Except MessageError Unit := do
  match d.grammar? m.header.commandCode with
  | none => return ()
  | some grammar =>
    (if m.header.isRequest then grammar.request else grammar.answer).forM (checkRule m)
    checkIdentity m AvpCode.originHost
    checkIdentity m AvpCode.originRealm
    m.avps.forM checkAddress

end Dictionary

/-- How an acceptor reads the first message of a connection and judges it. -/
structure Codec where
  /-- Reads a frame. -/
  parse : Octets → Except MessageError Message
  /-- Judges a message. -/
  validate : Message → Except MessageError Unit

namespace Codec

/-- Reads a frame whose length has not been looked at. -/
def parseFrame (raw : Octets) : Except MessageError Message :=
  if Octets.holds Header.size raw then Message.read raw
  else .error (.malformed .shortFrame)

/-- The codec that judges by a dictionary. -/
def ofDictionary (d : Dictionary) : Codec := ⟨parseFrame, d.check⟩

/-- The codec for the exchanges between peers. -/
def base : Codec := ofDictionary .base

end Codec

end Diameter
