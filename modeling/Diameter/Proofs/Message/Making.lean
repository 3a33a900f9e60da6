import Diameter.Proofs.Message.RoundTrip
import Mathlib.Algebra.GroupWithZero.Nat
import Mathlib.Data.List.Forall2

/-!
# How drafts are made

A draft starts as a request, an answer, or one of the two requests that need AVPs, and calls
append AVPs and set identifiers. Main statement: whatever the calls are, the message that is
sent is read back as their entries in order, or it is refused because it is too long.
-/

namespace Diameter

namespace Draft

/-- What a draft is started from. -/
inductive Origin where
  | request (command application : UInt32)
  | answer (command application : UInt32)
  | capabilities (host realm : String) (address : Address)
  | watchdog (host realm : String)

/-- An AVP by what it is to hold. -/
inductive Entry where
  | data (code : UInt32) (value : Octets)
  | text (code : UInt32) (value : String)
  | number (code value : UInt32)
  | address (code : UInt32) (value : Address)
  | ofVendor (code vendor : UInt32) (value : Octets)

/-- What can be done to a draft. -/
inductive Call where
  | hopByHop (id : UInt32)
  | endToEnd (id : UInt32)
  | append (entry : Entry)

/-- The AVP of an entry. -/
def Entry.avp : Entry → Avp
  | .data code value => .ofData code value
  | .text code value => .ofText code value
  | .number code value => .ofNumber code value
  | .address code value => .ofAddress code value
  | .ofVendor code vendor value => Avp.ofVendor code vendor value

/-- An AVP has the code, flags, vendor and data of an entry, and shows its value. -/
def Entry.ShownBy : Entry → Avp → Prop
  | .data code value, a => a = ⟨code, Avp.mandatoryFlag, none, value⟩
  | .text code value, a =>
    a = ⟨code, Avp.mandatoryFlag, none, Octets.ofText value⟩ ∧ a.text? = some value
  | .number code value, a =>
    a = ⟨code, Avp.mandatoryFlag, none, Octets.ofNat 4 value.toNat⟩ ∧ a.number? = some value
  | .address code value, a =>
    a = ⟨code, Avp.mandatoryFlag, none, Octets.ofNat 2 (if value.isV4 then 1 else 2) ++ value.octets⟩ ∧
      a.address? = some value
  | .ofVendor code vendor value, a => a = ⟨code, Avp.vendorFlag, some vendor, value⟩

namespace Origin

/-- The draft that carries `id` as both identifiers. -/
def draft (id : UInt32) : Origin → Draft
  | request command application => Draft.request id command application
  | answer command application => Draft.answer id command application
  | capabilities host realm address => capabilitiesRequest id host realm address
  | watchdog host realm => watchdogRequest id host realm

/-- The command flags. -/
def flags : Origin → UInt8
  | answer .. => 0
  | _ => Header.requestFlag

/-- The command. -/
def command : Origin → UInt32
  | request command _ | answer command _ => command
  | capabilities .. => Command.capabilitiesExchange
  | watchdog .. => Command.deviceWatchdog

/-- The application. -/
def application : Origin → UInt32
  | request _ application | answer _ application => application
  | _ => baseApplication

/-- The entries that are there from the start. -/
def entries : Origin → List Entry
  | request .. | answer .. => []
  | capabilities host realm address =>
    [.text AvpCode.originHost host, .text AvpCode.originRealm realm,
      .address AvpCode.hostIpAddress address, .number AvpCode.vendorId 0,
      .text AvpCode.productName productName]
  | watchdog host realm => [.text AvpCode.originHost host, .text AvpCode.originRealm realm]

end Origin

namespace Call

/-- The entry that a call appends. -/
def entry? : Call → Option Entry
  | append entry => some entry
  | _ => none

/-- The identifier for one connection that a call sets. -/
def hopByHop? : Call → Option UInt32
  | hopByHop id => some id
  | _ => none

/-- The identifier from end to end that a call sets. -/
def endToEnd? : Call → Option UInt32
  | endToEnd id => some id
  | _ => none

end Call

/-- The draft after one call. -/
def call (d : Draft) : Call → Draft
  | .hopByHop id => { d with hopByHop := id }
  | .endToEnd id => { d with endToEnd := id }
  | .append entry => d.push entry.avp

/-- The draft after all calls. -/
def made (origin : Origin) (id : UInt32) (calls : List Call) : Draft :=
  calls.foldl call (origin.draft id)

/-- The entries that a draft is to show, those of its origin first. -/
def entriesOf (origin : Origin) (calls : List Call) : List Entry :=
  origin.entries ++ calls.filterMap Call.entry?

/-- The value that was set last, or the given one if none was set. -/
def latest (id : UInt32) (set : List UInt32) : UInt32 := set.getLast?.getD id

/-! ## What calls lead to -/

/-- Every entry is shown by the AVP that is made for it. -/
theorem Entry.shownBy_avp (e : Entry) : e.ShownBy e.avp := by
  cases e with
  | data code value => rfl
  | text code value => exact ⟨rfl, Avp.text?_ofText code value⟩
  | number code value => exact ⟨rfl, Avp.number?_ofNumber code value⟩
  | address code value => exact ⟨rfl, Avp.address?_ofAddress code value⟩
  | ofVendor code vendor value => rfl

/-- Only an AVP of a vendor has the flag of one. -/
theorem Entry.consistent_avp (e : Entry) : e.avp.Consistent := by
  have hmandatory : ¬(Avp.mandatoryFlag &&& Avp.vendorFlag ≠ 0) := by decide
  have hvendor : Avp.vendorFlag &&& Avp.vendorFlag ≠ 0 := by decide
  cases e with
  | ofVendor code vendor value => exact iff_of_true hvendor rfl
  | _ => exact iff_of_false hmandatory nofun

theorem latest_cons (id next : UInt32) (set : List UInt32) :
    latest id (next :: set) = latest next set := by
  rw [latest, List.getLast?_cons, Option.getD_some, latest]

/-- Calls append their entries in order, set the identifiers and do nothing else. -/
theorem foldl_call (d : Draft) (calls : List Call) :
    calls.foldl call d =
      { d with
        hopByHop := latest d.hopByHop (calls.filterMap Call.hopByHop?)
        endToEnd := latest d.endToEnd (calls.filterMap Call.endToEnd?)
        avps := d.avps ++ (calls.filterMap Call.entry?).map Entry.avp } := by
  induction calls generalizing d with
  | nil => simp [latest]
  | cons c calls ih =>
    rw [List.foldl_cons, ih]
    cases c with
    | hopByHop id =>
      simp only [List.filterMap_cons, Call.hopByHop?, Call.endToEnd?, Call.entry?, latest_cons, call]
    | endToEnd id =>
      simp only [List.filterMap_cons, Call.hopByHop?, Call.endToEnd?, Call.entry?, latest_cons, call]
    | append entry =>
      simp only [List.filterMap_cons, Call.hopByHop?, Call.endToEnd?, Call.entry?, call, push,
        List.map_cons, List.append_assoc, List.singleton_append]

/-- The header of a draft that was made, and its AVPs. -/
theorem made_eq (origin : Origin) (id : UInt32) (calls : List Call) :
    made origin id calls =
      { flags := origin.flags
        commandCode := origin.command
        applicationId := origin.application
        hopByHop := latest id (calls.filterMap Call.hopByHop?)
        endToEnd := latest id (calls.filterMap Call.endToEnd?)
        avps := (entriesOf origin calls).map Entry.avp } := by
  rw [made, foldl_call, entriesOf, List.map_append]
  cases origin <;> rfl

/-- What is made has flags that fit its vendors. -/
theorem consistent_made (origin : Origin) (id : UInt32) (calls : List Call) :
    (made origin id calls).Consistent := by
  intro a ha
  rw [made_eq] at ha
  obtain ⟨e, -, rfl⟩ := List.mem_map.mp ha
  exact e.consistent_avp

/-- Every message that is made from an origin by calls is read back as what went into it, or it
is too long, and then it is refused as malformed. -/
theorem made_is_read_back_or_refused (origin : Origin) (id : UInt32) (calls : List Call) :
    let size := Header.size + ((entriesOf origin calls).map fun e => e.avp.size).sum
    (size < 2 ^ 24 → ∃ m, Message.read (made origin id calls).write = .ok m ∧
      m.header =
        { version := 1
          length := size
          flags := origin.flags
          commandCode := .ofNat (origin.command.toNat % 2 ^ 24)
          applicationId := origin.application
          hopByHop := latest id (calls.filterMap Call.hopByHop?)
          endToEnd := latest id (calls.filterMap Call.endToEnd?) } ∧
      List.Forall₂ Entry.ShownBy (entriesOf origin calls) m.avps ∧
      m.raw = (made origin id calls).write) ∧
    (2 ^ 24 ≤ size → ∃ cause,
      Message.read (made origin id calls).write = .error (.malformed cause)) := by
  have hsize : (made origin id calls).size =
      Header.size + ((entriesOf origin calls).map fun e => e.avp.size).sum := by
    rw [size, made_eq, List.foldr_map, List.sum, List.foldr_map]
  dsimp only
  rw [← hsize]
  constructor
  · intro hl
    refine ⟨_, read_write (consistent_made origin id calls) hl, ?_, ?_, rfl⟩
    · rw [header, made_eq]
      rfl
    · rw [made_eq, List.forall₂_map_right_iff]
      exact List.forall₂_same.mpr fun e _ => e.shownBy_avp
  · intro hl
    exact ⟨_, read_write_of_le hl⟩

/-- Calls that append an AVP of nine octets, one of a vendor, and one with an address. -/
def threeEntries : List Call :=
  [.append (.data 264 [97]), .hopByHop 7, .append (.ofVendor 1000 10415 [120, 121]),
    .append (.address 257 (.v4 192 0 2 1))]

/-- A call that appends an AVP with `n` octets of data. -/
def zeros (n : Nat) : List Call := [.append (.data 264 (List.replicate n 0))]

/-- Sixty-four octets are read back, with the high octet of the command gone; 2 ^ 24 octets
are refused. -/
theorem three_read_back_long_refused :
    (∃ m, Message.read (made (.request 0x1000118 4) 1 threeEntries).write = .ok m ∧
      m.header = ⟨1, 64, 128, 280, 4, 7, 1⟩ ∧
      List.Forall₂ Entry.ShownBy (entriesOf (.request 0x1000118 4) threeEntries) m.avps ∧
      m.raw = (made (.request 0x1000118 4) 1 threeEntries).write) ∧
    ∃ cause, Message.read (made (.answer 280 0) 1 (zeros (2 ^ 24 - 28))).write =
      .error (.malformed cause) := by
  have hzeros (n : Nat) : Header.size + ((entriesOf (.answer 280 0) (zeros n)).map
      fun e => e.avp.size).sum = 20 + Octets.padded (8 + n) := by
    simp [entriesOf, Origin.entries, zeros, Call.entry?, Entry.avp, Avp.ofData, Avp.size,
      Avp.length, Avp.headerLength, Header.size]
  have hlong := hzeros (2 ^ 24 - 28)
  refine ⟨(made_is_read_back_or_refused (.request 0x1000118 4) 1 threeEntries).1 (by decide),
    (made_is_read_back_or_refused (.answer 280 0) 1 (zeros (2 ^ 24 - 28))).2 ?_⟩
  rw [hlong, Octets.padded]
  omega

end Draft

end Diameter
