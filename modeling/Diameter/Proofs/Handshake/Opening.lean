import Diameter.Handshake.Basic
import Diameter.Proofs.Message.Judging

/-!
# Which first messages open an exchange

A first message passes the frame reader, the rules of its command, the looks at names and
addresses, and the question whether it is the request that opens a connection. Main statement:
together they accept exactly the frames whose message names its sender, its realm, its vendor and
its product once each, with names that are text and not empty, and gives at least one address and
nothing but addresses where it should; and the message keeps the frame that it was read from.
-/

namespace Diameter

/-- A request that opens a connection, and says who sends it. -/
structure Message.Opening (m : Message) : Prop where
  /-- It is about capabilities. -/
  command : m.header.commandCode = Command.capabilitiesExchange
  /-- It belongs to the exchanges between peers. -/
  application : m.header.applicationId = baseApplication
  /-- It is a request. -/
  request : m.header.isRequest = true
  /-- The sender is named once. -/
  host_once : m.count AvpCode.originHost = 1
  /-- So is its realm. -/
  realm_once : m.count AvpCode.originRealm = 1
  /-- So is its vendor. -/
  vendor_once : m.count AvpCode.vendorId = 1
  /-- So is its product. -/
  product_once : m.count AvpCode.productName = 1
  /-- The name of the sender is a text that is not empty. -/
  host : ∃ name, m.originHost? = some name ∧ name ≠ ""
  /-- So is that of its realm. -/
  realm : ∃ name, m.originRealm? = some name ∧ name ≠ ""
  /-- There is an address. -/
  address : 1 ≤ m.count AvpCode.hostIpAddress
  /-- Whatever should be an address is one. -/
  addresses : ∀ avp ∈ m.avps, avp.code = AvpCode.hostIpAddress → ∃ ip, avp.address? = some ip

/-! ## Single demands -/

/-- A rule that asks for exactly one AVP. -/
theorem Rule.keptBy_required_iff {m : Message} {code : UInt32} :
    (Rule.required code).KeptBy m ↔ m.count code = 1 := by
  simp only [KeptBy, Rule.required, Option.mem_some_iff, forall_eq']
  omega

/-- A rule that asks for at least one AVP. -/
theorem Rule.keptBy_oneOrMore_iff {m : Message} {code : UInt32} :
    (Rule.oneOrMore code).KeptBy m ↔ 1 ≤ m.count code :=
  and_iff_left nofun

/-- An AVP that is there once is the first of its code. -/
theorem Message.exists_find_of_count {m : Message} {code : UInt32} (h : m.count code = 1) :
    ∃ avp, m.find? code = some avp := by
  have hpositive : 0 < m.avps.countP (·.code == code) := by
    rw [show m.avps.countP (·.code == code) = 1 from h]
    exact Nat.one_pos
  obtain ⟨avp, havp, hcode⟩ := List.countP_pos_iff.mp hpositive
  exact Option.isSome_iff_exists.mp (List.find?_isSome.mpr ⟨avp, havp, hcode⟩)

/-- The name in an AVP that is there once. -/
theorem Message.identifies_iff_of_count {m : Message} {code : UInt32} (h : m.count code = 1) :
    m.Identifies code ↔ ∃ name, (m.find? code).bind Avp.text? = some name ∧ name ≠ "" := by
  obtain ⟨avp, havp⟩ := exists_find_of_count h
  simp only [Identifies, havp, Option.mem_some_iff, forall_eq', Option.bind_some]
  exact exists_congr fun name => and_congr_left' Octets.text?_eq_some_iff.symm

namespace Dictionary

variable {m : Message}

/-- The rules of the opening request. -/
theorem keep_capabilityRules_iff : (∀ rule ∈ capabilityRules, rule.KeptBy m) ↔
    m.count AvpCode.originHost = 1 ∧ m.count AvpCode.originRealm = 1 ∧
      1 ≤ m.count AvpCode.hostIpAddress ∧ m.count AvpCode.vendorId = 1 ∧
      m.count AvpCode.productName = 1 := by
  simp only [capabilityRules, originRules, List.cons_append, List.nil_append,
    List.forall_mem_cons, List.not_mem_nil, false_imp_iff, implies_true, and_true,
    Rule.keptBy_required_iff, Rule.keptBy_oneOrMore_iff]

/-! ## The check as a whole -/

/-- What the base dictionary demands of a request about capabilities. -/
theorem check_base_iff (hcommand : m.header.commandCode = Command.capabilitiesExchange)
    (hrequest : m.header.isRequest = true) :
    base.check m = .ok () ↔ m.Conforms capabilityRules := by
  have hgrammar : base.grammar? m.header.commandCode = some ⟨"Capabilities-Exchange",
      capabilityRules, .required AvpCode.resultCode :: capabilityRules⟩ := by
    rw [hcommand]
    rfl
  rw [check_eq_ok_iff, hgrammar]
  simp only [reduceCtorEq, Option.some.injEq, exists_eq_left', false_or, Grammar.rulesFor,
    hrequest, if_true]

/-- The base dictionary accepts a request about capabilities exactly if it opens an exchange. -/
theorem opening_iff_check_base :
    m.Opening ↔ base.check m = .ok () ∧ m.header.isCapabilitiesRequest = true := by
  have hheader : m.header.isCapabilitiesRequest = true ↔
      m.header.commandCode = Command.capabilitiesExchange ∧
        m.header.applicationId = baseApplication ∧ m.header.isRequest = true := by
    rw [Header.isCapabilitiesRequest, Bool.and_eq_true, Bool.and_eq_true, beq_iff_eq, beq_iff_eq,
      and_assoc]
  rw [hheader]
  constructor
  · intro h
    refine ⟨(check_base_iff h.command h.request).mpr ⟨?_, ?_, ?_, ?_⟩,
      h.command, h.application, h.request⟩
    · exact keep_capabilityRules_iff.mpr
        ⟨h.host_once, h.realm_once, h.address, h.vendor_once, h.product_once⟩
    · exact (Message.identifies_iff_of_count h.host_once).mpr h.host
    · exact (Message.identifies_iff_of_count h.realm_once).mpr h.realm
    · exact fun avp havp hcode => Avp.isAddress_iff.mpr
        (Option.ne_none_iff_exists'.mpr (h.addresses avp havp hcode))
  · rintro ⟨hcheck, hcommand, happlication, hrequest⟩
    have hm := (check_base_iff hcommand hrequest).mp hcheck
    obtain ⟨hhost, hrealm, haddress, hvendor, hproduct⟩ :=
      keep_capabilityRules_iff.mp hm.rules_kept
    exact ⟨hcommand, happlication, hrequest, hhost, hrealm, hvendor, hproduct,
      (Message.identifies_iff_of_count hhost).mp hm.host,
      (Message.identifies_iff_of_count hrealm).mp hm.realm, haddress, fun avp havp hcode =>
        Option.ne_none_iff_exists'.mp (Avp.isAddress_iff.mp (hm.addresses avp havp hcode))⟩

end Dictionary

namespace Codec

/-- The parser finds a message wherever the reader does. -/
theorem parseFrame_eq_ok_iff {frame : Octets} {m : Message} :
    parseFrame frame = .ok m ↔ Message.read frame = .ok m := by
  unfold parseFrame
  split_ifs with hsize
  · exact Iff.rfl
  · refine iff_of_false (fun h => by cases h) fun h => hsize ?_
    obtain ⟨spellings, hs, -⟩ := Message.read_eq_ok_iff.mp h
    exact (Octets.holds_iff _ _).mpr hs.header

/-- A codec accepts what it parses, finds valid, and recognises as the opening request. -/
theorem judge_eq_accepted_iff {codec : Codec} {frame : Octets} {m : Message} :
    codec.judge frame = .accepted m ↔
      codec.parse frame = .ok m ∧ codec.validate m = .ok () ∧
        m.header.isCapabilitiesRequest = true := by
  have hblamed (e : MessageError) (reject : String → RejectReason) :
      e.verdict reject ≠ .accepted m := by
    unfold MessageError.verdict
    split <;> exact Verdict.noConfusion
  unfold judge
  cases hparse : codec.parse frame with
  | error e => exact iff_of_false (hblamed e _) fun h => by cases h.1
  | ok found =>
    dsimp only
    rw [Except.ok.injEq]
    cases hvalidate : codec.validate found with
    | error e =>
      refine iff_of_false (hblamed e _) ?_
      rintro ⟨rfl, hvalid, -⟩
      cases hvalidate.symm.trans hvalid
    | ok _ =>
      dsimp only
      split_ifs with hopening
      · rw [Verdict.accepted.injEq]
        constructor
        · rintro rfl
          exact ⟨rfl, hvalidate, hopening⟩
        · exact fun h => h.1
      · refine iff_of_false (fun h => by cases h) ?_
        rintro ⟨rfl, -, hrequest⟩
        exact hopening hrequest

/-- The base codec accepts exactly the frames of opening requests, and the message that it
accepts keeps its frame. -/
theorem base_judge_eq_accepted_iff {frame : Octets} {m : Message} :
    base.judge frame = .accepted m ↔ Message.read frame = .ok m ∧ m.Opening := by
  rw [judge_eq_accepted_iff, Dictionary.opening_iff_check_base]
  exact and_congr_left fun _ => parseFrame_eq_ok_iff

end Codec

/-- A message keeps the frame that it was read from. -/
theorem Message.raw_of_read {frame : Octets} {m : Message} (h : Message.read frame = .ok m) :
    m.raw = frame := by
  obtain ⟨spellings, -, rfl⟩ := Message.read_eq_ok_iff.mp h
  rfl

end Diameter
