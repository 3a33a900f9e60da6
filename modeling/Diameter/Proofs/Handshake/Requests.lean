import Diameter.Proofs.Handshake.Opening
import Diameter.Proofs.Message.Making

/-!
# Whether the requests that a client makes are let in

A client starts with the request that opens a connection, and may later ask whether the other side
is alive. Drafts for both are made from the names of host and realm, and hold what the rules of
their commands ask for; so what is left to be judged is the names. Main statement: whatever the
names and the address, what is written is read back, it is valid exactly if neither name is empty,
and otherwise the first empty name is objected to. The first request then opens an exchange; the
second one never does, whatever it is the answer to.
-/

namespace Diameter

/-! ## Names -/

/-- The octets of a text are a name if there are any. -/
theorem Avp.isIdentity_ofText {code : UInt32} {name : String} :
    (ofText code name).IsIdentity ↔ name ≠ "" := by
  constructor
  · rintro ⟨other, hdata, hother⟩
    have htext : Octets.text? (Octets.ofText name) = some other :=
      Octets.text?_eq_some_iff.mpr hdata
    rw [Octets.text?_ofText] at htext
    rwa [Option.some.inj htext]
  · exact fun hname => ⟨name, rfl, hname⟩

/-- The first AVPs that name host and realm have these texts. -/
structure Message.NamedBy (m : Message) (host realm : String) : Prop where
  /-- The name of the host. -/
  host : m.find? AvpCode.originHost = some (.ofText AvpCode.originHost host)
  /-- The name of the realm. -/
  realm : m.find? AvpCode.originRealm = some (.ofText AvpCode.originRealm realm)

/-- So it is with messages that start with the two names. -/
theorem Message.namedBy_of_avps {m : Message} {host realm : String} {rest : List Avp}
    (h : m.avps = .ofText AvpCode.originHost host :: .ofText AvpCode.originRealm realm :: rest) :
    m.NamedBy host realm where
  host := by
    rw [find?, h]
    rfl
  realm := by
    rw [find?, h]
    rfl

namespace Dictionary

/-- What is objected to in the names of a host and its realm. -/
def namesVerdict (host realm : String) : Except MessageError Unit :=
  if host = "" then .error (.invalidAvp AvpCode.originHost .notIdentity)
  else if realm = "" then .error (.invalidAvp AvpCode.originRealm .notIdentity)
  else .ok ()

/-- Names are good exactly if neither is empty. -/
theorem namesVerdict_eq_ok_iff {host realm : String} :
    namesVerdict host realm = .ok () ↔ host ≠ "" ∧ realm ≠ "" := by
  unfold namesVerdict
  split_ifs with hhost hrealm
  · exact iff_of_false nofun fun h => h.1 hhost
  · exact iff_of_false nofun fun h => h.2 hrealm
  · exact iff_of_true rfl ⟨hhost, hrealm⟩

variable {d : Dictionary} {m : Message} {grammar : Grammar} {host realm : String}

/-- A message that keeps the rules, and whose addresses are some, is judged by its names. -/
theorem check_of_named (hg : d.grammar? m.header.commandCode = some grammar)
    (hk : ∀ rule ∈ grammar.rulesFor m, rule.KeptBy m)
    (ha : ∀ avp ∈ m.avps, avp.code = AvpCode.hostIpAddress → avp.IsAddress)
    (hn : m.NamedBy host realm) : d.check m = namesVerdict host realm := by
  have hidentifies {code : UInt32} {name : String}
      (hfind : m.find? code = some (.ofText code name)) : m.Identifies code ↔ name ≠ "" := by
    rw [Message.Identifies, hfind]
    simp only [Option.mem_some_iff, forall_eq', Avp.isIdentity_ofText]
  have hhost := hidentifies hn.host
  have hrealm := hidentifies hn.realm
  unfold namesVerdict
  split_ifs with hempty hempty'
  · exact check_eq_error_iff.mpr ⟨grammar, hg, .host hk fun h => hhost.mp h hempty⟩
  · exact check_eq_error_iff.mpr
      ⟨grammar, hg, .realm hk (hhost.mpr hempty) fun h => hrealm.mp h hempty'⟩
  · exact check_eq_ok_iff.mpr
      (.inr ⟨grammar, hg, hk, hhost.mpr hempty, hrealm.mpr hempty', ha⟩)

end Dictionary

/-! ## What a wait accepts -/

namespace Handshake

variable {terms : Terms} {now done : Nat} {wait : Wait} {c c' : Connection} {m : Message}

/-- A message that ends the wait for one was found by the codec in octets that were received. -/
theorem exists_frame_of_awaitMessage
    (h : awaitMessage terms c = (.inr (.accepted m), c')) :
    ∃ frame, terms.codec.judge frame = .accepted m := by
  unfold awaitMessage takeMessage at h
  cases hreceived : c.receive with
  | none =>
    rw [hreceived] at h
    cases h
  | some received =>
    obtain ⟨result, c''⟩ := received
    rw [hreceived] at h
    cases result with
    | error e => cases h
    | ok frame => exact ⟨frame, Sum.inr.inj (congrArg Prod.fst h)⟩

/-- What a wait for TLS accepts was made of a frame. -/
theorem exists_frame_of_awaitTls (h : awaitTls terms now done c = (.inr (.accepted m), c')) :
    ∃ frame, terms.codec.judge frame = .accepted m := by
  unfold awaitTls at h
  split_ifs at h
  · cases h
  · cases hfailure : c.tls.failure with
    | some e =>
      rw [hfailure] at h
      cases h
    | none =>
      rw [hfailure] at h
      exact exists_frame_of_awaitMessage h

/-- What a wait accepts was made of a frame. -/
theorem exists_frame_of_progress (h : progress terms now wait c = (.inr (.accepted m), c')) :
    ∃ frame, terms.codec.judge frame = .accepted m := by
  cases wait with
  | turn =>
    unfold progress at h
    dsimp only at h
    split at h
    · exact exists_frame_of_awaitTls h
    · exact exists_frame_of_awaitMessage h
  | tls done => exact exists_frame_of_awaitTls h
  | message => exact exists_frame_of_awaitMessage h

/-- So it is with a message that a turn accepts. -/
theorem exists_frame_of_poll {cancelled : Bool}
    (h : poll terms now cancelled wait c = (.inr (.judged (.accepted m)), c')) :
    ∃ frame, terms.codec.judge frame = .accepted m := by
  unfold poll at h
  rcases hprogress : progress terms now wait c with ⟨waiting | verdict, c''⟩
  · rw [hprogress] at h
    dsimp only at h
    split_ifs at h
    · cases h
    · cases h
    · cases h
  · rw [hprogress] at h
    dsimp only at h
    split_ifs at h
    · cases h
    · obtain rfl : verdict = .accepted m := Decision.judged.inj (Sum.inr.inj (congrArg Prod.fst h))
      exact exists_frame_of_progress hprogress

end Handshake

/-! ## Requests of a client -/

namespace Draft

variable {id : UInt32} {host realm : String} {address : Address}

/-- A header with nothing but the flag of a request is that of a request. -/
theorem isRequest_of_flags {h : Header} (hf : h.flags = Header.requestFlag) :
    h.isRequest = true := by
  rw [Header.isRequest, hf]
  rfl

/-- The request that opens a connection is read back with its AVPs in order. -/
theorem read_capabilitiesRequest
    (hl : (capabilitiesRequest id host realm address).write.length < 2 ^ 24) :
    ∃ m, Message.read (capabilitiesRequest id host realm address).write = .ok m ∧
      m.avps = (capabilitiesRequest id host realm address).avps ∧
      m.header.commandCode = Command.capabilitiesExchange ∧
      m.header.applicationId = baseApplication ∧ m.header.isRequest = true := by
  rw [length_write] at hl
  exact ⟨_, read_write (consistent_made (.capabilities host realm address) id []) hl,
    rfl, rfl, rfl, isRequest_of_flags rfl⟩

/-- So is the one that asks whether the other side is alive. -/
theorem read_watchdogRequest (hl : (watchdogRequest id host realm).write.length < 2 ^ 24) :
    ∃ m, Message.read (watchdogRequest id host realm).write = .ok m ∧
      m.avps = (watchdogRequest id host realm).avps ∧
      m.header.commandCode = Command.deviceWatchdog ∧ m.header.isRequest = true := by
  rw [length_write] at hl
  exact ⟨_, read_write (consistent_made (.watchdog host realm) id []) hl, rfl, rfl,
    isRequest_of_flags rfl⟩

/-- The names of the first request are all that its check may object to. -/
theorem check_capabilitiesRequest {m : Message}
    (ha : m.avps = (capabilitiesRequest id host realm address).avps)
    (hc : m.header.commandCode = Command.capabilitiesExchange) (hr : m.header.isRequest = true) :
    Dictionary.base.check m = Dictionary.namesVerdict host realm := by
  have hgrammar : Dictionary.base.grammar? m.header.commandCode =
      some ⟨"Capabilities-Exchange", Dictionary.capabilityRules,
        .required AvpCode.resultCode :: Dictionary.capabilityRules⟩ := by
    rw [hc]
    rfl
  refine Dictionary.check_of_named hgrammar ?_ ?_ (Message.namedBy_of_avps ha)
  · rw [Grammar.rulesFor, if_pos hr]
    refine Dictionary.keep_capabilityRules_iff.mpr ?_
    simp only [Message.count, ha]
    exact ⟨rfl, rfl, Nat.le_refl 1, rfl, rfl⟩
  · rw [ha]
    intro avp havp hcode
    simp only [capabilitiesRequest, List.mem_cons, List.not_mem_nil, or_false] at havp
    rcases havp with rfl | rfl | rfl | rfl | rfl
    · cases hcode
    · cases hcode
    · exact ⟨address, rfl⟩
    · cases hcode
    · cases hcode

/-- So it is with the second one. -/
theorem check_watchdogRequest {m : Message} (ha : m.avps = (watchdogRequest id host realm).avps)
    (hc : m.header.commandCode = Command.deviceWatchdog) (hr : m.header.isRequest = true) :
    Dictionary.base.check m = Dictionary.namesVerdict host realm := by
  have hgrammar : Dictionary.base.grammar? m.header.commandCode =
      some ⟨"Device-Watchdog", Dictionary.originRules,
        .required AvpCode.resultCode :: Dictionary.originRules⟩ := by
    rw [hc]
    rfl
  refine Dictionary.check_of_named hgrammar ?_ ?_ (Message.namedBy_of_avps ha)
  · rw [Grammar.rulesFor, if_pos hr]
    simp only [Dictionary.originRules, List.forall_mem_cons, List.not_mem_nil, false_imp_iff,
      implies_true, and_true, Rule.keptBy_required_iff, Message.count, ha]
    exact ⟨rfl, rfl⟩
  · rw [ha]
    intro avp havp hcode
    simp only [watchdogRequest, List.mem_cons, List.not_mem_nil, or_false] at havp
    rcases havp with rfl | rfl
    · cases hcode
    · cases hcode

/-- The octets of the second request are no opening request, however many there are. -/
theorem judge_watchdogRequest_ne (m : Message) :
    Codec.base.judge (watchdogRequest id host realm).write ≠ .accepted m := by
  intro h
  obtain ⟨hread, hopening⟩ := Codec.base_judge_eq_accepted_iff.mp h
  by_cases hl : (watchdogRequest id host realm).write.length < 2 ^ 24
  · obtain ⟨m', hread', -, hcommand, -⟩ := read_watchdogRequest hl
    obtain rfl := Except.ok.inj (hread.symm.trans hread')
    cases hcommand.symm.trans hopening.command
  · rw [length_write] at hl
    cases (read_write_of_le (Nat.le_of_not_lt hl)).symm.trans hread

/-- What a client writes first is read back, its names are all that is judged in it, and it opens
an exchange exactly if both are given. What it writes to ask whether the other side is alive is
read back and judged in the same way, but no wait ever accepts it as a first message. -/
theorem opens_iff_both_named (id : UInt32) (host realm : String) (address : Address) :
    let opening := capabilitiesRequest id host realm address
    let probe := watchdogRequest id host realm
    (opening.write.length < 2 ^ 24 →
      (∃ m, Codec.base.parse opening.write = .ok m ∧
        m.header.isCapabilitiesRequest = true ∧
        (Codec.base.validate m = .ok () ↔ host ≠ "" ∧ realm ≠ "") ∧
        (host = "" → Codec.base.validate m =
          .error (.invalidAvp AvpCode.originHost .notIdentity)) ∧
        (host ≠ "" → realm = "" → Codec.base.validate m =
          .error (.invalidAvp AvpCode.originRealm .notIdentity))) ∧
      ((∃ m, Codec.base.judge opening.write = .accepted m) ↔ host ≠ "" ∧ realm ≠ "")) ∧
    (probe.write.length < 2 ^ 24 → ∃ m, Codec.base.parse probe.write = .ok m ∧
      (Codec.base.validate m = .ok () ↔ host ≠ "" ∧ realm ≠ "")) ∧
    (∀ m, Codec.base.judge probe.write ≠ .accepted m) ∧
    ∀ (terms : Handshake.Terms) (now : Nat) (cancelled : Bool) (wait : Handshake.Wait)
      (c c' : Connection) (m : Message), terms.codec = Codec.base →
      Handshake.poll terms now cancelled wait c = (.inr (.judged (.accepted m)), c') →
      m.raw ≠ probe.write := by
  dsimp only
  refine ⟨fun hl => ?_, fun hl => ?_, judge_watchdogRequest_ne, ?_⟩
  · obtain ⟨m, hread, havps, hcommand, happlication, hrequest⟩ := read_capabilitiesRequest hl
    have hparse : Codec.base.parse (capabilitiesRequest id host realm address).write = .ok m :=
      Codec.parseFrame_eq_ok_iff.mpr hread
    have hvalidate : Codec.base.validate m = Dictionary.namesVerdict host realm :=
      check_capabilitiesRequest havps hcommand hrequest
    have hopens : m.header.isCapabilitiesRequest = true := by
      rw [Header.isCapabilitiesRequest, hcommand, happlication, hrequest]
      rfl
    have hvalid : Codec.base.validate m = .ok () ↔ host ≠ "" ∧ realm ≠ "" := by
      rw [hvalidate, Dictionary.namesVerdict_eq_ok_iff]
    refine ⟨⟨m, hparse, hopens, hvalid, fun hhost => ?_, fun hhost hrealm => ?_⟩, ?_⟩
    · rw [hvalidate, Dictionary.namesVerdict, if_pos hhost]
    · rw [hvalidate, Dictionary.namesVerdict, if_neg hhost, if_pos hrealm]
    · rw [← hvalid]
      constructor
      · rintro ⟨m', hjudge⟩
        obtain ⟨hparse', hvalid', -⟩ := Codec.judge_eq_accepted_iff.mp hjudge
        obtain rfl := Except.ok.inj (hparse.symm.trans hparse')
        exact hvalid'
      · exact fun hok => ⟨m, Codec.judge_eq_accepted_iff.mpr ⟨hparse, hok, hopens⟩⟩
  · obtain ⟨m, hread, havps, hcommand, hrequest⟩ := read_watchdogRequest hl
    have hvalidate : Codec.base.validate m = Dictionary.namesVerdict host realm :=
      check_watchdogRequest havps hcommand hrequest
    refine ⟨m, Codec.parseFrame_eq_ok_iff.mpr hread, ?_⟩
    rw [hvalidate, Dictionary.namesVerdict_eq_ok_iff]
  · rintro terms now cancelled wait c c' m hcodec hpoll hraw
    obtain ⟨frame, hjudge⟩ := Handshake.exists_frame_of_poll hpoll
    rw [hcodec] at hjudge
    have hframe : m.raw = frame :=
      Message.raw_of_read (Codec.base_judge_eq_accepted_iff.mp hjudge).1
    rw [← hframe, hraw] at hjudge
    exact judge_watchdogRequest_ne m hjudge

/-- An address of the second family. -/
def loopback : Address := .v6 #v[0, 0, 0, 0, 0, 0, 0, 1]

/-- A connection on which a frame was received. -/
def heard (frame : Octets) : Connection :=
  { Connection.new "" "" ⟨0, none⟩ with inbox := [.ok frame] }

/-- The empty name of a realm is objected to. With both names given the request opens an exchange,
and the wait that accepts it has not received the other request. -/
theorem nameless_realm_and_both_named :
    (∃ m, Codec.base.parse (capabilitiesRequest 7 "höst" "" loopback).write = .ok m ∧
      Codec.base.validate m = .error (.invalidAvp AvpCode.originRealm .notIdentity)) ∧
    (∃ m, Codec.base.parse (watchdogRequest 7 "höst" "r").write = .ok m) ∧
    ∃ m c, Handshake.poll ⟨.clear, Codec.base, 5⟩ 0 false .turn
        (heard (capabilitiesRequest 7 "höst" "r" loopback).write) =
      (.inr (.judged (.accepted m)), c) ∧ m.raw ≠ (watchdogRequest 7 "höst" "r").write := by
  have hshort (realm : String) (hr : (capabilitiesRequest 7 "höst" realm loopback).size < 2 ^ 24) :
      (capabilitiesRequest 7 "höst" realm loopback).write.length < 2 ^ 24 := by
    rwa [length_write]
  have hprobe : (watchdogRequest 7 "höst" "r").write.length < 2 ^ 24 := by
    rw [length_write]
    decide
  have hnameless := opens_iff_both_named 7 "höst" "" loopback
  have hnamed := opens_iff_both_named 7 "höst" "r" loopback
  obtain ⟨⟨m, hparse, -, -, -, hrealm⟩, -⟩ := hnameless.1 (hshort "" (by decide))
  obtain ⟨m', hparse', -⟩ := hnamed.2.1 hprobe
  obtain ⟨first, hfirst⟩ := (hnamed.1 (hshort "r" (by decide))).2.mpr ⟨by decide, by decide⟩
  have hpoll (frame : Octets) : ∃ c, Handshake.poll ⟨.clear, Codec.base, 5⟩ 0 false .turn
      (heard frame) = (.inr (.judged (Codec.base.judge frame)), c) := ⟨_, rfl⟩
  obtain ⟨c, hc⟩ := hpoll (capabilitiesRequest 7 "höst" "r" loopback).write
  rw [hfirst] at hc
  exact ⟨⟨m, hparse, hrealm (by decide) rfl⟩, ⟨m', hparse'⟩, first, c, hc,
    hnamed.2.2.2 _ _ _ _ _ _ _ rfl hc⟩

end Draft

end Diameter
