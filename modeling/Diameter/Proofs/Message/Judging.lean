import Diameter.Dictionary
import Diameter.Proofs.Message.RoundTrip

/-!
# What a dictionary accepts, and what it objects to

A dictionary looks at the rules of a command one by one, then at the names of host and realm,
then at the addresses, and stops at the first fault. Main statement: whatever the grammars and
whatever the message, it accepts exactly the messages without a fault, and what it objects to in
any other message is the first fault, with the numbers that the message and the rule really
have.
-/

namespace Diameter

/-! ## Checks in a row -/

namespace Dictionary

variable {e : MessageError}

/-- Two checks pass if both do. -/
theorem bind_eq_ok_iff {x y : Except MessageError Unit} :
    (x >>= fun _ => y) = .ok () ↔ x = .ok () ∧ y = .ok () := by
  cases x with
  | error e => exact iff_of_false (fun h => by cases h) fun h => by cases h.1
  | ok _ => exact ⟨fun h => ⟨rfl, h⟩, fun h => h.2⟩

/-- Two checks fail as the first one does, or as the second one does once the first one has
passed. -/
theorem bind_eq_error_iff {x y : Except MessageError Unit} :
    (x >>= fun _ => y) = .error e ↔ x = .error e ∨ x = .ok () ∧ y = .error e := by
  cases x with
  | error e' =>
    constructor
    · intro h
      exact .inl (congrArg Except.error (Except.error.inj h))
    · rintro (h | ⟨h, -⟩)
      · exact congrArg Except.error (Except.error.inj h)
      · cases h
  | ok _ => exact ⟨fun h => .inr ⟨rfl, h⟩, fun h => (h.resolve_left nofun).2⟩

/-- A check that objects to one thing only. -/
theorem eq_error_iff_of_only {x : Except MessageError Unit} {fault : MessageError}
    (h : x = .ok () ∨ x = .error fault) : x = .error e ↔ x ≠ .ok () ∧ e = fault := by
  rcases h with rfl | rfl
  · exact iff_of_false nofun fun h => h.1 rfl
  · exact ⟨fun h => ⟨nofun, (Except.error.inj h).symm⟩, fun h => congrArg Except.error h.2.symm⟩

variable {β : Type} {f : β → Except MessageError Unit} {xs : List β}

/-- What is checked for all entries of a list holds of all of them. -/
theorem forM_eq_ok_iff : xs.forM f = .ok () ↔ ∀ x ∈ xs, f x = .ok () := by
  induction xs with
  | nil => exact iff_of_true rfl fun x hx => by cases hx
  | cons x xs ih =>
    rw [List.forall_mem_cons, ← ih]
    exact bind_eq_ok_iff

/-- What fails for a list fails for its first entry that fails. -/
theorem forM_eq_error_iff : xs.forM f = .error e ↔
    ∃ earlier x later, xs = earlier ++ x :: later ∧ (∀ y ∈ earlier, f y = .ok ()) ∧
      f x = .error e := by
  induction xs with
  | nil =>
    refine iff_of_false (fun h => by cases h) ?_
    rintro ⟨earlier, x, later, hsplit, -⟩
    exact List.append_ne_nil_of_right_ne_nil earlier (List.cons_ne_nil x later) hsplit.symm
  | cons x xs ih =>
    refine bind_eq_error_iff.trans ?_
    constructor
    · rintro (hx | ⟨hx, hxs⟩)
      · exact ⟨[], x, xs, rfl, nofun, hx⟩
      · obtain ⟨earlier, y, later, rfl, hearlier, hy⟩ := ih.mp hxs
        exact ⟨x :: earlier, y, later, rfl, List.forall_mem_cons.mpr ⟨hx, hearlier⟩, hy⟩
    · rintro ⟨earlier, y, later, hsplit, hearlier, hy⟩
      cases earlier with
      | nil =>
        obtain ⟨rfl, -⟩ := List.cons.inj hsplit
        exact .inl hy
      | cons z earlier =>
        obtain ⟨rfl, hrest⟩ := List.cons.inj hsplit
        obtain ⟨hz, hearlier⟩ := List.forall_mem_cons.mp hearlier
        exact .inr ⟨hz, ih.mpr ⟨earlier, y, later, hrest, hearlier, hy⟩⟩

end Dictionary

/-! ## What is demanded -/

/-- A message has as many AVPs of a code as a rule allows. -/
def Rule.KeptBy (rule : Rule) (m : Message) : Prop :=
  rule.least ≤ m.count rule.code ∧ ∀ most ∈ rule.most, m.count rule.code ≤ most

/-- The value is a name: text that is not empty. -/
def Avp.IsIdentity (a : Avp) : Prop := ∃ name, a.data = Octets.ofText name ∧ name ≠ ""

/-- The value is an address: the octets of one behind the number of its family. -/
def Avp.IsAddress (a : Avp) : Prop :=
  ∃ address, a.data = Octets.ofNat 2 (familyOf address) ++ address.octets

/-- The first AVP of a code, if there is one, is a name. -/
def Message.Identifies (m : Message) (code : UInt32) : Prop :=
  ∀ avp ∈ m.find? code, avp.IsIdentity

/-- The rules for the direction of a message. -/
def Grammar.rulesFor (grammar : Grammar) (m : Message) : List Rule :=
  if m.header.isRequest then grammar.request else grammar.answer

/-- A message without a fault. -/
structure Message.Conforms (m : Message) (rules : List Rule) : Prop where
  /-- Every rule is kept. -/
  rules_kept : ∀ rule ∈ rules, rule.KeptBy m
  /-- The host is named. -/
  host : m.Identifies AvpCode.originHost
  /-- The realm is named. -/
  realm : m.Identifies AvpCode.originRealm
  /-- Whatever should be an address is one. -/
  addresses : ∀ avp ∈ m.avps, avp.code = AvpCode.hostIpAddress → avp.IsAddress

/-- The first fault of a message. -/
inductive Message.Faulty (m : Message) (rules : List Rule) : MessageError → Prop
  /-- There are too few AVPs for the first rule that is not kept. -/
  | tooFew {earlier later : List Rule} {rule : Rule} (hr : rules = earlier ++ rule :: later)
      (hk : ∀ r ∈ earlier, r.KeptBy m) (hc : m.count rule.code < rule.least) :
      Faulty m rules (.missingAvp m.header.commandCode rule.code)
  /-- There are enough, but too many AVPs for the first rule that is not kept. -/
  | tooMany {earlier later : List Rule} {rule : Rule} {most : Nat}
      (hr : rules = earlier ++ rule :: later) (hk : ∀ r ∈ earlier, r.KeptBy m)
      (hl : rule.least ≤ m.count rule.code) (hm : rule.most = some most)
      (hc : most < m.count rule.code) :
      Faulty m rules (.tooManyAvps m.header.commandCode rule.code (m.count rule.code) most)
  /-- All rules are kept, but the host has no name. -/
  | host (hk : ∀ rule ∈ rules, rule.KeptBy m) (hh : ¬ m.Identifies AvpCode.originHost) :
      Faulty m rules (.invalidAvp AvpCode.originHost .notIdentity)
  /-- All rules are kept and the host has a name, but the realm has none. -/
  | realm (hk : ∀ rule ∈ rules, rule.KeptBy m) (hh : m.Identifies AvpCode.originHost)
      (hr : ¬ m.Identifies AvpCode.originRealm) :
      Faulty m rules (.invalidAvp AvpCode.originRealm .notIdentity)
  /-- All rules are kept and both have names, but an address is none. -/
  | address {avp : Avp} (hk : ∀ rule ∈ rules, rule.KeptBy m) (hh : m.Identifies AvpCode.originHost)
      (hr : m.Identifies AvpCode.originRealm) (hm : avp ∈ m.avps)
      (hc : avp.code = AvpCode.hostIpAddress) (ha : ¬ avp.IsAddress) :
      Faulty m rules (.invalidAvp AvpCode.hostIpAddress .notAddress)

/-! ## Single checks -/

/-- A value is a name if it is not empty and can be read as text. -/
theorem Avp.isIdentity_iff {a : Avp} : a.IsIdentity ↔ a.data ≠ [] ∧ a.text? ≠ none := by
  constructor
  · rintro ⟨name, hdata, hname⟩
    refine ⟨fun hempty => hname ?_, fun hnone => ?_⟩
    · have hnil : Octets.ofText name = Octets.ofText "" := hdata.symm.trans hempty
      have htext := Octets.text?_ofText name
      rw [hnil, Octets.text?_ofText] at htext
      exact (Option.some.inj htext).symm
    · cases hnone.symm.trans (Octets.text?_eq_some_iff.mpr hdata)
  · rintro ⟨hdata, htext⟩
    obtain ⟨name, hname⟩ := Option.ne_none_iff_exists'.mp htext
    have hoctets : a.data = Octets.ofText name := Octets.text?_eq_some_iff.mp hname
    refine ⟨name, hoctets, ?_⟩
    rintro rfl
    exact hdata hoctets

/-- A value is an address if it can be read as one. -/
theorem Avp.isAddress_iff {a : Avp} : a.IsAddress ↔ a.address? ≠ none := by
  rw [Option.ne_none_iff_exists']
  exact exists_congr fun address => address?_eq_some_iff.symm

namespace Dictionary

variable {m : Message} {e : MessageError}

/-- The check of a rule passes exactly if the rule is kept. -/
theorem checkRule_eq_ok_iff {rule : Rule} : checkRule m rule = .ok () ↔ rule.KeptBy m := by
  unfold checkRule Rule.KeptBy
  dsimp only
  split_ifs with hless
  · exact iff_of_false nofun fun h => Nat.not_le_of_lt hless h.1
  · cases hm : rule.most with
    | none => exact iff_of_true rfl ⟨Nat.le_of_not_lt hless, nofun⟩
    | some most =>
      dsimp only
      split_ifs with hmore
      · exact iff_of_false nofun fun h => Nat.not_le_of_lt hmore (h.2 most rfl)
      · refine iff_of_true rfl ⟨Nat.le_of_not_lt hless, ?_⟩
        rintro _ ⟨⟩
        exact Nat.le_of_not_lt hmore

/-- The check of a rule fails with too few AVPs, or otherwise with too many of them. -/
theorem checkRule_eq_error_iff {rule : Rule} : checkRule m rule = .error e ↔
    m.count rule.code < rule.least ∧ e = .missingAvp m.header.commandCode rule.code ∨
    rule.least ≤ m.count rule.code ∧ ∃ most, rule.most = some most ∧ most < m.count rule.code ∧
      e = .tooManyAvps m.header.commandCode rule.code (m.count rule.code) most := by
  unfold checkRule
  dsimp only
  split_ifs with hless
  · constructor
    · intro h
      exact .inl ⟨hless, (Except.error.inj h).symm⟩
    · rintro (⟨-, rfl⟩ | ⟨hle, -⟩)
      · rfl
      · exact absurd hless (Nat.not_lt_of_le hle)
  · cases hm : rule.most with
    | none =>
      refine iff_of_false nofun ?_
      rintro (⟨h, -⟩ | ⟨-, most, hmost, -⟩)
      · exact hless h
      · cases hmost
    | some most =>
      dsimp only
      split_ifs with hmore
      · constructor
        · intro h
          exact .inr ⟨Nat.le_of_not_lt hless, most, rfl, hmore, (Except.error.inj h).symm⟩
        · rintro (⟨h, -⟩ | ⟨-, _, ⟨⟩, -, rfl⟩)
          · exact absurd h hless
          · rfl
      · refine iff_of_false nofun ?_
        rintro (⟨h, -⟩ | ⟨-, _, ⟨⟩, h, -⟩)
        · exact hless h
        · exact hmore h

/-- The check of an identity passes exactly if the AVP identifies. -/
theorem checkIdentity_eq_ok_iff {code : UInt32} :
    checkIdentity m code = .ok () ↔ m.Identifies code := by
  unfold checkIdentity Message.Identifies
  cases hfind : m.find? code with
  | none => exact iff_of_true rfl nofun
  | some avp =>
    have hidentity : (∀ a ∈ some avp, a.IsIdentity) ↔ ¬ (avp.data = [] ∨ avp.text? = none) := by
      rw [not_or, ← ne_eq, ← ne_eq, ← Avp.isIdentity_iff]
      simp only [Option.mem_some_iff, forall_eq']
    rw [hidentity]
    dsimp only
    split_ifs with hinvalid
    · exact iff_of_false nofun fun h => h hinvalid
    · exact iff_of_true rfl hinvalid

/-- The check of an identity fails exactly if the AVP does not identify. -/
theorem checkIdentity_eq_error_iff {code : UInt32} : checkIdentity m code = .error e ↔
    ¬ m.Identifies code ∧ e = .invalidAvp code .notIdentity := by
  rw [← checkIdentity_eq_ok_iff]
  refine eq_error_iff_of_only ?_
  unfold checkIdentity
  split
  · exact .inl rfl
  · split_ifs
    · exact .inr rfl
    · exact .inl rfl

/-- The check of an address passes exactly if a host address is an address. -/
theorem checkAddress_eq_ok_iff {avp : Avp} : checkAddress avp = .ok () ↔
    (avp.code = AvpCode.hostIpAddress → avp.IsAddress) := by
  rw [Avp.isAddress_iff]
  unfold checkAddress
  split_ifs with hinvalid
  · exact iff_of_false nofun fun h => h hinvalid.1 hinvalid.2
  · exact iff_of_true rfl fun hcode hnone => hinvalid ⟨hcode, hnone⟩

/-- The check of an address fails exactly if a host address is none. -/
theorem checkAddress_eq_error_iff {avp : Avp} : checkAddress avp = .error e ↔
    ¬ (avp.code = AvpCode.hostIpAddress → avp.IsAddress) ∧
      e = .invalidAvp AvpCode.hostIpAddress .notAddress := by
  rw [← checkAddress_eq_ok_iff]
  refine eq_error_iff_of_only ?_
  unfold checkAddress
  split_ifs with hinvalid
  · rw [hinvalid.1]
    exact .inr rfl
  · exact .inl rfl

/-! ## The checks of a command -/

/-- A command without a grammar is accepted; otherwise four things are checked in a row. -/
theorem check_eq (d : Dictionary) (m : Message) : d.check m =
    match d.grammar? m.header.commandCode with
    | none => .ok ()
    | some grammar => (grammar.rulesFor m).forM (checkRule m) >>= fun _ =>
      checkIdentity m AvpCode.originHost >>= fun _ =>
      checkIdentity m AvpCode.originRealm >>= fun _ => m.avps.forM checkAddress := rfl

theorem forM_checkRule_eq_ok_iff {rules : List Rule} :
    rules.forM (checkRule m) = .ok () ↔ ∀ rule ∈ rules, rule.KeptBy m := by
  rw [forM_eq_ok_iff]
  exact forall₂_congr fun rule _ => checkRule_eq_ok_iff

theorem forM_checkAddress_eq_ok_iff {avps : List Avp} : avps.forM checkAddress = .ok () ↔
    ∀ avp ∈ avps, avp.code = AvpCode.hostIpAddress → avp.IsAddress := by
  rw [forM_eq_ok_iff]
  exact forall₂_congr fun avp _ => checkAddress_eq_ok_iff

variable {d : Dictionary}

/-- What is accepted has no grammar, or no fault. -/
theorem check_eq_ok_iff : d.check m = .ok () ↔ d.grammar? m.header.commandCode = none ∨
    ∃ grammar, d.grammar? m.header.commandCode = some grammar ∧
      m.Conforms (grammar.rulesFor m) := by
  rw [check_eq]
  cases hgrammar : d.grammar? m.header.commandCode with
  | none => exact iff_of_true rfl (.inl rfl)
  | some grammar =>
    dsimp only
    rw [bind_eq_ok_iff, bind_eq_ok_iff, bind_eq_ok_iff, forM_checkRule_eq_ok_iff,
      checkIdentity_eq_ok_iff, checkIdentity_eq_ok_iff, forM_checkAddress_eq_ok_iff]
    constructor
    · rintro ⟨hrules, hhost, hrealm, haddresses⟩
      exact .inr ⟨grammar, rfl, hrules, hhost, hrealm, haddresses⟩
    · rintro (hnone | ⟨_, hsame, h⟩)
      · cases hnone
      · cases hsame
        exact ⟨h.rules_kept, h.host, h.realm, h.addresses⟩

/-- The rules object to the first one that is not kept. -/
theorem forM_checkRule_eq_error_iff {rules : List Rule} :
    rules.forM (checkRule m) = .error e ↔ ∃ earlier rule later, rules = earlier ++ rule :: later ∧
      (∀ r ∈ earlier, r.KeptBy m) ∧ checkRule m rule = .error e := by
  rw [forM_eq_error_iff]
  simp only [checkRule_eq_ok_iff]

/-- All addresses that are none are objected to in the same way. -/
theorem forM_checkAddress_eq_error_iff {avps : List Avp} :
    avps.forM checkAddress = .error e ↔
      (∃ avp ∈ avps, avp.code = AvpCode.hostIpAddress ∧ ¬ avp.IsAddress) ∧
        e = .invalidAvp AvpCode.hostIpAddress .notAddress := by
  have honly : avps.forM checkAddress = .ok () ∨
      avps.forM checkAddress = .error (.invalidAvp AvpCode.hostIpAddress .notAddress) := by
    cases h : avps.forM checkAddress with
    | ok _ => exact .inl rfl
    | error e' =>
      obtain ⟨-, avp, -, -, -, havp⟩ := forM_eq_error_iff.mp h
      exact .inr (congrArg Except.error (checkAddress_eq_error_iff.mp havp).2)
  rw [eq_error_iff_of_only honly, ne_eq, forM_checkAddress_eq_ok_iff]
  push Not
  rfl

/-- What is objected to is the first fault. -/
theorem check_eq_error_iff : d.check m = .error e ↔
    ∃ grammar, d.grammar? m.header.commandCode = some grammar ∧
      m.Faulty (grammar.rulesFor m) e := by
  rw [check_eq]
  cases hgrammar : d.grammar? m.header.commandCode with
  | none => exact iff_of_false nofun fun ⟨_, h, _⟩ => by cases h
  | some grammar =>
    dsimp only
    rw [bind_eq_error_iff, bind_eq_error_iff, bind_eq_error_iff, forM_checkRule_eq_ok_iff,
      forM_checkRule_eq_error_iff, checkIdentity_eq_ok_iff, checkIdentity_eq_ok_iff,
      checkIdentity_eq_error_iff, checkIdentity_eq_error_iff, forM_checkAddress_eq_error_iff]
    constructor
    · rintro (⟨earlier, rule, later, hr, hk, hrule⟩ | ⟨hk, ⟨hh, rfl⟩ | ⟨hh, ⟨hr, rfl⟩ |
        ⟨hr, ⟨avp, hm, hc, ha⟩, rfl⟩⟩⟩)
      · rcases checkRule_eq_error_iff.mp hrule with ⟨hc, rfl⟩ | ⟨hl, most, hmost, hc, rfl⟩
        · exact ⟨grammar, rfl, .tooFew hr hk hc⟩
        · exact ⟨grammar, rfl, .tooMany hr hk hl hmost hc⟩
      · exact ⟨grammar, rfl, .host hk hh⟩
      · exact ⟨grammar, rfl, .realm hk hh hr⟩
      · exact ⟨grammar, rfl, .address hk hh hr hm hc ha⟩
    · rintro ⟨_, ⟨⟩, hfault⟩
      cases hfault with
      | tooFew hr hk hc =>
        exact .inl ⟨_, _, _, hr, hk, checkRule_eq_error_iff.mpr (.inl ⟨hc, rfl⟩)⟩
      | tooMany hr hk hl hmost hc =>
        exact .inl ⟨_, _, _, hr, hk,
          checkRule_eq_error_iff.mpr (.inr ⟨hl, _, hmost, hc, rfl⟩)⟩
      | host hk hh => exact .inr ⟨hk, .inl ⟨hh, rfl⟩⟩
      | realm hk hh hr => exact .inr ⟨hk, .inr ⟨hh, .inl ⟨hr, rfl⟩⟩⟩
      | address hk hh hr hm hc ha => exact .inr ⟨hk, .inr ⟨hh, .inr ⟨hr, ⟨_, hm, hc, ha⟩, rfl⟩⟩⟩

/-- A message is accepted exactly if its command has no grammar or if it has no fault, and what
is objected to in another one is the first fault: the first rule that is not kept, with too few
AVPs before too many, and only if all rules are kept the name of the host, that of the realm,
or an address. -/
theorem check_finds_first_fault (d : Dictionary) (m : Message) :
    (d.check m = .ok () ↔ d.grammar? m.header.commandCode = none ∨
      ∃ grammar, d.grammar? m.header.commandCode = some grammar ∧
        m.Conforms (grammar.rulesFor m)) ∧
    ∀ e, d.check m = .error e ↔
      ∃ grammar, d.grammar? m.header.commandCode = some grammar ∧
        m.Faulty (grammar.rulesFor m) e :=
  ⟨check_eq_ok_iff, fun _ => check_eq_error_iff⟩

/-- Two AVPs are too few and too many for a rule that asks for three and allows one. -/
example : (base.insert Command.deviceWatchdog ⟨"", [⟨AvpCode.resultCode, 3, some 1⟩], []⟩).check
    ⟨⟨1, 20, Header.requestFlag, Command.deviceWatchdog, 0, 0, 0⟩,
      List.replicate 2 ⟨AvpCode.resultCode, 0, none, []⟩, []⟩ =
    .error (.missingAvp Command.deviceWatchdog AvpCode.resultCode) := rfl

end Dictionary

end Diameter
