import Diameter.Proofs.Message.Judging
import Mathlib.Data.List.Perm.Basic

/-!
# The order of the AVPs, and strangers among them

The rules of a command count AVPs, and the look at addresses takes all of them, so neither depends
on an order. The looks at the names take the first AVP of a code; but they come after the rules,
and where the rules allow a name once, the first one is the only one. Main statement: so it is with
every grammar of the base dictionary. Whatever the order of the AVPs, and whatever strangers are put
among them that no rule is about and that are no addresses, the verdict on a message is the same,
down to the fault that is named.
-/

namespace Diameter

/-- The rules allow an AVP of this code once. -/
def Rule.AllowOnce (rules : List Rule) (code : UInt32) : Prop :=
  ∃ rule ∈ rules, rule.code = code ∧ rule.most = some 1

namespace Dictionary

/-- Every grammar allows one name of the host and one of the realm, in both directions. -/
def NamesOnce (d : Dictionary) : Prop :=
  ∀ entry ∈ d.grammars, ∀ rules ∈ [entry.2.request, entry.2.answer],
    Rule.AllowOnce rules AvpCode.originHost ∧ Rule.AllowOnce rules AvpCode.originRealm

/-- An AVP of which nothing is demanded in messages of this command and direction. -/
structure Ignores (d : Dictionary) (m : Message) (a : Avp) : Prop where
  /-- It is not meant to be an address. -/
  not_address : a.code ≠ AvpCode.hostIpAddress
  /-- No rule is about it. -/
  not_counted : ∀ grammar, d.grammar? m.header.commandCode = some grammar →
    ∀ rule ∈ grammar.rulesFor m, rule.code ≠ a.code

end Dictionary

/-! ## What can be seen of AVPs in another order -/

namespace Message

variable {m : Message} {code : UInt32} {avps strangers : List Avp}

/-- AVPs of other codes are not counted, and the others are counted in any order. -/
theorem count_of_perm (hp : avps.Perm (strangers ++ m.avps)) (hs : ∀ a ∈ strangers, a.code ≠ code) :
    ({ m with avps } : Message).count code = m.count code := by
  have hnone : strangers.countP (·.code == code) = 0 := by
    refine List.countP_eq_zero.mpr fun a ha => ?_
    rw [beq_iff_eq]
    exact hs a ha
  calc ({ m with avps } : Message).count code
      = (strangers ++ m.avps).countP (·.code == code) := hp.countP_eq _
    _ = 0 + m.count code := by rw [List.countP_append, hnone, count]
    _ = m.count code := Nat.zero_add _

/-- Where a code occurs at most once, it does not matter which of its AVPs is the first. -/
theorem identifies_iff_of_count_le (h : m.count code ≤ 1) :
    m.Identifies code ↔ ∀ a ∈ m.avps, a.code = code → a.IsIdentity := by
  have hfirst : m.find? code = (m.avps.filter (·.code == code)).head? :=
    (List.head?_filter ..).symm
  have hall : (∀ a ∈ m.avps, a.code = code → a.IsIdentity) ↔
      ∀ a ∈ m.avps.filter (·.code == code), a.IsIdentity := by
    simp only [List.mem_filter, beq_iff_eq, and_imp]
  rw [count, List.countP_eq_length_filter] at h
  rw [Identifies, hfirst, hall]
  generalize m.avps.filter (·.code == code) = named at h
  cases named with
  | nil => exact iff_of_true nofun nofun
  | cons a rest =>
    obtain rfl : rest = [] := List.length_eq_zero_iff.mp (Nat.le_zero.mp (Nat.le_of_succ_le_succ h))
    simp only [List.head?_cons, Option.mem_some_iff, forall_eq', List.mem_singleton, forall_eq]

end Message

/-- A code that the rules allow once occurs at most once in a message that keeps them. -/
theorem Rule.AllowOnce.count_le {rules : List Rule} {code : UInt32} {m : Message}
    (h : Rule.AllowOnce rules code) (hk : ∀ rule ∈ rules, rule.KeptBy m) : m.count code ≤ 1 := by
  obtain ⟨rule, hrule, rfl, hmost⟩ := h
  exact (hk rule hrule).2 1 hmost

/-! ## What the checks say of it -/

namespace Dictionary

variable {m m' : Message} {d : Dictionary} {avps strangers : List Avp}

/-- Checks that object to the same things are the same. -/
theorem eq_of_error_iff {x y : Except MessageError Unit}
    (h : ∀ e, x = .error e ↔ y = .error e) : x = y := by
  cases x with
  | error e => exact ((h e).mp rfl).symm
  | ok _ =>
    cases y with
    | ok _ => rfl
    | error e => cases (h e).mpr rfl

/-- A rule looks at the command and at its count. -/
theorem checkRule_congr {rule : Rule} (hcommand : m'.header.commandCode = m.header.commandCode)
    (hcount : m'.count rule.code = m.count rule.code) : checkRule m' rule = checkRule m rule := by
  unfold checkRule
  rw [hcommand, hcount]

/-- Messages that every rule judges alike are judged alike by all. -/
theorem forM_checkRule_congr {rules : List Rule}
    (h : ∀ rule ∈ rules, checkRule m' rule = checkRule m rule) :
    rules.forM (checkRule m') = rules.forM (checkRule m) := by
  induction rules with
  | nil => rfl
  | cons rule rules ih =>
    obtain ⟨hrule, hrules⟩ := List.forall_mem_cons.mp h
    show (checkRule m' rule >>= fun _ => rules.forM (checkRule m')) = _
    rw [hrule, ih hrules]
    rfl

/-- Whether an AVP identifies is all that the check of it looks at. -/
theorem checkIdentity_congr {code : UInt32} (h : m'.Identifies code ↔ m.Identifies code) :
    checkIdentity m' code = checkIdentity m code := by
  refine eq_of_error_iff fun e => ?_
  rw [checkIdentity_eq_error_iff, checkIdentity_eq_error_iff, h]

/-- The grammar of a command is one of the dictionary. -/
theorem NamesOnce.rulesFor (hd : d.NamesOnce) {grammar : Grammar}
    (h : d.grammar? m.header.commandCode = some grammar) :
    Rule.AllowOnce (grammar.rulesFor m) AvpCode.originHost ∧
      Rule.AllowOnce (grammar.rulesFor m) AvpCode.originRealm := by
  obtain ⟨before, after, hsplit, -⟩ := List.lookup_eq_some_iff.mp h
  have hentry : (m.header.commandCode, grammar) ∈ d.grammars := by
    rw [hsplit]
    exact List.mem_append_right before List.mem_cons_self
  refine hd _ hentry _ ?_
  unfold Grammar.rulesFor
  split
  · exact List.mem_cons_self
  · exact List.mem_cons_of_mem _ List.mem_cons_self

/-- Whether all addresses are some does not depend on their order. -/
theorem forM_checkAddress_of_perm (hp : avps.Perm (strangers ++ m.avps))
    (hs : ∀ a ∈ strangers, a.code ≠ AvpCode.hostIpAddress) :
    avps.forM checkAddress = m.avps.forM checkAddress := by
  refine eq_of_error_iff fun e => ?_
  rw [forM_checkAddress_eq_error_iff, forM_checkAddress_eq_error_iff]
  refine and_congr_left' (exists_congr fun a => ?_)
  rw [hp.mem_iff, List.mem_append]
  refine and_congr_left fun ⟨hcode, _⟩ => or_iff_right fun ha => ?_
  exact hs a ha hcode

/-- A dictionary that allows each name once does not look at the order of AVPs, nor at those of
which it demands nothing. The names are looked at once the rules are known to hold, and by then
each of them occurs at most once. -/
theorem check_of_perm (hd : d.NamesOnce) (hs : ∀ a ∈ strangers, d.Ignores m a)
    (hp : avps.Perm (strangers ++ m.avps)) : d.check { m with avps } = d.check m := by
  rw [check_eq, check_eq]
  cases hgrammar : d.grammar? m.header.commandCode with
  | none => rfl
  | some grammar =>
    have hcount : ∀ rule ∈ grammar.rulesFor m,
        ({ m with avps } : Message).count rule.code = m.count rule.code := fun rule hrule =>
      Message.count_of_perm hp fun a ha => ((hs a ha).not_counted grammar hgrammar rule hrule).symm
    have hrules : (grammar.rulesFor m).forM (checkRule { m with avps }) =
        (grammar.rulesFor m).forM (checkRule m) :=
      forM_checkRule_congr fun rule hrule => checkRule_congr rfl (hcount rule hrule)
    have haddresses := forM_checkAddress_of_perm hp fun a ha => (hs a ha).not_address
    dsimp only
    rw [show grammar.rulesFor { m with avps } = grammar.rulesFor m from rfl, hrules, haddresses]
    cases hkept : (grammar.rulesFor m).forM (checkRule m) with
    | error e => rfl
    | ok _ =>
      have hkeeps := forM_checkRule_eq_ok_iff.mp hkept
      have hname {code : UInt32} (honce : Rule.AllowOnce (grammar.rulesFor m) code) :
          checkIdentity { m with avps } code = checkIdentity m code := by
        have hle : m.count code ≤ 1 := honce.count_le hkeeps
        obtain ⟨rule, hrule, rfl, -⟩ := honce
        have hle' : ({ m with avps } : Message).count rule.code ≤ 1 := by rwa [hcount rule hrule]
        refine checkIdentity_congr ?_
        rw [Message.identifies_iff_of_count_le hle', Message.identifies_iff_of_count_le hle]
        refine forall_congr' fun a => ?_
        rw [hp.mem_iff, List.mem_append, or_imp, and_iff_right_iff_imp]
        intro _ ha hcode
        exact absurd hcode.symm ((hs a ha).not_counted grammar hgrammar rule hrule)
      obtain ⟨hhost, hrealm⟩ := hd.rulesFor hgrammar
      rw [hname hhost, hname hrealm]

/-- Without a rule about the name of the host, the order of two names decides. -/
example :
    let d := base.insert Command.deviceWatchdog ⟨"Device-Watchdog", [], []⟩
    let probe (avps : List Avp) : Message :=
      ⟨⟨protocolVersion, 20, Header.requestFlag, Command.deviceWatchdog, 0, 0, 0⟩, avps, []⟩
    let named : Avp := .ofText AvpCode.originHost "h"
    let nameless : Avp := .ofText AvpCode.originHost ""
    d.check (probe [named, nameless]) = .ok () ∧
      d.check (probe [nameless, named]) = .error (.invalidAvp AvpCode.originHost .notIdentity) :=
  ⟨rfl, rfl⟩

/-- The base dictionary allows each name once. -/
theorem namesOnce_base : base.NamesOnce := by
  unfold NamesOnce Rule.AllowOnce
  decide

/-- The verdict of the base codec on a message does not depend on the order of its AVPs, nor on
strangers among them, wherever they are put. -/
theorem verdict_ignores_order_and_strangers (m : Message) (avps strangers : List Avp)
    (hs : ∀ a ∈ strangers, base.Ignores m a) (hp : avps.Perm (strangers ++ m.avps)) :
    Codec.base.validate { m with avps } = Codec.base.validate m :=
  check_of_perm namesOnce_base hs hp

/-- A request that probes a connection, from a host whose name is empty. -/
def namelessProbe : Message :=
  ⟨⟨protocolVersion, 20, Header.requestFlag, Command.deviceWatchdog, baseApplication, 7, 7⟩,
    [.ofText AvpCode.originRealm "r", .ofText AvpCode.originHost ""], []⟩

/-- Two AVPs of which nothing is demanded in such a request. -/
def twoStrangers : List Avp := [.ofText AvpCode.productName "p", .ofVendor 1000 10415 [1]]

/-- All four in another order. -/
def scattered : List Avp :=
  [.ofVendor 1000 10415 [1], .ofText AvpCode.originHost "", .ofText AvpCode.productName "p",
    .ofText AvpCode.originRealm "r"]

/-- A watchdog request whose host has no name is refused for it, also with its AVPs in another
order and two strangers among them. -/
theorem nameless_among_strangers :
    (∀ a ∈ twoStrangers, base.Ignores namelessProbe a) ∧
      scattered.Perm (twoStrangers ++ namelessProbe.avps) ∧
      Codec.base.validate { namelessProbe with avps := scattered } =
        .error (.invalidAvp AvpCode.originHost .notIdentity) := by
  have hignored : ∀ a ∈ twoStrangers, base.Ignores namelessProbe a := by
    intro a ha
    have hcodes : ∀ a ∈ twoStrangers, a.code ≠ AvpCode.hostIpAddress ∧
        ∀ rule ∈ originRules, rule.code ≠ a.code := by decide
    refine ⟨(hcodes a ha).1, fun grammar hgrammar => ?_⟩
    obtain rfl := Option.some.inj hgrammar
    exact (hcodes a ha).2
  have hscattered : scattered.Perm (twoStrangers ++ namelessProbe.avps) := by decide
  have hfault : Codec.base.validate namelessProbe =
      .error (.invalidAvp AvpCode.originHost .notIdentity) := rfl
  exact ⟨hignored, hscattered,
    (verdict_ignores_order_and_strangers namelessProbe scattered twoStrangers hignored
      hscattered).trans hfault⟩

end Dictionary

end Diameter
