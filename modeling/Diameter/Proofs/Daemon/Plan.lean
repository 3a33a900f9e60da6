import Diameter.Proofs.Daemon.Started
import Diameter.Settings.Rules
import Mathlib.Data.List.Nodup
import Mathlib.Data.List.Flatten
import Mathlib.Tactic.Common

/-!
# Where settings that break no rule make a daemon listen

The rules look at the addresses, the families and the ports one by one, and the plan is made of
all of them together. Main statement: settings that break no rule have an empty plan exactly if
every address that they name is of the family that they rule out, and then the daemon starts
without any listener; two endpoints of the plan are at the same place exactly if an address is
named twice, and then no listener starts on a system that gives every address away once.
-/

namespace Diameter

/-! ## What the rules say about the plan -/

/-- What the rules demand of the listeners. -/
structure ListenerSettings.Sound (s : ListenerSettings) : Prop where
  /-- There is a port. -/
  port : s.port.isSome ∨ s.portTls.isSome
  /-- No port is used twice. -/
  apart : ∀ p, s.port = some p → s.portTls ≠ some p
  /-- TCP is the only transport. -/
  transports : s.transports = [.tcp]
  /-- A family of addresses is left. -/
  family : s.noIp4 = false ∨ s.noIp6 = false
  /-- What is named are addresses. -/
  entries : ∀ entry ∈ s.listenOn, ∃ ip, Address.ofText? entry = some ip

namespace Settings

/-- A rule says nothing exactly if it is not broken. -/
theorem violationIf_eq_nil {broken : Bool} {field message : String} :
    violationIf broken field message = [] ↔ broken = false := by
  cases broken <;> simp [violationIf]

/-- Settings that break no rule have sound listeners. -/
theorem sound_of_violations {s : Settings} (h : s.violations = []) : s.listener.Sound := by
  simp only [violations, transportViolations, addressViolations, List.append_eq_nil_iff,
    List.flatMap_eq_nil_iff, violationIf_eq_nil, Bool.and_eq_false_iff] at h
  obtain ⟨⟨⟨⟨⟨⟨⟨hport, hapart⟩, -⟩, htcp⟩, hsctp⟩, hfamily, hentries⟩, -⟩, -⟩ := h
  refine ⟨?_, ?_, ?_, hfamily, ?_⟩
  · rw [Option.isNone_eq_false_iff, Option.isNone_eq_false_iff] at hport
    exact hport
  · intro p hp htls
    simp [hp, htls] at hapart
  · simp only [Bool.not_eq_eq_eq_not, Bool.not_false] at hsctp
    simp [ListenerSettings.transports, htcp, hsctp]
  · intro entry hentry
    exact Option.isSome_iff_exists.mp (Option.isNone_eq_false_iff.mp (hentries entry hentry))

/-- The thresholds of settings that break no rule are in order. -/
theorem thresholds_of_violations {s : Settings} (h : s.violations = [])
    (hhigh : s.queues.highWatermark ≠ 0) : s.queues.lowWatermark < s.queues.highWatermark := by
  simp only [violations, limitViolations, List.append_eq_nil_iff, violationIf_eq_nil] at h
  obtain ⟨⟨-, -, hthresholds⟩, -⟩ := h
  simp only [Bool.and_eq_false_iff, Bool.not_eq_eq_eq_not, Bool.not_false, Bool.and_eq_true,
    beq_iff_eq, decide_eq_false_iff_not] at hthresholds
  omega

end Settings

namespace ListenerSettings

variable {s : ListenerSettings}

/-- The plan has each address on each port. -/
theorem Sound.plan_eq (h : s.Sound) :
    s.plan = s.ports.flatMap fun port =>
      s.addresses.map fun ip => ⟨⟨ip, port.1, 0⟩, .tcp, port.2⟩ := by
  rw [plan, h.transports, List.flatMap_singleton]

/-- There is a port to listen on. -/
theorem Sound.ports_ne_nil (h : s.Sound) : s.ports ≠ [] := by
  rw [ports, Ne, List.append_eq_nil_iff, Option.toList_eq_nil_iff, Option.toList_eq_nil_iff,
    Option.map_eq_none_iff, Option.map_eq_none_iff]
  rintro ⟨hclear, htls⟩
  rcases h.port with hport | hport
  · rw [hclear] at hport
    cases hport
  · rw [htls] at hport
    cases hport

/-- The ports to listen on differ. -/
theorem Sound.nodup_ports (h : s.Sound) : (s.ports.map Prod.fst).Nodup := by
  have hapart := h.apart
  unfold ports
  rcases hclear : s.port with _ | p <;> rcases htls : s.portTls with _ | q
  · exact List.nodup_nil
  · exact List.nodup_singleton q
  · exact List.nodup_singleton p
  · have hne : p ≠ q := fun heq => hapart p hclear (heq ▸ htls)
    simpa using hne

/-- Nothing is planned if no address is left. -/
theorem Sound.plan_eq_nil_iff (h : s.Sound) : s.plan = [] ↔ s.addresses = [] := by
  rw [h.plan_eq, List.flatMap_eq_nil_iff]
  constructor
  · intro hnone
    obtain ⟨port, hport⟩ := List.exists_mem_of_ne_nil _ h.ports_ne_nil
    exact List.map_eq_nil_iff.mp (hnone port hport)
  · intro hnone port _
    rw [hnone, List.map_nil]

/-- If some addresses are named, those of them are left whose family is. -/
theorem addresses_of_listenOn (hnamed : s.listenOn ≠ []) : s.addresses =
    (s.listenOn.filterMap Address.ofText?).filter s.allowsFamily := by
  rw [addresses, if_neg]
  rwa [List.isEmpty_iff]

/-- No address is left if all that are named are of a family that is ruled out. Where none is
named, every interface of a family that is left is meant, and the rules leave one. -/
theorem Sound.addresses_eq_nil_iff (h : s.Sound) :
    s.addresses = [] ↔ s.listenOn ≠ [] ∧
      ∀ entry ∈ s.listenOn, ∃ ip, Address.ofText? entry = some ip ∧ s.allowsFamily ip = false := by
  have hfamily := h.family
  rcases hlisten : s.listenOn with _ | ⟨first, others⟩
  · have hall : s.addresses = [Address.anyV6, Address.anyV4].filter s.allowsFamily := by
      rw [addresses, hlisten]
      rfl
    refine ⟨fun hnone => ?_, fun hnamed => absurd rfl hnamed.1⟩
    rw [hall, List.filter_eq_nil_iff] at hnone
    have hv6 := hnone Address.anyV6 List.mem_cons_self
    have hv4 := hnone Address.anyV4 (List.mem_cons_of_mem _ List.mem_cons_self)
    simp only [allowsFamily, Address.anyV6, Address.anyV4, Address.isV4, if_true,
      Bool.false_eq_true, if_false, Bool.not_eq_true', Bool.not_eq_false] at hv4 hv6
    rcases hfamily with hfour | hsix
    · rw [hv4] at hfour
      cases hfour
    · rw [hv6] at hsix
      cases hsix
  · have hne : s.listenOn ≠ [] := hlisten ▸ List.cons_ne_nil first others
    rw [addresses_of_listenOn hne, hlisten, List.filter_eq_nil_iff]
    refine ⟨fun hnone => ⟨List.cons_ne_nil _ _, fun entry hentry => ?_⟩, fun hnamed ip hip => ?_⟩
    · obtain ⟨ip, hip⟩ := h.entries entry (hlisten ▸ hentry)
      have hout := hnone ip (List.mem_filterMap.mpr ⟨entry, hentry, hip⟩)
      exact ⟨ip, hip, Bool.not_eq_true _ ▸ hout⟩
    · obtain ⟨entry, hentry, hread⟩ := List.mem_filterMap.mp hip
      obtain ⟨other, hother, hout⟩ := hnamed.2 entry hentry
      obtain rfl : other = ip := Option.some.inj (hother.symm.trans hread)
      rw [hout]
      exact Bool.false_ne_true

/-- The places of the plan differ exactly if the addresses do, as on two ports no place is the
same. -/
theorem Sound.nodup_places_iff (h : s.Sound) :
    (s.plan.map Endpoint.address).Nodup ↔ s.addresses.Nodup := by
  have hplaces : s.plan.map Endpoint.address =
      (s.ports.map Prod.fst).flatMap fun port => s.addresses.map fun ip => ⟨ip, port, 0⟩ := by
    rw [h.plan_eq, List.map_flatMap, List.flatMap_map]
    simp only [List.map_map]
    rfl
  have hinjective (port : UInt16) :
      Function.Injective fun ip : Address => (⟨ip, port, 0⟩ : SocketAddress) :=
    fun a b hab => (SocketAddress.mk.inj hab).1
  rw [hplaces, List.nodup_flatMap]
  constructor
  · rintro ⟨hnodup, -⟩
    obtain ⟨port, hport⟩ := List.exists_mem_of_ne_nil _ h.ports_ne_nil
    exact (List.nodup_map_iff (hinjective port.1)).mp
      (hnodup port.1 (List.mem_map_of_mem hport))
  · intro hnodup
    refine ⟨fun port _ => (List.nodup_map_iff (hinjective port)).mpr hnodup, ?_⟩
    refine h.nodup_ports.imp fun {p q} hpq => List.disjoint_left.mpr fun a hp hq => ?_
    obtain ⟨_, -, rfl⟩ := List.mem_map.mp hp
    obtain ⟨_, -, heq⟩ := List.mem_map.mp hq
    exact hpq (SocketAddress.mk.inj heq).2.1.symm

/-- What is planned is TCP at one of the addresses, on one of the ports. -/
theorem Sound.mem_plan (h : s.Sound) {e : Endpoint} (he : e ∈ s.plan) : e.transport = .tcp ∧
    e.address.ip ∈ s.addresses ∧ (e.address.port, e.security) ∈ s.ports := by
  rw [h.plan_eq, List.mem_flatMap] at he
  obtain ⟨port, hport, he⟩ := he
  obtain ⟨ip, hip, rfl⟩ := List.mem_map.mp he
  exact ⟨rfl, hip, hport⟩

end ListenerSettings

/-! ## What the listeners hold -/

/-- A system that gives every address away once: what is taken is what was asked for, up to a
port that was left open, and an address with a port is refused as long as it is held. -/
structure Network.Exclusive (n : Network) : Prop where
  /-- The address is the one that was asked for. -/
  ip : ∀ held a taken, n.bind held a = .ok taken → taken.ip = a.ip
  /-- So is its port, if there was one. -/
  port : ∀ held a taken, a.port ≠ 0 → n.bind held a = .ok taken → taken = a
  /-- What is held is refused. -/
  refuses : ∀ held a, a.port ≠ 0 → a ∈ held → ∃ cause, n.bind held a = .error cause

/-- Two sockets on one address are in conflict. -/
theorem Network.conflict_self (a : SocketAddress) : Network.conflict a a = true := by
  simp [conflict, covers]

/-- What it gives away could be taken beside those of the others and those that are held. -/
theorem Network.take_of_bind {others held : List SocketAddress} {a taken : SocketAddress}
    (h : (Network.ofTaken others).bind held a = .ok taken) :
    take (others ++ held) a = .ok taken := by
  unfold ofTaken at h
  dsimp only at h
  cases htake : take (others ++ held) a with
  | error cause =>
    rw [htake] at h
    cases h
  | ok found =>
    rw [htake] at h
    cases h
    rfl

/-- The network in which others have taken some addresses gives every address away once. -/
theorem Network.exclusive_ofTaken (others : List SocketAddress) :
    (Network.ofTaken others).Exclusive := by
  refine ⟨fun held a taken h => ?_, fun held a taken hport h => ?_, fun held a hport hheld => ?_⟩
  · replace h := take_of_bind h
    unfold take at h
    split_ifs at h <;> cases h <;> rfl
  · replace h := take_of_bind h
    unfold take at h
    rw [if_neg hport] at h
    split_ifs at h
    cases h
    rfl
  · have hany : (others ++ held).any (conflict a) = true :=
      List.any_eq_true.mpr ⟨a, List.mem_append_right _ hheld, conflict_self a⟩
    unfold ofTaken take
    dsimp only
    rw [if_neg hport, hany, if_pos rfl]
    split_ifs
    · exact ⟨_, rfl⟩
    · exact ⟨_, rfl⟩

namespace Registry

variable {network : Network} {secured : Bool} {terms : AcceptTerms} {r r' : Registry}
  {done : Unit}

/-- A listener that is added holds its address after all others. -/
theorem held_add (r : Registry) (taken : SocketAddress) (l : Listener) :
    (r.add taken l).held = r.held ++ [taken] := List.map_append

/-- Another listener stands for an endpoint on every interface of the first family only, and is
itself on every interface of the second. -/
theorem any_of_standsFor {e : Endpoint} (h : r.standsFor e = true) :
    e.address.ip = .anyV4 ∧ ∃ a ∈ r.held, a.ip = .anyV6 := by
  simp only [standsFor, Bool.and_eq_true, beq_iff_eq, List.any_eq_true] at h
  obtain ⟨hip, x, hx, ⟨htaken, -⟩, -⟩ := h
  exact ⟨hip, x.taken, List.mem_map_of_mem hx, htaken⟩

/-- What the listeners hold in the end they held before, or one of them took it. -/
theorem held_of_startAll {endpoints : List Endpoint}
    (h : startAll network secured terms endpoints r = (.ok done, r')) :
    ∀ a ∈ r'.held, a ∈ r.held ∨
      ∃ e ∈ endpoints, ∃ held, network.bind held e.address = .ok a := by
  induction endpoints generalizing r with
  | nil =>
    obtain ⟨-, rfl⟩ := Prod.mk.inj h
    exact fun a ha => .inl ha
  | cons e rest ih =>
    obtain ⟨between, hone, hrest⟩ := startAll_cons_ok h
    intro a ha
    rcases ih hrest a ha with hbetween | ⟨later, hlater, hbind⟩
    · obtain ⟨-, -, -, -, rfl⟩ | ⟨taken, hbind, rfl⟩ := exists_of_startOne hone
      · exact .inl hbetween
      · rw [held_add] at hbetween
        rcases List.mem_append.mp hbetween with hheld | htaken
        · exact .inl hheld
        · obtain rfl := List.mem_singleton.mp htaken
          exact .inr ⟨e, List.mem_cons_self, r.held, hbind⟩
    · exact .inr ⟨later, List.mem_cons_of_mem _ hlater, hbind⟩

/-- Listeners that are there stay there while others start. -/
theorem length_le_of_startAll {endpoints : List Endpoint}
    (h : startAll network secured terms endpoints r = (.ok done, r')) :
    r.listeners.length ≤ r'.listeners.length := by
  refine startAll_induction (P := fun s => r.listeners.length ≤ s.listeners.length)
    (Nat.le_refl _) (fun s e s' hone hs => Nat.le_trans hs ?_) h
  obtain ⟨-, -, -, -, rfl⟩ | ⟨taken, -, rfl⟩ := exists_of_startOne hone
  · exact Nat.le_refl _
  · exact Nat.le.intro List.length_append.symm

/-- The first endpoint has a listener of its own, since there is no other to stand for it. -/
theorem listeners_ne_nil_of_startAll {endpoints : List Endpoint} (hne : endpoints ≠ [])
    (hempty : r.listeners = [])
    (h : startAll network secured terms endpoints r = (.ok done, r')) : r'.listeners ≠ [] := by
  cases endpoints with
  | nil => exact absurd rfl hne
  | cons e rest =>
    obtain ⟨between, hone, hrest⟩ := startAll_cons_ok h
    obtain ⟨-, -, -, hstands, -⟩ | ⟨taken, -, rfl⟩ := exists_of_startOne hone
    · obtain ⟨-, a, ha, -⟩ := any_of_standsFor hstands
      rw [held, hempty] at ha
      cases ha
    · have hgrown := length_le_of_startAll hrest
      have hmore : r.listeners.length < r'.listeners.length :=
        Nat.lt_of_lt_of_le (List.length_append ▸ Nat.lt_succ_self _) hgrown
      intro hnone
      rw [hnone] at hmore
      cases hmore

/-- If all listeners start, no address that only its own listener can take was held before, and
none was planned twice: where it is taken it was free, and nobody gets it after that. -/
theorem apart_of_startAll (hn : network.Exclusive) {ips : List Address}
    {endpoints : List Endpoint} {a : SocketAddress} (hport : a.port ≠ 0)
    (hunaided : a.ip = .anyV4 → .anyV6 ∉ ips) (hheld : ∀ b ∈ r.held, b.ip ∈ ips)
    (hendpoints : ∀ e ∈ endpoints, e.address.ip ∈ ips)
    (h : startAll network secured terms endpoints r = (.ok done, r')) :
    (a ∈ endpoints.map Endpoint.address → a ∉ r.held) ∧
      (endpoints.map Endpoint.address).count a ≤ 1 := by
  induction endpoints generalizing r with
  | nil => exact ⟨fun ha => absurd ha List.not_mem_nil, Nat.zero_le 1⟩
  | cons e rest ih =>
    obtain ⟨between, hone, hrest⟩ := startAll_cons_ok h
    obtain ⟨he, hothers⟩ := List.forall_mem_cons.mp hendpoints
    have hheldBetween : ∀ b ∈ between.held, b.ip ∈ ips := by
      obtain ⟨-, -, -, -, rfl⟩ | ⟨taken, hbind, rfl⟩ := exists_of_startOne hone
      · exact hheld
      · intro b hb
        rw [held_add] at hb
        rcases List.mem_append.mp hb with hb | hb
        · exact hheld b hb
        · obtain rfl := List.mem_singleton.mp hb
          rw [hn.ip _ _ _ hbind]
          exact he
    obtain ⟨hfree, honce⟩ := ih hheldBetween hothers hrest
    by_cases hea : e.address = a
    · subst hea
      obtain ⟨-, -, -, hstands, -⟩ | ⟨taken, hbind, rfl⟩ := exists_of_startOne hone
      · obtain ⟨hfour, b, hb, hsix⟩ := any_of_standsFor hstands
        exact absurd (hsix ▸ hheld b hb) (hunaided hfour)
      · obtain rfl := hn.port _ _ _ hport hbind
        have hmine (l : Listener) : e.address ∈ (r.add e.address l).held := by
          rw [held_add]
          exact List.mem_append_right _ List.mem_cons_self
        have hnever : (rest.map Endpoint.address).count e.address = 0 :=
          List.count_eq_zero.mpr fun hagain => hfree hagain (hmine _)
        refine ⟨fun _ hbefore => ?_, ?_⟩
        · obtain ⟨cause, hrefused⟩ := hn.refuses r.held e.address hport hbefore
          rw [hrefused] at hbind
          cases hbind
        · rw [List.map_cons, List.count_cons_self]
          omega
    · refine ⟨fun ha hbefore => ?_, ?_⟩
      · rcases List.mem_cons.mp ha with rfl | ha
        · exact hea rfl
        · refine hfree ha ?_
          obtain ⟨-, -, -, -, rfl⟩ | ⟨taken, -, rfl⟩ := exists_of_startOne hone
          · exact hbefore
          · rw [held_add]
            exact List.mem_append_left _ hbefore
      · rw [List.map_cons, List.count_cons_of_ne hea]
        exact honce

/-- If no two endpoints are at the same place, none is asked for that is held. -/
theorem not_mem_held_of_nodup (hn : network.Exclusive) {before after : List Endpoint}
    {e : Endpoint} {surroundings : Surroundings}
    (hports : ∀ x ∈ before ++ e :: after, x.address.port ≠ 0)
    (hnodup : ((before ++ e :: after).map Endpoint.address).Nodup)
    (h : startAll network secured terms before ⟨[], surroundings⟩ = (.ok done, r)) :
    e.address ∉ r.held := by
  intro hheld
  rcases held_of_startAll h _ hheld with hnone | ⟨earlier, hearlier, held, hbind⟩
  · cases hnone
  · have hsame := hn.port _ _ _ (hports earlier (List.mem_append_left _ hearlier)) hbind
    rw [List.map_append, List.map_cons, List.nodup_append] at hnodup
    exact hnodup.2.2 _ (List.mem_map_of_mem hearlier) _ List.mem_cons_self hsame.symm

end Registry

/-! ## The daemon -/

namespace Daemon

/-- The event queue of settings that break no rule can be set up. -/
theorem exists_prepare {s : Settings} (h : s.violations = []) (shutdown : Shutdown) :
    ∃ surroundings, prepare s.queues shutdown = .ok surroundings := by
  unfold prepare
  dsimp only
  split_ifs with hhigh
  · exact ⟨_, rfl⟩
  · have hthresholds := Settings.thresholds_of_violations h hhigh
    unfold Surroundings.withAlarm Queue.System.setThresholds
    dsimp only
    rw [if_neg (by omega)]
    exact ⟨_, rfl⟩

/-- With an empty plan a daemon starts as soon as its credentials are there. -/
theorem exists_start_of_plan_eq_nil {machine : Machine} {s : Settings}
    {credentials : Option Credentials} (h : s.violations = []) (hplan : s.listener.plan = [])
    (hcredentials : s.tls.mapM (Credentials.load machine.files) = .ok credentials)
    (shutdown : Shutdown) :
    ∃ d r, Daemon.start machine s shutdown = (.ok d, r) ∧ d.registry.listeners = [] := by
  obtain ⟨surroundings, hprepare⟩ := exists_prepare h shutdown
  unfold Daemon.start
  rw [hprepare, hcredentials]
  dsimp only
  rw [Registry.start, hplan, Registry.startAll]
  exact ⟨_, _, rfl, rfl⟩

end Daemon

/-- Settings that break no rule may still be of no use. Nothing is planned exactly if addresses
are named and each of them is of the family that is ruled out; a daemon with such settings starts
as soon as its credentials are there, and has no listener, and no other daemon that starts is
without one. Two endpoints are planned at the same place exactly if an address is named twice.
On a system that gives every address away once the listeners of a plan with a repeated place
never all start, unless a listener on every interface of the second family may stand for it; with
different addresses no endpoint is ever asked for that the daemon holds itself. Ports that the
system chooses are left out. -/
theorem passed_settings_may_listen_nowhere_or_collide (s : Settings) (h : s.violations = []) :
    ((s.listener.plan = [] ↔ s.listener.listenOn ≠ [] ∧
        ∀ entry ∈ s.listener.listenOn, ∃ ip, Address.ofText? entry = some ip ∧
          s.listener.allowsFamily ip = false) ∧
      (∀ machine shutdown credentials, s.listener.plan = [] →
        s.tls.mapM (Credentials.load machine.files) = .ok credentials →
        ∃ d r, Daemon.start machine s shutdown = (.ok d, r) ∧ d.registry.listeners = []) ∧
      (∀ machine shutdown d r, Daemon.start machine s shutdown = (.ok d, r) →
        d.registry.listeners = [] → s.listener.plan = [])) ∧
    ((s.listener.plan.map Endpoint.address).Nodup ↔ s.listener.addresses.Nodup) ∧
    ∀ network : Network, network.Exclusive → ∀ secured terms surroundings,
      (∀ a, 1 < (s.listener.plan.map Endpoint.address).count a → a.port ≠ 0 →
        (a.ip = .anyV4 → .anyV6 ∉ s.listener.addresses) →
        ∃ cause, (Registry.start network secured terms s.listener surroundings).1 =
          .error cause) ∧
      (s.listener.addresses.Nodup → (∀ e ∈ s.listener.plan, e.address.port ≠ 0) →
        ∀ before e after, s.listener.plan = before ++ e :: after →
        ∀ done r, Registry.startAll network secured terms before ⟨[], surroundings⟩ =
          (.ok done, r) → e.address ∉ r.held) := by
  have hsound := Settings.sound_of_violations h
  refine ⟨⟨hsound.plan_eq_nil_iff.trans hsound.addresses_eq_nil_iff, ?_, ?_⟩,
    hsound.nodup_places_iff, fun network hn secured terms surroundings => ⟨?_, ?_⟩⟩
  · exact fun machine shutdown credentials hplan hcredentials =>
      Daemon.exists_start_of_plan_eq_nil h hplan hcredentials shutdown
  · intro machine shutdown d r hstart hnone
    obtain ⟨_, _, _, before, -, -, hregistry, hd, -⟩ := Daemon.exists_of_start hstart
    by_contra hplan
    exact Registry.listeners_ne_nil_of_startAll hplan rfl hregistry
      ((congrArg Registry.listeners hd).symm.trans hnone)
  · intro a htwice hport hunaided
    rcases hstart : Registry.start network secured terms s.listener surroundings with
      ⟨_ | done, r⟩
    · exact ⟨_, rfl⟩
    · have honce := (Registry.apart_of_startAll hn hport hunaided (fun b hb => by cases hb)
        (fun e he => (hsound.mem_plan he).2.1) hstart).2
      omega
  · intro hnodup hports before e after hplan done r hbefore
    rw [hplan] at hports
    have hplaces := hsound.nodup_places_iff.mpr hnodup
    rw [hplan] at hplaces
    exact Registry.not_mem_held_of_nodup hn hports hplaces hbefore

/-- Settings that name one address of the first family and rule that family out. -/
def nowhere : Settings :=
  { Settings.default with
    listener := { ListenerSettings.default with listenOn := ["127.0.0.1"], noIp4 := true } }

/-- Settings that name one address twice. -/
def twice : Settings :=
  { Settings.default with
    listener := { ListenerSettings.default with listenOn := ["127.0.0.1", "127.0.0.1"] } }

/-- The first settings break no rule, and a daemon runs with them and listens nowhere. The second
break none either, and their second listener cannot start, since the first has its address. -/
theorem nowhere_and_twice_pass :
    (nowhere.violations = [] ∧ nowhere.listener.plan = [] ∧
      ∃ d r, Daemon.start ⟨.ofTaken [], fun _ => .error .notFound⟩ nowhere .new = (.ok d, r) ∧
        d.registry.listeners = []) ∧
    twice.violations = [] ∧ ¬ (twice.listener.plan.map Endpoint.address).Nodup ∧
      ∃ cause, (Registry.start (.ofTaken []) false (Daemon.terms .default) twice.listener
        (.new 0)).1 = .error cause := by
  have hnowhere : nowhere.violations = [] := by decide +kernel
  have htwice : twice.violations = [] := by decide +kernel
  have hplan : nowhere.listener.plan = [] := by decide +kernel
  obtain ⟨⟨-, hdaemon, -⟩, -⟩ := passed_settings_may_listen_nowhere_or_collide nowhere hnowhere
  obtain ⟨-, hnodup, hstart⟩ := passed_settings_may_listen_nowhere_or_collide twice htwice
  have hrepeated : ¬ twice.listener.addresses.Nodup := by decide +kernel
  exact ⟨⟨hnowhere, hplan, hdaemon _ _ none hplan rfl⟩, htwice, fun h => hrepeated (hnodup.mp h),
    (hstart _ (Network.exclusive_ofTaken []) false _ _).1 ⟨.v4 127 0 0 1, 3868, 0⟩
      (by decide +kernel) (by decide) (by decide)⟩

end Diameter
