import Diameter.Daemon.Run
import Diameter.Proofs.Daemon.Rollback
import Diameter.Proofs.Daemon.Verdict

/-!
# What can make a daemon fail whose settings break no rule

The rules are checked once, and what relies on them is done later and elsewhere: the plan of the
listeners, their start, the thresholds of the event queue, and the address of the metrics. None of
these can fail because of the settings then. What is left are the files of the credentials, the
system, which may refuse an address or not tell it, the exporter of metrics, and a listener or the
daemon itself, which may fail while the daemon runs.

An address is read in the same way when the rules are checked and when it is used.
-/

namespace Diameter

open Shutdown (Clamour)

/-! ## The plan -/

namespace Settings

variable {s : Settings}

/-- If TLS starts at once on some port, there are credentials to be loaded. -/
theorem tls_of_violations (h : s.violations = []) {p : UInt16} (hport : s.listener.portTls = some p) :
    s.tls.isSome = true := by
  simp only [violations, transportViolations, List.append_eq_nil_iff, violationIf_eq_nil,
    Bool.and_eq_false_iff] at h
  obtain ⟨⟨⟨⟨⟨⟨-, htls⟩, -⟩, -⟩, -⟩, -⟩, -⟩ := h
  rw [hport] at htls
  simpa using htls

/-- If metrics are offered, their address is one. -/
theorem metricsAddress_of_violations (h : s.violations = [])
    (henabled : s.observability.metricsEnabled = true) :
    ∃ address, SocketAddress.ofText? s.observability.metricsAddress = some address := by
  simp only [violations, metricsViolations, List.append_eq_nil_iff, violationIf_eq_nil,
    Bool.and_eq_false_iff] at h
  obtain ⟨-, hmetrics⟩ := h
  rw [henabled] at hmetrics
  simpa [Option.isSome_iff_exists] using hmetrics

end Settings

namespace ListenerSettings

variable {s : ListenerSettings}

/-- The port without TLS is the one that the settings name. -/
theorem mem_ports_clear {p : UInt16} : (p, Security.clear) ∈ s.ports ↔ s.port = some p := by
  simp [ports]

/-- The port with TLS is the one that the settings name. -/
theorem mem_ports_tls {p : UInt16} : (p, Security.tls) ∈ s.ports ↔ s.portTls = some p := by
  simp [ports]

/-- Every address that is planned is of a family that is allowed. -/
theorem allowsFamily_of_mem_addresses {ip : Address} (h : ip ∈ s.addresses) :
    s.allowsFamily ip = true := (List.mem_filter.mp h).2

/-- If every entry can be read, none is passed over. -/
theorem forall₂_filterMap {α β : Type} {f : α → Option β} {entries : List α}
    (h : ∀ x ∈ entries, ∃ y, f x = some y) :
    List.Forall₂ (fun x y => f x = some y) entries (entries.filterMap f) := by
  induction entries with
  | nil => exact .nil
  | cons x entries ih =>
    obtain ⟨⟨y, hy⟩, hrest⟩ := List.forall_mem_cons.mp h
    rw [List.filterMap_cons_some hy]
    exact .cons hy (ih hrest)

/-- What settings plan that break no rule. -/
structure WellPlanned (s : ListenerSettings) (secured : Bool) : Prop where
  /-- Everything planned is TCP, and at an address of a family that is not ruled out. -/
  endpoints : ∀ e ∈ s.plan, e.transport = .tcp ∧ s.allowsFamily e.address.ip = true
  /-- What is named are addresses, and on each port all of them are planned in their order that are
  not of a family that is ruled out. -/
  named : ∃ ips, List.Forall₂ (fun entry ip => Address.ofText? entry = some ip) s.listenOn ips ∧
    (s.listenOn ≠ [] → s.plan = s.ports.flatMap fun port =>
      (ips.filter s.allowsFamily).map fun ip => ⟨⟨ip, port.1, 0⟩, .tcp, port.2⟩)
  /-- TLS starts at once only if there are credentials to be loaded. -/
  secured : ∀ e ∈ s.plan, e.security = .tls → secured = true
  /-- No endpoint in the clear is at the place of one with TLS. -/
  apart : ∀ e ∈ s.plan, ∀ e' ∈ s.plan, e.security = .clear → e'.security = .tls →
    (e.address.ip, e.address.port) ≠ (e'.address.ip, e'.address.port)

/-- Settings that pass the rules lead to a plan without faults of its own. -/
theorem wellPlanned_of_violations {s : Settings} (h : s.violations = []) :
    s.listener.WellPlanned s.tls.isSome := by
  have hsound := Settings.sound_of_violations h
  have hport {e : Endpoint} (he : e ∈ s.listener.plan) (hclear : e.security = .clear) :
      s.listener.port = some e.address.port :=
    mem_ports_clear.mp (hclear ▸ (hsound.mem_plan he).2.2)
  have hportTls {e : Endpoint} (he : e ∈ s.listener.plan) (htls : e.security = .tls) :
      s.listener.portTls = some e.address.port :=
    mem_ports_tls.mp (htls ▸ (hsound.mem_plan he).2.2)
  refine ⟨fun e he => ?_, ⟨_, forall₂_filterMap hsound.entries, fun hnamed => ?_⟩,
    fun e he htls => Settings.tls_of_violations h (hportTls he htls),
    fun e he e' he' hclear htls hsame => ?_⟩
  · obtain ⟨htcp, hip, -⟩ := hsound.mem_plan he
    exact ⟨htcp, allowsFamily_of_mem_addresses hip⟩
  · rw [hsound.plan_eq, addresses_of_listenOn hnamed]
  · exact hsound.apart _ (hport he hclear) ((Prod.mk.inj hsame).2 ▸ hportTls he' htls)

end ListenerSettings

/-- Whether the settings would be to blame for an error. -/
def DaemonError.blamesSettings : DaemonError → Bool
  | .queue _ | .listener (.unsupported _ _) | .listener (.tlsNotConfigured _) => true
  | .metrics cause => cause == .address
  | _ => false

/-! ## The start -/

namespace Registry

variable {network : Network} {secured : Bool} {terms : AcceptTerms} {r : Registry} {e : Endpoint}
  {cause : ListenerError}

/-- If nothing else is wrong with an endpoint that cannot be listened on, the system refuses its
address, or gives it away without telling it. -/
theorem bind_of_startOne_error (htcp : e.transport = .tcp)
    (htls : e.security = .tls → secured = true)
    (h : r.startOne network secured terms e = .error cause) :
    ∃ why, (network.bind r.held e.address = .error (.untaken why) ∧
        cause = .bind e.address.text why) ∨
      network.bind r.held e.address = .error (.untold why) ∧ cause = .accept why := by
  rw [startOne_eq, htcp, if_neg nofun, if_neg fun hno => by
    rw [htls hno.1] at hno
    cases hno.2] at h
  split at h
  · next why hbind =>
    split at h
    · cases h
    · exact ⟨why, .inl ⟨hbind, (Except.error.inj h).symm⟩⟩
  · next why hbind => exact ⟨why, .inr ⟨hbind, (Except.error.inj h).symm⟩⟩
  · cases h

end Registry

namespace Daemon

/-- What may be at fault when a daemon cannot be started whose settings break no rule. -/
inductive Fault (machine : Machine) (s : Settings) : DaemonError → Prop
  /-- The credentials cannot be loaded from the files. -/
  | credentials {tls : TlsSettings} {cause : CredentialError} (asked : s.tls = some tls)
      (unloaded : Credentials.load machine.files tls = .error cause) :
      Fault machine s (.credentials cause)
  /-- The system refuses an address of the plan, when the listeners before it hold theirs. -/
  | address {before after : List Endpoint} {e : Endpoint} {ps : List Profile}
      {skipped : List Endpoint} {why : SystemError} (planned : s.listener.plan = before ++ e :: after)
      (held : Registry.Enlists machine.network before ps skipped)
      (refused : machine.network.bind (ps.map Profile.taken) e.address = .error (.untaken why)) :
      Fault machine s (.listener (.bind e.address.text why))
  /-- The system does not tell which address of the plan a socket has taken. -/
  | socket {before after : List Endpoint} {e : Endpoint} {ps : List Profile}
      {skipped : List Endpoint} {why : SystemError} (planned : s.listener.plan = before ++ e :: after)
      (held : Registry.Enlists machine.network before ps skipped)
      (refused : machine.network.bind (ps.map Profile.taken) e.address = .error (.untold why)) :
      Fault machine s (.listener (.accept why))

/-- None of the faults that are left is one of the settings. -/
theorem Fault.not_blamesSettings {machine : Machine} {s : Settings} {error : DaemonError}
    (h : Fault machine s error) : error.blamesSettings = false := by
  cases h <;> rfl

/-- What the start of a daemon begins with that has these settings. -/
def Outset.ofSettings (network : Network) (s : Settings) (surroundings : Surroundings) : Outset where
  network := network
  secured := s.tls.isSome
  terms := Daemon.terms s.timeouts
  plan := s.listener.plan
  surroundings := surroundings

variable {machine : Machine} {s : Settings}

/-- An endpoint that cannot be listened on is one whose address is refused. -/
theorem Fault.of_failsAt (h : s.violations = []) {surroundings : Surroundings}
    {before : List Endpoint} {e : Endpoint} {cause : ListenerError} {ps : List Profile}
    (hfails : (Outset.ofSettings machine.network s surroundings).FailsAt before e cause ps) :
    Fault machine s (.listener cause) := by
  have hplan := ListenerSettings.wellPlanned_of_violations h
  obtain ⟨skipped, henlists, -⟩ := hfails.musters.enlists
  obtain ⟨⟨after, hafter⟩, r, -, hr, hone⟩ := hfails
  have hafter : s.listener.plan = before ++ e :: after := hafter
  have he : e ∈ s.listener.plan := hafter ▸ List.mem_append_right _ List.mem_cons_self
  obtain ⟨why, ⟨hbind, rfl⟩ | ⟨hbind, rfl⟩⟩ :=
    Registry.bind_of_startOne_error (hplan.endpoints e he).1 (hplan.secured e he) hone
  · rw [Registry.held_eq, hr] at hbind
    exact .address hafter henlists hbind
  · rw [Registry.held_eq, hr] at hbind
    exact .socket hafter henlists hbind

/-- Credentials were loaded if they were asked for. -/
theorem isSome_of_mapM_ok {files : FileReader} {tls : Option TlsSettings}
    {credentials : Option Credentials}
    (h : tls.mapM (Credentials.load files) = .ok credentials) :
    credentials.isSome = tls.isSome := by
  cases tls with
  | none =>
    cases h
    rfl
  | some asked =>
    rw [Option.mapM_some] at h
    cases hload : Credentials.load files asked with
    | error cause =>
      rw [hload] at h
      cases h
    | ok found =>
      rw [hload] at h
      cases h
      rfl

/-- If credentials cannot be loaded, they were asked for. -/
theorem exists_of_mapM_error {files : FileReader} {tls : Option TlsSettings}
    {cause : CredentialError} (h : tls.mapM (Credentials.load files) = .error cause) :
    ∃ asked, tls = some asked ∧ Credentials.load files asked = .error cause := by
  cases tls with
  | none => cases h
  | some asked =>
    rw [Option.mapM_some] at h
    cases hload : Credentials.load files asked with
    | error other =>
      rw [hload] at h
      cases h
      exact ⟨asked, rfl, hload⟩
    | ok found =>
      rw [hload] at h
      cases h

/-- A start that fails is not to blame on the settings. -/
theorem fault_of_start (h : s.violations = []) {shutdown : Shutdown} {error : DaemonError}
    {r : Registry} (hstart : Daemon.start machine s shutdown = (.error error, r)) :
    Fault machine s error := by
  obtain ⟨cause, hprepare, -⟩ | ⟨cause, hload, rfl⟩ |
    ⟨surroundings, credentials, cause, left, -, hload, hregistry, rfl, -⟩ := start_error_cases hstart
  · obtain ⟨surroundings, hready⟩ := exists_prepare h shutdown
    rw [hready] at hprepare
    cases hprepare
  · obtain ⟨tls, hasked, hunloaded⟩ := exists_of_mapM_error hload
    exact .credentials hasked hunloaded
  · rw [isSome_of_mapM_ok hload] at hregistry
    obtain ⟨before, e, after, r, hplan, hbefore, hone⟩ :=
      Registry.exists_of_startAll_error hregistry
    have hfails : (Outset.ofSettings machine.network s surroundings).FailsAt before e cause _ :=
      ⟨⟨after, hplan⟩, r, hbefore, rfl, hone⟩
    exact .of_failsAt h hfails

/-! ## The life -/

/-- A daemon may fail to start, or be stopped because something has failed. -/
theorem fault_of_life (h : s.violations = []) (events : List Clamour.Event)
    {surroundings : Surroundings}
    (hprepare : prepare s.queues (Clamour.start.extend events).shutdown = .ok surroundings)
    (moves : List LifeMove) {error : DaemonError} :
    let x := (Life.start machine.network s.tls.isSome s surroundings
      (Clamour.start.extend events).calls).extend moves
    x.result? = some (.error error) → Fault machine s error ∨ ∃ r, error = .stopped r ∧
      ((∃ label, r = .listenerFailed label) ∨ ∃ what, r = .internal what) ∧
      x.shutdown.reason = some r := by
  intro x hresult
  have hshutdown := shutdown_of_prepare hprepare
  have hagrees := (Clamour.sound_extend events).agrees
  let o := Outset.ofSettings machine.network s surroundings
  let a := (Attempt.start o (Clamour.start.extend events).calls).extend moves
  have hlife : a.life = x := Attempt.life_extend _ moves
  have hkeeps : a.Keeps o := (Attempt.keeps_start (hshutdown ▸ hagrees)
    (hshutdown ▸ Clamour.attended_extend events)).extend moves
  obtain ⟨s', cause, given, hstage, hfailed, heq⟩ | ⟨⟨k, hstage⟩, -⟩ :=
    Attempt.result_cases (hlife ▸ hresult)
  · cases heq
    obtain ⟨-, before, e, hgiven⟩ := hkeeps.givenUp hstage hfailed
    exact .inl (.of_failsAt h hgiven.failsAt)
  · have hsound : x.Sound := ((Life.sound_start machine.network s.tls.isSome hprepare hagrees).extend
      moves).1
    obtain ⟨r, hreason, hverdict⟩ := hsound.exists_reason (hlife ▸ hstage) hresult
    unfold verdict at hverdict
    dsimp only at hverdict
    split at hverdict
    · next hfatal =>
      cases hverdict
      exact .inr ⟨r, rfl, ShutdownReason.isFatal_iff.mp hfatal, hreason⟩
    · cases hverdict

/-! ## The virtual clock -/

/-- A daemon that was started has no other reason than the one that there was. -/
theorem reason_of_start {shutdown : Shutdown} {d : Daemon} {r : Registry}
    (hstart : Daemon.start machine s shutdown = (.ok d, r)) :
    d.registry.surroundings.shutdown.reason = shutdown.reason := by
  obtain ⟨surroundings, _, _, before, hprepare, -, hregistry, hd, -⟩ := exists_of_start hstart
  rw [hd]
  exact (Registry.reason_startAll hregistry).trans
    (congrArg Shutdown.reason (shutdown_of_prepare hprepare))

/-- A daemon that gets a signal is stopped by it, and that is no failure. -/
theorem wait_of_signal {d : Daemon} {r : Registry}
    (hstart : Daemon.start machine s .new = (.ok d, r)) (name : String) :
    (d.trigger (.signal name)).2.wait.1 = .ok () := by
  have hreason : d.registry.surroundings.shutdown.reason = none := reason_of_start hstart
  have hlength : 0 < d.registry.surroundings.shutdown.tokens.length :=
    (extends_start hstart).length_le
  have hshutdown : (d.trigger (.signal name)).2.registry.surroundings.shutdown =
      (d.registry.surroundings.shutdown.trigger (.signal name)).2 :=
    congrArg (·.surroundings.shutdown)
      (Registry.trigger_of_fresh (Daemon.fresh_of_start hstart).1 (.signal name))
  have hraised : (d.trigger (.signal name)).2.registry.surroundings.shutdown.isTriggered = true := by
    rw [hshutdown, Shutdown.trigger_eq, hreason]
    refine Shutdown.isCancelled_cancel ?_
    rw [Shutdown.tokens_note]
    exact hlength
  obtain ⟨first, hfirst, -, hwait⟩ := exists_reason_of_wait hstart (.signal name) hraised
  rw [hshutdown, Shutdown.reason_trigger, hreason] at hfirst
  obtain rfl := Option.some.inj hfirst
  exact hwait

/-- Metrics are to be offered at an address, and the exporter cannot offer them there. What it says
is what is returned. -/
def ExporterFault (machine : Machine) (s : Settings) (error : DaemonError) : Prop :=
  s.observability.metricsEnabled = true ∧ ∃ address text,
    SocketAddress.ofText? s.observability.metricsAddress = some address ∧
    machine.network.exportMetrics address = .error text ∧ error = .metrics (.exporter text)

/-- Where the exporter is at fault its address could be read. -/
theorem ExporterFault.not_blamesSettings {error : DaemonError} (h : ExporterFault machine s error) :
    error.blamesSettings = false := by
  obtain ⟨-, address, text, -, -, rfl⟩ := h
  rfl

/-- If metrics cannot be offered, this is because the exporter says so: the rules have seen to it
that the address can be read. -/
theorem exporterFault_of_openMetrics (h : s.violations = []) {error : DaemonError}
    (hopen : openMetrics machine.network s.observability = .error error) :
    ExporterFault machine s error := by
  unfold openMetrics at hopen
  split at hopen
  · cases hopen
  · next henabled =>
    have henabled : s.observability.metricsEnabled = true := Bool.eq_true_of_not_eq_false henabled
    obtain ⟨address, haddress⟩ := Settings.metricsAddress_of_violations h henabled
    rw [haddress] at hopen
    dsimp only at hopen
    cases hexport : machine.network.exportMetrics address with
    | error text =>
      rw [hexport] at hopen
      exact ⟨henabled, address, text, haddress, hexport, (Except.error.inj hopen).symm⟩
    | ok done =>
      rw [hexport] at hopen
      cases hopen

/-- The life of a daemon that gets a signal fails at its start or not at all. -/
theorem fault_of_run (h : s.violations = []) {signal : Option String} {ending : Ending}
    {error : DaemonError} (hrun : run machine s signal = some ending)
    (herror : ending.result = .error error) :
    Fault machine s error ∨ ExporterFault machine s error := by
  unfold run at hrun
  split at hrun
  · next hopen =>
    cases hrun
    cases herror
    exact .inr (exporterFault_of_openMetrics h hopen)
  · split at hrun
    · next hstart =>
      cases hrun
      cases herror
      exact .inl (fault_of_start h hstart)
    · next d _ hstart =>
      obtain ⟨name, -, hending⟩ := Option.map_eq_some_iff.mp hrun
      have hwait := wait_of_signal hstart name
      generalize (d.trigger (.signal name)).2.wait = waited at hending hwait
      obtain ⟨result, left⟩ := waited
      obtain rfl : result = .ok () := hwait
      rw [← hending] at herror
      cases herror

/-! ## All that is left -/

/-- For all settings that break no rule: everything that they plan is TCP and of a family that is
not ruled out, what they name is planned unless its family is, TLS starts at once only with
credentials, and never where connections start in the clear. Hence, on every machine, a start fails
only because of the credentials or because the system refuses an address or does not tell it. In
whatever order a daemon lives, it may be stopped besides because a listener or the daemon itself has
failed. And the life of a daemon that gets a signal may besides fail because the exporter cannot
offer metrics at the address that is set for them. For none of this the settings are to blame. -/
theorem passed_settings_are_not_at_fault (s : Settings) (h : s.violations = []) :
    s.listener.WellPlanned s.tls.isSome ∧ ∀ machine : Machine,
      (∀ error, Fault machine s error ∨ ExporterFault machine s error →
        error.blamesSettings = false) ∧
      (∀ shutdown error r, Daemon.start machine s shutdown = (.error error, r) →
        Fault machine s error) ∧
      (∀ events : List Clamour.Event, let w := Clamour.start.extend events
        ∃ surroundings, prepare s.queues w.shutdown = .ok surroundings ∧
          ∀ (moves : List LifeMove) (error : DaemonError),
            let x := (Life.start machine.network s.tls.isSome s surroundings w.calls).extend moves
            x.result? = some (.error error) → Fault machine s error ∨ ∃ r, error = .stopped r ∧
              ((∃ label, r = .listenerFailed label) ∨ ∃ what, r = .internal what) ∧
              x.shutdown.reason = some r) ∧
      ∀ signal ending error, run machine s signal = some ending →
        ending.result = .error error → Fault machine s error ∨ ExporterFault machine s error := by
  refine ⟨ListenerSettings.wellPlanned_of_violations h, fun machine => ⟨fun error hfault => ?_,
    fun shutdown error r hstart => fault_of_start h hstart, fun events => ?_,
    fun signal ending error hrun herror => fault_of_run h hrun herror⟩⟩
  · exact hfault.elim Fault.not_blamesSettings ExporterFault.not_blamesSettings
  · obtain ⟨surroundings, hprepare⟩ := exists_prepare h (Clamour.start.extend events).shutdown
    exact ⟨surroundings, hprepare, fun moves error => fault_of_life h events hprepare moves⟩

/-- Settings with a port of each kind, an address of each family of which one is ruled out, an alarm
that is to be taken back when the queue is empty, and metrics. -/
def variedSettings : Settings where
  listener := { ListenerSettings.default with
    portTls := some 5868, listenOn := ["127.0.0.1", "::1"], noIp6 := true }
  tls := some ⟨"cert.pem", "key.pem", none⟩
  timeouts := .default
  queues := ⟨4, 1, 0⟩
  observability := { ObservabilitySettings.default with metricsEnabled := true }

/-- The files of the credentials are missing on one machine, and the other has no sockets. -/
theorem passed_settings_despite_faults :
    variedSettings.violations = [] ∧ variedSettings.listener.plan =
      [⟨⟨.v4 127 0 0 1, 3868, 0⟩, .tcp, .clear⟩, ⟨⟨.v4 127 0 0 1, 5868, 0⟩, .tcp, .tls⟩] ∧
      variedSettings.listener.WellPlanned true ∧
      (∃ error r, Daemon.start Closedown.bareMachine variedSettings .new = (.error error, r) ∧
        Fault Closedown.bareMachine variedSettings error ∧ error.blamesSettings = false) ∧
      ∃ ending error, run ⟨.none, Closedown.bareMachine.files⟩ variedSettings none = some ending ∧
        ending.result = .error error ∧ error.blamesSettings = false := by
  have hpassed : variedSettings.violations = [] := by decide +kernel
  have hplan : variedSettings.listener.plan =
      [⟨⟨.v4 127 0 0 1, 3868, 0⟩, .tcp, .clear⟩, ⟨⟨.v4 127 0 0 1, 5868, 0⟩, .tcp, .tls⟩] := by
    decide +kernel
  obtain ⟨hwell, hfaults⟩ := passed_settings_are_not_at_fault variedSettings hpassed
  obtain ⟨hnot, hstart, -⟩ := hfaults Closedown.bareMachine
  obtain ⟨hnot', -, -, hrun⟩ := hfaults ⟨.none, Closedown.bareMachine.files⟩
  have hfailed : ∃ error r,
      Daemon.start Closedown.bareMachine variedSettings .new = (.error error, r) := ⟨_, _, rfl⟩
  obtain ⟨error, r, hfailed⟩ := hfailed
  have hfault := hstart _ _ _ hfailed
  have hran : ∃ ending error, run ⟨.none, Closedown.bareMachine.files⟩ variedSettings none =
      some ending ∧ ending.result = .error error := ⟨_, _, rfl, rfl⟩
  obtain ⟨ending, error', hran, herror⟩ := hran
  exact ⟨hpassed, hplan, hwell, ⟨error, r, hfailed, hfault, hnot _ (.inl hfault)⟩,
    ending, error', hran, herror, hnot' _ (hrun _ _ _ hran herror)⟩

end Daemon

end Diameter
