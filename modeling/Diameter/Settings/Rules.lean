import Diameter.Message.Basic
import Diameter.Settings.Reading
import Diameter.SystemError
import Diameter.Text.Quoted
import Diameter.Toml.Reader

/-!
# Rules for settings

Every rule that is broken is reported, in a fixed order and with the setting that is to
blame. Settings that break none can be planned and started.
-/

namespace Diameter

/-- A setting that breaks a rule. -/
structure Violation where
  /-- The setting. -/
  field : String
  /-- The rule. -/
  message : String
  deriving DecidableEq, Repr

/-- The wording of a violation. -/
def Violation.text (v : Violation) : String := s!"{v.field}: {v.message}"

namespace Settings

/-- The violation of a rule, if it is broken. -/
def violationIf (broken : Bool) (field message : String) : List Violation :=
  if broken then [⟨field, message⟩] else []

/-- The broken rules about ports and transports. -/
def transportViolations (s : Settings) : List Violation :=
  let l := s.listener
  violationIf (l.port.isNone && l.portTls.isNone) "listener.port"
      "at least one of port / port_tls must be set" ++
    violationIf (l.port.isSome && l.port == l.portTls) "listener.port_tls"
      "must differ from listener.port" ++
    violationIf (l.portTls.isSome && s.tls.isNone) "tls"
      "a [tls] section is required when port_tls is set" ++
    violationIf l.noTcp "listener.no_tcp" "TCP is the only available transport" ++
    violationIf (!l.noSctp) "listener.no_sctp" "SCTP is not supported by this build"

/-- The broken rules about addresses. -/
def addressViolations (s : Settings) : List Violation :=
  let l := s.listener
  violationIf (l.noIp4 && l.noIp6) "listener.no_ip4" "IPv4 and IPv6 cannot both be disabled" ++
    l.listenOn.flatMap fun entry =>
      violationIf (Address.ofText? entry).isNone "listener.listen_on"
        s!"{Text.quoted entry} is not an IP address"

/-- The broken rules about numbers. -/
def limitViolations (s : Settings) : List Violation :=
  let q := s.queues
  violationIf (s.listener.maxMessageSize < Header.size) "listener.max_message_size"
      s!"must be at least {Header.size}" ++
    violationIf (s.timeouts.incomingSeconds == 0) "timeouts.incoming_connection_secs"
      "must be greater than 0" ++
    violationIf (!(q.highWatermark == 0 && q.lowWatermark == 0) && q.highWatermark ≤ q.lowWatermark)
      "queues.peer_events_high_watermark"
      s!"must be greater than the low watermark ({q.lowWatermark})"

/-- The broken rules about metrics. -/
def metricsViolations (s : Settings) : List Violation :=
  let o := s.observability
  violationIf (o.metricsEnabled && (SocketAddress.ofText? o.metricsAddress).isNone)
    "observability.metrics_address" s!"{Text.quoted o.metricsAddress} is not a socket address"

/-- All rules that are broken. -/
def violations (s : Settings) : List Violation :=
  s.transportViolations ++ s.addressViolations ++ s.limitViolations ++ s.metricsViolations

end Settings

/-- Why settings cannot be loaded. -/
inductive SettingsError where
  /-- The file cannot be read. -/
  | unreadable (cause : SystemError)
  /-- The text does not give settings. -/
  | unparsable
  /-- The settings break rules. -/
  | invalid (violations : List Violation)
  deriving DecidableEq, Repr

/-- The wording of a settings error, where it has one. -/
def SettingsError.message? : SettingsError → Option String
  | .unreadable cause => some s!"IO error: {cause.text}"
  | .unparsable => none
  | .invalid violations =>
    some ("Validation failed: " ++ ", ".intercalate (violations.map Violation.text))

/-- The settings that a configuration text gives, if they break no rule. -/
def Settings.ofText (text : String) : Except SettingsError Settings :=
  match (Toml.read text).bind (Settings.ofDocument? false) with
  | none => .error .unparsable
  | some s => if s.violations.isEmpty then .ok s else .error (.invalid s.violations)

/-- The settings in a file, given what reading the file led to. -/
def Settings.ofFile (content : Except SystemError Octets) : Except SettingsError Settings :=
  match content with
  | .error e => .error (.unreadable e)
  | .ok bs =>
    match bs.text? with
    | none => .error (.unreadable .notUtf8)
    | some text => Settings.ofText text

end Diameter
