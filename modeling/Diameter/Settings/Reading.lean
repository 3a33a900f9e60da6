import Diameter.Document
import Diameter.Settings.Basic

/-!
# Settings in a document

A document gives settings section by section. A section is a table by the names of its
settings, or a list of them in order. What is not given takes its default, what is not
known is passed over, and what has the wrong type is refused.
-/

namespace Diameter

/-- A section of a document, seen as values by name. -/
abbrev Section := String → Option Document

namespace Document

/-- The values of a section whose settings are called `names`. With `exact`, a list must not
be longer than that. -/
def toSection (exact : Bool) (names : List String) : Document → Option Section
  | .table fields => some fun name => fields.lookup name
  | .moment => some fun _ => none
  | .list values =>
    if exact && names.length < values.length then none
    else some fun name => (names.zip values).lookup name
  | _ => none

/-- A truth value. -/
def flag? : Document → Option Bool
  | .flag b => some b
  | _ => none

/-- Text. -/
def text? : Document → Option String
  | .text s => some s
  | _ => none

/-- A whole number from zero up to, and without, `bound`. -/
def number? (bound : Nat) : Document → Option Nat
  | .integer n => if 0 ≤ n ∧ n < bound then some n.toNat else none
  | _ => none

/-- A number of 64 bits. -/
def size? (d : Document) : Option Nat := d.number? (Octets.span 8)

/-- A port, or none at all. -/
def port? : Document → Option (Option UInt16)
  | .null => some none
  | d => (d.number? 65536).map fun n => some (.ofNat n)

/-- Text, or none at all. -/
def optionalText? : Document → Option (Option String)
  | .null => some none
  | d => d.text?.map some

/-- A list of texts. -/
def texts? : Document → Option (List String)
  | .list values => values.mapM text?
  | _ => none

end Document

/-- The setting called `name`, or its default. -/
def Section.read {α : Type} (s : Section) (name : String) (reader : Document → Option α)
    (default : α) : Option α :=
  match s name with
  | none => some default
  | some d => reader d

/-- The setting called `name`, which has no default. -/
def Section.require {α : Type} (s : Section) (name : String) (reader : Document → Option α) :
    Option α :=
  (s name).bind reader

/-- The settings for listeners. -/
def ListenerSettings.ofDocument? (exact : Bool) (d : Document) : Option ListenerSettings := do
  let s ← d.toSection exact
    ["port", "port_tls", "listen_on", "no_ip4", "no_ip6", "no_tcp", "no_sctp", "max_message_size"]
  let preset := ListenerSettings.default
  return {
    port := ← s.read "port" Document.port? preset.port
    portTls := ← s.read "port_tls" Document.port? preset.portTls
    listenOn := ← s.read "listen_on" Document.texts? preset.listenOn
    noIp4 := ← s.read "no_ip4" Document.flag? preset.noIp4
    noIp6 := ← s.read "no_ip6" Document.flag? preset.noIp6
    noTcp := ← s.read "no_tcp" Document.flag? preset.noTcp
    noSctp := ← s.read "no_sctp" Document.flag? preset.noSctp
    maxMessageSize := ← s.read "max_message_size" Document.size? preset.maxMessageSize }

/-- The paths of the credentials. -/
def TlsSettings.ofDocument? (exact : Bool) (d : Document) : Option TlsSettings := do
  let s ← d.toSection exact ["cert_path", "key_path", "ca_path"]
  return {
    certPath := ← s.require "cert_path" Document.text?
    keyPath := ← s.require "key_path" Document.text?
    caPath := ← s.read "ca_path" Document.optionalText? none }

/-- The timeouts. -/
def TimeoutSettings.ofDocument? (exact : Bool) (d : Document) : Option TimeoutSettings := do
  let s ← d.toSection exact ["incoming_connection_secs"]
  return ⟨← s.read "incoming_connection_secs" Document.size?
    TimeoutSettings.default.incomingSeconds⟩

/-- The settings for queues. -/
def QueueSettings.ofDocument? (exact : Bool) (d : Document) : Option QueueSettings := do
  let s ← d.toSection exact
    ["peer_events_capacity", "peer_events_high_watermark", "peer_events_low_watermark"]
  let preset := QueueSettings.default
  return {
    capacity := ← s.read "peer_events_capacity" Document.size? preset.capacity
    highWatermark := ← s.read "peer_events_high_watermark" Document.size? preset.highWatermark
    lowWatermark := ← s.read "peer_events_low_watermark" Document.size? preset.lowWatermark }

/-- The settings for what can be watched. -/
def ObservabilitySettings.ofDocument? (exact : Bool) (d : Document) :
    Option ObservabilitySettings := do
  let s ← d.toSection exact ["log_level", "metrics_enabled", "metrics_address"]
  let preset := ObservabilitySettings.default
  return {
    logLevel := ← s.read "log_level" Document.text? preset.logLevel
    metricsEnabled := ← s.read "metrics_enabled" Document.flag? preset.metricsEnabled
    metricsAddress := ← s.read "metrics_address" Document.text? preset.metricsAddress }

/-- The settings that a document gives, which has to be a table of sections. -/
def Settings.ofDocument? (exact : Bool) : Document → Option Settings
  | .table fields => do
    let s : Section := fun name => fields.lookup name
    let tls (d : Document) : Option (Option TlsSettings) :=
      match d with
      | .null => some none
      | d => (TlsSettings.ofDocument? exact d).map some
    return {
      listener := ← s.read "listener" (ListenerSettings.ofDocument? exact) .default
      tls := ← s.read "tls" tls none
      timeouts := ← s.read "timeouts" (TimeoutSettings.ofDocument? exact) .default
      queues := ← s.read "queues" (QueueSettings.ofDocument? exact) .default
      observability :=
        ← s.read "observability" (ObservabilitySettings.ofDocument? exact) .default }
  | _ => none

end Diameter
