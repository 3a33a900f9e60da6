import Diameter.CommandLine.Arguments
import Diameter.Message.Draft
import Diameter.Text.Digits

/-!
# The command that probes a node

The command sends one message to a node and watches what the node does with the connection.
The message is the one that opens a connection, one that does not, or none at all.
-/

namespace Diameter.Probe

/-- What is sent. -/
inductive Kind where
  | capabilities
  | watchdog
  | garbage
  deriving DecidableEq, Repr

/-- The kind of a name. -/
def kind? : String → Option Kind
  | "cer" => some .capabilities
  | "dwr" => some .watchdog
  | "garbage" => some .garbage
  | _ => none

/-- The number that a text writes, if it fits in 64 bits. A plus sign may come first. -/
def number? (s : String) : Option Nat :=
  let digits := match s.toList with
    | '+' :: rest => rest
    | all => all
  let (ds, rest) := Text.digits 10 digits
  let n := Text.ofDigits 10 ds
  if ds.isEmpty || !rest.isEmpty || Octets.span 8 ≤ n then none else some n

/-- The flags of the command. -/
def flags : List Flag :=
  [⟨"addr", none, .value "ADDR" fun _ => true⟩,
    ⟨"kind", none, .value "KIND" fun s => (kind? s).isSome⟩,
    ⟨"origin-host", none, .value "ORIGIN_HOST" fun _ => true⟩,
    ⟨"origin-realm", none, .value "ORIGIN_REALM" fun _ => true⟩,
    ⟨"wait-ms", none, .value "WAIT_MS" fun s => (number? s).isSome⟩,
    ⟨"help", some 'h', .help⟩]

/-- What the command is asked to do. -/
structure Request where
  /-- The node. -/
  node : String
  /-- What is sent. -/
  kind : Kind
  /-- The host that the message comes from. -/
  host : String
  /-- The realm that the message comes from. -/
  realm : String
  /-- How long the connection is watched, in milliseconds. -/
  wait : Nat
  deriving DecidableEq, Repr

/-- What the arguments ask for. -/
def request (arguments : List String) : Except ArgumentStop Request := do
  let given ← Arguments.read flags arguments
  match given.lookup "addr" with
  | none => .error (.wrong (.missingValue ⟨"addr", none, .value "ADDR" fun _ => true⟩))
  | some node =>
    return {
      node
      kind := ((given.lookup "kind").bind kind?).getD .capabilities
      host := (given.lookup "origin-host").getD "probe.localdomain"
      realm := (given.lookup "origin-realm").getD "localdomain"
      wait := ((given.lookup "wait-ms").bind number?).getD 500 }

/-- The octets that are sent from `address`. -/
def Request.octets (r : Request) (id : UInt32) (address : Address) : Octets :=
  match r.kind with
  | .capabilities => (Draft.capabilitiesRequest id r.host r.realm address).write
  | .watchdog => (Draft.watchdogRequest id r.host r.realm).write
  | .garbage => Octets.ofText "GET / HTTP/1.1\r\n\r\n" ++ [0, 0]

/-- The exit code if the arguments end the command. -/
def stopCode : ArgumentStop → Nat
  | .help | .version => 0
  | .wrong _ => 2

/-- The exit code if the node cannot be reached. -/
def exitCode (arguments : List String) : Nat :=
  match request arguments with
  | .error stop => stopCode stop
  | .ok _ => 1

end Diameter.Probe
