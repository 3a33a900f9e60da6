import Diameter.Connection.Scripted
import Diameter.Dictionary
import Diameter.Endpoint
import Diameter.Handshake.Outcome

/-!
# The wait for the first message

After a connection is accepted its first message has to come before a deadline, the time
for TLS included. Whenever the wait gets a turn it looks at three things in this order:
whether it is cancelled, whether the connection has something, whether the deadline has
come. So a message that is there wins over the deadline, and a cancellation over both.
The decision depends on nothing but the connection, its deadline and its token.
-/

namespace Diameter

/-- What a codec makes of the first message. -/
inductive Verdict where
  /-- It opens the exchange. -/
  | accepted (m : Message)
  /-- The peer is to blame. -/
  | rejected (reason : RejectReason)
  /-- The codec failed. -/
  | failed (what : String)

/-- Puts the blame for a codec error. -/
def MessageError.verdict (e : MessageError) (reject : String → RejectReason) : Verdict :=
  if e.isFatal then .failed e.message else .rejected (reject e.message)

/-- Reads and judges the first message. It has to be the request that opens a connection. -/
def Codec.judge (codec : Codec) (frame : Octets) : Verdict :=
  match codec.parse frame with
  | .error e => e.verdict .parse
  | .ok m =>
    match codec.validate m with
    | .error e => e.verdict .validation
    | .ok _ =>
      if m.header.isCapabilitiesRequest then .accepted m
      else .rejected
        (.notCapabilities m.header.commandCode m.header.applicationId m.header.isRequest)

namespace Handshake

/-- What a wait is waiting for. -/
inductive Wait where
  /-- Its first turn. -/
  | turn
  /-- The end of the TLS handshake. -/
  | tls (done : Nat)
  /-- A message. -/
  | message
  deriving DecidableEq, Repr

/-- What a wait ends with. -/
inductive Decision where
  /-- We stop. -/
  | cancelled
  /-- There is a first message, or none will come. -/
  | judged (verdict : Verdict)

/-- What a wait depends on, apart from its connection. -/
structure Terms where
  /-- When TLS starts. -/
  security : Security
  /-- Reads and judges messages. -/
  codec : Codec
  /-- When the wait is over. -/
  deadline : Nat

/-- Asks for a message. -/
def askMessage (c : Connection) : Wait × Connection :=
  (.message, { c with receives := c.receives + 1 })

/-- Starts what comes first on the connection. -/
def begin (terms : Terms) (now : Nat) (c : Connection) : Wait × Connection :=
  match terms.security with
  | .tls => (.tls (now + c.tls.delay), { c with handshakes := c.handshakes + 1 })
  | .clear => askMessage c

/-- Takes a message, if there is one. -/
def takeMessage (terms : Terms) (c : Connection) : Option (Verdict × Connection) :=
  match c.receive with
  | none => none
  | some (.error e, c) => some (.rejected (.receive e.message), c)
  | some (.ok frame, c) => some (terms.codec.judge frame, c)

/-- Takes a message, or goes on waiting for one. -/
def awaitMessage (terms : Terms) (c : Connection) : (Wait ⊕ Verdict) × Connection :=
  match takeMessage terms c with
  | some (verdict, c) => (.inr verdict, c)
  | none => (.inl .message, c)

/-- Goes on waiting for the end of the TLS handshake, or asks for a message after it. -/
def awaitTls (terms : Terms) (now done : Nat) (c : Connection) : (Wait ⊕ Verdict) × Connection :=
  if now < done then (.inl (.tls done), c)
  else
    match c.tls.failure with
    | some e => (.inr (.rejected (.tlsFailed e.message)), c)
    | none => awaitMessage terms (askMessage c).2

/-- Goes on as far as the connection allows. The result is a verdict, or what is still
waited for. -/
def progress (terms : Terms) (now : Nat) (wait : Wait) (c : Connection) :
    (Wait ⊕ Verdict) × Connection :=
  match wait with
  | .turn =>
    match begin terms now c with
    | (.tls done, c) => awaitTls terms now done c
    | (_, c) => awaitMessage terms c
  | .tls done => awaitTls terms now done c
  | .message => awaitMessage terms c

/-- One turn of the wait. -/
def poll (terms : Terms) (now : Nat) (cancelled : Bool) (wait : Wait) (c : Connection) :
    (Wait ⊕ Decision) × Connection :=
  if cancelled then (.inr .cancelled, c)
  else
    match progress terms now wait c with
    | (.inr verdict, c) => (.inr (.judged verdict), c)
    | (.inl wait, c) =>
      if terms.deadline ≤ now then (.inr (.judged (.rejected .timeout)), c)
      else (.inl wait, c)

end Handshake

end Diameter
