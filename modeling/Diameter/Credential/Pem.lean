import Diameter.Credential.Base64
import Diameter.Text.Lossy
import Diameter.Text.Quoted

/-!
# Sections of armoured text

A file may hold several sections, each between a line that opens it and a line that closes
it, with octets in base 64 between. Both lines name the section by its label. Text outside
of sections counts for nothing, nor does a section whose label is unknown. A line that opens
a section inside of another one only changes the label.
-/

namespace Diameter.Credential

/-- Why armoured text cannot be read. -/
inductive PemError where
  /-- The file ends inside a section. -/
  | unended (label : Octets)
  /-- A line opens a section and does not end in five dashes. -/
  | badStart (line : Octets)
  /-- A section is not in base 64. -/
  | undecodable (cause : Base64Error)
  deriving DecidableEq, Repr

/-- The wording of an error in armoured text. -/
def PemError.message : PemError → String
  | unended label => s!"section end {Text.quoted (Text.lossy label)} missing"
  | badStart line => s!"illegal section start: {Text.quoted (Text.lossy line)}"
  | undecodable cause => cause.message

/-- What a section holds. -/
inductive SectionKind where
  | certificate
  | publicKey
  /-- A private key of the RSA alone. -/
  | rsaKey
  /-- A private key of any kind. -/
  | privateKey
  /-- A private key on an elliptic curve alone. -/
  | curveKey
  | revocationList
  | request
  | helloConfig
  deriving DecidableEq, Repr

/-- The label of a kind of section. -/
def SectionKind.label : SectionKind → String
  | certificate => "CERTIFICATE"
  | publicKey => "PUBLIC KEY"
  | rsaKey => "RSA PRIVATE KEY"
  | privateKey => "PRIVATE KEY"
  | curveKey => "EC PRIVATE KEY"
  | revocationList => "X509 CRL"
  | request => "CERTIFICATE REQUEST"
  | helloConfig => "ECHCONFIG"

namespace Pem

/-- The kinds of section that are known. -/
def kinds : List SectionKind :=
  [.certificate, .publicKey, .rsaKey, .privateKey, .curveKey, .revocationList, .request,
    .helloConfig]

/-- The kind of section that a label names. -/
def kind? (label : Octets) : Option SectionKind :=
  kinds.find? fun kind => Octets.ofText kind.label == label

/-- A section. -/
structure Section where
  /-- What it holds. -/
  kind : SectionKind
  /-- The octets. -/
  content : Octets
  deriving DecidableEq, Repr

/-- Whether an octet ends a line. -/
def endsLine (b : UInt8) : Bool := b == 10 || b == 13

/-- The lines of a file with the octets that end them. `line` is what is there of the first
one, last octet first. -/
def linesFrom (line : Octets) : Octets → List Octets
  | [] => if line.isEmpty then [] else [line.reverse]
  | b :: rest =>
    if endsLine b then (b :: line).reverse :: linesFrom [] rest else linesFrom (b :: line) rest

/-- The lines of a file with the octets that end them. -/
def lines (bs : Octets) : List Octets := linesFrom [] bs

/-- How a line opens a section. -/
def opening : Octets := Octets.ofText "-----BEGIN "

/-- How a line closes the section of a label. -/
def closing (label : Octets) : Octets :=
  Octets.ofText "-----END " ++ label ++ Octets.ofText "-----"

/-- Whether an octet is a dash. -/
def isDash (b : UInt8) : Bool := b == 45

/-- The label that a line gives to the section it opens. The five dashes at its end may be
spread by blanks. -/
def label? (line : Octets) : Option Octets :=
  let tail := line.reverse.takeWhile fun b => isDash b || endsLine b || b == 32
  let blanks := tail.reverse.takeWhile (!isDash ·)
  if tail.countP isDash = 5 then
    some ((line.take (line.length - (tail.length - blanks.length))).drop opening.length)
  else none

/-- Where a reader is: in the section of `label`, if there is one, with `text` read. -/
structure State where
  /-- The label of the section. -/
  label : Option Octets
  /-- The text between the lines. -/
  text : Octets

/-- Outside of every section. -/
def State.outside : State := ⟨none, []⟩

/-- Reads a line, which may complete a section. -/
def readLine (state : State) (line : Octets) : Except PemError (State × Option Section) :=
  if opening.isPrefixOf line then
    match label? line with
    | some label => .ok ({ state with label := some label }, none)
    | none => .error (.badStart line)
  else
    match state.label with
    | none => .ok (state, none)
    | some label =>
      if (closing label).isPrefixOf line then
        match kind? label, Base64.decode state.text with
        | none, _ => .ok (.outside, none)
        | some _, .error e => .error (.undecodable e)
        | some kind, .ok content => .ok (.outside, some ⟨kind, content⟩)
      else .ok ({ state with text := state.text ++ line }, none)

/-- The sections in lines, up to the first error. -/
def sectionsFrom (state : State) : List Octets → List (Except PemError Section)
  | [] =>
    match state.label with
    | some label => [.error (.unended label)]
    | none => []
  | line :: rest =>
    match readLine state line with
    | .error e => [.error e]
    | .ok (state, none) => sectionsFrom state rest
    | .ok (state, some s) => .ok s :: sectionsFrom state rest

/-- The sections in a file, up to the first error. -/
def sections (bs : Octets) : List (Except PemError Section) := sectionsFrom .outside (lines bs)

/-- All certificates in a file. -/
def certificates (bs : Octets) : Except PemError (List Octets) := do
  let all ← (sections bs).mapM id
  return (all.filter (·.kind == .certificate)).map Section.content

/-- Whether a section holds a private key. -/
def Section.isKey (s : Section) : Bool :=
  s.kind == .rsaKey || s.kind == .privateKey || s.kind == .curveKey

/-- The first private key among sections. What follows it is not looked at. -/
def firstKey : List (Except PemError Section) → Except PemError (Option Section)
  | [] => .ok none
  | .error e :: _ => .error e
  | .ok s :: rest => if s.isKey then .ok (some s) else firstKey rest

/-- The first private key in a file. -/
def key (bs : Octets) : Except PemError (Option Section) := firstKey (sections bs)

end Pem

end Diameter.Credential
