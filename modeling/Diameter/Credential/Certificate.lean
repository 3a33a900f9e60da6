import Diameter.Credential.Der

/-!
# Certificates

Of a certificate only the key matters here, but all of it has to be well formed. Versions
before the third have no extensions; an authority may still have a certificate of the first.
-/

namespace Diameter.Credential

/-- Why a certificate is refused. -/
inductive CertificateError where
  /-- The octets are no certificate. -/
  | badEncoding
  /-- The version is not the third. -/
  | unsupportedVersion
  /-- The algorithm of the signature is given twice, and differently. -/
  | algorithmMismatch
  /-- An extension that must not be passed over is unknown. -/
  | unsupportedExtension
  /-- An extension is given twice. -/
  | repeatedExtension
  deriving DecidableEq, Repr

/-- The wording of why a certificate is refused. -/
def CertificateError.message (e : CertificateError) : String :=
  let other (name : String) := s!"Other(OtherError({name}))"
  let cause := match e with
    | badEncoding => "BadEncoding"
    | unsupportedVersion => other "UnsupportedCertVersion"
    | algorithmMismatch => other "SignatureAlgorithmMismatch"
    | unsupportedExtension => other "UnsupportedCriticalExtension"
    | repeatedExtension => other "ExtensionValueInvalid"
  s!"invalid peer certificate: {cause}"

namespace Certificate

/-- What a reader reads, or that the octets are no certificate. -/
def orBad {α : Type} (read : Option α) : Except CertificateError α :=
  match read with
  | some a => .ok a
  | none => .error .badEncoding

/-- The extensions that are known, by the last part of their identifier. -/
def knownExtensions : List UInt8 := [15, 17, 19, 30, 31, 37]

/-- The extension that holds how a key may be used. Its value is not looked into. -/
def keyUsage : UInt8 := 15

/-- The known extension of an identifier. -/
def extension? (id : Octets) : Option UInt8 :=
  match id with
  | [0x55, 0x1D, last] => if knownExtensions.contains last then some last else none
  | _ => none

/-- Reads an extension after those in `seen`, and notes it if it is known. -/
def readExtension (seen : List UInt8) (bs : Octets) : Except CertificateError (List UInt8) := do
  let (id, rest) ← orBad (Der.take? .objectId bs)
  let (critical, rest) ← orBad (Der.flag? rest)
  let value ← orBad (Der.only? .octetString rest)
  match extension? id with
  | none => if critical then .error .unsupportedExtension else return seen
  | some last =>
    if seen.contains last then .error .repeatedExtension
    else if last != keyUsage && (Der.only? .sequence value).isNone then .error .badEncoding
    else return last :: seen

/-- Reads extensions one after another. -/
def readExtensions (seen : List UInt8) (bs : Octets) : Except CertificateError Unit :=
  match bs with
  | [] => .ok ()
  | b :: rest =>
    match taken : Der.take? .sequence (b :: rest) with
    | none => .error .badEncoding
    | some (content, after) =>
      match readExtension seen content with
      | .error e => .error e
      | .ok seen =>
        have := Der.length_rest_of_take? taken
        readExtensions seen after
termination_by bs.length
decreasing_by exact this

/-- The parts of a certificate: what is signed, and the algorithm and value of the
signature. -/
def parts? (bs : Octets) : Option (Octets × Octets) := do
  let body ← Der.only? .sequence bs
  let (signed, rest) ← Der.take? .sequence body
  let (algorithm, rest) ← Der.take? .sequence rest
  let (_, rest) ← Der.bits? rest
  if rest.isEmpty then return (signed, algorithm) else none

/-- Reads the version, which has to be the third. -/
def readVersion (bs : Octets) : Except CertificateError Octets :=
  match Der.take? (.place 0) bs with
  | none => .error .unsupportedVersion
  | some (content, rest) =>
    match Der.small? content with
    | none => .error .badEncoding
    | some (2, []) => .ok rest
    | some _ => .error .unsupportedVersion

/-- The key in a certificate of the third version. -/
def publicKey (bs : Octets) : Except CertificateError Octets := do
  let (signed, algorithm) ← orBad (parts? bs)
  let rest ← readVersion signed
  let (_, rest) ← orBad (Der.take? .integer rest)
  let (signature, rest) ← orBad (Der.take? .sequence rest)
  if signature ≠ algorithm then .error .algorithmMismatch
  else
    let (_, rest) ← orBad (Der.take? .sequence rest)
    let (_, rest) ← orBad (Der.take? .sequence rest)
    let (_, rest) ← orBad (Der.take? .sequence rest)
    let (key, rest) ← orBad (Der.take? .sequence rest)
    if rest.isEmpty then return key
    else
      let list ← orBad (Der.only? (.place 3) rest)
      let extensions ← orBad (Der.only? .sequence list)
      readExtensions [] extensions
      return key

/-- Whether the octets are a certificate of the first version. -/
def isFirstVersion (bs : Octets) : Bool :=
  let read : Option Unit := do
    let body ← Der.only? .sequence bs
    let (signed, rest) ← Der.take? .sequence body
    let (_, fields) ← Der.take? .integer signed
    let (_, fields) ← Der.take? .sequence fields
    let (_, fields) ← Der.take? .sequence fields
    let (_, fields) ← Der.take? .sequence fields
    let (_, fields) ← Der.take? .sequence fields
    let (_, fields) ← Der.take? .sequence fields
    let (_, rest) ← Der.take? .sequence rest
    let (_, rest) ← Der.take? .bitString rest
    if fields.isEmpty && rest.isEmpty then return () else none
  read.isSome

/-- Whether a certificate can serve as that of an authority. -/
def checkAuthority (bs : Octets) : Except CertificateError Unit :=
  match publicKey bs with
  | .ok _ => .ok ()
  | .error .unsupportedVersion => if isFirstVersion bs then .ok () else .error .badEncoding
  | .error e => .error e

end Certificate

end Diameter.Credential
