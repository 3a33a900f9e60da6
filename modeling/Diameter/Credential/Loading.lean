import Diameter.Credential.Certificate
import Diameter.Credential.Pem
import Diameter.Credential.PrivateKey
import Diameter.Files
import Diameter.Settings.Basic

/-!
# Loading credentials

Credentials are a chain of certificates, the private key of the first of them and, if peers
have to be certified, the authorities that may do so. The files are read in this order; only
then it is seen whether they fit together.
-/

namespace Diameter

open Credential

/-- Why credentials cannot be loaded. -/
inductive CredentialError where
  /-- A file cannot be read, or its text cannot. -/
  | unreadable (path text : String)
  /-- A file holds no certificate. -/
  | noCertificates (path : String)
  /-- A file holds no private key. -/
  | noPrivateKey (path : String)
  /-- A certificate of ours or of an authority is refused. -/
  | certificate (cause : CertificateError)
  /-- The private key is none of a known kind. -/
  | unknownKey
  /-- The private key does not belong to the first certificate. -/
  | keyMismatch
  deriving DecidableEq, Repr

/-- The wording of why credentials cannot be loaded. -/
def CredentialError.message : CredentialError → String
  | unreadable path text => s!"cannot read {path}: {text}"
  | noCertificates path => s!"no certificates found in {path}"
  | noPrivateKey path => s!"no private key found in {path}"
  | certificate cause => cause.message
  | unknownKey => "unexpected error: failed to parse private key as RSA, ECDSA, or EdDSA"
  | keyMismatch => "keys may not be consistent: KeyMismatch"

/-- Credentials for the listening side of TLS. -/
structure Credentials where
  /-- The certificates, our own first. -/
  chain : List Octets
  /-- The authorities that peers have to be certified by, if they have to. -/
  authorities : Option (List Octets)
  deriving DecidableEq, Repr

namespace Credentials

/-- The content of a file. -/
def open? (read : FileReader) (path : String) : Except CredentialError Octets :=
  (read path).mapError fun e => .unreadable path e.text

/-- What a file holds, or that its text cannot be read. -/
def orUnreadable {α : Type} (path : String) (found : Except PemError α) :
    Except CredentialError α :=
  found.mapError fun e => .unreadable path e.message

/-- The certificates in a file, of which there has to be one. -/
def readCertificates (read : FileReader) (path : String) : Except CredentialError (List Octets) := do
  let content ← open? read path
  let found ← orUnreadable path (Pem.certificates content)
  if found.isEmpty then .error (.noCertificates path) else return found

/-- The form of a key in a section of this kind. -/
def keyForm : SectionKind → KeyForm
  | .rsaKey => .rsa
  | .curveKey => .curve
  | _ => .wrapped

/-- The first private key in a file. -/
def readKey (read : FileReader) (path : String) : Except CredentialError Pem.Section := do
  let content ← open? read path
  match ← orUnreadable path (Pem.key content) with
  | none => .error (.noPrivateKey path)
  | some found => return found

/-- The authorities in a file. -/
def readAuthorities (read : FileReader) (path : String) : Except CredentialError (List Octets) := do
  let found ← readCertificates read path
  (found.forM Certificate.checkAuthority).mapError .certificate
  return found

/-- Checks that a private key belongs to a certificate. -/
def checkKey (certificate : Octets) (found : Pem.Section) : Except CredentialError Unit :=
  match PrivateKey.publicKey? (keyForm found.kind) found.content with
  | none => .error .unknownKey
  | some mine =>
    match Certificate.publicKey certificate with
    | .error e => .error (.certificate e)
    | .ok theirs => if mine = theirs then .ok () else .error .keyMismatch

/-- The credentials that the files hold. -/
def load (read : FileReader) (settings : TlsSettings) : Except CredentialError Credentials := do
  let chain ← readCertificates read settings.certPath
  let found ← readKey read settings.keyPath
  let trusted ← settings.caPath.mapM (readAuthorities read)
  checkKey (chain.headD []) found
  return ⟨chain, trusted⟩

end Credentials

end Diameter
