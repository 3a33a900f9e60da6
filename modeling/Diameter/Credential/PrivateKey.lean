import Diameter.Credential.Curve
import Diameter.Credential.Der

/-!
# Private keys

A private key comes in one of three forms: bare for the RSA, bare for an elliptic curve, or
wrapped with the name of its algorithm. Each key is checked against the public key that
belongs to it. The result is the public key as a certificate would hold it.
-/

namespace Diameter.Credential

/-- The form of a private key. -/
inductive KeyForm where
  | rsa
  | curve
  | wrapped
  deriving DecidableEq, Repr

namespace PrivateKey

/-- The public key as a certificate would hold it. -/
def publicInfo (algorithm bits : Octets) : Octets :=
  Der.encode .sequence algorithm ++ Der.encode .bitString (0 :: bits)

/-- The name of the algorithm for keys on a curve. -/
def curveAlgorithm (c : Curve) : Octets :=
  [0x06, 0x07, 0x2A, 0x86, 0x48, 0xCE, 0x3D, 0x02, 0x01] ++ c.id

/-- The name of the RSA. -/
def rsaAlgorithm : Octets :=
  [0x06, 0x09, 0x2A, 0x86, 0x48, 0x86, 0xF7, 0x0D, 0x01, 0x01, 0x01, 0x05, 0x00]

/-- The bare key in a wrapping that names this algorithm. Attributes are passed over. -/
def unwrap? (algorithm bs : Octets) : Option Octets := do
  let body ← Der.only? .sequence bs
  let (version, rest) ← Der.small? body
  let (name, rest) ← Der.take? .sequence rest
  let (key, rest) ← Der.take? .octetString rest
  let rest ← if Der.startsWith (.place 0) rest then
      (Der.take? (.place 0) rest).map Prod.snd
    else some rest
  if version = 0 ∧ name = algorithm ∧ rest.isEmpty then return key else none

/-- The public key of a bare key on a curve, which has to be given with it. -/
def ofCurve? (c : Curve) (bs : Octets) : Option Octets := do
  let body ← Der.only? .sequence bs
  let (version, rest) ← Der.small? body
  let (secret, rest) ← Der.take? .octetString rest
  let (id, rest) ← if Der.startsWith (.place 0) rest then Der.take? (.place 0) rest
    else some (c.id, rest)
  let bits ← Der.only? (.place 1) rest
  let (point, trailing) ← Der.bits? bits
  let expected ← c.publicOctets? secret
  if version = 1 ∧ id = c.id ∧ trailing.isEmpty ∧ point = expected then
    return publicInfo (curveAlgorithm c) point
  else none

/-- How many bits a number takes. -/
def bitLength (n : Nat) : Nat := if n = 0 then 0 else Nat.log2 n + 1

/-- The parts of a private key of the RSA. -/
structure RsaParts where
  /-- The modulus. -/
  modulus : Nat
  /-- The public exponent. -/
  exponent : Nat
  /-- The private exponent. -/
  secret : Nat
  /-- The first factor of the modulus. -/
  first : Nat
  /-- The second factor of the modulus. -/
  second : Nat
  /-- The private exponent for the first factor. -/
  firstSecret : Nat
  /-- The private exponent for the second factor. -/
  secondSecret : Nat
  /-- The inverse of the second factor modulo the first. -/
  inverse : Nat

namespace RsaParts

/-- The lengths of a modulus, in bits, that are taken. -/
def takesLength (bits : Nat) : Bool := 2048 ≤ bits && bits ≤ 4096 && bits % 512 == 0

/-- Whether the parts belong together. -/
def consistent (k : RsaParts) : Bool :=
  let half := bitLength k.modulus / 2
  takesLength (bitLength k.modulus) && k.exponent % 2 == 1 && 65537 ≤ k.exponent &&
    k.exponent < 0x200000000 && bitLength k.first == half && bitLength k.second == half &&
    k.first % 2 == 1 && k.second % 2 == 1 && k.first * k.second == k.modulus &&
    half < bitLength k.secret && k.secret < k.modulus && k.secret % 2 == 1 &&
    k.firstSecret < k.first && k.firstSecret % 2 == 1 &&
    k.secondSecret < k.second && k.secondSecret % 2 == 1 &&
    k.inverse < k.first && k.second * k.inverse % k.first == 1

/-- The parts that a bare key of the RSA writes. -/
def ofOctets? (bs : Octets) : Option RsaParts := do
  let body ← Der.only? .sequence bs
  let (version, rest) ← Der.small? body
  let (modulus, rest) ← Der.positive? rest
  let (exponent, rest) ← Der.positive? rest
  let (secret, rest) ← Der.positive? rest
  let (first, rest) ← Der.positive? rest
  let (second, rest) ← Der.positive? rest
  let (firstSecret, rest) ← Der.positive? rest
  let (secondSecret, rest) ← Der.positive? rest
  let (inverse, rest) ← Der.positive? rest
  if version = 0 ∧ rest.isEmpty then
    return { modulus, exponent, secret, first, second, firstSecret, secondSecret, inverse }
  else none

end RsaParts

/-- The octets of a number without leading zeros. -/
def magnitude (n : Nat) : Octets := Octets.ofNat ((bitLength n + 7) / 8) n

/-- The public key of a bare key of the RSA. -/
def ofRsa? (bs : Octets) : Option Octets := do
  let k ← RsaParts.ofOctets? bs
  if k.consistent then
    let numbers :=
      Der.encodePositive (magnitude k.modulus) ++ Der.encodePositive (magnitude k.exponent)
    return publicInfo rsaAlgorithm (Der.encode .sequence numbers)
  else none

/-- The curves that are known. -/
def curves : List Curve := [.p256, .p384]

/-- The public key that belongs to a private one, if it is one. -/
def publicKey? (form : KeyForm) (bs : Octets) : Option Octets :=
  match form with
  | .rsa => ofRsa? bs
  | .curve => curves.findSome? (ofCurve? · bs)
  | .wrapped =>
    ((unwrap? rsaAlgorithm bs).bind ofRsa?).or
      (curves.findSome? fun c => (unwrap? (curveAlgorithm c) bs).bind (ofCurve? c))

end PrivateKey

end Diameter.Credential
