import Diameter.Octets

/-!
# Elliptic curves

A curve holds the points whose coordinates solve `y² = x³ + a x + b` modulo a prime, and a
point at infinity. Multiples of its base point are the public keys of the numbers below the
order of that point.
-/

namespace Diameter.Credential

/-- A curve. -/
structure Curve where
  /-- The prime. -/
  prime : Nat
  /-- The coefficient of `x`. -/
  a : Nat
  /-- The order of the base point. -/
  order : Nat
  /-- The first coordinate of the base point. -/
  baseX : Nat
  /-- The second coordinate of the base point. -/
  baseY : Nat
  /-- How many octets a coordinate takes. -/
  width : Nat
  /-- The identifier of the curve, encoded. -/
  id : Octets
  deriving DecidableEq, Repr

/-- A point of a curve. -/
inductive CurvePoint where
  | infinity
  | affine (x y : Nat)
  deriving DecidableEq, Repr

/-- The power of a number modulo `m`. -/
def powerMod (m base exponent : Nat) : Nat :=
  if exponent = 0 then 1 % m
  else
    let half := powerMod m base (exponent / 2)
    let square := half * half % m
    if exponent % 2 = 0 then square else square * base % m
termination_by exponent
decreasing_by omega

namespace Curve

/-- The quotient modulo the prime. -/
def divide (c : Curve) (n d : Nat) : Nat :=
  n * powerMod c.prime d (c.prime - 2) % c.prime

/-- The third point on the line through two points, mirrored. The line has this slope. -/
def meet (c : Curve) (slope x y x' : Nat) : CurvePoint :=
  let third := (slope * slope + 2 * c.prime - x - x') % c.prime
  .affine third ((slope * (x + c.prime - third) + c.prime - y) % c.prime)

/-- The sum of two points. -/
def add (c : Curve) : CurvePoint → CurvePoint → CurvePoint
  | .infinity, q => q
  | p, .infinity => p
  | .affine x y, .affine x' y' =>
    if x ≠ x' then
      c.meet (c.divide (y' + c.prime - y) (x' + c.prime - x)) x y x'
    else if y ≠ y' ∨ y = 0 then .infinity
    else c.meet (c.divide (3 * x * x + c.a) (2 * y)) x y x

/-- The multiple of a point. -/
def multiply (c : Curve) (p : CurvePoint) (n : Nat) : CurvePoint :=
  if n = 0 then .infinity
  else
    let half := c.multiply p (n / 2)
    let double := c.add half half
    if n % 2 = 0 then double else c.add double p
termination_by n
decreasing_by omega

/-- The octets of a point that is not at infinity. -/
def pointOctets (c : Curve) : CurvePoint → Octets
  | .infinity => []
  | .affine x y => 4 :: (Octets.ofNat c.width x ++ Octets.ofNat c.width y)

/-- The public key of a private one, if the octets write a private key. -/
def publicOctets? (c : Curve) (secret : Octets) : Option Octets :=
  let n := Octets.toNat secret
  if secret.length = c.width ∧ 0 < n ∧ n < c.order then
    some (c.pointOctets (c.multiply (.affine c.baseX c.baseY) n))
  else none

/-- The curve over 256 bits. -/
def p256 : Curve where
  prime := 0xffffffff00000001000000000000000000000000ffffffffffffffffffffffff
  a := 0xffffffff00000001000000000000000000000000fffffffffffffffffffffffc
  order := 0xffffffff00000000ffffffffffffffffbce6faada7179e84f3b9cac2fc632551
  baseX := 0x6b17d1f2e12c4247f8bce6e563a440f277037d812deb33a0f4a13945d898c296
  baseY := 0x4fe342e2fe1a7f9b8ee7eb4a7c0f9e162bce33576b315ececbb6406837bf51f5
  width := 32
  id := [0x06, 0x08, 0x2A, 0x86, 0x48, 0xCE, 0x3D, 0x03, 0x01, 0x07]

/-- The curve over 384 bits. -/
def p384 : Curve where
  prime := 0xfffffffffffffffffffffffffffffffffffffffffffffffffffffffffffffffeffffffff0000000000000000ffffffff
  a := 0xfffffffffffffffffffffffffffffffffffffffffffffffffffffffffffffffeffffffff0000000000000000fffffffc
  order := 0xffffffffffffffffffffffffffffffffffffffffffffffffc7634d81f4372ddf581a0db248b0a77aecec196accc52973
  baseX := 0xaa87ca22be8b05378eb1c71ef320ad746e1d3b628ba79b9859f741e082542a385502f25dbf55296c3a545e3872760ab7
  baseY := 0x3617de4a96262c6f5d9e98bf9292dc29f8f41dbd289a147ce9da3113b5f0b8c00a60b1ce1d7e819d7a431d7c90ea0e5f
  width := 48
  id := [0x06, 0x05, 0x2B, 0x81, 0x04, 0x00, 0x22]

end Curve

end Diameter.Credential
