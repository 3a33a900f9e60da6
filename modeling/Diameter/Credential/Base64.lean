import Diameter.Octets

/-!
# Octets in base 64

Four characters of an alphabet of sixty-four stand for three octets. White space counts for
nothing. Padding fills up the last four characters and stands at the end only.
-/

namespace Diameter.Credential

/-- Why a text does not write octets in base 64. -/
inductive Base64Error where
  /-- A character is not of the alphabet. -/
  | invalidCharacter (octet : UInt8)
  /-- Something follows the padding. -/
  | prematurePadding
  /-- The padding does not fill up the last four characters. -/
  | invalidTrailingPadding
  deriving DecidableEq, Repr

/-- The wording of an error in base 64. -/
def Base64Error.message : Base64Error → String
  | invalidCharacter octet => s!"InvalidCharacter({octet.toNat})"
  | prematurePadding => "PrematurePadding"
  | invalidTrailingPadding => "InvalidTrailingPadding"

namespace Base64

/-- What a character of the text stands for. -/
inductive Symbol where
  | blank
  | padding
  | value (n : Nat)
  deriving DecidableEq, Repr

/-- The symbol of a character, if it has one. -/
def symbol? (b : UInt8) : Option Symbol :=
  let n := b.toNat
  if 'A'.toNat ≤ n ∧ n ≤ 'Z'.toNat then some (.value (n - 'A'.toNat))
  else if 'a'.toNat ≤ n ∧ n ≤ 'z'.toNat then some (.value (n - 'a'.toNat + 26))
  else if '0'.toNat ≤ n ∧ n ≤ '9'.toNat then some (.value (n - '0'.toNat + 52))
  else if n = '+'.toNat then some (.value 62)
  else if n = '/'.toNat then some (.value 63)
  else if n = '='.toNat then some .padding
  else if n = ' '.toNat ∨ 9 ≤ n ∧ n ≤ 13 then some .blank
  else none

/-- The symbols of a text, without the blanks. Padding is written as none. -/
def symbols : Octets → Except Base64Error (List (Option Nat))
  | [] => .ok []
  | b :: rest =>
    match symbol? b with
    | none => .error (.invalidCharacter b)
    | some .blank => symbols rest
    | some .padding => (symbols rest).map (none :: ·)
    | some (.value n) => (symbols rest).map (some n :: ·)

/-- The octets that values write, four values for three octets. The last ones may be fewer. -/
def pack : List Nat → Octets
  | a :: b :: c :: d :: rest => Octets.ofNat 3 (((a * 64 + b) * 64 + c) * 64 + d) ++ pack rest
  | [a, b, c] => Octets.ofNat 2 (((a * 64 + b) * 64 + c) / 4)
  | [a, b] => Octets.ofNat 1 ((a * 64 + b) / 16)
  | _ => []

/-- The octets that a text writes. -/
def decode (text : Octets) : Except Base64Error Octets := do
  let all ← symbols text
  let values := (all.takeWhile Option.isSome).filterMap id
  let padding := all.drop values.length
  if padding.any Option.isSome then .error .prematurePadding
  else if 2 < padding.length ∨ all.length % 4 ≠ 0 then .error .invalidTrailingPadding
  else return pack values

end Base64

end Diameter.Credential
