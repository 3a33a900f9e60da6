import Diameter.Octets

/-!
# Text of damaged octets

Octets that should be UTF-8 can be shown even if they are not: each longest run of octets
that starts a character and does not finish it becomes one replacement character.
-/

namespace Diameter.Text

/-- What the octet at the head of a character asks of the octets after it: how many there
are, and the bounds of the first. None is asked of what cannot be a head. -/
def continuation? (head : UInt8) : Option (Nat × UInt8 × UInt8) :=
  if head < 0x80 then some (0, 0, 0)
  else if 0xC2 ≤ head ∧ head ≤ 0xDF then some (1, 0x80, 0xBF)
  else if head = 0xE0 then some (2, 0xA0, 0xBF)
  else if head = 0xED then some (2, 0x80, 0x9F)
  else if 0xE1 ≤ head ∧ head ≤ 0xEF then some (2, 0x80, 0xBF)
  else if head = 0xF0 then some (3, 0x90, 0xBF)
  else if 0xF1 ≤ head ∧ head ≤ 0xF3 then some (3, 0x80, 0xBF)
  else if head = 0xF4 then some (3, 0x80, 0x8F)
  else none

/-- How many of the next `wanted` octets continue a character. The first has to be within
its bounds, the others within those of every continuation. -/
def continued : (wanted : Nat) → (low high : UInt8) → Octets → Nat
  | 0, _, _, _ => 0
  | _ + 1, _, _, [] => 0
  | wanted + 1, low, high, b :: rest =>
    if low ≤ b ∧ b ≤ high then continued wanted 0x80 0xBF rest + 1 else 0

/-- The first character of damaged text, and how many octets after the head it takes. -/
def headChar (head : UInt8) (rest : Octets) : Char × Nat :=
  let replacement := Char.ofNat 0xFFFD
  match continuation? head with
  | none => (replacement, 0)
  | some (wanted, low, high) =>
    let found := continued wanted low high rest
    if found < wanted then (replacement, found)
    else
      match Octets.text? (head :: rest.take wanted) with
      | some s => (s.toList.headD replacement, wanted)
      | none => (replacement, found)

/-- The characters of damaged text. -/
def lossyChars : Octets → List Char
  | [] => []
  | head :: rest =>
    let first := headChar head rest
    first.1 :: lossyChars (rest.drop first.2)
termination_by bs => bs.length
decreasing_by
  simp only [List.length_drop, List.length_cons]
  omega

/-- The text of damaged octets. -/
def lossy (bs : Octets) : String := String.ofList (lossyChars bs)

end Diameter.Text
