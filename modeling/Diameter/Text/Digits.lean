/-!
# Digits

Numbers in text are read digit by digit, in a base that is at most sixteen.
-/

namespace Diameter.Text

/-- The value of a character as a digit in `radix`, which is at most sixteen. -/
def digit? (radix : Nat) (c : Char) : Option Nat :=
  let value :=
    if '0' ≤ c ∧ c ≤ '9' then c.toNat - '0'.toNat
    else if 'a' ≤ c ∧ c ≤ 'f' then c.toNat - 'a'.toNat + 10
    else if 'A' ≤ c ∧ c ≤ 'F' then c.toNat - 'A'.toNat + 10
    else radix
  if value < radix then some value else none

/-- The digits at the head of the text, and what follows them. -/
def digits (radix : Nat) : List Char → List Nat × List Char
  | [] => ([], [])
  | c :: rest =>
    match digit? radix c with
    | some d => ((d :: (digits radix rest).1), (digits radix rest).2)
    | none => ([], c :: rest)

/-- The number that digits write in `radix`, first digit first. -/
def ofDigits (radix : Nat) (ds : List Nat) : Nat := ds.foldl (fun n d => n * radix + d) 0

end Diameter.Text
