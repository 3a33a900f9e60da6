import Diameter.Document
import Diameter.Octets
import Diameter.Toml.Text

/-!
# Numbers, dates and truth values of TOML

Whole numbers have 64 bits with sign. A fraction is checked for its form only, and for
not being too large for a double; a date has to exist in the calendar.
-/

namespace Diameter.Toml

/-- Further digits, between which underscores may stand. -/
def moreDigits (radix : Nat) : Reader (List Nat)
  | '_' :: c :: rest =>
    match Text.digit? radix c, moreDigits radix rest with
    | some d, some (ds, rest) => some (d :: ds, rest)
    | _, _ => none
  | ['_'] => none
  | c :: rest =>
    match Text.digit? radix c with
    | none => some ([], c :: rest)
    | some d => (moreDigits radix rest).map fun r => (d :: r.1, r.2)
  | [] => some ([], [])

/-- Digits, between which underscores may stand. -/
def someDigits (radix : Nat) : Reader (List Nat)
  | c :: rest => do
    let d ← Text.digit? radix c
    let (ds, rest) ← moreDigits radix rest
    return (d :: ds, rest)
  | [] => none

/-- Whether a number is negative. -/
def sign : List Char → Bool × List Char
  | '-' :: rest => (true, rest)
  | '+' :: rest => (false, rest)
  | text => (false, text)

/-- The digits of a decimal number, which does not start with zero unless it is zero. -/
def decimalDigits : Reader (List Nat)
  | '0' :: rest => some ([0], rest)
  | text => someDigits 10 text

/-- A whole number, if 64 bits hold it. -/
def bounded? (negative : Bool) (n : Nat) : Option Document :=
  if negative then if n ≤ Octets.span 8 / 2 then some (.integer (-n)) else none
  else if n < Octets.span 8 / 2 then some (.integer n) else none

/-- A whole number in one of the four bases. -/
def integer : Reader Document := fun text =>
  let based (radix : Nat) (rest : List Char) : Option (Document × List Char) := do
    let (ds, rest) ← someDigits radix rest
    return (← bounded? false (Text.ofDigits radix ds), rest)
  match text with
  | '0' :: 'x' :: rest => based 16 rest
  | '0' :: 'o' :: rest => based 8 rest
  | '0' :: 'b' :: rest => based 2 rest
  | _ => do
    let (negative, rest) := sign text
    let (ds, rest) ← decimalDigits rest
    return (← bounded? negative (Text.ofDigits 10 ds), rest)

/-- An exponent, if there is one. -/
def exponent? : Reader (Option Int)
  | c :: rest =>
    if c = 'e' ∨ c = 'E' then do
      let (negative, rest) := sign rest
      let (ds, rest) ← someDigits 10 rest
      let n : Int := Text.ofDigits 10 ds
      return (some (if negative then -n else n), rest)
    else some (none, c :: rest)
  | [] => some (none, [])

/-- Whether `mantissa` times ten to the `power` is rounded to infinity as a double. Numbers
whose digit count already decides are not computed. -/
def overflows (mantissa : Nat) (power : Int) : Bool :=
  let limit := Nat.pow 2 1024 - Nat.pow 2 970
  let places : Int := (Nat.toDigits 10 mantissa).length + power
  if mantissa = 0 ∨ places < 300 then false
  else if 320 < places then true
  else if 0 ≤ power then limit ≤ mantissa * Nat.pow 10 power.toNat
  else limit * Nat.pow 10 (-power).toNat ≤ mantissa

/-- A number with a fraction or an exponent. -/
def decimalFraction : Reader Document := fun text => do
  let (negative, rest) := sign text
  let (whole, rest) ← decimalDigits rest
  let (places, rest) ← match rest with
    | '.' :: rest => someDigits 10 rest
    | rest => some ([], rest)
  let (power, rest) ← exponent? rest
  if places.isEmpty && power.isNone then none
  else if !negative &&
      overflows (Text.ofDigits 10 (whole ++ places)) (power.getD 0 - places.length) then none
  else return (.fraction, rest)

/-- A number that is no number, or infinite. -/
def specialFraction : Reader Document := fun text =>
  match (sign text).2 with
  | 'i' :: 'n' :: 'f' :: rest => some (.fraction, rest)
  | 'n' :: 'a' :: 'n' :: rest => some (.fraction, rest)
  | _ => none

/-- A number of exactly `width` digits between two bounds. -/
def field (width least most : Nat) : Reader Nat := fun text => do
  let ds ← (text.take width).mapM (Text.digit? 10)
  let n := Text.ofDigits 10 ds
  if ds.length = width ∧ least ≤ n ∧ n ≤ most then some (n, text.drop width) else none

/-- What follows the character `c`. -/
def expect (c : Char) : List Char → Option (List Char)
  | d :: rest => if c = d then some rest else none
  | [] => none

/-- How many days a month has. -/
def daysIn (year month : Nat) : Nat :=
  if month = 2 then
    if year % 4 = 0 ∧ (year % 100 ≠ 0 ∨ year % 400 = 0) then 29 else 28
  else if month ∈ [4, 6, 9, 11] then 30
  else 31

/-- A date: what follows it. -/
def date? (text : List Char) : Option (List Char) := do
  let (year, rest) ← field 4 0 9999 text
  let (month, rest) ← field 2 1 12 (← expect '-' rest)
  let (_, rest) ← field 2 1 (daysIn year month) (← expect '-' rest)
  return rest

/-- A time of day, with any number of decimal places: what follows it. -/
def time? (text : List Char) : Option (List Char) := do
  let (_, rest) ← field 2 0 23 text
  let (_, rest) ← field 2 0 59 (← expect ':' rest)
  let (_, rest) ← field 2 0 60 (← expect ':' rest)
  match rest with
  | '.' :: rest =>
    match Text.digits 10 rest with
    | ([], _) => none
    | (_, rest) => return rest
  | rest => return rest

/-- The distance from universal time, if it is given: what follows it. -/
def offset? (text : List Char) : Option (List Char) :=
  let distance (rest : List Char) : Option (List Char) := do
    let (_, rest) ← field 2 0 23 rest
    let (_, rest) ← field 2 0 59 (← expect ':' rest)
    return rest
  match text with
  | 'Z' :: rest | 'z' :: rest => some rest
  | '+' :: rest | '-' :: rest => distance rest
  | rest => some rest

/-- A time that follows a date, if there is one: what follows it. -/
def timeAfterDate? : List Char → Option (List Char)
  | c :: rest =>
    if c = 'T' ∨ c = 't' then time? rest >>= offset?
    else if c = ' ' then
      match rest with
      | d :: _ => if d.isDigit then time? rest >>= offset? else some (c :: rest)
      | [] => some [c]
    else some (c :: rest)
  | [] => some []

/-- A date, a time, or both. -/
def moment : Reader Document := fun text =>
  match date? text with
  | some rest => (timeAfterDate? rest).map fun rest => (.moment, rest)
  | none => (time? text).map fun rest => (.moment, rest)

/-- Any value that has no parts. A form that fails is tried no further, but then no other
form would read the whole value either. -/
def scalar : Reader Document := fun text =>
  match text with
  | 't' :: 'r' :: 'u' :: 'e' :: rest => some (.flag true, rest)
  | 'f' :: 'a' :: 'l' :: 's' :: 'e' :: rest => some (.flag false, rest)
  | '"' :: _ | '\'' :: _ => (string text).map fun r => (.text r.1, r.2)
  | _ =>
    (moment text).orElse fun _ => (decimalFraction text).orElse fun _ =>
      (specialFraction text).orElse fun _ => integer text

end Diameter.Toml
