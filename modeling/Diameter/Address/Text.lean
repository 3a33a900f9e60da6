import Diameter.Address.Basic
import Diameter.Text.Digits

/-!
# Written addresses

IPv4 addresses are four decimal numbers without leading zeros. IPv6 addresses are
written in their canonical short form: the longest run of at least two zero groups,
the first of several, becomes a double colon, and an address that maps an IPv4
address shows it. The readers accept every standard spelling of an address, and
nothing before or after it.
-/

namespace Diameter.Address

/-- What a written number has to satisfy. -/
structure NumberForm where
  /-- Its base. -/
  radix : Nat
  /-- The most digits it may have, if there is a limit. -/
  most : Option Nat
  /-- Whether a number of several digits may start with zero. -/
  zeros : Bool
  /-- The first number that is too large. -/
  bound : Nat

/-- A part of an IPv4 address. -/
def NumberForm.octet : NumberForm := ⟨10, some 3, false, 256⟩

/-- A group of an IPv6 address. -/
def NumberForm.group : NumberForm := ⟨16, some 4, true, 65536⟩

/-- A port. -/
def NumberForm.port : NumberForm := ⟨10, none, true, 65536⟩

/-- The number of an interface. -/
def NumberForm.scope : NumberForm := ⟨10, none, true, 4294967296⟩

/-- A number of the given form at the head of the text. All digits belong to it. -/
def NumberForm.read (form : NumberForm) (text : List Char) : Option (Nat × List Char) :=
  let (ds, rest) := Text.digits form.radix text
  let value := Text.ofDigits form.radix ds
  if ds.isEmpty then none
  else if form.most.any (· < ds.length) then none
  else if !form.zeros && ds.head? == some 0 && 1 < ds.length then none
  else if value < form.bound then some (value, rest)
  else none

/-- What follows the character `c`, if the text starts with it. -/
def after? (c : Char) : List Char → Option (List Char)
  | [] => none
  | d :: rest => if d = c then some rest else none

/-- Four decimal numbers with dots between them. -/
def readV4 (text : List Char) : Option ((UInt8 × UInt8 × UInt8 × UInt8) × List Char) := do
  let (a, text) ← NumberForm.octet.read text
  let text ← after? '.' text
  let (b, text) ← NumberForm.octet.read text
  let text ← after? '.' text
  let (c, text) ← NumberForm.octet.read text
  let text ← after? '.' text
  let (d, text) ← NumberForm.octet.read text
  return ((.ofNat a, .ofNat b, .ofNat c, .ofNat d), text)

/-- The two groups that four octets fill. -/
def groupsOfV4 : UInt8 × UInt8 × UInt8 × UInt8 → List UInt16
  | (a, b, c, d) => groupsOfOctets [a, b, c, d]

/-- A run of groups as it was read. -/
structure GroupRun where
  /-- The groups. -/
  groups : List UInt16
  /-- Whether the last two were written as an IPv4 address. -/
  endsInV4 : Bool
  /-- What follows. -/
  rest : List Char

/-- Reads at most `room` groups with colons between them. An IPv4 address may stand for
the last two. `first` tells that no group has been read yet. -/
def readGroups (room : Nat) (first : Bool) (text : List Char) : GroupRun :=
  match room with
  | 0 => ⟨[], false, text⟩
  | room + 1 =>
    match if first then some text else after? ':' text with
    | none => ⟨[], false, text⟩
    | some start =>
      match if room = 0 then none else readV4 start with
      | some (quad, rest) => ⟨groupsOfV4 quad, true, rest⟩
      | none =>
        match NumberForm.group.read start with
        | none => ⟨[], false, text⟩
        | some (g, rest) =>
          let run := readGroups room false rest
          ⟨.ofNat g :: run.groups, run.endsInV4, run.rest⟩

/-- The groups of an IPv6 address at the head of the text. A double colon stands for at
least one zero group. -/
def readV6 (text : List Char) : Option (List UInt16 × List Char) :=
  let head := readGroups 8 true text
  if head.groups.length = 8 then some (head.groups, head.rest)
  else if head.endsInV4 then none
  else do
    let text ← after? ':' head.rest
    let text ← after? ':' text
    let tail := readGroups (7 - head.groups.length) true text
    let zeros := List.replicate (8 - head.groups.length - tail.groups.length) 0
    return (head.groups ++ zeros ++ tail.groups, tail.rest)

/-- The address that is written as `s`. -/
def ofText? (s : String) : Option Address :=
  match readV4 s.toList with
  | some ((a, b, c, d), []) => some (v4 a b c d)
  | _ =>
    match readV6 s.toList with
    | some (groups, []) => ofGroups? groups
    | _ => none

/-- How many zero groups the list starts with. -/
def leadingZeros (groups : List UInt16) : Nat := (groups.takeWhile (· == 0)).length

/-- Where the longest run of zero groups starts, and its length. The first of several wins. -/
def longestZeroRun : List UInt16 → Nat × Nat
  | [] => (0, 0)
  | g :: rest =>
    let here := leadingZeros (g :: rest)
    let later := longestZeroRun rest
    if later.2 ≤ here then (0, here) else (later.1 + 1, later.2)

/-- Four numbers with dots between them. -/
def textV4 (a b c d : UInt8) : String := s!"{a.toNat}.{b.toNat}.{c.toNat}.{d.toNat}"

/-- Groups in hexadecimal with colons between them. -/
def joinGroups (groups : List UInt16) : String :=
  ":".intercalate (groups.map fun g => String.ofList (Nat.toDigits 16 g.toNat))

/-- The canonical text of eight groups. -/
def textV6 (groups : List UInt16) : String :=
  match groups with
  | [0, 0, 0, 0, 0, 0xffff, high, low] =>
    let part (n : Nat) : UInt8 := .ofNat n
    "::ffff:" ++ textV4 (part (high.toNat / 256)) (part high.toNat)
      (part (low.toNat / 256)) (part low.toNat)
  | _ =>
    let (start, length) := longestZeroRun groups
    if 1 < length then
      joinGroups (groups.take start) ++ "::" ++ joinGroups (groups.drop (start + length))
    else joinGroups groups

/-- The canonical text of the address. -/
def text : Address → String
  | v4 a b c d => textV4 a b c d
  | v6 groups => textV6 groups.toList

end Diameter.Address

namespace Diameter.SocketAddress

open Address

/-- A port at the very end of the text. -/
def readPort (text : List Char) : Option UInt16 := do
  let text ← after? ':' text
  match ← NumberForm.port.read text with
  | (port, []) => return .ofNat port
  | _ => none

/-- `a.b.c.d:port`. -/
def readV4 (text : List Char) : Option SocketAddress := do
  let ((a, b, c, d), text) ← Address.readV4 text
  return ⟨.v4 a b c d, ← readPort text, 0⟩

/-- `[groups]:port` or `[groups%scope]:port`. -/
def readV6 (text : List Char) : Option SocketAddress := do
  let text ← after? '[' text
  let (groups, text) ← Address.readV6 text
  let ip ← ofGroups? groups
  match after? '%' text with
  | some text =>
    let (scope, text) ← NumberForm.scope.read text
    let text ← after? ']' text
    return ⟨ip, ← readPort text, .ofNat scope⟩
  | none =>
    let text ← after? ']' text
    return ⟨ip, ← readPort text, 0⟩

/-- The socket address that is written as `s`. -/
def ofText? (s : String) : Option SocketAddress :=
  match readV4 s.toList with
  | some address => some address
  | none => readV6 s.toList

/-- The text of a socket address. Addresses of the second family stand in brackets. -/
def text (address : SocketAddress) : String :=
  match address.ip with
  | .v4 .. => s!"{address.ip.text}:{address.port.toNat}"
  | .v6 _ =>
    if address.scope = 0 then s!"[{address.ip.text}]:{address.port.toNat}"
    else s!"[{address.ip.text}%{address.scope.toNat}]:{address.port.toNat}"

end Diameter.SocketAddress
