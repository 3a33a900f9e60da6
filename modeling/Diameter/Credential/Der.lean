import Diameter.Octets

/-!
# Values in distinguished encoding

A value is a tag, the length of its content and the content. Lengths are written in as few
octets as possible and take at most three of them. Every reader here takes a value from the
head of a run of octets and gives back its content and what follows it.
-/

namespace Diameter.Credential.Der

/-- The tags that are read. -/
inductive Tag where
  | boolean
  | integer
  | bitString
  | octetString
  | objectId
  | sequence
  /-- A value that is tagged by its place instead of its type. -/
  | place (n : Nat)
  deriving DecidableEq, Repr

/-- The octet of a tag. -/
def Tag.octet : Tag → UInt8
  | boolean => 0x01
  | integer => 0x02
  | bitString => 0x03
  | octetString => 0x04
  | objectId => 0x06
  | sequence => 0x30
  | place n => UInt8.ofNat (0xA0 + n)

/-- The length at the head, if it is written in as few octets as possible. -/
def length? : Octets → Option (Nat × Octets)
  | [] => none
  | n :: rest =>
    if n < 0x80 then some (n.toNat, rest)
    else if n = 0x81 then
      match rest with
      | a :: rest => if 0x80 ≤ a then some (a.toNat, rest) else none
      | [] => none
    else if n = 0x82 then
      match rest with
      | a :: b :: rest => if a = 0 then none else some (256 * a.toNat + b.toNat, rest)
      | _ => none
    else none

/-- Whether the value at the head has this tag. -/
def startsWith (tag : Tag) (bs : Octets) : Bool := bs.head? == some tag.octet

/-- The content of the value at the head, which has to have this tag. -/
def take? (tag : Tag) : Octets → Option (Octets × Octets)
  | [] => none
  | t :: rest =>
    if t ≠ tag.octet then none
    else
      match length? rest with
      | none => none
      | some (n, rest) => if rest.holds n then some (rest.take n, rest.drop n) else none

/-- The content of a value that nothing follows. -/
def only? (tag : Tag) (bs : Octets) : Option Octets :=
  match take? tag bs with
  | some (content, []) => some content
  | _ => none

/-- The bits at the head, which have to fill up their octets. -/
def bits? (bs : Octets) : Option (Octets × Octets) := do
  match ← take? .bitString bs with
  | (0 :: content, rest) => return (content, rest)
  | _ => none

/-- The magnitude of the integer at the head, which must not be negative, without a sign
octet. -/
def magnitude? (bs : Octets) : Option (Octets × Octets) := do
  match ← take? .integer bs with
  | ([], _) => none
  | ([0], rest) => return ([0], rest)
  | (0 :: b :: content, rest) => if b < 0x80 then none else return (b :: content, rest)
  | (b :: content, rest) => if b < 0x80 then return (b :: content, rest) else none

/-- The number at the head, which has to be positive. -/
def positive? (bs : Octets) : Option (Nat × Octets) := do
  let (content, rest) ← magnitude? bs
  let n := Octets.toNat content
  if n = 0 then none else return (n, rest)

/-- The number at the head, which has to fit in an octet. -/
def small? (bs : Octets) : Option (Nat × Octets) := do
  match ← magnitude? bs with
  | ([n], rest) => return (n.toNat, rest)
  | _ => none

/-- The truth value at the head, or false if there is none. -/
def flag? (bs : Octets) : Option (Bool × Octets) :=
  if startsWith .boolean bs then
    match take? .boolean bs with
    | some ([0xFF], rest) => some (true, rest)
    | some ([0x00], rest) => some (false, rest)
    | _ => none
  else some (false, bs)

/-- The octets of a length. -/
def lengthOctets (n : Nat) : Octets :=
  if n < 0x80 then [UInt8.ofNat n]
  else if n < 0x100 then 0x81 :: Octets.ofNat 1 n
  else 0x82 :: Octets.ofNat 2 n

/-- A value of this tag. -/
def encode (tag : Tag) (content : Octets) : Octets :=
  tag.octet :: (lengthOctets content.length ++ content)

/-- The integer that a magnitude without leading zeros writes. -/
def encodePositive (magnitude : Octets) : Octets :=
  match magnitude with
  | b :: _ => encode .integer (if b < 0x80 then magnitude else 0 :: magnitude)
  | [] => encode .integer [0]

theorem length_rest_of_length? {bs rest : Octets} {n : Nat} (h : length? bs = some (n, rest)) :
    rest.length < bs.length := by
  unfold length? at h
  grind

/-- A reader always takes something. -/
theorem length_rest_of_take? {tag : Tag} {bs content rest : Octets}
    (h : take? tag bs = some (content, rest)) : rest.length < bs.length := by
  unfold take? at h
  split at h
  · simp at h
  · split at h
    · simp at h
    · split at h
      · simp at h
      · rename_i n after length
        have shorter := length_rest_of_length? length
        split at h
        · simp only [Option.some.injEq, Prod.mk.injEq] at h
          rw [← h.2]
          simp only [List.length_drop, List.length_cons]
          omega
        · simp at h

end Diameter.Credential.Der
