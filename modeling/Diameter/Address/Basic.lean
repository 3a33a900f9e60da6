import Diameter.Octets

/-!
# Network addresses

An address is four octets or eight groups of sixteen bits. Socket addresses add a
port and, for the second family, a scope. Main statement: an address is read back
from its octets.
-/

namespace Diameter

/-- An IPv4 or IPv6 address. -/
inductive Address where
  | v4 (a b c d : UInt8)
  | v6 (groups : Vector UInt16 8)
  deriving DecidableEq, Repr

namespace Address

/-- Whether the address is of the first family. An IPv4 address that is mapped into the
second family is of the second. -/
def isV4 : Address → Bool
  | v4 .. => true
  | v6 _ => false

/-- The address whose groups are `groups`, if there are eight. -/
def ofGroups? (groups : List UInt16) : Option Address :=
  if h : groups.length = 8 then some (v6 ⟨groups.toArray, by simp [h]⟩) else none

/-- The address of the first family that stands for any interface. -/
def anyV4 : Address := v4 0 0 0 0

/-- The address of the second family that stands for any interface. -/
def anyV6 : Address := v6 (.replicate 8 0)

/-- The octets of a list of groups, high octet first. -/
def groupOctets : List UInt16 → Octets
  | [] => []
  | g :: rest => UInt8.ofNat (g.toNat / 256) :: UInt8.ofNat g.toNat :: groupOctets rest

/-- The groups that a run of octets writes, two octets a group. -/
def groupsOfOctets : Octets → List UInt16
  | high :: low :: rest => UInt16.ofNat (256 * high.toNat + low.toNat) :: groupsOfOctets rest
  | _ => []

/-- The octets of the address in network order. -/
def octets : Address → Octets
  | v4 a b c d => [a, b, c, d]
  | v6 groups => groupOctets groups.toList

/-- The address that four or sixteen octets write. -/
def ofOctets? : Octets → Option Address
  | [a, b, c, d] => some (v4 a b c d)
  | bs => if bs.length = 16 then ofGroups? (groupsOfOctets bs) else none

theorem groupsOfOctets_groupOctets (groups : List UInt16) :
    groupsOfOctets (groupOctets groups) = groups := by
  induction groups with
  | nil => rfl
  | cons g rest ih =>
    have bound := g.toNat_lt
    have joined : 256 * (g.toNat / 256 % 256) + g.toNat % 256 = g.toNat := by omega
    simp [groupOctets, groupsOfOctets, ih, joined]

theorem length_groupOctets (groups : List UInt16) :
    (groupOctets groups).length = 2 * groups.length := by
  induction groups with
  | nil => rfl
  | cons g rest ih =>
    simp only [groupOctets, List.length_cons, ih]
    omega

end Address

/-- An address and a port. `scope` names an interface and is zero unless one was given. -/
structure SocketAddress where
  /-- The host. -/
  ip : Address
  /-- The port. -/
  port : UInt16
  /-- The interface that a link-local address belongs to. -/
  scope : UInt32
  deriving DecidableEq, Repr

end Diameter
