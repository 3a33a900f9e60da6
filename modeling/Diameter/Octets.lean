/-!
# Octets and numbers in network order

Runs of octets are lists, so that every statement about a message is a statement
about lists. Numbers are written most significant octet first. Main statements:
writing keeps the low octets of a number, and reading gives them back.
-/

namespace Diameter

/-- A run of octets, first octet first. -/
abbrev Octets := List UInt8

namespace Octets

/-- The number that `bs` writes in network order. -/
def toNat (bs : Octets) : Nat := bs.foldl (fun n b => 256 * n + b.toNat) 0

/-- How many numbers a run of `width` octets can write. -/
def span : (width : Nat) → Nat
  | 0 => 1
  | width + 1 => span width * 256

/-- The low `width` octets of `n` in network order. -/
def ofNat : (width n : Nat) → Octets
  | 0, _ => []
  | width + 1, n => UInt8.ofNat (n / span width) :: ofNat width n

/-- The number in the `width` octets that follow the first `offset` ones. -/
def word (bs : Octets) (offset width : Nat) : Nat := toNat ((bs.drop offset).take width)

/-- Whether at least `n` octets are there. No more than `n` of them are looked at. -/
def holds : Nat → Octets → Bool
  | 0, _ => true
  | _ + 1, [] => false
  | n + 1, _ :: rest => holds n rest

/-- `n` rounded up to a multiple of four. -/
def padded (n : Nat) : Nat := (n + 3) / 4 * 4

/-- The text that the octets encode, if they are valid UTF-8. -/
def text? (bs : Octets) : Option String := String.fromUTF8? ⟨bs.toArray⟩

/-- The octets that encode `s` in UTF-8. -/
def ofText (s : String) : Octets := s.toUTF8.data.toList

@[simp] theorem length_ofNat (width n : Nat) : (ofNat width n).length = width := by
  induction width with
  | zero => rfl
  | succ width ih => simp [ofNat, ih]

theorem holds_iff (n : Nat) (bs : Octets) : holds n bs = true ↔ n ≤ bs.length := by
  induction n generalizing bs with
  | zero => simp [holds]
  | succ n ih =>
    cases bs with
    | nil => simp [holds]
    | cons b rest => simp [holds, ih]

theorem foldl_start (bs : Octets) (start : Nat) :
    bs.foldl (fun n b => 256 * n + b.toNat) start = start * span bs.length + toNat bs := by
  induction bs generalizing start with
  | nil => simp [toNat, span]
  | cons b rest ih =>
    simp only [List.foldl_cons, List.length_cons, toNat]
    rw [ih, ih (256 * 0 + b.toNat)]
    rw [span, Nat.add_mul, Nat.add_mul]
    simp only [Nat.mul_comm, Nat.mul_assoc, Nat.add_assoc, Nat.zero_mul, Nat.zero_add]

/-- Reading gives back the low octets that were written. -/
theorem toNat_ofNat (width n : Nat) : toNat (ofNat width n) = n % span width := by
  induction width with
  | zero => simp [ofNat, toNat, span, Nat.mod_one]
  | succ width ih =>
    have head : toNat (ofNat (width + 1) n) =
        (n / span width % 256) * span width + toNat (ofNat width n) := by
      show List.foldl _ _ (ofNat width n) = _
      rw [foldl_start]
      simp
    rw [head, ih, span, Nat.mod_mul, Nat.mul_comm, Nat.add_comm]

theorem text?_ofText (s : String) : text? (ofText s) = some s := by
  simp only [text?, ofText, String.toUTF8]
  exact dif_pos s.isValidUTF8

theorem le_padded (n : Nat) : n ≤ padded n := by
  unfold padded
  omega

theorem padded_lt (n : Nat) : padded n < n + 4 := by
  unfold padded
  omega

end Octets

end Diameter
