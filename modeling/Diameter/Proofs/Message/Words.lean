import Diameter.Octets

/-!
# Numbers inside a run of octets

A number that is read from a run of octets is less than the span of its width, and writing
it gives the octets back. So a run and its number determine each other, wherever the run
stands.
-/

namespace Diameter.Octets

/-! ## A run and its number -/

theorem span_pos (width : Nat) : 0 < span width := by
  induction width with
  | zero => exact Nat.one_pos
  | succ width ih => rw [span]; omega

/-- The first octet counts for all that follow it. -/
theorem toNat_cons (b : UInt8) (rest : Octets) :
    toNat (b :: rest) = b.toNat * span rest.length + toNat rest := by
  rw [toNat, List.foldl_cons, foldl_start, Nat.mul_zero, Nat.zero_add]

/-- A run that another follows counts for all of that. -/
theorem toNat_append (bs cs : Octets) : toNat (bs ++ cs) = toNat bs * span cs.length + toNat cs := by
  rw [toNat, List.foldl_append, foldl_start]
  rfl

theorem toNat_singleton (b : UInt8) : toNat [b] = b.toNat := by
  simp [toNat]

/-- A run of octets writes a number below the span of its width. -/
theorem toNat_lt (bs : Octets) : toNat bs < span bs.length := by
  induction bs with
  | nil => simp [toNat, span]
  | cons b rest ih =>
    have hb : b.toNat < 256 := b.toNat_lt
    have hstep : (b.toNat + 1) * span rest.length ≤ 256 * span rest.length :=
      Nat.mul_le_mul_right _ hb
    rw [Nat.add_mul] at hstep
    rw [toNat_cons, List.length_cons, span]
    omega

/-- What lies above the span of the width is not written. -/
theorem ofNat_add_span_mul (width n a : Nat) : ofNat width (n + span width * a) = ofNat width n := by
  induction width generalizing a with
  | zero => rfl
  | succ width ih =>
    have hsplit : n + span (width + 1) * a = n + span width * (256 * a) := by
      rw [span, Nat.mul_assoc]
    have hhead : UInt8.ofNat (n / span width + 256 * a) = UInt8.ofNat (n / span width) := by
      apply UInt8.toNat.inj
      simp only [UInt8.toNat_ofNat']
      omega
    rw [ofNat, ofNat, hsplit, ih, Nat.add_mul_div_left _ _ (span_pos width), hhead]

/-- Writing the number of a run gives the run back. -/
theorem ofNat_toNat (bs : Octets) : ofNat bs.length (toNat bs) = bs := by
  induction bs with
  | nil => rfl
  | cons b rest ih =>
    have hnumber : toNat (b :: rest) = toNat rest + span rest.length * b.toNat := by
      rw [toNat_cons, Nat.mul_comm, Nat.add_comm]
    have hhead : toNat (b :: rest) / span rest.length = b.toNat := by
      rw [hnumber, Nat.add_mul_div_left _ _ (span_pos _), Nat.div_eq_of_lt (toNat_lt rest),
        Nat.zero_add]
    rw [List.length_cons, ofNat, hhead, UInt8.ofNat_toNat, hnumber, ofNat_add_span_mul, ih]

/-- At most four octets are those of the number of 32 bits that they write. -/
theorem ofNat_toNat_ofNat {bs : Octets} {width : Nat} (h : bs.length = width)
    (hw : span width ≤ span 4) : ofNat width (UInt32.ofNat (toNat bs)).toNat = bs := by
  have hlt : toNat bs < span width := h ▸ toNat_lt bs
  have hfits : (UInt32.ofNat (toNat bs)).toNat = toNat bs := by
    rw [UInt32.toNat_ofNat']
    exact Nat.mod_eq_of_lt (Nat.lt_of_lt_of_le hlt hw)
  rw [hfits, ← h, ofNat_toNat]

/-- A number of 32 bits is read back from its four octets. -/
theorem ofNat_toNat_ofNat_toNat (n : UInt32) : UInt32.ofNat (toNat (ofNat 4 n.toNat)) = n := by
  have hfits : n.toNat % span 4 = n.toNat := Nat.mod_eq_of_lt n.toNat_lt
  rw [toNat_ofNat, hfits, UInt32.ofNat_toNat]

/-- The octets of a number show it up to the span of the width. -/
theorem mod_eq_of_ofNat_eq {width n m : Nat} (h : ofNat width n = ofNat width m) :
    n % span width = m % span width := by
  rw [← toNat_ofNat, h, toNat_ofNat]

/-- A number of 32 bits can be told from its four octets. -/
theorem eq_of_ofNat_toNat_eq {n m : UInt32} (h : ofNat 4 n.toNat = ofNat 4 m.toNat) : n = m := by
  rw [← ofNat_toNat_ofNat_toNat n, h, ofNat_toNat_ofNat_toNat]

/-! ## Words -/

/-- The word at the place of a run is the number of the run. -/
theorem word_append (before run after : Octets) {offset width : Nat}
    (hb : before.length = offset) (hr : run.length = width) :
    word (before ++ (run ++ after)) offset width = toNat run := by
  subst hb hr
  rw [word, List.drop_left, List.take_left]

/-- Between two places within the octets lie as many as the places are apart. -/
theorem length_between {bs : Octets} {offset width : Nat} (h : offset + width ≤ bs.length) :
    ((bs.drop offset).take width).length = width := by
  rw [List.length_take, List.length_drop]
  omega

/-- Writing a word gives back the octets that it was read from. -/
theorem ofNat_word {bs : Octets} {offset width : Nat} (h : offset + width ≤ bs.length) :
    ofNat width (word bs offset width) = (bs.drop offset).take width := by
  have hw := ofNat_toNat ((bs.drop offset).take width)
  rwa [length_between h] at hw

/-- A word of one octet is that octet. -/
theorem singleton_ofNat_word {bs : Octets} {offset : Nat} (h : offset + 1 ≤ bs.length) :
    [UInt8.ofNat (word bs offset 1)] = (bs.drop offset).take 1 := by
  rw [← ofNat_word h, ofNat, ofNat, span, Nat.div_one]

/-- A word is below the span of its width. -/
theorem word_lt {bs : Octets} {offset width : Nat} (h : offset + width ≤ bs.length) :
    word bs offset width < span width := by
  have hw := toNat_lt ((bs.drop offset).take width)
  rwa [length_between h] at hw

/-- A word is made up of the word of its first octets and that of the others. -/
theorem word_add {bs : Octets} {offset first others : Nat}
    (h : offset + (first + others) ≤ bs.length) :
    word bs offset (first + others) =
      word bs offset first * span others + word bs (offset + first) others := by
  have hsplit : (bs.drop offset).take (first + others) =
      (bs.drop offset).take first ++ (bs.drop (offset + first)).take others := by
    rw [List.take_add, List.drop_drop]
  have hothers : offset + first + others ≤ bs.length := by omega
  rw [word, hsplit, toNat_append, length_between hothers]
  rfl

/-- The octets from one place to another, and those from there on. -/
theorem between_append_drop (bs : Octets) {start stop : Nat} (h : start ≤ stop) :
    (bs.drop start).take (stop - start) ++ bs.drop stop = bs.drop start := by
  have hstop : bs.drop stop = (bs.drop start).drop (stop - start) := by
    rw [List.drop_drop, Nat.add_sub_cancel' h]
  rw [hstop, List.take_append_drop]

end Diameter.Octets
