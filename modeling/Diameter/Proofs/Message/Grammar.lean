import Diameter.Message.Draft
import Diameter.Message.Reader
import Diameter.Proofs.Message.Words
import Mathlib.Tactic.Common

/-!
# The wire grammar of a message

A spelling is the runs of octets of which one AVP consists in a frame, padding included.
Main statement: a frame is read exactly if its header is right and what follows the header is
a sequence of spellings. There is only one such sequence, the message that was read holds its
AVPs, and writing that message gives the frame with its padding blanked.
-/

namespace Diameter

namespace Avp

/-- How many octets the vendor takes up under the given flags. -/
def vendorWidth (flags : UInt8) : Nat := if flags &&& vendorFlag ≠ 0 then 4 else 0

/-- The header of an AVP is eight octets long, and four more with a vendor. -/
theorem headerLength_of_flags (flags : UInt8) (vendor : UInt32) :
    headerLength (if flags &&& vendorFlag ≠ 0 then some vendor else none) =
      8 + vendorWidth flags := by
  by_cases hf : flags &&& vendorFlag ≠ 0 <;> simp [headerLength, vendorWidth, hf]

/-- The runs of octets that spell an AVP, in the order in which they stand. -/
@[ext]
structure Spelling where
  /-- The code, in four octets. -/
  code : Octets
  /-- The flags. -/
  flags : UInt8
  /-- The length of all that follows up to the padding and of what stands before it. -/
  length : Octets
  /-- The vendor, in four octets, or nothing. -/
  vendor : Octets
  /-- The value. -/
  data : Octets
  /-- Any octets that fill up a multiple of four. -/
  padding : Octets
  code_size : code.length = 4
  length_size : length.length = 3
  vendor_size : vendor.length = vendorWidth flags
  length_counts : Octets.toNat length = 8 + vendor.length + data.length
  padding_lt : padding.length < 4
  aligned : (8 + vendor.length + data.length + padding.length) % 4 = 0

namespace Spelling

/-- What counts for the length. -/
def written (s : Spelling) : Octets := s.code ++ s.flags :: s.length ++ s.vendor ++ s.data

/-- All octets of the spelling. -/
def octets (s : Spelling) : Octets := s.written ++ s.padding

/-- The octets of the spelling with zeros for its padding. -/
def blanked (s : Spelling) : Octets := s.written ++ List.replicate s.padding.length 0

/-- The AVP that is spelled. -/
def avp (s : Spelling) : Avp where
  code := .ofNat (Octets.toNat s.code)
  flags := s.flags
  vendorId := if s.flags &&& vendorFlag ≠ 0 then some (.ofNat (Octets.toNat s.vendor)) else none
  data := s.data

/-- The header of a spelled AVP is eight octets long, and the vendor. -/
theorem headerLength_avp (s : Spelling) : headerLength s.avp.vendorId = 8 + s.vendor.length := by
  rw [s.vendor_size]
  exact headerLength_of_flags ..

/-- The length that is written is that of the AVP. -/
theorem length_avp (s : Spelling) : s.avp.length = Octets.toNat s.length := by
  rw [Avp.length, headerLength_avp, s.length_counts]
  rfl

theorem length_written (s : Spelling) : s.written.length = s.avp.length := by
  have hc := s.code_size
  have hl := s.length_size
  rw [length_avp, s.length_counts, written]
  simp only [List.length_append, List.length_cons]
  omega

/-- Padding fills the AVP up to its size. -/
theorem length_padding (s : Spelling) : s.padding.length = s.avp.size - s.avp.length := by
  have hp := s.padding_lt
  have ha := s.aligned
  rw [← s.length_counts, ← length_avp] at ha
  rw [size, Octets.padded]
  omega

/-- A spelling takes up the size of its AVP. -/
theorem length_octets (s : Spelling) : s.octets.length = s.avp.size := by
  have hle := Octets.le_padded s.avp.length
  rw [octets, List.length_append, length_written, length_padding, size]
  omega

/-- Writing the AVP spells it with zeros for padding. -/
theorem write_avp (s : Spelling) : s.avp.write = s.blanked := by
  have hcode : Octets.ofNat 4 s.avp.code.toNat = s.code := Octets.ofNat_toNat_ofNat s.code_size (Nat.le_refl _)
  have hlength : Octets.ofNat 3 s.avp.length = s.length := by
    rw [length_avp, ← s.length_size, Octets.ofNat_toNat]
  have hheader : s.avp.writeHeader = s.code ++ s.flags :: s.length ++ s.vendor := by
    have hv := s.vendor_size
    unfold vendorWidth at hv
    rw [writeHeader, hcode, hlength]
    unfold avp
    split_ifs at hv ⊢
    · dsimp only
      rw [Octets.ofNat_toNat_ofNat hv (Nat.le_refl _)]
    · dsimp only
      rw [List.length_eq_zero_iff.mp hv]
  rw [write, hheader, ← length_padding]
  rfl

/-! ## Unambiguity -/

/-- A spelling and what follows it can be told from their octets. -/
theorem octets_append_inj {s t : Spelling} {rest rest' : Octets}
    (h : s.octets ++ rest = t.octets ++ rest') : s = t ∧ rest = rest' := by
  simp only [octets, written, List.append_assoc, List.cons_append] at h
  obtain ⟨hcode, h⟩ := List.append_inj h (s.code_size.trans t.code_size.symm)
  obtain ⟨hflags, h⟩ := List.cons.inj h
  obtain ⟨hlength, h⟩ := List.append_inj h (s.length_size.trans t.length_size.symm)
  have hsizes : s.vendor.length = t.vendor.length := by
    rw [s.vendor_size, t.vendor_size, hflags]
  obtain ⟨hvendor, h⟩ := List.append_inj h hsizes
  have hcounts := s.length_counts
  rw [hlength, t.length_counts, hsizes] at hcounts
  have hdataSizes : s.data.length = t.data.length := by omega
  obtain ⟨hdata, h⟩ := List.append_inj h hdataSizes
  have hpaddings : s.padding.length = t.padding.length := by
    have hs := s.aligned
    have ht := t.aligned
    have hslt := s.padding_lt
    have htlt := t.padding_lt
    rw [hsizes, hdataSizes] at hs
    omega
  obtain ⟨hpadding, hrest⟩ := List.append_inj h hpaddings
  exact ⟨Spelling.ext hcode hflags hlength hvendor hdata hpadding, hrest⟩

/-- No spelling is empty. -/
theorem octets_ne_nil (s : Spelling) : s.octets ≠ [] := by
  have hl := s.length_octets
  have hsize := eight_le_size s.avp
  intro h
  rw [h, List.length_nil] at hl
  omega

/-- A sequence of spellings can be told from its octets. -/
theorem flatMap_octets_inj {ss ts : List Spelling} (h : ss.flatMap octets = ts.flatMap octets) :
    ss = ts := by
  induction ss generalizing ts with
  | nil =>
    cases ts with
    | nil => rfl
    | cons t ts => exact absurd (List.append_eq_nil_iff.mp h.symm).1 t.octets_ne_nil
  | cons s ss ih =>
    cases ts with
    | nil => exact absurd (List.append_eq_nil_iff.mp h).1 s.octets_ne_nil
    | cons t ts =>
      rw [List.flatMap_cons, List.flatMap_cons] at h
      obtain ⟨rfl, hrest⟩ := octets_append_inj h
      rw [ih hrest]

/-! ## Spellings are read -/

/-- A spelling is read, whatever follows it. -/
theorem read_octets (s : Spelling) (offset : Nat) (rest : Octets) :
    Avp.read offset (s.octets ++ rest) = .ok s.avp := by
  have hcodeSize := s.code_size
  have hlengthSize := s.length_size
  have hvendorSize := s.vendor_size
  have hstart := s.headerLength_avp
  have htotal := s.length_avp.trans s.length_counts
  have hwritten := s.length_written
  have hsplit : s.octets ++ rest =
      s.code ++ (s.flags :: (s.length ++ (s.vendor ++ (s.data ++ (s.padding ++ rest))))) := by
    simp only [octets, written, List.append_assoc, List.cons_append]
  have hcode : Octets.word (s.octets ++ rest) 0 4 = Octets.toNat s.code := by
    rw [hsplit]
    exact Octets.word_append [] s.code _ rfl hcodeSize
  have hflags : Octets.word (s.octets ++ rest) 4 1 = s.flags.toNat := by
    rw [hsplit, ← Octets.toNat_singleton]
    exact Octets.word_append s.code [s.flags] _ hcodeSize rfl
  have hlength : Octets.word (s.octets ++ rest) 5 3 = s.avp.length := by
    have hw := Octets.word_append (s.code ++ [s.flags]) s.length
      (s.vendor ++ (s.data ++ (s.padding ++ rest)))
      (show (s.code ++ [s.flags]).length = 5 by simp [hcodeSize]) hlengthSize
    rw [hsplit, length_avp, ← hw]
    simp only [List.append_assoc, List.cons_append, List.nil_append]
  have hvendor (hv : s.vendor.length = 4) :
      Octets.word (s.octets ++ rest) 8 4 = Octets.toNat s.vendor := by
    have hw := Octets.word_append (s.code ++ s.flags :: s.length) s.vendor
      (s.data ++ (s.padding ++ rest))
      (show (s.code ++ s.flags :: s.length).length = 8 by simp [hcodeSize, hlengthSize]) hv
    rw [hsplit, ← hw]
    simp only [List.append_assoc, List.cons_append]
  have hheld (n : Nat) (hn : n ≤ s.avp.length) : Octets.holds n (s.octets ++ rest) = true := by
    rw [Octets.holds_iff, octets, List.length_append, List.length_append]
    omega
  have hdata : ((s.octets ++ rest).take s.avp.length).drop (8 + s.vendor.length) = s.data := by
    have hhead : (s.code ++ s.flags :: s.length ++ s.vendor).length = 8 + s.vendor.length := by
      simp only [List.length_append, List.length_cons, hcodeSize, hlengthSize]
    rw [octets, List.append_assoc, ← hwritten, List.take_left, written, ← hhead, List.drop_left]
  have hid : (if UInt8.ofNat (Octets.word (s.octets ++ rest) 4 1) &&& vendorFlag ≠ 0 then
      some (UInt32.ofNat (Octets.word (s.octets ++ rest) 8 4)) else none) = s.avp.vendorId := by
    unfold vendorWidth at hvendorSize
    rw [hflags, UInt8.ofNat_toNat, avp]
    split_ifs at hvendorSize ⊢
    · rw [hvendor hvendorSize]
    · rfl
  unfold Avp.read
  dsimp only
  rw [hid, hcode, hflags, hlength, hstart, hdata, hheld 8 (by omega), hheld _ (by omega),
    hheld _ (Nat.le_refl _), UInt8.ofNat_toNat]
  simp only [Bool.not_true, Bool.false_eq_true, if_false]
  rw [if_neg (by omega)]
  rfl

/-! ## What is read is a spelling -/

/-- The spelling at the head of a run, of which the flags and the length are known. -/
def ofRest (rest : Octets) (flags : UInt8) (length : Nat) (hlength : Octets.word rest 5 3 = length)
    (hstart : 8 + vendorWidth flags ≤ length) (hfits : length ≤ rest.length)
    (hr : rest.length % 4 = 0) : Spelling where
  code := rest.take 4
  flags := flags
  length := (rest.drop 5).take 3
  vendor := (rest.drop 8).take (vendorWidth flags)
  data := (rest.drop (8 + vendorWidth flags)).take (length - (8 + vendorWidth flags))
  padding := (rest.drop length).take (Octets.padded length - length)
  code_size := by rw [List.length_take]; omega
  length_size := by rw [List.length_take, List.length_drop]; omega
  vendor_size := by rw [List.length_take, List.length_drop]; omega
  length_counts := by
    have hw : Octets.toNat ((rest.drop 5).take 3) = length := hlength
    rw [hw]
    simp only [List.length_take, List.length_drop]
    omega
  padding_lt := by
    have hp := Octets.padded_lt length
    rw [List.length_take]
    omega
  aligned := by
    simp only [List.length_take, List.length_drop, Octets.padded]
    omega

/-- The spelling at the head of a run and what follows it are the run. -/
theorem octets_ofRest {rest : Octets} {flags : UInt8} {length : Nat}
    (hflags : UInt8.ofNat (Octets.word rest 4 1) = flags) (hlength : Octets.word rest 5 3 = length)
    (hstart : 8 + vendorWidth flags ≤ length) (hfits : length ≤ rest.length)
    (hr : rest.length % 4 = 0) :
    (ofRest rest flags length hlength hstart hfits hr).octets ++ rest.drop (Octets.padded length) =
      rest := by
  have hflagsOctet : [flags] = (rest.drop 4).take 1 := by
    rw [← hflags]
    exact Octets.singleton_ofNat_word (by omega)
  have hpadding := Octets.between_append_drop rest (Octets.le_padded length)
  have hdata := Octets.between_append_drop rest hstart
  have hvendor := Octets.between_append_drop rest (Nat.le_add_right 8 (vendorWidth flags))
  have hlengthOctets := Octets.between_append_drop rest (show 5 ≤ 8 by omega)
  have hflagsOctets := Octets.between_append_drop rest (show 4 ≤ 5 by omega)
  rw [← hflagsOctet, List.cons_append, List.nil_append] at hflagsOctets
  rw [Nat.add_sub_cancel_left] at hvendor
  simp only [octets, written, ofRest, List.append_assoc, List.cons_append]
  rw [hpadding, hdata, hvendor, hlengthOctets, hflagsOctets, List.take_append_drop]

/-- An AVP that is read is spelled at the head of a run whose length is a multiple of four. -/
theorem exists_of_read {offset : Nat} {rest : Octets} {a : Avp} (h : Avp.read offset rest = .ok a)
    (hr : rest.length % 4 = 0) : ∃ s : Spelling, s.avp = a ∧ rest = s.octets ++ rest.drop a.size := by
  unfold Avp.read at h
  dsimp only at h
  generalize hflags : UInt8.ofNat (Octets.word rest 4 1) = flags at h
  generalize hlength : Octets.word rest 5 3 = length at h
  have hstart := headerLength_of_flags flags (.ofNat (Octets.word rest 8 4))
  generalize hid : (if flags &&& vendorFlag ≠ 0 then some (UInt32.ofNat (Octets.word rest 8 4))
    else none) = vendorId at h hstart
  simp only [hstart, Bool.not_eq_true', ← Bool.not_eq_true, Octets.holds_iff] at h
  split_ifs at h with hhead hvendor hshort hover
  let s := ofRest rest flags length hlength (Nat.le_of_not_lt hshort) hover hr
  have havp : s.avp = a := by
    rw [← Except.ok.inj h, ← hid]
    have hvendorId : (if flags &&& vendorFlag ≠ 0 then some (UInt32.ofNat (Octets.toNat
        ((rest.drop 8).take (vendorWidth flags)))) else none) =
        if flags &&& vendorFlag ≠ 0 then some (.ofNat (Octets.word rest 8 4)) else none := by
      by_cases hf : flags &&& vendorFlag ≠ 0 <;> simp [vendorWidth, hf, Octets.word]
    rw [List.drop_take]
    exact congrArg (Avp.mk (.ofNat (Octets.word rest 0 4)) flags · _) hvendorId
  refine ⟨s, havp, ?_⟩
  have hsize : a.size = Octets.padded length := by
    rw [← havp, size, length_avp]
    exact congrArg Octets.padded hlength
  rw [hsize]
  exact (octets_ofRest hflags hlength (Nat.le_of_not_lt hshort) hover hr).symm

/-! ## Sequences of spellings -/

/-- A sequence of spellings is read to its end. -/
theorem readAll_flatMap (ss : List Spelling) (offset : Nat) :
    Avp.readAll offset (ss.flatMap octets) = .ok (ss.map avp) := by
  induction ss generalizing offset with
  | nil =>
    rw [List.flatMap_nil, Avp.readAll, if_pos rfl]
    rfl
  | cons s ss ih =>
    have hne : s.octets ++ ss.flatMap octets ≠ [] :=
      fun h => s.octets_ne_nil (List.append_eq_nil_iff.mp h).1
    rw [List.flatMap_cons, Avp.readAll, if_neg hne, read_octets]
    dsimp only
    rw [← length_octets, List.drop_left, ih]
    rfl

/-- What is read to its end is a sequence of spellings, if its length is a multiple of four. -/
theorem exists_of_readAll {offset : Nat} {rest : Octets} {avps : List Avp}
    (h : Avp.readAll offset rest = .ok avps) (hr : rest.length % 4 = 0) :
    ∃ ss : List Spelling, avps = ss.map avp ∧ rest = ss.flatMap octets := by
  induction offset, rest using Avp.readAll.induct generalizing avps with
  | case1 offset =>
    rw [Avp.readAll, if_pos rfl] at h
    exact ⟨[], (Except.ok.inj h).symm, rfl⟩
  | case2 offset rest hne e he =>
    rw [Avp.readAll, if_neg hne, he] at h
    cases h
  | case3 offset rest hne a ha e he ih =>
    rw [Avp.readAll, if_neg hne, ha] at h
    simp only [he, reduceCtorEq] at h
  | case4 offset rest hne a ha more hmore ih =>
    rw [Avp.readAll, if_neg hne, ha] at h
    simp only [hmore, Except.ok.injEq] at h
    obtain ⟨s, rfl, hs⟩ := exists_of_read ha hr
    have hdrop : (rest.drop s.avp.size).length % 4 = 0 := by
      rw [List.length_drop, size, Octets.padded]
      omega
    obtain ⟨ss, rfl, hss⟩ := ih hmore hdrop
    refine ⟨s :: ss, h.symm, ?_⟩
    rw [List.flatMap_cons, ← hss]
    exact hs

end Spelling

end Avp

/-! ## Headers -/

namespace Header

/-- The header at the start of a frame that is long enough. -/
def ofOctets (raw : Octets) : Header where
  version := .ofNat (Octets.word raw 0 1)
  length := Octets.word raw 1 3
  flags := .ofNat (Octets.word raw 4 1)
  commandCode := .ofNat (Octets.word raw 5 3)
  applicationId := .ofNat (Octets.word raw 8 4)
  hopByHop := .ofNat (Octets.word raw 12 4)
  endToEnd := .ofNat (Octets.word raw 16 4)

/-- A frame that holds a header starts with its version. -/
theorem head?_eq_version {raw : Octets} (h : size ≤ raw.length) :
    raw.head? = some (ofOctets raw).version := by
  have hfirst : [(ofOctets raw).version] = (raw.drop 0).take 1 := by
    unfold size at h
    exact Octets.singleton_ofNat_word (by omega)
  rw [List.drop_zero] at hfirst
  rw [← List.head?_cons, hfirst, List.head?_take, if_neg Nat.one_ne_zero]

/-- A header is read if it is there and has the version in use. -/
theorem read_eq_ok_iff {raw : Octets} {h : Header} :
    Header.read raw = .ok h ↔
      size ≤ raw.length ∧ raw.head? = some protocolVersion ∧ h = ofOctets raw := by
  have hread : Header.read raw =
      if !Octets.holds size raw then .error (.malformed (.shortHeader raw.length))
      else if (ofOctets raw).version ≠ protocolVersion then
        .error (.malformed (.version (ofOctets raw).version))
      else .ok (ofOctets raw) := rfl
  rw [hread]
  by_cases hsize : size ≤ raw.length
  · rw [(Octets.holds_iff size raw).mpr hsize, head?_eq_version hsize, Option.some.injEq]
    simp only [Bool.not_true, Bool.false_eq_true, if_false, hsize, true_and]
    split_ifs with hv
    · simp [hv]
    · rw [Except.ok.injEq]
      exact ⟨fun he => ⟨not_not.mp hv, he.symm⟩, fun he => he.2.symm⟩
  · have hshort : Octets.holds size raw = false := by
      rw [← Bool.not_eq_true, Octets.holds_iff]
      exact hsize
    simp [hshort, hsize]

/-- A frame is the header that it starts with and what follows. -/
theorem write_ofOctets_append {raw : Octets} (h : size ≤ raw.length) :
    (ofOctets raw).write ++ raw.drop size = raw := by
  unfold size at h ⊢
  have hversion : [(ofOctets raw).version] = (raw.drop 0).take 1 :=
    Octets.singleton_ofNat_word (by omega)
  have hlength : Octets.ofNat 3 (ofOctets raw).length = (raw.drop 1).take 3 :=
    Octets.ofNat_word (by omega)
  have hflags : [(ofOctets raw).flags] = (raw.drop 4).take 1 :=
    Octets.singleton_ofNat_word (by omega)
  have hcommand : Octets.ofNat 3 (ofOctets raw).commandCode.toNat = (raw.drop 5).take 3 :=
    Octets.ofNat_toNat_ofNat (Octets.length_between (by omega)) (by decide)
  have hword (offset : Nat) (ho : offset + 4 ≤ 20) :
      Octets.ofNat 4 (UInt32.ofNat (Octets.word raw offset 4)).toNat = (raw.drop offset).take 4 :=
    Octets.ofNat_toNat_ofNat (Octets.length_between (by omega)) (Nat.le_refl _)
  have happlication : Octets.ofNat 4 (ofOctets raw).applicationId.toNat = (raw.drop 8).take 4 :=
    hword 8 (by omega)
  have hhopByHop : Octets.ofNat 4 (ofOctets raw).hopByHop.toNat = (raw.drop 12).take 4 :=
    hword 12 (by omega)
  have hendToEnd : Octets.ofNat 4 (ofOctets raw).endToEnd.toNat = (raw.drop 16).take 4 :=
    hword 16 (by omega)
  have hpieces : (ofOctets raw).write ++ raw.drop 20 =
      [(ofOctets raw).version] ++ (Octets.ofNat 3 (ofOctets raw).length ++
        ([(ofOctets raw).flags] ++ (Octets.ofNat 3 (ofOctets raw).commandCode.toNat ++
        (Octets.ofNat 4 (ofOctets raw).applicationId.toNat ++
        (Octets.ofNat 4 (ofOctets raw).hopByHop.toNat ++
        (Octets.ofNat 4 (ofOctets raw).endToEnd.toNat ++ raw.drop 20)))))) := by
    simp only [write, List.append_assoc, List.cons_append, List.nil_append]
  have hglue (start stop : Nat) (hs : start ≤ stop) := Octets.between_append_drop raw hs
  have h16 := hglue 16 20 (by omega)
  have h12 := hglue 12 16 (by omega)
  have h8 := hglue 8 12 (by omega)
  have h5 := hglue 5 8 (by omega)
  have h4 := hglue 4 5 (by omega)
  have h1 := hglue 1 4 (by omega)
  have h0 := hglue 0 1 (by omega)
  rw [hpieces, hversion, hlength, hflags, hcommand, happlication, hhopByHop, hendToEnd, h16, h12,
    h8, h5, h4, h1, h0, List.drop_zero]

/-- Writing the header that a frame starts with gives the start of the frame. -/
theorem write_ofOctets {raw : Octets} (h : size ≤ raw.length) :
    (ofOctets raw).write = raw.take size := by
  have hraw := write_ofOctets_append h
  nth_rewrite 3 [← List.take_append_drop size raw] at hraw
  exact List.append_cancel_right hraw

theorem length_write (h : Header) : h.write.length = size := by
  simp [write, size]

end Header

/-! ## Messages -/

namespace Message

/-- A frame has a proper header, and what follows that is a sequence of spellings. -/
structure Spelled (raw : Octets) (spellings : List Avp.Spelling) : Prop where
  /-- The header is there. -/
  header : Header.size ≤ raw.length
  /-- The version is the one in use. -/
  version : raw.head? = some protocolVersion
  /-- The header declares the length of the frame. -/
  length : Octets.word raw 1 3 = raw.length
  /-- That is a multiple of four. -/
  aligned : raw.length % 4 = 0
  /-- The rest is one spelling after the other. -/
  body : raw.drop Header.size = spellings.flatMap Avp.Spelling.octets

/-- The message that a spelled frame holds. -/
def ofSpelled (raw : Octets) (spellings : List Avp.Spelling) : Message :=
  ⟨.ofOctets raw, spellings.map Avp.Spelling.avp, raw⟩

/-- A message is read in four steps, of which the first that fails is the one reported. -/
theorem read_eq (raw : Octets) : Message.read raw =
    match Header.read raw with
    | .error e => .error e
    | .ok header =>
      if header.length ≠ raw.length then
        .error (.malformed (.wrongLength header.length raw.length))
      else if header.length % 4 ≠ 0 then .error (.malformed (.unaligned header.length))
      else
        match Avp.readAll Header.size (raw.drop Header.size) with
        | .error e => .error e
        | .ok avps => .ok ⟨header, avps, raw⟩ := by
  unfold Message.read
  cases Header.read raw with
  | error e => rfl
  | ok header =>
    simp only [bind, Except.bind, pure, Except.pure]
    by_cases hlength : header.length ≠ raw.length
    · rw [if_pos hlength, if_pos hlength]
      rfl
    · rw [if_neg hlength, if_neg hlength]
      by_cases haligned : header.length % 4 ≠ 0
      · rw [if_pos haligned, if_pos haligned]
        rfl
      · rw [if_neg haligned, if_neg haligned]
        cases Avp.readAll Header.size (raw.drop Header.size) <;> rfl

/-- A message is read exactly from a frame that is spelled. -/
theorem read_eq_ok_iff {raw : Octets} {m : Message} :
    Message.read raw = .ok m ↔ ∃ spellings, Spelled raw spellings ∧ m = ofSpelled raw spellings := by
  rw [read_eq]
  constructor
  · intro h
    cases hheader : Header.read raw with
    | error e => simp only [hheader, reduceCtorEq] at h
    | ok header =>
      simp only [hheader] at h
      obtain ⟨hsize, hversion, rfl⟩ := Header.read_eq_ok_iff.mp hheader
      split_ifs at h with hlength haligned
      rw [not_not] at hlength haligned
      rw [hlength] at haligned
      have hrest : (raw.drop Header.size).length % 4 = 0 := by
        rw [List.length_drop, Header.size]
        omega
      cases havps : Avp.readAll Header.size (raw.drop Header.size) with
      | error e => simp only [havps, reduceCtorEq] at h
      | ok avps =>
        simp only [havps, Except.ok.injEq] at h
        obtain ⟨ss, rfl, hbody⟩ := Avp.Spelling.exists_of_readAll havps hrest
        exact ⟨ss, ⟨hsize, hversion, hlength, haligned, hbody⟩, h.symm⟩
  · rintro ⟨ss, hs, rfl⟩
    have hheader : Header.read raw = .ok (.ofOctets raw) :=
      Header.read_eq_ok_iff.mpr ⟨hs.header, hs.version, rfl⟩
    have hlength : (Header.ofOctets raw).length = raw.length := hs.length
    have hread := Avp.Spelling.readAll_flatMap ss Header.size
    rw [← hs.body] at hread
    rw [hheader, hread]
    dsimp only
    rw [hlength, if_neg (not_not.mpr rfl), if_neg (not_not.mpr hs.aligned), ofSpelled]

/-- A frame is spelled in one way only. -/
theorem Spelled.unique {raw : Octets} {ss ts : List Avp.Spelling} (hs : Spelled raw ss)
    (ht : Spelled raw ts) : ss = ts :=
  Avp.Spelling.flatMap_octets_inj (hs.body.symm.trans ht.body)

/-- Writing the message that a spelled frame holds gives the frame with blank padding. -/
theorem Spelled.rewritten {raw : Octets} {ss : List Avp.Spelling} (h : Spelled raw ss) :
    (ofSpelled raw ss).header.write ++ (ofSpelled raw ss).avps.flatMap Avp.write =
      raw.take Header.size ++ ss.flatMap Avp.Spelling.blanked := by
  have hbody : (ss.map Avp.Spelling.avp).flatMap Avp.write = ss.flatMap Avp.Spelling.blanked := by
    rw [List.flatMap_map]
    simp only [Avp.Spelling.write_avp]
  rw [ofSpelled, Header.write_ofOctets h.header, hbody]

/-- A frame is read exactly if it keeps to the wire grammar. The message that is read holds the
AVPs of the only sequence of spellings that fills the frame behind its header, each of which
takes up the size of its AVP, and writing it blanks the padding and changes nothing else. -/
theorem reads_exactly_the_grammar (raw : Octets) :
    ((∃ m, Message.read raw = .ok m) ↔ ∃ spellings, Spelled raw spellings) ∧
    ∀ m, Message.read raw = .ok m → ∃ spellings,
      (Spelled raw spellings ∧ ∀ others, Spelled raw others → others = spellings) ∧
      m.raw = raw ∧
      m.avps = spellings.map Avp.Spelling.avp ∧
      m.avps.map Avp.size = spellings.map (fun s => s.octets.length) ∧
      m.header.write ++ m.avps.flatMap Avp.write =
        raw.take Header.size ++ spellings.flatMap Avp.Spelling.blanked := by
  refine ⟨⟨?_, ?_⟩, ?_⟩
  · rintro ⟨m, hm⟩
    obtain ⟨ss, hs, -⟩ := read_eq_ok_iff.mp hm
    exact ⟨ss, hs⟩
  · rintro ⟨ss, hs⟩
    exact ⟨_, read_eq_ok_iff.mpr ⟨ss, hs, rfl⟩⟩
  · intro m hm
    obtain ⟨ss, hs, rfl⟩ := read_eq_ok_iff.mp hm
    refine ⟨ss, ⟨hs, fun others ho => ho.unique hs⟩, rfl, rfl, ?_, hs.rewritten⟩
    rw [ofSpelled, List.map_map]
    exact List.map_congr_left fun s _ => s.length_octets.symm

/-- A request with one AVP of nine octets, behind which three octets of padding are not zero. -/
def scribbled : Octets :=
  [1, 0, 0, 32, 128, 0, 1, 24, 0, 0, 0, 0, 0, 0, 0, 7, 0, 0, 0, 9] ++
    [0, 0, 1, 8, 64, 0, 0, 9, 97, 255, 254, 253]

/-- The message in that frame. -/
def scribbledMessage : Message :=
  ⟨⟨1, 32, 128, 280, 0, 7, 9⟩, [⟨264, 64, none, [97]⟩], scribbled⟩

/-- Writing the message of a frame with scribbled padding blanks three octets. -/
theorem reads_scribbled :
    Message.read scribbled = .ok scribbledMessage ∧ ∃ spellings,
      (Spelled scribbled spellings ∧ ∀ others, Spelled scribbled others → others = spellings) ∧
      scribbledMessage.raw = scribbled ∧
      scribbledMessage.avps = spellings.map Avp.Spelling.avp ∧
      scribbledMessage.avps.map Avp.size = spellings.map (fun s => s.octets.length) ∧
      scribbledMessage.header.write ++ scribbledMessage.avps.flatMap Avp.write =
        scribbled.take Header.size ++ spellings.flatMap Avp.Spelling.blanked :=
  have hread : Message.read scribbled = .ok scribbledMessage := by cbv
  ⟨hread, (reads_exactly_the_grammar scribbled).2 scribbledMessage hread⟩

end Message

end Diameter
