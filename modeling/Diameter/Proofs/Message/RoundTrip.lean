import Diameter.Proofs.Message.Grammar
import Mathlib.Algebra.Group.Nat.Defs

/-!
# Drafts are read back

A draft that is written in fewer than 2 ^ 24 octets is read back as what it is, but for the high
octet of its command. A longer one declares a length that it does not have, so it is refused
and never taken for another message.
-/

namespace Diameter

/-! ## Values -/

namespace Address

theorem length_octets (address : Address) :
    address.octets.length = if address.isV4 then 4 else 16 := by
  cases address with
  | v4 a b c d => rfl
  | v6 groups =>
    rw [octets, length_groupOctets, Vector.length_toList]
    rfl

/-- An address is read back from its octets. -/
theorem ofOctets?_octets (address : Address) : ofOctets? address.octets = some address := by
  cases address with
  | v4 a b c d => rfl
  | v6 groups =>
    have hlength : (v6 groups).octets.length = 16 := length_octets (v6 groups)
    have hgroups : groupsOfOctets (v6 groups).octets = groups.toList :=
      groupsOfOctets_groupOctets groups.toList
    unfold ofOctets?
    split
    case h_1 a b c d ho =>
      rw [ho] at hlength
      cases hlength
    case h_2 =>
      rw [if_pos hlength, hgroups, ofGroups?, dif_pos (Vector.length_toList ..)]
      rfl

/-- Octets that come in pairs are read back from their groups. -/
theorem groupOctets_groupsOfOctets {bs : Octets} (h : bs.length % 2 = 0) :
    groupOctets (groupsOfOctets bs) = bs := by
  induction bs using groupsOfOctets.induct with
  | case1 high low rest ih =>
    have hhigh : high.toNat < 256 := high.toNat_lt
    have hlow : low.toNat < 256 := low.toNat_lt
    have hgroup : (256 * high.toNat + low.toNat) % 65536 = 256 * high.toNat + low.toNat := by omega
    have hrest : rest.length % 2 = 0 := by
      rw [List.length_cons, List.length_cons] at h
      omega
    have hfirst : UInt8.ofNat ((256 * high.toNat + low.toNat) / 256) = high := by
      rw [Nat.mul_add_div (by decide), Nat.div_eq_of_lt hlow, Nat.add_zero, UInt8.ofNat_toNat]
    have hsecond : UInt8.ofNat (256 * high.toNat + low.toNat) = low := by
      apply UInt8.toNat.inj
      rw [UInt8.toNat_ofNat']
      omega
    rw [groupsOfOctets, groupOctets, UInt16.toNat_ofNat', hgroup, hfirst, hsecond, ih hrest]
  | case2 bs hshort =>
    cases bs with
    | nil => rfl
    | cons high rest =>
      cases rest with
      | nil => cases h
      | cons low rest => exact absurd rfl (hshort high low rest)

/-- An address is read exactly from its octets. -/
theorem ofOctets?_eq_some_iff {bs : Octets} {address : Address} :
    ofOctets? bs = some address ↔ bs = address.octets := by
  constructor
  · intro h
    unfold ofOctets? at h
    split at h
    · rw [← Option.some.inj h]
      rfl
    · split_ifs at h with hlength
      unfold ofGroups? at h
      split_ifs at h
      rw [← Option.some.inj h]
      exact (groupOctets_groupsOfOctets (by omega)).symm
  · rintro rfl
    exact ofOctets?_octets address

end Address

/-- A text is read exactly from its octets. -/
theorem Octets.text?_eq_some_iff {bs : Octets} {text : String} :
    text? bs = some text ↔ bs = ofText text := by
  constructor
  · intro h
    unfold text? String.fromUTF8? at h
    split_ifs at h
    rw [← Option.some.inj h]
    rfl
  · rintro rfl
    exact text?_ofText text

namespace Avp

/-- A text that is put into an AVP is read from it. -/
theorem text?_ofText (code : UInt32) (value : String) : (ofText code value).text? = some value :=
  Octets.text?_ofText value

theorem number?_ofNumber (code value : UInt32) : (ofNumber code value).number? = some value := by
  rw [number?, ofNumber, ofData, if_pos (Octets.length_ofNat ..), Octets.ofNat_toNat_ofNat_toNat]

theorem address?_ofAddress (code : UInt32) (value : Address) :
    (ofAddress code value).address? = some value := by
  have hfamily : (ofAddress code value).data.take 2 = Octets.ofNat 2 (familyOf value) := by
    exact List.take_left' (Octets.length_ofNat ..)
  have hoctets : (ofAddress code value).data.drop 2 = value.octets := by
    exact List.drop_left' (Octets.length_ofNat ..)
  have hsmall : familyOf value % Octets.span 2 = familyOf value := by
    unfold familyOf
    split <;> rfl
  rw [address?, hfamily, hoctets, Address.ofOctets?_octets]
  dsimp only
  rw [Octets.toNat_ofNat, hsmall, if_pos rfl]

/-- An AVP has an address as its value exactly if it has the octets of one behind the number of
its family. -/
theorem address?_eq_some_iff {a : Avp} {address : Address} : a.address? = some address ↔
    a.data = Octets.ofNat 2 (familyOf address) ++ address.octets := by
  constructor
  · intro h
    unfold address? at h
    split at h
    · next found hfound =>
      split_ifs at h with hfamily
      obtain rfl := Option.some.inj h
      have hoctets := Address.ofOctets?_eq_some_iff.mp hfound
      have htwo : (a.data.take 2).length = 2 := by
        have hlength := congrArg List.length hoctets
        rw [List.length_drop, Address.length_octets] at hlength
        rw [List.length_take]
        split_ifs at hlength <;> omega
      have hwritten := Octets.ofNat_toNat (a.data.take 2)
      rw [htwo, hfamily] at hwritten
      rw [hwritten, ← hoctets, List.take_append_drop]
    · cases h
  · intro h
    have hread := address?_ofAddress a.code address
    rw [address?, ofAddress, ofData, ← h] at hread
    rw [address?]
    exact hread

/-! ## Spellings of AVPs that are written -/

/-- An AVP names its vendor exactly if its flags say so. -/
def Consistent (a : Avp) : Prop := a.flags &&& vendorFlag ≠ 0 ↔ a.vendorId.isSome

/-- The octets of a vendor, if there is one. -/
def vendorOctets : Option UInt32 → Octets
  | some vendor => Octets.ofNat 4 vendor.toNat
  | none => []

/-- A header is eight octets long, and those of the vendor. -/
theorem headerLength_eq (vendorId : Option UInt32) :
    headerLength vendorId = 8 + (vendorOctets vendorId).length := by
  cases vendorId with
  | none => rfl
  | some vendor => rw [vendorOctets, Octets.length_ofNat]; rfl

/-- Where the flags fit the vendor, they tell how many octets it takes. -/
theorem Consistent.length_vendorOctets {a : Avp} (h : a.Consistent) :
    (vendorOctets a.vendorId).length = vendorWidth a.flags := by
  unfold Consistent at h
  unfold vendorWidth
  cases hv : a.vendorId with
  | none => simp [vendorOctets, h, hv]
  | some vendor => simp [vendorOctets, h, hv]

/-- The vendor is read back from its octets. -/
theorem Consistent.vendorId_eq {a : Avp} (h : a.Consistent) :
    (if a.flags &&& vendorFlag ≠ 0 then
      some (UInt32.ofNat (Octets.toNat (vendorOctets a.vendorId))) else none) = a.vendorId := by
  unfold Consistent at h
  cases hv : a.vendorId with
  | none => simp [h, hv]
  | some vendor => simp [vendorOctets, h, hv, Octets.ofNat_toNat_ofNat_toNat]

namespace Spelling

theorem length_codeOctets (a : Avp) : (Octets.ofNat 4 a.code.toNat).length = 4 :=
  Octets.length_ofNat ..

theorem length_lengthOctets (a : Avp) : (Octets.ofNat 3 a.length).length = 3 :=
  Octets.length_ofNat ..

/-- A length that fits into 24 bits is read back. -/
theorem toNat_lengthOctets (a : Avp) (hl : a.length < 2 ^ 24) :
    Octets.toNat (Octets.ofNat 3 a.length) =
      8 + (vendorOctets a.vendorId).length + a.data.length := by
  rw [Octets.toNat_ofNat, Avp.length, ← headerLength_eq]
  exact Nat.mod_eq_of_lt hl

/-- The zeros that fill up the last four octets of an AVP. -/
def zeros (a : Avp) : Octets := List.replicate (Octets.padded a.length - a.length) 0

/-- Less than four octets are filled up. -/
theorem length_zeros_lt (a : Avp) : (zeros a).length < 4 := by
  have hlt := Octets.padded_lt a.length
  rw [zeros, List.length_replicate]
  omega

/-- The octets that are filled up lead to a multiple of four. -/
theorem aligned_zeros (a : Avp) :
    (8 + (vendorOctets a.vendorId).length + a.data.length + (zeros a).length) % 4 = 0 := by
  have hle := Octets.le_padded a.length
  rw [zeros, List.length_replicate, ← headerLength_eq, ← Avp.length, Nat.add_sub_cancel' hle,
    Octets.padded]
  omega

/-- The spelling of an AVP with zeros for padding. -/
def ofAvp (a : Avp) (hc : a.Consistent) (hl : a.length < 2 ^ 24) : Spelling where
  code := Octets.ofNat 4 a.code.toNat
  flags := a.flags
  length := Octets.ofNat 3 a.length
  vendor := vendorOctets a.vendorId
  data := a.data
  padding := zeros a
  code_size := length_codeOctets a
  length_size := length_lengthOctets a
  vendor_size := hc.length_vendorOctets
  length_counts := toNat_lengthOctets a hl
  padding_lt := length_zeros_lt a
  aligned := aligned_zeros a

/-- The spelling of an AVP that fits spells this AVP. -/
theorem avp_ofAvp {a : Avp} (hc : a.Consistent) (hl : a.length < 2 ^ 24) :
    (ofAvp a hc hl).avp = a := by
  have hcode : (ofAvp a hc hl).avp.code = a.code := Octets.ofNat_toNat_ofNat_toNat a.code
  have hvendor : (ofAvp a hc hl).avp.vendorId = a.vendorId := hc.vendorId_eq
  calc (ofAvp a hc hl).avp
      = ⟨(ofAvp a hc hl).avp.code, a.flags, (ofAvp a hc hl).avp.vendorId, a.data⟩ := rfl
    _ = a := by rw [hcode, hvendor]

/-- An AVP is written as it is spelled with zeros for padding. -/
theorem octets_ofAvp {a : Avp} (hc : a.Consistent) (hl : a.length < 2 ^ 24) :
    (ofAvp a hc hl).octets = a.write := by
  have hblank : (ofAvp a hc hl).padding = List.replicate (ofAvp a hc hl).padding.length 0 := by
    exact congrArg (List.replicate · 0) (List.length_replicate ..).symm
  have hwrite := (ofAvp a hc hl).write_avp
  rw [avp_ofAvp] at hwrite
  rw [hwrite, blanked, ← hblank, octets]

end Spelling

end Avp

/-! ## Headers that are written -/

namespace Header

/-- Headers that are written alike differ at most in what 24 bits do not hold. -/
theorem eq_of_write_eq {g h : Header} (e : g.write = h.write) :
    g.length % 2 ^ 24 = h.length % 2 ^ 24 ∧
    g.commandCode.toNat % 2 ^ 24 = h.commandCode.toNat % 2 ^ 24 ∧
    g = { h with length := g.length, commandCode := g.commandCode } := by
  simp only [write, List.append_assoc, List.cons_append] at e
  obtain ⟨hversion, e⟩ := List.cons.inj e
  obtain ⟨hlength, e⟩ := List.append_inj e (by simp only [Octets.length_ofNat])
  obtain ⟨hflags, e⟩ := List.cons.inj e
  obtain ⟨hcommand, e⟩ := List.append_inj e (by simp only [Octets.length_ofNat])
  obtain ⟨happlication, e⟩ := List.append_inj e (by simp only [Octets.length_ofNat])
  obtain ⟨hhopByHop, hendToEnd⟩ := List.append_inj e (by simp only [Octets.length_ofNat])
  refine ⟨Octets.mod_eq_of_ofNat_eq hlength, Octets.mod_eq_of_ofNat_eq hcommand, ?_⟩
  cases g
  cases h
  simp only [mk.injEq] at *
  exact ⟨hversion, trivial, hflags, trivial, Octets.eq_of_ofNat_toNat_eq happlication,
    Octets.eq_of_ofNat_toNat_eq hhopByHop, Octets.eq_of_ofNat_toNat_eq hendToEnd⟩

/-- A header is read back but for what 24 bits do not hold. -/
theorem ofOctets_write_append (h : Header) (rest : Octets) :
    ofOctets (h.write ++ rest) =
      { h with length := h.length % 2 ^ 24, commandCode := .ofNat (h.commandCode.toNat % 2 ^ 24) } := by
  have hsize : size ≤ (h.write ++ rest).length := by
    rw [List.length_append, length_write]
    exact Nat.le_add_right ..
  have hwrite : (ofOctets (h.write ++ rest)).write = h.write := by
    rw [write_ofOctets hsize, ← length_write h, List.take_left]
  obtain ⟨hlength, hcommand, hrest⟩ := eq_of_write_eq hwrite
  have hl : (ofOctets (h.write ++ rest)).length < 2 ^ 24 :=
    Octets.word_lt (by unfold size at hsize; omega)
  have hc : (ofOctets (h.write ++ rest)).commandCode.toNat < 2 ^ 24 := by
    have hword : Octets.word (h.write ++ rest) 5 3 < 2 ^ 24 :=
      Octets.word_lt (by unfold size at hsize; omega)
    rw [ofOctets, UInt32.toNat_ofNat']
    exact Nat.lt_of_le_of_lt (Nat.mod_le ..) hword
  rw [Nat.mod_eq_of_lt hl] at hlength
  rw [Nat.mod_eq_of_lt hc] at hcommand
  rw [hrest, hlength, ← hcommand, UInt32.ofNat_toNat]

end Header

/-! ## Drafts -/

namespace Avp

/-- The header of an AVP is as long as its vendor makes it. -/
theorem length_writeHeader (a : Avp) : a.writeHeader.length = headerLength a.vendorId := by
  unfold writeHeader headerLength
  cases a.vendorId <;> simp

/-- An AVP takes up its size. -/
theorem length_write (a : Avp) : a.write.length = a.size := by
  have hle : a.length ≤ a.size := Octets.le_padded a.length
  rw [write, List.length_append, List.length_append, length_writeHeader, List.length_replicate,
    ← Avp.length, Nat.add_sub_cancel' hle]

end Avp

namespace Draft

/-- All AVPs name a vendor exactly if their flags say so. -/
def Consistent (d : Draft) : Prop := ∀ a ∈ d.avps, a.Consistent

/-- The sizes of AVPs add up to what is written for them. -/
theorem foldr_size (avps : List Avp) :
    avps.foldr (fun a n => a.size + n) 0 = (avps.flatMap Avp.write).length := by
  induction avps with
  | nil => rfl
  | cons a avps ih =>
    rw [List.foldr_cons, ih, List.flatMap_cons, List.length_append, Avp.length_write]

/-- A draft takes up its size. -/
theorem length_write (d : Draft) : d.write.length = d.size := by
  rw [write, List.length_append, Header.length_write, size, foldr_size]

/-- AVPs that are short enough are written as spellings of them. -/
theorem exists_spellings {avps : List Avp} (h : ∀ a ∈ avps, a.Consistent ∧ a.length < 2 ^ 24) :
    ∃ ss : List Avp.Spelling, ss.map Avp.Spelling.avp = avps ∧
      ss.flatMap Avp.Spelling.octets = avps.flatMap Avp.write := by
  induction avps with
  | nil => exact ⟨[], rfl, rfl⟩
  | cons a avps ih =>
    obtain ⟨hc, hl⟩ := h a List.mem_cons_self
    obtain ⟨ss, hmap, hflat⟩ := ih fun b hb => h b (List.mem_cons_of_mem a hb)
    refine ⟨.ofAvp a hc hl :: ss, ?_, ?_⟩
    · rw [List.map_cons, Avp.Spelling.avp_ofAvp, hmap]
    · rw [List.flatMap_cons, List.flatMap_cons, Avp.Spelling.octets_ofAvp, hflat]

/-- No AVP of a draft is longer than the draft. -/
theorem length_le_size {d : Draft} {a : Avp} (ha : a ∈ d.avps) : a.length ≤ d.size := by
  obtain ⟨before, after, hsplit⟩ := List.append_of_mem ha
  have hle : a.length ≤ a.size := Octets.le_padded a.length
  rw [size, foldr_size, hsplit, List.flatMap_append, List.flatMap_cons, List.length_append,
    List.length_append, Avp.length_write]
  omega

/-- The size of a draft is a multiple of four. -/
theorem size_mod_four (d : Draft) : d.size % 4 = 0 := by
  have havps : ∀ avps : List Avp, avps.foldr (fun a n => a.size + n) 0 % 4 = 0 := by
    intro avps
    induction avps with
    | nil => rfl
    | cons a avps ih =>
      rw [List.foldr_cons, Avp.size, Octets.padded]
      omega
  have ha := havps d.avps
  rw [size, Header.size]
  omega

/-- The header of a written draft. -/
theorem ofOctets_write (d : Draft) : Header.ofOctets d.write =
    { d.header with length := d.size % 2 ^ 24,
                    commandCode := .ofNat (d.commandCode.toNat % 2 ^ 24) } :=
  Header.ofOctets_write_append d.header (d.avps.flatMap Avp.write)

/-- What is written has at least a header. -/
theorem size_le_length_write (d : Draft) : Header.size ≤ d.write.length := by
  rw [length_write, size]
  exact Nat.le_add_right ..

/-- What is written starts with the version. -/
theorem head?_write (d : Draft) : d.write.head? = some protocolVersion := by
  rw [Header.head?_eq_version d.size_le_length_write, ofOctets_write]
  rfl

/-- A draft that is not too long is read back. Only the low octets of its command are sent. -/
theorem read_write {d : Draft} (hc : d.Consistent) (hl : d.size < 2 ^ 24) :
    Message.read d.write = .ok ⟨
      { d.header with commandCode := .ofNat (d.commandCode.toNat % 2 ^ 24) }, d.avps, d.write⟩ := by
  have havps : ∀ a ∈ d.avps, a.Consistent ∧ a.length < 2 ^ 24 := fun a ha =>
    ⟨hc a ha, Nat.lt_of_le_of_lt (length_le_size ha) hl⟩
  obtain ⟨ss, hmap, hflat⟩ := exists_spellings havps
  have hheader := d.ofOctets_write
  rw [Nat.mod_eq_of_lt hl] at hheader
  have hdrop : d.write.drop Header.size = d.avps.flatMap Avp.write := by
    rw [write, ← Header.length_write d.header, List.drop_left]
  have hspelled : Message.Spelled d.write ss :=
    { header := d.size_le_length_write
      version := d.head?_write
      length := by
        rw [length_write]
        exact congrArg Header.length hheader
      aligned := by rw [length_write, size_mod_four]
      body := hdrop.trans hflat.symm }
  refine Message.read_eq_ok_iff.mpr ⟨ss, hspelled, ?_⟩
  rw [Message.ofSpelled, hheader, hmap]
  rfl

/-- A draft that is too long is refused. -/
theorem read_write_of_le {d : Draft} (hl : 2 ^ 24 ≤ d.size) :
    Message.read d.write = .error (.malformed (.wrongLength (d.size % 2 ^ 24) d.size)) := by
  have hheader : Header.read d.write = .ok (.ofOctets d.write) :=
    Header.read_eq_ok_iff.mpr ⟨d.size_le_length_write, d.head?_write, rfl⟩
  have hwrong : d.size % 2 ^ 24 ≠ d.size := by
    have hlt := Nat.mod_lt d.size (show 0 < 2 ^ 24 by decide)
    omega
  rw [Message.read_eq, hheader, ofOctets_write, length_write]
  exact if_pos hwrong

end Draft

end Diameter
