import Diameter.Proofs.Frame.Cutting
import Diameter.Proofs.Message.Blame

/-!
# The reader of frames and the reader of messages agree

The version and the length of a message are looked at twice, by the reader that cuts it out of
the stream and by the one that takes it apart. Main statement: whatever the stream, a frame that
the first one returns has a header that the second one accepts, so only a length that is no
multiple of four or an AVP can be wrong with it; and a message that the second one accepts is cut
out of every stream that starts with it, whole and with nothing behind it, however it arrives.
-/

namespace Diameter

/-! ## Causes that an AVP gives -/

/-- A malformation of an AVP, and not of the header. -/
inductive Malformation.InAvp : Malformation → Prop where
  /-- Its header is cut off. -/
  | truncatedAvp (offset : Nat) : InAvp (.truncatedAvp offset)
  /-- Its vendor is cut off. -/
  | truncatedVendor (code : UInt32) : InAvp (.truncatedVendor code)
  /-- Its length leaves no room for its header. -/
  | shortAvp (code : UInt32) (length : Nat) : InAvp (.shortAvp code length)
  /-- Its length reaches beyond the frame. -/
  | overrun (code : UInt32) (length : Nat) : InAvp (.overrun code length)

/-- What cannot be read as an AVP has one of the four faults of an AVP. Only the length of the
header depends on the vendor. -/
theorem Avp.inAvp_of_read {offset : Nat} {rest : Octets} {e : MessageError}
    (h : Avp.read offset rest = .error e) : ∃ cause, cause.InAvp ∧ e = .malformed cause := by
  unfold Avp.read at h
  dsimp only at h
  generalize (if UInt8.ofNat (Octets.word rest 4 1) &&& vendorFlag ≠ 0 then
    some (UInt32.ofNat (Octets.word rest 8 4)) else none) = vendorId at h
  split_ifs at h
  · exact ⟨_, .truncatedAvp _, (Except.error.inj h).symm⟩
  · exact ⟨_, .truncatedVendor _, (Except.error.inj h).symm⟩
  · exact ⟨_, .shortAvp _ _, (Except.error.inj h).symm⟩
  · exact ⟨_, .overrun _ _, (Except.error.inj h).symm⟩

/-- A run of AVPs is refused for a fault of one of them. -/
theorem Avp.inAvp_of_readAll {offset : Nat} {rest : Octets} {e : MessageError}
    (h : Avp.readAll offset rest = .error e) : ∃ cause, cause.InAvp ∧ e = .malformed cause := by
  induction offset, rest using Avp.readAll.induct with
  | case1 offset =>
    rw [readAll, if_pos rfl] at h
    cases h
  | case2 offset rest hne error hread =>
    rw [readAll, if_neg hne, hread] at h
    obtain rfl := Except.error.inj h
    exact inAvp_of_read hread
  | case3 offset rest hne avp hread error hrest ih =>
    rw [readAll, if_neg hne, hread] at h
    dsimp only at h
    rw [hrest] at h
    obtain rfl := Except.error.inj h
    exact ih hrest
  | case4 offset rest hne avp hread avps hrest ih =>
    rw [readAll, if_neg hne, hread] at h
    dsimp only at h
    rw [hrest] at h
    cases h

/-! ## What is taken from the signals -/

namespace Signals

variable {patience : Patience}

/-- What is taken has the length that was asked for, and is where the octets begin. -/
theorem takeExactly_ok {need : Nat} {signals rest : List Signal} {bs : Octets}
    (h : takeExactly patience need signals = (.ok bs, rest)) :
    bs.length = need ∧ signals.filterMap octet? = bs ++ rest.filterMap octet? := by
  induction need, signals using takeExactly.induct patience generalizing bs rest with
  | case1 signals =>
    rw [takeExactly] at h
    cases h
    exact ⟨rfl, rfl⟩
  | case2 need | case3 need after =>
    rw [takeExactly] at h
    cases h
  | case4 need error after hrepeated ih =>
    rw [takeExactly, if_pos hrepeated] at h
    exact ih h
  | case5 need error after hkind =>
    rw [takeExactly, if_neg hkind] at h
    cases h
  | case6 need b after more left htaken ih =>
    simp only [takeExactly, htaken] at h
    cases h
    obtain ⟨hlength, hoctets⟩ := ih htaken
    exact ⟨congrArg (· + 1) hlength, congrArg (b :: ·) hoctets⟩
  | case7 need b after error left hfailed ih =>
    simp only [takeExactly, hfailed] at h
    cases h

/-- The start of a frame is four octets, with which the octets begin. -/
theorem takeHead_ok {signals rest : List Signal} {head : Octets}
    (h : takeHead patience signals = (.ok head, rest)) :
    head.length = Frame.headSize ∧ signals.filterMap octet? = head ++ rest.filterMap octet? := by
  unfold takeHead at h
  split at h
  · cases h
  · cases h
  · cases h
  · next b after =>
    rcases htaken : takeExactly patience Frame.headSize (.octet b :: after) with ⟨result, left⟩
    rw [htaken] at h
    cases result with
    | error e => cases h
    | ok taken =>
      cases h
      exact takeExactly_ok htaken

end Signals

namespace Frame

variable {patience : Patience} {most : Nat}

/-- A start of four octets is accepted only if a frame may start with it, and tells its length. -/
theorem opens_of_length {head : Octets} {size : Nat} (hhead : head.length = headSize)
    (h : length head most = .ok size) : Opens most head ∧ Octets.word head 1 3 = size := by
  have hwhole : head.take headSize = head := List.take_of_length_le (Nat.le_of_eq hhead)
  have hne : head ≠ [] := by
    rintro rfl
    exact absurd hhead (by decide)
  rcases opens_or_refuses most hne with hopens | ⟨fault, hrefuses⟩
  · have haccepted := hopens.length_head
    rw [hwhole, h] at haccepted
    exact ⟨hopens, (Except.ok.inj haccepted).symm⟩
  · have hrefused := hrefuses.length_head
    rw [hwhole, h] at hrefused
    cases hrefused

/-- What is taken as a frame is one, and is where the octets begin. -/
theorem isFrame_of_takeFrame {signals rest : List Signal} {frame : Octets}
    (h : Signals.takeFrame patience most signals = (.ok frame, rest)) :
    IsFrame most frame ∧
      signals.filterMap Signals.octet? = frame ++ rest.filterMap Signals.octet? := by
  unfold Signals.takeFrame at h
  rcases hhead : Signals.takeHead patience signals with ⟨result, afterHead⟩
  rw [hhead] at h
  cases result with
  | error e => cases h
  | ok head =>
    obtain ⟨hheadLength, hheadOctets⟩ := Signals.takeHead_ok hhead
    cases hsize : length head most with
    | error e =>
      simp only [hsize, Prod.mk.injEq, reduceCtorEq, false_and] at h
    | ok size =>
      obtain ⟨hopens, hword⟩ := opens_of_length hheadLength hsize
      rcases hbody : Signals.takeExactly patience (size - headSize) afterHead with
        ⟨result, afterBody⟩
      simp only [hsize, hbody] at h
      cases result with
      | error e => cases h
      | ok body =>
        cases h
        obtain ⟨hbodyLength, hbodyOctets⟩ := Signals.takeExactly_ok hbody
        have hlast : Octets.word (head ++ body) 1 3 = size :=
          (word_append_of_head (Nat.le_of_eq hheadLength.symm) body).trans hword
        have hroom : headSize ≤ size := by
          have henough := hopens.enough
          have hlonger : headSize ≤ Header.size := by decide
          omega
        have hversion : (head ++ body).head? = some protocolVersion := by
          rw [List.head?_append, hopens.version, Option.some_or]
        refine ⟨⟨⟨hversion, ?_, ?_⟩, ?_⟩, ?_⟩
        · rw [hlast, ← hword]
          exact hopens.enough
        · rw [hlast, ← hword]
          exact hopens.fits
        · rw [hlast, List.length_append, hheadLength, hbodyLength, Nat.add_sub_cancel' hroom]
        · rw [hheadOctets, hbodyOctets, List.append_assoc]

/-- What is read as a frame is one, and is where the octets of the stream begin. -/
theorem isFrame_of_read {stream : Deliveries} {frame : Octets}
    (h : (read patience most stream).1 = .ok frame) :
    IsFrame most frame ∧ stream.unread = frame ++ (read patience most stream).2.unread := by
  have htaken := read_signals patience most stream
  rw [h] at htaken
  have hframe := isFrame_of_takeFrame htaken
  rwa [Deliveries.filterMap_signals, Deliveries.filterMap_signals] at hframe

/-! ## The header of a frame -/

/-- A frame is long enough for a header. -/
theorem IsFrame.size_le {frame : Octets} (h : IsFrame most frame) : Header.size ≤ frame.length := by
  rw [← h.length]
  exact h.enough

/-- The header of a frame is accepted. -/
theorem IsFrame.readHeader {frame : Octets} (h : IsFrame most frame) :
    Header.read frame = .ok (.ofOctets frame) :=
  Header.read_eq_ok_iff.mpr ⟨h.size_le, h.version, rfl⟩

/-- A header that is read has the version in use. -/
theorem IsFrame.version_ofOctets {frame : Octets} (h : IsFrame most frame) :
    (Header.ofOctets frame).version = protocolVersion := by
  have hversion := h.version
  rw [Header.head?_eq_version h.size_le, Option.some.injEq] at hversion
  exact hversion

/-- All that is left to look at in a frame is its alignment and its AVPs. -/
theorem IsFrame.parseFrame_eq {frame : Octets} (h : IsFrame most frame) :
    Codec.parseFrame frame =
      if frame.length % 4 ≠ 0 then .error (.malformed (.unaligned frame.length))
      else
        match Avp.readAll Header.size (frame.drop Header.size) with
        | .error e => .error e
        | .ok avps => .ok ⟨.ofOctets frame, avps, frame⟩ := by
  have hlength : (Header.ofOctets frame).length = frame.length := h.length
  rw [Codec.parseFrame, if_pos ((Octets.holds_iff _ _).mpr h.size_le), Message.read_eq,
    h.readHeader]
  dsimp only
  rw [hlength]
  exact (if_neg (not_not.mpr rfl)).trans rfl

/-- A frame is refused for its alignment or for an AVP. -/
theorem IsFrame.parseFrame_error {frame : Octets} {e : MessageError} (h : IsFrame most frame)
    (he : Codec.parseFrame frame = .error e) :
    (frame.length % 4 ≠ 0 ∧ e = .malformed (.unaligned frame.length)) ∨
    (frame.length % 4 = 0 ∧ Avp.readAll Header.size (frame.drop Header.size) = .error e) := by
  rw [h.parseFrame_eq] at he
  split_ifs at he with haligned
  · exact .inl ⟨haligned, (Except.error.inj he).symm⟩
  · refine .inr ⟨not_not.mp haligned, ?_⟩
    split at he
    · next error hall => rw [hall, Except.error.inj he]
    · cases he

/-! ## The frame of a message -/

/-- The octets of a message are a frame, if the reader takes so many. -/
theorem isFrame_of_readMessage {f : Octets} {m : Message} (h : Message.read f = .ok m)
    (hmost : f.length ≤ most) : IsFrame most f := by
  obtain ⟨spellings, hs, -⟩ := Message.read_eq_ok_iff.mp h
  exact ⟨⟨hs.version, hs.length.symm ▸ hs.header, hs.length.symm ▸ hmost⟩, hs.length⟩

/-- A frame in pieces, with more behind it, signals its octets first. -/
theorem signals_of_pieces {f more : Octets} {pieces : List Octets} (hne : ∀ p ∈ pieces, p ≠ [])
    (hf : pieces.flatten = f ++ more) (later : Deliveries) :
    Deliveries.signals (pieces.map .octets ++ later) =
      f.map .octet ++ (more.map .octet ++ later.signals) := by
  have hpieces := Deliveries.signals_map_octets hne
  unfold Deliveries.signals at hpieces ⊢
  rw [List.flatMap_append, hpieces, hf, List.map_append, List.append_assoc]

/-- The two readers agree on every input, whichever failing reads the library repeats, if any. A
frame that is read from a stream, however it arrives, is the start of its octets, is long enough
for a header and no longer than allowed, and its header is accepted with the version in use and the
length that the frame has: the parser can refuse it for its alignment or for an AVP and for nothing
else. Octets that are accepted as a message, and are no longer than allowed, are read as one frame
from every stream that starts with them in pieces of any size, and what comes behind them stays
unread. -/
theorem framing_agrees_with_reading (patience : Patience) (most : Nat) :
    (∀ (stream : Deliveries) (frame : Octets), (read patience most stream).1 = .ok frame →
      (Header.size ≤ frame.length ∧ frame.length ≤ most ∧
        stream.unread = frame ++ (read patience most stream).2.unread) ∧
      (∃ header, Header.read frame = .ok header ∧ header.version = protocolVersion ∧
        header.length = frame.length) ∧
      ∀ e, Codec.parseFrame frame = .error e →
        (frame.length % 4 ≠ 0 ∧ e = .malformed (.unaligned frame.length)) ∨
        (frame.length % 4 = 0 ∧ Avp.readAll Header.size (frame.drop Header.size) = .error e ∧
          ∃ cause, cause.InAvp ∧ e = .malformed cause)) ∧
    (∀ (f : Octets) (m : Message), Message.read f = .ok m → f.length ≤ most →
      ∀ (pieces : List Octets) (more : Octets) (later : Deliveries),
        (∀ p ∈ pieces, p ≠ []) → pieces.flatten = f ++ more →
        let stream : Deliveries := pieces.map .octets ++ later
        (read patience most stream).1 = .ok f ∧
        (read patience most stream).2.signals = more.map .octet ++ later.signals ∧
        (read patience most stream).2.unread = more ++ later.unread) := by
  constructor
  · intro stream frame hread
    obtain ⟨hframe, hunread⟩ := isFrame_of_read hread
    have hmost : frame.length ≤ most := hframe.length ▸ hframe.fits
    refine ⟨⟨hframe.size_le, hmost, hunread⟩,
      ⟨_, hframe.readHeader, hframe.version_ofOctets, hframe.length⟩, fun e he => ?_⟩
    rcases hframe.parseFrame_error he with hunaligned | ⟨haligned, havps⟩
    · exact .inl hunaligned
    · exact .inr ⟨haligned, havps, Avp.inAvp_of_readAll havps⟩
  · intro f m hm hmost pieces more later hne hf stream
    have htaken := (isFrame_of_readMessage hm hmost).takeFrame patience
      (more.map .octet ++ later.signals)
    rw [← signals_of_pieces hne hf later, read_signals, Prod.mk.injEq] at htaken
    obtain ⟨hresult, hrest⟩ := htaken
    refine ⟨hresult, hrest, ?_⟩
    rw [← Deliveries.filterMap_signals, hrest, List.filterMap_append, List.filterMap_map,
      Deliveries.filterMap_signals]
    exact congrArg (· ++ later.unread) List.filterMap_some

/-- A frame of 22 octets, whose header is in order. -/
def unalignedFrame : Octets := [1, 0, 0, 22] ++ List.replicate 18 0

/-- A header alone is a message. It is read from pieces with half a frame and a failure behind
it. A frame of 22 octets is read as well, and the parser refuses its length. -/
theorem bare_and_unaligned_frames_are_read :
    (Message.read bareFrame = .ok ⟨.ofOctets bareFrame, [], bareFrame⟩ ∧
      (read [] 20 ([[1, 0], bareFrame.drop 2 ++ [1], [0, 0]].map .octets ++
        [.failure .earlyEnd])).1 = .ok bareFrame ∧
      (read [] 20 ([[1, 0], bareFrame.drop 2 ++ [1], [0, 0]].map .octets ++
        [.failure .earlyEnd])).2.unread = [1, 0, 0]) ∧
    (read [] 22 [.octets unalignedFrame]).1 = .ok unalignedFrame ∧
    (∃ header, Header.read unalignedFrame = .ok header ∧ header.version = protocolVersion ∧
      header.length = unalignedFrame.length) ∧
    Codec.parseFrame unalignedFrame = .error (.malformed (.unaligned 22)) := by
  have hbare : Message.read bareFrame = .ok ⟨.ofOctets bareFrame, [], bareFrame⟩ := by cbv
  have hpieces : ∀ p ∈ [[1, 0], bareFrame.drop 2 ++ [1], [0, 0]], p ≠ [] := by decide
  have hunaligned : (read [] 22 [.octets unalignedFrame]).1 = .ok unalignedFrame := by cbv
  have hparsed : Codec.parseFrame unalignedFrame = .error (.malformed (.unaligned 22)) := by cbv
  obtain ⟨hresult, -, hunread⟩ :=
    (framing_agrees_with_reading [] 20).2 bareFrame _ hbare (by decide)
    [[1, 0], bareFrame.drop 2 ++ [1], [0, 0]] [1, 0, 0] [.failure .earlyEnd] hpieces rfl
  obtain ⟨-, hheader, -⟩ :=
    (framing_agrees_with_reading [] 22).1 [.octets unalignedFrame] unalignedFrame hunaligned
  exact ⟨⟨hbare, hresult, hunread⟩, hunaligned, hheader, hparsed⟩

end Frame

end Diameter
