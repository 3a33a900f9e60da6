import Diameter.Proofs.Frame.Signals
import Diameter.Proofs.Message.Words

/-!
# Streams are cut into frames

The octets of a stream say where its frames end: each frame declares its own length, and the
next one starts right behind it. Main statement: reads of frames return the pieces of that cut,
each read uses up its own piece and no more, and it makes no difference how the octets are
divided into deliveries.
-/

namespace Diameter

namespace Frame

/-- Octets that go on as a frame may: they start with the version in use and declare a length
that is neither too short nor too long. -/
structure Opens (most : Nat) (bs : Octets) : Prop where
  /-- The version is the one in use. -/
  version : bs.head? = some protocolVersion
  /-- A header fits in. -/
  enough : Header.size ≤ Octets.word bs 1 3
  /-- The reader takes frames of this length. -/
  fits : Octets.word bs 1 3 ≤ most

/-- A frame has the length that it declares. -/
structure IsFrame (most : Nat) (frame : Octets) : Prop extends Opens most frame where
  /-- The declared length. -/
  length : Octets.word frame 1 3 = frame.length

/-- Octets that no frame starts with, and the first thing that is wrong with them. -/
inductive Refuses (most : Nat) (bs : Octets) : FrameFault → Prop where
  /-- Another version. -/
  | version {b : UInt8} (hb : bs.head? = some b) (hv : b ≠ protocolVersion) :
      Refuses most bs (.version b)
  /-- A length that leaves no room for a header. -/
  | short (hv : bs.head? = some protocolVersion) (hs : Octets.word bs 1 3 < Header.size) :
      Refuses most bs (.short (Octets.word bs 1 3))
  /-- A length beyond what the reader takes. -/
  | tooLong (hv : bs.head? = some protocolVersion) (hs : Header.size ≤ Octets.word bs 1 3)
      (hl : most < Octets.word bs 1 3) : Refuses most bs (.tooLong (Octets.word bs 1 3) most)

/-- The frames that octets are cut into, why there are no more, and what is left unread then. -/
inductive Cuts (most : Nat) : Octets → List Octets → ConnectionError → Octets → Prop where
  /-- A frame, and the cut of what follows it. -/
  | frame {f rest left : Octets} {frames : List Octets} {e : ConnectionError}
      (hf : IsFrame most f) (h : Cuts most rest frames e left) :
      Cuts most (f ++ rest) (f :: frames) e left
  /-- The octets end where a frame could start. -/
  | closed : Cuts most [] [] .closed []
  /-- They end inside the first four octets of a frame. -/
  | cutHead {bs : Octets} (hne : bs ≠ []) (h : bs.length < headSize) :
      Cuts most bs [] (.system .earlyEnd) []
  /-- They end later inside a frame. -/
  | cutBody {bs : Octets} (ho : Opens most bs) (hl : headSize ≤ bs.length)
      (h : bs.length < Octets.word bs 1 3) : Cuts most bs [] (.system .earlyEnd) []
  /-- They go on with four octets that no frame starts with. -/
  | refused {bs : Octets} {fault : FrameFault} (hl : headSize ≤ bs.length)
      (hf : Refuses most bs fault) : Cuts most bs [] (.framing fault) (bs.drop headSize)

/-! ## The start of a frame -/

variable {patience : Patience} {most : Nat} {bs : Octets}

/-- The first four octets tell the length. -/
theorem word_take_head (bs : Octets) :
    Octets.word (bs.take headSize) 1 3 = Octets.word bs 1 3 := by
  have htaken : ((bs.take headSize).drop 1).take 3 = (bs.drop 1).take 3 := by
    rw [List.drop_take, List.take_take]
    rfl
  rw [Octets.word, Octets.word, htaken]

/-- What follows does not change the length that is told. -/
theorem word_append_of_head {f : Octets} (h : headSize ≤ f.length) (rest : Octets) :
    Octets.word (f ++ rest) 1 3 = Octets.word f 1 3 := by
  rw [← word_take_head, List.take_append_of_le_length h, word_take_head]

/-- The first octet tells the version. -/
theorem version_take_head {b : UInt8} (h : bs.head? = some b) :
    UInt8.ofNat (Octets.word (bs.take headSize) 0 1) = b := by
  cases bs with
  | nil => cases h
  | cons c rest =>
    rw [List.head?_cons, Option.some.injEq] at h
    have hword : Octets.word ((c :: rest).take headSize) 0 1 = Octets.toNat [c] := rfl
    rw [hword, Octets.toNat_singleton, UInt8.ofNat_toNat, h]

/-- The start of a frame is accepted. -/
theorem Opens.length_head (h : Opens most bs) :
    length (bs.take headSize) most = .ok (Octets.word bs 1 3) := by
  have henough := h.enough
  have hfits := h.fits
  unfold length
  dsimp only
  rw [version_take_head h.version, word_take_head, if_neg (not_not.mpr rfl), if_neg (by omega),
    if_neg (by omega)]

/-- Other octets are refused with the first thing that is wrong with them. -/
theorem Refuses.length_head {fault : FrameFault} (h : Refuses most bs fault) :
    length (bs.take headSize) most = .error (.framing fault) := by
  unfold length
  dsimp only
  rw [word_take_head]
  cases h with
  | version hb hv => rw [version_take_head hb, if_pos hv]
  | short hv hs => rw [version_take_head hv, if_neg (not_not.mpr rfl), if_pos hs]
  | tooLong hv hs hl =>
    rw [version_take_head hv, if_neg (not_not.mpr rfl), if_neg (by omega), if_pos hl]

/-- Octets either start a frame or are refused. -/
theorem opens_or_refuses (most : Nat) (hne : bs ≠ []) :
    Opens most bs ∨ ∃ fault, Refuses most bs fault := by
  obtain ⟨b, hb⟩ : ∃ b, bs.head? = some b := ⟨bs.head hne, List.head?_eq_some_head hne⟩
  by_cases hv : b = protocolVersion
  · subst hv
    rcases Nat.lt_or_ge (Octets.word bs 1 3) Header.size with hs | hs
    · exact .inr ⟨_, .short hb hs⟩
    rcases Nat.lt_or_ge most (Octets.word bs 1 3) with hl | hl
    · exact .inr ⟨_, .tooLong hb hs hl⟩
    · exact .inl ⟨hb, hs, hl⟩
  · exact .inr ⟨_, .version hb hv⟩

/-- A frame has its first four octets. -/
theorem IsFrame.headSize_le {f : Octets} (h : IsFrame most f) : headSize ≤ f.length := by
  have henough := h.enough
  have hlength := h.length
  have hsize : headSize ≤ Header.size := by decide
  omega

/-! ## One frame from the signals -/

/-- Too few octets are an early end. -/
theorem takeExactly_of_lt (patience : Patience) {need : Nat} (h : bs.length < need) :
    Signals.takeExactly patience need (bs.map .octet) = (.error .earlyEnd, []) := by
  obtain ⟨more, rfl⟩ : ∃ more, need = bs.length + (more + 1) := ⟨need - bs.length - 1, by omega⟩
  have htaken := Signals.takeExactly_octets patience bs (more + 1) []
  rw [List.append_nil, Signals.takeExactly] at htaken
  exact htaken

/-- The start of a frame is taken as it stands. -/
theorem takeHead_octets (patience : Patience) (h : headSize ≤ bs.length) (rest : List Signal) :
    Signals.takeHead patience (bs.map .octet ++ rest) =
      (.ok (bs.take headSize), (bs.drop headSize).map .octet ++ rest) := by
  have htaken := Signals.takeExactly_octets_of_le patience h rest
  cases bs with
  | nil => exact absurd h (by decide)
  | cons b bs =>
    rw [List.map_cons, List.cons_append] at htaken ⊢
    rw [Signals.takeHead, htaken]

/-- Less than the start of a frame is an early end. -/
theorem takeHead_of_lt (patience : Patience) (hne : bs ≠ []) (h : bs.length < headSize) :
    Signals.takeHead patience (bs.map .octet) = (.error (.system .earlyEnd), []) := by
  have htaken := takeExactly_of_lt patience h
  cases bs with
  | nil => exact absurd rfl hne
  | cons b bs =>
    rw [List.map_cons] at htaken ⊢
    rw [Signals.takeHead, htaken]

/-- A frame is taken whole, and nothing behind it. -/
theorem IsFrame.takeFrame {f : Octets} (h : IsFrame most f) (patience : Patience)
    (rest : List Signal) :
    Signals.takeFrame patience most (f.map .octet ++ rest) = (.ok f, rest) := by
  have hhead := h.headSize_le
  have hbody : (f.drop headSize).length = f.length - headSize := List.length_drop
  unfold Signals.takeFrame
  rw [takeHead_octets patience hhead]
  dsimp only
  rw [h.length_head, h.length]
  dsimp only
  rw [Signals.takeExactly_octets_of_le patience (Nat.le_of_eq hbody.symm), ← hbody, List.take_length,
    List.drop_length, List.map_nil, List.nil_append]
  dsimp only
  rw [List.take_append_drop]

/-- Octets that start no frame cost four of them. -/
theorem Refuses.takeFrame {fault : FrameFault} (h : Refuses most bs fault)
    (hl : headSize ≤ bs.length) :
    Signals.takeFrame patience most (bs.map .octet) =
      (.error (.framing fault), (bs.drop headSize).map .octet) := by
  have hhead := takeHead_octets patience hl []
  rw [List.append_nil, List.append_nil] at hhead
  unfold Signals.takeFrame
  rw [hhead]
  dsimp only
  rw [h.length_head]

/-- A frame whose end is missing is an early end. -/
theorem Opens.takeFrame_of_lt (ho : Opens most bs) (hl : headSize ≤ bs.length)
    (h : bs.length < Octets.word bs 1 3) :
    Signals.takeFrame patience most (bs.map .octet) = (.error (.system .earlyEnd), []) := by
  have hhead := takeHead_octets patience hl []
  rw [List.append_nil, List.append_nil] at hhead
  have hmissing : (bs.drop headSize).length < Octets.word bs 1 3 - headSize := by
    rw [List.length_drop]
    omega
  unfold Signals.takeFrame
  rw [hhead]
  dsimp only
  rw [ho.length_head]
  dsimp only
  rw [takeExactly_of_lt patience hmissing]

/-! ## The cut of a stream -/

/-- Octets that go on as a frame may, and are enough of them, start with a frame. -/
theorem Opens.isFrame_take (ho : Opens most bs) (h : Octets.word bs 1 3 ≤ bs.length) :
    IsFrame most (bs.take (Octets.word bs 1 3)) ∧ 0 < Octets.word bs 1 3 := by
  obtain ⟨length, hlength⟩ : ∃ length, length = Octets.word bs 1 3 := ⟨_, rfl⟩
  have henough := ho.enough
  have hfits := ho.fits
  rw [← hlength] at h henough hfits ⊢
  have hsize : headSize ≤ Header.size := by decide
  have hpositive : 0 < headSize := by decide
  have htake : (bs.take length).length = length := List.length_take_of_le h
  have hword : Octets.word (bs.take length) 1 3 = length := by
    rw [← word_append_of_head (show headSize ≤ (bs.take length).length by omega)
      (bs.drop length), List.take_append_drop, hlength]
  have hversion : (bs.take length).head? = some protocolVersion := by
    rw [List.head?_take, if_neg (by omega), ho.version]
  exact ⟨⟨⟨hversion, by omega, by omega⟩, hword.trans htake.symm⟩, by omega⟩

/-- All octets have a cut, by induction on their number: what follows a frame is shorter than what
starts with it. -/
theorem exists_cuts (most : Nat) (bs : Octets) : ∃ frames e left, Cuts most bs frames e left := by
  induction hn : bs.length using Nat.strongRecOn generalizing bs with
  | ind n ih =>
    subst hn
    by_cases hne : bs = []
    · subst hne
      exact ⟨[], .closed, [], .closed⟩
    rcases Nat.lt_or_ge bs.length headSize with hhead | hhead
    · exact ⟨[], _, [], .cutHead hne hhead⟩
    rcases opens_or_refuses most hne with ho | ⟨fault, hf⟩
    · rcases Nat.lt_or_ge bs.length (Octets.word bs 1 3) with hbody | hbody
      · exact ⟨[], _, [], .cutBody ho hhead hbody⟩
      · obtain ⟨hf, hpositive⟩ := ho.isFrame_take hbody
        obtain ⟨frames, e, left, hc⟩ :=
          ih (bs.drop (Octets.word bs 1 3)).length (by rw [List.length_drop]; omega) _ rfl
        have hcut := Cuts.frame hf hc
        rw [List.take_append_drop] at hcut
        exact ⟨_, e, left, hcut⟩
    · exact ⟨[], _, _, .refused hhead hf⟩

/-- Taking as many frames as the cut has gives them, and takes no octet behind the last one. -/
theorem Cuts.takeTimes_of_le {frames : List Octets} {e : ConnectionError} {left : Octets}
    (h : Cuts most bs frames e left) {calls : Nat} (hcalls : calls ≤ frames.length) :
    Signals.takeTimes patience most calls (bs.map .octet) =
      ((frames.take calls).map .ok,
        (bs.drop (frames.take calls).flatten.length).map .octet) := by
  induction h generalizing calls with
  | frame hf hc ih =>
    cases calls with
    | zero => rfl
    | succ calls =>
      rw [List.length_cons, Nat.add_le_add_iff_right] at hcalls
      rw [Signals.takeTimes, List.map_append, hf.takeFrame]
      dsimp only
      rw [ih hcalls, List.take_succ_cons, List.map_cons, List.flatten_cons, List.length_append,
        List.drop_length_add_append]
  | closed | cutHead | cutBody | refused =>
    obtain rfl : calls = 0 := Nat.le_zero.mp hcalls
    rfl

/-- One more call gives the reason why there are no more frames. -/
theorem Cuts.takeTimes_succ {frames : List Octets} {e : ConnectionError} {left : Octets}
    (h : Cuts most bs frames e left) :
    Signals.takeTimes patience most (frames.length + 1) (bs.map .octet) =
      (frames.map .ok ++ [.error e], left.map .octet) := by
  induction h with
  | frame hf hc ih =>
    rw [List.length_cons, Signals.takeTimes, List.map_append, hf.takeFrame]
    dsimp only
    rw [ih, List.map_cons, List.cons_append]
  | closed => rfl
  | cutHead hne hl =>
    have htaken := takeHead_of_lt patience hne hl
    rw [List.length_nil, Signals.takeTimes, Signals.takeFrame, htaken]
    rfl
  | cutBody ho hl hb =>
    rw [List.length_nil, Signals.takeTimes, ho.takeFrame_of_lt hl hb]
    rfl
  | refused hl hf =>
    rw [List.length_nil, Signals.takeTimes, hf.takeFrame hl]
    rfl

end Frame

/-! ## Streams without failures -/

namespace Deliveries

/-- Every delivery brings octets. -/
def Unfailing (stream : Deliveries) : Prop := ∀ d ∈ stream, ∃ bs, bs ≠ [] ∧ d = .octets bs

/-- Such a stream signals its octets and nothing else. -/
theorem Unfailing.signals {stream : Deliveries} (h : stream.Unfailing) :
    stream.signals = stream.unread.map .octet := by
  induction stream with
  | nil => rfl
  | cons d rest ih =>
    obtain ⟨⟨bs, hne, rfl⟩, hrest⟩ := List.forall_mem_cons.mp h
    rw [signals_cons, Delivery.signals_octets hne, ih hrest]
    exact List.map_append.symm

/-- The octets that are unread are those among the signals. -/
theorem filterMap_signals (stream : Deliveries) :
    stream.signals.filterMap Signals.octet? = stream.unread := by
  induction stream with
  | nil => rfl
  | cons d rest ih =>
    have hhead : d.signals.filterMap Signals.octet? = d.unread := by
      rcases d with ⟨_ | ⟨b, bs⟩⟩ | e
      · rfl
      · rw [Delivery.signals, List.filterMap_map]
        exact List.filterMap_some
      · rfl
    rw [signals_cons, List.filterMap_append, hhead, ih]
    rfl

/-- A delivery signals what its pieces signal. -/
theorem signals_map_octets {pieces : List Octets} (h : ∀ p ∈ pieces, p ≠ []) :
    signals (pieces.map .octets) = pieces.flatten.map .octet := by
  induction pieces with
  | nil => rfl
  | cons p pieces ih =>
    obtain ⟨hp, hpieces⟩ := List.forall_mem_cons.mp h
    rw [List.map_cons, signals_cons, Delivery.signals_octets hp, ih hpieces, List.flatten_cons,
      List.map_append]

end Deliveries

namespace Frame

/-- The results of successive reads, and the octets they leave unread, depend on the signals of
the stream alone. -/
theorem readTimesWith_congr {stream other : Deliveries} (h : stream.signals = other.signals)
    (most calls : Nat) :
    (readTimesWith patience most calls stream).1 = (readTimesWith patience most calls other).1 ∧
      (readTimesWith patience most calls stream).2.signals =
        (readTimesWith patience most calls other).2.signals := by
  have hs := readTimesWith_signals patience most calls stream
  rw [h, readTimesWith_signals patience most calls other, Prod.mk.injEq] at hs
  exact ⟨hs.1.symm, hs.2.symm⟩

/-- What the reads of an unfailing stream give and leave. -/
theorem readTimesWith_of_takeTimes {most calls : Nat} {stream : Deliveries}
    {results : List (Except ConnectionError Octets)} {left : Octets} (h : stream.Unfailing)
    (ht : Signals.takeTimes patience most calls (stream.unread.map .octet) =
      (results, left.map .octet)) :
    (readTimesWith patience most calls stream).1 = results ∧
      (readTimesWith patience most calls stream).2.unread = left := by
  rw [← h.signals, readTimesWith_signals, Prod.mk.injEq] at ht
  refine ⟨ht.1, ?_⟩
  rw [← Deliveries.filterMap_signals, ht.2, List.filterMap_map]
  exact List.filterMap_some

/-- Whichever failing reads the library repeats, if any, reads of frames do not see how octets are
divided into deliveries: any delivery of octets may be replaced by non-empty pieces of it, whatever
comes before and after, be it octets, failures or the end. With none repeated, every failure ends
the read that meets it. The frames of a stream without failures are those of its cut: each read
takes exactly its own frame, and the read after the last one reports why there is no more and
leaves what the cut leaves. -/
theorem reads_cut_the_octets (patience : Patience) (most : Nat) :
    (∀ (calls : Nat) (earlier later : Deliveries) (bs : Octets) (pieces : List Octets),
      bs ≠ [] → (∀ p ∈ pieces, p ≠ []) → pieces.flatten = bs →
      let whole := readTimesWith patience most calls (earlier ++ .octets bs :: later)
      let divided := readTimesWith patience most calls (earlier ++ (pieces.map .octets ++ later))
      divided.1 = whole.1 ∧ divided.2.unread = whole.2.unread ∧
        divided.2.signals = whole.2.signals) ∧
    (∀ stream : Deliveries, stream.Unfailing →
      (∃ frames e left, Cuts most stream.unread frames e left) ∧
      ∀ frames e left, Cuts most stream.unread frames e left →
        (∀ calls ≤ frames.length,
          (readTimesWith patience most calls stream).1 = (frames.take calls).map .ok ∧
          (readTimesWith patience most calls stream).2.unread =
            stream.unread.drop (frames.take calls).flatten.length) ∧
        (readTimesWith patience most (frames.length + 1) stream).1 = frames.map .ok ++ [.error e] ∧
        (readTimesWith patience most (frames.length + 1) stream).2.unread = left) := by
  constructor
  · intro calls earlier later bs pieces hne hpieces hflatten
    have hsame : Deliveries.signals (earlier ++ (pieces.map .octets ++ later)) =
        Deliveries.signals (earlier ++ .octets bs :: later) := by
      have hdivided := Deliveries.signals_map_octets hpieces
      unfold Deliveries.signals at hdivided ⊢
      rw [List.flatMap_append, List.flatMap_append, List.flatMap_append, List.flatMap_cons,
        hdivided, hflatten, Delivery.signals_octets hne]
    obtain ⟨hresults, hsignals⟩ := readTimesWith_congr hsame most calls
    refine ⟨hresults, ?_, hsignals⟩
    rw [← Deliveries.filterMap_signals, hsignals, Deliveries.filterMap_signals]
  · intro stream hs
    refine ⟨exists_cuts most stream.unread, fun frames e left hc => ⟨fun calls hcalls => ?_, ?_⟩⟩
    · exact readTimesWith_of_takeTimes hs (hc.takeTimes_of_le hcalls)
    · exact readTimesWith_of_takeTimes hs hc.takeTimes_succ

/-- A frame that is a header and nothing else. -/
def bareFrame : Octets := [1, 0, 0, 20] ++ List.replicate 16 0

/-- Two frames and the start of something that is none. -/
def twoFrames : Octets := bareFrame ++ (bareFrame ++ [2, 0, 0, 20, 9])

/-- The same octets in pieces that respect neither the frames nor their starts. -/
def twoFramesInPieces : List Octets :=
  [[1], [0, 0], 20 :: List.replicate 16 0 ++ [1, 0, 0], 20 :: List.replicate 16 0 ++ [2, 0],
    [0, 20, 9]]

/-- A read that a signal has interrupted. -/
def interruption : SystemError := .ofKind .interrupted

/-- The cut of the two frames. -/
theorem cuts_twoFrames :
    Cuts 20 twoFrames [bareFrame, bareFrame] (.framing (.version 2)) [9] := by
  have hf : IsFrame 20 bareFrame := ⟨⟨by decide, by decide, by decide⟩, by decide⟩
  have hr : Refuses 20 [2, 0, 0, 20, 9] (.version 2) := .version rfl (by decide)
  exact .frame hf (.frame hf (.refused (by decide) hr))

/-- Where every failing read is an end, the two frames are read in pieces as they are read in one,
with an interrupted read behind them, and the octet behind the refused ones stays unread. -/
theorem reads_two_frames_in_pieces :
    (twoFrames ≠ [] ∧ (∀ p ∈ twoFramesInPieces, p ≠ []) ∧ twoFramesInPieces.flatten = twoFrames ∧
      (readTimesWith [] 20 5 (twoFramesInPieces.map .octets ++ [.failure interruption])).1 =
        (readTimesWith [] 20 5 [.octets twoFrames, .failure interruption]).1) ∧
    Deliveries.Unfailing (twoFramesInPieces.map .octets) ∧
    Deliveries.unread (twoFramesInPieces.map .octets) = twoFrames ∧
    (readTimesWith [] 20 3 (twoFramesInPieces.map .octets)).1 =
      [.ok bareFrame, .ok bareFrame, .error (.framing (.version 2))] ∧
    (readTimesWith [] 20 3 (twoFramesInPieces.map .octets)).2.unread = [9] := by
  have hne : twoFrames ≠ [] := by decide
  have hpieces : ∀ p ∈ twoFramesInPieces, p ≠ [] := by decide
  have hflatten : twoFramesInPieces.flatten = twoFrames := by decide
  have hunfailing : Deliveries.Unfailing (twoFramesInPieces.map .octets) := by
    intro d hd
    obtain ⟨p, hp, rfl⟩ := List.mem_map.mp hd
    exact ⟨p, hpieces p hp, rfl⟩
  have hunread : Deliveries.unread (twoFramesInPieces.map .octets) = twoFrames := by decide
  obtain ⟨hdivided, hcut⟩ := reads_cut_the_octets [] 20
  have hsame :=
    hdivided 5 [] [.failure interruption] twoFrames twoFramesInPieces hne hpieces hflatten
  obtain ⟨-, hresults, hleft⟩ :=
    (hcut _ hunfailing).2 _ _ _ (hunread ▸ cuts_twoFrames)
  exact ⟨⟨hne, hpieces, hflatten, hsame.1⟩, hunfailing, hunread, hresults, hleft⟩

/-- An interrupted read inside a frame ends the frame, or is passed over if the library repeats
such reads. -/
example :
    let stream : Deliveries :=
      [.octets (bareFrame.take 10), .failure interruption, .octets (bareFrame.drop 10)]
    (readTimesWith [] 20 1 stream).1 = [.error (.system interruption)] ∧
      (readTimesWith .interrupted 20 1 stream).1 = [.ok bareFrame] := by decide

end Frame

end Diameter
