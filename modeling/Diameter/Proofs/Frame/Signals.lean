import Diameter.Frame
import Mathlib.Tactic.Common

/-!
# What a stream signals, octet by octet

How octets are spread over deliveries does not matter to a reader of frames. The signals of a
stream are its octets one by one, with the ends and failures that reads meet between them.
Main statement: reading frames from deliveries is reading them from signals, so two streams
with the same signals give the same frames and leave the same signals.
-/

namespace Diameter

/-- What a reader that takes one octet at a time can meet. -/
inductive Signal where
  /-- One more octet. -/
  | octet (b : UInt8)
  /-- The end of the stream, as far as one read can tell. -/
  | ended
  /-- A failing read. -/
  | failure (error : SystemError)
  deriving DecidableEq, Repr

/-- The signals of a delivery. -/
def Delivery.signals : Delivery → List Signal
  | .octets [] => [.ended]
  | .octets (b :: bs) => (b :: bs).map .octet
  | .failure e => [.failure e]

/-- The octets of a delivery. -/
def Delivery.unread : Delivery → Octets
  | .octets bs => bs
  | .failure _ => []

/-- Octets that are delivered are one signal each. -/
theorem Delivery.signals_octets {bs : Octets} (h : bs ≠ []) :
    (Delivery.octets bs).signals = bs.map .octet := by
  cases bs with
  | nil => exact absurd rfl h
  | cons b bs => rfl

namespace Deliveries

/-- The signals of a stream. -/
def signals (stream : Deliveries) : List Signal := stream.flatMap Delivery.signals

/-- The octets that a stream still has to deliver. -/
def unread (stream : Deliveries) : Octets := stream.flatMap Delivery.unread

end Deliveries

namespace Signals

/-- The octet of a signal. -/
def octet? : Signal → Option UInt8
  | .octet b => some b
  | _ => none

/-- Takes signals until `need` octets are there. The end, and a failure that is not passed over,
give up what was taken so far. -/
def takeExactly (patience : Patience) :
    (need : Nat) → List Signal → Except SystemError Octets × List Signal
  | 0, signals => (.ok [], signals)
  | _ + 1, [] => (.error .earlyEnd, [])
  | _ + 1, .ended :: rest => (.error .earlyEnd, rest)
  | need + 1, .failure e :: rest =>
    if e.kind ∈ patience then takeExactly patience (need + 1) rest else (.error e, rest)
  | need + 1, .octet b :: rest =>
    match takeExactly patience need rest with
    | (.ok bs, rest) => (.ok (b :: bs), rest)
    | (.error e, rest) => (.error e, rest)

/-- Takes the four octets that a frame starts with. -/
def takeHead (patience : Patience) : List Signal → Except ConnectionError Octets × List Signal
  | [] => (.error .closed, [])
  | .ended :: rest => (.error .closed, rest)
  | .failure e :: rest => (.error (.system e), rest)
  | .octet b :: rest =>
    match takeExactly patience Frame.headSize (.octet b :: rest) with
    | (.ok head, rest) => (.ok head, rest)
    | (.error e, rest) => (.error (.system e), rest)

/-- Takes one frame of at most `most` octets. -/
def takeFrame (patience : Patience) (most : Nat) (signals : List Signal) :
    Except ConnectionError Octets × List Signal :=
  match takeHead patience signals with
  | (.error e, rest) => (.error e, rest)
  | (.ok head, rest) =>
    match Frame.length head most with
    | .error e => (.error e, rest)
    | .ok size =>
      match takeExactly patience (size - Frame.headSize) rest with
      | (.error e, rest) => (.error (.system e), rest)
      | (.ok body, rest) => (.ok (head ++ body), rest)

/-- Takes a frame `calls` times. -/
def takeTimes (patience : Patience) (most : Nat) :
    (calls : Nat) → List Signal → List (Except ConnectionError Octets) × List Signal
  | 0, signals => ([], signals)
  | calls + 1, signals =>
    let (result, rest) := takeFrame patience most signals
    let (later, rest) := takeTimes patience most calls rest
    (result :: later, rest)

variable (patience : Patience)

/-- A run of octets at the head is taken first. -/
theorem takeExactly_octets (bs : Octets) (need : Nat) (rest : List Signal) :
    takeExactly patience (bs.length + need) (bs.map .octet ++ rest) =
      match takeExactly patience need rest with
      | (.ok more, rest) => (.ok (bs ++ more), rest)
      | (.error e, rest) => (.error e, rest) := by
  induction bs with
  | nil =>
    rw [List.length_nil, Nat.zero_add, List.map_nil, List.nil_append]
    rcases takeExactly patience need rest with ⟨result, rest⟩
    cases result <;> rfl
  | cons b bs ih =>
    have hlength : (b :: bs).length + need = (bs.length + need) + 1 := by
      rw [List.length_cons]
      omega
    rw [hlength, List.map_cons, List.cons_append, takeExactly, ih]
    rcases takeExactly patience need rest with ⟨result, rest⟩
    cases result <;> rfl

/-- A run of octets that is long enough is taken in part. -/
theorem takeExactly_octets_of_le {bs : Octets} {need : Nat} (h : need ≤ bs.length)
    (rest : List Signal) :
    takeExactly patience need (bs.map .octet ++ rest) =
      (.ok (bs.take need), (bs.drop need).map .octet ++ rest) := by
  have hsplit : bs.map Signal.octet ++ rest =
      (bs.take need).map .octet ++ ((bs.drop need).map .octet ++ rest) := by
    rw [← List.append_assoc, ← List.map_append, List.take_append_drop]
  have htaken := takeExactly_octets patience (bs.take need) 0 ((bs.drop need).map .octet ++ rest)
  rw [List.length_take, Nat.min_eq_left h, Nat.add_zero] at htaken
  rw [hsplit, htaken, takeExactly]
  dsimp only
  rw [List.append_nil]

end Signals

namespace Deliveries

variable (patience : Patience)

theorem signals_cons (d : Delivery) (stream : Deliveries) :
    signals (d :: stream) = d.signals ++ stream.signals :=
  List.flatMap_cons ..

theorem takeExactly_zero (signals : List Signal) :
    Signals.takeExactly patience 0 signals = (.ok [], signals) := by
  rw [Signals.takeExactly]

/-- What is left of a delivery that holds more than is taken. -/
theorem signals_drop_cons {bs : Octets} {need : Nat} (h : need < bs.length) (rest : Deliveries) :
    signals (.octets (bs.drop need) :: rest) = (bs.drop need).map .octet ++ rest.signals := by
  have hne : bs.drop need ≠ [] := by
    rw [Ne, List.drop_eq_nil_iff]
    omega
  rw [signals_cons, Delivery.signals_octets hne]

/-- Reading so many octets takes them from the signals. A delivery holds more than is needed, or
is needed as a whole. -/
theorem readExactly_signals (need : Nat) (stream : Deliveries) :
    Signals.takeExactly patience need stream.signals =
      ((stream.readExactly patience need).1, (stream.readExactly patience need).2.signals) := by
  induction stream generalizing need with
  | nil =>
    cases need with
    | zero => rw [readExactly, if_pos rfl, takeExactly_zero]
    | succ need => rw [readExactly, if_neg (Nat.succ_ne_zero need)]; rfl
  | cons d rest ih =>
    by_cases hneed : need = 0
    · rw [readExactly.eq_def, if_pos hneed, hneed, takeExactly_zero]
    obtain ⟨n, rfl⟩ := Nat.exists_eq_succ_of_ne_zero hneed
    rw [readExactly.eq_def, if_neg hneed, signals_cons]
    cases d with
    | failure e =>
      simp only [Delivery.signals, List.cons_append, List.nil_append, Signals.takeExactly]
      split_ifs
      · exact ih (n + 1)
      · rfl
    | octets bs =>
      by_cases hbs : bs = []
      · subst hbs
        rfl
      simp only [if_neg hbs, Delivery.signals_octets hbs, Octets.holds_iff]
      by_cases hholds : n + 1 + 1 ≤ bs.length
      · rw [if_pos hholds, Signals.takeExactly_octets_of_le patience (by omega)]
        dsimp only
        rw [signals_drop_cons (by omega)]
      · have hsum : n.succ = bs.length + (n.succ - bs.length) := by omega
        rw [if_neg hholds]
        nth_rewrite 1 [hsum]
        rw [Signals.takeExactly_octets, ih]
        rcases readExactly patience (n + 1 - bs.length) rest with ⟨result, left⟩
        cases result <;> rfl

end Deliveries

namespace Frame

variable (patience : Patience)

/-- Reading the start of a frame takes it from the signals, whether the first read takes all of
its four octets or less. -/
theorem readHead_signals (stream : Deliveries) :
    Signals.takeHead patience stream.signals =
      ((readHead patience stream).1, (readHead patience stream).2.signals) := by
  unfold readHead
  cases stream with
  | nil => rfl
  | cons d rest =>
    rw [Deliveries.signals_cons]
    cases d with
    | failure e => rfl
    | octets bs =>
      cases bs with
      | nil => rfl
      | cons b bs =>
        have hhead : Signals.takeHead patience
            ((Delivery.octets (b :: bs)).signals ++ Deliveries.signals rest) =
            match Signals.takeExactly patience headSize
              ((b :: bs).map .octet ++ Deliveries.signals rest) with
            | (.ok head, rest) => (.ok head, rest)
            | (.error e, rest) => (.error (.system e), rest) := rfl
        rw [hhead]
        simp only [Deliveries.read, Octets.holds_iff]
        by_cases hholds : headSize + 1 ≤ (b :: bs).length
        · have hfirst : (b :: bs).take headSize = b :: bs.take 3 := rfl
          have hlength : headSize - (b :: bs.take 3).length = 0 := by
            rw [← hfirst, List.length_take]
            omega
          rw [if_pos hholds, Signals.takeExactly_octets_of_le patience (by omega), hfirst]
          dsimp only
          rw [hlength, Deliveries.readExactly.eq_def, if_pos rfl]
          dsimp only
          rw [Deliveries.signals_drop_cons (by omega), List.append_nil]
        · have hsum : headSize = (b :: bs).length + (headSize - (b :: bs).length) := by omega
          rw [if_neg hholds]
          nth_rewrite 1 [hsum]
          rw [Signals.takeExactly_octets, Deliveries.readExactly_signals]
          dsimp only
          rcases Deliveries.readExactly patience (headSize - (b :: bs).length) rest with
            ⟨result, left⟩
          cases result <;> rfl

/-- Reading a frame takes it from the signals. -/
theorem read_signals (most : Nat) (stream : Deliveries) :
    Signals.takeFrame patience most stream.signals =
      ((read patience most stream).1, (read patience most stream).2.signals) := by
  unfold Signals.takeFrame read
  rw [readHead_signals]
  rcases readHead patience stream with ⟨head, rest⟩
  cases head with
  | error e => rfl
  | ok head =>
    dsimp only
    cases length head most with
    | error e => rfl
    | ok size =>
      dsimp only
      rw [Deliveries.readExactly_signals]
      rcases rest.readExactly patience (size - headSize) with ⟨body, rest⟩
      cases body <;> rfl

/-- Reading frames takes them from the signals. -/
theorem readTimesWith_signals (most calls : Nat) (stream : Deliveries) :
    Signals.takeTimes patience most calls stream.signals =
      ((readTimesWith patience most calls stream).1,
        (readTimesWith patience most calls stream).2.signals) := by
  induction calls generalizing stream with
  | zero => rfl
  | succ calls ih =>
    rw [Signals.takeTimes, readTimesWith, read_signals]
    dsimp only
    rw [ih]

end Frame

end Diameter
