import Diameter.Connection.Error
import Diameter.Message.Basic

/-!
# Frames on a stream

A stream carries messages back to back. The first four octets of each give the
version and the length of the whole message, so the reader takes those four, judges
them, and takes the rest. It never takes an octet of the next message. What a stream
delivers is a script of deliveries, each of which one or more reads use up.
-/

namespace Diameter

/-- What one read of a stream can meet. -/
inductive Delivery where
  /-- Octets. None at all is the end of the stream, as far as this read can tell. -/
  | octets (bs : Octets)
  /-- A failing read. -/
  | failure (error : SystemError)
  deriving DecidableEq, Repr

/-- What a stream still has to deliver. After that every read meets its end. -/
abbrev Deliveries := List Delivery

/-- The kinds of failure after which a library repeats a read where an exact number of octets is
asked for. None at all is the plain case, in which every failing read is an end. What is proved of
reads holds for every patience. -/
abbrev Patience := List SystemErrorKind

/-- Interrupted reads are repeated, as in the scenarios that are run. -/
def Patience.interrupted : Patience := [.interrupted]

namespace Deliveries

/-- One read of at most `most` octets. What a delivery holds beyond that stays first in line. -/
def read (most : Nat) : Deliveries → Except SystemError Octets × Deliveries
  | [] => (.ok [], [])
  | .failure e :: rest => (.error e, rest)
  | .octets bs :: rest =>
    if Octets.holds (most + 1) bs then (.ok (bs.take most), .octets (bs.drop most) :: rest)
    else (.ok bs, rest)

/-- Reads until `need` octets are there. The end of the stream, and a failing read that is not
repeated, give up what was read so far. -/
def readExactly (patience : Patience) (need : Nat) (stream : Deliveries) :
    Except SystemError Octets × Deliveries :=
  if need = 0 then (.ok [], stream)
  else
    match stream with
    | [] => (.error .earlyEnd, [])
    | .failure e :: rest =>
      if e.kind ∈ patience then readExactly patience need rest else (.error e, rest)
    | .octets bs :: rest =>
      if bs = [] then (.error .earlyEnd, rest)
      else if Octets.holds (need + 1) bs then
        (.ok (bs.take need), .octets (bs.drop need) :: rest)
      else
        match readExactly patience (need - bs.length) rest with
        | (.ok more, rest) => (.ok (bs ++ more), rest)
        | (.error e, rest) => (.error e, rest)

end Deliveries

namespace Frame

/-- The octets of a frame that give its length. -/
def headSize : Nat := 4

/-- The length of the frame that starts with the four octets `head`. -/
def length (head : Octets) (most : Nat) : Except ConnectionError Nat :=
  let version : UInt8 := .ofNat (Octets.word head 0 1)
  let length := Octets.word head 1 3
  if version ≠ protocolVersion then .error (.framing (.version version))
  else if length < Header.size then .error (.framing (.short length))
  else if most < length then .error (.framing (.tooLong length most))
  else .ok length

/-- The four octets that a frame starts with. A stream that ends before the first of them
has been closed. -/
def readHead (patience : Patience) (stream : Deliveries) :
    Except ConnectionError Octets × Deliveries :=
  match stream.read headSize with
  | (.error e, rest) => (.error (.system e), rest)
  | (.ok [], rest) => (.error .closed, rest)
  | (.ok first, rest) =>
    match rest.readExactly patience (headSize - first.length) with
    | (.error e, rest) => (.error (.system e), rest)
    | (.ok more, rest) => (.ok (first ++ more), rest)

/-- One frame of at most `most` octets. -/
def read (patience : Patience) (most : Nat) (stream : Deliveries) :
    Except ConnectionError Octets × Deliveries :=
  match readHead patience stream with
  | (.error e, rest) => (.error e, rest)
  | (.ok head, rest) =>
    match length head most with
    | .error e => (.error e, rest)
    | .ok size =>
      match rest.readExactly patience (size - headSize) with
      | (.error e, rest) => (.error (.system e), rest)
      | (.ok body, rest) => (.ok (head ++ body), rest)

/-- The results of `calls` successive reads, and what is left. -/
def readTimesWith (patience : Patience) (most : Nat) :
    (calls : Nat) → Deliveries → List (Except ConnectionError Octets) × Deliveries
  | 0, stream => ([], stream)
  | calls + 1, stream =>
    let (result, rest) := read patience most stream
    let (later, rest) := readTimesWith patience most calls rest
    (result :: later, rest)

/-- How many octets the deliveries hold. -/
def octetCount : Deliveries → Nat
  | [] => 0
  | .octets bs :: rest => bs.length + octetCount rest
  | .failure _ :: rest => octetCount rest

/-- The results of at most `calls` successive reads, up to the first that fails. -/
def readWhileGood (patience : Patience) (most : Nat) :
    (calls : Nat) → Deliveries → List (Except ConnectionError Octets)
  | 0, _ => []
  | calls + 1, stream =>
    match read patience most stream with
    | (.error e, _) => [.error e]
    | (.ok frame, rest) => .ok frame :: readWhileGood patience most calls rest

/-- The results of `calls` successive reads, and what is left. -/
def readTimes (most calls : Nat) (stream : Deliveries) :
    List (Except ConnectionError Octets) × Deliveries :=
  readTimesWith .interrupted most calls stream

/-- The results of successive reads up to the first that fails. Every frame uses octets up,
so there are no more frames than octets. -/
def readAll (most : Nat) (stream : Deliveries) : List (Except ConnectionError Octets) :=
  readWhileGood .interrupted most (octetCount stream + 1) stream

end Frame

end Diameter
