import Diameter.Proofs.Daemon.Closedown
import Diameter.Proofs.Queue.Lines
import Mathlib.Data.Multiset.Count
import Mathlib.Data.Multiset.MapFold

/-!
# The books on connections

The books say, for each connection that has a handshake, what the handshake has to do with it;
and for each connection that the event queue was given, whether it lies in the queue, is about
to be closed, or was closed. They keep the calls to the queue, without the lines in which calls
wait. Each move of a daemon on its way to the end is one of a few entries.

What every entry keeps: a connection whose push has not been stored is nowhere but with its
handshake, and one whose push was stored is in one place, or was closed once.
-/

namespace Diameter.Daemon

open Listener (Arrival ConnectionId Phase)
open Queue (CallerId Lifecycle Outcome Request Spot)

/-- What a handshake has to do with its connection. -/
inductive Share where
  /-- It has the connection for itself. -/
  | own
  /-- It is about to pass the connection. -/
  | handing (arrival : Arrival)
  /-- It waits for a push. -/
  | lent (caller : CallerId)
  /-- It has handed the connection over. -/
  | given
  /-- It closes the connection by itself. -/
  | aside
  /-- This does not happen. -/
  | odd

/-- What a handshake in this phase has to do with its connection. -/
def Share.ofPhase : Phase → Share
  | .waiting _ | .leaving _ => .own
  | .handing arrival => .handing arrival
  | .storing caller => .lent caller
  | .ended .handedOff => .given
  | .closing .handedOff _ | .keeping _ _ => .odd
  | .closing _ _ | .raising _ | .ended _ => .aside

/-- Whether a connection is about to be passed. -/
def Share.isHanding : Share → Bool
  | .handing _ => true
  | _ => false

/-- Whether a connection was passed. -/
def Share.isPassed : Share → Bool
  | .lent _ | .given => true
  | _ => false

/-- A connection and what its handshake has to do with it. -/
abbrev Holder := ConnectionId × Share

/-- A call to the event queue, without the line in which it waits. -/
abbrev Call := Request Arrival × Spot Arrival

/-- Whether a call is a push that is not over. -/
def isOpenPush (call : Call) : Bool :=
  match call with
  | (.push _, .facing _) => true
  | _ => false

/-- The books. -/
structure Books where
  /-- All connections that have handshakes. -/
  holders : Multiset Holder
  /-- All calls to the event queue. -/
  calls : List Call
  /-- Whether the event queue can still be used. -/
  lifecycle : Lifecycle
  /-- What lies in the event queue. -/
  items : List Arrival
  /-- Whether the event queue has its alarm. -/
  alarm : Bool
  /-- How much fits into the event queue, or zero if anything does. -/
  capacity : Nat
  /-- The connections that were taken out and are about to be closed. -/
  hand : Multiset ConnectionId
  /-- The connections that were passed to be handed over. -/
  passed : List ConnectionId
  /-- The connections that were closed, and by whom. -/
  closed : List (Closer × ConnectionId)

namespace Books

/-- The connection that somebody other than its handshake has closed. -/
def foreign? (entry : Closer × ConnectionId) : Option ConnectionId :=
  if entry.1 = .handshake then none else some entry.2

/-- How often a connection lies in the queue, is about to be closed after that, or was closed
by somebody other than its handshake. -/
def abroad (b : Books) (c : ConnectionId) : Nat :=
  (b.items.map Arrival.connection).count c + b.hand.count c + (b.closed.filterMap foreign?).count c

/-- Whether nothing fits into the event queue any more. -/
def isFull (b : Books) : Bool := 0 < b.capacity && b.capacity ≤ b.items.length

/-- The hand-overs that are not over. -/
def pending (b : Books) : Nat :=
  b.holders.countP (fun x => x.2.isHanding) + b.calls.countP isOpenPush

/-- An entry. `passing` tells whether a handshake may leave the set with a connection to pass. -/
inductive Step (passing : Bool) (b : Books) : Books → Prop
  /-- Nothing that the books say changes. -/
  | rest : Step passing b b
  /-- A connection gets its handshake. -/
  | start {c : ConnectionId} (hc : c ∉ b.holders.map Prod.fst) :
      Step passing b { b with holders := (c, .own) ::ₘ b.holders }
  /-- A handshake is going to pass its connection. -/
  | pass {c : ConnectionId} {arrival : Arrival} {others : Multiset Holder}
      (hp : passing = true) (hb : b.holders = (c, .own) ::ₘ others)
      (ha : arrival.connection = c) :
      Step passing b { b with holders := (c, .handing arrival) ::ₘ others }
  /-- A handshake is going to close its connection. -/
  | turnAway {c : ConnectionId} {others : Multiset Holder}
      (hb : b.holders = (c, .own) ::ₘ others) :
      Step passing b { b with holders := (c, .aside) ::ₘ others }
  /-- A handshake closes its connection. -/
  | close {c : ConnectionId} (hc : (c, .aside) ∈ b.holders) :
      Step passing b { b with closed := b.closed ++ [(.handshake, c)] }
  /-- A handshake passes its connection. -/
  | hand {c : ConnectionId} {arrival : Arrival} {others : Multiset Holder}
      (hb : b.holders = (c, .handing arrival) ::ₘ others) :
      Step passing b { b with
        holders := (c, .lent b.calls.length) ::ₘ others
        calls := b.calls ++ [(.push arrival, .facing 0)]
        passed := b.passed ++ [arrival.connection] }
  /-- A push stores its connection. -/
  | store {i : CallerId} {arrival : Arrival} (hi : b.calls[i]? = some (.push arrival, .facing 0))
      (hl : b.lifecycle = .usable) (hr : b.isFull = false) :
      Step passing b { b with
        calls := b.calls.set i (.push arrival, .ended .stored)
        items := b.items ++ [arrival] }
  /-- A push is refused. -/
  | refuse {i : CallerId} {arrival : Arrival} {e : QueueError}
      (hi : b.calls[i]? = some (.push arrival, .facing 0)) (hl : b.lifecycle = .destroyed) :
      Step passing b { b with
        calls := b.calls.set i (.push arrival, .ended (.refused arrival e)) }
  /-- A handshake sees that its connection was stored. -/
  | settle {c : ConnectionId} {i : CallerId} {arrival : Arrival} {others : Multiset Holder}
      (hb : b.holders = (c, .lent i) ::ₘ others)
      (hi : b.calls[i]? = some (.push arrival, .ended .stored)) :
      Step passing b { b with holders := (c, .given) ::ₘ others }
  /-- A handshake sees that its connection was refused, and the connection is closed. -/
  | discharge {c : ConnectionId} {i : CallerId} {arrival held : Arrival} {e : QueueError}
      {others : Multiset Holder} (hb : b.holders = (c, .lent i) ::ₘ others)
      (hi : b.calls[i]? = some (.push held, .ended (.refused arrival e))) :
      Step passing b { b with
        holders := (c, .given) ::ₘ others
        closed := b.closed ++ [(.handOver, arrival.connection)] }
  /-- The consumer asks for a connection. -/
  | ask : Step passing b { b with calls := b.calls ++ [(.pop none, .facing 0)] }
  /-- The call of the consumer is over and has taken nothing. -/
  | forgo {i : CallerId} {deadline : Option Nat} {spot : Spot Arrival}
      (hi : b.calls[i]? = some (.pop deadline, .facing 0)) (hs : ∀ q, spot ≠ .facing q) :
      Step passing b { b with calls := b.calls.set i (.pop deadline, spot) }
  /-- The call of the consumer takes a connection. -/
  | take {i : CallerId} {deadline : Option Nat} {arrival : Arrival} {rest : List Arrival}
      (hi : b.calls[i]? = some (.pop deadline, .facing 0)) (hitems : b.items = arrival :: rest) :
      Step passing b { b with
        calls := b.calls.set i (.pop deadline, .ended (.took arrival))
        items := rest
        hand := arrival.connection ::ₘ b.hand }
  /-- The wait takes a connection. -/
  | takeNow {arrival : Arrival} {rest : List Arrival} (hitems : b.items = arrival :: rest) :
      Step passing b { b with items := rest, hand := arrival.connection ::ₘ b.hand }
  /-- The consumer or the wait closes a connection that it took. -/
  | release {closer : Closer} {c : ConnectionId} {hand : Multiset ConnectionId}
      (hc : closer = .consumer ∨ closer = .wait) (hb : b.hand = c ::ₘ hand) :
      Step passing b { b with hand, closed := b.closed ++ [(closer, c)] }

/-- Entries one after another. -/
abbrev Path (passing : Bool) : Books → Books → Prop := Relation.ReflTransGen (Step passing)

/-! ## What is right in the books -/

/-- What is right for a push at this spot whose connection is abroad so many times. -/
def Accounts (arrival : Arrival) (abroad : Nat) : Spot Arrival → Prop
  | .facing _ => abroad = 0
  | .ended .stored => abroad = 1
  | .ended (.refused given _) => given = arrival ∧ abroad = 0
  | _ => False

/-- What is right for a connection that is abroad so many times. -/
def Fits (calls : List Call) (abroad : Nat) (x : Holder) : Prop :=
  match x.2 with
  | .own => abroad = 0
  | .handing arrival => arrival.connection = x.1 ∧ abroad = 0
  | .lent i => ∃ arrival spot, calls[i]? = some (.push arrival, spot) ∧
      arrival.connection = x.1 ∧ Accounts arrival abroad spot
  | .given => abroad = 1
  | .aside => True
  | .odd => False

/-- Whether the queue has refused a connection. -/
def Refused (b : Books) (c : ConnectionId) : Prop :=
  ∃ (i : CallerId) (arrival : Arrival) (e : QueueError),
    b.calls[i]? = some (.push arrival, .ended (.refused arrival e)) ∧ arrival.connection = c

/-- What is right in the books. -/
structure Right (b : Books) : Prop where
  /-- A connection has at most one handshake. -/
  distinct : (b.holders.map Prod.fst).Nodup
  /-- What the queue was given has a handshake. -/
  held : ∀ c, b.abroad c ≠ 0 → c ∈ b.holders.map Prod.fst
  /-- Every connection is where its handshake says. -/
  fits : ∀ x ∈ b.holders, Fits b.calls (b.abroad x.1) x
  /-- Every push that is not over has a handshake that waits for it. -/
  lent : ∀ i arrival q, b.calls[i]? = some (.push arrival, .facing q) →
    (arrival.connection, .lent i) ∈ b.holders
  /-- Every connection that was passed has a handshake that passed it. -/
  passed : ∀ c ∈ b.passed, ∃ share : Share, (c, share) ∈ b.holders ∧ share.isPassed = true
  /-- A handshake closes only a connection that it does not pass. -/
  closed : ∀ c, (.handshake, c) ∈ b.closed → (c, .aside) ∈ b.holders
  /-- A hand-over closes only a connection that the queue has refused. -/
  refused : ∀ c, (.handOver, c) ∈ b.closed → b.Refused c

variable {b b' : Books}

/-- A connection has one handshake. -/
theorem Right.unique (hb : Right b) {x y : Holder} (hx : x ∈ b.holders) (hy : y ∈ b.holders)
    (h : x.1 = y.1) : x = y := Multiset.inj_on_of_nodup_map hb.distinct x hx y hy h

/-- The call of a handshake that waits for a push. -/
theorem Right.call_of_lent (hb : Right b) {c : ConnectionId} {i : CallerId}
    (hx : (c, .lent i) ∈ b.holders) : ∃ arrival spot, b.calls[i]? = some (.push arrival, spot) ∧
      arrival.connection = c ∧ Accounts arrival (b.abroad c) spot := hb.fits _ hx

/-- What is right depends only on the call that is waited for. -/
theorem Fits.congr {calls calls' : List Call} {n : Nat} {x : Holder} (hf : Fits calls n x)
    (hc : ∀ i, x.2 = .lent i → calls'[i]? = calls[i]?) : Fits calls' n x := by
  obtain ⟨c, share⟩ := x
  cases share with
  | lent i =>
    obtain ⟨arrival, spot, hi, hrest⟩ := hf
    exact ⟨arrival, spot, (hc i rfl).trans hi, hrest⟩
  | _ => exact hf

/-- The other handshakes have other connections. -/
theorem Right.ne_of_others (hb : Right b) {c : ConnectionId} {share : Share}
    {others : Multiset Holder} (hold : b.holders = (c, share) ::ₘ others) {x : Holder}
    (hx : x ∈ others) : x.1 ≠ c := by
  rintro rfl
  have hdistinct := hb.distinct
  rw [hold, Multiset.map_cons, Multiset.nodup_cons] at hdistinct
  exact hdistinct.1 (Multiset.mem_map.mpr ⟨x, hx, rfl⟩)

/-- Books in which one handshake has to do with its connection in another way are right if
they are right about this one. -/
theorem Right.change (hb : Right b) {c : ConnectionId} {share share' : Share}
    {others : Multiset Holder} (hold : b.holders = (c, share) ::ₘ others)
    (hnew : b'.holders = (c, share') ::ₘ others)
    (hcalls : ∀ x ∈ others, ∀ i, x.2 = .lent i → b'.calls[i]? = b.calls[i]?)
    (habroad : ∀ d, d ≠ c → b'.abroad d = b.abroad d)
    (hfits : Fits b'.calls (b'.abroad c) (c, share'))
    (hlent : ∀ i arrival q, b'.calls[i]? = some (.push arrival, .facing q) →
      (arrival.connection, .lent i) ∈ b'.holders)
    (hpassed : ∀ d ∈ b'.passed, ∃ share : Share, (d, share) ∈ b'.holders ∧ share.isPassed = true)
    (hclosed : ∀ d, (.handshake, d) ∈ b'.closed → (d, .aside) ∈ b'.holders)
    (hrefused : ∀ d, (.handOver, d) ∈ b'.closed → b'.Refused d) : Right b' := by
  have hmap : b'.holders.map Prod.fst = b.holders.map Prod.fst := by
    rw [hold, hnew, Multiset.map_cons, Multiset.map_cons]
  refine ⟨hmap ▸ hb.distinct, fun d hd => ?_, fun x hx => ?_, hlent, hpassed, hclosed, hrefused⟩
  · rw [hmap]
    by_cases hdc : d = c
    · subst hdc
      rw [hold, Multiset.map_cons]
      exact Multiset.mem_cons_self _ _
    · exact hb.held d (habroad d hdc ▸ hd)
  · rw [hnew] at hx
    obtain rfl | hother := Multiset.mem_cons.mp hx
    · exact hfits
    · rw [habroad x.1 (hb.ne_of_others hold hother)]
      have hbefore : x ∈ b.holders := hold ▸ Multiset.mem_cons_of_mem hother
      exact (hb.fits x hbefore).congr (hcalls x hother)

/-- Books in which handshakes and pushes are as they were are right. -/
theorem Right.keep (hb : Right b) (hholders : b'.holders = b.holders)
    (hcalls : ∀ (i : CallerId) (arrival : Arrival) (spot : Spot Arrival),
      b'.calls[i]? = some (Request.push arrival, spot) ↔
        b.calls[i]? = some (Request.push arrival, spot))
    (habroad : ∀ d, b'.abroad d = b.abroad d) (hpassed : b'.passed = b.passed)
    (hclosed : ∀ d, (.handshake, d) ∈ b'.closed → (d, .aside) ∈ b.holders)
    (hrefused : ∀ d, (.handOver, d) ∈ b'.closed → b'.Refused d) : Right b' := by
  refine ⟨hholders ▸ hb.distinct, fun d hd => ?_, fun x hx => ?_, fun i arrival q hi => ?_, ?_, ?_,
    hrefused⟩
  · rw [hholders]
    exact hb.held d (habroad d ▸ hd)
  · rw [hholders] at hx
    have hfits := hb.fits x hx
    rw [habroad]
    obtain ⟨c, share⟩ := x
    cases share with
    | lent i =>
      obtain ⟨arrival, spot, hi, hrest⟩ := hfits
      exact ⟨arrival, spot, (hcalls i arrival spot).mpr hi, hrest⟩
    | _ => exact hfits
  · rw [hholders]
    exact hb.lent i arrival q ((hcalls i arrival _).mp hi)
  · rw [hholders, hpassed]
    exact hb.passed
  · rw [hholders]
    exact hclosed

/-! ## What the queue has refused -/

/-- A call that is over stays as it is. -/
theorem Step.over_kept {passing : Bool} (h : Step passing b b') {i : CallerId}
    {request : Request Arrival} {spot : Spot Arrival} (hi : b.calls[i]? = some (request, spot))
    (hover : ∀ q, spot ≠ .facing q) : b'.calls[i]? = some (request, spot) := by
  have hlt := (List.getElem?_eq_some_iff.mp hi).1
  have hset {j : CallerId} {other : Request Arrival} (call : Call)
      (hj : b.calls[j]? = some (other, .facing 0)) :
      (b.calls.set j call)[i]? = some (request, spot) := by
    rw [List.getElem?_set_ne ?_]
    · exact hi
    · rintro rfl
      rw [hi] at hj
      cases hj
      exact hover 0 rfl
  cases h with
  | hand | ask => exact (List.getElem?_append_left hlt).trans hi
  | store hj | refuse hj | forgo hj | take hj => exact hset _ hj
  | _ => exact hi

/-- Whoever hands over a connection closes it only after it was refused. -/
theorem Step.refused {passing : Bool} (h : Step passing b b') (hb : Right b) :
    ∀ c, (.handOver, c) ∈ b'.closed → b'.Refused c := by
  have hkept (c : ConnectionId) (hc : (.handOver, c) ∈ b.closed) : b'.Refused c := by
    obtain ⟨i, arrival, e, hi, hconnection⟩ := hb.refused c hc
    exact ⟨i, arrival, e, h.over_kept hi (by simp), hconnection⟩
  cases h with
  | close =>
    intro c hc
    exact hkept c (by simpa using hc)
  | @discharge c i arrival held e others hold hi =>
    intro d hd
    obtain hd | hd := List.mem_append.mp hd
    · exact hkept d hd
    · obtain rfl : d = arrival.connection := by simpa using hd
      obtain ⟨found, spot, hfound, -, hright⟩ :=
        hb.call_of_lent (hold ▸ Multiset.mem_cons_self _ _)
      rw [hi] at hfound
      cases hfound
      obtain ⟨rfl, -⟩ := hright
      exact ⟨i, arrival, e, hi, rfl⟩
  | @release closer c hand hc hhand =>
    intro d hd
    obtain rfl | rfl := hc
    · exact hkept d (by simpa using hd)
    · exact hkept d (by simpa using hd)
  | _ => exact hkept

/-! ## Every entry keeps it right -/

/-- What is abroad, entry by entry. -/
theorem foreign?_handshake (closed : List (Closer × ConnectionId)) (c : ConnectionId) :
    (closed ++ [(Closer.handshake, c)]).filterMap foreign? = closed.filterMap foreign? := by
  simp [foreign?]

/-- Who is not a handshake is listed as a foreign closer of what it closes. -/
theorem foreign?_other (closed : List (Closer × ConnectionId)) {closer : Closer}
    (h : closer ≠ .handshake) (c : ConnectionId) :
    (closed ++ [(closer, c)]).filterMap foreign? = closed.filterMap foreign? ++ [c] := by
  simp [foreign?, h]

/-- What somebody else closes is not closed by a handshake. -/
theorem mem_closed_other {closed : List (Closer × ConnectionId)} {closer : Closer}
    (h : closer ≠ .handshake) {c d : ConnectionId} :
    (Closer.handshake, d) ∈ closed ++ [(closer, c)] ↔ (Closer.handshake, d) ∈ closed := by
  simp [Ne.symm h]

/-- What is taken out of the queue goes into a hand. -/
theorem count_taken (arrival : Arrival) (rest : List Arrival) (hand : Multiset ConnectionId)
    (c : ConnectionId) : ((arrival :: rest).map Arrival.connection).count c + hand.count c =
      (rest.map Arrival.connection).count c + (arrival.connection ::ₘ hand).count c := by
  rw [List.map_cons]
  by_cases hc : arrival.connection = c
  · subst hc
    rw [List.count_cons_self, Multiset.count_cons_self]
    omega
  · rw [List.count_cons_of_ne hc, Multiset.count_cons_of_ne (Ne.symm hc)]

/-- A pop that goes on is no push. -/
theorem getElem?_set_pop {calls : List Call} {i : CallerId} {deadline : Option Nat}
    {spot spot' : Spot Arrival} (hi : calls[i]? = some (.pop deadline, spot)) (j : CallerId)
    (arrival : Arrival) (end' : Spot Arrival) :
    (calls.set i (.pop deadline, spot'))[j]? = some (Request.push arrival, end') ↔
      calls[j]? = some (Request.push arrival, end') := by
  rw [List.getElem?_set]
  split
  · next hij =>
    subst hij
    simp [hi]
  · exact Iff.rfl

/-- Handshakes change in one place only, so what they passed is as it was there. -/
theorem passed_of_cons {passed : List ConnectionId} {holders : Multiset Holder}
    {c : ConnectionId} {share share' : Share} {others : Multiset Holder}
    (hp : ∀ d ∈ passed, ∃ share : Share, (d, share) ∈ holders ∧ share.isPassed = true)
    (hold : holders = (c, share) ::ₘ others)
    (hs : share.isPassed = true → share'.isPassed = true) :
    ∀ d ∈ passed, ∃ share : Share, (d, share) ∈ (c, share') ::ₘ others ∧ share.isPassed = true := by
  intro d hd
  obtain ⟨found, hfound, hpassed⟩ := hp d hd
  rw [hold] at hfound
  obtain heq | hother := Multiset.mem_cons.mp hfound
  · obtain ⟨rfl, rfl⟩ := Prod.mk.inj heq
    exact ⟨share', Multiset.mem_cons_self _ _, hs hpassed⟩
  · exact ⟨found, Multiset.mem_cons_of_mem hother, hpassed⟩

/-- A member that is another one than the one that changes is a member after that. -/
theorem mem_of_cons {holders others : Multiset Holder} {c d : ConnectionId}
    {share share' other : Share} (h : (d, other) ∈ holders)
    (hold : holders = (c, share) ::ₘ others) (hs : other ≠ share) :
    (d, other) ∈ (c, share') ::ₘ others := by
  rw [hold] at h
  obtain heq | hother := Multiset.mem_cons.mp h
  · exact absurd (Prod.mk.inj heq).2 hs
  · exact Multiset.mem_cons_of_mem hother

/-- The books stay right when a handshake begins with a connection that nobody holds. -/
theorem right_start (hb : Right b) {c : ConnectionId} (hc : c ∉ b.holders.map Prod.fst) :
    Right { b with holders := (c, .own) ::ₘ b.holders } := by
  have hmore {x : Holder} (hx : x ∈ b.holders) : x ∈ (c, Share.own) ::ₘ b.holders :=
    Multiset.mem_cons_of_mem hx
  refine ⟨?_, fun d hd => ?_, fun x hx => ?_, fun i arrival q hi => hmore (hb.lent i arrival q hi),
    fun d hd => ?_, fun d hd => hmore (hb.closed d hd), hb.refused⟩
  · rw [Multiset.map_cons]
    exact Multiset.nodup_cons.mpr ⟨hc, hb.distinct⟩
  · rw [Multiset.map_cons]
    exact Multiset.mem_cons_of_mem (hb.held d hd)
  · obtain rfl | hx := Multiset.mem_cons.mp hx
    · exact not_not.mp fun hn => hc (hb.held c hn)
    · exact hb.fits x hx
  · obtain ⟨share, hshare, hpassed⟩ := hb.passed d hd
    exact ⟨share, hmore hshare, hpassed⟩

/-- A handshake that has its connection for itself, or passes it next, moves on. -/
theorem right_move (hb : Right b) {c : ConnectionId} {share share' : Share}
    {others : Multiset Holder} (hold : b.holders = (c, share) ::ₘ others)
    (hs : share = .own) (hfits : Fits b.calls (b.abroad c) (c, share')) :
    Right { b with holders := (c, share') ::ₘ others } := by
  subst hs
  refine hb.change hold rfl (fun _ _ _ _ => rfl) (fun _ _ => rfl) hfits
    (fun i arrival q hi => mem_of_cons (hb.lent i arrival q hi) hold (by simp))
    (passed_of_cons hb.passed hold (by simp [Share.isPassed]))
    (fun d hd => mem_of_cons (hb.closed d hd) hold (by simp)) hb.refused

/-- The books stay right when a handshake calls for its connection to be stored. -/
theorem right_hand (hb : Right b) {c : ConnectionId} {arrival : Arrival}
    {others : Multiset Holder} (hold : b.holders = (c, .handing arrival) ::ₘ others)
    (hrefused : ∀ d, (.handOver, d) ∈ b.closed →
      Refused { b with calls := b.calls ++ [(.push arrival, .facing 0)] } d) :
    Right { b with
      holders := (c, .lent b.calls.length) ::ₘ others
      calls := b.calls ++ [(.push arrival, .facing 0)]
      passed := b.passed ++ [arrival.connection] } := by
  have hmem : (c, .handing arrival) ∈ b.holders := hold ▸ Multiset.mem_cons_self _ _
  obtain ⟨hconnection, habroad⟩ := hb.fits _ hmem
  obtain rfl : arrival.connection = c := hconnection
  refine hb.change hold rfl (fun x hx i hi => ?_) (fun _ _ => rfl)
    ⟨arrival, .facing 0, List.getElem?_concat_length, rfl, habroad⟩ (fun i other q hi => ?_)
    (fun d hd => ?_) (fun d hd => mem_of_cons (hb.closed d hd) hold (by simp)) hrefused
  · obtain ⟨c, share⟩ := x
    obtain rfl : share = .lent i := hi
    obtain ⟨_, _, hi, -⟩ := hb.call_of_lent (hold ▸ Multiset.mem_cons_of_mem hx)
    exact List.getElem?_append_left (List.getElem?_eq_some_iff.mp hi).1
  · obtain hlt | hge := Nat.lt_or_ge i b.calls.length
    · rw [List.getElem?_append_left hlt] at hi
      exact mem_of_cons (hb.lent i other q hi) hold (by simp)
    · rw [List.getElem?_append_right hge, List.getElem?_singleton] at hi
      split at hi
      · next hzero =>
        cases hi
        obtain rfl := Nat.le_antisymm (Nat.sub_eq_zero_iff_le.mp hzero) hge
        exact Multiset.mem_cons_self _ _
      · cases hi
  · obtain hd | hd := List.mem_append.mp hd
    · exact passed_of_cons hb.passed hold (by simp [Share.isPassed]) d hd
    · obtain rfl := List.mem_singleton.mp hd
      exact ⟨.lent b.calls.length, Multiset.mem_cons_self _ _, rfl⟩

/-- A push that is over changes what is right for its own connection alone. -/
theorem right_push_over (hb : Right b) {i : CallerId} {arrival : Arrival}
    (hi : b.calls[i]? = some (.push arrival, .facing 0)) {items : List Arrival}
    {spot : Spot Arrival} (hspot : ∀ q, spot ≠ .facing q)
    (hother : ∀ d, d ≠ arrival.connection →
      (items.map Arrival.connection).count d = (b.items.map Arrival.connection).count d)
    (hown : b.abroad arrival.connection = 0 → Accounts arrival
      (abroad { b with items } arrival.connection) spot)
    (hrefused : ∀ d, (.handOver, d) ∈ b.closed →
      Refused { b with calls := b.calls.set i (.push arrival, spot) } d) :
    Right { b with calls := b.calls.set i (.push arrival, spot), items } := by
  have hlent := hb.lent i arrival 0 hi
  obtain ⟨others, hold⟩ := Multiset.exists_cons_of_mem hlent
  have hlt := (List.getElem?_eq_some_iff.mp hi).1
  have habroad : b.abroad arrival.connection = 0 := by
    obtain ⟨held, found, hfound, -, hright⟩ := hb.call_of_lent hlent
    rw [hi] at hfound
    cases hfound
    exact hright
  refine hb.change hold hold (fun x hx j hj => ?_) (fun d hd => ?_)
    ⟨arrival, spot, List.getElem?_set_self hlt, rfl, hown habroad⟩ (fun j other q hj => ?_)
    hb.passed hb.closed hrefused
  · refine List.getElem?_set_ne ?_
    rintro rfl
    obtain ⟨c, share⟩ := x
    obtain rfl : share = .lent i := hj
    obtain ⟨held, found, hfound, hc, -⟩ :=
      hb.call_of_lent (hold ▸ Multiset.mem_cons_of_mem hx)
    rw [hi] at hfound
    cases hfound
    exact hb.ne_of_others hold hx hc.symm
  · simp only [abroad, hother d hd]
  · rw [List.getElem?_set] at hj
    split_ifs at hj with hij
    · cases hj
      exact absurd rfl (hspot q)
    · exact hb.lent j other q hj

/-- A handshake whose push is over has handed its connection over. -/
theorem right_given (hb : Right b) {c : ConnectionId} {i : CallerId} {others : Multiset Holder}
    (hold : b.holders = (c, .lent i) ::ₘ others) {request : Request Arrival}
    {spot : Spot Arrival} (hi : b.calls[i]? = some (request, spot))
    (hspot : ∀ q, spot ≠ .facing q) {closed : List (Closer × ConnectionId)}
    (hclosed : ∀ d, (.handshake, d) ∈ closed → (.handshake, d) ∈ b.closed)
    (hother : ∀ d, d ≠ c →
      (closed.filterMap foreign?).count d = (b.closed.filterMap foreign?).count d)
    (hown : abroad { b with closed } c = 1)
    (hrefused : ∀ d, (.handOver, d) ∈ closed → b.Refused d) :
    Right { b with holders := (c, .given) ::ₘ others, closed } := by
  refine hb.change hold rfl (fun _ _ _ _ => rfl) (fun d hd => ?_) hown (fun j other q hj => ?_)
    (passed_of_cons hb.passed hold fun _ => rfl)
    (fun d hd => mem_of_cons (hb.closed d (hclosed d hd)) hold (by simp)) hrefused
  · simp only [abroad, hother d hd]
  · refine mem_of_cons (hb.lent j other q hj) hold ?_
    rintro heq
    obtain rfl := Share.lent.inj heq
    rw [hi] at hj
    cases hj
    exact hspot q rfl

/-- Every entry keeps the books right. -/
theorem Step.right {passing : Bool} (h : Step passing b b') (hb : Right b) : Right b' := by
  have hrefused := h.refused hb
  cases h with
  | rest => exact hb
  | start hc => exact right_start hb hc
  | @pass c arrival others hp hold ha =>
    have hmem : (c, .own) ∈ b.holders := hold ▸ Multiset.mem_cons_self _ _
    have habroad : b.abroad c = 0 := hb.fits _ hmem
    exact right_move hb hold rfl ⟨ha, habroad⟩
  | turnAway hold => exact right_move hb hold rfl trivial
  | @close c hc =>
    refine hb.keep rfl (fun _ _ _ => Iff.rfl) (fun d => ?_) rfl (fun d hd => ?_) hrefused
    · simp only [abroad, foreign?_handshake]
    · obtain hd | hd := List.mem_append.mp hd
      · exact hb.closed d hd
      · obtain rfl : d = c := by simpa using hd
        exact hc
  | hand hold => exact right_hand hb hold hrefused
  | @store i arrival hi hl hr =>
    refine right_push_over hb hi (by simp) (fun d hd => ?_) (fun habroad => ?_) hrefused
    · simp [Ne.symm hd]
    · simp only [abroad] at habroad ⊢
      simp only [Accounts, List.map_append, List.map_cons, List.map_nil, List.count_append,
        List.count_singleton_self]
      omega
  | refuse hi hl =>
    exact right_push_over hb hi (by simp) (fun _ _ => rfl) (fun habroad => ⟨rfl, habroad⟩) hrefused
  | @settle c i arrival others hold hi =>
    obtain ⟨held, spot, hfound, -, hright⟩ :=
      hb.call_of_lent (hold ▸ Multiset.mem_cons_self _ _)
    rw [hi] at hfound
    cases hfound
    exact right_given hb hold hi (by simp) (fun _ hd => hd) (fun _ _ => rfl) hright hrefused
  | @discharge c i arrival held e others hold hi =>
    obtain ⟨found, spot, hfound, rfl, hright⟩ :=
      hb.call_of_lent (hold ▸ Multiset.mem_cons_self _ _)
    rw [hi] at hfound
    cases hfound
    obtain ⟨rfl, habroad⟩ := hright
    have hforeign := foreign?_other b.closed (show Closer.handOver ≠ .handshake by simp)
      arrival.connection
    refine right_given hb hold hi (by simp) (fun d hd => (mem_closed_other (by simp)).mp hd)
      (fun d hd => ?_) ?_ hrefused
    · rw [hforeign]
      simp [Ne.symm hd]
    · simp only [abroad, hforeign, List.count_append, List.count_singleton_self] at habroad ⊢
      omega
  | ask =>
    refine hb.keep rfl (fun i arrival spot => ?_) (fun _ => rfl) rfl hb.closed hrefused
    rw [List.getElem?_append]
    split
    · exact Iff.rfl
    · next hge =>
      rw [List.getElem?_eq_none (Nat.le_of_not_lt hge), List.getElem?_singleton]
      split <;> simp
  | forgo hi =>
    exact hb.keep rfl (fun j _ _ => getElem?_set_pop hi j _ _) (fun _ => rfl) rfl hb.closed hrefused
  | take hi hitems =>
    refine hb.keep rfl (fun j _ _ => getElem?_set_pop hi j _ _) (fun d => ?_) rfl hb.closed hrefused
    simp only [abroad, hitems, count_taken]
  | takeNow hitems =>
    refine hb.keep rfl (fun _ _ _ => Iff.rfl) (fun d => ?_) rfl hb.closed hrefused
    simp only [abroad, hitems, count_taken]
  | @release closer c hand hc hhand =>
    have hforeign : closer ≠ .handshake := by
      obtain rfl | rfl := hc <;> simp
    refine hb.keep rfl (fun _ _ _ => Iff.rfl) (fun d => ?_) rfl
      (fun d hd => hb.closed d ((mem_closed_other hforeign).mp hd)) hrefused
    simp only [abroad, hhand, foreign?_other b.closed hforeign, List.count_append]
    by_cases hd : c = d
    · subst hd
      rw [Multiset.count_cons_self, List.count_singleton_self]
      omega
    · rw [Multiset.count_cons_of_ne (Ne.symm hd), List.count_singleton, if_neg (by simpa using hd)]
      omega

/-- The books stay right through any number of entries. -/
theorem Path.right {passing : Bool} (h : Path passing b b') (hb : Right b) : Right b' := by
  induction h with
  | refl => exact hb
  | tail _ step ih => exact step.right ih

/-! ## What entries leave as it is -/

/-- What the wait alone changes of the event queue: only it takes the alarm off and destroys
the queue, and nothing gets into a queue that is destroyed. -/
structure Stays (b b' : Books) : Prop where
  lifecycle : b'.lifecycle = b.lifecycle
  alarm : b'.alarm = b.alarm
  capacity : b'.capacity = b.capacity
  empty : b.lifecycle = .destroyed → b.items = [] → b'.items = []

/-- An entry leaves the lifecycle, the alarm and the capacity, and puts nothing into an empty
queue that is destroyed. -/
theorem Step.stays {passing : Bool} (h : Step passing b b') : Stays b b' := by
  cases h with
  | store hi hl hr => exact ⟨rfl, rfl, rfl, fun hd => by cases hl.symm.trans hd⟩
  | take hi hitems => exact ⟨rfl, rfl, rfl, fun _ he => by cases hitems.symm.trans he⟩
  | takeNow hitems => exact ⟨rfl, rfl, rfl, fun _ he => by cases hitems.symm.trans he⟩
  | _ => exact ⟨rfl, rfl, rfl, fun _ he => he⟩

/-- Any number of entries leave the lifecycle, the alarm and the capacity, and put nothing into an
empty queue that is destroyed. -/
theorem Path.stays {passing : Bool} (h : Path passing b b') : Stays b b' := by
  induction h with
  | refl => exact ⟨rfl, rfl, rfl, fun _ he => he⟩
  | tail _ step ih =>
    have hlast := step.stays
    exact ⟨hlast.lifecycle.trans ih.lifecycle, hlast.alarm.trans ih.alarm,
      hlast.capacity.trans ih.capacity,
      fun hd he => hlast.empty (ih.lifecycle.trans hd) (ih.empty hd he)⟩

/-- How many hand-overs are not over after one handshake has moved on. -/
theorem countP_holders_cons (c : ConnectionId) (share : Share) (others : Multiset Holder) :
    ((c, share) ::ₘ others).countP (fun x => x.2.isHanding) =
      others.countP (fun x => x.2.isHanding) + share.isHanding.toNat := by
  cases h : share.isHanding with
  | true => exact Multiset.countP_cons_of_pos _ h
  | false => exact Multiset.countP_cons_of_neg _ (by simp [h])

/-- Once no handshake leaves the set any more, a hand-over that is over does not come back, and
what lies in the queue comes from hand-overs that were not over. A call that moves on counts for
them as it did, or not any more. -/
theorem Step.pending_le (h : Step false b b') :
    b'.pending ≤ b.pending ∧ b'.pending + b'.items.length ≤ b.pending + b.items.length := by
  have hcall {i : CallerId} {call call' : Call} (hi : b.calls[i]? = some call) :
      (b.calls.set i call').countP isOpenPush + (isOpenPush call).toNat =
        b.calls.countP isOpenPush + (isOpenPush call').toNat :=
    Queue.System.countP_set_add isOpenPush call' hi
  cases h with
  | pass hp => cases hp
  | start hc | turnAway hb | settle hb hi | discharge hb hi =>
    simp only [pending, countP_holders_cons, *]
    simp [Share.isHanding]
  | hand hb =>
    simp only [pending, hb, countP_holders_cons, List.countP_append]
    simp only [Share.isHanding, List.countP_singleton, isOpenPush]
    simp
    omega
  | @store i arrival hi hl hr =>
    have hless : (b.calls.set i (.push arrival, .ended .stored)).countP isOpenPush + 1 =
      b.calls.countP isOpenPush := hcall hi
    simp only [pending, List.length_append, List.length_singleton]
    omega
  | @refuse i arrival e hi hl =>
    have hless : (b.calls.set i (.push arrival, .ended (.refused arrival e))).countP isOpenPush +
      1 = b.calls.countP isOpenPush := hcall hi
    simp only [pending]
    omega
  | @forgo i deadline spot hi hs =>
    have hsame : (b.calls.set i (.pop deadline, spot)).countP isOpenPush =
      b.calls.countP isOpenPush := hcall hi
    simp only [pending, hsame, Nat.le_refl, and_self]
  | @take i deadline arrival rest hi hitems =>
    have hsame : (b.calls.set i (.pop deadline, .ended (.took arrival))).countP isOpenPush =
      b.calls.countP isOpenPush := hcall hi
    simp only [pending, hsame, hitems, List.length_cons]
    omega
  | takeNow hitems => simp [pending, hitems]
  | ask => simp [pending, isOpenPush]
  | _ => simp [pending]

/-- Once no handshake leaves the set any more, no number of entries adds to what is to be closed.
-/
theorem Path.pending_le (h : Path false b b') :
    b'.pending ≤ b.pending ∧ b'.pending + b'.items.length ≤ b.pending + b.items.length := by
  induction h with
  | refl => exact ⟨Nat.le_refl _, Nat.le_refl _⟩
  | tail _ step ih =>
    obtain ⟨hpending, hitems⟩ := step.pending_le
    exact ⟨Nat.le_trans hpending ih.1, Nat.le_trans hitems ih.2⟩

end Books

end Diameter.Daemon
