import Diameter.Message.Draft
import Diameter.Proofs.Handshake.Opening
import Diameter.Proofs.Listener.Verdicts

/-!
# What the peer layer is given

A wait takes at most one thing from its connection, and what it takes decides it. Main statement:
whatever happens in whatever order, the message that a listener with the base codec gives to the
peer layer opens an exchange and was read from the very frame that the wait of this handshake took
from this connection; and a frame that opens an exchange is accepted by every wait that takes it.
-/

namespace Diameter

namespace Handshake

/-! ## A turn and the inbox -/

/-- What a turn of a wait does with what can be received: it leaves everything there and accepts
nothing, or it takes the first thing and is decided by it. -/
inductive Turn (codec : Codec) (c : Connection) : Wait ⊕ Decision → Connection → Prop where
  /-- Everything is left. -/
  | leaves {next : Wait ⊕ Decision} {after : Connection} (hi : after.inbox = c.inbox)
      (hn : ∀ m, next ≠ .inr (.judged (.accepted m))) : Turn codec c next after
  /-- The first thing is taken. -/
  | takes {result : Except ConnectionError Octets} {rest : List (Except ConnectionError Octets)}
      {after : Connection} (hc : c.inbox = result :: rest) (hi : after.inbox = rest) :
      Turn codec c (.inr (.judged (Script.classify codec result))) after

/-- The decision that progress comes to, if it does. -/
def decided : Wait ⊕ Verdict → Wait ⊕ Decision
  | .inl wait => .inl wait
  | .inr verdict => .inr (.judged verdict)

variable {terms : Terms} {c : Connection}

theorem turn_awaitMessage : Turn terms.codec c (decided (awaitMessage terms c).1)
    (awaitMessage terms c).2 := by
  unfold awaitMessage takeMessage Connection.receive
  rcases hinbox : c.inbox with _ | ⟨result, rest⟩
  · cases c.ended with
    | false => exact .leaves rfl nofun
    | true => exact .leaves rfl nofun
  · cases result with
    | error e => exact .takes hinbox rfl
    | ok frame => exact .takes hinbox rfl

/-- What counts is what can be received. -/
theorem Turn.of_inbox {codec : Codec} {before after : Connection} {next : Wait ⊕ Decision}
    (h : Turn codec before next after) (hi : before.inbox = c.inbox) :
    Turn codec c next after := by
  cases h with
  | leaves hsame hn => exact .leaves (hsame.trans hi) hn
  | takes hc hrest => exact .takes (hi.symm.trans hc) hrest

theorem turn_awaitTls (now done : Nat) : Turn terms.codec c
    (decided (awaitTls terms now done c).1) (awaitTls terms now done c).2 := by
  unfold awaitTls
  split
  · exact .leaves rfl nofun
  · split
    · exact .leaves rfl nofun
    · have hasked : (askMessage c).2.inbox = c.inbox := rfl
      exact turn_awaitMessage.of_inbox hasked

theorem turn_progress (terms : Terms) (now : Nat) (wait : Wait) (c : Connection) :
    Turn terms.codec c (decided (progress terms now wait c).1) (progress terms now wait c).2 := by
  have hbegin : (begin terms now c).2.inbox = c.inbox := by
    unfold begin
    cases terms.security <;> rfl
  unfold progress
  cases wait with
  | turn =>
    dsimp only
    split
    · next hb =>
      rw [hb] at hbegin
      exact (turn_awaitTls _ _).of_inbox hbegin
    · next hb =>
      rw [hb] at hbegin
      exact turn_awaitMessage.of_inbox hbegin
  | tls done => exact turn_awaitTls _ _
  | message => exact turn_awaitMessage

/-- Every turn of a wait leaves everything or takes one thing. A wait that goes on has taken
nothing, so a timeout takes nothing either. -/
theorem turn_poll (terms : Terms) (now : Nat) (cancelled : Bool) (wait : Wait)
    (c : Connection) :
    Turn terms.codec c (poll terms now cancelled wait c).1 (poll terms now cancelled wait c).2 := by
  have hprogress := turn_progress terms now wait c
  unfold poll
  split
  · exact .leaves rfl nofun
  · split
    · next hp =>
      rw [hp] at hprogress
      exact hprogress
    · next wait after hp =>
      rw [hp] at hprogress
      have hleft : after.inbox = c.inbox := by
        generalize hnext : decided (.inl wait) = next at hprogress
        cases hprogress with
        | leaves hi hn => exact hi
        | takes hc hi => cases hnext
      split
      · exact .leaves hleft nofun
      · exact .leaves hleft nofun

end Handshake

namespace Listener

open Handshake (Script)

variable {l : Listener} {h : HandshakeId} {c : ConnectionId}
  {result : Except ConnectionError Octets}

/-! ## What a wait takes -/

/-- A turn of the wait of a handshake takes the first of what can be received on its
connection. -/
def TakesNow (l : Listener) (h : HandshakeId) (overlooks : Bool) (c : ConnectionId)
    (result : Except ConnectionError Octets) : Prop :=
  ∃ deadline wait connection rest, l.waiting? h = some (c, deadline, wait) ∧
    l.connections[c]? = some connection ∧ connection.inbox = result :: rest ∧
    ((l.perform (.poll h overlooks)).connections[c]?).map Connection.inbox = some rest

/-- A handshake that waits is one of those that were accepted. -/
theorem exists_of_waiting {deadline : Nat} {wait : Handshake.Wait}
    (hw : l.waiting? h = some (c, deadline, wait)) :
    ∃ token, l.handshakes[h]? = some ⟨c, deadline, token, .waiting wait⟩ := by
  unfold waiting? at hw
  split at hw
  · next token _ hx =>
    cases hw
    exact ⟨token, hx⟩
  · cases hw

/-- What is taken decides the wait. -/
theorem TakesNow.decides {overlooks : Bool} (ht : l.TakesNow h overlooks c result) :
    ∃ x, l.handshakes[h]? = some x ∧ x.connection = c ∧
      (l.perform (.poll h overlooks)).handshakes[h]? =
        some { x with phase := .leaving (.judged (Script.classify l.codec result)) } := by
  obtain ⟨deadline, wait, connection, rest, hwaiting, hc, hinbox, hrest⟩ := ht
  obtain ⟨token, hx⟩ := exists_of_waiting hwaiting
  obtain ⟨hhandshake, hconnection⟩ := perform_poll hx rfl hc overlooks
  refine ⟨_, hx, rfl, hhandshake.trans ?_⟩
  rw [hconnection, Option.map_some, Option.some.injEq] at hrest
  have hturn := Handshake.turn_poll ⟨l.security, l.codec, deadline⟩ l.now
    (!overlooks && l.isCancelled h) wait connection
  generalize Handshake.poll ⟨l.security, l.codec, deadline⟩ l.now (!overlooks && l.isCancelled h)
    wait connection = turn at hturn hrest ⊢
  obtain ⟨next, after⟩ := turn
  cases hturn with
  | leaves hi hn =>
    have hshorter := congrArg List.length (hrest.symm.trans (hi.trans hinbox))
    rw [List.length_cons] at hshorter
    omega
  | takes hc' hi =>
    rw [hinbox] at hc'
    cases hc'
    rfl

/-- A wait accepts a message only from a frame that it takes. -/
theorem takesNow_of_accepted {overlooks : Bool} {x : Accepted} {wait : Handshake.Wait}
    {connection : Connection} {m : Message} (hx : l.handshakes[h]? = some x)
    (hp : x.phase = .waiting wait) (hc : l.connections[x.connection]? = some connection)
    (ha : (Handshake.poll ⟨l.security, l.codec, x.deadline⟩ l.now (!overlooks && l.isCancelled h)
      wait connection).1 = .inr (.judged (.accepted m))) :
    ∃ frame, l.TakesNow h overlooks x.connection (.ok frame) ∧
      l.codec.judge frame = .accepted m := by
  have hconnection := (perform_poll hx hp hc overlooks).2
  have hturn := Handshake.turn_poll ⟨l.security, l.codec, x.deadline⟩ l.now
    (!overlooks && l.isCancelled h) wait connection
  generalize Handshake.poll ⟨l.security, l.codec, x.deadline⟩ l.now (!overlooks && l.isCancelled h)
    wait connection = turn at hturn hconnection ha
  obtain ⟨next, after⟩ := turn
  obtain rfl : next = .inr (.judged (.accepted m)) := ha
  generalize hnext : (Sum.inr (Handshake.Decision.judged (.accepted m)) :
    Handshake.Wait ⊕ Handshake.Decision) = next at hturn
  cases hturn with
  | leaves hi hn => exact absurd hnext.symm (hn m)
  | @takes result rest _ hinbox hi =>
    have hverdict : Script.classify l.codec result = .accepted m := by
      injection hnext with hdecision
      injection hdecision with hsame
      exact hsame.symm
    cases result with
    | error e => cases hverdict
    | ok frame =>
      have hrest : ((l.perform (.poll h overlooks)).connections[x.connection]?).map
          Connection.inbox = some rest := by
        rw [hconnection, Option.map_some, hi]
      exact ⟨frame, ⟨x.deadline, wait, connection, rest, waiting_of_phase hx hp, hc, hinbox,
        hrest⟩, hverdict⟩

/-- Handshakes stay in the list. -/
theorem Sheet.Step.length_le {e : Event} {s : Sheet} (hs : Sheet.Step l e s) :
    l.handshakes.length ≤ s.handshakes.length := by
  have hset (i : HandshakeId) (phase : Phase) :
      (l.handshakes.modify i fun x => { x with phase }).length = l.handshakes.length :=
    List.length_modify ..
  cases hs with
  | dispatched => exact Nat.le.intro List.length_append.symm
  | claimed => exact Nat.le_of_eq (hset _ _).symm
  | raised => exact Nat.le_of_eq (hset _ _).symm
  | moved => exact Nat.le_of_eq (hset _ _).symm
  | _ => exact Nat.le_refl _

/-- The message that a handshake has accepted and not given away yet. -/
def Phase.opening? : Phase → Option Message
  | .leaving (.judged (.accepted m)) => some m
  | .handing arrival => some arrival.message
  | _ => none

namespace Course

variable {k : Course} {happenings : List Happening}

/-- The wait of a handshake takes something from a connection in the course of events. -/
def Takes (k : Course) (happenings : List Happening) (h : HandshakeId) (c : ConnectionId)
    (result : Except ConnectionError Octets) : Prop :=
  ∃ earlier overlooks, earlier ++ [.own (.poll h overlooks)] <+: happenings ∧
    (k.through earlier).listener.TakesNow h overlooks c result

/-- A handshake gives its connection and its message to the peer layer. -/
def Gives (k : Course) (happenings : List Happening) (h : HandshakeId) (arrival : Arrival) :
    Prop :=
  ∃ earlier x, earlier ++ [.own (.handOver h)] <+: happenings ∧
    (k.through earlier).listener.handshakes[h]? = some x ∧ x.phase = .handing arrival

/-- What was taken was taken, whatever happens later. -/
theorem Takes.mono {more : List Happening} (ht : k.Takes happenings h c result) :
    k.Takes (happenings ++ more) h c result := by
  obtain ⟨earlier, overlooks, hprefix, hnow⟩ := ht
  exact ⟨earlier, overlooks, hprefix.trans (List.prefix_append _ _), hnow⟩

/-- What was given was given, whatever happens later. -/
theorem Gives.mono {more : List Happening} {arrival : Arrival}
    (hg : k.Gives happenings h arrival) : k.Gives (happenings ++ more) h arrival := by
  obtain ⟨earlier, x, hprefix, hx⟩ := hg
  exact ⟨earlier, x, hprefix.trans (List.prefix_append _ _), hx⟩

/-- What was taken was taken before, or just now. -/
theorem Takes.of_concat {y : Happening} (ht : k.Takes (happenings ++ [y]) h c result) :
    k.Takes happenings h c result ∨
      ∃ overlooks, y = .own (.poll h overlooks) ∧
        (k.through happenings).listener.TakesNow h overlooks c result := by
  obtain ⟨earlier, overlooks, hprefix, hnow⟩ := ht
  rcases List.prefix_concat_iff.mp hprefix with hall | hbefore
  · obtain ⟨rfl, hlast⟩ := List.append_inj' hall rfl
    obtain rfl := List.singleton_injective hlast
    exact .inr ⟨overlooks, rfl, hnow⟩
  · exact .inl ⟨earlier, overlooks, hbefore, hnow⟩

/-- Handshakes that are there stay there. -/
theorem exists_handshake_through {x : Accepted} (hx : k.listener.handshakes[h]? = some x)
    (happenings : List Happening) :
    ∃ y, (k.through happenings).listener.handshakes[h]? = some y := by
  have hlength := through_induction
    (P := fun m => k.listener.handshakes.length ≤ m.listener.handshakes.length)
    (Nat.le_refl _) (fun m y hm => by
      cases y with
      | own e => exact Nat.le_trans hm (sheet_perform m.listener e).length_le
      | around surroundings => exact hm) happenings
  have hlt : h < (k.through happenings).listener.handshakes.length :=
    Nat.lt_of_lt_of_le (List.getElem?_eq_some_iff.mp hx).1 hlength
  exact ⟨_, List.getElem?_eq_getElem hlt⟩

/-! ## What is known of a handshake -/

/-- What was taken for a handshake, accepted by it and given away. -/
structure Vouched (k : Course) (happenings : List Happening) (h : HandshakeId) (x : Accepted) :
    Prop where
  /-- While it waits nothing has been taken. -/
  waiting : ∀ wait, x.phase = .waiting wait → ∀ c result, ¬ k.Takes happenings h c result
  /-- Only one thing is taken. -/
  once : ∀ c c' result result', k.Takes happenings h c result →
    k.Takes happenings h c' result' → c = c' ∧ result = result'
  /-- What is accepted was taken from its own connection. -/
  accepted : ∀ m, x.phase.opening? = some m → ∃ frame,
    k.Takes happenings h x.connection (.ok frame) ∧ k.listener.codec.judge frame = .accepted m
  /-- The connection that is given is its own. -/
  own : ∀ arrival, x.phase = .handing arrival → arrival.connection = x.connection
  /-- Who is handed off has been given. -/
  given : x.phase.outcome? = some .handedOff → (∀ arrival, x.phase ≠ .handing arrival) →
    ∃ arrival, k.Gives happenings h arrival

/-- Nothing is known of a handshake before it starts, and all that counts after that. -/
def Known (k : Course) (happenings : List Happening) (h : HandshakeId) : Prop :=
  (∀ x, (k.through happenings).listener.handshakes[h]? = some x → k.Vouched happenings h x) ∧
    ((k.through happenings).listener.handshakes[h]? = none →
      ∀ c result, ¬ k.Takes happenings h c result)

/-- A handshake that takes something is decided by that. It had taken nothing before, so this is
the only time. -/
theorem Known.of_takesNow (hk : k.Known happenings h) {overlooks : Bool}
    (ht : (k.through happenings).listener.TakesNow h overlooks c result) {y : Accepted}
    (hy : ((k.through happenings).listener.perform (.poll h overlooks)).handshakes[h]? = some y) :
    k.Vouched (happenings ++ [.own (.poll h overlooks)]) h y := by
  have hcodec : (k.through happenings).listener.codec = k.listener.codec :=
    congrArg AcceptTerms.codec (bearings_through k happenings).1
  obtain ⟨x, hx, hconnection, hafter⟩ := ht.decides
  obtain rfl := Option.some.inj (hafter.symm.trans hy)
  obtain ⟨deadline, wait, connection, rest, hwaiting, hfound, hinbox, -⟩ := id ht
  obtain ⟨token, hsame⟩ := exists_of_waiting hwaiting
  obtain rfl := Option.some.inj (hsame.symm.trans hx)
  have hnever := (hk.1 _ hx).waiting wait rfl
  have honly (c' : ConnectionId) (result' : Except ConnectionError Octets)
      (ht' : k.Takes (happenings ++ [.own (.poll h overlooks)]) h c' result') :
      c' = c ∧ result' = result := by
    rcases ht'.of_concat with hbefore | ⟨_, -, hnow⟩
    · exact absurd hbefore (hnever c' result')
    · obtain ⟨_, _, connection', rest', hwaiting', hfound', hinbox', -⟩ := hnow
      rw [hwaiting, Option.some.injEq, Prod.mk.injEq] at hwaiting'
      obtain ⟨rfl, -⟩ := hwaiting'
      obtain rfl := Option.some.inj (hfound.symm.trans hfound')
      rw [hinbox, List.cons.injEq] at hinbox'
      exact ⟨rfl, hinbox'.1.symm⟩
  refine ⟨fun _ hp => (by cases hp), fun c₁ c₂ r₁ r₂ h₁ h₂ => ?_, fun m hm => ?_,
    fun _ hp => (by cases hp), fun ho => (by cases ho)⟩
  · obtain ⟨rfl, rfl⟩ := honly c₁ r₁ h₁
    obtain ⟨rfl, rfl⟩ := honly c₂ r₂ h₂
    exact ⟨rfl, rfl⟩
  · cases result with
    | error e => cases hm
    | ok frame =>
      refine ⟨frame, ⟨happenings, overlooks, List.prefix_refl _, ht⟩, ?_⟩
      dsimp only [Script.classify] at hm
      rw [hcodec] at hm
      cases hjudge : k.listener.codec.judge frame with
      | accepted found =>
        rw [hjudge] at hm
        exact congrArg Verdict.accepted (Option.some.inj hm)
      | rejected reason =>
        rw [hjudge] at hm
        cases hm
      | failed what =>
        rw [hjudge] at hm
        cases hm

/-- What is known of a handshake stays known in the same phase, as long as nothing is taken. -/
theorem Vouched.kept {x : Accepted} (hx : k.Vouched happenings h x) {y : Happening}
    (hquiet : ∀ c result, k.Takes (happenings ++ [y]) h c result → k.Takes happenings h c result) :
    k.Vouched (happenings ++ [y]) h x where
  waiting wait hp c result ht := hx.waiting wait hp c result (hquiet _ _ ht)
  once c c' result result' ht ht' := hx.once c c' result result' (hquiet _ _ ht) (hquiet _ _ ht')
  accepted m hm := by
    obtain ⟨frame, ht, hjudge⟩ := hx.accepted m hm
    exact ⟨frame, ht.mono, hjudge⟩
  own := hx.own
  given ho hp := by
    obtain ⟨arrival, hg⟩ := hx.given ho hp
    exact ⟨arrival, hg.mono⟩

/-- A handshake that moves on, and neither takes nor accepts anything by that. -/
theorem Vouched.moved {x : Accepted} (hx : k.Vouched happenings h x) {phase : Phase}
    (hwaiting : ∀ wait, phase = .waiting wait → ∃ wait, x.phase = .waiting wait)
    (hopening : ∀ m, phase.opening? = some m → x.phase.opening? = some m)
    (hown : ∀ arrival, phase = .handing arrival → arrival.connection = x.connection)
    (hgiven : phase.outcome? = some .handedOff → (∀ arrival, phase ≠ .handing arrival) →
      ∃ arrival, k.Gives happenings h arrival) :
    k.Vouched happenings h { x with phase } where
  waiting wait hp := by
    obtain ⟨before, hbefore⟩ := hwaiting wait hp
    exact hx.waiting before hbefore
  once := hx.once
  accepted m hm := hx.accepted m (hopening m hm)
  own := hown
  given := hgiven

/-- A handshake whose connection was given before ends. -/
theorem Vouched.ended {x : Accepted} (hx : k.Vouched happenings h x) {outcome : HandshakeOutcome}
    (hp : x.phase.outcome? = some outcome) (hgiven : ∀ arrival, x.phase ≠ .handing arrival) :
    k.Vouched happenings h { x with phase := .ended outcome } :=
  hx.moved nofun nofun nofun fun ho _ => hx.given (hp.trans ho) hgiven

/-- A turn of a wait that takes nothing accepts nothing. -/
theorem Vouched.polled {more : List Happening} {x : Accepted} (hv : k.Vouched more h x)
    (hx : (k.through happenings).listener.handshakes[h]? = some x) {wait : Handshake.Wait}
    (hw : x.phase = .waiting wait) {connection : Connection}
    (hc : (k.through happenings).listener.connections[x.connection]? = some connection)
    {overlooks : Bool}
    (hnone : ∀ c result, ¬ (k.through happenings).listener.TakesNow h overlooks c result) :
    k.Vouched more h { x with
      phase := .ofPoll (Handshake.poll ⟨(k.through happenings).listener.security,
        (k.through happenings).listener.codec, x.deadline⟩ (k.through happenings).listener.now
        (!overlooks && (k.through happenings).listener.isCancelled h) wait connection).1 } := by
  have hturn (m : Message) (ha : (Handshake.poll ⟨(k.through happenings).listener.security,
      (k.through happenings).listener.codec, x.deadline⟩ (k.through happenings).listener.now
      (!overlooks && (k.through happenings).listener.isCancelled h) wait connection).1 =
      .inr (.judged (.accepted m))) : False := by
    obtain ⟨frame, ht, -⟩ := takesNow_of_accepted hx hw hc ha
    exact hnone _ _ ht
  generalize (Handshake.poll ⟨(k.through happenings).listener.security,
    (k.through happenings).listener.codec, x.deadline⟩ (k.through happenings).listener.now
    (!overlooks && (k.through happenings).listener.isCancelled h) wait connection).1 = next
    at hturn ⊢
  rcases next with next | _ | m | _ | _
  · exact hv.moved (fun _ _ => ⟨wait, hw⟩) nofun nofun nofun
  · exact hv.moved nofun nofun nofun nofun
  · exact absurd rfl (hturn m)
  · exact hv.moved nofun nofun nofun nofun
  · exact hv.moved nofun nofun nofun nofun

/-- A handshake that leaves the set by itself gives away what it has accepted, or nothing. -/
theorem Vouched.claimed {x : Accepted} (hx : k.Vouched happenings h x)
    {decision : Handshake.Decision} (hw : x.phase = .leaving decision) (l : Listener)
    (entered : Bool) : k.Vouched happenings h { x with
      phase := (l.afterClaim x.connection entered decision).1 } := by
  have hopening : x.phase.opening? = (Phase.leaving decision).opening? := congrArg _ hw
  rcases decision with _ | m | _ | _
  · exact hx.moved nofun nofun nofun nofun
  · cases entered with
    | true =>
      refine hx.moved nofun (fun m hm => hopening.trans hm) (fun arrival hp => ?_) ?_
      · cases hp
        rfl
      · exact fun _ hp => absurd rfl (hp _)
    | false => exact hx.moved nofun nofun nofun nofun
  · exact hx.moved nofun nofun nofun nofun
  · exact hx.moved nofun nofun nofun nofun

/-- What an event makes of a handshake of which everything is known. -/
theorem Known.next (hk : k.Known happenings h) {e : Event} {y : Accepted}
    (hy : ((k.through happenings).listener.perform e).handshakes[h]? = some y) :
    k.Vouched (happenings ++ [.own e]) h y := by
  by_cases hnow : ∃ overlooks c result, e = .poll h overlooks ∧
      (k.through happenings).listener.TakesNow h overlooks c result
  · obtain ⟨overlooks, c, result, rfl, ht⟩ := hnow
    exact hk.of_takesNow ht hy
  have hquiet (c : ConnectionId) (result : Except ConnectionError Octets)
      (ht : k.Takes (happenings ++ [.own e]) h c result) : k.Takes happenings h c result := by
    rcases ht.of_concat with hbefore | ⟨overlooks, he, htaken⟩
    · exact hbefore
    · exact absurd ⟨overlooks, c, result, Happening.own.inj he, htaken⟩ hnow
  have hgives {x : Accepted} {arrival : Arrival}
      (hx : (k.through happenings).listener.handshakes[h]? = some x)
      (hp : x.phase = .handing arrival) : k.Gives (happenings ++ [.own (.handOver h)]) h arrival :=
    ⟨happenings, x, List.prefix_refl _, hx, hp⟩
  cases (sheet_perform (k.through happenings).listener e).fate hy with
  | kept hx => exact (hk.1 y hx).kept hquiet
  | @moved _ x phase hx hs =>
    have hvouched := (hk.1 x hx).kept hquiet
    cases hs with
    | poll hw hc =>
      exact hvouched.polled hx hw hc fun c result ht => hnow ⟨_, c, result, rfl, ht⟩
    | close hw ho => exact hvouched.ended (by rw [hw]; rfl) (by simp [hw])
    | fail hw => exact hvouched.moved nofun nofun nofun fun ho => by cases ho
    | keep hw hd => exact hvouched.moved nofun nofun nofun fun _ _ => ⟨_, hgives hx hw⟩
    | queue hw hd => exact hvouched.moved nofun nofun nofun fun _ _ => ⟨_, hgives hx hw⟩
    | kept hw hd => exact hvouched.ended (by rw [hw]; rfl) (by simp [hw])
    | stored hw he => exact hvouched.ended (by rw [hw]; rfl) (by simp [hw])
  | @claimed x decision hx hw => exact ((hk.1 x hx).kept hquiet).claimed hw _ _
  | @raised x what hx hw =>
    exact ((hk.1 x hx).kept hquiet).moved nofun nofun nofun fun ho => by cases ho
  | @started overlooks c deadline token hh hd =>
    have hnone := hk.2 (List.getElem?_eq_none (Nat.le_of_eq hh))
    exact ⟨fun _ _ c result ht => hnone c result (hquiet _ _ ht),
      fun c c' result result' ht => absurd (hquiet _ _ ht) (hnone c result), nofun, nofun, nofun⟩

/-- Everything is known of every handshake, whatever happens. -/
theorem known_through (hnew : k.listener.handshakes = []) (happenings : List Happening)
    (h : HandshakeId) : k.Known happenings h := by
  induction happenings using List.reverseRecOn with
  | nil =>
    refine ⟨fun x hx => ?_, ?_⟩
    · have hx : k.listener.handshakes[h]? = some x := hx
      rw [hnew] at hx
      cases hx
    · rintro - c result ⟨earlier, overlooks, hprefix, -⟩
      exact absurd (List.prefix_nil.mp hprefix) (List.append_ne_nil_of_right_ne_nil _ nofun)
  | append_singleton happenings y ih =>
    have hthrough := through_concat k happenings y
    cases y with
    | own e =>
      refine ⟨fun y hy => ih.next (by rwa [hthrough] at hy), fun hnone c result ht => ?_⟩
      have hbefore : (k.through happenings).listener.handshakes[h]? = none := by
        refine Option.eq_none_iff_forall_ne_some.mpr fun x hx => ?_
        obtain ⟨y, hy⟩ := exists_handshake_through hx [.own e]
        rw [hthrough] at hnone
        cases hy.symm.trans hnone
      rcases ht.of_concat with ht | ⟨overlooks, -, ht⟩
      · exact ih.2 hbefore c result ht
      · obtain ⟨x, hx, -⟩ := ht.decides
        cases hx.symm.trans hbefore
    | around surroundings =>
      have hquiet (c : ConnectionId) (result : Except ConnectionError Octets)
          (ht : k.Takes (happenings ++ [.around surroundings]) h c result) :
          k.Takes happenings h c result := by
        rcases ht.of_concat with hbefore | ⟨overlooks, hy, -⟩
        · exact hbefore
        · cases hy
      rw [Known, hthrough]
      exact ⟨fun x hx => (ih.1 x hx).kept hquiet,
        fun hnone c result ht => ih.2 hnone c result (hquiet _ _ ht)⟩

/-- The base codec accepts a frame exactly if the reader makes a message of it that opens an
exchange. Whatever happens to a listener with this codec: a handshake that ends as handed off has
given its connection to the peer layer; whenever one does, the message that it gives opens an
exchange and was read from the frame that the wait of this handshake took from this connection,
the only thing that it ever took; and a wait that takes a frame of which the reader makes a
message that opens an exchange accepts that message. -/
theorem handed_over_opens_exchange (address : String) (transport : Transport)
    (security : Security) (timeout : Nat) (peers : PeerLayer) (surroundings : Surroundings)
    (happenings : List Happening) (h : HandshakeId) :
    let k := start address transport security ⟨timeout, .base, peers⟩ surroundings
    (∀ frame m, Codec.base.judge frame = .accepted m ↔ Message.read frame = .ok m ∧ m.Opening) ∧
    (∀ x, (k.through happenings).listener.handshakes[h]? = some x →
      x.phase = .ended .handedOff → ∃ arrival, k.Gives happenings h arrival) ∧
    (∀ arrival, k.Gives happenings h arrival →
      arrival.message.Opening ∧
      k.Takes happenings h arrival.connection (.ok arrival.message.raw) ∧
      Message.read arrival.message.raw = .ok arrival.message ∧
      ∀ c result, k.Takes happenings h c result →
        c = arrival.connection ∧ result = .ok arrival.message.raw) ∧
    (∀ earlier later overlooks c frame m,
      happenings = earlier ++ .own (.poll h overlooks) :: later →
      (k.through earlier).listener.TakesNow h overlooks c (.ok frame) →
      Message.read frame = .ok m → m.Opening →
      ∃ x, (k.through (earlier ++ [.own (.poll h overlooks)])).listener.handshakes[h]? = some x ∧
        x.phase = .leaving (.judged (.accepted m))) := by
  intro k
  have hnew : k.listener.handshakes = [] := rfl
  refine ⟨fun frame m => Codec.base_judge_eq_accepted_iff, fun x hx hended => ?_,
    fun arrival hgives => ?_, ?_⟩
  · refine ((known_through hnew happenings h).1 x hx).given ?_ fun arrival hp => ?_
    · rw [hended]
      rfl
    · cases hended.symm.trans hp
  · obtain ⟨earlier, x, ⟨later, hall⟩, hx, hhanding⟩ := hgives
    have hvouched := (known_through hnew earlier h).1 x hx
    obtain ⟨frame, htakes, hjudge⟩ := hvouched.accepted arrival.message (by rw [hhanding]; rfl)
    obtain ⟨hread, hopening⟩ := Codec.base_judge_eq_accepted_iff.mp hjudge
    obtain rfl := Message.raw_of_read hread
    rw [← hvouched.own arrival hhanding] at htakes
    have htaken : k.Takes happenings h arrival.connection (.ok arrival.message.raw) := by
      rw [← hall, List.append_assoc]
      exact htakes.mono
    obtain ⟨y, hy⟩ : ∃ y, (k.through happenings).listener.handshakes[h]? = some y := by
      rw [← hall, List.append_assoc, through_append]
      exact exists_handshake_through hx _
    exact ⟨hopening, htaken, hread, fun c result ht =>
      ((known_through hnew happenings h).1 y hy).once _ _ _ _ ht htaken⟩
  · intro earlier later overlooks c frame m hall htakes hread hopening
    obtain ⟨x, hx, -, hafter⟩ := htakes.decides
    have hcodec : (k.through earlier).listener.codec = .base :=
      congrArg AcceptTerms.codec (bearings_through k earlier).1
    refine ⟨{ x with phase := .leaving (.judged (.accepted m)) }, ?_, rfl⟩
    rw [through_append]
    refine hafter.trans ?_
    dsimp only [Script.classify]
    rw [hcodec, Codec.base_judge_eq_accepted_iff.mpr ⟨hread, hopening⟩]

/-- A listener whose peers go to somebody who takes a while for each. -/
def keeperStart : Course := start "a" .tcp .clear ⟨20, .base, .keeper 5⟩ (.new 0)

/-- One client sends its first message, and something else right behind it. -/
def talkative : List Happening :=
  [.own .start, .own (.connect "a" "a" ⟨0, none⟩), .own (.accept false), .own (.poll 0 false),
    .own (.deliver 0 (.ok firstFrame)), .own (.deliver 0 (.ok [1, 2, 3])), .own (.clock 7),
    .own (.poll 0 false), .own (.claim 0), .own (.handOver 0), .own (.clock 12),
    .own (.completeHandOver 0)]

/-- The first message of the client is handed over, and not what came behind it. -/
theorem first_message_is_handed_over :
    ∃ x, (keeperStart.through talkative).listener.handshakes[0]? = some x ∧
      x.phase = .ended .handedOff ∧
      ∃ arrival, keeperStart.Gives talkative 0 arrival ∧ arrival.message.Opening ∧
        keeperStart.Takes talkative 0 arrival.connection (.ok arrival.message.raw) := by
  have hfirst : ((keeperStart.through talkative).listener.handshakes[0]?).map
      (fun x => x.phase.stand) = some (.ended .handedOff) := by decide +kernel
  obtain ⟨x, hx, hstand⟩ := Option.map_eq_some_iff.mp hfirst
  have hended : x.phase = .ended .handedOff := by
    cases hphase : x.phase with
    | ended outcome =>
      rw [hphase] at hstand
      cases hstand
      rfl
    | _ => simp [Phase.stand, hphase] at hstand
  obtain ⟨-, hends, hgives, -⟩ :=
    handed_over_opens_exchange "a" .tcp .clear 20 (.keeper 5) (.new 0) talkative 0
  obtain ⟨arrival, hgiven⟩ := hends x hx hended
  obtain ⟨hopening, htakes, -⟩ := hgives arrival hgiven
  exact ⟨x, hx, hended, arrival, hgiven, hopening, htakes⟩

end Course

end Listener

end Diameter
