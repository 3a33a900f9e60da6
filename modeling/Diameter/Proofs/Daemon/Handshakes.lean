import Diameter.Proofs.Daemon.Calls
import Diameter.Proofs.Listener.Sheet

/-!
# What handshakes enter into the books

An event of a listener moves at most one handshake on. All but three events leave the event
queue alone and neither pass nor close a connection: a handshake closes its connection, it
passes it to the event queue, or it goes on with a push that may have been stored or refused.
Each of these is a path in the books, and the deeds of the event say what was passed and who
closed what.
-/

namespace Diameter.Listener

open Daemon (passed? closed?)

/-! ## What leaves the event queue alone -/

/-- Giving cancelled handshakes their turn touches only the listener itself. -/
theorem toSurroundings_scheduleCancelled (l : Listener) :
    l.scheduleCancelled.toSurroundings = l.toSurroundings := by
  unfold scheduleCancelled
  dsimp only
  split
  · rw [toSurroundings_schedule, toSurroundings_foldl_schedule]
  · rw [toSurroundings_foldl_schedule]

theorem events_trigger (l : Listener) (reason : ShutdownReason) :
    (l.trigger reason).2.events = l.events := by
  unfold trigger
  split
  · rw [toSurroundings_scheduleCancelled]
  · rfl

theorem events_dropAcceptor (l : Listener) : l.dropAcceptor.events = l.events := by
  have hlost (lost : List ConnectionId) (l : Listener) :
      (lost.foldl (fun l c => l.modifyConnection c Connection.release) l).events = l.events := by
    induction lost generalizing l with
    | nil => rfl
    | cons c lost ih => exact ih _
  exact hlost _ l

theorem events_failAccept (l : Listener) (e : SystemError) :
    (l.failAccept e).events = l.events := by
  unfold failAccept
  dsimp only
  rw [events_dropAcceptor, events_trigger]
  rfl

theorem events_acceptNext (l : Listener) : l.acceptNext.events = l.events := by
  unfold acceptNext
  split
  · split
    · exact events_failAccept l _
    · rfl
  · unfold acceptResult
    split
    · dsimp only
      split
      · unfold dispatch
        dsimp only
        rw [toSurroundings_schedule]
        rfl
      · rw [breakLoop, events_dropAcceptor]
        rfl
    · split
      · rfl
      · rw [events_failAccept]

theorem events_acceptSeeing (l : Listener) (cancelled : Bool) :
    (l.acceptSeeing cancelled).events = l.events := by
  unfold acceptSeeing
  split
  · rfl
  · split
    · exact events_dropAcceptor l
    · exact events_acceptNext l

theorem events_offer (l : Listener) (result : Except SystemError ConnectionId) :
    (l.offer result).1.events = l.events := by
  unfold offer
  split
  · split <;> rfl
  · dsimp only
    split
    · rw [toSurroundings_schedule]
    · rfl

theorem events_pollSeeing (l : Listener) (h : HandshakeId) (cancelled : Bool) :
    (l.pollSeeing h cancelled).events = l.events := by
  unfold pollSeeing
  split
  · split
    · rfl
    · dsimp only
      split <;> rfl
  · rfl

theorem events_claim (l : Listener) (h : HandshakeId) : (l.claim h).events = l.events := by
  have hafter (l : Listener) (c : ConnectionId) (claimed : Bool)
      (decision : Handshake.Decision) :
      (l.afterClaim c claimed decision).2.events = l.events := by
    rcases decision with _ | _ | _ | _ <;> cases claimed <;> rfl
  unfold claim
  split
  · dsimp only
    refine (hafter _ _ _ _).trans ?_
    split <;> rfl
  · rfl

theorem events_close (l : Listener) (h : HandshakeId) : (l.close h).events = l.events := by
  unfold close
  split
  · dsimp only
    split <;> rfl
  · rfl

/-- Only two events of a handshake are about the event queue. -/
theorem events_perform (l : Listener) {e : Event} (he : e.isOwn = true)
    (hgives : ∀ h, e ≠ .handOver h) (hcompletes : ∀ h, e ≠ .completeHandOver h) :
    (l.perform e).events = l.events := by
  cases e with
  | connect name description tls => exact events_offer _ _
  | acceptError error => exact events_offer _ _
  | exhaust =>
    dsimp only [perform, act]
    split
    · rw [toSurroundings_schedule]
    · rfl
  | trigger reason => exact events_trigger l reason
  | start =>
    dsimp only [perform]
    unfold Listener.start
    split
    · rw [toSurroundings_schedule]
    · dsimp only
      split
      · exact events_dropAcceptor l
      · rfl
  | accept overlooks => exact events_acceptSeeing l _
  | poll h overlooks => exact events_pollSeeing l h _
  | claim h => exact events_claim l h
  | close h => exact events_close l h
  | raise h =>
    dsimp only [perform]
    unfold raise
    split
    · exact events_trigger l _
    · rfl
  | handOver h => exact absurd rfl (hgives h)
  | completeHandOver h => exact absurd rfl (hcompletes h)
  | popEvent discard | clearAlarm | destroyEvents => cases he
  | cancelAll =>
    dsimp only [perform, cancelAll]
    rw [toSurroundings_scheduleCancelled]
  | drain =>
    dsimp only [perform, drain]
    split
    · exact events_dropAcceptor l
    · rfl
  | conclude taken =>
    dsimp only [perform, conclude]
    split <;> rfl
  | _ => rfl

/-- What the other events do has nothing to do with passing or closing. -/
theorem deeds_quiet (l : Listener) {e : Event} (he : e.isOwn = true)
    (hcloses : ∀ h, e ≠ .close h) (hgives : ∀ h, e ≠ .handOver h)
    (hcompletes : ∀ h, e ≠ .completeHandOver h) :
    (l.deeds e).filterMap passed? = [] ∧ (l.deeds e).filterMap closed? = [] := by
  cases e with
  | accept overlooks =>
    dsimp only [deeds]
    unfold acceptDeeds nextDeeds
    split
    · exact ⟨rfl, rfl⟩
    · split
      · exact ⟨rfl, rfl⟩
      · split
        · split <;> exact ⟨rfl, rfl⟩
        · exact ⟨rfl, rfl⟩
  | claim h =>
    dsimp only [deeds]
    unfold claimDeeds
    split
    · split <;> exact ⟨rfl, rfl⟩
    · exact ⟨rfl, rfl⟩
  | close h => exact absurd rfl (hcloses h)
  | handOver h => exact absurd rfl (hgives h)
  | completeHandOver h => exact absurd rfl (hcompletes h)
  | popEvent discard | clearAlarm | destroyEvents => cases he
  | drain =>
    have hnone {α : Type} (f : Deed → Option α) (hf : ∀ h, f (.drained h) = none) :
        (l.outstanding.map Deed.drained).filterMap f = [] := by
      rw [List.filterMap_map]
      exact List.filterMap_eq_nil_iff.mpr fun h _ => hf h
    exact ⟨hnone _ fun _ => rfl, hnone _ fun _ => rfl⟩
  | _ => exact ⟨rfl, rfl⟩

/-- A caller that has run leaves the handshakes as they are. -/
theorem handshakes_afterRun (l : Listener) (caller : Queue.CallerId) :
    (l.afterRun caller).handshakes = l.handshakes :=
  congrArg Sheet.handshakes (l.sheet_afterRun caller)

end Diameter.Listener

namespace Diameter.Daemon

open Listener (Accepted Arrival ConnectionId Event HandshakeId Phase Sheet)
open Queue (CallerId Outcome Request Spot)

/-! ## Handshakes in the books -/

/-- A handshake in the books. -/
def holder (x : Accepted) : Holder := (x.connection, .ofPhase x.phase)

/-- Handshakes in the books. -/
def held (xs : List Accepted) : Multiset Holder := ↑(xs.map holder)

/-- A list with one entry written anew. -/
theorem exists_split_of_getElem? {α : Type} {xs : List α} {i : Nat} {x : α}
    (hx : xs[i]? = some x) :
    ∃ before after, xs = before ++ x :: after ∧ ∀ y, xs.set i y = before ++ y :: after := by
  obtain ⟨hi, rfl⟩ := List.getElem?_eq_some_iff.mp hx
  have hset (y : α) : xs.set i y = xs.take i ++ y :: xs.drop (i + 1) :=
    List.set_eq_take_append_cons_drop.trans (if_pos hi)
  refine ⟨xs.take i, xs.drop (i + 1), ?_, hset⟩
  rw [← hset, List.set_getElem_self]

/-- A handshake that moves on is one entry that changes. -/
theorem held_modify {xs : List Accepted} {h : HandshakeId} {x : Accepted}
    (hx : xs[h]? = some x) : ∃ others, held xs = holder x ::ₘ others ∧ ∀ phase,
      held (xs.modify h fun x => { x with phase }) = (x.connection, .ofPhase phase) ::ₘ others := by
  obtain ⟨before, after, hold, hset⟩ := exists_split_of_getElem? hx
  have hcons (y : Accepted) : held (before ++ y :: after) = holder y ::ₘ held (before ++ after) := by
    rw [held, List.map_append, List.map_cons, held, List.map_append, Multiset.cons_coe]
    exact Multiset.coe_eq_coe.mpr List.perm_middle
  refine ⟨held (before ++ after), hold ▸ hcons x, fun phase => ?_⟩
  rw [Queue.modify_eq_set_of_getElem? _ hx, hset, hcons]
  rfl

/-- A handshake that has left the set turns its connection away, or passes it next if it left
by itself. -/
theorem share_afterClaim (l : Listener) (c : ConnectionId) (claimed : Bool)
    (decision : Handshake.Decision) :
    Share.ofPhase (l.afterClaim c claimed decision).1 = .aside ∨ claimed = true ∧
      ∃ arrival : Arrival, arrival.connection = c ∧
        Share.ofPhase (l.afterClaim c claimed decision).1 = .handing arrival := by
  rcases decision with _ | m | reason | what
  · exact .inl rfl
  · cases claimed
    · exact .inl rfl
    · exact .inr ⟨rfl, ⟨m, c⟩, rfl, rfl⟩
  · exact .inl rfl
  · exact .inl rfl

namespace Books

variable {l : Listener} {b : Books} {others : Multiset Holder} {passing : Bool}

/-- An event of a listener is entered. The other listeners have the other handshakes. -/
structure Wrote (l : Listener) (e : Event) (others : Multiset Holder) (b b' : Books) : Prop where
  /-- Handshakes are as the event leaves them. -/
  holders : b'.holders = held (l.perform e).handshakes + others
  /-- So is the queue. -/
  shows : b'.Shows (l.perform e).events
  /-- Nothing was taken out of the queue. -/
  hand : b'.hand = b.hand
  /-- What was passed is written down. -/
  passed : b'.passed = b.passed ++ (l.deeds e).filterMap passed?
  /-- What was closed is written down. -/
  closed : b'.closed = b.closed ++ (l.deeds e).filterMap closed?
  /-- The calls of the consumer are as they were. -/
  pops : ∀ (i : CallerId) (deadline : Option Nat) (spot : Spot Arrival),
    b'.calls[i]? = some (Request.pop deadline, spot) ↔
      b.calls[i]? = some (Request.pop deadline, spot)

/-- What is entered, when it is known what the event makes of the listener and what it does. -/
theorem Wrote.of_eq {b' : Books} {e : Event} {after : Listener} {ds : List Listener.Deed}
    (hperform : l.perform e = after) (hdeeds : l.deeds e = ds)
    (hholders : b'.holders = held after.handshakes + others) (hshows : b'.Shows after.events)
    (hhand : b'.hand = b.hand) (hpassed : b'.passed = b.passed ++ ds.filterMap passed?)
    (hclosed : b'.closed = b.closed ++ ds.filterMap closed?)
    (hpops : ∀ (i : CallerId) (deadline : Option Nat) (spot : Spot Arrival),
      b'.calls[i]? = some (Request.pop deadline, spot) ↔
        b.calls[i]? = some (Request.pop deadline, spot)) : Wrote l e others b b' := by
  subst hperform hdeeds
  exact ⟨hholders, hshows, hhand, hpassed, hclosed, hpops⟩

/-- An event that is about no connection outside of its handshake is one entry about the
handshake. -/
theorem step_quiet (hholders : b.holders = held l.handshakes + others)
    (hpassing : passing = false → l.outstanding = []) {e : Event}
    (hnew : ((held (l.perform e).handshakes + others).map Prod.fst).Nodup)
    (hcloses : ∀ h, e ≠ .close h) (hgives : ∀ h, e ≠ .handOver h)
    (hcompletes : ∀ h, e ≠ .completeHandOver h) :
    Step passing b { b with holders := held (l.perform e).handshakes + others } := by
  have hstep := Listener.sheet_perform l e
  have hsheet : (l.perform e).handshakes = (l.perform e).sheet.handshakes := rfl
  rw [hsheet] at hnew ⊢
  generalize (l.perform e).sheet = s at hstep hnew ⊢
  have hrest {holders : Multiset Holder} (h : holders = b.holders) :
      Step passing b { b with holders } := h ▸ .rest
  cases hstep with
  | @dispatched overlooks c deadline ha hd =>
    have hadd (y : Accepted) : held (l.handshakes ++ [y]) = holder y ::ₘ held l.handshakes := by
      rw [held, List.map_append, ← Multiset.coe_add, add_comm]
      rfl
    rw [hadd, Multiset.cons_add, ← hholders] at hnew ⊢
    rw [Multiset.map_cons] at hnew
    exact .start (Multiset.nodup_cons.mp hnew).1
  | @claimed h x decision hx hp =>
    obtain ⟨rest, hself, hmoved⟩ := held_modify hx
    have hold : b.holders = (x.connection, .own) ::ₘ (rest + others) := by
      rw [hholders, hself, Multiset.cons_add, holder, hp]
      rfl
    have hphase := hmoved (l.afterClaim x.connection (l.outstanding.contains h) decision).1
    dsimp only [Sheet.setPhase, Sheet.leave, Listener.sheet] at hnew ⊢
    rw [hphase, Multiset.cons_add]
    obtain haside | ⟨hclaimed, arrival, hconnection, hhanding⟩ :=
      share_afterClaim l x.connection (l.outstanding.contains h) decision
    · rw [haside]
      exact .turnAway hold
    · rw [hhanding]
      refine .pass ?_ hold hconnection
      refine Bool.eq_true_of_not_eq_false fun hfalse => ?_
      rw [hpassing hfalse] at hclaimed
      cases hclaimed
  | @raised h x what hx hp =>
    obtain ⟨rest, hself, hmoved⟩ := held_modify hx
    refine hrest ?_
    dsimp only [Sheet.setPhase, Listener.sheet]
    rw [hholders, hself, hmoved, holder, hp]
    rfl
  | @moved _ h x phase hx hs =>
    cases hs with
    | @poll overlooks wait connection hp hc =>
      obtain ⟨rest, hself, hmoved⟩ := held_modify hx
      refine hrest ?_
      dsimp only [Sheet.setPhase, Listener.sheet]
      rw [hholders, hself, hmoved, holder, hp]
      generalize (Handshake.poll _ _ _ _ _).1 = outcome
      cases outcome <;> rfl
    | close | fail => exact absurd rfl (hcloses h)
    | keep | queue => exact absurd rfl (hgives h)
    | kept | stored => exact absurd rfl (hcompletes h)
  | _ => exact hrest hholders.symm

/-- What an entry about handshakes alone leaves as it is. -/
theorem wrote_of_quiet (hs : b.Shows l.events) {e : Event} (he : e.isOwn = true)
    (hcloses : ∀ h, e ≠ .close h) (hgives : ∀ h, e ≠ .handOver h)
    (hcompletes : ∀ h, e ≠ .completeHandOver h) :
    Wrote l e others b { b with holders := held (l.perform e).handshakes + others } := by
  obtain ⟨hpassed, hclosed⟩ := Listener.deeds_quiet l he hcloses hgives hcompletes
  refine ⟨rfl, ⟨?_, hs.aims, ?_⟩, rfl, ?_, ?_, fun _ _ _ => Iff.rfl⟩
  · rw [Listener.events_perform l he hgives hcompletes]
    exact hs.outline
  · rw [Listener.events_perform l he hgives hcompletes]
    exact hs.fittings
  · rw [hpassed, List.append_nil]
  · rw [hclosed, List.append_nil]

/-- An event that does nothing. -/
theorem wrote_of_same (hs : b.Shows l.events) (hholders : b.holders = held l.handshakes + others)
    {e : Event} (hsame : l.perform e = l) (hdeeds : l.deeds e = []) : Wrote l e others b b :=
  .of_eq hsame hdeeds hholders hs rfl (List.append_nil _).symm (List.append_nil _).symm
    fun _ _ _ => Iff.rfl

/-- A handshake closes its connection. -/
theorem path_close (hb : b.Right) (hs : b.Shows l.events)
    (hholders : b.holders = held l.handshakes + others) (h : HandshakeId) :
    ∃ b', Path passing b b' ∧ Wrote l (.close h) others b b' := by
  have hnothing (hsame : l.close h = l) (hdeeds : l.closeDeeds h = []) :
      ∃ b', Path passing b b' ∧ Wrote l (.close h) others b b' :=
    ⟨b, .refl, wrote_of_same hs hholders hsame hdeeds⟩
  rcases hx : l.handshakes[h]? with _ | ⟨c, deadline, token, phase⟩
  · exact hnothing (by simp only [Listener.close, hx]) (by simp only [Listener.closeDeeds, hx])
  · cases phase with
    | closing outcome late =>
      obtain ⟨rest, hself, hmoved⟩ := held_modify hx
      have hmem : holder ⟨c, deadline, token, .closing outcome late⟩ ∈ b.holders := by
        rw [hholders, hself]
        exact Multiset.mem_add.mpr (.inl (Multiset.mem_cons_self _ _))
      have hfits := hb.fits _ hmem
      have hdeeds : l.closeDeeds h = [.closed c] := by
        unfold Listener.closeDeeds
        rw [hx]
      have hevents := Listener.events_close l h
      have haside (hold : Share.ofPhase (.closing outcome late) = .aside)
          (hafter : held (l.close h).handshakes = (c, .aside) ::ₘ rest) :
          ∃ b', Path passing b b' ∧ Wrote l (.close h) others b b' := by
        rw [holder, hold] at hmem
        refine ⟨_, .single (.close hmem), .of_eq rfl hdeeds ?_ ⟨?_, hs.aims, ?_⟩ rfl
          (List.append_nil _).symm rfl fun _ _ _ => Iff.rfl⟩
        · rw [Listener.perform, hafter, hholders, hself, holder, hold]
        · rw [Listener.perform, hevents]
          exact hs.outline
        · rw [Listener.perform, hevents]
          exact hs.fittings
      cases outcome with
      | handedOff => exact absurd hfits id
      | fatal what =>
        refine haside rfl ?_
        unfold Listener.close
        rw [hx]
        exact hmoved (.raising what)
      | rejected reason | cancelled =>
        refine haside rfl ?_
        unfold Listener.close
        rw [hx]
        exact hmoved (.ended _)
    | _ =>
      exact hnothing (by simp only [Listener.close, hx]) (by simp only [Listener.closeDeeds, hx])

/-- A handshake passes its connection to the event queue. -/
theorem path_handOver (hs : b.Shows l.events) (hholders : b.holders = held l.handshakes + others)
    (hpeers : l.peers = .events) (h : HandshakeId) :
    ∃ b', Path passing b b' ∧ Wrote l (.handOver h) others b b' := by
  have hnothing (hsame : l.handOver h = l) (hdeeds : l.handOverDeeds h = []) :
      ∃ b', Path passing b b' ∧ Wrote l (.handOver h) others b b' :=
    ⟨b, .refl, wrote_of_same hs hholders hsame hdeeds⟩
  rcases hx : l.handshakes[h]? with _ | ⟨c, deadline, token, phase⟩
  · exact hnothing (by simp only [Listener.handOver, hx])
      (by simp only [Listener.handOverDeeds, hx])
  · cases phase with
    | handing arrival =>
      obtain ⟨rest, hself, hmoved⟩ := held_modify hx
      have hold : b.holders = (c, .handing arrival) ::ₘ (rest + others) := by
        rw [hholders, hself, Multiset.cons_add]
        rfl
      have hdeeds : l.handOverDeeds h = [.handed arrival.connection] := by
        unfold Listener.handOverDeeds
        rw [hx]
      obtain ⟨hcaller, hshows⟩ := hs.addCaller (.push arrival)
      refine ⟨_, .single (.hand hold), .of_eq rfl hdeeds ?_ ?_ rfl rfl (List.append_nil _).symm
        fun i deadline spot => ?_⟩
      · rw [Listener.perform]
        unfold Listener.handOver
        rw [hx, hpeers]
        dsimp only [Listener.setPhase]
        rw [hmoved, hcaller, Multiset.cons_add]
        rfl
      · rw [Listener.perform]
        unfold Listener.handOver
        rw [hx, hpeers]
        exact ⟨hshows.outline, hshows.aims, hshows.fittings⟩
      · rw [List.getElem?_append]
        split
        · exact Iff.rfl
        · next hge =>
          rw [List.getElem?_eq_none (Nat.le_of_not_lt hge), List.getElem?_singleton]
          split <;> simp
    | _ =>
      exact hnothing (by simp only [Listener.handOver, hx])
        (by simp only [Listener.handOverDeeds, hx])

/-- Giving turns to the handshakes that the queue woke changes nothing of the queue. -/
theorem Shows.afterRun {caller : CallerId} (hs : b.Shows (l.events.run caller l.now).1) :
    b.Shows (l.afterRun caller).events := by
  unfold Listener.afterRun Listener.scheduleWoken
  dsimp only
  rw [Listener.toSurroundings_foldl_schedule, Listener.events_tell]
  exact hs.of_outline rfl rfl

/-- A handshake whose push was not over goes on with it, and sees whether it is. What it sees is
what the books say about the push. -/
theorem path_storing (hb : b.Right) (hs : b.Shows l.events)
    (hholders : b.holders = held l.handshakes + others)
    (hknown : ∀ x ∈ l.handshakes, x.connection < l.connections.length) {h : HandshakeId}
    {x : Accepted} (hx : l.handshakes[h]? = some x) {caller : CallerId}
    (hphase : x.phase = .storing caller) :
    ∃ b', Path passing b b' ∧ Wrote l (.completeHandOver h) others b b' := by
  obtain ⟨rest, hself, hmoved⟩ := held_modify hx
  have hold : b.holders = (x.connection, .lent caller) ::ₘ (rest + others) := by
    rw [hholders, hself, Multiset.cons_add, holder, hphase]
    rfl
  obtain ⟨arrival, spot, hcall, -, -⟩ := hb.call_of_lent (hold ▸ Multiset.mem_cons_self _ _)
  obtain ⟨b₁, hpath, hshows, hturned⟩ := hs.run passing hcall l.now
  obtain ⟨hhand, hpops⟩ := hturned.pops fun _ _ h => by cases hcall.symm.trans h
  have hqueue := hshows.afterRun
  have hold₁ : b₁.holders = (x.connection, .lent caller) ::ₘ (rest + others) :=
    hturned.holders.trans hold
  have hgiven : held ((l.afterRun caller).handshakes.modify h fun x =>
      { x with phase := .ended .handedOff }) + others =
      (x.connection, .given) ::ₘ (rest + others) := by
    rw [l.handshakes_afterRun caller, hmoved, Multiset.cons_add]
    rfl
  have hperform := l.completeHandOver_of_storing hx hphase
  have hdeeds := l.completeDeeds_of_storing hx hphase
  have hhandshakes := l.handshakes_afterRun caller
  generalize l.afterRun caller = after at *
  have hopen (hperform : l.completeHandOver h = after)
      (hdeeds : l.completeDeeds h = []) :
      ∃ b', Path passing b b' ∧ Wrote l (.completeHandOver h) others b b' := by
    refine ⟨b₁, hpath, .of_eq hperform hdeeds ?_ hqueue hhand
      (hturned.passed.trans (List.append_nil _).symm)
      (hturned.closed.trans (List.append_nil _).symm) hpops⟩
    rw [hhandshakes, hturned.holders, hholders]
  rcases hend : after.events.callers[caller]? with _ | ⟨request, stage⟩
  · rw [hend] at hperform hdeeds
    exact hopen hperform hdeeds
  · cases stage with
    | ended outcome =>
      have hover := hqueue.call hend
      obtain ⟨pushed, spot, hfound, hown, haccounts⟩ :=
        (hpath.right hb).call_of_lent (hold₁ ▸ Multiset.mem_cons_self _ _)
      rw [hover] at hfound
      obtain ⟨rfl, rfl⟩ := Prod.mk.inj (Option.some.inj hfound)
      cases outcome with
      | stored =>
        rw [hend] at hperform hdeeds
        exact ⟨_, hpath.tail (.settle hold₁ hover), .of_eq hperform hdeeds hgiven.symm
          ⟨hqueue.outline, hqueue.aims, hqueue.fittings⟩ hhand
          (hturned.passed.trans (List.append_nil _).symm)
          (hturned.closed.trans (List.append_nil _).symm) hpops⟩
      | refused returned e =>
        obtain ⟨rfl, -⟩ := haccounts
        have hlt : returned.connection < l.connections.length := by
          rw [hown]
          exact hknown x (List.mem_of_getElem? hx)
        rw [hend] at hperform hdeeds
        dsimp only at hdeeds
        rw [Listener.releaseDeeds, if_pos hlt] at hdeeds
        exact ⟨_, hpath.tail (.discharge hold₁ hover), .of_eq hperform hdeeds hgiven.symm
          ⟨hqueue.outline, hqueue.aims, hqueue.fittings⟩ hhand
          (hturned.passed.trans (List.append_nil _).symm)
          (congrArg (· ++ [(Closer.handOver, returned.connection)]) hturned.closed) hpops⟩
      | took _ | failed _ => exact absurd haccounts id
    | _ =>
      rw [hend] at hperform hdeeds
      exact hopen hperform hdeeds

/-- A handshake that waits for its push looks at it. -/
theorem path_completeHandOver (hb : b.Right) (hs : b.Shows l.events)
    (hholders : b.holders = held l.handshakes + others)
    (hknown : ∀ x ∈ l.handshakes, x.connection < l.connections.length) (h : HandshakeId) :
    ∃ b', Path passing b b' ∧ Wrote l (.completeHandOver h) others b b' := by
  have hnothing (hsame : l.completeHandOver h = l) (hdeeds : l.completeDeeds h = []) :
      ∃ b', Path passing b b' ∧ Wrote l (.completeHandOver h) others b b' :=
    ⟨b, .refl, wrote_of_same hs hholders hsame hdeeds⟩
  rcases hx : l.handshakes[h]? with _ | ⟨c, deadline, token, phase⟩
  · exact hnothing (by simp only [Listener.completeHandOver, hx])
      (by simp only [Listener.completeDeeds, hx])
  · cases phase with
    | storing caller => exact path_storing hb hs hholders hknown hx rfl
    | keeping arrival done =>
      obtain ⟨rest, hself, -⟩ := held_modify hx
      have hmem : holder ⟨c, deadline, token, .keeping arrival done⟩ ∈ b.holders := by
        rw [hholders, hself]
        exact Multiset.mem_add.mpr (.inl (Multiset.mem_cons_self _ _))
      exact absurd (hb.fits _ hmem) id
    | _ =>
      exact hnothing (by simp only [Listener.completeHandOver, hx])
        (by simp only [Listener.completeDeeds, hx])

/-- What the events of a listener need of it and of the books. -/
structure Keeps (l : Listener) (others : Multiset Holder) (passing : Bool) (b : Books) : Prop where
  /-- The books are right. -/
  right : b.Right
  /-- They show the queue. -/
  shows : b.Shows l.events
  /-- They say what the handshakes have to do with their connections. -/
  holders : b.holders = held l.handshakes + others
  /-- Connections go to the event queue. -/
  peers : l.peers = .events
  /-- No handshake can leave the set if nobody is in there. -/
  passing : passing = false → l.outstanding = []
  /-- The connections of handshakes are there. -/
  known : ∀ x ∈ l.handshakes, x.connection < l.connections.length

/-- Every event of a listener is a path, if it gives no connection a second handshake. -/
theorem Keeps.path (hk : Keeps l others passing b) {e : Event} (he : e.isOwn = true)
    (hnew : ((held (l.perform e).handshakes + others).map Prod.fst).Nodup) :
    ∃ b', Path passing b b' ∧ Wrote l e others b b' := by
  have hquiet (hcloses : ∀ h, e ≠ .close h) (hgives : ∀ h, e ≠ .handOver h)
      (hcompletes : ∀ h, e ≠ .completeHandOver h) :
      ∃ b', Path passing b b' ∧ Wrote l e others b b' :=
    ⟨_, .single (step_quiet hk.holders hk.passing hnew hcloses hgives hcompletes),
      wrote_of_quiet hk.shows he hcloses hgives hcompletes⟩
  cases e with
  | close h => exact path_close hk.right hk.shows hk.holders h
  | handOver h => exact path_handOver hk.shows hk.holders hk.peers h
  | completeHandOver h =>
    exact path_completeHandOver hk.right hk.shows hk.holders hk.known h
  | _ => exact hquiet (by simp) (by simp) (by simp)

end Books

end Diameter.Daemon
