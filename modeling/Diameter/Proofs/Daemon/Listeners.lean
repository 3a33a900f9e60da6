import Diameter.Proofs.Daemon.Handshakes
import Diameter.Proofs.Daemon.Started
import Diameter.Proofs.Listener.Stopping
import Mathlib.Data.Multiset.UnionInter

/-!
# All listeners of a daemon

Listeners share the connections and the event queue. No two of them have the same connection:
what one of them accepts has come to its own acceptor. Once all listeners have been stopped,
nobody accepts a connection any more and no handshake leaves the set by itself.

An event of one listener is a path in the books on all of them.
-/

namespace Diameter.Listener

namespace Roster

/-- The connections that were accepted or are still to be accepted. -/
def reserved (r : Roster) : List ConnectionId := r.places.map Place.connection ++ r.coming

/-- Only a connection that is new comes to an acceptor. -/
theorem Step.reserved {r s : Roster} {ds : List Deed} (step : Step r ds s) :
    r.closes.length ≤ s.closes.length ∧
      ∀ c ∈ s.reserved, c ∈ r.reserved ∨ r.closes.length ≤ c := by
  have hless {s : Roster} (hplaces : s.places.map Place.connection = r.places.map Place.connection)
      (hcoming : s.coming ⊆ r.coming) (hcloses : s.closes.length = r.closes.length) :
      r.closes.length ≤ s.closes.length ∧
        ∀ c ∈ s.reserved, c ∈ r.reserved ∨ r.closes.length ≤ c := by
    refine ⟨Nat.le_of_eq hcloses.symm, fun c hc => .inl ?_⟩
    rw [Roster.reserved, hplaces] at hc
    exact (List.mem_append.mp hc).elim (List.mem_append_left _)
      fun hc => List.mem_append_right _ (hcoming hc)
  have hput {r' : Roster} (h : HandshakeId) (stand : Stand) (hplaces : r'.places = r.places)
      (hcoming : r'.coming = r.coming) (hcloses : r'.closes.length = r.closes.length) :
      r.closes.length ≤ (r'.put h stand).closes.length ∧
        ∀ c ∈ (r'.put h stand).reserved, c ∈ r.reserved ∨ r.closes.length ≤ c :=
    hless ((r'.connections_put h stand).trans (congrArg _ hplaces))
      (hcoming ▸ List.Subset.refl _) hcloses
  cases step with
  | connect hc =>
    refine ⟨by simp, fun c hm => ?_⟩
    obtain rfl | rfl := hc
    · exact .inl hm
    · rw [Roster.reserved, ← List.append_assoc] at hm
      obtain hm | hm := List.mem_append.mp hm
      · exact .inl hm
      · exact .inr (Nat.le_of_eq (List.mem_singleton.mp hm).symm)
  | start | drain => exact hless rfl (List.Subset.refl _) rfl
  | drop | strand => exact hless rfl (List.nil_subset _) rfl
  | @accept c rest hr hc =>
    refine ⟨Nat.le_refl _, fun d hd => .inl ?_⟩
    have hsame : (r.places ++ [(⟨c, .pending⟩ : Place)]).map Place.connection ++ rest =
        r.reserved := by
      rw [Roster.reserved, hc, List.map_append, List.append_assoc]
      rfl
    exact hsame ▸ hd
  | claimClosing | claimHanding | yield | raise | handOver | complete => exact hput _ _ rfl rfl rfl
  | close => exact hput _ _ rfl rfl (List.length_modify ..)
  | release => exact hless rfl (List.Subset.refl _) (List.length_modify ..)

/-- What is reserved after any deeds was reserved before, or is a connection that came since. -/
theorem Path.reserved {r s : Roster} {ds : List Deed} (path : Path r ds s) :
    r.closes.length ≤ s.closes.length ∧
      ∀ c ∈ s.reserved, c ∈ r.reserved ∨ r.closes.length ≤ c := by
  induction path with
  | nil => exact ⟨Nat.le_refl _, fun c hc => .inl hc⟩
  | snoc path step ih =>
    obtain ⟨hlength, hnew⟩ := step.reserved
    refine ⟨Nat.le_trans ih.1 hlength, fun c hc => ?_⟩
    obtain hc | hc := hnew c hc
    · exact ih.2 c hc
    · exact .inr (Nat.le_trans ih.1 hc)

/-- Connections have one handshake each, and are closed as often as the deeds say. -/
theorem Path.placed_counted {n : Nat} {r s : Roster} {ds es : List Deed} (path : Path r es s)
    (hp : Placed n r) (hk : Counted n r ds) : Placed n s ∧ Counted n s (ds ++ es) := by
  induction path with
  | nil => exact ⟨hp, (List.append_nil ds).symm ▸ hk⟩
  | snoc path step ih =>
    exact ⟨ih.1.step step, List.append_assoc .. ▸ ih.2.step ih.1 step⟩

end Roster

end Diameter.Listener

namespace Diameter.Daemon

open Listener (Accepted Arrival ConnectionId Deed Event StopStage)
open Queue (CallerId Request Spot)

/-- The connections that a listener has accepted or is going to accept. -/
def reserved (x : Registered) : List ConnectionId :=
  x.state.handshakes.map Accepted.connection ++ x.state.backlog.filterMap Except.toOption

/-- The connections that a listener has reserved can be read from its roster. -/
theorem reserved_roster (x : Registered) (s : Surroundings) :
    (⟨x.state, s⟩ : Listener).roster.reserved = reserved x := by
  rw [Listener.Roster.reserved, Listener.roster, List.map_map]
  rfl

/-- What all entries of a list have, when one of them is set apart. -/
theorem coe_flatMap_split {α β : Type} (f : α → List β) (before after : List α) (x : α) :
    (((before ++ x :: after).flatMap f : List β) : Multiset β) =
      (f x : Multiset β) + ((before ++ after).flatMap f : List β) := by
  rw [List.flatMap_append, List.flatMap_cons, List.flatMap_append, Multiset.coe_add]
  refine Multiset.coe_eq_coe.mpr ?_
  rw [← List.append_assoc, ← List.append_assoc]
  exact List.perm_append_comm.append_right _

/-- The deeds say as often as the log who was closed. -/
theorem count_closed (es : List Deed) (c : ConnectionId) :
    es.count (.closed c) + es.count (.released c) =
      ((es.filterMap closed?).map Prod.snd).count c := by
  induction es with
  | nil => rfl
  | cons e es ih =>
    cases e with
    | closed d =>
      rw [show (Deed.closed d :: es).filterMap closed? = (.handshake, d) :: es.filterMap closed?
        from rfl, List.map_cons, List.count_cons, List.count_cons, List.count_cons, ← ih]
      by_cases hd : d = c
      · simp [hd]
        omega
      · simp [hd]
    | released d =>
      rw [show (Deed.released d :: es).filterMap closed? = (.handOver, d) :: es.filterMap closed?
        from rfl, List.map_cons, List.count_cons, List.count_cons, List.count_cons, ← ih]
      by_cases hd : d = c
      · simp [hd]
        omega
      · simp [hd]
    | _ =>
      rw [List.count_cons_of_ne (by simp), List.count_cons_of_ne (by simp)]
      exact ih

/-- Connections as deeds of handshakes. -/
theorem count_map_closed (cs : List ConnectionId) (c : ConnectionId) :
    (cs.map Deed.closed).count (.closed c) = cs.count c ∧
      (cs.map Deed.closed).count (.released c) = 0 := by
  refine ⟨List.count_map_of_injective _ _ (fun _ _ h => Deed.closed.inj h) _, ?_⟩
  exact List.count_eq_zero.mpr fun hm => by simp at hm

namespace Closedown

variable {k : Closedown} {i : Nat} {x : Registered}

/-- The connections that all listeners have accepted or are going to accept. -/
def reserved (k : Closedown) : Multiset ConnectionId :=
  (k.registry.listeners.flatMap Daemon.reserved : List ConnectionId)

/-- How often a connection was closed. -/
def closes (k : Closedown) (c : ConnectionId) : Nat :=
  (k.surroundings.connections.map Connection.closes).getD c 0

/-- An event of a listener that does not exist. -/
theorem perform_of_none (hx : k.registry.listeners[i]? = none) (e : Event) :
    k.perform i e = k := by
  unfold perform Registry.listener? Registry.modify
  rw [hx]
  dsimp only [Option.map_none, Option.getD_none]
  rw [List.filterMap_nil, List.filterMap_nil, List.append_nil, List.append_nil]
  rfl

/-- An event of a listener that exists. -/
theorem perform_of_some (hx : k.registry.listeners[i]? = some x) (e : Event) :
    let l : Listener := ⟨x.state, k.surroundings⟩
    k.perform i e = { k with
      daemon.registry := ⟨k.registry.listeners.set i { x with
        state := (l.perform e).toListenerState }, (l.perform e).toSurroundings⟩
      passed := k.passed ++ (l.deeds e).filterMap passed?
      closed := k.closed ++ (l.deeds e).filterMap closed? } := by
  unfold perform Registry.listener? Registry.modify
  rw [hx]
  rfl

/-- What holds of all listeners. -/
structure Ordered (k : Closedown) : Prop where
  /-- All of them give connections to the event queue. -/
  peers : ∀ x ∈ k.registry.listeners, x.state.peers = .events
  /-- No connection comes to two of them. -/
  apart : k.reserved.Nodup
  /-- What comes to them is there. -/
  known : ∀ c ∈ k.reserved, c < k.surroundings.connections.length
  /-- Connections were closed as often as the log says. -/
  counted : ∀ c, k.closes c = (k.closed.map Prod.snd).count c

/-- How far the stops have come. -/
structure Stopped (k : Closedown) : Prop where
  /-- Every listener was started. -/
  started : ∀ x ∈ k.registry.listeners, x.state.acceptor ≠ .idle
  /-- Every listener has its stop. -/
  length : k.stops.length = k.registry.listeners.length
  /-- A stop that has taken the entries leaves nobody in the set. -/
  drained : ∀ (i : Nat) (stage : StopStage) (x : Registered), k.stops[i]? = some stage →
    stage.hasDrained = true → k.registry.listeners[i]? = some x →
      x.state.acceptor = .dropped ∧ x.state.outstanding = []

/-- All listeners have been stopped. Nobody accepts, and nobody is in a set. -/
def HasNobody (k : Closedown) : Prop :=
  ∀ x ∈ k.registry.listeners, x.state.acceptor = .dropped ∧ x.state.outstanding = []

/-- What each listener keeps all of them keep. -/
theorem forall_perform {P : ListenerState → Prop} (hk : ∀ x ∈ k.registry.listeners, P x.state)
    (step : ∀ (l : Listener) (e : Event), P l.toListenerState → P (l.perform e).toListenerState)
    (i : Nat) (e : Event) : ∀ x ∈ (k.perform i e).registry.listeners, P x.state := by
  rcases hx : k.registry.listeners[i]? with _ | x
  · rw [perform_of_none hx]
    exact hk
  · rw [perform_of_some hx]
    intro y hy
    obtain hy | rfl := List.mem_or_eq_of_mem_set hy
    · exact hk y hy
    · exact step ⟨x.state, k.surroundings⟩ e (hk x (List.mem_of_getElem? hx))

/-- With nobody in the sets, no event of a stopped listener brings anybody in. -/
theorem HasNobody.perform (hk : k.HasNobody) (i : Nat) (e : Event) :
    (k.perform i e).HasNobody :=
  forall_perform (P := fun x => x.acceptor = .dropped ∧ x.outstanding = []) hk
    (fun l e hl => (Listener.path_perform l e).emptied hl) i e

/-- The listener as an event meets it. -/
theorem Ordered.placed (hk : k.Ordered) (hx : x ∈ k.registry.listeners) :
    Listener.Placed 0 (⟨x.state, k.surroundings⟩ : Listener).roster := by
  have hreserved : (⟨x.state, k.surroundings⟩ : Listener).roster.places.map
      Listener.Place.connection ++ (⟨x.state, k.surroundings⟩ : Listener).roster.coming =
      Daemon.reserved x := reserved_roster x k.surroundings
  refine ⟨?_, fun c hc => ⟨Nat.zero_le c, ?_⟩, Nat.zero_le _⟩
  · rw [hreserved]
    exact (List.nodup_flatMap.mp (Multiset.coe_nodup.mp hk.apart)).1 x hx
  · rw [hreserved] at hc
    have hlt := hk.known c (Multiset.mem_coe.mpr (List.mem_flatMap.mpr ⟨x, hx, hc⟩))
    exact (List.length_map Connection.closes).symm ▸ hlt

/-- The roster of a listener keeps account of the log as deeds. -/
theorem Ordered.counted_roster (hk : k.Ordered) (x : ListenerState) :
    Listener.Counted 0 (⟨x, k.surroundings⟩ : Listener).roster
      ((k.closed.map Prod.snd).map Deed.closed) := by
  intro c _
  obtain ⟨hclosed, hreleased⟩ := count_map_closed (k.closed.map Prod.snd) c
  rw [hclosed, hreleased]
  exact hk.counted c

/-- Every event of a listener keeps this. -/
theorem Ordered.perform (hk : k.Ordered) (i : Nat) (e : Event) : (k.perform i e).Ordered := by
  have hpeers : ∀ x ∈ (k.perform i e).registry.listeners, x.state.peers = .events :=
    forall_perform (P := fun x => x.peers = .events) hk.peers (fun l e hl =>
      (congrArg AcceptTerms.peers (Listener.sheet_perform l e).bearings.1).trans hl) i e
  rcases hx : k.registry.listeners[i]? with _ | x
  · rw [perform_of_none hx]
    exact hk
  · obtain ⟨before, after, hsplit, hset⟩ := exists_split_of_getElem? hx
    have hperform := perform_of_some hx e
    have hplaced := hk.placed (List.mem_of_getElem? hx)
    have hcounted := hk.counted_roster x.state
    have hreserved := reserved_roster x k.surroundings
    have hlength : (⟨x.state, k.surroundings⟩ : Listener).roster.closes.length =
        k.surroundings.connections.length := List.length_map _
    generalize (⟨x.state, k.surroundings⟩ : Listener) = l at *
    have hpath := Listener.path_perform l e
    obtain ⟨hplaced', hcounted'⟩ := hpath.placed_counted hplaced hcounted
    obtain ⟨hmore, hnew⟩ := hpath.reserved
    have hlength' : (l.perform e).roster.closes.length = (l.perform e).connections.length :=
      List.length_map _
    rw [hlength, hlength'] at hmore
    let others : Multiset ConnectionId := ((before ++ after).flatMap Daemon.reserved : List ConnectionId)
    have hold : k.reserved = (l.roster.reserved : Multiset ConnectionId) + others := by
      rw [Closedown.reserved, hsplit, coe_flatMap_split, hreserved]
    have hnow : (k.perform i e).reserved =
        ((l.perform e).roster.reserved : Multiset ConnectionId) + others := by
      have hlisteners : (k.perform i e).registry.listeners =
          before ++ { x with state := (l.perform e).toListenerState } :: after := by
        rw [hperform]
        exact hset _
      rw [Closedown.reserved, hlisteners, coe_flatMap_split,
        ← reserved_roster _ (l.perform e).toSurroundings]
    have hsurroundings : (k.perform i e).surroundings = (l.perform e).toSurroundings := by
      rw [hperform]
      rfl
    have hknown (c : ConnectionId) (hc : c ∈ others) : c < k.surroundings.connections.length :=
      hk.known c (hold ▸ Multiset.mem_add.mpr (.inr hc))
    obtain ⟨-, hothers, hdisjoint⟩ := Multiset.nodup_add.mp (hold ▸ hk.apart)
    refine ⟨hpeers, ?_, fun c hc => ?_, fun c => ?_⟩
    · rw [hnow]
      refine Multiset.nodup_add.mpr ⟨Multiset.coe_nodup.mpr hplaced'.distinct, hothers, ?_⟩
      refine Multiset.disjoint_left.mpr fun {c} hc hother => ?_
      obtain hc | hc := hnew c hc
      · exact Multiset.disjoint_left.mp hdisjoint hc hother
      · rw [hlength] at hc
        exact Nat.not_lt_of_le hc (hknown c hother)
    · rw [hsurroundings]
      rw [hnow] at hc
      obtain hc | hc := Multiset.mem_add.mp hc
      · exact hlength' ▸ (hplaced'.known c hc).2
      · exact Nat.lt_of_lt_of_le (hknown c hc) hmore
    · have hcount := hcounted' c (Nat.zero_le c)
      rw [closes, hsurroundings]
      refine hcount.trans ?_
      rw [hperform]
      dsimp only
      rw [List.map_append, List.count_append, List.count_append, List.count_append,
        ← count_closed]
      obtain ⟨hclosed, hreleased⟩ := count_map_closed (k.closed.map Prod.snd) c
      omega

/-! ## The stops -/

/-- Every event of a listener keeps how far the stops have come. -/
theorem Stopped.perform (hk : k.Stopped) (i : Nat) (e : Event) : (k.perform i e).Stopped := by
  have hstarted : ∀ x ∈ (k.perform i e).registry.listeners, x.state.acceptor ≠ .idle :=
    forall_perform (P := fun x => x.acceptor ≠ .idle) hk.started
      (fun l e hl => (Listener.path_perform l e).started hl) i e
  rcases hx : k.registry.listeners[i]? with _ | x
  · rw [perform_of_none hx]
    exact hk
  · rw [perform_of_some hx] at hstarted ⊢
    refine ⟨hstarted, hk.length.trans (List.length_set ..).symm, fun j stage y hj hdrained hy => ?_⟩
    replace hy : (k.registry.listeners.set i _)[j]? = some y := hy
    rw [List.getElem?_set] at hy
    split_ifs at hy with hij
    · subst hij
      obtain rfl := Option.some.inj hy
      exact (Listener.path_perform ⟨x.state, k.surroundings⟩ e).emptied
        (hk.drained i stage x hj hdrained hx)
    · exact hk.drained j stage y hj hdrained hy

/-- A stop that goes on to a step at which it has taken the entries, if it did, leaves nobody
in the set. -/
theorem Stopped.set (hk : k.Stopped) {i : Nat} {stage : StopStage}
    (hdrained : stage.hasDrained = true → ∀ x, k.registry.listeners[i]? = some x →
      x.state.acceptor = .dropped ∧ x.state.outstanding = []) :
    Stopped { k with stops := k.stops.set i stage } := by
  refine ⟨hk.started, (List.length_set ..).trans hk.length, fun j other y hj hother hy => ?_⟩
  replace hj : (k.stops.set i stage)[j]? = some other := hj
  rw [List.getElem?_set] at hj
  split_ifs at hj with hij
  · subst hij
    obtain rfl := Option.some.inj hj
    exact hdrained hother y hy
  · exact hk.drained j other y hj hother hy

/-- A stop that goes on keeps how far the stops have come. It takes the entries once the loop has
gone. -/
theorem Stopped.stop (hk : k.Stopped) (i : Nat) : (k.stop i).Stopped := by
  unfold Closedown.stop
  split
  · next l stage hl hstage =>
    obtain ⟨x, hx, rfl⟩ := Option.map_eq_some_iff.mp hl
    have hmem := List.mem_of_getElem? hx
    cases stage with
    | ahead =>
      dsimp only
      split
      · exact hk
      · exact (hk.perform i .cancelAll).set fun h => by cases h
    | joining =>
      dsimp only
      split
      · exact hk
      · next haccepting =>
        have hdropped : x.state.acceptor = .dropped := by
          cases hacceptor : x.state.acceptor with
          | idle => exact absurd hacceptor (hk.started x hmem)
          | accepting => exact absurd hacceptor haccepting
          | dropped => rfl
        refine (hk.perform i .drain).set fun _ y hy => ?_
        rw [perform_of_some hx] at hy
        replace hy : (k.registry.listeners.set i _)[i]? = some y := hy
        rw [List.getElem?_set_self (List.getElem?_eq_some_iff.mp hx).1] at hy
        obtain rfl := Option.some.inj hy
        have hidle : ¬ (⟨x.state, k.surroundings⟩ : Listener).acceptor = .idle := hk.started x hmem
        dsimp only [Listener.perform]
        unfold Listener.drain
        rw [if_neg hidle]
        exact ⟨hdropped, rfl⟩
    | awaiting taken =>
      dsimp only
      split
      · refine (hk.perform i _).set fun _ y hy => ?_
        exact (hk.perform i (.conclude taken)).drained i (.awaiting taken) y
          (by rw [perform_of_some hx]; exact hstage) rfl hy
      · exact hk
    | returned taken => exact hk
  · exact hk

/-- When all stops have returned, nobody is left. -/
theorem Stopped.hasNobody (hk : k.Stopped) (hstops : k.hasStopped = true) : k.HasNobody := by
  intro x hx
  obtain ⟨i, hi, hget⟩ := List.mem_iff_getElem.mp hx
  have hlt : i < k.stops.length := hk.length ▸ hi
  have hstage : k.stops[i]? = some k.stops[i] := List.getElem?_eq_getElem hlt
  refine hk.drained i k.stops[i] x hstage ?_ (List.getElem?_eq_some_iff.mpr ⟨hi, hget⟩)
  have hreturned := List.all_eq_true.mp hstops k.stops[i] (List.getElem_mem hlt)
  cases hs : k.stops[i] with
  | returned taken => rfl
  | _ =>
    rw [hs] at hreturned
    cases hreturned

/-! ## The books on all listeners -/

/-- The books tell what has become of every connection. -/
structure Tells (k : Closedown) (b : Books) : Prop where
  /-- The books are right. -/
  right : b.Right
  /-- They show the event queue. -/
  shows : b.Shows k.events
  /-- They say what the handshakes have to do with their connections. -/
  holders : b.holders = held k.handshakes
  /-- They say which connections were passed. -/
  passed : b.passed = k.passed
  /-- They say which connections were closed, and by whom. -/
  closed : b.closed = k.closed

/-- The handshakes of the others. -/
theorem held_split {before after : List Registered} (x : Registered) :
    held ((before ++ x :: after).flatMap (·.state.handshakes)) = held x.state.handshakes +
      (((before ++ after).flatMap fun y => y.state.handshakes.map holder : List Holder) :
        Multiset Holder) := by
  rw [held, List.map_flatMap, coe_flatMap_split]
  rfl

/-- Connections with handshakes are reserved. -/
theorem held_le_reserved (k : Closedown) : (held k.handshakes).map Prod.fst ≤ k.reserved := by
  have hsub (xs : List Registered) :
      ((xs.flatMap (·.state.handshakes)).map (Prod.fst ∘ holder)).Sublist
        (xs.flatMap Daemon.reserved) := by
    induction xs with
    | nil => exact List.Sublist.refl _
    | cons x xs ih =>
      rw [List.flatMap_cons, List.map_append, List.flatMap_cons]
      exact (List.sublist_append_left _ _).append ih
  rw [held, Multiset.map_coe, List.map_map]
  exact Multiset.coe_le.mpr (hsub _).subperm

/-- Every event of a listener is a path in the books. What the consumer asked and what is about
to be closed stays as it is. -/
theorem Tells.perform {b : Books} (hb : k.Tells b) (hk : k.Ordered) {passing : Bool}
    (hpassing : passing = false → k.HasNobody) (i : Nat) {e : Event}
    (he : e.isOwn = true) :
    ∃ b', Books.Path passing b b' ∧ (k.perform i e).Tells b' ∧ b'.hand = b.hand ∧
      ∀ (c : CallerId) (deadline : Option Nat) (spot : Spot Arrival),
        b'.calls[c]? = some (Request.pop deadline, spot) ↔
          b.calls[c]? = some (Request.pop deadline, spot) := by
  rcases hx : k.registry.listeners[i]? with _ | x
  · rw [perform_of_none hx]
    exact ⟨b, .refl, hb, rfl, fun _ _ _ => Iff.rfl⟩
  · have hmem := List.mem_of_getElem? hx
    obtain ⟨before, after, hsplit, hset⟩ := exists_split_of_getElem? hx
    have hperform := perform_of_some hx e
    have hreserved := held_le_reserved (k.perform i e)
    have hapart := (hk.perform i e).apart
    let others : Multiset Holder :=
      ((before ++ after).flatMap fun y => y.state.handshakes.map holder : List Holder)
    have hold : held k.handshakes = held x.state.handshakes + others := by
      rw [handshakes, hsplit, held_split]
    have hnow : held (k.perform i e).handshakes =
        held ((⟨x.state, k.surroundings⟩ : Listener).perform e).handshakes + others := by
      have hlisteners : (k.perform i e).registry.listeners = before ++ { x with
          state := ((⟨x.state, k.surroundings⟩ : Listener).perform e).toListenerState } ::
            after := by
        rw [hperform]
        exact hset _
      rw [handshakes, hlisteners, held_split]
    have hkeeps : Books.Keeps ⟨x.state, k.surroundings⟩ others passing b := by
      refine ⟨hb.right, hb.shows, hb.holders.trans hold, hk.peers x hmem,
        fun h => (hpassing h x hmem).2, fun y hy => ?_⟩
      refine hk.known _ (Multiset.mem_coe.mpr (List.mem_flatMap.mpr ⟨x, hmem, ?_⟩))
      exact List.mem_append_left _ (List.mem_map_of_mem hy)
    obtain ⟨b', hpath, hwrote⟩ := hkeeps.path he
      (hnow ▸ Multiset.nodup_of_le hreserved hapart)
    refine ⟨b', hpath, ⟨hpath.right hb.right, ?_, hwrote.holders.trans hnow.symm, ?_, ?_⟩,
      hwrote.hand, hwrote.pops⟩
    · rw [hperform]
      exact hwrote.shows
    · rw [hwrote.passed, hb.passed, hperform]
    · rw [hwrote.closed, hb.closed, hperform]

end Closedown

end Diameter.Daemon
