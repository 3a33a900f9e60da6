import Diameter.Proofs.Daemon.Moves

/-!
# An event queue that nobody empties

While neither a consumer nor a wait goes on, nothing leaves the event queue. What lies in there
stays there in its order, and hand-overs put more behind it as long as there is room. When the
queue is full, nothing changes any more: a push that waits for room waits for ever. As long as
the queue is not destroyed it refuses nobody either, so that no hand-over closes its connection.

Handshakes that do not hand over close their connections by themselves, whatever becomes of
the queue.
-/

namespace Diameter.Listener

/-- Whether a handshake that stands here has turned its connection away and closed it. -/
def Stand.hasClosed : Stand → Bool
  | .raising => true
  | .ended outcome => outcome ≠ .handedOff
  | _ => false

namespace Roster

/-- Every handshake that has turned its connection away closed it by a deed, now or before. -/
theorem Step.hasClosed {r s : Roster} {es : List Deed} (step : Step r es s)
    {P : ConnectionId → Prop} (hr : ∀ x ∈ r.places, x.stand.hasClosed = true → P x.connection) :
    ∀ x ∈ s.places, x.stand.hasClosed = true → P x.connection ∨ .closed x.connection ∈ es := by
  have hput {h : HandshakeId} {c : ConnectionId} {old stand : Stand}
      (hplace : r.places[h]? = some ⟨c, old⟩)
      (hself : stand.hasClosed = true → P c ∨ .closed c ∈ es) :
      ∀ x ∈ (r.put h stand).places, x.stand.hasClosed = true →
        P x.connection ∨ .closed x.connection ∈ es := by
    intro x hx hclosed
    obtain ⟨i, hi⟩ := List.mem_iff_getElem?.mp hx
    obtain ⟨-, rfl⟩ | ⟨-, hother⟩ := places_put hplace hi
    · exact hself hclosed
    · exact .inl (hr x (List.mem_of_getElem? hother) hclosed)
  have hkept (x : Place) (hx : x ∈ r.places) (hclosed : x.stand.hasClosed = true) :
      P x.connection ∨ .closed x.connection ∈ es := .inl (hr x hx hclosed)
  cases step with
  | accept =>
    intro x hx hclosed
    obtain hx | hx := List.mem_append.mp hx
    · exact hkept x hx hclosed
    · obtain rfl := List.mem_singleton.mp hx
      cases hclosed
  | claimClosing hplace | claimHanding hplace | yield hplace | handOver hplace =>
    exact hput hplace fun h => by cases h
  | close hplace => exact hput hplace fun _ => .inr (List.mem_singleton_self _)
  | raise hplace => exact hput hplace fun _ => .inl (hr _ (List.mem_of_getElem? hplace) rfl)
  | complete hplace => exact hput hplace fun h => by simp [Stand.hasClosed] at h
  | _ => exact hkept

/-- A handshake that has closed its connection had done so before, or did so by one of the deeds.
-/
theorem Path.hasClosed {r s : Roster} {es : List Deed} (path : Path r es s)
    {P : ConnectionId → Prop} (hr : ∀ x ∈ r.places, x.stand.hasClosed = true → P x.connection) :
    ∀ x ∈ s.places, x.stand.hasClosed = true → P x.connection ∨ .closed x.connection ∈ es := by
  induction path with
  | nil => exact fun x hx hclosed => .inl (hr x hx hclosed)
  | @snoc _ _ ds _ path step ih =>
    intro x hx hclosed
    obtain (hbefore | hdeed) | hdeed :=
      step.hasClosed (P := fun c => P c ∨ Deed.closed c ∈ ds) ih x hx hclosed
    · exact .inl hbefore
    · exact .inr (List.mem_append_left _ hdeed)
    · exact .inr (List.mem_append_right _ hdeed)

end Roster

end Diameter.Listener

namespace Diameter.Daemon

open Listener (Arrival ConnectionId Event)
open Queue (CallerId Request Spot)

/-! ## Books on a queue that nobody empties -/

namespace Books

variable {b b' b'' : Books} {passing : Bool}

/-- Nobody took a connection out of the queue: none is about to be closed after that, and only
handshakes and hand-overs have closed any. -/
structure Unattended (b : Books) : Prop where
  hand : b.hand = 0
  closers : ∀ x ∈ b.closed, x.1 = .handshake ∨ x.1 = .handOver

/-- What is still so was so before. -/
theorem Step.unattended (h : Step passing b b') (hb : b'.Unattended) : b.Unattended := by
  obtain ⟨hhand, hclosers⟩ := hb
  cases h with
  | close | discharge =>
    exact ⟨hhand, fun x hx => hclosers x (List.mem_append_left _ hx)⟩
  | take | takeNow => exact absurd hhand (Multiset.cons_ne_zero)
  | @release closer c hand hc =>
    obtain h | h := hclosers (closer, c) (List.mem_append_right _ (List.mem_singleton_self _))
    · obtain rfl | rfl := hc <;> cases h
    · obtain rfl | rfl := hc <;> cases h
  | _ => exact ⟨hhand, hclosers⟩

/-- What a queue that nobody empties comes to. -/
structure Grows (b b' : Books) : Prop where
  /-- The queue is destroyed or not, as before. -/
  lifecycle : b'.lifecycle = b.lifecycle
  /-- So much fits into it. -/
  capacity : b'.capacity = b.capacity
  /-- What was passed was passed. -/
  passed : b.passed <+: b'.passed
  /-- What was in there is in there. -/
  items : b.items <+: b'.items
  /-- Nothing gets into a queue that is full. -/
  full : b.isFull = true → b'.items = b.items
  /-- Whoever waits for room goes on waiting. -/
  waits : b.lifecycle = .usable → b.isFull = true → ∀ (i : CallerId) (arrival : Arrival),
    b.calls[i]? = some (.push arrival, .facing 0) → b'.calls[i]? = some (.push arrival, .facing 0)

theorem Grows.refl (b : Books) : Grows b b :=
  ⟨rfl, rfl, List.prefix_refl _, List.prefix_refl _, fun _ => rfl, fun _ _ _ _ hi => hi⟩

theorem Grows.trans (h : Grows b b') (h' : Grows b' b'') : Grows b b'' := by
  have hfull (hb : b.isFull = true) : b'.isFull = true := by
    rw [Books.isFull, h.full hb, h.capacity]
    exact hb
  exact ⟨h'.lifecycle.trans h.lifecycle, h'.capacity.trans h.capacity, h.passed.trans h'.passed,
    h.items.trans h'.items,
    fun hb => (h'.full (hfull hb)).trans (h.full hb),
    fun hl hb i arrival hi => h'.waits (h.lifecycle.trans hl) (hfull hb) i arrival
      (h.waits hl hb i arrival hi)⟩

/-- An entry that takes nothing out of the queue only puts something in, and most entries leave it
as it is. -/
theorem Step.grows (h : Step passing b b') (hb : b'.Unattended) : Grows b b' := by
  have hlt {i : CallerId} {call : Call} (hi : b.calls[i]? = some call) : i < b.calls.length :=
    (List.getElem?_eq_some_iff.mp hi).1
  have hsame {b' : Books} (hlifecycle : b'.lifecycle = b.lifecycle)
      (hcapacity : b'.capacity = b.capacity) (hpassed : b.passed <+: b'.passed)
      (hitems : b'.items = b.items)
      (hcalls : b.lifecycle = .usable → ∀ (i : CallerId) (arrival : Arrival),
        b.calls[i]? = some (.push arrival, .facing 0) →
          b'.calls[i]? = some (.push arrival, .facing 0)) : Grows b b' :=
    ⟨hlifecycle, hcapacity, hpassed, hitems ▸ List.prefix_refl _, fun _ => hitems,
      fun hl _ => hcalls hl⟩
  cases h with
  | hand =>
    exact hsame rfl rfl (List.prefix_append _ _) rfl fun _ i arrival hi =>
      (List.getElem?_append_left (hlt hi)).trans hi
  | ask =>
    exact hsame rfl rfl (List.prefix_refl _) rfl fun _ i arrival hi =>
      (List.getElem?_append_left (hlt hi)).trans hi
  | store hi hl hr =>
    exact ⟨rfl, rfl, List.prefix_refl _, List.prefix_append _ _,
      fun hb => absurd (hr.symm.trans hb) (by decide),
      fun _ hb => absurd (hr.symm.trans hb) (by decide)⟩
  | refuse hi hl =>
    exact hsame rfl rfl (List.prefix_refl _) rfl fun husable =>
      absurd (hl.symm.trans husable) (by decide)
  | forgo hi =>
    exact hsame rfl rfl (List.prefix_refl _) rfl fun _ j arrival hj =>
      (getElem?_set_pop hi j _ _).mpr hj
  | take | takeNow => exact absurd hb.hand Multiset.cons_ne_zero
  | _ => exact hsame rfl rfl (List.prefix_refl _) rfl fun _ _ _ hi => hi

/-- As long as nobody takes anything out, any number of entries only put something in. -/
theorem Path.grows (h : Path passing b b') (hb : b'.Unattended) : Grows b b' := by
  induction h with
  | refl => exact .refl b
  | tail _ step ih => exact (ih (step.unattended hb)).trans (step.grows hb)

/-- The queue has refused nobody. -/
def Welcome (b : Books) : Prop := ∀ c, ¬b.Refused c

/-- Only a queue that is destroyed refuses anybody, and a call that is new is not over. -/
theorem Step.welcome (h : Step passing b b') (hl : b.lifecycle = .usable) (hb : b.Welcome) :
    b'.Welcome := by
  rintro c ⟨i, arrival, e, hi, hc⟩
  have hnot : b.calls[i]? ≠ some (.push arrival, .ended (.refused arrival e)) :=
    fun h => hb c ⟨i, arrival, e, h, hc⟩
  have hnew {call : Call} (hcall : call ≠ (.push arrival, .ended (.refused arrival e)))
      (h : (b.calls ++ [call])[i]? = some (.push arrival, .ended (.refused arrival e))) : False := by
    rw [List.getElem?_append] at h
    split at h
    · exact hnot h
    · rw [List.getElem?_singleton] at h
      split at h
      · exact hcall (Option.some.inj h)
      · cases h
  cases h with
  | hand | ask => exact hnew (by simp) hi
  | store hj =>
    rw [List.getElem?_set] at hi
    split_ifs at hi
    · cases hi
    · exact hnot hi
  | refuse hj hd => cases hl.symm.trans hd
  | forgo hj | take hj => exact hnot ((getElem?_set_pop hj i _ _).mp hi)
  | _ => exact hnot hi

/-- As long as the queue can be used, any number of entries refuse nobody. -/
theorem Path.welcome (h : Path passing b b') (hl : b.lifecycle = .usable) (hb : b.Welcome) :
    b'.Welcome := by
  induction h with
  | refl => exact hb
  | tail path step ih => exact step.welcome ((Path.stays path).lifecycle.trans hl) ih

end Books

/-! ## What goes on beside the consumer and the wait -/

namespace Closedown

variable {k k' : Closedown} {m : Move}

/-- What goes on beside the consumer and the wait is an event of a listener, or it is about what
the listeners share. -/
theorem beside_cases (k : Closedown) (hm : m.isBeside = true) :
    (∃ i e stops, k.next m = { k.perform i e with stops }) ∨
      ∃ surroundings, k.next m = k.withSurroundings surroundings := by
  cases m with
  | listener i e =>
    unfold Closedown.next
    dsimp only
    split
    · exact .inl ⟨i, e, k.stops, rfl⟩
    · exact .inr ⟨k.surroundings, rfl⟩
  | stop i =>
    unfold Closedown.next
    dsimp only
    split
    · obtain hsame | ⟨e, stage, -, hperform⟩ := stop_cases k i
      · exact .inr ⟨k.surroundings, hsame⟩
      · exact .inl ⟨i, e, _, hperform⟩
    · exact .inr ⟨k.surroundings, rfl⟩
  | turn c | arrange runnable | trigger reason => exact .inr ⟨_, rfl⟩
  | consume overlooks | wait => cases hm

/-- Nobody but listeners, handshakes and hand-overs has done anything so far. -/
structure Quiet (k : Closedown) : Prop where
  /-- The consumer does not work. -/
  working : k.daemon.consumer.working = false
  /-- It has nothing. -/
  looking : k.consuming = .looking
  /-- Only handshakes and hand-overs have closed connections. -/
  closers : ∀ x ∈ k.closed, x.1 = .handshake ∨ x.1 = .handOver
  /-- Every handshake that has turned its connection away has closed it. -/
  turned : ∀ x ∈ k.handshakes, x.phase.stand.hasClosed = true →
    (.handshake, x.connection) ∈ k.closed

/-- Whether the consumer is quiet depends on the consumer, on what was closed and on the
handshakes. -/
theorem Quiet.congr (hk : k.Quiet) (hconsumer : k'.daemon.consumer = k.daemon.consumer)
    (hconsuming : k'.consuming = k.consuming) (hclosed : k'.closed = k.closed)
    (hhandshakes : k'.handshakes = k.handshakes) : k'.Quiet := by
  refine ⟨hconsumer ▸ hk.working, hconsuming ▸ hk.looking, ?_, ?_⟩
  · rw [hclosed]
    exact hk.closers
  · rw [hclosed, hhandshakes]
    exact hk.turned

/-- An event of a listener keeps this. -/
theorem Quiet.perform (hk : k.Quiet) (i : Nat) (e : Event) : (k.perform i e).Quiet := by
  refine ⟨hk.working, hk.looking, fun x hx => ?_, ?_⟩
  · obtain hx | hx := List.mem_append.mp hx
    · exact hk.closers x hx
    · obtain ⟨deed, -, hdeed⟩ := List.mem_filterMap.mp hx
      cases deed with
      | closed c =>
        cases hdeed
        exact .inl rfl
      | released c =>
        cases hdeed
        exact .inr rfl
      | _ => cases hdeed
  · rcases hx : k.registry.listeners[i]? with _ | x
    · rw [perform_of_none hx]
      exact hk.turned
    · rw [perform_of_some hx]
      intro y hy hclosed
      obtain ⟨z, hz, hy⟩ := List.mem_flatMap.mp hy
      obtain hz | rfl := List.mem_or_eq_of_mem_set hz
      · exact List.mem_append_left _ (hk.turned y (List.mem_flatMap.mpr ⟨z, hz, hy⟩) hclosed)
      · have hbefore : ∀ p ∈ (⟨x.state, k.surroundings⟩ : Listener).roster.places,
            p.stand.hasClosed = true → (.handshake, p.connection) ∈ k.closed := by
          intro p hp hclosed
          obtain ⟨y, hy, rfl⟩ := List.mem_map.mp hp
          exact hk.turned y (List.mem_flatMap.mpr ⟨x, List.mem_of_getElem? hx, hy⟩) hclosed
        have hpath := Listener.path_perform ⟨x.state, k.surroundings⟩ e
        obtain hbefore | hdeed := hpath.hasClosed (P := fun c => (.handshake, c) ∈ k.closed) hbefore
          ⟨y.connection, y.phase.stand⟩ (List.mem_map_of_mem hy) hclosed
        · exact List.mem_append_left _ hbefore
        · exact List.mem_append_right _ (List.mem_filterMap.mpr ⟨_, hdeed, rfl⟩)

/-- So does everything beside the consumer and the wait. The wait is where it was. -/
theorem Quiet.next (hk : k.Quiet) (hm : m.isBeside = true) :
    (k.next m).Quiet ∧ (k.next m).stage = k.stage := by
  obtain ⟨i, e, stops, h⟩ | ⟨surroundings, h⟩ := beside_cases k hm
  · rw [h]
    exact ⟨(hk.perform i e).congr rfl rfl rfl rfl, rfl⟩
  · rw [h]
    exact ⟨hk.congr rfl rfl rfl rfl, rfl⟩

/-- With nobody in the sets, nothing beside the wait brings anybody in. -/
theorem HasNobody.next (hk : k.HasNobody) (hm : m.isBeside = true) : (k.next m).HasNobody := by
  obtain ⟨i, e, stops, h⟩ | ⟨surroundings, h⟩ := beside_cases k hm
  · rw [h]
    exact (hk.perform i e).congr rfl
  · rw [h]
    exact hk.congr rfl

end Closedown

end Diameter.Daemon
