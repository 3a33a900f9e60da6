import Diameter.Proofs.Listener.Steps
import Mathlib.Data.List.Nodup

/-!
# Entries and their handshakes

A connection has at most one handshake. The entry of a handshake is in the set, or the
handshake has claimed it, or a stop has drained it, and only one of these. Only a handshake
that waits, or has not yet looked for its entry, is in the set.
-/

namespace Diameter.Listener

/-- Every connection has at most one handshake, and none before it is accepted. The first `n`
connections were there before the listener. -/
structure Placed (n : Nat) (r : Roster) : Prop where
  distinct : (r.places.map Place.connection ++ r.coming).Nodup
  known : ∀ c ∈ r.places.map Place.connection ++ r.coming, n ≤ c ∧ c < r.closes.length
  first : n ≤ r.closes.length

/-- The deeds say which handshakes have left the set, and how. -/
structure Listed (r : Roster) (ds : List Deed) : Prop where
  waits : ∀ h ∈ r.outstanding, ∃ c, r.places[h]? = some ⟨c, .pending⟩
  inside : ∀ h ∈ r.outstanding, .claimed h ∉ ds ∧ .drained h ∉ ds
  left : ∀ h < r.places.length, h ∈ r.outstanding ∨ .claimed h ∈ ds ∨ .drained h ∈ ds
  once : ∀ h, .claimed h ∈ ds → .drained h ∉ ds
  numbered : ∀ h, .claimed h ∈ ds ∨ .drained h ∈ ds → h < r.places.length

/-! ## Putting a handshake elsewhere -/

namespace Roster

theorem connections_put (r : Roster) (h : HandshakeId) (stand : Stand) :
    (r.put h stand).places.map Place.connection = r.places.map Place.connection :=
  map_modify_of_eq _ _ fun _ _ => rfl

theorem length_put (r : Roster) (h : HandshakeId) (stand : Stand) :
    (r.put h stand).places.length = r.places.length := List.length_modify ..

/-- After one handshake has moved, the others stand where they stood. -/
theorem places_put {r : Roster} {h i : HandshakeId} {c : ConnectionId} {old stand : Stand}
    {x : Place} (hr : r.places[h]? = some ⟨c, old⟩) (hx : (r.put h stand).places[i]? = some x) :
    (i = h ∧ x = ⟨c, stand⟩) ∨ (i ≠ h ∧ r.places[i]? = some x) := by
  rw [put, List.getElem?_modify] at hx
  by_cases hi : h = i
  · subst hi
    rw [hr] at hx
    exact .inl ⟨rfl, by simpa using hx.symm⟩
  · exact .inr ⟨fun he => hi he.symm, by simpa [hi] using hx⟩

/-- Other handshakes stand where they stood. -/
theorem places_put_other {r : Roster} {h i : HandshakeId} {stand : Stand} (hi : i ≠ h) :
    (r.put h stand).places[i]? = r.places[i]? := by
  rw [put, List.getElem?_modify]
  simp [Ne.symm hi]

/-- A handshake that stands somewhere is one of those that were accepted. -/
theorem lt_length_places {r : Roster} {h : HandshakeId} {x : Place}
    (hr : r.places[h]? = some x) : h < r.places.length :=
  (List.getElem?_eq_some_iff.mp hr).1

end Roster

/-- Two handshakes have two connections. -/
theorem Placed.connection_ne {n : Nat} {r : Roster} (hp : Placed n r) {h i : HandshakeId}
    {x y : Place} (hx : r.places[h]? = some x) (hy : r.places[i]? = some y) (hi : i ≠ h) :
    y.connection ≠ x.connection := by
  intro he
  have hnodup := (List.nodup_append.mp hp.distinct).1
  have hx' : (r.places.map Place.connection)[h]? = some x.connection := by simp [hx]
  have hy' : (r.places.map Place.connection)[i]? = some x.connection := by simp [hy, he]
  have hlt := (List.getElem?_eq_some_iff.mp hy').1
  exact hi ((List.getElem?_inj hlt hnodup).mp (hy'.trans hx'.symm))

/-! ## Connections and handshakes belong together -/

/-- The places are right as long as the connections are the same and no new ones come. -/
theorem Placed.of_places {n : Nat} {r s : Roster} (hp : Placed n r)
    (hplaces : s.places.map Place.connection = r.places.map Place.connection)
    (hcoming : s.coming.Sublist r.coming) (hcloses : s.closes.length = r.closes.length) :
    Placed n s where
  distinct := by
    rw [hplaces]
    exact hp.distinct.sublist (hcoming.append_left _)
  known := by
    intro c hc
    rw [hplaces] at hc
    rw [hcloses]
    exact hp.known c ((hcoming.append_left _).subset hc)
  first := hcloses ▸ hp.first

theorem Placed.step {n : Nat} {r s : Roster} {ds : List Deed} (hp : Placed n r)
    (step : Roster.Step r ds s) : Placed n s := by
  have hput (r : Roster) (h : HandshakeId) (stand : Stand) (hp : Placed n r) :
      Placed n (r.put h stand) :=
    hp.of_places (r.connections_put h stand) (List.Sublist.refl _) rfl
  have hclose (r : Roster) (c : ConnectionId) (hp : Placed n r) : Placed n (r.close c) :=
    hp.of_places rfl (List.Sublist.refl _) (List.length_modify ..)
  cases step with
  | connect hc =>
    have hlength : (r.closes ++ [0]).length = r.closes.length + 1 := List.length_append
    have hfirst : n ≤ (r.closes ++ [0]).length := hlength ▸ Nat.le_succ_of_le hp.first
    have hknown (c : ConnectionId) (hm : c ∈ r.places.map Place.connection ++ r.coming) :
        n ≤ c ∧ c < (r.closes ++ [0]).length :=
      ⟨(hp.known c hm).1, hlength ▸ Nat.lt_succ_of_lt (hp.known c hm).2⟩
    obtain rfl | rfl := hc
    · exact ⟨hp.distinct, hknown, hfirst⟩
    · have hnew : r.closes.length ∉ r.places.map Place.connection ++ r.coming := fun hm =>
        Nat.lt_irrefl _ (hp.known _ hm).2
      refine ⟨?_, ?_, hfirst⟩
      · rw [← List.append_assoc, ← List.concat_eq_append]
        exact List.Nodup.concat hnew hp.distinct
      · intro c hc
        rw [← List.append_assoc, List.mem_append, List.mem_singleton] at hc
        obtain hc | rfl := hc
        · exact hknown c hc
        · exact ⟨hp.first, hlength ▸ Nat.lt_succ_self _⟩
  | start hr => exact ⟨hp.distinct, hp.known, hp.first⟩
  | drop => exact hp.of_places rfl (List.nil_sublist _) rfl
  | @accept c rest hr hc =>
    have hsame : (r.places ++ [(⟨c, .pending⟩ : Place)]).map Place.connection ++ rest =
        r.places.map Place.connection ++ r.coming := by
      rw [hc, List.map_append, List.append_assoc]
      rfl
    exact ⟨hsame ▸ hp.distinct, hsame ▸ hp.known, hp.first⟩
  | strand hr hc => exact hp.of_places rfl (List.nil_sublist _) rfl
  | claimClosing hr hs ho => exact hput (r.leave _) _ _ (hp.of_places rfl (.refl _) rfl)
  | claimHanding hr hs => exact hput (r.leave _) _ _ (hp.of_places rfl (.refl _) rfl)
  | yield hr hs ho => exact hput r _ _ hp
  | close hr hs => exact hput _ _ _ (hclose r _ hp)
  | raise hr ho => exact hput r _ _ hp
  | handOver hr => exact hput r _ _ hp
  | complete hr => exact hput r _ _ hp
  | release hc => exact hclose r _ hp
  | drain => exact ⟨hp.distinct, hp.known, hp.first⟩

/-! ## Who is in the set -/

/-- The deeds are about no entry of the set. -/
def Silent (ds : List Deed) : Prop := ∀ h, .claimed h ∉ ds ∧ .drained h ∉ ds

/-- A handshake that does not stand pending is not in the set. -/
theorem Listed.not_outstanding {r : Roster} {ds : List Deed} (hl : Listed r ds)
    {h : HandshakeId} {c : ConnectionId} {stand : Stand} (hr : r.places[h]? = some ⟨c, stand⟩)
    (hs : stand ≠ .pending) : h ∉ r.outstanding := by
  intro hm
  obtain ⟨d, hd⟩ := hl.waits h hm
  rw [hr] at hd
  exact hs (congrArg Place.stand (Option.some.inj hd))

/-- Deeds of which the list does not speak keep the list right. -/
theorem Listed.silent {r s : Roster} {ds es : List Deed} (hl : Listed r ds) (hes : Silent es)
    (hout : s.outstanding = r.outstanding) (hlength : s.places.length = r.places.length)
    (hplaces : ∀ h ∈ r.outstanding, s.places[h]? = r.places[h]?) : Listed s (ds ++ es) := by
  have hclaimed (h : HandshakeId) : .claimed h ∈ ds ++ es ↔ .claimed h ∈ ds := by
    simp [(hes h).1]
  have hdrained (h : HandshakeId) : .drained h ∈ ds ++ es ↔ .drained h ∈ ds := by
    simp [(hes h).2]
  constructor
  · intro h hm
    rw [hout] at hm
    rw [hplaces h hm]
    exact hl.waits h hm
  · intro h hm
    rw [hout] at hm
    rw [hclaimed, hdrained]
    exact hl.inside h hm
  · intro h hlt
    rw [hlength] at hlt
    rw [hout, hclaimed, hdrained]
    exact hl.left h hlt
  · intro h
    rw [hclaimed, hdrained]
    exact hl.once h
  · intro h
    rw [hclaimed, hdrained, hlength]
    exact hl.numbered h

/-- A handshake outside the set may stand anywhere. -/
theorem Listed.put {r s : Roster} {ds es : List Deed} (hl : Listed r ds) (hes : Silent es)
    {h : HandshakeId} {stand : Stand} (hm : h ∉ r.outstanding)
    (hout : s.outstanding = r.outstanding) (hplaces : s.places = (r.put h stand).places) :
    Listed s (ds ++ es) := by
  refine hl.silent hes hout (hplaces ▸ r.length_put h stand) fun i hi => ?_
  have hne : i ≠ h := fun he => hm (he ▸ hi)
  rw [hplaces]
  exact Roster.places_put_other hne

/-- A handshake that leaves the set itself is claimed once. -/
theorem Listed.claim {r : Roster} {ds : List Deed} (hl : Listed r ds) {h : HandshakeId}
    (hm : h ∈ r.outstanding) (stand : Stand) :
    Listed ((r.leave h).put h stand) (ds ++ [.claimed h]) := by
  have hlength : ((r.leave h).put h stand).places.length = r.places.length :=
    (r.leave h).length_put h stand
  have hmem (i : HandshakeId) : i ∈ (r.leave h).outstanding ↔ i ∈ r.outstanding ∧ i ≠ h := by
    simp [Roster.leave]
  have hclaimed (i : HandshakeId) :
      .claimed i ∈ ds ++ [.claimed h] ↔ .claimed i ∈ ds ∨ i = h := by simp
  have hdrained (i : HandshakeId) : .drained i ∈ ds ++ [.claimed h] ↔ .drained i ∈ ds := by simp
  constructor
  · intro i hi
    obtain ⟨hi, hne⟩ := (hmem i).mp hi
    obtain ⟨d, hd⟩ := hl.waits i hi
    exact ⟨d, (Roster.places_put_other hne).trans hd⟩
  · intro i hi
    obtain ⟨hi, hne⟩ := (hmem i).mp hi
    rw [hclaimed, hdrained]
    exact ⟨fun hc => hc.elim (hl.inside i hi).1 hne, (hl.inside i hi).2⟩
  · intro i hlt
    rw [hlength] at hlt
    rw [hclaimed, hdrained]
    by_cases hne : i = h
    · exact .inr (.inl (.inr hne))
    · obtain hi | hi | hi := hl.left i hlt
      · exact .inl ((hmem i).mpr ⟨hi, hne⟩)
      · exact .inr (.inl (.inl hi))
      · exact .inr (.inr hi)
  · intro i
    rw [hclaimed, hdrained]
    intro hleft
    rcases hleft with hi | rfl
    · exact hl.once i hi
    · exact (hl.inside i hm).2
  · intro i
    rw [hclaimed, hdrained, hlength]
    intro hleft
    rcases hleft with (hi | rfl) | hi
    · exact hl.numbered i (.inl hi)
    · obtain ⟨d, hd⟩ := hl.waits i hm
      exact Roster.lt_length_places hd
    · exact hl.numbered i (.inr hi)

/-- A handshake that is new enters the set once. -/
theorem Listed.dispatch {r : Roster} {ds : List Deed} (hl : Listed r ds) (c d : ConnectionId)
    (rest : List ConnectionId) :
    Listed ({ r with coming := rest }.dispatch c) (ds ++ [.accepted d]) := by
  have hlength : (r.places ++ [(⟨c, .pending⟩ : Place)]).length = r.places.length + 1 :=
    List.length_append
  have hclaimed (i : HandshakeId) : .claimed i ∈ ds ++ [.accepted d] ↔ .claimed i ∈ ds := by
    simp
  have hdrained (i : HandshakeId) : .drained i ∈ ds ++ [.accepted d] ↔ .drained i ∈ ds := by
    simp
  have hmem (i : HandshakeId) :
      i ∈ r.outstanding ++ [r.places.length] ↔ i ∈ r.outstanding ∨ i = r.places.length := by
    simp
  constructor
  · intro i hi
    obtain hi | rfl := (hmem i).mp hi
    · obtain ⟨e, he⟩ := hl.waits i hi
      exact ⟨e, (List.getElem?_append_left (Roster.lt_length_places he)).trans he⟩
    · exact ⟨c, List.getElem?_concat_length⟩
  · intro i hi
    rw [hclaimed, hdrained]
    obtain hi | rfl := (hmem i).mp hi
    · exact hl.inside i hi
    · exact ⟨fun hc => Nat.lt_irrefl _ (hl.numbered _ (.inl hc)),
        fun hd => Nat.lt_irrefl _ (hl.numbered _ (.inr hd))⟩
  · intro i hlt
    rw [hclaimed, hdrained]
    obtain hlt | rfl := Nat.lt_succ_iff_lt_or_eq.mp (hlength ▸ hlt)
    · obtain hi | hi := hl.left i hlt
      · exact .inl ((hmem i).mpr (.inl hi))
      · exact .inr hi
    · exact .inl ((hmem _).mpr (.inr rfl))
  · intro i
    rw [hclaimed, hdrained]
    exact hl.once i
  · intro i hi
    rw [hclaimed, hdrained] at hi
    exact hlength ▸ Nat.lt_succ_of_lt (hl.numbered i hi)

/-- What is drained leaves the set once. -/
theorem Listed.drain {r : Roster} {ds : List Deed} (hl : Listed r ds) :
    Listed { r with outstanding := [] } (ds ++ r.outstanding.map .drained) := by
  have hclaimed (i : HandshakeId) :
      .claimed i ∈ ds ++ r.outstanding.map .drained ↔ .claimed i ∈ ds := by simp
  have hdrained (i : HandshakeId) :
      .drained i ∈ ds ++ r.outstanding.map .drained ↔ .drained i ∈ ds ∨ i ∈ r.outstanding := by
    simp
  constructor
  · intro i hi
    cases hi
  · intro i hi
    cases hi
  · intro i hlt
    rw [hclaimed, hdrained]
    obtain hi | hi | hi := hl.left i hlt
    · exact .inr (.inr (.inr hi))
    · exact .inr (.inl hi)
    · exact .inr (.inr (.inl hi))
  · intro i
    rw [hclaimed, hdrained]
    intro hc hleft
    rcases hleft with hd | hi
    · exact hl.once i hc hd
    · exact (hl.inside i hi).1 hc
  · intro i
    rw [hclaimed, hdrained]
    intro hleft
    rcases hleft with hc | hd | hi
    · exact hl.numbered i (.inl hc)
    · exact hl.numbered i (.inr hd)
    · obtain ⟨d, hd⟩ := hl.waits i hi
      exact Roster.lt_length_places hd

/-- A deed keeps the list right. -/
theorem Listed.step {r s : Roster} {ds es : List Deed} (hl : Listed r ds)
    (step : Roster.Step r es s) : Listed s (ds ++ es) := by
  have hnone : Silent [] := fun h => by simp
  have hsame {s : Roster} {es : List Deed} (hes : Silent es)
      (hout : s.outstanding = r.outstanding) (hplaces : s.places = r.places) :
      Listed s (ds ++ es) :=
    hl.silent hes hout (congrArg List.length hplaces) fun h _ => congrArg (·[h]?) hplaces
  cases step with
  | connect hc => exact hsame hnone rfl rfl
  | start hr => exact hsame hnone rfl rfl
  | drop => exact hsame hnone rfl rfl
  | accept hr hc => exact hl.dispatch _ _ _
  | strand hr hc => exact hsame (fun h => by simp) rfl rfl
  | claimClosing hr hs ho => exact hl.claim hs _
  | claimHanding hr hs => exact hl.claim hs _
  | yield hr hs ho => exact hl.put hnone hs rfl rfl
  | close hr hs =>
    exact hl.put (fun h => by simp) (hl.not_outstanding hr (by simp)) rfl rfl
  | raise hr ho => exact hl.put hnone (hl.not_outstanding hr (by simp)) rfl rfl
  | handOver hr => exact hl.put (fun h => by simp) (hl.not_outstanding hr (by simp)) rfl rfl
  | complete hr => exact hl.put hnone (hl.not_outstanding hr (by simp)) rfl rfl
  | release hc => exact hsame (fun h => by simp) rfl rfl
  | drain => exact hl.drain

end Diameter.Listener
