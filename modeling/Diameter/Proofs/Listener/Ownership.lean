import Diameter.Proofs.Listener.Entries

/-!
# Who owns a connection

Leaving the set of outstanding handshakes decides who owns a connection. A handshake that
claimed its entry may hand its connection over; whoever did not has to close it. So when a
handshake has ended, its connection was either handed over once and never closed here, or
closed once and never handed over.
-/

namespace Diameter.Listener

/-- How often a handshake that stands here has closed its connection. -/
def Stand.closings : Stand → Nat
  | .raising => 1
  | .ended .handedOff => 0
  | .ended _ => 1
  | _ => 0

/-- How often the connection of a handshake that stands here was handed over. -/
def Stand.handings : Stand → Nat
  | .given => 1
  | .ended .handedOff => 1
  | _ => 0

/-- Whether the connection of a handshake that stands here belongs to the peer layer, or is
about to. -/
def Stand.isAway : Stand → Bool
  | .handing _ | .given | .ended .handedOff => true
  | _ => false

/-- A handshake that ends otherwise than handed off has closed its connection once. -/
theorem Stand.closings_ended {outcome : HandshakeOutcome} (h : outcome ≠ .handedOff) :
    (Stand.ended outcome).closings = 1 := by
  cases outcome with
  | handedOff => exact absurd rfl h
  | _ => rfl

theorem Stand.handings_ended {outcome : HandshakeOutcome} (h : outcome ≠ .handedOff) :
    (Stand.ended outcome).handings = 0 := by
  cases outcome with
  | handedOff => exact absurd rfl h
  | _ => rfl

theorem Stand.isAway_ended {outcome : HandshakeOutcome} (h : outcome ≠ .handedOff) :
    (Stand.ended outcome).isAway = false := by
  cases outcome with
  | handedOff => exact absurd rfl h
  | _ => rfl

/-- Only its own connection is handed over, and what is closed is not handed over. -/
def Stand.Suits (c : ConnectionId) : Stand → Prop
  | .closing outcome => outcome ≠ .handedOff
  | .handing d => d = c
  | _ => True

/-- The deeds fit where a handshake stands. -/
structure Fits (ds : List Deed) (h : HandshakeId) (x : Place) : Prop where
  suits : x.stand.Suits x.connection
  closed : ds.count (.closed x.connection) = x.stand.closings
  handed : ds.count (.handed x.connection) = x.stand.handings
  unclaimed : x.stand = .pending → .claimed h ∉ ds
  away : x.stand.isAway = true → .claimed h ∈ ds

/-- The deeds fit where every handshake stands, and a connection without a handshake was
neither closed nor handed over. -/
structure Owned (r : Roster) (ds : List Deed) : Prop where
  fits : ∀ h x, r.places[h]? = some x → Fits ds h x
  untouched : ∀ c ∉ r.places.map Place.connection, .closed c ∉ ds ∧ .handed c ∉ ds

/-- Every connection was closed as often as the deeds say. -/
def Counted (n : Nat) (r : Roster) (ds : List Deed) : Prop :=
  ∀ c, n ≤ c → r.closes.getD c 0 = ds.count (.closed c) + ds.count (.released c)

/-! ## Where every handshake stands -/

/-- The deeds have nothing to do with the handshake or its connection. -/
structure Spares (ds : List Deed) (h : HandshakeId) (c : ConnectionId) : Prop where
  closed : .closed c ∉ ds
  handed : .handed c ∉ ds
  claimed : .claimed h ∉ ds

/-- Deeds that spare a handshake and its connection leave it fitting. -/
theorem Fits.append {ds es : List Deed} {h : HandshakeId} {x : Place} (hf : Fits ds h x)
    (hes : Spares es h x.connection) : Fits (ds ++ es) h x where
  suits := hf.suits
  closed := by
    rw [List.count_append, List.count_eq_zero.mpr hes.closed]
    exact hf.closed
  handed := by
    rw [List.count_append, List.count_eq_zero.mpr hes.handed]
    exact hf.handed
  unclaimed := fun hs hm => (List.mem_append.mp hm).elim (hf.unclaimed hs) hes.claimed
  away := fun hs => List.mem_append_left _ (hf.away hs)

/-- A handshake that goes on still fits, if the deeds account for what it did. -/
theorem Fits.move {ds es : List Deed} {h : HandshakeId} {c : ConnectionId} {old stand : Stand}
    (hf : Fits ds h ⟨c, old⟩) (hsuits : stand.Suits c) (hleft : stand ≠ .pending)
    (hclosed : old.closings + es.count (.closed c) = stand.closings)
    (hhanded : old.handings + es.count (.handed c) = stand.handings)
    (haway : stand.isAway = true → .claimed h ∈ ds ++ es) : Fits (ds ++ es) h ⟨c, stand⟩ where
  suits := hsuits
  closed := by
    have hold : ds.count (.closed c) = old.closings := hf.closed
    rw [List.count_append, hold]
    exact hclosed
  handed := by
    have hold : ds.count (.handed c) = old.handings := hf.handed
    rw [List.count_append, hold]
    exact hhanded
  unclaimed := fun hs => absurd hs hleft
  away := haway

/-- Deeds that spare every handshake leave every connection to its owner. -/
theorem Owned.append {r s : Roster} {ds es : List Deed} (ho : Owned r ds)
    (hplaces : s.places = r.places) (hes : ∀ h c, Spares es h c) : Owned s (ds ++ es) := by
  constructor
  · intro h x hx
    rw [hplaces] at hx
    exact (ho.fits h x hx).append (hes h _)
  · intro c hc
    rw [hplaces] at hc
    obtain ⟨hclosed, hhanded⟩ := ho.untouched c hc
    simp [hclosed, hhanded, (hes 0 c).closed, (hes 0 c).handed]

/-- A handshake moves. All deeds are about it or its connection, so the others still fit. -/
theorem Owned.put {n : Nat} {r s : Roster} {ds es : List Deed} (ho : Owned r ds)
    (hp : Placed n r) {h : HandshakeId} {c : ConnectionId} {old stand : Stand}
    (hr : r.places[h]? = some ⟨c, old⟩) (hplaces : s.places = (r.put h stand).places)
    (hes : ∀ i d, i ≠ h → d ≠ c → Spares es i d) (hf : Fits (ds ++ es) h ⟨c, stand⟩) :
    Owned s (ds ++ es) := by
  constructor
  · intro i x hx
    rw [hplaces] at hx
    obtain ⟨rfl, rfl⟩ | ⟨hi, hx⟩ := Roster.places_put hr hx
    · exact hf
    · have hne : x.connection ≠ c := hp.connection_ne hr hx hi
      exact (ho.fits i x hx).append (hes i _ hi hne)
  · intro d hd
    have hconnections : s.places.map Place.connection = r.places.map Place.connection :=
      hplaces ▸ r.connections_put h stand
    rw [hconnections] at hd
    have hne : d ≠ c := by
      intro he
      subst he
      exact hd (List.mem_map.mpr ⟨_, List.mem_of_getElem? hr, rfl⟩)
    have hspares := hes (h + 1) d (Nat.succ_ne_self h) hne
    obtain ⟨hclosed, hhanded⟩ := ho.untouched d hd
    simp [hclosed, hhanded, hspares.closed, hspares.handed]

/-- A connection that is accepted belongs to its new handshake. -/
theorem Owned.dispatch {n : Nat} {r : Roster} {ds : List Deed} (ho : Owned r ds)
    (hp : Placed n r) (hl : Listed r ds) {c : ConnectionId} {rest : List ConnectionId}
    (hc : r.coming = c :: rest) :
    Owned ({ r with coming := rest }.dispatch c) (ds ++ [.accepted c]) := by
  have hnew : c ∉ r.places.map Place.connection := fun hm => by
    have hdisjoint := (List.nodup_append.mp hp.distinct).2.2
    exact hdisjoint c hm c (hc ▸ List.mem_cons_self) rfl
  have hspares (h : HandshakeId) (d : ConnectionId) : Spares [.accepted c] h d :=
    ⟨by simp, by simp, by simp⟩
  have hfresh : .claimed r.places.length ∉ ds := fun hm =>
    Nat.lt_irrefl _ (hl.numbered _ (.inl hm))
  obtain ⟨hclosed, hhanded⟩ := ho.untouched c hnew
  have hfirst : Fits ds r.places.length ⟨c, .pending⟩ :=
    ⟨trivial, List.count_eq_zero.mpr hclosed, List.count_eq_zero.mpr hhanded, fun _ => hfresh,
      fun ha => by cases ha⟩
  constructor
  · intro h x hx
    have hx : (r.places ++ [⟨c, .pending⟩])[h]? = some x := hx
    have hlength : (r.places ++ [(⟨c, .pending⟩ : Place)]).length = r.places.length + 1 :=
      List.length_append
    have hh : h < r.places.length + 1 := hlength ▸ (List.getElem?_eq_some_iff.mp hx).1
    obtain hlt | heq := Nat.lt_succ_iff_lt_or_eq.mp hh
    · rw [List.getElem?_append_left hlt] at hx
      exact (ho.fits h x hx).append (hspares h _)
    · subst heq
      rw [List.getElem?_concat_length] at hx
      cases hx
      exact hfirst.append (hspares _ _)
  · intro d hd
    have hd : d ∉ r.places.map Place.connection := fun hm => hd (by
      rw [Roster.dispatch, List.map_append]
      exact List.mem_append_left _ hm)
    obtain ⟨hclosed, hhanded⟩ := ho.untouched d hd
    simp [hclosed, hhanded]

theorem Owned.step {n : Nat} {r s : Roster} {ds es : List Deed} (ho : Owned r ds)
    (hp : Placed n r) (hl : Listed r ds) (step : Roster.Step r es s) : Owned s (ds ++ es) := by
  have hnone (h : HandshakeId) (c : ConnectionId) : Spares [] h c :=
    ⟨by simp, by simp, by simp⟩
  cases step with
  | connect hc => exact ho.append rfl hnone
  | start hr => exact ho.append rfl hnone
  | drop => exact ho.append rfl hnone
  | accept hr hc => exact ho.dispatch hp hl hc
  | strand hr hc => exact ho.append rfl fun h c => ⟨by simp, by simp, by simp⟩
  | @claimClosing h c outcome hr hs houtcome =>
    refine ho.put hp hr rfl (fun i d hi hd => ⟨by simp, by simp, by simp [hi]⟩) ?_
    refine (ho.fits h _ hr).move houtcome (by simp) ?_ ?_ (fun ha => by cases ha)
    · simp [Stand.closings]
    · simp [Stand.handings]
  | @claimHanding h c hr hs =>
    refine ho.put hp hr rfl (fun i d hi hd => ⟨by simp, by simp, by simp [hi]⟩) ?_
    refine (ho.fits h _ hr).move rfl (by simp) ?_ ?_ (fun _ => by simp)
    · simp [Stand.closings]
    · simp [Stand.handings]
  | @yield h c outcome hr hs houtcome =>
    refine ho.put hp hr rfl (fun i d _ _ => hnone i d) ?_
    refine (ho.fits h _ hr).move houtcome (by simp) ?_ ?_ (fun ha => by cases ha)
    · simp [Stand.closings]
    · simp [Stand.handings]
  | @close h c outcome stand hr hs =>
    have hf := ho.fits h _ hr
    have houtcome : outcome ≠ .handedOff := hf.suits
    refine ho.put hp hr rfl (fun i d _ hd => ⟨by simp [hd], by simp, by simp⟩) ?_
    obtain rfl | rfl := hs
    · refine hf.move trivial (by simp) ?_ ?_ (fun ha => by cases ha)
      · simp [Stand.closings]
      · simp [Stand.handings]
    · refine hf.move trivial (by simp) ?_ ?_ (fun ha => ?_)
      · rw [Stand.closings_ended houtcome]
        simp [Stand.closings]
      · rw [Stand.handings_ended houtcome]
        simp [Stand.handings]
      · rw [Stand.isAway_ended houtcome] at ha
        cases ha
  | @raise h c outcome hr houtcome =>
    refine ho.put hp hr rfl (fun i d _ _ => hnone i d) ?_
    refine (ho.fits h _ hr).move trivial (by simp) ?_ ?_ (fun ha => ?_)
    · rw [Stand.closings_ended houtcome]
      simp [Stand.closings]
    · rw [Stand.handings_ended houtcome]
      simp [Stand.handings]
    · rw [Stand.isAway_ended houtcome] at ha
      cases ha
  | @handOver h c d hr =>
    have hf := ho.fits h _ hr
    obtain rfl : d = c := hf.suits
    refine ho.put hp hr rfl (fun i e _ he => ⟨by simp, by simp [he], by simp⟩) ?_
    refine hf.move trivial (by simp) ?_ ?_ (fun _ => List.mem_append_left _ (hf.away rfl))
    · simp [Stand.closings]
    · simp [Stand.handings]
  | @complete h c hr =>
    have hf := ho.fits h _ hr
    refine ho.put hp hr rfl (fun i d _ _ => hnone i d) ?_
    refine hf.move trivial (by simp) ?_ ?_ (fun _ => List.mem_append_left _ (hf.away rfl))
    · simp [Stand.closings]
    · simp [Stand.handings]
  | release hc => exact ho.append rfl fun h c => ⟨by simp, by simp, by simp⟩
  | drain => exact ho.append rfl fun h c => ⟨by simp, by simp, by simp⟩

/-! ## How often a connection was closed -/

/-- Counting one more at a place counts nowhere else. -/
theorem getD_modify_succ (xs : List Nat) {i : Nat} (hi : i < xs.length) (j : Nat) :
    (xs.modify i (· + 1)).getD j 0 = xs.getD j 0 + if i = j then 1 else 0 := by
  rw [List.getD_eq_getElem?_getD, List.getD_eq_getElem?_getD, List.getElem?_modify]
  by_cases hj : i = j
  · subst hj
    simp [hi]
  · simp [hj]

/-- Closing a connection is counted once. -/
theorem Counted.close {n : Nat} {r : Roster} {ds : List Deed} (hk : Counted n r ds)
    {c : ConnectionId} (hc : c < r.closes.length) {deed : Deed}
    (hdeed : deed = .closed c ∨ deed = .released c) : Counted n (r.close c) (ds ++ [deed]) := by
  intro d hd
  have hcount := hk d hd
  have hadd := getD_modify_succ r.closes hc d
  rw [Roster.close, hadd, hcount, List.count_append, List.count_append]
  obtain rfl | rfl := hdeed <;>
  · by_cases he : c = d
    · subst he
      simp
      omega
    · simp [he]

/-- Deeds that close nothing are not counted. -/
theorem Counted.append {n : Nat} {r s : Roster} {ds es : List Deed} (hk : Counted n r ds)
    (hcloses : s.closes = r.closes) (hes : ∀ c, .closed c ∉ es ∧ .released c ∉ es) :
    Counted n s (ds ++ es) := by
  intro c hc
  rw [hcloses, hk c hc, List.count_append, List.count_append,
    List.count_eq_zero.mpr (hes c).1, List.count_eq_zero.mpr (hes c).2]
  rfl

theorem Counted.step {n : Nat} {r s : Roster} {ds es : List Deed} (hk : Counted n r ds)
    (hp : Placed n r) (step : Roster.Step r es s) : Counted n s (ds ++ es) := by
  have hnone (c : ConnectionId) : .closed c ∉ ([] : List Deed) ∧ .released c ∉ ([] : List Deed) :=
    ⟨List.not_mem_nil, List.not_mem_nil⟩
  cases step with
  | connect hc =>
    intro c hle
    have hnew : (r.closes ++ [0]).getD c 0 = r.closes.getD c 0 := by
      rw [List.getD_eq_getElem?_getD, List.getD_eq_getElem?_getD]
      obtain hlt | hge := Nat.lt_or_ge c r.closes.length
      · rw [List.getElem?_append_left hlt]
      · rw [List.getElem?_append_right hge, List.getElem?_eq_none hge]
        cases c - r.closes.length <;> rfl
    rw [List.append_nil, hnew]
    exact hk c hle
  | start hr => exact hk.append rfl hnone
  | drop => exact hk.append rfl hnone
  | accept hr hc => exact hk.append rfl fun c => by simp
  | strand hr hc => exact hk.append rfl fun c => by simp
  | claimClosing hr hs houtcome => exact hk.append rfl fun c => by simp
  | claimHanding hr hs => exact hk.append rfl fun c => by simp
  | yield hr hs houtcome => exact hk.append rfl hnone
  | close hr hs =>
    have hknown := (hp.known _ (List.mem_append_left _
      (List.mem_map_of_mem (List.mem_of_getElem? hr)))).2
    exact hk.close hknown (.inl rfl)
  | raise hr houtcome => exact hk.append rfl hnone
  | handOver hr => exact hk.append rfl fun c => by simp
  | complete hr => exact hk.append rfl hnone
  | release hc => exact hk.close hc (.inr rfl)
  | drain => exact hk.append rfl fun c => by simp

/-! ## Every course -/

/-- All of this together. -/
structure Sound (n : Nat) (r : Roster) (ds : List Deed) : Prop where
  placed : Placed n r
  listed : Listed r ds
  owned : Owned r ds
  counted : Counted n r ds

/-- A deed keeps places, list, owners and counts right. -/
theorem Sound.step {n : Nat} {r s : Roster} {ds es : List Deed} (hs : Sound n r ds)
    (step : Roster.Step r es s) : Sound n s (ds ++ es) where
  placed := hs.placed.step step
  listed := hs.listed.step step
  owned := hs.owned.step hs.placed hs.listed step
  counted := hs.counted.step hs.placed step

/-- Any deeds keep places, list, owners and counts right. -/
theorem Sound.path {n : Nat} {r s : Roster} {ds es : List Deed} (hs : Sound n r ds)
    (path : Roster.Path r es s) : Sound n s (ds ++ es) := by
  induction path with
  | nil => exact (List.append_nil ds).symm ▸ hs
  | snoc path step ih => exact List.append_assoc .. ▸ ih.step step

/-- All of this is right of a new listener. -/
theorem sound_new (address : String) (transport : Transport) (security : Security)
    (terms : AcceptTerms) (surroundings : Surroundings) :
    Sound surroundings.connections.length
      (Listener.new address transport security terms surroundings).roster [] := by
  have hlength : (surroundings.connections.map Connection.closes).length =
      surroundings.connections.length := List.length_map ..
  refine ⟨⟨List.nodup_nil, fun c hc => ?_, Nat.le_of_eq hlength.symm⟩, ?_, ?_, ?_⟩
  · cases hc
  · constructor
    · exact fun h hm => absurd hm List.not_mem_nil
    · exact fun h hm => absurd hm List.not_mem_nil
    · exact fun h hlt => absurd hlt (Nat.not_lt_zero h)
    · exact fun h hm => absurd hm List.not_mem_nil
    · exact fun h hm => absurd hm (by simp)
  · constructor
    · intro h x hx
      cases hx
    · exact fun c _ => ⟨List.not_mem_nil, List.not_mem_nil⟩
  · intro c hc
    have hnone : (surroundings.connections.map Connection.closes)[c]? = none :=
      List.getElem?_eq_none (hlength ▸ hc)
    have hzero : (surroundings.connections.map Connection.closes).getD c 0 = 0 := by
      rw [List.getD_eq_getElem?_getD, hnone]
      rfl
    exact hzero

/-- A step leaves those that are over where they are. -/
theorem Roster.Step.ended_kept {r s : Roster} {ds : List Deed} (step : Step r ds s)
    {h : HandshakeId} {c : ConnectionId} {outcome : HandshakeOutcome}
    (hr : r.places[h]? = some ⟨c, .ended outcome⟩) :
    s.places[h]? = some ⟨c, .ended outcome⟩ := by
  have hput {r' : Roster} {i : HandshakeId} {d : ConnectionId} {old : Stand} (stand : Stand)
      (hsame : r'.places = r.places) (hi : r.places[i]? = some ⟨d, old⟩)
      (hne : old ≠ .ended outcome) : (r'.put i stand).places[h]? = some ⟨c, .ended outcome⟩ := by
    have hother : h ≠ i := by
      intro he
      subst he
      rw [hr] at hi
      exact hne (congrArg Place.stand (Option.some.inj hi)).symm
    rw [Roster.places_put_other hother, hsame]
    exact hr
  cases step with
  | accept hd hc =>
    exact (List.getElem?_append_left (Roster.lt_length_places hr)).trans hr
  | claimClosing hi hs ho => exact hput _ rfl hi (by simp)
  | claimHanding hi hs => exact hput _ rfl hi (by simp)
  | yield hi hs ho => exact hput _ rfl hi (by simp)
  | close hi hs => exact hput _ rfl hi (by simp)
  | raise hi ho => exact hput _ rfl hi (by simp)
  | handOver hi => exact hput _ rfl hi (by simp)
  | complete hi => exact hput _ rfl hi (by simp)
  | _ => exact hr

/-- An outcome stays, whatever is done. -/
theorem Roster.Path.ended_kept {r s : Roster} {ds : List Deed} (path : Path r ds s)
    {h : HandshakeId} {c : ConnectionId} {outcome : HandshakeOutcome}
    (hr : r.places[h]? = some ⟨c, .ended outcome⟩) :
    s.places[h]? = some ⟨c, .ended outcome⟩ := by
  induction path with
  | nil => exact hr
  | snoc path step ih => exact step.ended_kept ih

namespace Course

/-- How often handshakes have closed a connection. -/
def closings (k : Course) (c : ConnectionId) : Nat := k.deeds.count (.closed c)

/-- How often a connection was given to the peer layer. -/
def handings (k : Course) (c : ConnectionId) : Nat := k.deeds.count (.handed c)

/-- How often the peer layer has closed a connection. -/
def releases (k : Course) (c : ConnectionId) : Nat := k.deeds.count (.released c)

/-- All of this stays right, whatever happens. -/
theorem sound_extend (n : Nat) {k : Course} (hk : Sound n k.listener.roster k.deeds)
    (events : List Event) :
    Sound n (k.extend events).listener.roster (k.extend events).deeds := by
  refine extend_induction (P := fun k => Sound n k.listener.roster k.deeds) hk ?_ events
  intro k e hk
  exact hk.path (path_perform k.listener e)

/-- An outcome stays, whatever happens. -/
theorem ended_kept {k : Course} {h : HandshakeId} {c : ConnectionId}
    {outcome : HandshakeOutcome}
    (hk : k.listener.roster.places[h]? = some ⟨c, .ended outcome⟩) (events : List Event) :
    (k.extend events).listener.roster.places[h]? = some ⟨c, .ended outcome⟩ := by
  refine extend_induction
    (P := fun k => k.listener.roster.places[h]? = some ⟨c, .ended outcome⟩) hk ?_ events
  intro k e hk
  exact (path_perform k.listener e).ended_kept hk

end Course

/-- A handshake that is over in the roster is over. -/
theorem ended_of_place {l : Listener} {h : HandshakeId} {c : ConnectionId}
    {outcome : HandshakeOutcome} (hr : l.roster.places[h]? = some ⟨c, .ended outcome⟩) :
    ∃ x, l.handshakes[h]? = some x ∧ x.connection = c ∧ x.phase = .ended outcome := by
  obtain ⟨x, hx, hplace⟩ := exists_of_place hr
  refine ⟨x, hx, (congrArg Place.connection hplace).symm, ?_⟩
  have hstand : x.phase.stand = .ended outcome := (congrArg Place.stand hplace).symm
  cases hphase : x.phase with
  | ended other =>
    rw [hphase] at hstand
    exact congrArg Phase.ended (Stand.ended.inj hstand)
  | _ =>
    rw [hphase] at hstand
    cases hstand

namespace Course

/-- Whatever happens in whichever order: once a handshake has ended, it stays so, and its
connection was either handed over once and is never closed by a handshake or a stop, or it
was closed once by its handshake and is never handed over. Only a handshake that left the set
by itself has handed over, and no stop has ever taken its entry. -/
theorem handed_over_or_closed_once (address : String) (transport : Transport)
    (security : Security) (terms : AcceptTerms) (surroundings : Surroundings)
    (events more : List Event) {k later : Course} {h : HandshakeId} {x : Accepted}
    {outcome : HandshakeOutcome}
    (hk : k = (start address transport security terms surroundings).extend events)
    (hlater : later = k.extend more)
    (hx : k.listener.handshakes[h]? = some x) (hend : x.phase = .ended outcome) :
    (∃ y, later.listener.handshakes[h]? = some y ∧ y.connection = x.connection ∧
      y.phase = .ended outcome) ∧
    (∃ connection, later.listener.connections[x.connection]? = some connection ∧
      connection.closes = later.closings x.connection + later.releases x.connection) ∧
    (outcome = .handedOff → later.handings x.connection = 1 ∧
      later.closings x.connection = 0 ∧ .claimed h ∈ k.deeds ∧ .drained h ∉ later.deeds) ∧
    (outcome ≠ .handedOff → later.closings x.connection = 1 ∧
      later.handings x.connection = 0) := by
  have hnew := sound_new address transport security terms surroundings
  have hsound : Sound _ k.listener.roster k.deeds := hk ▸ sound_extend _ hnew events
  have hsound' : Sound _ later.listener.roster later.deeds := hlater ▸ sound_extend _ hsound more
  have hplace : k.listener.roster.places[h]? = some ⟨x.connection, .ended outcome⟩ := by
    rw [places_roster k.listener hx, hend]
    rfl
  have hplace' : later.listener.roster.places[h]? = some ⟨x.connection, .ended outcome⟩ :=
    hlater ▸ ended_kept hplace more
  have hfits := hsound.owned.fits h _ hplace
  have hfits' := hsound'.owned.fits h _ hplace'
  refine ⟨ended_of_place hplace', ?_, ?_, ?_⟩
  · have hmem := List.mem_map_of_mem (f := Place.connection) (List.mem_of_getElem? hplace')
    obtain ⟨hold, hlt⟩ := hsound'.placed.known x.connection (List.mem_append_left _ hmem)
    have hcount := hsound'.counted x.connection hold
    have hlength : later.listener.roster.closes.length = later.listener.connections.length :=
      List.length_map ..
    obtain ⟨connection, hconnection⟩ : ∃ connection,
        later.listener.connections[x.connection]? = some connection :=
      ⟨_, List.getElem?_eq_getElem (hlength ▸ hlt)⟩
    refine ⟨connection, hconnection, ?_⟩
    have hcloses : later.listener.roster.closes[x.connection]? = some connection.closes := by
      simp [roster, hconnection]
    rw [closings, releases, ← hcount, List.getD_eq_getElem?_getD, hcloses]
    rfl
  · intro he
    subst he
    have hclaimed := hfits'.away rfl
    exact ⟨hfits'.handed, hfits'.closed, hfits.away rfl, hsound'.listed.once h hclaimed⟩
  · intro ho
    exact ⟨hfits'.closed.trans (Stand.closings_ended ho),
      hfits'.handed.trans (Stand.handings_ended ho)⟩

/-- A stop comes while the connection of the only handshake is handed over: the stop finds no
entry, and the connection is handed over and never closed. -/
theorem handed_over_despite_stop :
    let terms : AcceptTerms :=
      { timeout := 1000
        codec := ⟨fun _ => .ok ⟨⟨1, 20, 0x80, 257, 0, 0, 0⟩, [], []⟩, fun _ => .ok ()⟩
        peers := .keeper 5 }
    let k := (start "a" .tcp .clear terms (.new 0)).extend
      [.start, .connect "c" "d" ⟨0, none⟩, .accept false, .deliver 0 (.ok []), .poll 0 false,
        .claim 0, .cancelAll, .drain, .handOver 0, .conclude [], .clock 5, .completeHandOver 0]
    let later := k.extend [.cancelAll, .drain, .poll 0 false, .close 0]
    later.handings 0 = 1 ∧ later.closings 0 = 0 := by
  intro terms k later
  have hplace : k.listener.roster.places[0]? = some ⟨0, .ended .handedOff⟩ := by decide +kernel
  obtain ⟨x, hx, hconnection, hend⟩ := ended_of_place hplace
  have hk : k = (start "a" .tcp .clear terms (.new 0)).extend _ := rfl
  have hlater : later = k.extend _ := rfl
  have hended := handed_over_or_closed_once _ _ _ _ _ _ _ hk hlater hx hend
  rw [hconnection] at hended
  exact ⟨(hended.2.2.1 rfl).1, (hended.2.2.1 rfl).2.1⟩

end Course

end Diameter.Listener
