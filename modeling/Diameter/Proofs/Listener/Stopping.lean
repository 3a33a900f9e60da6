import Diameter.Proofs.Listener.Ownership

/-!
# What one stop waits for

A stop cancels the listener, waits until the accept loop has gone, takes every entry that is
still in the set, and waits for the handshakes of these entries. It does not wait for a
handshake that left the set by itself, also not for one that left because of the very
cancellation. So when the stop returns, a connection that was accepted and not given away may
still be open, and this theory says exactly when: its handshake has claimed its entry and is
about to close, or the accept loop broke down over it.
-/

namespace Diameter.Listener

/-- How far a stop has come. -/
inductive StopStage where
  /-- It has not been called. -/
  | ahead
  /-- It waits for the accept loop. -/
  | joining
  /-- It waits for the handshakes whose entries it took. -/
  | awaiting (taken : List HandshakeId)
  /-- It has returned. -/
  | returned (taken : List HandshakeId)
  deriving DecidableEq, Repr

namespace StopStage

/-- The handshakes whose entries the stop took. -/
def taken : StopStage → List HandshakeId
  | .ahead | .joining => []
  | .awaiting taken | .returned taken => taken

/-- Whether the stop has taken the entries. -/
def hasDrained : StopStage → Bool
  | .ahead | .joining => false
  | .awaiting _ | .returned _ => true

end StopStage

/-- Whether an event is a step of a stop. -/
def Event.isStop : Event → Bool
  | .cancelAll | .drain | .conclude _ => true
  | _ => false

/-- A handshake is over. -/
def hasEnded (l : Listener) (h : HandshakeId) : Bool :=
  match l.handshakes[h]? with
  | some ⟨_, _, _, .ended _⟩ => true
  | _ => false

/-- A course with one stop in it. -/
structure Halt where
  /-- The course. -/
  course : Course
  /-- How far the stop has come. -/
  stage : StopStage

/-- What happens next: an event outside the stop, or the stop goes on. -/
inductive Move where
  | other (e : Event)
  | stop

namespace Halt

/-- The stop goes on, if it need not wait. It is called after the listener was started. -/
def proceed (k : Halt) : Halt :=
  match k.stage with
  | .ahead =>
    if k.course.listener.acceptor = .idle then k else ⟨k.course.next .cancelAll, .joining⟩
  | .joining =>
    if k.course.listener.acceptor = .accepting then k
    else ⟨k.course.next .drain, .awaiting k.course.listener.outstanding⟩
  | .awaiting taken =>
    if taken.all k.course.listener.hasEnded then
      ⟨k.course.next (.conclude taken), .returned taken⟩
    else k
  | .returned _ => k

/-- What a move leads to. -/
def next (k : Halt) : Move → Halt
  | .other e => if e.isStop then k else { k with course := k.course.next e }
  | .stop => k.proceed

/-- What moves lead to. -/
def extend (k : Halt) (moves : List Move) : Halt := moves.foldl next k

/-- A listener that has just been made, and a stop that is still ahead. -/
def start (address : String) (transport : Transport) (security : Security)
    (terms : AcceptTerms) (surroundings : Surroundings) : Halt :=
  ⟨.start address transport security terms surroundings, .ahead⟩

/-- What every move keeps holds after all moves. -/
theorem extend_induction {P : Halt → Prop} {k : Halt} (hk : P k)
    (step : ∀ k m, P k → P (k.next m)) (moves : List Move) : P (k.extend moves) := by
  induction moves generalizing k with
  | nil => exact hk
  | cons m moves ih => exact ih (step k m hk)

end Halt

/-! ## What was accepted -/

/-- A connection was accepted if it has a handshake or the accept loop broke down over it.
One over which the loop broke down never gets a handshake. -/
structure Received (r : Roster) (ds : List Deed) : Prop where
  accepted : ∀ c, .accepted c ∈ ds ↔ c ∈ r.places.map Place.connection ∨ .stranded c ∈ ds
  stranded : ∀ c, .stranded c ∈ ds →
    c ∉ r.places.map Place.connection ++ r.coming ∧ c < r.closes.length

/-- Deeds that accept nothing leave what was accepted. -/
theorem Received.append {r s : Roster} {ds es : List Deed} (hr : Received r ds)
    (hes : ∀ c, .accepted c ∉ es ∧ .stranded c ∉ es)
    (hplaces : s.places.map Place.connection = r.places.map Place.connection)
    (hcoming : ∀ c ∈ s.coming, c ∈ r.coming ∨ r.closes.length ≤ c)
    (hcloses : r.closes.length ≤ s.closes.length) : Received s (ds ++ es) := by
  have haccepted (c : ConnectionId) : .accepted c ∈ ds ++ es ↔ .accepted c ∈ ds := by
    simp [(hes c).1]
  have hstranded (c : ConnectionId) : .stranded c ∈ ds ++ es ↔ .stranded c ∈ ds := by
    simp [(hes c).2]
  constructor
  · intro c
    rw [haccepted, hstranded, hplaces]
    exact hr.accepted c
  · intro c hc
    rw [hstranded] at hc
    obtain ⟨hnew, hlt⟩ := hr.stranded c hc
    refine ⟨fun hm => ?_, Nat.lt_of_lt_of_le hlt hcloses⟩
    rw [hplaces] at hm
    obtain hm | hm := List.mem_append.mp hm
    · exact hnew (List.mem_append_left _ hm)
    · obtain hm | hge := hcoming c hm
      · exact hnew (List.mem_append_right _ hm)
      · exact Nat.not_lt_of_le hge hlt

/-- A connection that gets a handshake was accepted. -/
theorem Received.dispatch {r : Roster} {ds : List Deed} (hr : Received r ds)
    {c : ConnectionId} {rest : List ConnectionId} (hc : r.coming = c :: rest) :
    Received ({ r with coming := rest }.dispatch c) (ds ++ [.accepted c]) := by
  have hconnections : (r.places ++ [(⟨c, .pending⟩ : Place)]).map Place.connection =
      r.places.map Place.connection ++ [c] := List.map_append
  have hsame : (r.places ++ [(⟨c, .pending⟩ : Place)]).map Place.connection ++ rest =
      r.places.map Place.connection ++ r.coming := by
    rw [hconnections, hc, List.append_assoc]
    rfl
  have hstranded (d : ConnectionId) : .stranded d ∈ ds ++ [.accepted c] ↔ .stranded d ∈ ds := by
    simp
  constructor
  · intro d
    have hmem : d ∈ (r.places ++ [(⟨c, .pending⟩ : Place)]).map Place.connection ↔
        d ∈ r.places.map Place.connection ∨ d = c := by
      rw [hconnections, List.mem_append, List.mem_singleton]
    have haccepted : .accepted d ∈ ds ++ [.accepted c] ↔ .accepted d ∈ ds ∨ d = c := by simp
    rw [Roster.dispatch, hmem, haccepted, hstranded, hr.accepted d]
    exact or_right_comm
  · intro d hd
    rw [hstranded] at hd
    obtain ⟨hnew, hlt⟩ := hr.stranded d hd
    exact ⟨fun hm => hnew (hsame ▸ hm), hlt⟩

/-- A connection over which the loop breaks down was accepted and is stranded. -/
theorem Received.strand {n : Nat} {r : Roster} {ds : List Deed} (hr : Received r ds)
    (hp : Placed n r) {c : ConnectionId} {rest : List ConnectionId}
    (hc : r.coming = c :: rest) : Received r.drop (ds ++ [.accepted c, .stranded c]) := by
  have hcoming : c ∈ r.coming := hc ▸ List.mem_cons_self
  have hstranded (d : ConnectionId) :
      .stranded d ∈ ds ++ [.accepted c, .stranded c] ↔ .stranded d ∈ ds ∨ d = c := by simp
  constructor
  · intro d
    have haccepted :
        .accepted d ∈ ds ++ [.accepted c, .stranded c] ↔ .accepted d ∈ ds ∨ d = c := by simp
    rw [haccepted, hstranded, hr.accepted d]
    exact or_assoc
  · intro d hd
    have hleft : d ∈ r.places.map Place.connection ++ [] → d ∈ r.places.map Place.connection :=
      fun hm => by rwa [List.append_nil] at hm
    obtain hd | rfl := (hstranded d).mp hd
    · obtain ⟨hnew, hlt⟩ := hr.stranded d hd
      exact ⟨fun hm => hnew (List.mem_append_left _ (hleft hm)), hlt⟩
    · have hdisjoint := (List.nodup_append.mp hp.distinct).2.2
      refine ⟨fun hm => hdisjoint d (hleft hm) d hcoming rfl, ?_⟩
      exact (hp.known d (List.mem_append_right _ hcoming)).2

/-- A deed keeps the account of what was accepted. -/
theorem Received.step {n : Nat} {r s : Roster} {ds es : List Deed} (hr : Received r ds)
    (hp : Placed n r) (step : Roster.Step r es s) : Received s (ds ++ es) := by
  have hnone (c : ConnectionId) : .accepted c ∉ ([] : List Deed) ∧ .stranded c ∉ ([] : List Deed) :=
    ⟨List.not_mem_nil, List.not_mem_nil⟩
  have hput {r' : Roster} {es : List Deed} (h : HandshakeId) (stand : Stand)
      (hes : ∀ c, .accepted c ∉ es ∧ .stranded c ∉ es) (hplaces : r'.places = r.places)
      (hcoming : r'.coming = r.coming) (hcloses : r'.closes.length = r.closes.length) :
      Received (r'.put h stand) (ds ++ es) :=
    hr.append hes ((r'.connections_put h stand).trans (congrArg _ hplaces))
      (fun c hc => .inl (hcoming ▸ hc)) (Nat.le_of_eq hcloses.symm)
  cases step with
  | connect hc =>
    have hlength : (r.closes ++ [0]).length = r.closes.length + 1 := List.length_append
    refine hr.append hnone rfl (fun c hm => ?_) (hlength ▸ Nat.le_succ _)
    obtain rfl | rfl := hc
    · exact .inl hm
    · obtain hm | hm := List.mem_append.mp hm
      · exact .inl hm
      · exact .inr (Nat.le_of_eq (List.mem_singleton.mp hm).symm)
  | start hd => exact hr.append hnone rfl (fun c hc => .inl hc) (Nat.le_refl _)
  | drop => exact hr.append hnone rfl (fun c hc => by cases hc) (Nat.le_refl _)
  | @accept c rest hd hc => exact hr.dispatch hc
  | @strand c rest hd hc => exact hr.strand hp hc
  | claimClosing hd hs ho => exact hput _ _ (fun c => by simp) rfl rfl rfl
  | claimHanding hd hs => exact hput _ _ (fun c => by simp) rfl rfl rfl
  | yield hd hs ho => exact hput _ _ hnone rfl rfl rfl
  | close hd hs => exact hput _ _ (fun c => by simp) rfl rfl (List.length_modify ..)
  | raise hd ho => exact hput _ _ hnone rfl rfl rfl
  | handOver hd => exact hput _ _ (fun c => by simp) rfl rfl rfl
  | complete hd => exact hput _ _ hnone rfl rfl rfl
  | release hc =>
    exact hr.append (fun c => by simp) rfl (fun c hc => .inl hc)
      (Nat.le_of_eq (List.length_modify ..).symm)
  | drain => exact hr.append (fun c => by simp) rfl (fun c hc => .inl hc) (Nat.le_refl _)

theorem Received.path {n : Nat} {r s : Roster} {ds es : List Deed} (hr : Received r ds)
    (hs : Sound n r ds) (path : Roster.Path r es s) : Received s (ds ++ es) := by
  induction path with
  | nil => exact (List.append_nil ds).symm ▸ hr
  | snoc path step ih => exact List.append_assoc .. ▸ ih.step (hs.path path).placed step

/-! ## What stays as it is -/

namespace Roster

/-- A listener that was started stays so through a deed. -/
theorem Step.started {r s : Roster} {ds : List Deed} (step : Step r ds s)
    (hr : r.acceptor ≠ .idle) : s.acceptor ≠ .idle := by
  cases step with
  | start => exact fun h => by cases h
  | drop => exact fun h => by cases h
  | strand => exact fun h => by cases h
  | _ => exact hr

/-- Once the acceptor has gone and the set is empty, nobody comes into the set again. -/
theorem Step.emptied {r s : Roster} {ds : List Deed} (step : Step r ds s)
    (hr : r.acceptor = .dropped ∧ r.outstanding = []) :
    s.acceptor = .dropped ∧ s.outstanding = [] := by
  obtain ⟨hdropped, hnobody⟩ := hr
  cases step with
  | start hidle =>
    rw [hdropped] at hidle
    cases hidle
  | drop => exact ⟨rfl, hnobody⟩
  | accept haccepting =>
    rw [hdropped] at haccepting
    cases haccepting
  | strand => exact ⟨rfl, hnobody⟩
  | claimClosing _ hs =>
    rw [hnobody] at hs
    cases hs
  | claimHanding _ hs =>
    rw [hnobody] at hs
    cases hs
  | drain => exact ⟨hdropped, rfl⟩
  | _ => exact ⟨hdropped, hnobody⟩

theorem Path.started {r s : Roster} {ds : List Deed} (path : Path r ds s)
    (hr : r.acceptor ≠ .idle) : s.acceptor ≠ .idle := by
  induction path with
  | nil => exact hr
  | snoc path step ih => exact step.started ih

/-- An empty set without an acceptor stays empty through any deeds. -/
theorem Path.emptied {r s : Roster} {ds : List Deed} (path : Path r ds s)
    (hr : r.acceptor = .dropped ∧ r.outstanding = []) :
    s.acceptor = .dropped ∧ s.outstanding = [] := by
  induction path with
  | nil => exact hr
  | snoc path step ih => exact step.emptied ih

end Roster

/-- Only a stop takes entries out of the set. -/
theorem eq_drain_of_drained {l : Listener} {e : Event} {h : HandshakeId}
    (hm : .drained h ∈ l.deeds e) : e = .drain := by
  have hrelease (c : ConnectionId) : .drained h ∉ l.releaseDeeds c := by
    unfold releaseDeeds
    split <;> simp
  have hnext : .drained h ∉ l.nextDeeds := by
    unfold nextDeeds
    split
    · split <;> simp
    · simp
  cases e with
  | accept overlooks =>
    have hm : .drained h ∈ l.acceptDeeds (!overlooks && l.shutdown.isCancelled l.token) := hm
    unfold acceptDeeds at hm
    split at hm
    · cases hm
    · split at hm
      · cases hm
      · exact absurd hm hnext
  | claim i =>
    have hm : .drained h ∈ l.claimDeeds i := hm
    unfold claimDeeds at hm
    split at hm
    · split at hm <;> simp at hm
    · cases hm
  | close i =>
    have hm : .drained h ∈ l.closeDeeds i := hm
    unfold closeDeeds at hm
    split at hm <;> simp at hm
  | handOver i =>
    have hm : .drained h ∈ l.handOverDeeds i := hm
    unfold handOverDeeds at hm
    split at hm <;> simp at hm
  | completeHandOver i =>
    have hm : .drained h ∈ l.completeDeeds i := hm
    unfold completeDeeds at hm
    split at hm
    · split at hm
      · exact absurd hm (hrelease _)
      · cases hm
    · cases hm
  | popEvent discard =>
    have hm : .drained h ∈ l.popDeeds discard := hm
    unfold popDeeds at hm
    split at hm
    · split at hm
      · exact absurd hm (hrelease _)
      · cases hm
    · cases hm
  | drain => rfl
  | _ => cases hm

/-- A handshake has ended exactly if it stands as ended on the roster. -/
theorem hasEnded_iff {l : Listener} {h : HandshakeId} : l.hasEnded h = true ↔
    ∃ c outcome, l.roster.places[h]? = some ⟨c, .ended outcome⟩ := by
  constructor
  · intro hended
    unfold hasEnded at hended
    split at hended
    · rename_i c deadline token outcome hx
      exact ⟨c, outcome, places_roster l hx⟩
    · cases hended
  · intro hall
    obtain ⟨c, outcome, hplace⟩ := hall
    obtain ⟨⟨c, deadline, token, phase⟩, hx, -, rfl⟩ := ended_of_place hplace
    rw [hasEnded, hx]

/-! ## Every course with a stop in it -/

namespace Halt

/-- What holds of a course with a stop in it. -/
structure Orderly (n : Nat) (k : Halt) : Prop where
  sound : Sound n k.course.listener.roster k.course.deeds
  received : Received k.course.listener.roster k.course.deeds
  drained : ∀ h, .drained h ∈ k.course.deeds ↔ h ∈ k.stage.taken
  begun : k.stage ≠ .ahead → k.course.listener.acceptor ≠ .idle
  emptied : k.stage.hasDrained = true →
    k.course.listener.acceptor = .dropped ∧ k.course.listener.outstanding = []
  ended : ∀ taken, k.stage = .returned taken →
    ∀ h ∈ taken, k.course.listener.hasEnded h = true

/-- An event that takes no entry leaves the stop as it is. -/
theorem Orderly.event {n : Nat} {k : Halt} (hk : Orderly n k) {e : Event}
    (he : e ≠ .drain) : Orderly n { k with course := k.course.next e } := by
  have hpath := path_perform k.course.listener e
  constructor
  · exact hk.sound.path hpath
  · exact hk.received.path hk.sound hpath
  · intro h
    have hnone : .drained h ∉ k.course.listener.deeds e := fun hm => he (eq_drain_of_drained hm)
    rw [← hk.drained h, Course.next, List.mem_append]
    exact or_iff_left hnone
  · exact fun hs => hpath.started (hk.begun hs)
  · exact fun hs => hpath.emptied (hk.emptied hs)
  · intro taken hs h hm
    obtain ⟨c, outcome, hplace⟩ := hasEnded_iff.mp (hk.ended taken hs h hm)
    exact hasEnded_iff.mpr ⟨c, outcome, hpath.ended_kept hplace⟩

/-- A stop of a listener that was started cancels everything. -/
theorem Orderly.cancelled {n : Nat} {course : Course} (hk : Orderly n ⟨course, .ahead⟩)
    (hstarted : course.listener.acceptor ≠ .idle) :
    Orderly n ⟨course.next .cancelAll, .joining⟩ := by
  have hnext := hk.event (e := .cancelAll) (by simp)
  have hpath := path_perform course.listener .cancelAll
  exact ⟨hnext.sound, hnext.received, hnext.drained, fun _ => hpath.started hstarted, nofun, nofun⟩

/-- Once the accept loop has ended, the stop takes every entry. -/
theorem Orderly.emptiedSet {n : Nat} {course : Course} (hk : Orderly n ⟨course, .joining⟩)
    (hleft : course.listener.acceptor ≠ .accepting) :
    Orderly n ⟨course.next .drain, .awaiting course.listener.outstanding⟩ := by
  have hpath := path_perform course.listener .drain
  have hdropped : course.listener.acceptor = .dropped := by
    have hbegun := hk.begun (by simp)
    cases hacceptor : course.listener.acceptor with
    | idle => exact absurd hacceptor hbegun
    | accepting => exact absurd hacceptor hleft
    | dropped => rfl
  have hafter : (course.next .drain).listener.acceptor = .dropped := by
    simp [Course.next, perform, drain, hdropped, showOutstanding]
  refine ⟨hk.sound.path hpath, hk.received.path hk.sound hpath, fun h => ?_, fun _ => ?_,
    fun _ => ⟨hafter, rfl⟩, nofun⟩
  · have hbefore : .drained h ∉ course.deeds := fun hm => by
      have htaken := (hk.drained h).mp hm
      cases htaken
    have hdeeds : (course.next .drain).deeds =
        course.deeds ++ course.listener.outstanding.map .drained := rfl
    rw [hdeeds, List.mem_append]
    refine (or_iff_right hbefore).trans ?_
    simp [StopStage.taken]
  · rw [hafter]
    exact nofun

/-- When every handshake whose entry it took has ended, the stop returns. -/
theorem Orderly.concluded {n : Nat} {course : Course} {taken : List HandshakeId}
    (hk : Orderly n ⟨course, .awaiting taken⟩)
    (hall : taken.all course.listener.hasEnded = true) :
    Orderly n ⟨course.next (.conclude taken), .returned taken⟩ := by
  have hnext := hk.event (e := .conclude taken) (by simp)
  have hpath := path_perform course.listener (.conclude taken)
  refine ⟨hnext.sound, hnext.received, hnext.drained, fun _ => hnext.begun (by simp),
    fun _ => hnext.emptied rfl, ?_⟩
  intro taken' htaken h hm
  cases htaken
  obtain ⟨c, outcome, hplace⟩ := hasEnded_iff.mp (List.all_eq_true.mp hall h hm)
  exact hasEnded_iff.mpr ⟨c, outcome, hpath.ended_kept hplace⟩

/-- A step of the stop keeps everything in order. -/
theorem Orderly.proceed {n : Nat} {k : Halt} (hk : Orderly n k) : Orderly n k.proceed := by
  obtain ⟨course, stage⟩ := k
  unfold Halt.proceed
  cases stage with
  | ahead =>
    dsimp only
    split
    · exact hk
    · next hstarted => exact hk.cancelled hstarted
  | joining =>
    dsimp only
    split
    · exact hk
    · next hleft => exact hk.emptiedSet hleft
  | awaiting taken =>
    dsimp only
    split
    · next hall => exact hk.concluded hall
    · exact hk
  | returned taken => exact hk

/-- Every move keeps everything in order. -/
theorem Orderly.next {n : Nat} {k : Halt} (hk : Orderly n k) (m : Move) :
    Orderly n (k.next m) := by
  cases m with
  | other e =>
    cases hstop : e.isStop with
    | true =>
      rw [Halt.next, if_pos hstop]
      exact hk
    | false =>
      have he : e ≠ .drain := by
        intro he
        subst he
        cases hstop
      rw [Halt.next, if_neg (by simp [hstop])]
      exact hk.event he
  | stop => exact hk.proceed

theorem orderly_start (address : String) (transport : Transport) (security : Security)
    (terms : AcceptTerms) (surroundings : Surroundings) :
    Orderly surroundings.connections.length
      (start address transport security terms surroundings) := by
  refine ⟨sound_new address transport security terms surroundings, ⟨?_, ?_⟩, ?_, ?_, ?_, ?_⟩
  · intro c
    simp [start, Course.start, Listener.new, roster]
  · exact fun c h => absurd h List.not_mem_nil
  · intro h
    simp [start, Course.start, StopStage.taken]
  · exact fun h => absurd rfl h
  · intro h
    cases h
  · intro taken h
    cases h

/-- Any moves keep everything in order. -/
theorem orderly_extend {n : Nat} {k : Halt} (hk : Orderly n k) (moves : List Move) :
    Orderly n (k.extend moves) := extend_induction hk (fun _ m hk => hk.next m) moves

/-- A handshake that the stop has not joined has left the set by itself. -/
theorem Orderly.claimed {n : Nat} {k : Halt} (hk : Orderly n k) {taken : List HandshakeId}
    (hstage : k.stage = .returned taken) {h : HandshakeId} {c : ConnectionId} {stand : Stand}
    (hplace : k.course.listener.roster.places[h]? = some ⟨c, stand⟩)
    (hstand : ∀ outcome, stand ≠ .ended outcome) : .claimed h ∈ k.course.deeds := by
  have hempty : k.course.listener.roster.outstanding = [] :=
    (hk.emptied (by rw [hstage]; rfl)).2
  obtain hm | hm | hm := hk.sound.listed.left h (Roster.lt_length_places hplace)
  · rw [hempty] at hm
    cases hm
  · exact hm
  · have htaken := (hk.drained h).mp hm
    rw [hstage] at htaken
    obtain ⟨d, outcome, hended⟩ := hasEnded_iff.mp (hk.ended taken hstage h htaken)
    rw [hplace] at hended
    exact absurd (congrArg Place.stand (Option.some.inj hended)) (hstand outcome)

/-- A handshake that is neither about to close nor to hand over has closed its connection. -/
theorem Orderly.closed {n : Nat} {k : Halt} (hk : Orderly n k) {taken : List HandshakeId}
    (hstage : k.stage = .returned taken) {h : HandshakeId} {c : ConnectionId} {stand : Stand}
    (hplace : k.course.listener.roster.places[h]? = some ⟨c, stand⟩)
    (haway : stand.isAway = false) (hclosing : ∀ outcome, stand ≠ .closing outcome) :
    k.course.closings c = 1 := by
  have hfits := hk.sound.owned.fits h _ hplace
  have hcount : k.course.closings c = stand.closings := hfits.closed
  rw [hcount]
  cases stand with
  | pending => exact absurd (hk.claimed hstage hplace (by simp)) (hfits.unclaimed rfl)
  | closing outcome => exact absurd rfl (hclosing outcome)
  | raising => rfl
  | handing d => cases haway
  | given => cases haway
  | ended outcome =>
    refine Stand.closings_ended ?_
    intro he
    subst he
    cases haway

end Halt

/-- A handshake that stands as closing is about to close. -/
theorem Phase.closing_of_stand {phase : Phase} {outcome : HandshakeOutcome}
    (h : phase.stand = .closing outcome) : ∃ late, phase = .closing outcome late := by
  cases phase with
  | closing other late => exact ⟨late, by rw [Stand.closing.inj h]⟩
  | _ => cases h

namespace Course

/-- The connection belongs to the peer layer, or its handshake is about to hand it over. -/
def GivenAway (k : Course) (c : ConnectionId) : Prop :=
  ∃ x ∈ k.listener.handshakes, x.connection = c ∧ x.phase.stand.isAway = true

/-- The handshake of the connection left the set by itself and has not closed it yet. -/
def LeftOpen (k : Course) (c : ConnectionId) : Prop :=
  ∃ h x outcome late, k.listener.handshakes[h]? = some x ∧ x.connection = c ∧
    x.phase = .closing outcome late ∧ .claimed h ∈ k.deeds

end Course

namespace Halt

/-- When a stop has returned, the acceptor is gone, and every handshake whose entry the stop
took has ended and closed its connection. Any other connection that was accepted and not
given away is closed, unless the accept loop broke down over it, or its handshake left the
set by itself and is still about to close it. -/
theorem closed_after_stop_iff (address : String) (transport : Transport) (security : Security)
    (terms : AcceptTerms) (surroundings : Surroundings) (moves : List Move) {k : Halt}
    {taken : List HandshakeId}
    (hk : k = (start address transport security terms surroundings).extend moves)
    (hstage : k.stage = .returned taken) :
    k.course.listener.acceptor = .dropped ∧
    (∀ h ∈ taken, ∃ x outcome, k.course.listener.handshakes[h]? = some x ∧
      x.phase = .ended outcome ∧ k.course.closings x.connection = 1 ∧
      k.course.handings x.connection = 0) ∧
    ∀ c, .accepted c ∈ k.course.deeds → ¬k.course.GivenAway c →
      (k.course.closings c = 1 ↔ .stranded c ∉ k.course.deeds ∧ ¬k.course.LeftOpen c) := by
  have horderly : Orderly _ k :=
    hk ▸ orderly_extend (orderly_start address transport security terms surroundings) moves
  refine ⟨(horderly.emptied (by rw [hstage]; rfl)).1, ?_, ?_⟩
  · intro h hm
    obtain ⟨c, outcome, hplace⟩ := hasEnded_iff.mp (horderly.ended taken hstage h hm)
    obtain ⟨x, hx, rfl, hend⟩ := ended_of_place hplace
    have hfits := horderly.sound.owned.fits h _ hplace
    have hdrained : .drained h ∈ k.course.deeds := (horderly.drained h).mpr (by rwa [hstage])
    have hoff : outcome ≠ .handedOff := by
      intro he
      subst he
      exact horderly.sound.listed.once h (hfits.away rfl) hdrained
    exact ⟨x, outcome, hx, hend, hfits.closed.trans (Stand.closings_ended hoff),
      hfits.handed.trans (Stand.handings_ended hoff)⟩
  · intro c hc haway
    constructor
    · intro hclosed
      refine ⟨fun hstranded => ?_, ?_⟩
      · have hnew := (horderly.received.stranded c hstranded).1
        have huntouched := horderly.sound.owned.untouched c fun hm =>
          hnew (List.mem_append_left _ hm)
        have hnone : k.course.closings c = 0 := List.count_eq_zero.mpr huntouched.1
        omega
      · intro hall
        obtain ⟨h, x, outcome, late, hx, rfl, hphase, -⟩ := hall
        have hplace := places_roster k.course.listener hx
        have hnone : k.course.closings x.connection = 0 := by
          have hfits := horderly.sound.owned.fits h _ hplace
          rw [hphase] at hfits
          exact hfits.closed
        omega
    · intro hall
      obtain ⟨hstranded, hopen⟩ := hall
      obtain hm | hm := (horderly.received.accepted c).mp hc
      · obtain ⟨place, hplace, rfl⟩ := List.mem_map.mp hm
        obtain ⟨x, hmem, rfl⟩ := List.mem_map.mp hplace
        obtain ⟨h, hx⟩ := List.getElem?_of_mem hmem
        have hplace := places_roster k.course.listener hx
        refine horderly.closed hstage hplace ?_ ?_
        · exact Bool.eq_false_iff.mpr fun ha => haway ⟨x, hmem, rfl, ha⟩
        · intro outcome hclosing
          have hclaimed := horderly.claimed hstage hplace (by simp [hclosing])
          obtain ⟨late, hphase⟩ := Phase.closing_of_stand hclosing
          exact hopen ⟨h, x, outcome, late, hx, rfl, hphase, hclaimed⟩
      · exact absurd hm hstranded

/-- The stop cancels a handshake, which leaves the set before the stop takes the entries. So
the stop finds nobody and returns, and the connection is still open. -/
theorem left_open_by_stop :
    let terms : AcceptTerms := ⟨1000, .base, .events⟩
    let k := (start "a" .tcp .clear terms (.new 0)).extend
      [.other .start, .other (.connect "c" "d" ⟨0, none⟩), .other (.accept false), .stop,
        .other (.poll 0 false), .other (.claim 0), .other (.accept false), .stop, .stop]
    k.stage = .returned [] ∧ .accepted 0 ∈ k.course.deeds ∧ ¬k.course.GivenAway 0 ∧
      k.course.closings 0 ≠ 1 := by
  intro terms k
  have hstage : k.stage = .returned [] := by decide +kernel
  have haccepted : .accepted 0 ∈ k.course.deeds := by decide +kernel
  have hclaimed : .claimed 0 ∈ k.course.deeds := by decide +kernel
  have hplaces : k.course.listener.handshakes.map (fun x => Place.mk x.connection x.phase.stand) =
      [⟨0, .closing .cancelled⟩] := by decide +kernel
  obtain ⟨x, hhandshakes, hplace⟩ := List.map_eq_singleton_iff.mp hplaces
  obtain ⟨late, hphase⟩ := Phase.closing_of_stand (congrArg Place.stand hplace)
  have haway : ¬k.course.GivenAway 0 := by
    intro hall
    obtain ⟨y, hy, -, ha⟩ := hall
    rw [hhandshakes, List.mem_singleton] at hy
    rw [hy, hphase] at ha
    cases ha
  have hk : k = (start "a" .tcp .clear terms (.new 0)).extend _ := rfl
  have hiff := (closed_after_stop_iff _ _ _ _ _ _ hk hstage).2.2 0 haccepted haway
  have hopen : k.course.LeftOpen 0 :=
    ⟨0, x, .cancelled, late, by rw [hhandshakes]; rfl, congrArg Place.connection hplace, hphase,
      hclaimed⟩
  exact ⟨hstage, haccepted, haway, fun hclosed => (hiff.mp hclosed).2 hopen⟩

end Halt

end Diameter.Listener
