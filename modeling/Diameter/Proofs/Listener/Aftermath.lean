import Diameter.Proofs.Listener.Standing
import Diameter.Proofs.Listener.Stopping
import Diameter.Proofs.Listener.Tokens

/-!
# What is left of a listener that was stopped

A status that is final stays as it is, whatever happens to the listener. Once the entries have
been taken and the acceptor is gone, no entry comes back, so every handshake that gives up its
entry after that has to close its connection.

Nobody keeps a stop from returning. The token of each handshake was derived from the one of its
listener, so a handshake whose entry was taken sees that it is cancelled as soon as it looks, and
then needs at most four turns to close its connection and to end.
-/

namespace Diameter

/-- It is over with a listener. -/
structure ListenerState.IsOver (x : ListenerState) : Prop where
  /-- Nobody accepts any more. -/
  acceptor : x.acceptor = .dropped
  /-- Nobody is in the set. -/
  outstanding : x.outstanding = []
  /-- The status does not change any more. -/
  status : x.status.isFinal = true

namespace Listener

open Shutdown (Extends)

variable {l : Listener} {e : Event} {h : HandshakeId} {x : Accepted}

/-! ## The status -/

/-- Starting a listener that has ended leaves its status. -/
theorem start_of_isFinal (hl : l.status.isFinal = true) : l.start.2.status = l.status := by
  have hno : ¬(l.acceptor = .idle ∧ l.status.canBecome .running = true) := fun hcan => by
    rw [ListenerStatus.eq_notStarted_of_canBecome hcan.2] at hl
    cases hl
  unfold Listener.start
  rw [if_neg hno]
  dsimp only
  split
  · exact congrArg Sheet.status (sheet_dropAcceptor l)
  · rfl

/-- A stop that returns takes the status as far as terminated. -/
theorem conclude_eq (l : Listener) (taken : List HandshakeId) :
    (l.conclude taken).status = l.status.advance .terminated := by
  unfold conclude ListenerStatus.advance
  split <;> rfl

/-- What an event makes of the status. -/
theorem Sheet.Step.status {s : Sheet} (h : Sheet.Step l e s) : s.status = l.status ∨
    s.status = l.status.advance .failed ∨ (e = .start ∧ s.status = .running) ∨
      ∃ taken, e = .conclude taken ∧ s.status = .terminated := by
  cases h with
  | failed => exact .inr (.inl rfl)
  | started => exact .inr (.inr (.inl ⟨rfl, rfl⟩))
  | concluded => exact .inr (.inr (.inr ⟨_, rfl, rfl⟩))
  | _ => exact .inl rfl

/-- When it is over with a listener, its status does not change any more. -/
theorem status_perform_of_isFinal (hl : l.status.isFinal = true) (e : Event) :
    (l.perform e).status = l.status := by
  obtain hsame | hfailed | ⟨rfl, -⟩ | ⟨taken, rfl, -⟩ := (sheet_perform l e).status
  · exact hsame
  · exact hfailed.trans (ListenerStatus.advance_of_isFinal hl _)
  · exact start_of_isFinal hl
  · exact (conclude_eq l taken).trans (ListenerStatus.advance_of_isFinal hl _)

/-- No listener becomes new again. -/
theorem status_perform_ne_notStarted (hl : l.status ≠ .notStarted) (e : Event) :
    (l.perform e).status ≠ .notStarted := by
  have hcases := (sheet_perform l e).status
  show (l.perform e).sheet.status ≠ .notStarted
  obtain hsame | hfailed | ⟨-, hrunning⟩ | ⟨taken, -, hterminated⟩ := hcases
  · exact hsame ▸ hl
  · have hfinal := (ListenerStatus.advance_failed hl).1
    rw [← hfailed] at hfinal
    exact fun heq => by
      rw [heq] at hfinal
      cases hfinal
  · exact hrunning ▸ nofun
  · exact hterminated ▸ nofun

/-- When it is over with a listener, it stays so. -/
theorem isOver_perform (h : l.toListenerState.IsOver) (e : Event) :
    (l.perform e).toListenerState.IsOver := by
  obtain ⟨hacceptor, houtstanding⟩ := (path_perform l e).emptied ⟨h.acceptor, h.outstanding⟩
  refine ⟨hacceptor, houtstanding, ?_⟩
  rw [status_perform_of_isFinal h.status]
  exact h.status

/-! ## Entries that were taken -/

/-- A handshake whose entry was taken is refused, and has to close its connection. -/
theorem phase_claim_of_taken {decision : Handshake.Decision} (hx : l.handshakes[h]? = some x)
    (hphase : x.phase = .leaving decision) (hout : l.outstanding = []) :
    ∃ outcome late, outcome ≠ .handedOff ∧
      (l.claim h).handshakes[h]? = some { x with phase := .closing outcome late } := by
  obtain ⟨c, deadline, token, phase⟩ := x
  obtain rfl : phase = .leaving decision := hphase
  have hset (after : Listener) (hsame : after.handshakes = l.handshakes) (phase : Phase) :
      (after.setPhase h phase).handshakes[h]? = some ⟨c, deadline, token, phase⟩ := by
    show (after.handshakes.modify h _)[h]? = _
    rw [List.getElem?_modify_eq, hsame, hx]
    rfl
  unfold claim
  rw [hx, hout]
  rcases decision with _ | _ | _ | _ <;> exact ⟨_, _, fun heq => (by cases heq), hset l rfl _⟩

/-! ## Handshakes and their listener -/

/-- Whether a handshake that stands here can end without the peer layer. -/
def Stand.isHome : Stand → Bool
  | .handing _ | .given => false
  | _ => true

namespace Roster

variable {r s : Roster} {ds : List Deed}

/-- Who is in the set has not left it. A handshake that moves was not in the set, or it leaves the
set. -/
theorem Step.pending (step : Step r ds s)
    (hr : ∀ h ∈ r.outstanding, ∃ c, r.places[h]? = some ⟨c, .pending⟩) :
    ∀ h ∈ s.outstanding, ∃ c, s.places[h]? = some ⟨c, .pending⟩ := by
  have hput {r' : Roster} {i : HandshakeId} {d : ConnectionId} {old : Stand} (stand : Stand)
      (hplaces : r'.places = r.places) (hi : r.places[i]? = some ⟨d, old⟩)
      (hout : ∀ h ∈ r'.outstanding, h ∈ r.outstanding ∧ (h = i → old ≠ .pending)) :
      ∀ h ∈ (r'.put i stand).outstanding, ∃ c, (r'.put i stand).places[h]? = some ⟨c, .pending⟩ := by
    intro h hh
    obtain ⟨hmem, hold⟩ := hout h hh
    obtain ⟨c, hc⟩ := hr h hmem
    have hne : h ≠ i := fun heq => hold heq (by
      rw [heq, hi] at hc
      exact congrArg Place.stand (Option.some.inj hc))
    exact ⟨c, by rw [places_put_other hne, hplaces]; exact hc⟩
  have hleave (i : HandshakeId) :
      ∀ h ∈ (r.leave i).outstanding, h ∈ r.outstanding ∧ (h = i → Stand.pending ≠ .pending) :=
    fun h hh => ⟨(List.mem_filter.mp hh).1, fun heq => by simp [heq, leave] at hh⟩
  cases step with
  | accept hd hc =>
    intro h hh
    obtain hh | hh := List.mem_append.mp hh
    · obtain ⟨c, hplace⟩ := hr h hh
      exact ⟨c, (List.getElem?_append_left (lt_length_places hplace)).trans hplace⟩
    · obtain rfl := List.mem_singleton.mp hh
      exact ⟨_, List.getElem?_concat_length⟩
  | claimClosing hi => exact hput _ rfl hi (hleave _)
  | claimHanding hi => exact hput _ rfl hi (hleave _)
  | yield hi hs => exact hput _ rfl hi fun h hh => ⟨hh, fun heq => absurd (heq ▸ hh) hs⟩
  | close hi => exact hput _ rfl hi fun h hh => ⟨hh, fun _ hold => by cases hold⟩
  | raise hi => exact hput _ rfl hi fun h hh => ⟨hh, fun _ hold => by cases hold⟩
  | handOver hi => exact hput _ rfl hi fun h hh => ⟨hh, fun _ hold => by cases hold⟩
  | complete hi => exact hput _ rfl hi fun h hh => ⟨hh, fun _ hold => by cases hold⟩
  | drain => exact fun h hh => absurd hh List.not_mem_nil
  | _ => exact hr

/-- Once the set is empty, no handshake goes over to the peer layer. -/
theorem Step.home (step : Step r ds s) (hr : r.outstanding = []) {h : HandshakeId}
    (hh : ∃ c stand, r.places[h]? = some ⟨c, stand⟩ ∧ stand.isHome = true) :
    ∃ c stand, s.places[h]? = some ⟨c, stand⟩ ∧ stand.isHome = true := by
  obtain ⟨c, stand, hplace, hhome⟩ := hh
  have hput {r' : Roster} {i : HandshakeId} {d : ConnectionId} {old new : Stand}
      (hplaces : r'.places = r.places) (hi : r.places[i]? = some ⟨d, old⟩)
      (hnew : old.isHome = true → new.isHome = true) :
      ∃ c stand, (r'.put i new).places[h]? = some ⟨c, stand⟩ ∧ stand.isHome = true := by
    by_cases heq : h = i
    · subst heq
      obtain rfl : old = stand := congrArg Place.stand (Option.some.inj (hi.symm.trans hplace))
      refine ⟨d, new, ?_, hnew hhome⟩
      rw [put, List.getElem?_modify_eq, hplaces, hi]
      rfl
    · exact ⟨c, stand, by rw [places_put_other heq, hplaces]; exact hplace, hhome⟩
  cases step with
  | accept hd hc =>
    exact ⟨c, stand, (List.getElem?_append_left (lt_length_places hplace)).trans hplace, hhome⟩
  | claimClosing hi => exact hput rfl hi fun _ => rfl
  | claimHanding hi hs => exact absurd hs (hr ▸ List.not_mem_nil)
  | yield hi => exact hput rfl hi fun _ => rfl
  | close hi hs => exact hput rfl hi fun _ => by obtain rfl | rfl := hs <;> rfl
  | raise hi => exact hput rfl hi fun _ => rfl
  | handOver hi => exact hput rfl hi fun hold => by cases hold
  | complete hi => exact hput rfl hi fun hold => by cases hold
  | _ => exact ⟨c, stand, hplace, hhome⟩

/-- After any deeds, who is in the set has not left it. -/
theorem Path.pending (path : Path r ds s)
    (hr : ∀ h ∈ r.outstanding, ∃ c, r.places[h]? = some ⟨c, .pending⟩) :
    ∀ h ∈ s.outstanding, ∃ c, s.places[h]? = some ⟨c, .pending⟩ := by
  induction path with
  | nil => exact hr
  | snoc path step ih => exact step.pending ih

/-- With no acceptor and an empty set, a handshake that is home stays so through any deeds. -/
theorem Path.home (path : Path r ds s) (hr : r.acceptor = .dropped ∧ r.outstanding = [])
    {h : HandshakeId} (hh : ∃ c stand, r.places[h]? = some ⟨c, stand⟩ ∧ stand.isHome = true) :
    ∃ c stand, s.places[h]? = some ⟨c, stand⟩ ∧ stand.isHome = true := by
  induction path with
  | nil => exact hh
  | snoc path step ih => exact step.home (path.emptied hr).2 ih

end Roster

/-- Any deeds keep the places right. -/
theorem Placed.path {n : Nat} {r s : Roster} {ds : List Deed} (path : Roster.Path r ds s)
    (hp : Placed n r) : Placed n s := by
  induction path with
  | nil => exact hp
  | snoc path step ih => exact ih.step step

/-- The handshakes of a listener are tied to it. -/
structure Tied (l : Listener) : Prop where
  /-- Every handshake has a connection of its own, which is there. -/
  placed : Placed 0 l.roster
  /-- Its token comes from the one of the listener. -/
  below : ∀ t ∈ l.handshakes.map Accepted.token, l.shutdown.Reaches l.token t
  /-- Who is in the set has not left it. -/
  pending : ∀ h ∈ l.outstanding, ∃ c, l.roster.places[h]? = some ⟨c, .pending⟩

/-- The tokens of handshakes come from the one of the listener. -/
theorem Sheet.Step.below {s : Sheet} (step : Sheet.Step l e s)
    (hl : ∀ t ∈ l.handshakes.map Accepted.token, l.shutdown.Reaches l.token t) :
    ∀ t ∈ s.handshakes.map Accepted.token, s.shutdown.Reaches l.token t := by
  have hextends := step.extends_shutdown
  have hkept {s' : Sheet} (hsame : s'.handshakes.map Accepted.token =
      l.handshakes.map Accepted.token) (hs' : Extends l.shutdown s'.shutdown) :
      ∀ t ∈ s'.handshakes.map Accepted.token, s'.shutdown.Reaches l.token t :=
    fun t ht => hs'.reaches (hl t (hsame ▸ ht))
  have hmoved (h : HandshakeId) (phase : Phase) :
      (l.handshakes.modify h fun x => { x with phase }).map Accepted.token =
        l.handshakes.map Accepted.token := map_modify_of_eq _ _ fun _ _ => rfl
  cases step with
  | dispatched =>
    intro t ht
    dsimp only at ht
    rw [List.map_append] at ht
    obtain ht | ht := List.mem_append.mp ht
    · exact hextends.reaches (hl t ht)
    · obtain rfl := List.mem_singleton.mp ht
      exact .single ⟨false, l.shutdown.getElem?_child.mpr (.inr ⟨rfl, rfl⟩)⟩
  | claimed => exact hkept (hmoved _ _) hextends
  | raised => exact hkept (hmoved _ _) hextends
  | moved => exact hkept (hmoved _ _) hextends
  | _ => exact hkept rfl hextends

/-- Every event keeps what ties a listener together. -/
theorem Tied.perform (hl : l.Tied) (e : Event) : (l.perform e).Tied := by
  have hpath := path_perform l e
  refine ⟨hl.placed.path hpath, ?_, hpath.pending hl.pending⟩
  rw [token_perform]
  exact (sheet_perform l e).below hl.below

/-- What others do leaves it so. -/
theorem Tied.around (hl : l.Tied) {surroundings : Surroundings}
    (hextends : Extends l.shutdown surroundings.shutdown)
    (hconnections : l.connections.length ≤ surroundings.connections.length) :
    Tied { l with toSurroundings := surroundings } := by
  have hlength (s : Surroundings) : ({ l with toSurroundings := s } : Listener).roster.closes.length =
      s.connections.length := List.length_map _
  refine ⟨⟨hl.placed.distinct, fun c hc => ⟨Nat.zero_le c, ?_⟩, Nat.zero_le _⟩,
    fun t ht => hextends.reaches (hl.below t ht), hl.pending⟩
  rw [hlength]
  have hknown := (hl.placed.known c hc).2
  rw [show l.roster.closes.length = l.connections.length from List.length_map _] at hknown
  exact Nat.lt_of_lt_of_le hknown hconnections

/-! ## How a handshake ends that was cancelled -/

/-- The turns that a handshake needs to end after it was cancelled. -/
def Phase.turns : Phase → Nat
  | .waiting _ => 4
  | .leaving _ => 3
  | .closing _ _ => 2
  | .raising _ => 1
  | _ => 0

/-- A handshake that is cancelled and whose entry was taken can go on, and is nearer to its end
after that. -/
theorem exists_turn (hx : l.handshakes[h]? = some x) (hhome : x.phase.stand.isHome = true)
    (hended : l.hasEnded h = false) (hconnection : x.connection < l.connections.length)
    (hcancelled : l.shutdown.isCancelled x.token = true) (hout : l.outstanding = []) :
    ∃ e phase, e.isOwn = true ∧ e.sparesRoot = true ∧
      (l.perform e).handshakes[h]? = some { x with phase } ∧ phase.turns < x.phase.turns := by
  have hset (after : Listener) (hsame : after.handshakes = l.handshakes) (phase : Phase) :
      (after.setPhase h phase).handshakes[h]? = some { x with phase } := by
    show (after.handshakes.modify h _)[h]? = _
    rw [List.getElem?_modify_eq, hsame, hx]
    rfl
  have hseen : l.isCancelled h = true := by
    rw [isCancelled, hx]
    exact hcancelled
  obtain ⟨c, deadline, token, phase⟩ := x
  cases phase with
  | waiting wait =>
    have hc : l.connections[c]? = some l.connections[c] := List.getElem?_eq_getElem hconnection
    refine ⟨.poll h false, .leaving .cancelled, rfl, rfl, ?_, (by decide : 3 < 4)⟩
    show (l.pollSeeing h (!false && l.isCancelled h)).handshakes[h]? = _
    rw [hseen]
    unfold pollSeeing
    rw [hx]
    dsimp only
    rw [hc]
    exact hset _ rfl _
  | leaving decision =>
    obtain ⟨outcome, late, -, hclosing⟩ := phase_claim_of_taken hx rfl hout
    exact ⟨.claim h, .closing outcome late, rfl, rfl, hclosing, (by decide : 2 < 3)⟩
  | closing outcome late =>
    have hclose : ∃ phase, (l.close h).handshakes[h]? = some ⟨c, deadline, token, phase⟩ ∧
        phase.turns < 2 := by
      unfold close
      rw [hx]
      cases outcome with
      | fatal what => exact ⟨.raising what, hset _ rfl _, Nat.lt_succ_self 1⟩
      | handedOff => exact ⟨.ended .handedOff, hset _ rfl _, Nat.zero_lt_two⟩
      | rejected reason => exact ⟨.ended (.rejected reason), hset _ rfl _, Nat.zero_lt_two⟩
      | cancelled => exact ⟨.ended .cancelled, hset _ rfl _, Nat.zero_lt_two⟩
    obtain ⟨phase, hphase, hless⟩ := hclose
    exact ⟨.close h, phase, rfl, rfl, hphase, hless⟩
  | raising what =>
    refine ⟨.raise h, .ended (.fatal what), rfl, rfl, ?_, (by decide : 0 < 1)⟩
    show (l.raise h).handshakes[h]? = _
    unfold raise
    rw [hx]
    exact hset _ (congrArg Sheet.handshakes (sheet_trigger l _)) _
  | handing | keeping | storing => cases hhome
  | ended outcome =>
    rw [hasEnded, hx] at hended
    cases hended

end Listener

end Diameter
