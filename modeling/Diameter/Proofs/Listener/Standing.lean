import Diameter.Proofs.Listener.Record

/-!
# How a listener stands

What holds of the record at all times, whichever moves have been made: who has the acceptor, how
many starts have succeeded, and how far the status has come. A stop that has let go of an unused
acceptor leaves nothing to start with, and one that has returned leaves a status that is final.

From the results that the loop has taken and from what has become of it one can tell which
connections have a handshake: while it goes on, all that were taken; after that, all but the one
over which it may have broken down.

Starts and stops that are called one after another leave at most one of them going on. Then a stop
waits for the loop, so accepting that fails for good always finds the listener running.
-/

namespace Diameter

namespace ListenerStatus

/-- Whether it is over with a listener. -/
def isFinal : ListenerStatus → Bool
  | .terminated | .failed => true
  | .notStarted | .running => false

/-- How a status may go on. -/
inductive GoesTo : ListenerStatus → ListenerStatus → Prop
  /-- A listener starts. -/
  | start : GoesTo .notStarted .running
  /-- One that runs is stopped. -/
  | stop : GoesTo .running .terminated
  /-- One that runs fails. -/
  | fail : GoesTo .running .failed
  /-- One that was never started is stopped. -/
  | drop : GoesTo .notStarted .terminated

/-- A listener that is taken to its end is at an end. -/
theorem isFinal_advance_terminated (s : ListenerStatus) : (s.advance .terminated).isFinal = true := by
  cases s <;> rfl

/-- Taking a listener to its end leaves the status or is one of the allowed changes. -/
theorem advance_terminated (s : ListenerStatus) :
    s.advance .terminated = s ∨ s.GoesTo (s.advance .terminated) := by
  cases s with
  | notStarted => exact .inr .drop
  | running => exact .inr .stop
  | terminated | failed => exact .inl rfl

/-- Accepting can only fail after the listener was started. -/
theorem advance_failed {s : ListenerStatus} (h : s ≠ .notStarted) :
    (s.advance .failed).isFinal = true ∧ (s.advance .failed = s ∨ s.GoesTo (s.advance .failed)) := by
  cases s with
  | notStarted => exact absurd rfl h
  | running => exact ⟨rfl, .inr .fail⟩
  | terminated | failed => exact ⟨rfl, .inl rfl⟩

/-- A status that is final does not change. -/
theorem advance_of_isFinal {s : ListenerStatus} (h : s.isFinal = true) (next : ListenerStatus) :
    s.advance next = s := by
  cases s with
  | notStarted | running => cases h
  | terminated | failed => cases next <;> rfl

/-- What may become of a listener that starts. -/
theorem eq_notStarted_of_canBecome {s : ListenerStatus} (h : s.canBecome .running = true) :
    s = .notStarted := by
  cases s with
  | notStarted => rfl
  | running | terminated | failed => cases h

end ListenerStatus

namespace Listener

/-- Whether the loop takes results, or may begin to. -/
def LoopStage.isGoing : LoopStage → Bool
  | .absent | .turning | .starting _ _ => true
  | .failing _ | .blaming | .raising | .leaving | .gone => false

/-- Whether the loop has nothing left to do but to let go of the acceptor. -/
def LoopStage.hasLeft : LoopStage → Bool
  | .leaving | .gone => true
  | _ => false

/-- Whether a loop that has failed has come past noting its reason. -/
def LoopStage.hasAsked : LoopStage → Bool
  | .raising | .leaving | .gone => true
  | _ => false

/-- Whether accepting may still fail, or has failed and the status shows it next. -/
def LoopStage.canFail : LoopStage → Bool
  | .turning | .starting _ _ | .failing _ => true
  | _ => false

/-- A loop that has left does not go on. -/
theorem LoopStage.isGoing_of_hasLeft {x : LoopStage} (h : x.hasLeft = true) :
    x.isGoing = false := by
  cases x with
  | leaving | gone => rfl
  | _ => cases h

/-- A loop that can fail is alive. -/
theorem LoopStage.isLive_of_canFail {x : LoopStage} (h : x.canFail = true) : x.isLive = true := by
  cases x with
  | turning | starting | failing => rfl
  | _ => cases h

/-- Whether the loop goes on after a result. -/
def isHarmless : Except SystemError ConnectionId → Bool
  | .ok _ => true
  | .error e => e.isTransient

/-- An entry of a list in which one entry was replaced. -/
theorem getElem?_set_cases {α : Type} {xs : List α} {i j : Nat} {x y : α}
    (h : (xs.set i x)[j]? = some y) : (j = i ∧ y = x) ∨ (j ≠ i ∧ xs[j]? = some y) := by
  by_cases heq : i = j
  · subst heq
    have hlt : i < xs.length := by
      have hi := (List.getElem?_eq_some_iff.mp h).1
      rwa [List.length_set] at hi
    rw [List.getElem?_set_self hlt] at h
    exact .inl ⟨rfl, (Option.some.inj h).symm⟩
  · rw [List.getElem?_set_ne heq] at h
    exact .inr ⟨fun hji => heq hji.symm, h⟩

namespace Record

variable {s s' : Record}

/-! ## The acceptor, the starts and the status -/

/-- Who has the acceptor, and how far the listener has come. -/
structure Standing (s : Record) : Prop where
  /-- The loop has the acceptor as long as it is there. -/
  live : s.acceptor = .accepting ↔ s.loop.isLive = true
  /-- A start that succeeds starts the loop. -/
  once : s.starts.countP Launch.hasSucceeded = if s.loop = .absent then 0 else 1
  /-- When the loop has been started, the acceptor is used and the listener is not new. -/
  begun : s.loop ≠ .absent → s.acceptor ≠ .idle ∧ s.status ≠ .notStarted
  /-- When a stop has come far enough, nobody can start any more. -/
  emptied : ∀ x ∈ s.stops, x.hasEmptied = true → s.acceptor ≠ .idle
  /-- When a stop has returned, it is over with the listener. -/
  returned : .returned ∈ s.stops → s.status.isFinal = true

/-- After letting go, a listener was started. -/
theorem letGo_ne_idle (a : AcceptorState) : a.letGo ≠ .idle := by
  cases a <;> exact nofun

/-- Letting go leaves an acceptor that accepts. -/
theorem letGo_eq_accepting_iff {a : AcceptorState} : a.letGo = .accepting ↔ a = .accepting := by
  cases a <;> simp [AcceptorState.letGo]

/-- The loop goes on, and nothing else changes of what it stands on. -/
theorem Standing.ofLoop (h : s.Standing) (hloop : s'.loop.isLive = s.loop.isLive)
    (habsent : s.loop ≠ .absent) (habsent' : s'.loop ≠ .absent) (hacceptor : s'.acceptor = s.acceptor)
    (hstatus : s'.status = s.status) (hstarts : s'.starts = s.starts)
    (hstops : s'.stops = s.stops) : s'.Standing := by
  refine ⟨?_, ?_, fun _ => ?_, ?_, ?_⟩
  · rw [hacceptor, hloop]
    exact h.live
  · rw [hstarts, h.once, if_neg habsent, if_neg habsent']
  · rw [hacceptor, hstatus]
    exact h.begun habsent
  · rw [hstops, hacceptor]
    exact h.emptied
  · rw [hstops, hstatus]
    exact h.returned

theorem countP_set_succeeded {starts : List Launch} {i : Nat} (hi : starts[i]? = some .filing) :
    (starts.set i .succeeded).countP Launch.hasSucceeded = starts.countP Launch.hasSucceeded := by
  obtain ⟨hlt, hget⟩ := List.getElem?_eq_some_iff.mp hi
  rw [List.countP_set hlt, hget]
  have hpos : 0 < starts.countP Launch.hasSucceeded :=
    List.countP_pos_iff.mpr ⟨.filing, List.mem_of_getElem? hi, rfl⟩
  simp only [Launch.hasSucceeded, if_true]
  omega

/-- A stop goes on, and at most the acceptor changes with it. -/
theorem Standing.ofStop (h : s.Standing) {i : Nat} {x y : Recall} (hi : s.stops[i]? = some x)
    (hstops : s'.stops = s.stops.set i y) (hloop : s'.loop = s.loop)
    (hstarts : s'.starts = s.starts)
    (hacceptor : s'.acceptor = s.acceptor ∨ s'.acceptor = s.acceptor.letGo)
    (hy : y.hasEmptied = true → x.hasEmptied = true ∨ s'.acceptor ≠ .idle)
    (hreturned : y = .returned → s'.status.isFinal = true)
    (hstatus : s'.status = s.status ∨ s'.status = s.status.advance .terminated) :
    s'.Standing := by
  have hused : s.acceptor ≠ .idle → s'.acceptor ≠ .idle := fun hne => by
    obtain heq | heq := hacceptor
    · rw [heq]
      exact hne
    · rw [heq]
      exact letGo_ne_idle _
  have hfinal : s.status.isFinal = true → s'.status = s.status := fun hf => by
    obtain heq | heq := hstatus
    · exact heq
    · rw [heq, ListenerStatus.advance_of_isFinal hf]
  refine ⟨?_, ?_, fun hne => ?_, fun z hz hemptied => ?_, fun hmem => ?_⟩
  · rw [hloop, ← h.live]
    obtain heq | heq := hacceptor
    · rw [heq]
    · rw [heq, letGo_eq_accepting_iff]
  · rw [hloop, hstarts]
    exact h.once
  · rw [hloop] at hne
    obtain ⟨hidle, hnew⟩ := h.begun hne
    refine ⟨hused hidle, ?_⟩
    obtain heq | heq := hstatus
    · rwa [heq]
    · rw [heq]
      intro hback
      have hover := s.status.isFinal_advance_terminated
      rw [hback] at hover
      cases hover
  · rw [hstops] at hz
    obtain hz | rfl := List.mem_or_eq_of_mem_set hz
    · exact hused (h.emptied z hz hemptied)
    · exact (hy hemptied).elim (fun hx => hused (h.emptied x (List.mem_of_getElem? hi) hx)) id
  · rw [hstops] at hmem
    obtain hmem | heq := List.mem_or_eq_of_mem_set hmem
    · have hf := h.returned hmem
      rw [hfinal hf]
      exact hf
    · exact hreturned heq.symm

/-- Every move keeps it. -/
theorem Standing.step (h : s.Standing) (step : Step s s') : s'.Standing := by
  cases step with
  | calm => exact ⟨h.live, h.once, h.begun, h.emptied, h.returned⟩
  | passed => exact ⟨h.live, h.once, h.begun, h.emptied, h.returned⟩
  | observed hl | dispatched hl | stranded hl | met hl | spawned hl | noted hl | raised hl =>
    refine h.ofLoop ?_ ?_ nofun rfl rfl rfl rfl
    · rw [hl]
      rfl
    · rw [hl]
      exact nofun
  | blamed hl =>
    refine h.ofLoop ?_ ?_ ?_ rfl rfl rfl rfl
    · rw [hl]
      dsimp only
      split <;> rfl
    · rw [hl]
      exact nofun
    · dsimp only
      split <;> exact nofun
  | failed hl =>
    have hbegun : s.loop ≠ .absent := by
      rw [hl]
      exact nofun
    obtain ⟨hidle, hnew⟩ := h.begun hbegun
    have hfinal := (ListenerStatus.advance_failed hnew).1
    refine ⟨?_, h.once.trans (if_neg hbegun), fun _ => ⟨hidle, fun hback => ?_⟩, h.emptied,
      fun _ => hfinal⟩
    · rw [h.live, hl]
      rfl
    · have hback : s.status.advance .failed = .notStarted := hback
      rw [hback] at hfinal
      cases hfinal
  | dropped hl =>
    have hbegun : s.loop ≠ .absent := by
      rw [hl]
      exact nofun
    exact ⟨by simp [LoopStage.isLive], h.once.trans (if_neg hbegun),
      fun _ => ⟨nofun, (h.begun hbegun).2⟩, fun _ _ _ => nofun, h.returned⟩
  | started ha hs =>
    have habsent : s.loop = .absent := by
      by_contra hne
      exact (h.begun hne).1 ha
    refine ⟨by simp [LoopStage.isLive], ?_, fun _ => ⟨nofun, nofun⟩, fun _ _ _ => nofun,
      fun hmem => ?_⟩
    · rw [List.countP_append, h.once, habsent]
      rfl
    · have hf := h.returned hmem
      rw [ListenerStatus.eq_notStarted_of_canBecome hs] at hf
      cases hf
  | refused =>
    refine ⟨letGo_eq_accepting_iff.trans h.live, ?_, fun hne => ⟨letGo_ne_idle _, (h.begun hne).2⟩,
      fun _ _ _ => letGo_ne_idle _, h.returned⟩
    rw [List.countP_append, h.once]
    rfl
  | filed hi => exact ⟨h.live, (countP_set_succeeded hi).trans h.once, h.begun, h.emptied, h.returned⟩
  | called =>
    refine ⟨h.live, h.once, h.begun, fun x hx hemptied => ?_, fun hmem => ?_⟩
    · obtain hx | hx := List.mem_append.mp hx
      · exact h.emptied x hx hemptied
      · rw [List.mem_singleton.mp hx] at hemptied
        cases hemptied
    · obtain hmem | hmem := List.mem_append.mp hmem
      · exact h.returned hmem
      · cases List.mem_singleton.mp hmem
  | cancelled hi | asked hi =>
    exact h.ofStop hi rfl rfl rfl (.inl rfl) nofun nofun (.inl rfl)
  | joined hi =>
    exact h.ofStop hi rfl rfl rfl (.inr rfl) (fun _ => .inr (letGo_ne_idle _)) nofun (.inl rfl)
  | emptied hi =>
    exact h.ofStop hi rfl rfl rfl (.inl rfl) (fun _ => .inl rfl) nofun (.inl rfl)
  | concluded hi =>
    exact h.ofStop hi rfl rfl rfl (.inl rfl) (fun _ => .inl rfl)
      (fun _ => ListenerStatus.isFinal_advance_terminated _) (.inr rfl)

/-- A move takes the status a step along, or leaves it. -/
theorem Standing.goesTo (h : s.Standing) (step : Step s s') :
    s'.status = s.status ∨ s.status.GoesTo s'.status := by
  cases step with
  | failed hl =>
    have hbegun : s.loop ≠ .absent := by
      rw [hl]
      exact nofun
    exact (ListenerStatus.advance_failed (h.begun hbegun).2).2
  | started _ hs =>
    rw [ListenerStatus.eq_notStarted_of_canBecome hs]
    exact .inr .start
  | concluded => exact ListenerStatus.advance_terminated _
  | _ => exact .inl rfl

/-- A status that is final stays. -/
theorem Step.status_of_isFinal (step : Step s s') (h : s.status.isFinal = true) :
    s'.status = s.status := by
  cases step with
  | failed | concluded => exact ListenerStatus.advance_of_isFinal h _
  | started _ hs =>
    rw [ListenerStatus.eq_notStarted_of_canBecome hs] at h
    cases h
  | _ => rfl

/-- When nobody can start any more, nobody does. -/
theorem Step.countP_of_ne_idle (step : Step s s') (h : s.acceptor ≠ .idle) :
    s'.acceptor ≠ .idle ∧
      s'.starts.countP Launch.hasSucceeded = s.starts.countP Launch.hasSucceeded := by
  cases step with
  | started ha => exact absurd ha h
  | dropped => exact ⟨nofun, rfl⟩
  | refused =>
    refine ⟨letGo_ne_idle _, ?_⟩
    rw [List.countP_append]
    rfl
  | filed hi => exact ⟨h, countP_set_succeeded hi⟩
  | joined => exact ⟨letGo_ne_idle _, rfl⟩
  | _ => exact ⟨h, rfl⟩

/-! ## What the loop has taken -/

/-- What the loop has taken, and which of it has a handshake. -/
inductive Taking (s : Record) : Prop
  /-- It goes on, or has not begun. All errors have passed. -/
  | going (hloop : s.loop.isGoing = true) (htaken : ∀ r ∈ s.taken, isHarmless r = true)
      (hstranded : s.stranded = []) (hobserved : s.observed = false)
  /-- It has seen its token cancelled. All errors have passed. -/
  | observed (hloop : s.loop.hasLeft = true) (htaken : ∀ r ∈ s.taken, isHarmless r = true)
      (hstranded : s.stranded = []) (hobserved : s.observed = true)
  /-- It has broken down over the last connection that it took. -/
  | broken {before : List (Except SystemError ConnectionId)} {c : ConnectionId}
      (hloop : s.loop.hasLeft = true) (htaken : s.taken = before ++ [.ok c])
      (hbefore : ∀ r ∈ before, isHarmless r = true) (hstranded : s.stranded = [c])
      (hobserved : s.observed = false)
  /-- The last result that it took is an error that does not pass. -/
  | failed {before : List (Except SystemError ConnectionId)} {e : SystemError}
      (hloop : s.loop.isGoing = false) (htaken : s.taken = before ++ [.error e])
      (hbefore : ∀ r ∈ before, isHarmless r = true) (he : e.isTransient = false)
      (hstranded : s.stranded = []) (hobserved : s.observed = false)
      (hfound : s.loop.hasAsked = true → s.found.isSome = true)

/-- A loop that goes on has met nothing that would end it. -/
theorem Taking.of_isGoing (h : s.Taking) (hloop : s.loop.isGoing = true) :
    (∀ r ∈ s.taken, isHarmless r = true) ∧ s.stranded = [] ∧ s.observed = false := by
  cases h with
  | going _ htaken hstranded hobserved => exact ⟨htaken, hstranded, hobserved⟩
  | observed hleft | broken hleft =>
    rw [LoopStage.isGoing_of_hasLeft hleft] at hloop
    cases hloop
  | failed hover =>
    rw [hover] at hloop
    cases hloop

/-- The loop comes closer to its end, or goes on, and takes nothing. -/
theorem Taking.ofLoop (h : s.Taking) (hgoing : s'.loop.isGoing = s.loop.isGoing)
    (hleft : s.loop.hasLeft = true → s'.loop.hasLeft = true)
    (hasked : s'.loop.hasAsked = true → s.loop.hasAsked = true ∨ s'.found.isSome = true)
    (hfound : s.found.isSome = true → s'.found.isSome = true) (htaken : s'.taken = s.taken)
    (hstranded : s'.stranded = s.stranded) (hobserved : s'.observed = s.observed) : s'.Taking := by
  cases h with
  | going hloop hharmless hnone hnot =>
    exact .going (hgoing.trans hloop) (htaken ▸ hharmless) (hstranded.trans hnone)
      (hobserved.trans hnot)
  | observed hloop hharmless hnone hseen =>
    exact .observed (hleft hloop) (htaken ▸ hharmless) (hstranded.trans hnone)
      (hobserved.trans hseen)
  | broken hloop hlast hbefore hone hnot =>
    exact .broken (hleft hloop) (htaken.trans hlast) hbefore (hstranded.trans hone)
      (hobserved.trans hnot)
  | failed hloop hlast hbefore he hnone hnot hthere =>
    exact .failed (hgoing.trans hloop) (htaken.trans hlast) hbefore he (hstranded.trans hnone)
      (hobserved.trans hnot) fun hasks => (hasked hasks).elim (fun ha => hfound (hthere ha)) id

/-- One more harmless result leaves all of them harmless. -/
theorem mem_concat_harmless {taken : List (Except SystemError ConnectionId)}
    {result : Except SystemError ConnectionId} (htaken : ∀ r ∈ taken, isHarmless r = true)
    (hresult : isHarmless result = true) : ∀ r ∈ taken ++ [result], isHarmless r = true :=
  fun r hr => (List.mem_append.mp hr).elim (htaken r) fun hlast =>
    List.mem_singleton.mp hlast ▸ hresult

/-- A step keeps what the loop takes in agreement with where it stands. -/
theorem Taking.step (h : s.Taking) (hs : s.Standing) (step : Step s s') : s'.Taking := by
  cases step with
  | calm | refused | filed | called | cancelled | asked | joined | emptied | concluded =>
    exact h.ofLoop rfl id .inl id rfl rfl rfl
  | observed hl =>
    obtain ⟨htaken, hstranded, -⟩ := h.of_isGoing (hl ▸ rfl)
    exact .observed rfl htaken hstranded rfl
  | passed hl he =>
    obtain ⟨htaken, hstranded, hobserved⟩ := h.of_isGoing (hl ▸ rfl)
    exact .going (hl ▸ rfl) (mem_concat_harmless htaken he) hstranded hobserved
  | dispatched hl =>
    obtain ⟨htaken, hstranded, hobserved⟩ := h.of_isGoing (hl ▸ rfl)
    exact .going rfl (mem_concat_harmless htaken rfl) hstranded hobserved
  | stranded hl =>
    obtain ⟨htaken, hstranded, hobserved⟩ := h.of_isGoing (hl ▸ rfl)
    exact .broken rfl rfl htaken (congrArg (· ++ _) hstranded) hobserved
  | met hl he =>
    obtain ⟨htaken, hstranded, hobserved⟩ := h.of_isGoing (hl ▸ rfl)
    exact .failed rfl rfl htaken he hstranded hobserved nofun
  | spawned hl | noted hl =>
    exact h.ofLoop (by rw [hl]; rfl) (by rw [hl]; nofun) nofun id rfl rfl rfl
  | failed hl => exact h.ofLoop (by rw [hl]; rfl) (by rw [hl]; nofun) nofun id rfl rfl rfl
  | blamed hl =>
    refine h.ofLoop ?_ (by rw [hl]; nofun) (fun _ => .inr rfl) (fun _ => rfl) rfl rfl rfl
    rw [hl]
    dsimp only
    split <;> rfl
  | raised hl =>
    exact h.ofLoop (by rw [hl]; rfl) (fun _ => rfl) (fun _ => .inl (hl ▸ rfl)) id rfl rfl rfl
  | dropped hl =>
    exact h.ofLoop (by rw [hl]; rfl) (fun _ => rfl) (fun _ => .inl (hl ▸ rfl)) id rfl rfl rfl
  | started ha =>
    have habsent : s.loop = .absent := by
      by_contra hne
      exact (hs.begun hne).1 ha
    exact h.ofLoop (by rw [habsent]; rfl) (by rw [habsent]; nofun) nofun id rfl rfl rfl

/-- All but the last result that was taken let the loop go on. -/
theorem Taking.harmless (h : s.Taking) : ∀ r ∈ s.taken.dropLast, isHarmless r = true := by
  cases h with
  | going _ htaken | observed _ htaken =>
    exact fun r hr => htaken r (List.dropLast_subset _ hr)
  | broken _ htaken hbefore | failed _ htaken hbefore =>
    rw [htaken, List.dropLast_concat]
    exact hbefore

/-- When an error was taken that does not pass, it was the last result that was taken. -/
theorem Taking.of_mem (h : s.Taking) {e : SystemError} (hmem : .error e ∈ s.taken)
    (he : e.isTransient = false) : s.loop.isGoing = false ∧ s.stranded = [] ∧
      (s.loop.hasAsked = true → s.found.isSome = true) := by
  have habsurd {taken : List (Except SystemError ConnectionId)} {P : Prop}
      (htaken : ∀ r ∈ taken, isHarmless r = true) (hm : .error e ∈ taken) : P := by
    have hharmless : e.isTransient = true := htaken _ hm
    rw [he] at hharmless
    cases hharmless
  cases h with
  | going _ htaken | observed _ htaken => exact habsurd htaken hmem
  | broken _ htaken hbefore =>
    rw [htaken] at hmem
    obtain hmem | hmem := List.mem_append.mp hmem
    · exact habsurd hbefore hmem
    · cases List.mem_singleton.mp hmem
  | failed hloop _ _ _ hstranded _ hfound => exact ⟨hloop, hstranded, hfound⟩

/-- The connections that were taken are those that have a handshake and the one over which the
loop has broken down. -/
def Served (s : Record) : Prop :=
  s.origins.map Prod.fst ++ s.stranded = s.taken.filterMap Except.toOption

/-- After a step, what was taken still has a handshake or is stranded. -/
theorem Served.step (h : s.Served) (ht : s.Taking) (step : Step s s') : s'.Served := by
  unfold Served at h ⊢
  cases step with
  | passed | met =>
    rw [List.filterMap_append]
    exact h.trans (List.append_nil _).symm
  | dispatched hl =>
    obtain ⟨-, hstranded, -⟩ := ht.of_isGoing (hl ▸ rfl)
    rw [hstranded, List.append_nil] at h
    dsimp only
    rw [hstranded, List.append_nil, List.map_append, List.filterMap_append, h]
    rfl
  | stranded hl =>
    dsimp only
    rw [← List.append_assoc, h, List.filterMap_append]
    rfl
  | _ => exact h

/-- When the loop does not go on, it does not go on for ever, and takes nothing more. -/
theorem Step.taken_of_isGoing (step : Step s s') (hs : s.Standing) (h : s.loop.isGoing = false) :
    s'.loop.isGoing = false ∧ s'.taken = s.taken ∧ s'.origins = s.origins := by
  cases step with
  | observed hl | passed hl | dispatched hl | stranded hl | met hl | spawned hl | noted hl =>
    rw [hl] at h
    cases h
  | started ha =>
    have hne : s.loop ≠ .absent := by
      intro habsent
      rw [habsent] at h
      cases h
    exact absurd ha (hs.begun hne).1
  | blamed =>
    refine ⟨?_, rfl, rfl⟩
    dsimp only
    split <;> rfl
  | failed | raised | dropped => exact ⟨rfl, rfl, rfl⟩
  | _ => exact ⟨h, rfl, rfl⟩

/-- An error that passes leaves no trace. -/
theorem Step.eq_of_isTransient (step : Step s s') {e : SystemError} (he : e.isTransient = true)
    (htaken : s'.taken = s.taken ++ [.error e]) : s' = { s with taken := s.taken ++ [.error e] } := by
  cases step with
  | passed =>
    cases (List.append_cancel_left htaken)
    rfl
  | dispatched | stranded => cases (List.append_cancel_left htaken)
  | met _ hfatal =>
    cases (List.append_cancel_left htaken)
    rw [he] at hfatal
    cases hfatal
  | _ => exact absurd htaken (by simp)

end Record

end Listener

end Diameter
