import Diameter.Proofs.Listener.Ownership

/-!
# What the scheduler does is a course

Running tasks in turn, letting time pass, stopping a listener, and every step of a scenario
are lists of events. So what holds of every course holds of every run of a listener under
the virtual clock. Only a scenario does something to the event queue itself; all else consists
of events of the listener.
-/

namespace Diameter.Listener

/-- Events lead from one listener to the other. -/
def Reaches (l after : Listener) : Prop := ∃ events : List Event, events.foldl perform l = after

/-- Events of the listener alone lead from one listener to the other. -/
def Runs (l after : Listener) : Prop :=
  ∃ events : List Event, (∀ e ∈ events, e.isOwn = true) ∧ events.foldl perform l = after

namespace Reaches

theorem refl (l : Listener) : Reaches l l := ⟨[], rfl⟩

theorem trans {l m n : Listener} (hlm : Reaches l m) (hmn : Reaches m n) : Reaches l n := by
  obtain ⟨events, rfl⟩ := hlm
  obtain ⟨more, rfl⟩ := hmn
  exact ⟨events ++ more, List.foldl_append⟩

theorem event (l : Listener) (e : Event) : Reaches l (l.perform e) := ⟨[e], rfl⟩

end Reaches

namespace Runs

theorem refl (l : Listener) : Runs l l := ⟨[], fun _ he => (by cases he), rfl⟩

theorem trans {l m n : Listener} (hlm : Runs l m) (hmn : Runs m n) : Runs l n := by
  obtain ⟨events, hevents, rfl⟩ := hlm
  obtain ⟨more, hmore, rfl⟩ := hmn
  refine ⟨events ++ more, fun e he => ?_, List.foldl_append⟩
  obtain he | he := List.mem_append.mp he
  · exact hevents e he
  · exact hmore e he

theorem event (l : Listener) (e : Event) (he : e.isOwn = true) : Runs l (l.perform e) :=
  ⟨[e], fun _ hm => List.mem_singleton.mp hm ▸ he, rfl⟩

/-- One run after the other is a run. -/
theorem foldl {α : Type} {f : Listener → α → Listener} (hf : ∀ l x, Runs l (f l x))
    (xs : List α) (l : Listener) : Runs l (xs.foldl f l) := by
  induction xs generalizing l with
  | nil => exact refl l
  | cons x xs ih => exact (hf l x).trans (ih (f l x))

/-- What a run leads to is reached. -/
theorem reaches {l after : Listener} (h : Runs l after) : Reaches l after := by
  obtain ⟨events, -, hafter⟩ := h
  exact ⟨events, hafter⟩

end Runs

/-! ## Tasks -/

theorem runs_schedule (l : Listener) (task : Task) : Runs l (l.schedule task) := by
  unfold schedule
  split
  · exact .refl l
  · exact .event l (.arrange (l.runnable ++ [task])) rfl

theorem runs_scheduleCancelled (l : Listener) : Runs l l.scheduleCancelled := by
  have hwaiting (hs : List HandshakeId) :
      Runs l (hs.foldl (fun l h => l.schedule (.handshake h)) l) :=
    Runs.foldl (fun l h => runs_schedule l (.handshake h)) hs l
  unfold scheduleCancelled
  dsimp only
  split
  · exact (hwaiting _).trans (runs_schedule _ _)
  · exact hwaiting _

/-- A loop that has its acceptor lets go of it if it is cancelled, and takes the next connection
otherwise. -/
theorem acceptSeeing_of_accepting {l : Listener} (ha : l.acceptor = .accepting)
    (cancelled : Bool) :
    l.acceptSeeing cancelled = if cancelled then l.dropAcceptor else l.acceptNext := by
  unfold acceptSeeing
  exact if_neg (not_not_intro ha)

/-- The loop looks at its token once in a turn, so all its rounds but the first overlook a
cancellation. -/
theorem runs_acceptAll {l : Listener} (ha : l.acceptor = .accepting)
    (results : List (Except SystemError ConnectionId)) : Runs l (l.acceptAll results) := by
  have hnext {l : Listener} (ha : l.acceptor = .accepting) : Runs l l.acceptNext := by
    have hround : Runs l (l.acceptSeeing false) := .event l (.accept true) rfl
    rw [acceptSeeing_of_accepting ha] at hround
    exact hround
  induction results generalizing l with
  | nil => exact hnext ha
  | cons result rest ih =>
    unfold acceptAll
    dsimp only
    split
    · rename_i hstill
      exact (hnext ha).trans (ih hstill)
    · exact hnext ha

theorem runs_runAcceptLoop (l : Listener) : Runs l l.runAcceptLoop := by
  unfold runAcceptLoop
  split
  · exact .refl l
  · rename_i ha
    have ha : l.acceptor = .accepting := Decidable.not_not.mp ha
    split
    · rename_i hcancelled
      have hround : Runs l (l.acceptSeeing (l.shutdown.isCancelled l.token)) :=
        .event l (.accept false) rfl
      rw [acceptSeeing_of_accepting ha, if_pos hcancelled] at hround
      exact hround
    · exact runs_acceptAll ha l.backlog

theorem runs_runHandshake (l : Listener) (h : HandshakeId) : Runs l (l.runHandshake h) := by
  have hpoll : Runs l (l.pollHandshake h) := .event l (.poll h false) rfl
  have hclaim (l : Listener) : Runs l (l.claim h) := .event l (.claim h) rfl
  have hclose (l : Listener) : Runs l (l.close h) := .event l (.close h) rfl
  have hraise (l : Listener) : Runs l (l.raise h) := .event l (.raise h) rfl
  have hhand (l : Listener) : Runs l (l.handOver h) := .event l (.handOver h) rfl
  have hcomplete (l : Listener) : Runs l (l.completeHandOver h) :=
    .event l (.completeHandOver h) rfl
  have hclosed := (hpoll.trans (hclaim _)).trans (hclose _)
  exact ((hclosed.trans (hraise _)).trans (hhand _)).trans (hcomplete _)

theorem runs_run (l : Listener) (task : Task) : Runs l (l.run task) := by
  cases task with
  | acceptLoop => exact runs_runAcceptLoop l
  | handshake h => exact runs_runHandshake l h

theorem runs_runFirst (l : Listener) : Runs l l.runFirst := by
  unfold runFirst
  split
  · exact .refl l
  · rename_i task rest _
    exact (Runs.event l (.arrange rest) rfl).trans (runs_run _ task)

theorem runs_settleWithin (turns : Nat) (l : Listener) : Runs l (l.settleWithin turns) := by
  induction turns generalizing l with
  | zero => exact .refl l
  | succ turns ih =>
    unfold settleWithin
    split
    · exact .refl l
    · exact (runs_runFirst l).trans (ih l.runFirst)

theorem runs_settle (l : Listener) : Runs l l.settle := runs_settleWithin _ l

/-! ## Time and stops -/

theorem runs_scheduleDue (l : Listener) : Runs l l.scheduleDue :=
  Runs.foldl (fun l h => runs_schedule l (.handshake h)) _ l

/-- The clock going on, with what is due on the way, is a run. -/
theorem runs_advanceWithin (target stops : Nat) (l : Listener) :
    Runs l (l.advanceWithin target stops) := by
  induction stops generalizing l with
  | zero => exact .event l (.clock target) rfl
  | succ stops ih =>
    unfold advanceWithin
    split
    · exact .event l (.clock target) rfl
    · rename_i time _
      have hdue := (Runs.event l (.clock time) rfl).trans (runs_scheduleDue _)
      exact (hdue.trans (runs_settle _)).trans (ih _)

/-- The clock going on to a time is a run. -/
theorem runs_advance (l : Listener) (time : Nat) : Runs l (l.advance time) :=
  (runs_settle l).trans (runs_advanceWithin _ _ _)

theorem runs_joinLoop (l : Listener) : Runs l l.joinLoop := by
  unfold joinLoop
  split
  · exact (runs_settle l).trans (.event l.settle .join rfl)
  · exact .refl l

theorem runs_joinTaken (l : Listener) (taken : List HandshakeId) :
    Runs l (l.joinTaken taken) := by
  unfold joinTaken
  split
  · exact .refl l
  · exact runs_settle l

/-- A stop in one go is a run. -/
theorem runs_stop (l : Listener) : Runs l l.stop := by
  have hcancel : Runs l l.cancelAll := .event l .cancelAll rfl
  have hdrain (l : Listener) : Runs l l.drain.2 := .event l .drain rfl
  have hconclude (l : Listener) (taken : List HandshakeId) : Runs l (l.conclude taken) :=
    .event l (.conclude taken) rfl
  have htaken := (hcancel.trans (runs_joinLoop _)).trans (hdrain _)
  exact (htaken.trans (runs_joinTaken _ _)).trans (hconclude _ _)

/-! ## Scenarios -/

/-- Something that a connection is fed with reaches what changing the connection reaches. -/
theorem reaches_feed (l : Listener) (name : String) {f : Connection → Connection}
    (hf : ∀ c, Reaches l (l.modifyConnection c f)) : Reaches l (l.feed name f).1 := by
  unfold feed
  split
  · exact .refl l
  · rename_i c _
    split
    · dsimp only
      split
      · exact (hf c).trans (runs_schedule _ _).reaches
      · exact hf c
    · exact .refl l

/-- Every action reaches what it leads to. -/
theorem reaches_act (l : Listener) (action : Action) : Reaches l (l.act action).1 := by
  cases action with
  | start =>
    have hstart : (l.act .start).1 = l.start.2 := by
      unfold act
      dsimp only
      split
      all_goals
        rename_i h
        rw [h]
    exact hstart ▸ Reaches.event l .start
  | connect name description tls => exact .event l (.connect name description tls)
  | acceptError error => exact .event l (.acceptError error)
  | dropAcceptor => exact .event l .exhaust
  | receive name result => exact reaches_feed l name fun c => .event l (.deliver c result)
  | finishInbox name => exact reaches_feed l name fun c => .event l (.finishInbox c)
  | advance time => exact (runs_advance l time).reaches
  | trigger reason => exact .event l (.trigger reason)
  | stop => exact (runs_stop l).reaches
  | popEvent discard => exact .event l (.popEvent discard)
  | clearAlarm => exact .event l .clearAlarm
  | destroyEvents => exact .event l .destroyEvents
  | settle => exact .refl l

/-- Every action, with what can go on after it, reaches what it leads to. -/
theorem reaches_step (l : Listener) (action : Action) (hold : Bool) :
    Reaches l (l.step action hold).1 := by
  have hact := (Reaches.event l .forget).trans (reaches_act _ action)
  unfold step
  dsimp only
  split
  · exact hact
  · exact hact.trans (runs_settle _).reaches

/-- Any actions in a row reach what they lead to. -/
theorem reaches_play (l : Listener) (steps : List (Action × Bool)) :
    Reaches l (l.play steps).1 := by
  induction steps generalizing l with
  | nil => exact .refl l
  | cons first rest ih => exact (reaches_step l first.1 first.2).trans (ih _)

namespace Course

/-- The listener of a course has seen all its events. -/
theorem listener_extend (k : Course) (events : List Event) :
    (k.extend events).listener = events.foldl perform k.listener := by
  induction events generalizing k with
  | nil => rfl
  | cons e events ih => exact ih (k.next e)

/-- Every scenario plays a course of the listener. -/
theorem exists_course_of_play (address : String) (transport : Transport) (security : Security)
    (terms : AcceptTerms) (surroundings : Surroundings) (steps : List (Action × Bool)) :
    ∃ events, ((start address transport security terms surroundings).extend events).listener =
      ((Listener.new address transport security terms surroundings).play steps).1 := by
  obtain ⟨events, hevents⟩ :=
    reaches_play (Listener.new address transport security terms surroundings) steps
  exact ⟨events, (listener_extend _ events).trans hevents⟩

end Course

end Diameter.Listener
