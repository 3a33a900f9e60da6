import Diameter.Connection.Stream
import Mathlib.Data.List.Induction

/-!
# What becomes of a connection over a stream

Calls come in any order. TLS may fail to be negotiated, or be given up on the way, and the system
may refuse to send at any time. What a call does to the phase of the stream is looked at once, for
every call and every phase; what a run of calls does follows from it by induction on the run. Main
statement: the stream goes from the clear to TLS and from either to its end, and never back. TLS is
there exactly from a negotiation that succeeded up to the first close. The end has come exactly if
somebody closed the connection, or TLS failed or was given up; from then on nothing changes any
more. The stream is shut down at most once, by a close that found it open.
-/

namespace Diameter

/-- Where one call can take a stream. -/
inductive StreamPhase.GoesTo : StreamPhase → StreamPhase → Prop
  /-- TLS was negotiated. -/
  | secured : GoesTo .clear .tls
  /-- The stream was closed before. -/
  | closedInClear : GoesTo .clear .closed
  /-- The stream was closed after. -/
  | closedUnderTls : GoesTo .tls .closed

namespace StreamConnection

/-- What can be called. -/
inductive Call where
  | handshake (negotiation : Negotiation)
  | receive
  | send (bs : Octets) (failure : Option SystemError)
  | close
  deriving DecidableEq, Repr

/-- The connection after a call. -/
def perform (c : StreamConnection) : Call → StreamConnection
  | .handshake negotiation => (c.handshake negotiation).2
  | .receive => c.receive.2
  | .send bs failure => (c.send bs failure).2
  | .close => c.close

/-- The connection after a run of calls. -/
def after (c : StreamConnection) (calls : List Call) : StreamConnection := calls.foldl perform c

/-- A negotiation that is told to have succeeded. -/
def Secures (c : StreamConnection) : Call → Prop
  | .handshake negotiation => (c.handshake negotiation).1 = some (.ok ())
  | .receive | .send .. | .close => False

/-- A close, or a negotiation that is told to have failed or of which nothing is told. -/
def Closes (c : StreamConnection) : Call → Prop
  | .handshake negotiation => (c.handshake negotiation).1 = none ∨
    ∃ cause, (c.handshake negotiation).1 = some (.error (.tls cause))
  | .close => True
  | .receive | .send .. => False

/-- What a connection comes to in a run of calls. -/
structure Lawful (c : StreamConnection) (calls : List Call) : Prop where
  /-- One more call leaves the stream where it is, or takes it forward. -/
  moves : ∀ call, (c.after (calls ++ [call])).phase = (c.after calls).phase ∨
    (c.after calls).phase.GoesTo (c.after (calls ++ [call])).phase
  /-- A closed connection stays as it is for ever. -/
  final : (c.after calls).isClosed = true → ∀ more, c.after (calls ++ more) = c.after calls
  /-- It neither receives nor sends nor goes over to TLS. -/
  refuses : (c.after calls).isClosed = true →
    (c.after calls).receive.1 = .error .closed ∧
      (∀ bs failure, ((c.after calls).send bs failure).1 = .error .closed) ∧
      ∀ negotiation, ((c.after calls).handshake negotiation).1 ≠ some (.ok ())
  /-- A negotiation that starts and does not succeed is no success, and closes the connection. -/
  failed : c.secured = true → (c.after calls).phase = .clear → ∀ negotiation ≠ .succeeded,
    ((c.after calls).handshake negotiation).1 ≠ some (.ok ()) ∧
      ((c.after calls).handshake negotiation).2.isClosed = true
  /-- Whoever is told that there is no TLS finds the connection as it was. -/
  unavailable : ∀ negotiation,
    ((c.after calls).handshake negotiation).1 = some (.error .tlsUnavailable) →
      ((c.after calls).handshake negotiation).2 = c.after calls
  /-- TLS is there from a negotiation that succeeded, as long as nobody closes the connection. -/
  tls_iff : (c.after calls).isTls = true ↔ ∃ earlier call later,
    calls = earlier ++ call :: later ∧ (c.after earlier).Secures call ∧ .close ∉ later
  /-- A connection is closed by a close, or by a negotiation without success. -/
  closed_iff : (c.after calls).isClosed = true ↔ ∃ earlier call later,
    calls = earlier ++ call :: later ∧ (c.after earlier).Closes call
  /-- The stream is shut down at most once. -/
  shutdowns_le : (c.after calls).shutdowns ≤ 1
  /-- It is shut down by a close that finds it open. -/
  shutdown_iff : (c.after calls).shutdowns = 1 ↔ ∃ earlier later,
    calls = earlier ++ .close :: later ∧ (c.after earlier).isClosed = false

/-- What one call does to the stream. -/
inductive Step (c : StreamConnection) (call : Call) (c' : StreamConnection) : Prop
  /-- The stream stays where it is. -/
  | kept (hphase : c'.phase = c.phase) (hshutdowns : c'.shutdowns = c.shutdowns)
      (hsecures : c.Secures call → c.phase = .tls) (hcloses : c.Closes call → c.phase = .closed)
  /-- TLS comes about. -/
  | secured (hclear : c.phase = .clear) (htls : c'.phase = .tls)
      (hshutdowns : c'.shutdowns = c.shutdowns) (hsecures : c.Secures call)
      (hopen : ¬ c.Closes call)
  /-- A negotiation has no success. -/
  | failed (hclear : c.phase = .clear) (hclosed : c'.phase = .closed)
      (hshutdowns : c'.shutdowns = c.shutdowns) (hsecures : ¬ c.Secures call)
      (hcloses : c.Closes call) (hcall : call ≠ .close)
  /-- Somebody closes the connection. -/
  | closed (hopen : c.phase ≠ .closed) (hcall : call = .close) (hclosed : c'.phase = .closed)
      (hshutdowns : c'.shutdowns = c.shutdowns + 1)

/-! ## One call -/

variable {c : StreamConnection} {call : Call}

theorem isClosed_iff : c.isClosed = true ↔ c.phase = .closed := beq_iff_eq

theorem isTls_iff : c.isTls = true ↔ c.phase = .tls := beq_iff_eq

/-- Every call takes one of four courses. -/
theorem step_perform (c : StreamConnection) (call : Call) : c.Step call (c.perform call) := by
  rcases c with ⟨phase, secured, most, patience, incoming, sent, shutdowns⟩
  cases call with
  | handshake negotiation =>
    cases secured with
    | false => exact .kept rfl rfl nofun nofun
    | true =>
      cases phase with
      | closed => exact .kept rfl rfl nofun nofun
      | tls => exact .kept rfl rfl (fun _ => rfl) nofun
      | clear =>
        cases negotiation with
        | succeeded => exact .secured rfl rfl rfl rfl nofun
        | failed cause => exact .failed rfl rfl rfl nofun (.inr ⟨cause, rfl⟩) nofun
        | abandoned => exact .failed rfl rfl rfl nofun (.inl rfl) nofun
  | receive => cases phase <;> exact .kept rfl rfl nofun nofun
  | send bs failure => cases phase <;> cases failure <;> exact .kept rfl rfl nofun nofun
  | close =>
    cases phase with
    | closed => exact .kept rfl rfl nofun fun _ => rfl
    | clear => exact .closed nofun rfl rfl rfl
    | tls => exact .closed nofun rfl rfl rfl

/-- The credentials are given once. -/
theorem secured_perform (c : StreamConnection) (call : Call) :
    (c.perform call).secured = c.secured := by
  rcases c with ⟨phase, secured, most, patience, incoming, sent, shutdowns⟩
  cases call with
  | handshake negotiation => cases secured <;> cases phase <;> cases negotiation <;> rfl
  | receive => cases phase <;> rfl
  | send bs failure => cases phase <;> cases failure <;> rfl
  | close => cases phase <;> rfl

/-- On a closed connection no call does anything. -/
theorem perform_of_closed (h : c.phase = .closed) (call : Call) : c.perform call = c := by
  rcases c with ⟨phase, secured, most, patience, incoming, sent, shutdowns⟩
  subst h
  cases call with
  | handshake negotiation => cases secured <;> rfl
  | receive => rfl
  | send bs failure => rfl
  | close => rfl

namespace Step

variable {c' : StreamConnection}

/-- Every call leaves the phase or takes it one of the allowed ways. -/
theorem moves (h : c.Step call c') : c'.phase = c.phase ∨ c.phase.GoesTo c'.phase := by
  cases h with
  | kept hphase => exact .inl hphase
  | secured hclear htls =>
    rw [hclear, htls]
    exact .inr .secured
  | failed hclear hclosed =>
    rw [hclear, hclosed]
    exact .inr .closedInClear
  | closed hopen hcall hclosed =>
    rw [hclosed]
    cases hphase : c.phase with
    | clear => exact .inr .closedInClear
    | tls => exact .inr .closedUnderTls
    | closed => exact absurd hphase hopen

/-- TLS is there if it has come about, or was there and is not given up. -/
theorem isTls_iff (h : c.Step call c') :
    c'.isTls = true ↔ c.Secures call ∨ c.isTls = true ∧ call ≠ .close := by
  rw [StreamConnection.isTls_iff, StreamConnection.isTls_iff]
  cases h with
  | kept hphase hshutdowns hsecures hcloses =>
    rw [hphase]
    constructor
    · intro htls
      refine .inr ⟨htls, ?_⟩
      rintro rfl
      cases htls.symm.trans (hcloses trivial)
    · rintro (h | ⟨htls, -⟩)
      · exact hsecures h
      · exact htls
  | secured hclear htls hshutdowns hsecures => exact iff_of_true htls (.inl hsecures)
  | failed hclear hclosed hshutdowns hsecures =>
    rw [hclear, hclosed]
    exact iff_of_false nofun fun h => h.elim hsecures fun h => nomatch h.1
  | closed hopen hcall hclosed =>
    subst hcall
    rw [hclosed]
    exact iff_of_false nofun fun h => h.elim id fun h => h.2 rfl

/-- A connection is closed if the call closes it, or if it was closed. -/
theorem isClosed_iff (h : c.Step call c') :
    c'.isClosed = true ↔ c.Closes call ∨ c.isClosed = true := by
  rw [StreamConnection.isClosed_iff, StreamConnection.isClosed_iff]
  cases h with
  | kept hphase hshutdowns hsecures hcloses =>
    rw [hphase]
    exact ⟨.inr, fun h => h.elim hcloses id⟩
  | secured hclear htls hshutdowns hsecures hopen =>
    rw [hclear, htls]
    exact iff_of_false nofun fun h => h.elim hopen nofun
  | failed hclear hclosed hshutdowns hsecures hcloses => exact iff_of_true hclosed (.inl hcloses)
  | closed hopen hcall hclosed =>
    subst hcall
    exact iff_of_true hclosed (.inl trivial)

/-- Only a close that finds the connection open shuts the stream down, and closes it. -/
theorem shutdowns_cases (h : c.Step call c') :
    (call = .close ∧ c.phase ≠ .closed) ∧ c'.phase = .closed ∧ c'.shutdowns = c.shutdowns + 1 ∨
      ¬ (call = .close ∧ c.phase ≠ .closed) ∧ c'.shutdowns = c.shutdowns := by
  cases h with
  | kept hphase hshutdowns hsecures hcloses =>
    refine .inr ⟨?_, hshutdowns⟩
    rintro ⟨rfl, hopen⟩
    exact hopen (hcloses trivial)
  | secured hclear htls hshutdowns hsecures hopen =>
    refine .inr ⟨?_, hshutdowns⟩
    rintro ⟨rfl, -⟩
    exact hopen trivial
  | failed hclear hclosed hshutdowns hsecures hcloses hcall =>
    exact .inr ⟨fun h => hcall h.1, hshutdowns⟩
  | closed hopen hcall hclosed hshutdowns => exact .inl ⟨⟨hcall, hopen⟩, hclosed, hshutdowns⟩

/-- A stream has been shut down if the call does so, or if it had been before. -/
theorem shutdowns_pos_iff (h : c.Step call c') :
    0 < c'.shutdowns ↔ (call = .close ∧ c.isClosed = false) ∨ 0 < c.shutdowns := by
  rw [← Bool.not_eq_true, StreamConnection.isClosed_iff]
  rcases h.shutdowns_cases with ⟨hshuts, -, heq⟩ | ⟨hnot, heq⟩
  · rw [heq]
    exact iff_of_true (Nat.succ_pos _) (.inl hshuts)
  · rw [heq]
    exact ⟨.inr, fun h => h.resolve_left hnot⟩

/-- A stream that has been shut down once is closed, so it is not shut down again. -/
theorem spent (h : c.Step call c')
    (hc : c.shutdowns = 0 ∨ c.shutdowns = 1 ∧ c.phase = .closed) :
    c'.shutdowns = 0 ∨ c'.shutdowns = 1 ∧ c'.phase = .closed := by
  rcases h.shutdowns_cases with ⟨⟨-, hopen⟩, hclosed, heq⟩ | ⟨-, heq⟩
  · rcases hc with hzero | ⟨-, hc⟩
    · exact .inr ⟨by rw [heq, hzero], hclosed⟩
    · exact absurd hc hopen
  · rw [heq]
    refine hc.imp_right fun ⟨hone, hc⟩ => ⟨hone, ?_⟩
    exact h.moves.elim (fun hsame => hsame.trans hc) fun hgoes => by
      rw [hc] at hgoes
      cases hgoes

end Step

/-! ## Runs of calls -/

theorem after_append (c : StreamConnection) (calls more : List Call) :
    c.after (calls ++ more) = (c.after calls).after more := List.foldl_append

theorem after_snoc (c : StreamConnection) (calls : List Call) (call : Call) :
    c.after (calls ++ [call]) = (c.after calls).perform call := List.foldl_append

/-- What a call brings about, and other calls keep, is there after a run exactly if it was brought
about at some point and has been kept since. The call in question is the last one, or one of those
before. -/
theorem after_iff_of_step {P : StreamConnection → Prop}
    {begins : StreamConnection → Call → Prop} {keeps : Call → Prop} (hstart : ¬ P c)
    (hstep : ∀ c call, P (c.perform call) ↔ begins c call ∨ P c ∧ keeps call)
    (calls : List Call) : P (c.after calls) ↔ ∃ earlier call later,
      calls = earlier ++ call :: later ∧ begins (c.after earlier) call ∧
        ∀ call ∈ later, keeps call := by
  induction calls using List.reverseRecOn with
  | nil =>
    refine iff_of_false hstart ?_
    rintro ⟨earlier, call, later, hsplit, -⟩
    exact List.append_ne_nil_of_right_ne_nil earlier (List.cons_ne_nil call later) hsplit.symm
  | append_singleton calls last ih =>
    rw [after_snoc, hstep, ih]
    constructor
    · rintro (hbegins | ⟨⟨earlier, call, later, rfl, hbegins, hkept⟩, hkeeps⟩)
      · exact ⟨calls, last, [], rfl, hbegins, nofun⟩
      · refine ⟨earlier, call, later ++ [last], by simp, hbegins, ?_⟩
        exact List.forall_mem_append.mpr ⟨hkept, List.forall_mem_singleton.mpr hkeeps⟩
    · rintro ⟨earlier, call, later, hsplit, hbegins, hkept⟩
      cases later using List.reverseRecOn with
      | nil =>
        obtain ⟨rfl, hlast⟩ := List.append_inj' hsplit rfl
        obtain rfl := List.singleton_inj.mp hlast
        exact .inl hbegins
      | append_singleton later last' =>
        rw [← List.cons_append, ← List.append_assoc] at hsplit
        obtain ⟨rfl, hlast⟩ := List.append_inj' hsplit rfl
        obtain rfl := List.singleton_inj.mp hlast
        obtain ⟨hkept, hkeeps⟩ := List.forall_mem_append.mp hkept
        exact .inr ⟨⟨earlier, call, later, rfl, hbegins, hkept⟩,
          hkeeps _ (List.mem_singleton_self _)⟩

/-- So it is with what no call can undo. -/
theorem after_iff_of_lasting {P : StreamConnection → Prop}
    {begins : StreamConnection → Call → Prop} (hstart : ¬ P c)
    (hstep : ∀ c call, P (c.perform call) ↔ begins c call ∨ P c) (calls : List Call) :
    P (c.after calls) ↔ ∃ earlier call later,
      calls = earlier ++ call :: later ∧ begins (c.after earlier) call := by
  rw [after_iff_of_step hstart fun c call => (hstep c call).trans
    (or_congr_right (and_iff_left trivial).symm)]
  simp only [implies_true, and_true]

/-- What a connection was set up with does not change. -/
theorem secured_after (c : StreamConnection) (calls : List Call) :
    (c.after calls).secured = c.secured := by
  induction calls using List.reverseRecOn with
  | nil => rfl
  | append_singleton calls call ih => rw [after_snoc, secured_perform, ih]

/-- No call changes a closed connection. -/
theorem after_of_closed (h : c.phase = .closed) (calls : List Call) : c.after calls = c := by
  induction calls with
  | nil => rfl
  | cons call calls ih =>
    show (c.perform call).after calls = c
    rw [perform_of_closed h, ih]

/-- A connection was not shut down yet, or once, and then it is closed. -/
theorem spent_after (hstart : c.shutdowns = 0) (calls : List Call) :
    (c.after calls).shutdowns = 0 ∨
      (c.after calls).shutdowns = 1 ∧ (c.after calls).phase = .closed := by
  induction calls using List.reverseRecOn with
  | nil => exact .inl hstart
  | append_singleton calls call ih =>
    rw [after_snoc]
    exact (step_perform _ call).spent ih

/-- No run of calls shuts a connection down twice. -/
theorem shutdowns_le_after (hstart : c.shutdowns = 0) (calls : List Call) :
    (c.after calls).shutdowns ≤ 1 := by
  rcases spent_after hstart calls with hzero | ⟨hone, -⟩
  · exact Nat.le_trans (Nat.le_of_eq hzero) (Nat.zero_le 1)
  · exact Nat.le_of_eq hone

/-- A connection is secured exactly if a call has secured it and none has closed it since. -/
theorem isTls_after (hstart : c.isTls = false) (calls : List Call) :
    (c.after calls).isTls = true ↔ ∃ earlier call later, calls = earlier ++ call :: later ∧
      (c.after earlier).Secures call ∧ .close ∉ later := by
  rw [after_iff_of_step (P := fun c => c.isTls = true) (ne_true_of_eq_false hstart)
    fun c call => (step_perform c call).isTls_iff]
  simp only [List.forall_mem_ne']

/-- A connection is closed exactly if one of the calls has closed it. -/
theorem isClosed_after (hstart : c.isClosed = false) (calls : List Call) :
    (c.after calls).isClosed = true ↔ ∃ earlier call later, calls = earlier ++ call :: later ∧
      (c.after earlier).Closes call :=
  after_iff_of_lasting (P := fun c => c.isClosed = true) (ne_true_of_eq_false hstart)
    (fun c call => (step_perform c call).isClosed_iff) calls

/-- A connection was shut down exactly if `close` was called while it was not closed. -/
theorem shutdowns_after (hstart : c.shutdowns = 0) (calls : List Call) :
    (c.after calls).shutdowns = 1 ↔ ∃ earlier later,
      calls = earlier ++ .close :: later ∧ (c.after earlier).isClosed = false := by
  have hle := shutdowns_le_after hstart calls
  rw [show (c.after calls).shutdowns = 1 ↔ 0 < (c.after calls).shutdowns by omega,
    after_iff_of_lasting (P := fun c => 0 < c.shutdowns) (Nat.not_lt_of_le (Nat.le_of_eq hstart))
      (fun c call => (step_perform c call).shutdowns_pos_iff)]
  constructor
  · rintro ⟨earlier, _, later, hsplit, rfl, hopen⟩
    exact ⟨earlier, later, hsplit, hopen⟩
  · rintro ⟨earlier, later, hsplit, hopen⟩
    exact ⟨earlier, .close, later, hsplit, rfl, hopen⟩

/-! ## What is told -/

/-- A negotiation that starts and does not succeed. -/
theorem handshake_of_clear (hs : c.secured = true) (hc : c.phase = .clear)
    {negotiation : Negotiation} (hn : negotiation ≠ .succeeded) :
    (c.handshake negotiation).1 ≠ some (.ok ()) ∧ (c.handshake negotiation).2.isClosed = true := by
  rcases c with ⟨phase, secured, most, patience, incoming, sent, shutdowns⟩
  subst hs hc
  cases negotiation with
  | succeeded => exact absurd rfl hn
  | failed cause => exact ⟨nofun, rfl⟩
  | abandoned => exact ⟨nofun, rfl⟩

/-- Only without credentials one is told that there is no TLS. -/
theorem handshake_of_unavailable {negotiation : Negotiation}
    (h : (c.handshake negotiation).1 = some (.error .tlsUnavailable)) :
    (c.handshake negotiation).2 = c := by
  rcases c with ⟨phase, secured, most, patience, incoming, sent, shutdowns⟩
  cases secured with
  | false => rfl
  | true => cases phase <;> cases negotiation <;> cases h

/-- A closed connection neither receives nor sends, and no negotiation secures it. -/
theorem refuses_of_closed (h : c.phase = .closed) :
    c.receive.1 = .error .closed ∧ (∀ bs failure, (c.send bs failure).1 = .error .closed) ∧
      ∀ negotiation, (c.handshake negotiation).1 ≠ some (.ok ()) := by
  rcases c with ⟨phase, secured, most, patience, incoming, sent, shutdowns⟩
  subst h
  refine ⟨rfl, fun bs failure => rfl, fun negotiation => ?_⟩
  cases secured <;> exact nofun

/-- A connection that was just accepted keeps these laws, whatever is called on it. -/
theorem lawful_new (secured : Bool) (maxMessageSize : Nat) (patience : Patience)
    (incoming : Deliveries) (calls : List Call) :
    (new secured maxMessageSize patience incoming).Lawful calls where
  moves call := by
    rw [after_snoc]
    exact (step_perform _ call).moves
  final hclosed more := by
    rw [after_append]
    exact after_of_closed (isClosed_iff.mp hclosed) more
  refuses hclosed := refuses_of_closed (isClosed_iff.mp hclosed)
  failed hsecured hclear negotiation hn := by
    rw [← secured_after _ calls] at hsecured
    exact handshake_of_clear hsecured hclear hn
  unavailable _ := handshake_of_unavailable
  tls_iff := isTls_after rfl calls
  closed_iff := isClosed_after rfl calls
  shutdowns_le := shutdowns_le_after rfl calls
  shutdown_iff := shutdowns_after rfl calls

/-- A negotiation that was given up closes the connection without a shutdown. One that succeeded
lasts until somebody closes the connection, and what comes then changes nothing. -/
example :
    let c := new true 4096 [] []
    (c.after [.handshake .abandoned, .close, .handshake .succeeded]).phase = .closed ∧
      (c.after [.handshake .abandoned, .close, .handshake .succeeded]).shutdowns = 0 ∧
      (c.after [.handshake .succeeded, .send [1] none, .handshake .abandoned]).phase = .tls ∧
      (c.after [.handshake .succeeded, .send [1] none, .close, .close, .receive]).shutdowns = 1 :=
  ⟨rfl, rfl, rfl, rfl⟩

end StreamConnection

end Diameter
