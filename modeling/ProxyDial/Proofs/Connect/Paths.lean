import ProxyDial.Proofs.Session.Socket
import ProxyDial.Proofs.Time.Allowance
import ProxyDial.TimedConnect

/-!
# The ways of a timed connect

A timed connect looks its candidates up (`ConnectRequest.Finds`) and walks over them
(`Op.Connects`).  `ConnectRequest.Leads` lists the ways that this can take, each with
its result and the session that it leaves behind, and `leads_run` says that there are
no others.  So what holds at the end of each way holds at the end of every run.

*Rounds.*  In each state a timed connect does what is due and goes on with the next one
(`TimedConnect.drive_start` and so on), so from its beginning it does all that in turn
(`TimedConnect.drive_prepare`).
-/

namespace ProxyDial

/-! ## Rounds -/

namespace TimedConnect

theorem drive_eq (op : TimedConnect) : op.drive = (do
    match ← op.round with
    | none => return ()
    | some next => next.1.drive) := by
  rw [drive, Attempt.loop_eq]
  congr 1
  funext next
  cases next <;> rfl

variable (q : ConnectRequest) (r : Resolver) (candidates : List Endpoint)

theorem drive_start : drive ⟨q, r, .start, candidates⟩ = (do
    q.step .start .resolving
    drive ⟨q, r, .resolving, candidates⟩) := by
  rw [drive_eq]
  simp [round, advance]

theorem drive_resolving : drive ⟨q, r, .resolving, candidates⟩ = (do
    let candidates ← q.candidates r
    Op.record (.resolved q.host candidates)
    Op.armTimer q.timeout
    q.step .resolving .connecting
    drive ⟨q, r, .connecting, candidates⟩) := by
  rw [drive_eq]
  simp [round, resolve, advance]

theorem drive_connecting : drive ⟨q, r, .connecting, candidates⟩ = (do
    q.connectTo candidates
    q.step .connecting .done
    drive ⟨q, r, .done, []⟩) := by
  rw [drive_eq]
  simp [round, connect, advance]

theorem drive_done : drive ⟨q, r, .done, candidates⟩ = pure () := by
  rw [drive_eq]
  simp [round]

theorem drive_prepare : (prepare q r).drive = (do
    q.step .start .resolving
    let candidates ← q.candidates r
    Op.record (.resolved q.host candidates)
    Op.armTimer q.timeout
    q.step .resolving .connecting
    q.connectTo candidates
    q.step .connecting .done) := by
  simp only [prepare, drive_start, drive_resolving, drive_connecting, drive_done]
  simp

end TimedConnect

namespace ConnectRequest

variable (q : ConnectRequest) (r : Resolver)

/-- The instant at which a lookup that begins at `now` is given up. -/
def resolveLimit (now : Nat) : Option Nat := q.resolveTimeout.map (Deadline.cutoff now)

/-- The instant at which a walk over candidates that begins at `now` is given up. -/
def connectLimit (now : Nat) : Option Nat := (Deadline.after now q.timeout).map Deadline.due

/-- The lookup of the host. -/
def lookup : Lookup := r.lookup q.host q.port q.family

/-! ## Looking up -/

/-- How the lookup of the candidates ends. -/
inductive Finds (s : Session) : Option (Except DialError (List Endpoint)) × Session → Prop where
  | never {s' : Session}
      (ha : Op.Answers (q.lookup r).answer s (q.lookup r).delay (q.resolveLimit s.clock)
        (none, s')) :
      Finds s (none, s')
  | late {s' : Session} {timeout : Duration} (ht : q.resolveTimeout = some timeout)
      (ha : Op.Answers (q.lookup r).answer s (q.lookup r).delay (q.resolveLimit s.clock)
        (some none, s')) :
      Finds s (some (.error (.timedOut .resolve timeout)), s')
  | failed {s' : Session} {e : DialError}
      (ha : Op.Answers (q.lookup r).answer s (q.lookup r).delay (q.resolveLimit s.clock)
        (some (some (.error e)), s')) :
      Finds s (some (.error e), s')
  | noCandidate {s' : Session} {endpoints : List Endpoint}
      (ha : Op.Answers (q.lookup r).answer s (q.lookup r).delay (q.resolveLimit s.clock)
        (some (some (.ok endpoints)), s'))
      (hf : q.family.filter endpoints = []) :
      Finds s (some (.error q.noCandidates), s')
  | found {s' : Session} {endpoints : List Endpoint}
      (ha : Op.Answers (q.lookup r).answer s (q.lookup r).delay (q.resolveLimit s.clock)
        (some (some (.ok endpoints)), s'))
      (hf : q.family.filter endpoints ≠ []) :
      Finds s (some (.ok (q.family.filter endpoints)), s')

theorem answers_bounded (s : Session) :
    Op.Answers (q.lookup r).answer s (q.lookup r).delay (q.resolveLimit s.clock)
      ((Op.bounded q.resolveTimeout (r.resolve q.host q.port q.family)).outcome s) := by
  rw [Op.outcome_bounded]
  refine Op.answers_ready _ _ fun l hl => ?_
  obtain ⟨timeout, -, rfl⟩ := Option.map_eq_some_iff.1 hl
  exact Deadline.le_cutoff s.clock timeout

theorem finds_candidates (s : Session) :
    q.Finds r s ((ExceptT.run (q.candidates r)).outcome s) := by
  have ha := q.answers_bounded r s
  rw [candidates, Attempt.outcome_run_bind, Attempt.outcome_run_lift]
  rcases ho : (Op.bounded q.resolveTimeout (r.resolve q.host q.port q.family)).outcome s
    with ⟨_ | _ | e | endpoints, s'⟩
  · rw [ho] at ha
    exact .never ha
  · rw [ho] at ha
    -- A lookup is given up only if it has a timeout.
    obtain ⟨l, hl⟩ := ha.exists_limit
    obtain ⟨timeout, ht, -⟩ := Option.map_eq_some_iff.1 hl
    show q.Finds r s (some (.error (.timedOut .resolve (q.resolveTimeout.getD .zero))), s')
    rw [ht]
    exact .late ht ha
  · rw [ho] at ha
    exact .failed ha
  · rw [ho] at ha
    dsimp only [Option.map_some]
    cases hf : q.family.filter endpoints with
    | nil => exact .noCandidate ha hf
    | cons e es =>
      have hne : q.family.filter endpoints ≠ [] := by rw [hf]; exact List.cons_ne_nil e es
      have hfound := Finds.found (q := q) ha hne
      rw [hf] at hfound
      exact hfound

/-! ## Connecting -/

/-- The session when the lookup begins. -/
def resolving (s : Session) : Session :=
  ({ s with timer := .idle } : Session).record (.connectStep q.host q.port .start .resolving)

/-- The session when the walk over the candidates begins. -/
def connecting (candidates : List Endpoint) (s : Session) : Session :=
  (((s.record (.resolved q.host candidates)).armed q.timeout).record
    (.connectStep q.host q.port .resolving .connecting)).closed

@[simp] theorem connecting_clock (candidates : List Endpoint) (s : Session) :
    (q.connecting candidates s).clock = s.clock := by
  simp [connecting]

/-- The session when a connect has succeeded. -/
def connected (e : Endpoint) (s : Session) : Session :=
  (s.cancelled.record (.connected e)).record (.connectStep q.host q.port .connecting .done)

/-- The walk over the candidates that were found. -/
def walk (candidates : List Endpoint) (s : Session) :
    Option (Option (Except IoError Endpoint)) × Session :=
  ((Op.connectFirst .noEndpoints candidates).giveUpAt (q.connectLimit s.clock)).outcome
    (q.connecting candidates s)

/-- How a connect ends whose walk has ended. -/
def concluded : Option (Option (Except IoError Endpoint)) × Session →
    Option (Except DialError Unit) × Session
  | (none, s) => (none, s)
  | (some none, s) => (some (.error q.timedOut), s.expired.closed.cancelled)
  | (some (some (.error why)), s) => (some (.error (.transport why)), s.cancelled.closed.cancelled)
  | (some (some (.ok e)), s) => (some (.ok ()), (q.connected e s).cancelled)

theorem connectLimit_ge (now : Nat) : ∀ l ∈ q.connectLimit now, now ≤ l := by
  intro l hl
  obtain ⟨deadline, hd, rfl⟩ := Option.map_eq_some_iff.1 hl
  exact Deadline.le_due_of_after hd

theorem connects_walk (candidates : List Endpoint) (s : Session) :
    Op.Connects (q.connectLimit s.clock) .noEndpoints candidates (q.connecting candidates s)
      (q.walk candidates s) := by
  refine Op.connects_connectFirst _ _ ?_
  rw [connecting_clock]
  exact q.connectLimit_ge s.clock

/-- How the connecting ends whose walk has ended. -/
def attempted : Option (Option (Except IoError Endpoint)) × Session →
    Option (Except DialError Unit) × Session
  | (none, s) => (none, s)
  | (some none, s) => (some (.error q.timedOut), s.expired)
  | (some (some (.error why)), s) => (some (.error (.transport why)), s.cancelled)
  | (some (some (.ok e)), s) => (some (.ok ()), s.cancelled.record (.connected e))

/-- To connect is to close the socket and walk over the candidates until the timer expires. -/
theorem outcome_connectTo (candidates : List Endpoint) {s : Session}
    (hl : ∀ l ∈ s.timer.limit, s.clock ≤ l) :
    (ExceptT.run (q.connectTo candidates)).outcome s = q.attempted
      (((Op.connectFirst .noEndpoints candidates).giveUpAt s.timer.limit).outcome s.closed) := by
  have hbefore : ∀ l ∈ s.timer.limit, s.closed.clock ≤ l := by rwa [Session.closed_clock]
  have hc := Op.connects_connectFirst .noEndpoints candidates hbefore
  rw [connectTo]
  simp only [Attempt.outcome_run_bind, Attempt.outcome_run_lift, Op.outcome_race, Op.connect,
    Op.outcome_giveUpAt_bind, Op.outcome_giveUpAt_of_done _ (Op.course_close _)]
  generalize ((Op.connectFirst _ candidates).giveUpAt _).outcome s.closed = walked at hc ⊢
  rcases walked with ⟨_ | _ | why | e, s'⟩
  · rfl
  · rfl
  · simp [attempted]
  · obtain ⟨_, _, -, -, hs, -⟩ := hc.exists_accepted
    have hopen : s'.cancelled.isOpen := by simp [Session.isOpen, hs]
    simp [attempted, hopen]

/-- A connect looks up its candidates and then walks over them. -/
theorem outcome_run (s : Session) :
    (q.run r).outcome s = match (ExceptT.run (q.candidates r)).outcome (q.resolving s) with
      | (none, s') => (none, s')
      | (some (.error e), s') => (some (.error e), s'.closed.cancelled)
      | (some (.ok candidates), s') => q.concluded (q.walk candidates s') := by
  rw [run, TimedConnect.run, Attempt.outcome_run, TimedConnect.drive_prepare, resolving]
  simp only [step, Attempt.outcome_run_bind, Attempt.outcome_run_lift, Op.outcome_record,
    Op.outcome_armTimer, Option.map_some]
  rcases (ExceptT.run (q.candidates r)).outcome _ with ⟨_ | e | candidates, s'⟩
  · rfl
  · rfl
  · dsimp only
    let armed := ((s'.record (.resolved q.host candidates)).armed q.timeout).record
      (.connectStep q.host q.port .resolving .connecting)
    have hlimit : ∀ l ∈ armed.timer.limit, armed.clock ≤ l := q.connectLimit_ge s'.clock
    have ho := q.outcome_connectTo candidates hlimit
    have hwalk : (Op.giveUpAt armed.timer.limit
        (Op.connectFirst .noEndpoints candidates)).outcome armed.closed =
          q.walk candidates s' := rfl
    rw [hwalk] at ho
    rw [ho]
    generalize q.walk candidates s' = walked
    rcases walked with ⟨_ | _ | why | e, s''⟩
    · rfl
    · rfl
    · rfl
    · rfl

variable {q r} in
theorem outcome_run_of_found {s s' : Session} {candidates : List Endpoint}
    (hf : (ExceptT.run (q.candidates r)).outcome (q.resolving s) = (some (.ok candidates), s')) :
    (q.run r).outcome s = q.concluded (q.walk candidates s') := by
  rw [outcome_run, hf]

/-- The ways of a timed connect. -/
inductive Leads (s : Session) : Option (Except DialError Unit) × Session → Prop where
  | unanswered {s' : Session} (hf : q.Finds r (q.resolving s) (none, s')) : Leads s (none, s')
  | noCandidates {s' : Session} {e : DialError}
      (hf : q.Finds r (q.resolving s) (some (.error e), s')) :
      Leads s (some (.error e), s'.closed.cancelled)
  | failed {s' s'' : Session} {candidates : List Endpoint} {why : IoError}
      (hf : q.Finds r (q.resolving s) (some (.ok candidates), s'))
      (hc : Op.Connects (q.connectLimit s'.clock) .noEndpoints candidates
        (q.connecting candidates s') (some (some (.error why)), s'')) :
      Leads s (some (.error (.transport why)), s''.cancelled.closed.cancelled)
  | late {s' s'' : Session} {candidates : List Endpoint}
      (hf : q.Finds r (q.resolving s) (some (.ok candidates), s'))
      (hc : Op.Connects (q.connectLimit s'.clock) .noEndpoints candidates
        (q.connecting candidates s') (some none, s'')) :
      Leads s (some (.error q.timedOut), s''.expired.closed.cancelled)
  | never {s' s'' : Session} {candidates : List Endpoint}
      (hf : q.Finds r (q.resolving s) (some (.ok candidates), s'))
      (hc : Op.Connects (q.connectLimit s'.clock) .noEndpoints candidates
        (q.connecting candidates s') (none, s'')) :
      Leads s (none, s'')
  | connected {s' s'' : Session} {candidates : List Endpoint} {e : Endpoint}
      (hf : q.Finds r (q.resolving s) (some (.ok candidates), s'))
      (hc : Op.Connects (q.connectLimit s'.clock) .noEndpoints candidates
        (q.connecting candidates s') (some (some (.ok e)), s'')) :
      Leads s (some (.ok ()), (q.connected e s'').cancelled)

theorem leads_run (s : Session) : q.Leads r s ((q.run r).outcome s) := by
  have hf := q.finds_candidates r (q.resolving s)
  rw [outcome_run]
  generalize (ExceptT.run (q.candidates r)).outcome (q.resolving s) = found at hf ⊢
  rcases found with ⟨_ | e | candidates, s'⟩
  · exact .unanswered hf
  · exact .noCandidates hf
  · dsimp only
    have hc := q.connects_walk candidates s'
    generalize q.walk candidates s' = walked at hc ⊢
    rcases walked with ⟨_ | _ | why | e, s''⟩
    · exact .never hf hc
    · exact .late hf hc
    · exact .failed hf hc
    · exact .connected hf hc

end ConnectRequest

end ProxyDial
