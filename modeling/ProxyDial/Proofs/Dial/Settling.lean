import ProxyDial.Proofs.Connect.Candidates
import ProxyDial.Proofs.Connect.Deadlines
import ProxyDial.Proofs.Handshake.Deadlines

/-!
# Successes on a closed socket

A success on a socket that is not open would count for nothing (`Race.settle`), but there is no
such success.

*Successes.*  Connecting, writing and reading succeed on an open socket only
(`Op.SucceedsOpen`), whatever session they begin in.  So a race of theirs is settled already
(`Op.Settles`), and the steps that look at the socket after a race are the same as without the
look (`ConnectRequest.connectTo_eq`, `HandshakeRequest.writeRequest_eq`,
`HandshakeRequest.readReply_eq`).

*Timeouts.*  Each of these steps times out just when the timer wins its race
(`Attempt.TimesOutBy`), and a run times out only in one of them.
-/

namespace ProxyDial

variable {α β : Type}

/-! ## Successes -/

namespace Op

/-- Whether an operation leaves an open socket whenever it succeeds. -/
def SucceedsOpen (op : Op (Except IoError α)) : Prop :=
  ∀ s, (op.course s).Along (fun _ => True) fun result s' => ∀ a, result = .ok a → s'.isOpen

namespace SucceedsOpen

theorem bind {op : Op β} {next : β → Op (Except IoError α)} (h : ∀ b, (next b).SucceedsOpen) :
    (op >>= next).SucceedsOpen :=
  fun s => (op.course s).along_trivial.bind fun b s' _ => h b s'

theorem withStream (f : Connection → Except IoError α × Connection) :
    (Op.withStream f).SucceedsOpen := by
  intro s
  cases hs : s.stream with
  | none =>
    have hc : (Op.withStream f).course s = .done (.error .socketClosed) s := by
      simp [Op.withStream, hs, Course.bind]
    rw [hc]
    intro a he
    cases he
  | some c =>
    rw [course_withStream hs]
    exact fun _ _ => rfl

theorem connect (candidates : List Endpoint) : (Op.connect candidates).SucceedsOpen := by
  intro s
  refine (along_connect candidates s).imp (fun _ _ => trivial) fun result s' hs => ?_
  rintro e rfl
  exact hs

/-- An operation that fails need not leave anything. -/
theorem raise (e : IoError) : (pure (.error e) : Op (Except IoError α)).SucceedsOpen :=
  fun _ _ ha => nomatch ha

theorem writeRest (bytes : List UInt8) (written : Nat) :
    (Op.writeRest written bytes).SucceedsOpen := by
  induction bytes generalizing written with
  | nil =>
    cases written with
    | zero => exact withStream _
    | succ n => exact withStream _
  | cons b bytes ih =>
    cases written with
    | succ n => exact ih n
    | zero =>
      refine bind fun result => ?_
      match result with
      | .error e => exact raise e
      | .ok 0 => exact raise .wroteNothing
      | .ok (n + 1) => exact ih n

theorem writeAll (bytes : List UInt8) : (Op.writeAll bytes).SucceedsOpen := writeRest bytes 0

theorem readExact (count : Nat) : (Op.readExact count).SucceedsOpen := bind fun _ => withStream _

/-- A race of such an operation is settled already. -/
theorem along_race {op : Op (Except IoError α)} (h : op.SucceedsOpen) (s : Session) :
    ((race op).course s).Along (fun _ => True) fun raced s' => raced.settle s'.isOpen = raced := by
  rw [course_race]
  refine ((h s).within (fun _ _ _ _ => trivial) s.timer.limit).bind fun found s' hs => ?_
  match found with
  | none => exact rfl
  | some (.error why) => exact rfl
  | some (.ok a) =>
    have hopen : s'.isOpen := hs a rfl
    show Race.settle s'.isOpen (.completed (.ok a)) = _
    rw [hopen]
    rfl

end SucceedsOpen

/-- What is known when a race of an operation has ended.  If the operation has succeeded the
socket is open, so there is nothing to settle, and if it was given up the timer has expired. -/
structure Settles (op : Op (Except IoError α)) : Prop where
  isOpen : ∀ s a s', (race op).run? s = some (.completed (.ok a), s') → s'.isOpen
  settle : ∀ s raced s', (race op).run? s = some (raced, s') → raced.settle s'.isOpen = raced
  expired : ∀ s s', (race op).run? s = some (.aborted, s') → s'.timer.state = .expired

theorem expired_of_aborted {op : Op (Except IoError α)} {s s' : Session}
    (h : (race op).run? s = some (.aborted, s')) : s'.timer.state = .expired := by
  rcases exists_of_run?_race h with ⟨_, he, -⟩ | ⟨s'', -, -, rfl⟩
  · cases he
  · rfl

theorem SucceedsOpen.settles {op : Op (Except IoError α)} (h : op.SucceedsOpen) : op.Settles where
  isOpen s a s' hrun := by
    have hsettle := (h.along_race s).of_end? hrun
    cases hopen : s'.isOpen with
    | true => rfl
    | false =>
      rw [hopen] at hsettle
      cases hsettle
  settle s _ _ hrun := (h.along_race s).of_end? hrun
  expired _ _ := expired_of_aborted

end Op

/-- A timer that has expired cannot be stopped. -/
theorem Session.cancelled_of_expired {s : Session} (h : s.timer.state = .expired) :
    s.cancelled = s := by
  have harmed : s.timer.isArmed = false := by simp [Timer.isArmed, h]
  rw [cancelled, harmed]
  rfl

theorem Session.isOpen_cancelled (s : Session) : s.cancelled.isOpen = s.isOpen := by
  rw [isOpen, cancelled_stream, isOpen]

namespace Attempt

theorem course_run_lift_bind (op : Op α) (next : α → Attempt β) (s : Session) :
    (ExceptT.run (liftM op >>= next)).course s =
      (op.course s).bind fun a s' => (ExceptT.run (next a)).course s' :=
  Course.bind_bind _ _ (op.course s)

theorem course_run_bind_congr {x x' : Attempt α} {next next' : α → Attempt β} {s : Session}
    (h : (ExceptT.run x).course s = (ExceptT.run x').course s)
    (hnext : ∀ a s, (ExceptT.run (next a)).course s = (ExceptT.run (next' a)).course s) :
    (ExceptT.run (x >>= next)).course s = (ExceptT.run (x' >>= next')).course s := by
  rw [ExceptT.run_bind, ExceptT.run_bind, Op.course_bind, Op.course_bind, h]
  congr 1
  funext result s'
  cases result with
  | error e => rfl
  | ok a => exact hnext a s'

/-- It does not matter how an attempt would go on after a race that cannot end so. -/
theorem race_bind_congr {op : Op (Except IoError α)} (h : op.SucceedsOpen)
    {next next' : Race α → Attempt β}
    (hnext : ∀ raced s, raced.settle s.isOpen = raced →
      (ExceptT.run (next raced)).course s = (ExceptT.run (next' raced)).course s) :
    (liftM (Op.race op) >>= next : Attempt β) = liftM (Op.race op) >>= next' := by
  refine ExceptT.ext (Op.ext fun s => ?_)
  rw [course_run_lift_bind, course_run_lift_bind]
  exact (h.along_race s).bind_congr hnext

/-! ## Errors -/

/-- Whether `P` holds of each error with which an attempt fails. -/
def Faults (P : DialError → Prop) (attempt : Attempt α) : Prop :=
  ∀ s e s', (ExceptT.run attempt).run? s = some (.error e, s') → P e

theorem error_of_run?_bind {x : Attempt α} {next : α → Attempt β} {s s'' : Session} {e : DialError}
    (h : (ExceptT.run (x >>= next)).run? s = some (.error e, s'')) :
    (ExceptT.run x).run? s = some (.error e, s'') ∨
      ∃ a s', (ExceptT.run x).run? s = some (.ok a, s') ∧
        (ExceptT.run (next a)).run? s' = some (.error e, s'') := by
  rw [Op.run?_eq_some_iff, outcome_run_bind] at h
  rcases hx : (ExceptT.run x).outcome s with ⟨_ | e' | a, s'⟩
  · rw [hx] at h
    cases h
  · rw [hx] at h
    cases h
    exact .inl ((Op.run?_eq_some_iff ..).2 hx)
  · rw [hx] at h
    exact .inr ⟨a, s', (Op.run?_eq_some_iff ..).2 hx, (Op.run?_eq_some_iff ..).2 h⟩

/-- A run that fails has failed in its attempt. -/
theorem error_of_run?_run {attempt : Attempt α} {s s' : Session} {e : DialError}
    (hrun : (Attempt.run attempt).run? s = some (.error e, s')) :
    ∃ s'', (ExceptT.run attempt).run? { s with timer := .idle } = some (.error e, s'') ∧
      s' = s''.closed.cancelled := by
  rw [Op.run?_eq_some_iff, outcome_run] at hrun
  rcases ha : (ExceptT.run attempt).outcome { s with timer := .idle } with ⟨_ | e' | a, s''⟩
  · rw [ha] at hrun
    cases hrun
  · rw [ha] at hrun
    cases hrun
    exact ⟨s'', (Op.run?_eq_some_iff ..).2 ha, rfl⟩
  · rw [ha] at hrun
    cases hrun

namespace Faults

variable {P : DialError → Prop}

theorem pure (a : α) : Faults P (pure a : Attempt α) := by
  intro s e s' h
  rw [Op.run?_eq_some_iff, outcome_run_pure] at h
  cases h

theorem raise {e : DialError} (h : P e) : Faults P (throw e : Attempt α) := by
  intro s e' s' hrun
  rw [Op.run?_eq_some_iff, outcome_run_throw] at hrun
  cases hrun
  exact h

theorem lift (op : Op α) : Faults P (liftM op : Attempt α) := by
  intro s e s' h
  rw [Op.run?_eq_some_iff, outcome_run_lift] at h
  rcases ho : op.outcome s with ⟨_ | a, s''⟩
  · rw [ho] at h
    cases h
  · rw [ho] at h
    cases h

theorem bind {x : Attempt α} {next : α → Attempt β} (h : Faults P x)
    (hnext : ∀ a, Faults P (next a)) : Faults P (x >>= next) := by
  intro s e s'' hrun
  rcases error_of_run?_bind hrun with hx | ⟨a, s', -, hrest⟩
  · exact h s e s'' hx
  · exact hnext a s' e s'' hrest

end Faults

/-! ## Timeouts -/

/-- Whether an error does not say that a deadline has passed. -/
def InTime (e : DialError) : Prop := ∀ phase d, e ≠ .timedOut phase d

/-- Whether an attempt times out just when the timer wins the race of an operation, and then
with the error `e`. -/
def TimesOutBy (op : Op (Except IoError α)) (e : DialError) (attempt : Attempt β) : Prop :=
  ∀ s phase d s', (ExceptT.run attempt).run? s = some (.error (.timedOut phase d), s') ↔
    (Op.race op).run? s = some (.aborted, s') ∧ e = .timedOut phase d

theorem timesOutBy_race_bind {op : Op (Except IoError α)} {next : Race α → Attempt β}
    {e : DialError} (hcompleted : ∀ result, Faults InTime (next (.completed result)))
    (haborted : ∀ s : Session, s.timer.state = .expired →
      (ExceptT.run (next .aborted)).outcome s = (some (.error e), s)) :
    TimesOutBy op e (liftM (Op.race op) >>= next) := by
  intro s phase d s'
  rw [Op.run?_eq_some_iff, Op.run?_eq_some_iff, outcome_run_bind, outcome_run_lift]
  rcases ho : (Op.race op).outcome s with ⟨_ | result | _, s''⟩
  · simp
  · dsimp only [Option.map_some]
    constructor
    · intro h
      exact absurd rfl (hcompleted result s'' _ s' ((Op.run?_eq_some_iff ..).2 h) phase d)
    · rintro ⟨⟨⟩, -⟩
  · have hexpired := Op.expired_of_aborted ((Op.run?_eq_some_iff ..).2 ho)
    dsimp only [Option.map_some]
    rw [haborted s'' hexpired]
    constructor
    · rintro ⟨⟩
      exact ⟨rfl, rfl⟩
    · rintro ⟨⟨⟩, rfl⟩
      rfl

end Attempt

open Attempt (Faults TimesOutBy InTime)

/-! ## Connecting -/

namespace ConnectRequest

variable (q : ConnectRequest) (r : Resolver)

/-- Connect to one of the candidates, without a look at the socket afterwards. -/
def connectUnchecked (candidates : List Endpoint) : Attempt Unit := do
  match ← Op.race (Op.connect candidates) with
  | .completed (.ok endpoint) =>
    let _ ← Op.cancelTimer
    Op.record (.connected endpoint)
  | .completed (.error e) =>
    let _ ← Op.cancelTimer
    throw (.transport e)
  | .aborted => throw q.timedOut

/-- A connect that has succeeded finds its socket open. -/
theorem connectTo_eq (candidates : List Endpoint) :
    q.connectTo candidates = q.connectUnchecked candidates := by
  refine Attempt.race_bind_congr (.connect candidates) fun raced s hs => ?_
  match raced with
  | .aborted => rfl
  | .completed (.error why) => rfl
  | .completed (.ok e) =>
    have hopen : s.cancelled.isOpen = true := by
      rw [s.isOpen_cancelled]
      cases hopen : s.isOpen with
      | true => rfl
      | false =>
        rw [hopen] at hs
        cases hs
    dsimp only
    rw [Attempt.course_run_lift_bind, Attempt.course_run_lift_bind, Op.course_cancelTimer,
      Course.bind, Course.bind, Attempt.course_run_lift_bind, Op.course_get, Course.bind, hopen]
    rfl

theorem timesOutBy_connectTo (candidates : List Endpoint) :
    TimesOutBy (Op.connect candidates) q.timedOut (q.connectTo candidates) := by
  rw [connectTo_eq]
  refine Attempt.timesOutBy_race_bind (fun result => ?_) fun s _ => rfl
  cases result with
  | ok e => exact (Faults.lift _).bind fun _ => .lift _
  | error why => exact (Faults.lift _).bind fun _ => .raise nofun

/-- A success stays one. -/
theorem run?_connectTo_of_completed {candidates : List Endpoint} {s s' : Session} {e : Endpoint}
    (h : (Op.race (Op.connect candidates)).run? s = some (.completed (.ok e), s')) :
    (ExceptT.run (q.connectTo candidates)).run? s =
      some (.ok (), s'.cancelled.record (.connected e)) := by
  rw [Op.run?_eq_some_iff] at h ⊢
  rw [connectTo_eq, connectUnchecked, Attempt.outcome_run_bind, Attempt.outcome_run_lift, h]
  simp

/-- The steps of a timed connect before its race. -/
def approach : Attempt (List Endpoint) := do
  q.step .start .resolving
  let candidates ← q.candidates r
  Op.record (.resolved q.host candidates)
  Op.armTimer q.timeout
  q.step .resolving .connecting
  return candidates

theorem drive_eq_approach : (TimedConnect.prepare q r).drive = (do
    let candidates ← q.approach r
    q.connectTo candidates
    q.step .connecting .done) := by
  simp only [TimedConnect.drive_prepare, approach, bind_assoc, pure_bind]

variable {q r}

/-- Up to the race a connect times out in its own phase only if the answer to the lookup says
so. -/
theorem faults_approach :
    Faults (fun e => ∀ d, e = .timedOut .connect d → (q.lookup r).answer = .error e)
      (q.approach r) := by
  refine (Faults.lift _).bind fun _ => ?_
  refine Faults.bind (fun s e s' hrun d hd => ?_) fun candidates =>
    (Faults.lift _).bind fun _ => (Faults.lift _).bind fun _ =>
      (Faults.lift _).bind fun _ => .pure candidates
  have hf := q.finds_candidates r s
  rw [(Op.run?_eq_some_iff ..).1 hrun] at hf
  rcases hf.error_eq with hanswer | hnone | ⟨_, _, hlate, -⟩
  · exact hanswer
  · exact absurd (hnone.symm.trans hd) (q.noCandidates_ne_timedOut _ _)
  · cases hd.symm.trans hlate

/-- A run that times out while it connects has lost its race. -/
theorem exists_aborted_of_timedOut {s s' : Session} {d : Duration}
    (hrun : (q.run r).run? s = some (.error (.timedOut .connect d), s'))
    (hanswer : (q.lookup r).answer ≠ .error (.timedOut .connect d)) :
    ∃ candidates s₁ s₂,
      (ExceptT.run (q.approach r)).run? { s with timer := .idle } = some (.ok candidates, s₁) ∧
      (Op.race (Op.connect candidates)).run? s₁ = some (.aborted, s₂) ∧
      s₂.timer.state = .expired ∧ s' = s₂.closed := by
  obtain ⟨s₂, hdrive, rfl⟩ := Attempt.error_of_run?_run hrun
  rw [drive_eq_approach] at hdrive
  rcases Attempt.error_of_run?_bind hdrive with happroach | ⟨candidates, s₁, happroach, hrest⟩
  · exact absurd (faults_approach _ _ _ happroach d rfl) hanswer
  rcases Attempt.error_of_run?_bind hrest with hconnect | ⟨_, _, -, hstep⟩
  · obtain ⟨hrace, -⟩ := (q.timesOutBy_connectTo candidates _ _ _ _).1 hconnect
    have hexpired := Op.expired_of_aborted hrace
    refine ⟨candidates, s₁, s₂, happroach, hrace, hexpired, ?_⟩
    exact Session.cancelled_of_expired (by rw [Session.closed_timer, hexpired])
  · exact absurd rfl (Faults.lift (P := InTime) _ _ _ _ hstep .connect d)

end ConnectRequest

/-! ## The handshake -/

theorem Reply.faults_verdict (bytes : List UInt8) :
    Faults InTime (ExceptT.mk (pure (Reply.verdict bytes)) : Attempt Unit) := by
  intro s e s' h phase d he
  rw [Op.run?_eq_some_iff, ExceptT.run_mk, Op.outcome_pure] at h
  have hverdict := Option.some.inj (congrArg Prod.fst h)
  exact Reply.verdict_ne_timedOut bytes phase d (he ▸ hverdict)

namespace HandshakeRequest

variable (q : HandshakeRequest) (r : Resolver)

/-- The result of a race, whether the socket is open or not. -/
def unsettled : Race α → Attempt α
  | .completed (.ok a) => return a
  | .completed (.error e) => throw (.transport e)
  | .aborted => throw q.timedOut

/-- Write the request, without a look at the socket afterwards. -/
def writeUnchecked (bytes : List UInt8) : Attempt Unit := do
  let outcome ← Op.race (Op.writeAll bytes)
  q.unsettled outcome

/-- Read the reply, without a look at the socket afterwards. -/
def readUnchecked : Attempt Unit := do
  let outcome ← Op.race (Op.readExact Reply.length)
  let _ ← Op.cancelTimer
  let bytes ← q.unsettled outcome
  ExceptT.mk (pure (Reply.verdict bytes))

theorem course_settled {raced : Race α} {s : Session} (h : raced.settle s.isOpen = raced) :
    (ExceptT.run (q.settled raced)).course s = (ExceptT.run (q.unsettled raced)).course s := by
  rw [settled, Attempt.course_run_lift_bind, Op.course_get, Course.bind, h]
  cases raced with
  | completed result => cases result <;> rfl
  | aborted => rfl

/-- A request that has been written leaves its socket open. -/
theorem writeRequest_eq (bytes : List UInt8) : q.writeRequest bytes = q.writeUnchecked bytes :=
  Attempt.race_bind_congr (.writeAll _) fun _ _ => q.course_settled

/-- A reply that has been read leaves its socket open. -/
theorem readReply_eq : q.readReply = q.readUnchecked := by
  refine Attempt.race_bind_congr (.readExact Reply.length) fun raced s hs => ?_
  rw [Attempt.course_run_lift_bind, Attempt.course_run_lift_bind, Op.course_cancelTimer]
  have hsettled : raced.settle s.cancelled.isOpen = raced := by rw [s.isOpen_cancelled, hs]
  refine Attempt.course_run_bind_congr (q.course_settled hsettled) fun bytes s => ?_
  rw [ExceptT.run_mk, Reply.verdict]
  cases Reply.decode bytes with
  | error e => rfl
  | ok reply =>
    dsimp only
    cases reply.outcome <;> rfl

theorem faults_unsettled (result : Except IoError α) :
    Faults InTime (q.unsettled (.completed result)) := by
  cases result with
  | ok a => exact .pure a
  | error why => exact .raise nofun

theorem timesOutBy_writeRequest (bytes : List UInt8) :
    TimesOutBy (Op.writeAll bytes) q.timedOut (q.writeRequest bytes) := by
  rw [writeRequest_eq]
  exact Attempt.timesOutBy_race_bind q.faults_unsettled fun s _ => rfl

theorem timesOutBy_readReply :
    TimesOutBy (Op.readExact Reply.length) q.timedOut q.readReply := by
  rw [readReply_eq]
  refine Attempt.timesOutBy_race_bind (fun result => ?_) fun s hs => ?_
  · exact (Faults.lift _).bind fun _ => (q.faults_unsettled result).bind Reply.faults_verdict
  · simp [unsettled, Session.cancelled_of_expired hs]

/-- The steps of a handshake before its first race. -/
def approach : Attempt IPv4 := do
  let ip ← q.seek r
  Op.armTimer q.timeout
  q.step .resolvingTarget .writingRequest
  return ip

theorem drive_eq_approach : (Handshake.prepare q r).drive = (do
    let ip ← q.approach r
    q.writeRequest (q.requestFor ip).encode
    q.step .writingRequest .readingReply
    q.readReply
    Op.record (.granted (some ip) q.port)
    q.step .readingReply .done) := by
  rw [drive_prepare, approach, bind_assoc]
  refine bind_congr fun ip => ?_
  simp only [exchange, bind_assoc, pure_bind]

variable {q r}

/-- Up to the first race a handshake times out only if the answer to the lookup says so. -/
theorem faults_approach :
    Faults (fun e => ∀ phase d, e = .timedOut phase d → (q.lookup r).answer = .error e)
      (q.approach r) := by
  refine Faults.bind (fun s e s' hrun phase d hd => ?_) fun ip =>
    (Faults.lift _).bind fun _ => (Faults.lift _).bind fun _ => .pure ip
  have ht := q.targets_seek r s
  rw [(Op.run?_eq_some_iff ..).1 hrun, hd] at ht
  rw [hd]
  exact ht.answer_of_timedOut

/-- A handshake that times out in its own phase has lost one of its races. -/
theorem exists_aborted_of_timedOut {s s' : Session} {d : Duration}
    (hrun : (q.run r).run? s = some (.error (.timedOut .handshake d), s'))
    (hanswer : (q.lookup r).answer ≠ .error (.timedOut .handshake d)) :
    ∃ ip s₁ s₂, (ExceptT.run (q.approach r)).run? { s with timer := .idle } = some (.ok ip, s₁) ∧
      ((Op.race (Op.writeAll (q.requestFor ip).encode)).run? s₁ = some (.aborted, s₂) ∨
        ∃ s₃, (ExceptT.run (q.writeRequest (q.requestFor ip).encode)).run? s₁ =
            some (.ok (), s₃) ∧
          (Op.race (Op.readExact Reply.length)).run?
            (s₃.record (.handshakeStep q.host q.port .writingRequest .readingReply)) =
              some (.aborted, s₂)) ∧
      s₂.timer.state = .expired ∧ s' = s₂.closed := by
  obtain ⟨s₂, hdrive, rfl⟩ := Attempt.error_of_run?_run hrun
  have hends (h : s₂.timer.state = .expired) : s₂.closed.cancelled = s₂.closed :=
    Session.cancelled_of_expired (by rw [Session.closed_timer, h])
  rw [drive_eq_approach] at hdrive
  rcases Attempt.error_of_run?_bind hdrive with happroach | ⟨ip, s₁, happroach, hrest⟩
  · exact absurd (faults_approach _ _ _ happroach _ d rfl) hanswer
  rcases Attempt.error_of_run?_bind hrest with hwrite | ⟨_, s₃, hwrite, hrest⟩
  · obtain ⟨hrace, -⟩ := (q.timesOutBy_writeRequest _ _ _ _ _).1 hwrite
    have hexpired := Op.expired_of_aborted hrace
    exact ⟨ip, s₁, s₂, happroach, .inl hrace, hexpired, hends hexpired⟩
  rcases Attempt.error_of_run?_bind hrest with hstep | ⟨_, s₄, hstep, hrest⟩
  · exact absurd rfl (Faults.lift (P := InTime) _ _ _ _ hstep .handshake d)
  cases hstep
  rcases Attempt.error_of_run?_bind hrest with hread | ⟨_, s₅, -, hrest⟩
  · obtain ⟨hrace, -⟩ := (q.timesOutBy_readReply _ _ _ _).1 hread
    have hexpired := Op.expired_of_aborted hrace
    exact ⟨ip, s₁, s₂, happroach, .inr ⟨s₃, hwrite, hrace⟩, hexpired, hends hexpired⟩
  · have hgranted : Faults InTime (do
        Op.record (.granted (some ip) q.port)
        q.step .readingReply .done) := (Faults.lift _).bind fun _ => .lift _
    exact absurd rfl (hgranted _ _ _ hrest .handshake d)

end HandshakeRequest

/-! ## The steps of both -/

/-- Connecting, writing and reading succeed on an open socket only, so the steps that race them
need not look at the socket afterwards.  A connect that has succeeded is never reported as timed
out.  A timed connect and a handshake time out in their own phases only when a race of theirs was
given up, and then the timer has expired. -/
theorem successes_settled :
    ((∀ candidates, (Op.connect candidates).Settles) ∧
      (∀ bytes, (Op.writeAll bytes).Settles) ∧ ∀ count, (Op.readExact count).Settles) ∧
    (∀ q : ConnectRequest,
      (∀ candidates, q.connectTo candidates = q.connectUnchecked candidates ∧
        TimesOutBy (Op.connect candidates) q.timedOut (q.connectTo candidates) ∧
        ∀ s e s', (Op.race (Op.connect candidates)).run? s = some (.completed (.ok e), s') →
          (ExceptT.run (q.connectTo candidates)).run? s =
            some (.ok (), s'.cancelled.record (.connected e))) ∧
      ∀ r s s' d, (q.run r).run? s = some (.error (.timedOut .connect d), s') →
        (q.lookup r).answer ≠ .error (.timedOut .connect d) →
          ∃ candidates s₁ s₂,
            (ExceptT.run (q.approach r)).run? { s with timer := .idle } =
              some (.ok candidates, s₁) ∧
            (Op.race (Op.connect candidates)).run? s₁ = some (.aborted, s₂) ∧
            s₂.timer.state = .expired ∧ s' = s₂.closed) ∧
    ∀ q : HandshakeRequest,
      (∀ bytes, q.writeRequest bytes = q.writeUnchecked bytes ∧
        TimesOutBy (Op.writeAll bytes) q.timedOut (q.writeRequest bytes)) ∧
      (q.readReply = q.readUnchecked ∧
        TimesOutBy (Op.readExact Reply.length) q.timedOut q.readReply) ∧
      ∀ r s s' d, (q.run r).run? s = some (.error (.timedOut .handshake d), s') →
        (q.lookup r).answer ≠ .error (.timedOut .handshake d) →
          ∃ ip s₁ s₂,
            (ExceptT.run (q.approach r)).run? { s with timer := .idle } = some (.ok ip, s₁) ∧
            ((Op.race (Op.writeAll (q.requestFor ip).encode)).run? s₁ = some (.aborted, s₂) ∨
              ∃ s₃, (ExceptT.run (q.writeRequest (q.requestFor ip).encode)).run? s₁ =
                  some (.ok (), s₃) ∧
                (Op.race (Op.readExact Reply.length)).run?
                  (s₃.record (.handshakeStep q.host q.port .writingRequest .readingReply)) =
                    some (.aborted, s₂)) ∧
            s₂.timer.state = .expired ∧ s' = s₂.closed := by
  refine ⟨⟨fun candidates => ?_, fun bytes => ?_, fun count => ?_⟩, fun q => ⟨fun candidates => ?_,
    fun r s s' d => q.exists_aborted_of_timedOut⟩, fun q => ⟨fun bytes => ?_, ?_,
    fun r s s' d => q.exists_aborted_of_timedOut⟩⟩
  · exact (Op.SucceedsOpen.connect candidates).settles
  · exact (Op.SucceedsOpen.writeAll bytes).settles
  · exact (Op.SucceedsOpen.readExact count).settles
  · exact ⟨q.connectTo_eq candidates, q.timesOutBy_connectTo candidates,
      fun s e s' => q.run?_connectTo_of_completed⟩
  · exact ⟨q.writeRequest_eq bytes, q.timesOutBy_writeRequest bytes⟩
  · exact ⟨q.readReply_eq, q.timesOutBy_readReply⟩

/-- A connect to a gate leaves the socket open.  A connect to a server that hangs and a handshake
with a gate that keeps silent lose their races. -/
theorem successes_settled_silent :
    let gate : Endpoint := .v4 ⟨10, 0, 0, 1⟩ 1080
    let hung : Endpoint := .v4 ⟨10, 0, 0, 2⟩ 1080
    let q : ConnectRequest := { host := "proxy", port := 1080, timeoutSecs := 5 }
    let ask : HandshakeRequest :=
      { host := "target", port := 80, timeoutSecs := 5, userId := [117] }
    let s := Session.start { servers := [
      { address := gate, behaviour := .accepts [[]] }, { address := hung, behaviour := .hangs }] }
    (∃ s₁, (Op.race (Op.connect [gate])).run? s = some (.completed (.ok gate), s₁) ∧ s₁.isOpen ∧
      ∃ s₂ s₃ : Session, (ask.run (.fixed [gate])).run? s₁ =
          some (.error (.timedOut .handshake (.ofSecs 5)), s₂) ∧
        s₃.timer.state = .expired ∧ s₂ = s₃.closed) ∧
    ∃ s₁ s₂ : Session,
      (q.run (.fixed [hung])).run? s = some (.error (.timedOut .connect (.ofSecs 5)), s₁) ∧
      s₂.timer.state = .expired ∧ s₁ = s₂.closed := by
  intro gate hung q ask s
  obtain ⟨⟨hconnects, -, -⟩, hconnect, hhandshake⟩ := successes_settled
  have hopened : ((Op.race (Op.connect [gate])).outcome s).1 = some (.completed (.ok gate)) := by
    dsimp only [s, gate, hung]
    rfl
  have hsilent : ((ask.run (.fixed [gate])).outcome
      ((Op.race (Op.connect [gate])).outcome s).2).1 =
        some (.error (.timedOut .handshake (.ofSecs 5))) := by
    dsimp only [ask, s, gate, hung]
    rfl
  have hhung : ((q.run (.fixed [hung])).outcome s).1 =
      some (.error (.timedOut .connect (.ofSecs 5))) := by
    dsimp only [q, s, gate, hung]
    rfl
  have hrace := Op.run?_of_outcome hopened
  have hask := Op.run?_of_outcome hsilent
  have hrun := Op.run?_of_outcome hhung
  obtain ⟨-, -, hlost⟩ := hhandshake ask
  obtain ⟨_, _, s₃, -, -, hexpired, hclosed⟩ := hlost _ _ _ _ hask nofun
  obtain ⟨_, _, s₄, -, -, hexpired', hclosed'⟩ := (hconnect q).2 _ _ _ _ hrun nofun
  exact ⟨⟨_, hrace, (hconnects [gate]).isOpen _ _ _ hrace, _, s₃, hask, hexpired, hclosed⟩,
    _, s₄, hrun, hexpired', hclosed'⟩

end ProxyDial
