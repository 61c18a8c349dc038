import ProxyDial.TimedConnect

/-!
# Outcomes of operations

The *outcome* of an operation is where its course leads: a result, or none if it is
suspended for good, and the session that is left behind either way.  What can be
seen of an operation that nobody interrupts is its outcome.

Outcomes are computed step by step.  `outcome_bind` does a sequence,
`outcome_run_bind` a sequence of attempts, and each primitive operation has an
equation that gives the session it leaves.  Giving up distributes over a sequence
(`giveUpAt_bind`), so a race is computed in the same way (`outcome_race`).
-/

namespace ProxyDial

namespace Course

variable {α β : Type}

/-- Where a course leads.  There is no result if it is suspended for good. -/
def outcome : Course α → Option α × Session
  | done a s => (some a, s)
  | wait _ _ rest => rest.outcome
  | stuck s => (none, s)

theorem end?_eq_outcome (c : Course α) : c.end? = c.outcome.1.map fun a => (a, c.outcome.2) := by
  induction c with
  | done a s => rfl
  | wait s wake rest ih => exact ih
  | stuck s => rfl

theorem outcome_bind (next : α → Session → Course β) (c : Course α) :
    (c.bind next).outcome = match c.outcome with
      | (some a, s) => (next a s).outcome
      | (none, s) => (none, s) := by
  induction c with
  | done a s => rfl
  | wait s wake rest ih => exact ih
  | stuck s => rfl

/-- A sequence is given up in its first part or in its second. -/
theorem within_bind (limit : Option Nat) (next : α → Session → Course β) (c : Course α) :
    (c.bind next).within limit = (c.within limit).bind fun found s =>
      match found with
      | some a => (next a s).within limit
      | none => done none s := by
  induction c with
  | done a s => rfl
  | wait s wake rest ih =>
    cases limit with
    | none => simp only [bind, within, ih]
    | some l =>
      simp only [bind, within]
      by_cases hl : l ≤ s.clock
      · simp only [hl, if_true, bind]
      · by_cases hw : wake ≤ l
        · simp only [hl, hw, if_true, if_false, bind, ih]
        · simp only [hl, hw, if_false, bind]
  | stuck s =>
    cases limit with
    | none => rfl
    | some l =>
      simp only [bind, within]
      by_cases hl : l ≤ s.clock
      · simp only [hl, if_true, bind]
      · simp only [hl, if_false, bind]

/-! ## Suspended courses and their limits -/

variable {s : Session} {l wake : Nat}

theorem within_wait_of_over (h : l ≤ s.clock) (rest : Course α) :
    (wait s wake rest).within (some l) = done none s := if_pos h

theorem within_wait_of_le (h : s.clock < l) (hw : wake ≤ l) (rest : Course α) :
    (wait s wake rest).within (some l) = wait s wake (rest.within (some l)) := by
  rw [within, if_neg (Nat.not_le_of_gt h), if_pos hw]

theorem within_wait_of_lt (h : s.clock < l) (hw : l < wake) (rest : Course α) :
    (wait s wake rest).within (some l) = wait s l (done none (s.moveTo l)) := by
  rw [within, if_neg (Nat.not_le_of_gt h), if_neg (Nat.not_le_of_gt hw)]

theorem within_stuck_of_over (h : l ≤ s.clock) :
    (stuck s : Course α).within (some l) = done none s := if_pos h

theorem within_stuck_of_lt (h : s.clock < l) :
    (stuck s : Course α).within (some l) = wait s l (done none (s.moveTo l)) :=
  if_neg (Nat.not_le_of_gt h)

end Course

/-! ## The sessions that operations leave -/

namespace Session

/-- The session after its socket was closed. -/
def closed (s : Session) : Session :=
  match s.stream with
  | none => s
  | some c => { s.record (.closing c.remote?) with net := s.net.close c, stream := none }

/-- The session after its timer was started. -/
def armed (timeout : Duration) (s : Session) : Session :=
  ({ s with timer := .arm s.clock timeout } : Session).record (.timerArmed timeout)

/-- The session after its timer was stopped. -/
def cancelled (s : Session) : Session :=
  if s.timer.isArmed then
    ({ s with timer := s.timer.cancel } : Session).record .timerCancelled
  else s

/-- The session after its timer has won a race. -/
def expired (s : Session) : Session :=
  ({ s with timer := s.timer.expire } : Session).record (.deadlineReached s.timer.timeout)

/-- The session when it has waited for so many milliseconds.  A wait of no time is no
wait, so it does not let the servers go on. -/
def later (s : Session) : Nat → Session
  | 0 => s
  | millis + 1 => s.moveTo (s.clock + (millis + 1))

variable (s : Session)

@[simp] theorem record_clock (e : Event) : (s.record e).clock = s.clock := rfl
@[simp] theorem record_net (e : Event) : (s.record e).net = s.net := rfl
@[simp] theorem record_stream (e : Event) : (s.record e).stream = s.stream := rfl
@[simp] theorem record_timer (e : Event) : (s.record e).timer = s.timer := rfl

@[simp] theorem moveTo_clock (now : Nat) : (s.moveTo now).clock = now := rfl
@[simp] theorem moveTo_net (now : Nat) : (s.moveTo now).net = s.net.advance now := rfl
@[simp] theorem moveTo_stream (now : Nat) :
    (s.moveTo now).stream = s.stream.map (Connection.advance now) := rfl
@[simp] theorem moveTo_timer (now : Nat) : (s.moveTo now).timer = s.timer := rfl

@[simp] theorem armed_clock (d : Duration) : (s.armed d).clock = s.clock := rfl
@[simp] theorem armed_net (d : Duration) : (s.armed d).net = s.net := rfl
@[simp] theorem armed_stream (d : Duration) : (s.armed d).stream = s.stream := rfl
@[simp] theorem armed_timer (d : Duration) : (s.armed d).timer = .arm s.clock d := rfl

@[simp] theorem expired_clock : s.expired.clock = s.clock := rfl
@[simp] theorem expired_net : s.expired.net = s.net := rfl
@[simp] theorem expired_stream : s.expired.stream = s.stream := rfl
@[simp] theorem expired_timer : s.expired.timer = s.timer.expire := rfl

@[simp] theorem cancelled_clock : s.cancelled.clock = s.clock := by
  unfold cancelled; split <;> rfl
@[simp] theorem cancelled_net : s.cancelled.net = s.net := by
  unfold cancelled; split <;> rfl
@[simp] theorem cancelled_stream : s.cancelled.stream = s.stream := by
  unfold cancelled; split <;> rfl
@[simp] theorem cancelled_timer : s.cancelled.timer = s.timer.cancel := by
  unfold cancelled Timer.cancel; split <;> rfl

@[simp] theorem closed_clock : s.closed.clock = s.clock := by
  unfold closed; split <;> rfl
@[simp] theorem closed_stream : s.closed.stream = none := by
  unfold closed; split
  · assumption
  · rfl
@[simp] theorem closed_timer : s.closed.timer = s.timer := by
  unfold closed; split <;> rfl

@[simp] theorem later_clock (millis : Nat) : (s.later millis).clock = s.clock + millis := by
  cases millis <;> rfl
@[simp] theorem later_timer (millis : Nat) : (s.later millis).timer = s.timer := by
  cases millis <;> rfl

@[simp] theorem later_log (millis : Nat) : (s.later millis).log = s.log := by
  cases millis <;> rfl

@[simp] theorem later_record (millis : Nat) (e : Event) :
    (s.record e).later millis = (s.later millis).record e := by
  cases millis <;> rfl

end Session

/-! ## Outcomes of operations -/

namespace Op

variable {α β : Type}

/-- The result of an operation on a session, unless it is suspended for good, and the
session that it leaves behind. -/
def outcome (op : Op α) (s : Session) : Option α × Session := (op.course s).outcome

theorem run?_eq_outcome (op : Op α) (s : Session) :
    op.run? s = (op.outcome s).1.map fun a => (a, (op.outcome s).2) :=
  Course.end?_eq_outcome (op.course s)

theorem run?_eq_some_iff (op : Op α) (s s' : Session) (a : α) :
    op.run? s = some (a, s') ↔ op.outcome s = (some a, s') := by
  rw [run?_eq_outcome, Option.map_eq_some_iff]
  constructor
  · rintro ⟨b, hb, h⟩
    cases h
    exact Prod.ext hb rfl
  · intro h
    exact ⟨a, by rw [h], by rw [h]⟩

theorem run?_of_outcome {op : Op α} {s : Session} {a : α} (h : (op.outcome s).1 = some a) :
    op.run? s = some (a, (op.outcome s).2) :=
  (run?_eq_some_iff ..).2 (Prod.ext h rfl)

theorem exists_of_run?_bind {op : Op α} {next : α → Op β} {s s'' : Session} {b : β}
    (h : (op >>= next).run? s = some (b, s'')) :
    ∃ a s', op.run? s = some (a, s') ∧ (next a).run? s' = some (b, s'') := by
  rw [run?_bind, Option.bind_eq_some_iff] at h
  obtain ⟨⟨a, s'⟩, hop, hnext⟩ := h
  exact ⟨a, s', hop, hnext⟩

@[simp]
theorem outcome_pure (a : α) (s : Session) : (pure a : Op α).outcome s = (some a, s) := rfl

@[simp]
theorem outcome_bind (op : Op α) (next : α → Op β) (s : Session) :
    (op >>= next).outcome s = match op.outcome s with
      | (some a, s') => (next a).outcome s'
      | (none, s') => (none, s') :=
  Course.outcome_bind _ (op.course s)

@[simp]
theorem outcome_map (f : α → β) (op : Op α) (s : Session) :
    (f <$> op).outcome s = ((op.outcome s).1.map f, (op.outcome s).2) := by
  rw [map_eq_pure_bind, outcome_bind]
  rcases op.outcome s with ⟨_ | a, s'⟩ <;> rfl

@[simp]
theorem outcome_get (s : Session) : get.outcome s = (some s, s) := rfl

@[simp]
theorem outcome_record (e : Event) (s : Session) :
    (record e).outcome s = (some (), s.record e) := rfl

@[simp]
theorem outcome_setStream (stream : Option Connection) (s : Session) :
    (setStream stream).outcome s = (some (), { s with stream }) := rfl

@[simp]
theorem outcome_newTimer (s : Session) :
    newTimer.outcome s = (some (), { s with timer := .idle }) := rfl

@[simp]
theorem outcome_armTimer (d : Duration) (s : Session) :
    (armTimer d).outcome s = (some (), s.armed d) := rfl

theorem course_cancelTimer (s : Session) :
    cancelTimer.course s = .done s.timer.isArmed s.cancelled := by
  unfold cancelTimer Session.cancelled
  cases h : s.timer.isArmed
  · simp [h, Course.bind]
  · simp [h, Course.bind, record]

@[simp]
theorem outcome_cancelTimer (s : Session) :
    cancelTimer.outcome s = (some s.timer.isArmed, s.cancelled) := by
  rw [outcome, course_cancelTimer]
  rfl

theorem course_close (s : Session) : close.course s = .done () s.closed := by
  unfold close Session.closed
  cases h : s.stream
  · simp [h, Course.bind]
  · simp [h, Course.bind, record]

@[simp]
theorem outcome_close (s : Session) : close.outcome s = (some (), s.closed) := by
  rw [outcome, course_close]
  rfl

theorem outcome_ready (after : Option Nat) (a : α) (s : Session) :
    (ready after a).outcome s = match after with
      | some millis => (some a, s.later millis)
      | none => (none, s) := by
  match after with
  | none => rfl
  | some 0 => rfl
  | some (millis + 1) => rfl

/-! ## Operations that are given up -/

/-- A sequence is given up in its first part or in its second. -/
theorem outcome_giveUpAt_bind (limit : Option Nat) (op : Op α) (next : α → Op β) (s : Session) :
    ((op >>= next).giveUpAt limit).outcome s = match (op.giveUpAt limit).outcome s with
      | (some (some a), s') => ((next a).giveUpAt limit).outcome s'
      | (some none, s') => (some none, s')
      | (none, s') => (none, s') := by
  have h : ((op >>= next).giveUpAt limit).outcome s =
      (((op.course s).within limit).bind fun found s' => match found with
        | some a => ((next a).course s').within limit
        | none => .done none s').outcome :=
    congrArg Course.outcome (Course.within_bind limit _ (op.course s))
  rw [h, Course.outcome_bind]
  show _ = match ((op.course s).within limit).outcome with
    | (some (some a), s') => ((next a).giveUpAt limit).outcome s'
    | (some none, s') => (some none, s')
    | (none, s') => (none, s')
  rcases ((op.course s).within limit).outcome with ⟨_ | _ | a, s'⟩ <;> rfl

@[simp]
theorem outcome_giveUpAt_get (limit : Option Nat) (s : Session) :
    (get.giveUpAt limit).outcome s = (some (some s), s) := rfl

/-- An operation that does not wait is never given up. -/
theorem outcome_giveUpAt_of_done {op : Op α} {s s' : Session} {a : α} (limit : Option Nat)
    (h : op.course s = .done a s') : (op.giveUpAt limit).outcome s = (some (some a), s') := by
  simp only [outcome, course_giveUpAt, h]
  rfl

theorem outcome_bounded (limit : Option Duration) (op : Op α) (s : Session) :
    (bounded limit op).outcome s =
      (op.giveUpAt (limit.map (Deadline.cutoff s.clock))).outcome s := by
  rw [bounded, outcome_bind, outcome_get]

theorem course_race (op : Op (Except IoError α)) (s : Session) :
    (race op).course s = ((op.course s).within s.timer.limit).bind fun found s' =>
      found.elim (.done .aborted s'.expired) fun result => .done (.completed result) s' := by
  rw [race, course_bind, course_get, Course.bind, course_bind, course_giveUpAt]
  congr 1
  funext found s'
  cases found <;> rfl

theorem outcome_race (op : Op (Except IoError α)) (s : Session) :
    (race op).outcome s = match (op.giveUpAt s.timer.limit).outcome s with
      | (some (some result), s') => (some (.completed result), s')
      | (some none, s') => (some .aborted, s'.expired)
      | (none, s') => (none, s') := by
  simp only [race, outcome_bind, outcome_get]
  rcases (op.giveUpAt s.timer.limit).outcome s with ⟨_ | _ | result, s'⟩ <;> rfl

/-- A race that ends is either won by the operation or by the timer, which then has expired. -/
theorem exists_of_run?_race {op : Op (Except IoError α)} {raced : Race α} {s s' : Session}
    (h : (race op).run? s = some (raced, s')) :
    (∃ result, raced = .completed result ∧
      (op.giveUpAt s.timer.limit).run? s = some (some result, s')) ∨
    ∃ s'', raced = .aborted ∧ (op.giveUpAt s.timer.limit).run? s = some (none, s'') ∧
      s' = s''.expired := by
  rw [run?_eq_some_iff, outcome_race] at h
  rcases ho : (op.giveUpAt s.timer.limit).outcome s with ⟨_ | _ | result, s''⟩
  · rw [ho] at h
    cases h
  · rw [ho] at h
    cases h
    exact .inr ⟨s'', rfl, (run?_eq_some_iff ..).2 ho, rfl⟩
  · rw [ho] at h
    cases h
    exact .inl ⟨result, rfl, (run?_eq_some_iff ..).2 ho⟩

end Op

/-! ## Outcomes of attempts -/

namespace Attempt

variable {α β : Type}

@[simp]
theorem outcome_run_pure (a : α) (s : Session) :
    (ExceptT.run (pure a : Attempt α)).outcome s = (some (.ok a), s) := rfl

@[simp]
theorem outcome_run_throw (e : DialError) (s : Session) :
    (ExceptT.run (throw e : Attempt α)).outcome s = (some (.error e), s) := rfl

@[simp]
theorem outcome_run_bind (x : Attempt α) (next : α → Attempt β) (s : Session) :
    (ExceptT.run (x >>= next)).outcome s = match (ExceptT.run x).outcome s with
      | (some (.ok a), s') => (ExceptT.run (next a)).outcome s'
      | (some (.error e), s') => (some (.error e), s')
      | (none, s') => (none, s') := by
  rw [ExceptT.run_bind, Op.outcome_bind]
  rcases (ExceptT.run x).outcome s with ⟨_ | e | a, s'⟩ <;> rfl

@[simp]
theorem outcome_run_lift (op : Op α) (s : Session) :
    (ExceptT.run (liftM op : Attempt α)).outcome s =
      ((op.outcome s).1.map Except.ok, (op.outcome s).2) := by
  show (op >>= fun a => pure (Except.ok a)).outcome s = _
  rw [Op.outcome_bind]
  rcases op.outcome s with ⟨_ | a, s'⟩ <;> rfl

/-- An attempt that fails closes the socket, and the timer is stopped in any case. -/
theorem outcome_run (attempt : Attempt α) (s : Session) :
    (run attempt).outcome s = match (ExceptT.run attempt).outcome { s with timer := .idle } with
      | (some (.ok a), s') => (some (.ok a), s'.cancelled)
      | (some (.error e), s') => (some (.error e), s'.closed.cancelled)
      | (none, s') => (none, s') := by
  simp only [run, Op.outcome_bind, Op.outcome_newTimer]
  rcases (ExceptT.run attempt).outcome { s with timer := .idle } with ⟨_ | e | a, s'⟩ <;> simp

end Attempt

end ProxyDial
