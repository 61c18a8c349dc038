import ProxyDial.Proofs.Connect.Deadlines
import ProxyDial.Proofs.Connect.Traces
import ProxyDial.Proofs.Handshake.Traces
import ProxyDial.Proofs.Session.Logging
import ProxyDial.Proofs.Session.Rounds

/-!
# How far an operation comes

A timed connect and a handshake go through their states in order and stop at the first
failure.  Both start the timer with one of their steps, and from then on every way out ends
it once.  `Progress` says so of the events of a run.

*Rounds.*  `Stands` says what an operation in a state has left behind: the marks of that state,
and a timer that counts down or does not.  One round leads to the next state, or it ends the
operation (`Stands.lands_turn`).  So any number of rounds takes so many steps (`Forward`), and a
run that ends has the marks of the last state or those of a failure (`exists_marks`).
-/

namespace ProxyDial

/-- How an operation has come along that takes the steps `path` and arms its timer with the
step `arming`. -/
structure Progress (path : List Event) (arming : Event) (timeout : Duration)
    (timedOut : DialError) (result : Except DialError Unit) (events : List Event) : Prop where
  /-- It takes its steps in order and each of them once. -/
  steps : events.filter Event.isStep <+: path
  /-- It takes all of them if and only if it succeeds. -/
  done : events.filter Event.isStep = path ↔ result = .ok ()
  /-- If the deadline makes it fail, the timer was armed once and has expired. -/
  expired : arming ∈ events → result = .error timedOut →
    events.filter Event.isTimer = [.timerArmed timeout, .deadlineReached timeout]
  /-- In any other case it was armed once and cancelled. -/
  cancelled : arming ∈ events → result ≠ .error timedOut →
    events.filter Event.isTimer = [.timerArmed timeout, .timerCancelled]
  /-- Before that step the timer is not touched. -/
  unarmed : arming ∉ events → events.filter Event.isTimer = []

/-- The marks among the events tell all about the progress. -/
theorem Progress.of_marks {path marks events : List Event} {arming : Event} {timeout : Duration}
    {timedOut : DialError} {result : Except DialError Unit}
    (h : Progress path arming timeout timedOut result marks)
    (hmarks : events.filter Event.isMark = marks) (harming : arming.isMark) :
    Progress path arming timeout timedOut result events := by
  have hmem : arming ∈ marks ↔ arming ∈ events := by
    rw [← hmarks, List.mem_filter, and_iff_left harming]
  have hsteps := Event.filter_isStep_filter_isMark events
  have htimer := Event.filter_isTimer_filter_isMark events
  rw [hmarks] at hsteps htimer
  obtain ⟨hpath, hdone, hexpired, hcancelled, hunarmed⟩ := h
  rw [hsteps] at hpath hdone
  rw [htimer, hmem] at hexpired hcancelled hunarmed
  exact ⟨hpath, hdone, hexpired, hcancelled, hunarmed⟩

section

variable (before middle last : List Event) {after : List Event} {arming ending : Event}
  {timeout : Duration} {timedOut : DialError} {result : Except DialError Unit}

theorem filter_isTimer_of_isStep {steps : List Event} (h : ∀ e ∈ steps, e.isStep) :
    steps.filter Event.isTimer = [] :=
  List.filter_eq_nil_iff.2 fun e he => by simp [Event.isTimer_of_isStep (h e he)]

/-- An operation that fails before it arms the timer. -/
theorem Progress.of_error (hpath : ∀ e ∈ before ++ arming :: after, e.isStep)
    (hnot : arming ∉ before) {done : List Event} (hdone : done <+: before) (e : DialError) :
    Progress (before ++ arming :: after) arming timeout timedOut (.error e) done := by
  have hsteps : ∀ e ∈ done, e.isStep := fun e he =>
    hpath e (List.mem_append_left _ (hdone.mem he))
  have harming : arming ∉ done := fun he => hnot (hdone.mem he)
  have hall : done ≠ before ++ arming :: after := fun h => harming (by simp [h])
  constructor
  · rw [List.filter_eq_self.2 hsteps]
    exact hdone.trans (List.prefix_append _ _)
  · rw [List.filter_eq_self.2 hsteps]
    exact iff_of_false hall (by simp)
  · exact fun he => absurd he harming
  · exact fun he => absurd he harming
  · exact fun _ => filter_isTimer_of_isStep hsteps

/-- How the timer of an operation ends. -/
inductive Ends (timeout : Duration) (timedOut : DialError) : Except DialError Unit → Event → Prop
    where
  | expired : Ends timeout timedOut (.error timedOut) (.deadlineReached timeout)
  | cancelled {result : Except DialError Unit} (h : result ≠ .error timedOut) :
      Ends timeout timedOut result .timerCancelled

/-- An operation that arms the timer, takes some steps, ends the timer and takes the last
ones. -/
theorem Progress.of_ends (hpath : ∀ e ∈ before ++ arming :: after, e.isStep)
    (htaken : middle ++ last <+: after) (hdone : middle ++ last = after ↔ result = .ok ())
    (hends : Ends timeout timedOut result ending) :
    Progress (before ++ arming :: after) arming timeout timedOut result
      (before ++ .timerArmed timeout :: arming :: (middle ++ ending :: last)) := by
  have hbegins : before ++ arming :: (middle ++ last) <+: before ++ arming :: after :=
    (List.prefix_append_right_inj before).2 ((List.prefix_cons_inj arming).2 htaken)
  have hsteps : ∀ e ∈ before ++ arming :: (middle ++ last), e.isStep := fun e he =>
    hpath e (hbegins.mem he)
  have hending : ending.isStep = false ∧ ending.isTimer := by cases hends <;> exact ⟨rfl, rfl⟩
  have htimeout : (Event.timerArmed timeout).isStep = false ∧ (Event.timerArmed timeout).isTimer :=
    ⟨rfl, rfl⟩
  have hmarks : (before ++ .timerArmed timeout :: arming :: (middle ++ ending :: last)).filter
      Event.isStep = before ++ arming :: (middle ++ last) := by
    rw [← List.filter_eq_self.2 hsteps]
    simp only [List.filter_append, List.filter_cons, hending.1, htimeout.1, Bool.false_eq_true,
      if_false]
  have htimer : (before ++ .timerArmed timeout :: arming :: (middle ++ ending :: last)).filter
      Event.isTimer = [.timerArmed timeout, ending] := by
    have hquiet (steps : List Event) (h : ∀ e ∈ steps, e ∈ before ++ arming :: (middle ++ last)) :
        steps.filter Event.isTimer = [] :=
      filter_isTimer_of_isStep fun e he => hsteps e (h e he)
    have hbefore := hquiet before (by simp +contextual)
    have hmiddle := hquiet middle (by simp +contextual)
    have hlast := hquiet last (by simp +contextual)
    have harming := Event.isTimer_of_isStep (hsteps arming (by simp))
    simp only [List.filter_append, List.filter_cons, hbefore, hmiddle, hlast, harming, hending.2,
      htimeout.2, if_true, Bool.false_eq_true, if_false, List.nil_append]
  constructor
  · rw [hmarks]
    exact hbegins
  · rw [hmarks, List.append_right_inj, List.cons_inj_right]
    exact hdone
  · rintro - hresult
    rw [htimer]
    cases hends with
    | expired => rfl
    | cancelled h => exact absurd hresult h
  · rintro - hresult
    rw [htimer]
    cases hends with
    | expired => exact absurd rfl hresult
    | cancelled h => rfl
  · exact fun hnot => absurd (by simp) hnot

/-- An operation that fails while its timer counts down. -/
theorem Progress.of_failed {e : DialError} (hpath : ∀ e ∈ before ++ arming :: after, e.isStep)
    (htaken : middle <+: after) (hnot : middle ≠ after)
    (hends : Ends timeout timedOut (.error e) ending) :
    Progress (before ++ arming :: after) arming timeout timedOut (.error e)
      (before ++ .timerArmed timeout :: arming :: (middle ++ [ending])) :=
  .of_ends before middle [] hpath (by simpa using htaken) (by simpa using hnot) hends

end

namespace ConnectRequest

variable {q : ConnectRequest} {r : Resolver} {s s' : Session}

/-- The event of a step. -/
abbrev stepEvent (q : ConnectRequest) (old new : ConnectState) : Event :=
  .connectStep q.host q.port old new

/-- The steps of a timed connect. -/
def path (q : ConnectRequest) : List Event :=
  [q.stepEvent .start .resolving, q.stepEvent .resolving .connecting,
    q.stepEvent .connecting .done]

/-- How a timed connect comes along. -/
abbrev Progress (q : ConnectRequest) (result : Except DialError Unit) (events : List Event) :
    Prop :=
  ProxyDial.Progress q.path (q.stepEvent .resolving .connecting) q.timeout q.timedOut result events

theorem isStep_of_mem_path (q : ConnectRequest) : ∀ e ∈ q.path, e.isStep := by
  intro e he
  simp only [path, List.mem_cons, List.not_mem_nil, or_false] at he
  rcases he with rfl | rfl | rfl <;> rfl

/-- The marks of a timed connect that has come to a state. -/
def marks (q : ConnectRequest) : ConnectState → List Event
  | .start => []
  | .resolving => [q.stepEvent .start .resolving]
  | .connecting => [q.stepEvent .start .resolving, .timerArmed q.timeout,
      q.stepEvent .resolving .connecting]
  | .done => [q.stepEvent .start .resolving, .timerArmed q.timeout,
      q.stepEvent .resolving .connecting, .timerCancelled, q.stepEvent .connecting .done]

/-- How a timed connect stands that began on `s₀`. -/
structure Stands (q : ConnectRequest) (s₀ : Session) (op : TimedConnect) (s : Session) : Prop where
  request : op.request = q
  logs : s₀.Logs s (q.marks op.state)
  /-- The timer counts down while the connect goes on. -/
  armed : op.state = .connecting → s.timer = .arm s.clock q.timeout
  unarmed : op.state ≠ .connecting → s.timer.isArmed = false

/-- How a timed connect that began on `s₀` may fail on `s`. -/
def Fails (q : ConnectRequest) (s₀ : Session) (e : DialError) (s : Session) : Prop :=
  ∃ marks, s₀.Logs s.closed.cancelled marks ∧ q.Progress (.error e) marks

end ConnectRequest

namespace TimedConnect

variable (q : ConnectRequest) (r : Resolver) (candidates : List Endpoint) (s : Session)

theorem turn_start : Attempt.turn round ⟨q, r, .start, candidates⟩ s =
    (some (.ok (some ⟨q, r, .resolving, candidates⟩)),
      s.record (q.stepEvent .start .resolving)) := by
  rw [Attempt.turn_of_next round rfl]
  rfl

theorem turn_resolving : Attempt.turn round ⟨q, r, .resolving, candidates⟩ s =
    match (ExceptT.run (q.candidates r)).outcome s with
    | (none, s') => (none, s')
    | (some (.error e), s') => (some (.error e), s')
    | (some (.ok found), s') => (some (.ok (some ⟨q, r, .connecting, found⟩)),
        ((s'.record (.resolved q.host found)).armed q.timeout).record
          (q.stepEvent .resolving .connecting)) := by
  rw [Attempt.turn_of_next round rfl, resolve, Attempt.outcome_run_bind]
  rcases (ExceptT.run (q.candidates r)).outcome s with ⟨_ | _ | _, s'⟩ <;> rfl

theorem turn_connecting : Attempt.turn round ⟨q, r, .connecting, candidates⟩ s =
    match (ExceptT.run (q.connectTo candidates)).outcome s with
    | (none, s') => (none, s')
    | (some (.error e), s') => (some (.error e), s')
    | (some (.ok ()), s') => (some (.ok (some ⟨q, r, .done, []⟩)),
        s'.record (q.stepEvent .connecting .done)) := by
  rw [Attempt.turn_of_next round rfl, connect, Attempt.outcome_run_bind]
  rcases (ExceptT.run (q.connectTo candidates)).outcome s with ⟨_ | _ | _, s'⟩ <;> rfl

theorem turn_done : Attempt.turn round ⟨q, r, .done, candidates⟩ s = (some (.ok none), s) :=
  Attempt.turn_of_done round rfl s

end TimedConnect

namespace ConnectRequest

variable {q : ConnectRequest} {s₀ : Session}

/-- Connecting goes on to the last state, or it ends the timed connect and its timer. -/
theorem lands_connecting {r : Resolver} {candidates : List Endpoint} {s : Session}
    (hlogs : s₀.Logs s (q.marks .connecting)) (htimer : s.timer = .arm s.clock q.timeout) :
    Attempt.Lands (·.state.left) (q.Stands s₀) (q.Fails s₀) ⟨q, r, .connecting, candidates⟩
      (Attempt.turn TimedConnect.round ⟨q, r, .connecting, candidates⟩ s) := by
  have hends {e : DialError} {ending : Event}
      (hending : Ends q.timeout q.timedOut (.error e) ending) :=
    Progress.of_failed [q.stepEvent .start .resolving] [] q.isStep_of_mem_path List.nil_prefix
      (by simp) hending
  have hlimit : ∀ l ∈ s.timer.limit, s.clock ≤ l := by
    rw [htimer]
    exact q.connectLimit_ge s.clock
  have hlimit' : ∀ l ∈ s.timer.limit, s.closed.clock ≤ l := by simpa using hlimit
  have hwalk := Op.connects_connectFirst .noEndpoints candidates hlimit'
  rw [TimedConnect.turn_connecting, q.outcome_connectTo candidates hlimit]
  generalize ((Op.connectFirst _ candidates).giveUpAt s.timer.limit).outcome s.closed = walked
    at hwalk ⊢
  have hwalked := hlogs.closed.quietly hwalk.logs.1
  have htimer' := hwalk.logs.2.trans (s.closed_timer.trans htimer)
  rcases walked with ⟨_ | _ | why | e, s'⟩
  · trivial
  · have hexpired := hwalked.expired.closed.cancelled_quiet
      (by simp [Timer.isArmed, Timer.expire])
    rw [htimer'] at hexpired
    exact ⟨_, hexpired, hends .expired⟩
  · have hcancelled := (hwalked.cancelled (by rw [htimer']; rfl)).closed.cancelled_quiet
      (by simp [Timer.isArmed_cancel])
    exact ⟨_, hcancelled, hends (.cancelled (by simp [timedOut]))⟩
  · have hconnected := ((hwalked.cancelled (by rw [htimer']; rfl)).record_quiet
      (e := .connected e) rfl).record (e := q.stepEvent .connecting .done) rfl
    exact ⟨rfl, rfl, hconnected, by simp, fun _ => by simp [Timer.isArmed_cancel]⟩

/-- A round takes a timed connect to its next state, or ends it as its progress demands. -/
theorem Stands.lands_turn (op : TimedConnect) (s : Session) (h : q.Stands s₀ op s) :
    Attempt.Lands (·.state.left) (q.Stands s₀) (q.Fails s₀) op
      (Attempt.turn TimedConnect.round op s) := by
  obtain ⟨q, r, state, candidates⟩ := op
  obtain ⟨rfl, hlogs, harmed, hunarmed⟩ := h
  cases state with
  | start =>
    rw [TimedConnect.turn_start]
    exact ⟨rfl, rfl, hlogs.record rfl, by simp, fun _ => hunarmed (by simp)⟩
  | resolving =>
    have hidle := hunarmed (by simp)
    have hf := q.finds_candidates r s
    rw [TimedConnect.turn_resolving]
    rcases ho : (ExceptT.run (q.candidates r)).outcome s with ⟨_ | e | found, s'⟩
    · trivial
    · rw [ho] at hf
      obtain ⟨millis, rfl⟩ := hf.passed
      have hfailed := (hlogs.later millis).closed.cancelled_quiet (by simpa using hidle)
      exact ⟨_, hfailed, .of_error [q.stepEvent .start .resolving] q.isStep_of_mem_path (by simp)
        (List.prefix_refl _) e⟩
    · rw [ho] at hf
      obtain ⟨millis, rfl⟩ := hf.passed
      have hconnecting := (((hlogs.later millis).record_quiet (e := .resolved q.host found)
        rfl).armed q.timeout).record (e := q.stepEvent .resolving .connecting) rfl
      exact ⟨rfl, rfl, hconnecting, fun _ => rfl, by simp⟩
  | connecting => exact lands_connecting hlogs (harmed rfl)
  | done =>
    rw [TimedConnect.turn_done]
    exact ⟨rfl, rfl, hlogs, harmed, hunarmed⟩

end ConnectRequest

/-- Whether the timer counts down while a handshake is in this state. -/
def HandshakeState.isTimed : HandshakeState → Bool
  | .writingRequest => true
  | .readingReply => true
  | _ => false

namespace HandshakeRequest

variable {q : HandshakeRequest} {r : Resolver} {s s' : Session}

/-- The event of a step. -/
abbrev stepEvent (q : HandshakeRequest) (old new : HandshakeState) : Event :=
  .handshakeStep q.host q.port old new

/-- The steps of a handshake. -/
def path (q : HandshakeRequest) : List Event :=
  [q.stepEvent .start .resolvingTarget, q.stepEvent .resolvingTarget .writingRequest,
    q.stepEvent .writingRequest .readingReply, q.stepEvent .readingReply .done]

/-- How a handshake comes along. -/
abbrev Progress (q : HandshakeRequest) (result : Except DialError Unit) (events : List Event) :
    Prop :=
  ProxyDial.Progress q.path (q.stepEvent .resolvingTarget .writingRequest) q.timeout q.timedOut
    result events

theorem isStep_of_mem_path (q : HandshakeRequest) : ∀ e ∈ q.path, e.isStep := by
  intro e he
  simp only [path, List.mem_cons, List.not_mem_nil, or_false] at he
  rcases he with rfl | rfl | rfl | rfl <;> rfl

theorem logs_warned {marks : List Event} (h : s.Logs s' marks) (ips : List IPv6) :
    s.Logs (q.warned ips s') marks := by
  induction ips generalizing s' with
  | nil => exact h
  | cons ip rest ih => exact ih (h.record_quiet rfl)

theorem warned_timer (ips : List IPv6) (s : Session) : (q.warned ips s).timer = s.timer := by
  induction ips generalizing s with
  | nil => rfl
  | cons ip rest ih => exact ih (s.record (.skipped ip q.host))

/-- The marks of a handshake that has come to a state. -/
def marks (q : HandshakeRequest) : HandshakeState → List Event
  | .start => []
  | .resolvingTarget => [q.stepEvent .start .resolvingTarget]
  | .writingRequest => [q.stepEvent .start .resolvingTarget, .timerArmed q.timeout,
      q.stepEvent .resolvingTarget .writingRequest]
  | .readingReply => [q.stepEvent .start .resolvingTarget, .timerArmed q.timeout,
      q.stepEvent .resolvingTarget .writingRequest, q.stepEvent .writingRequest .readingReply]
  | .done => [q.stepEvent .start .resolvingTarget, .timerArmed q.timeout,
      q.stepEvent .resolvingTarget .writingRequest, q.stepEvent .writingRequest .readingReply,
      .timerCancelled, q.stepEvent .readingReply .done]

/-- How a handshake stands that began on `s₀`. -/
structure Stands (q : HandshakeRequest) (s₀ : Session) (op : Handshake) (s : Session) : Prop where
  request : op.request = q
  logs : s₀.Logs s (q.marks op.state)
  /-- The timer counts down while the request is written and the reply is read. -/
  armed : op.state.isTimed → ∃ now, s.timer = .arm now q.timeout
  unarmed : op.state.isTimed = false → s.timer.isArmed = false
  /-- The socket stays open from the first step on. -/
  opened : op.state ≠ .start → ∃ c, s.stream = some c

/-- How a handshake that began on `s₀` may fail on `s`. -/
def Fails (q : HandshakeRequest) (s₀ : Session) (e : DialError) (s : Session) : Prop :=
  ∃ marks, s₀.Logs s.closed.cancelled marks ∧ q.Progress (.error e) marks

/-- A start that succeeds finds the socket open, and in any case it does nothing. -/
theorem outcome_start (q : HandshakeRequest) (s : Session) :
    ∃ result, (ExceptT.run q.start).outcome s = (some result, s) ∧
      (result = .ok () → ∃ c, s.stream = some c) := by
  rw [start]
  simp only [Attempt.outcome_run_bind, Attempt.outcome_run_lift, Op.outcome_get, Option.map_some]
  cases hs : s.stream with
  | none =>
    simp only [Session.isOpen_of_none hs]
    exact ⟨_, rfl, by rintro ⟨⟩⟩
  | some c =>
    simp only [Session.isOpen_of_some hs, if_true]
    cases checkUserId q.userId with
    | error e => exact ⟨_, rfl, by rintro ⟨⟩⟩
    | ok u => exact ⟨_, rfl, fun _ => ⟨c, rfl⟩⟩

/-- A lookup of the target marks nothing and leaves the timer alone, and the socket open. -/
theorem outcome_target (q : HandshakeRequest) (r : Resolver) {s s' : Session} {c : Connection}
    {found : Except DialError IPv4} (hs : s.stream = some c)
    (h : (ExceptT.run (q.target r)).outcome s = (some found, s')) :
    s.Logs s' [] ∧ s'.timer = s.timer ∧ ∃ c', s'.stream = some c' := by
  have hlater (millis : Nat) : s.Logs (s.later millis) [] ∧ (s.later millis).timer = s.timer ∧
      ∃ c', (s.later millis).stream = some c' := by
    obtain ⟨c', hs', -⟩ := Session.clientSide_later hs millis
    exact ⟨.of_log_eq (s.later_log millis), s.later_timer millis, c', hs'⟩
  rw [target, Attempt.outcome_run_bind, ExceptT.run_mk, Resolver.resolve, Op.outcome_ready] at h
  rcases hd : (r.lookup q.host q.port .any).delay with _ | millis
  · simp [hd] at h
  · obtain ⟨hlogs, htimer, hopen⟩ := hlater millis
    rcases ha : (r.lookup q.host q.port .any).answer with e | endpoints
    · simp only [hd, ha] at h
      cases h
      exact ⟨hlogs, htimer, hopen⟩
    · have hwarned : s.Logs (q.warned (skippedIPv6 endpoints) (s.later millis)) [] ∧
          (q.warned (skippedIPv6 endpoints) (s.later millis)).timer = s.timer ∧
          ∃ c', (q.warned (skippedIPv6 endpoints) (s.later millis)).stream = some c' :=
        ⟨logs_warned hlogs _, (warned_timer _ _).trans htimer, by rwa [warned_stream]⟩
      simp only [hd, ha, Attempt.outcome_run_bind, Attempt.outcome_run_lift, outcome_warnSkipped,
        Option.map_some] at h
      cases hi : firstIPv4? endpoints with
      | none =>
        rw [hi] at h
        cases h
        exact hwarned
      | some ip =>
        rw [hi] at h
        cases h
        exact hwarned

end HandshakeRequest

namespace Handshake

variable (q : HandshakeRequest) (r : Resolver) (target : Option IPv4) (bytes : List UInt8)
  (s : Session)

theorem turn_start : Attempt.turn round ⟨q, r, .start, target, bytes⟩ s =
    match (ExceptT.run q.start).outcome s with
    | (none, s') => (none, s')
    | (some (.error e), s') => (some (.error e), s')
    | (some (.ok ()), s') => (some (.ok (some ⟨q, r, .resolvingTarget, target, bytes⟩)),
        s'.record (q.stepEvent .start .resolvingTarget)) := by
  rw [Attempt.turn_of_next round rfl, start, Attempt.outcome_run_bind]
  rcases (ExceptT.run q.start).outcome s with ⟨_ | _ | _, s'⟩ <;> rfl

theorem turn_resolvingTarget : Attempt.turn round ⟨q, r, .resolvingTarget, target, bytes⟩ s =
    match (ExceptT.run (q.target r)).outcome s with
    | (none, s') => (none, s')
    | (some (.error e), s') => (some (.error e), s')
    | (some (.ok ip), s') =>
      (some (.ok (some ⟨q, r, .writingRequest, some ip, (q.requestFor ip).encode⟩)),
        (s'.armed q.timeout).record (q.stepEvent .resolvingTarget .writingRequest)) := by
  rw [Attempt.turn_of_next round rfl, resolveTarget, Attempt.outcome_run_bind]
  rcases (ExceptT.run (q.target r)).outcome s with ⟨_ | _ | _, s'⟩ <;> rfl

theorem turn_writingRequest : Attempt.turn round ⟨q, r, .writingRequest, target, bytes⟩ s =
    match (ExceptT.run (q.writeRequest bytes)).outcome s with
    | (none, s') => (none, s')
    | (some (.error e), s') => (some (.error e), s')
    | (some (.ok ()), s') => (some (.ok (some ⟨q, r, .readingReply, target, bytes⟩)),
        s'.record (q.stepEvent .writingRequest .readingReply)) := by
  rw [Attempt.turn_of_next round rfl, writeRequest, Attempt.outcome_run_bind]
  rcases (ExceptT.run (q.writeRequest bytes)).outcome s with ⟨_ | _ | _, s'⟩ <;> rfl

theorem turn_readingReply : Attempt.turn round ⟨q, r, .readingReply, target, bytes⟩ s =
    match (ExceptT.run q.readReply).outcome s with
    | (none, s') => (none, s')
    | (some (.error e), s') => (some (.error e), s')
    | (some (.ok ()), s') => (some (.ok (some ⟨q, r, .done, target, []⟩)),
        (s'.record (.granted target q.port)).record (q.stepEvent .readingReply .done)) := by
  rw [Attempt.turn_of_next round rfl, readReply, Attempt.outcome_run_bind]
  rcases (ExceptT.run q.readReply).outcome s with ⟨_ | _ | _, s'⟩ <;> rfl

theorem turn_done : Attempt.turn round ⟨q, r, .done, target, bytes⟩ s = (some (.ok none), s) :=
  Attempt.turn_of_done round rfl s

end Handshake

namespace HandshakeRequest

variable {q : HandshakeRequest} {s₀ : Session}

section

variable {r : Resolver} {target : Option IPv4} {bytes : List UInt8} {s : Session} {c : Connection}
  {now : Nat}

/-- The events of a handshake that fails while its timer counts down. -/
theorem progress_of_failed {middle : List Event} {e : DialError} {ending : Event}
    (htaken : middle <+: [q.stepEvent .writingRequest .readingReply])
    (hends : Ends q.timeout q.timedOut (.error e) ending) :
    q.Progress (.error e) ([q.stepEvent .start .resolvingTarget] ++ .timerArmed q.timeout ::
      q.stepEvent .resolvingTarget .writingRequest :: (middle ++ [ending])) := by
  have hmore : [q.stepEvent .writingRequest .readingReply] <+:
      [q.stepEvent .writingRequest .readingReply, q.stepEvent .readingReply .done] := ⟨[_], rfl⟩
  refine .of_failed [q.stepEvent .start .resolvingTarget] middle q.isStep_of_mem_path
    (htaken.trans hmore) ?_ hends
  rintro rfl
  exact absurd htaken.length_le (by simp)

/-- Writing goes on to reading, or it ends the handshake and its timer. -/
theorem lands_writingRequest (hlogs : s₀.Logs s (q.marks .writingRequest))
    (htimer : s.timer = .arm now q.timeout) (hs : s.stream = some c) :
    Attempt.Lands (·.state.left) (q.Stands s₀) (q.Fails s₀)
      ⟨q, r, .writingRequest, target, bytes⟩
      (Attempt.turn Handshake.round ⟨q, r, .writingRequest, target, bytes⟩ s) := by
  have hw := Op.writes_writeAll s.timer.limit hs bytes
  rw [Handshake.turn_writingRequest, q.outcome_writeRequest hs]
  generalize ((Op.writeAll bytes).giveUpAt s.timer.limit).outcome s = written at hw ⊢
  have hwritten := hlogs.quietly hw.logs.1
  have htimer' := hw.logs.2.trans htimer
  rcases written with ⟨_ | _ | why | u, s'⟩
  · trivial
  · have hexpired := hwritten.expired.closed.cancelled_quiet
      (by simp [Timer.isArmed, Timer.expire])
    rw [htimer'] at hexpired
    exact ⟨_, hexpired, progress_of_failed List.nil_prefix .expired⟩
  · -- Here the timer still counts down when the handshake closes up.
    have hcancelled := hwritten.closed.cancelled (by rw [Session.closed_timer, htimer']; rfl)
    exact ⟨_, hcancelled, progress_of_failed List.nil_prefix (.cancelled (by simp [timedOut]))⟩
  · exact ⟨rfl, rfl, hwritten.record rfl, fun _ => ⟨now, htimer'⟩, by rintro ⟨⟩,
      fun _ => hw.exists_stream⟩

/-- Reading goes on to the last state, or it ends the handshake.  It ends the timer in any case. -/
theorem lands_readingReply (hlogs : s₀.Logs s (q.marks .readingReply))
    (htimer : s.timer = .arm now q.timeout) (hs : s.stream = some c) :
    Attempt.Lands (·.state.left) (q.Stands s₀) (q.Fails s₀)
      ⟨q, r, .readingReply, target, bytes⟩
      (Attempt.turn Handshake.round ⟨q, r, .readingReply, target, bytes⟩ s) := by
  have hr := Op.reads_awaitReady (Connection.holds Reply.length)
    (Connection.readExact Reply.length) s.timer.limit hs
  rw [Handshake.turn_readingReply, q.outcome_readReply hs, Op.readExact]
  generalize (Op.giveUpAt s.timer.limit _).outcome s = read at hr ⊢
  have hread := hlogs.quietly hr.logs.1
  have htimer' := hr.logs.2.trans htimer
  -- A reply that is no grant is no timeout either, so the timer is cancelled after it.
  have hrefused {e : DialError} (he : e ≠ q.timedOut) :
      ∃ marks, s₀.Logs read.2.cancelled.closed.cancelled marks ∧ q.Progress (.error e) marks := by
    have hcancelled := (hread.cancelled (by rw [htimer']; rfl)).closed.cancelled_quiet
      (by simp [Timer.isArmed_cancel])
    exact ⟨_, hcancelled, progress_of_failed (List.prefix_refl _) (.cancelled (by simpa using he))⟩
  rcases read with ⟨_ | _ | why | reply, s'⟩
  · trivial
  · have hexpired := (hread.expired.cancelled_quiet
      (by simp [Timer.isArmed, Timer.expire])).closed.cancelled_quiet
        (by simp [Timer.isArmed_cancel])
    rw [htimer'] at hexpired
    exact ⟨_, hexpired, progress_of_failed (List.prefix_refl _) .expired⟩
  · exact hrefused (by simp [timedOut])
  · dsimp only
    cases hv : Reply.verdict reply with
    | error e => exact hrefused (by rintro rfl; exact Reply.verdict_ne_timedOut reply _ _ hv)
    | ok u =>
      have hgranted := ((hread.cancelled (by rw [htimer']; rfl)).record_quiet
        (e := .granted target q.port) rfl).record (e := q.stepEvent .readingReply .done) rfl
      exact ⟨rfl, rfl, hgranted, by rintro ⟨⟩, fun _ => by simp [Timer.isArmed_cancel],
        fun _ => by simpa using hr.exists_stream⟩

end

/-- A round takes a handshake to its next state, or ends it as its progress demands. -/
theorem Stands.lands_turn (op : Handshake) (s : Session) (h : q.Stands s₀ op s) :
    Attempt.Lands (·.state.left) (q.Stands s₀) (q.Fails s₀) op
      (Attempt.turn Handshake.round op s) := by
  obtain ⟨q, r, state, target, bytes⟩ := op
  obtain ⟨rfl, hlogs, harmed, hunarmed, hopened⟩ := h
  cases state with
  | start =>
    have hidle := hunarmed rfl
    obtain ⟨result, hstart, hopen⟩ := q.outcome_start s
    rw [Handshake.turn_start, hstart]
    rcases result with e | u
    · have hrefused := hlogs.closed.cancelled_quiet (by simpa using hidle)
      exact ⟨_, hrefused, .of_error [q.stepEvent .start .resolvingTarget] q.isStep_of_mem_path
        (by simp) List.nil_prefix e⟩
    · exact ⟨rfl, rfl, hlogs.record rfl, by rintro ⟨⟩, fun _ => hidle, fun _ => hopen rfl⟩
  | resolvingTarget =>
    have hidle := hunarmed rfl
    obtain ⟨c, hs⟩ := hopened (by simp)
    rw [Handshake.turn_resolvingTarget]
    rcases ho : (ExceptT.run (q.target r)).outcome s with ⟨_ | e | ip, s'⟩
    · trivial
    · obtain ⟨hlooked, htimer, -⟩ := q.outcome_target r hs ho
      have hlost := (hlogs.quietly hlooked).closed.cancelled_quiet (by simpa [htimer] using hidle)
      exact ⟨_, hlost, .of_error [q.stepEvent .start .resolvingTarget] q.isStep_of_mem_path
        (by simp) (List.prefix_refl _) e⟩
    · obtain ⟨hlooked, -, hopen⟩ := q.outcome_target r hs ho
      have hwriting := ((hlogs.quietly hlooked).armed q.timeout).record
        (e := q.stepEvent .resolvingTarget .writingRequest) rfl
      exact ⟨rfl, rfl, hwriting, fun _ => ⟨_, rfl⟩, by rintro ⟨⟩, fun _ => hopen⟩
  | writingRequest =>
    obtain ⟨now, htimer⟩ := harmed rfl
    obtain ⟨c, hs⟩ := hopened (by simp)
    exact lands_writingRequest hlogs htimer hs
  | readingReply =>
    obtain ⟨now, htimer⟩ := harmed rfl
    obtain ⟨c, hs⟩ := hopened (by simp)
    exact lands_readingReply hlogs htimer hs
  | done =>
    rw [Handshake.turn_done]
    exact ⟨rfl, rfl, hlogs, harmed, hunarmed, hopened⟩

end HandshakeRequest

/-- How a loop comes along that should take the steps `path`, one in each round. -/
structure Forward {σ : Type} {left : σ → Nat}
    (round : (a : σ) → Attempt (Option { b : σ // left b < left a })) (a : σ) (path : List Event)
    (s : Session) : Prop where
  /-- After any number of rounds it has taken so many steps, and the others are left. -/
  steps : ∀ n b s', Attempt.Rounds round n a { s with timer := .idle } b s' →
    n + left b = path.length ∧
      ∃ events, s'.log = s.log ++ events ∧ events.filter Event.isStep = path.take n
  /-- It ends if and only if each round ends that it comes to. -/
  ends : ((Attempt.run (Attempt.loop round a)).run? s).isSome ↔
    ∀ n b s', Attempt.Rounds round n a { s with timer := .idle } b s' →
      ((ExceptT.run (round b)).run? s').isSome

/-- It is enough that each round keeps what tells which steps were taken. -/
theorem Forward.of_lands {σ : Type} {left : σ → Nat}
    {round : (a : σ) → Attempt (Option { b : σ // left b < left a })} {a : σ} {path : List Event}
    {s : Session} {P : σ → Session → Prop} {F : DialError → Session → Prop}
    (h : ∀ a s, P a s → Attempt.Lands left P F a (Attempt.turn round a s))
    (ha : P a { s with timer := .idle }) (hlength : left a = path.length)
    (hsteps : ∀ b s', P b s' → ∃ events, s'.log = s.log ++ events ∧
      events.filter Event.isStep = path.take (path.length - left b)) :
    Forward round a path s where
  steps n b s' hrounds := by
    obtain ⟨hcount, hb⟩ := hrounds.keeps h ha
    obtain ⟨events, hlog, htaken⟩ := hsteps b s' hb
    refine ⟨hcount.trans hlength, events, hlog, ?_⟩
    rw [htaken, ← hlength, ← hcount, Nat.add_sub_cancel]
  ends := Attempt.run_loop_ends_iff

namespace ConnectRequest

theorem stands_prepare (q : ConnectRequest) (r : Resolver) (s : Session) :
    q.Stands s (.prepare q r) { s with timer := .idle } :=
  ⟨rfl, .of_log_eq rfl, by rintro ⟨⟩, fun _ => rfl⟩

/-- The steps among the marks of a state are those before it. -/
theorem filter_isStep_marks (q : ConnectRequest) (state : ConnectState) :
    (q.marks state).filter Event.isStep = q.path.take (q.path.length - state.left) := by
  cases state <;> rfl

theorem forward_round (q : ConnectRequest) (r : Resolver) (s : Session) :
    Forward TimedConnect.round (.prepare q r) q.path s := by
  refine .of_lands (Stands.lands_turn (q := q)) (q.stands_prepare r s) rfl ?_
  rintro op s' ⟨rfl, ⟨events, hlog, hmarks⟩, -, -⟩
  refine ⟨events, hlog, ?_⟩
  rw [← filter_isStep_marks, ← hmarks, Event.filter_isStep_filter_isMark]

/-- The marks of a timed connect that ends. -/
theorem exists_marks {q : ConnectRequest} {r : Resolver} {s s' : Session}
    {result : Except DialError Unit} (h : (q.run r).run? s = some (result, s')) :
    s'.timer.isArmed = false ∧ ∃ marks, s.Logs s' marks ∧ q.Progress result marks := by
  rcases Attempt.exists_of_run?_loop Stands.lands_turn (q.stands_prepare r s) h with
    ⟨⟨_, _, state, _⟩, s₁, hleft, ⟨rfl, hlogs, -, hunarmed⟩, rfl, rfl⟩ | ⟨e, s₁, hfails, rfl, rfl⟩
  · cases state with
    | done =>
      refine ⟨by simp [Timer.isArmed_cancel], _, hlogs.cancelled_quiet (hunarmed (by simp)), ?_⟩
      exact Progress.of_ends [_] [] [_] (isStep_of_mem_path _) (List.prefix_refl _) (by simp)
        (.cancelled (by simp))
    | _ => cases hleft
  · exact ⟨by simp [Timer.isArmed_cancel], hfails⟩

end ConnectRequest

namespace HandshakeRequest

theorem stands_prepare (q : HandshakeRequest) (r : Resolver) (s : Session) :
    q.Stands s (.prepare q r) { s with timer := .idle } :=
  ⟨rfl, .of_log_eq rfl, by rintro ⟨⟩, fun _ => rfl, fun h => absurd rfl h⟩

/-- The steps among the marks of a state are those before it. -/
theorem filter_isStep_marks (q : HandshakeRequest) (state : HandshakeState) :
    (q.marks state).filter Event.isStep = q.path.take (q.path.length - state.left) := by
  cases state <;> rfl

theorem forward_round (q : HandshakeRequest) (r : Resolver) (s : Session) :
    Forward Handshake.round (.prepare q r) q.path s := by
  refine .of_lands (Stands.lands_turn (q := q)) (q.stands_prepare r s) rfl ?_
  rintro op s' ⟨rfl, ⟨events, hlog, hmarks⟩, -, -, -⟩
  refine ⟨events, hlog, ?_⟩
  rw [← filter_isStep_marks, ← hmarks, Event.filter_isStep_filter_isMark]

/-- The marks of a handshake that ends. -/
theorem exists_marks {q : HandshakeRequest} {r : Resolver} {s s' : Session}
    {result : Except DialError Unit} (h : (q.run r).run? s = some (result, s')) :
    s'.timer.isArmed = false ∧ ∃ marks, s.Logs s' marks ∧ q.Progress result marks := by
  rcases Attempt.exists_of_run?_loop Stands.lands_turn (q.stands_prepare r s) h with
    ⟨⟨_, _, state, _, _⟩, s₁, hleft, ⟨rfl, hlogs, -, hunarmed, -⟩, rfl, rfl⟩ |
    ⟨e, s₁, hfails, rfl, rfl⟩
  · cases state with
    | done =>
      refine ⟨by simp [Timer.isArmed_cancel], _, hlogs.cancelled_quiet (hunarmed rfl), ?_⟩
      exact Progress.of_ends [_] [_] [_] (isStep_of_mem_path _) (List.prefix_refl _) (by simp)
        (.cancelled (by simp))
    | _ => cases hleft
  · exact ⟨by simp [Timer.isArmed_cancel], hfails⟩

end HandshakeRequest

/-- A timed connect and a handshake take one step in each round, in order, so they make no more
rounds than they have steps, and they end if each round does that they come to.  Whenever one of
them ends, it has come to the last step just if it succeeded.  It has armed the timer once if it
came to connecting or to writing, and else not at all.  If the deadline that it set has ended it,
the timer has expired, and in all other cases it was cancelled. -/
theorem progress_run (q : ConnectRequest) (ask : HandshakeRequest) (r : Resolver) (s s' : Session)
    (result : Except DialError Unit) :
    Forward TimedConnect.round (.prepare q r) q.path s ∧
    Forward Handshake.round (.prepare ask r) ask.path s ∧
    ((q.run r).run? s = some (result, s') →
      s'.timer.isArmed = false ∧
      ∃ events, s'.log = s.log ++ events ∧ q.Progress result events) ∧
    ((ask.run r).run? s = some (result, s') →
      s'.timer.isArmed = false ∧
      ∃ events, s'.log = s.log ++ events ∧ ask.Progress result events) := by
  refine ⟨q.forward_round r s, ask.forward_round r s, fun hrun => ?_, fun hrun => ?_⟩
  · obtain ⟨htimer, marks, ⟨events, hlog, hmarks⟩, hprogress⟩ :=
      ConnectRequest.exists_marks hrun
    exact ⟨htimer, events, hlog, hprogress.of_marks hmarks rfl⟩
  · obtain ⟨htimer, marks, ⟨events, hlog, hmarks⟩, hprogress⟩ :=
      HandshakeRequest.exists_marks hrun
    exact ⟨htimer, events, hlog, hprogress.of_marks hmarks rfl⟩

/-- A connect succeeds, and the handshake after it expires while it writes, since the network
holds four bytes and the server reads none. -/
theorem progress_run_blocked :
    let gate : Endpoint := .v4 ⟨10, 0, 0, 1⟩ 1080
    let q : ConnectRequest := { host := "proxy", port := 1080, timeoutSecs := 5 }
    let ask : HandshakeRequest :=
      { host := "target", port := 80, timeoutSecs := 5, userId := [117] }
    let r := Resolver.fixed [gate]
    let s := Session.start
      { servers := [{ address := gate, behaviour := .accepts [[]], capacity := some 4 }] }
    ∃ s₁ s₂, Forward TimedConnect.round (.prepare q r) q.path s ∧
      (q.run r).run? s = some (.ok (), s₁) ∧
      (s₁.timer.isArmed = false ∧
        ∃ events, s₁.log = s.log ++ events ∧ q.Progress (.ok ()) events) ∧
      Forward Handshake.round (.prepare ask r) ask.path s₁ ∧
      (ask.run r).run? s₁ = some (.error (.timedOut .handshake (.ofSecs 5)), s₂) ∧
      (s₂.timer.isArmed = false ∧
        ∃ events, s₂.log = s₁.log ++ events ∧
          ask.Progress (.error (.timedOut .handshake (.ofSecs 5))) events) ∧
      ask.stepEvent .writingRequest .readingReply ∉ s₂.log := by
  intro gate q ask r s
  have hopened : ((q.run r).outcome s).1 = some (.ok ()) := by
    dsimp only [q, r, s, gate]
    rfl
  have hblocked : ((ask.run r).outcome ((q.run r).outcome s).2).1 =
      some (.error (.timedOut .handshake (.ofSecs 5))) := by
    dsimp only [q, ask, r, s, gate]
    rfl
  have hwriting : ask.stepEvent .writingRequest .readingReply ∉
      ((ask.run r).outcome ((q.run r).outcome s).2).2.log := by
    dsimp only [q, ask, r, s, gate]
    decide +kernel
  have hconnect := Op.run?_of_outcome hopened
  have hask := Op.run?_of_outcome hblocked
  obtain ⟨hforward, -, hprogress, -⟩ := progress_run q ask r s _ _
  obtain ⟨-, hforward', -, hprogress'⟩ := progress_run q ask r _ _ _
  exact ⟨_, _, hforward, hconnect, hprogress hconnect, hforward', hask, hprogress' hask, hwriting⟩

end ProxyDial
