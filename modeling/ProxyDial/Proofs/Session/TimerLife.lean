import ProxyDial.Proofs.Session.Bystanders
import ProxyDial.Proofs.Session.Waiting
import ProxyDial.Proofs.Time.Allowance

/-!
# The life of a timer

A timer is armed, cancelled and raced against, and in between time passes.  `TimerHistory`
lists what has happened to it, the latest first, and `Timer.Tells` says what can be read off
the timer then.

*One event.*  `TimerEvent.effect` is what an event does to the timer.  Only arming,
cancelling and the timer's own victory do anything (`Session.Undergoes.acts`).

*One arming.*  Once it is cancelled or has expired, a timer stays as it is until it is armed
again (`TimerHistory.stays`).  So at most one of the two ends an arming.
-/

namespace ProxyDial

/-! ## Events -/

/-- Something that happens to a timer. -/
inductive TimerEvent where
  | armed (timeout : Duration)
  /-- It was cancelled, and was counting down or not. -/
  | cancelled (counting : Bool)
  /-- A race in which the operation finished. -/
  | completed
  /-- A race that the timer won. -/
  | aborted
  /-- A race that was given up on. -/
  | abandoned
  /-- A wait until the timer would win, which was over or given up on. -/
  | awaited (ended : Bool)
  /-- Something that leaves the timer alone, such as a sleep. -/
  | passed
deriving DecidableEq, Repr

namespace TimerEvent

/-- What a race has come to that may be given up on. -/
def ofRace {α : Type} : Option (Race α) → TimerEvent
  | none => abandoned
  | some (.completed _) => completed
  | some .aborted => aborted

/-- The timer after an event that ends at the instant `now`. -/
def effect (now : Nat) (t : Timer) : TimerEvent → Timer
  | armed timeout => .arm now timeout
  | cancelled _ => t.cancel
  | completed => t
  | aborted => t.expire
  | abandoned => t
  | awaited _ => t
  | passed => t

/-- Whether an event arms the timer. -/
def arms : TimerEvent → Bool
  | armed _ => true
  | _ => false

/-- Whether an event leaves every timer as it is. -/
def isQuiet : TimerEvent → Bool
  | cancelled false => true
  | completed => true
  | abandoned => true
  | awaited _ => true
  | passed => true
  | _ => false

end TimerEvent

/-- What a session undergoes in an event. -/
inductive Session.Undergoes (s : Session) : TimerEvent → Session → Prop where
  | arm {timeout : Duration} {s' : Session}
      (h : (Op.armTimer timeout).run? s = some ((), s')) : Undergoes s (.armed timeout) s'
  | cancel {counting : Bool} {s' : Session}
      (h : Op.cancelTimer.run? s = some (counting, s')) : Undergoes s (.cancelled counting) s'
  | race {α : Type} {op : Op (Except IoError α)} {patience : Option Nat}
      {raced : Option (Race α)} {s' : Session} (hop : op.LeavesTimer)
      (h : ((Op.race op).giveUpAt patience).run? s = some (raced, s')) :
      Undergoes s (.ofRace raced) s'
  | await {patience : Option Nat} {ended : Option Unit} {s' : Session}
      (h : (Op.expiry.giveUpAt patience).run? s = some (ended, s')) :
      Undergoes s (.awaited ended.isSome) s'
  | pass {α : Type} {op : Op α} {a : α} {s' : Session} (hop : op.LeavesTimer)
      (h : op.run? s = some (a, s')) : Undergoes s .passed s'

/-! ## One event -/

/-- What an event does that leads from `s` to `s'`. -/
structure Session.Acts (s : Session) (e : TimerEvent) (s' : Session) : Prop where
  clock : s.clock ≤ s'.clock
  timer : s'.timer = e.effect s'.clock s.timer
  /-- A cancel tells whether the timer was counting down. -/
  cancelled : ∀ counting, e = .cancelled counting → counting = s.timer.isArmed
  /-- The timer wins when its time has come and not before. -/
  aborted : e = .aborted → ∃ l ∈ s.timer.limit, l ≤ s'.clock

namespace Op

theorem LeavesTimer.expiry : Op.expiry.LeavesTimer := by
  intro s
  have hs : s.Follows s := .refl s
  cases hl : s.timer.limit with
  | none =>
    have hc : Op.expiry.course s = .stuck s := by
      simp [Op.expiry, hl, Course.bind, Op.never]
    rw [hc]
    exact hs
  | some l =>
    rcases Nat.lt_or_ge s.clock l with hn | hn
    · have hc : Op.expiry.course s = .wait s l (.done () (s.moveTo l)) := by
        simp [Op.expiry, hl, Course.bind, Nat.not_le_of_gt hn, sleepUntil]
      rw [hc]
      exact ⟨hs, hs.moveTo (Nat.le_of_lt hn)⟩
    · have hc : Op.expiry.course s = .done () s := by
        simp [Op.expiry, hl, Course.bind, hn]
      rw [hc]
      exact hs

/-- A race leaves the timer alone unless the timer wins. -/
theorem along_race {α : Type} {op : Op (Except IoError α)} (hop : op.LeavesTimer) (s : Session) :
    ((race op).course s).Along s.Follows fun raced => s.Acts (.ofRace (some raced)) := by
  have hwithin := (hop s).within (fun _ _ hs hnow => hs.moveTo hnow) s.timer.limit
  rw [course_race]
  refine hwithin.bind fun found s' hs => ?_
  cases found with
  | none => exact ⟨hs.1.clock, congrArg Timer.expire hs.1.timer, by simp [TimerEvent.ofRace],
      fun _ => hs.2⟩
  | some result => exact ⟨hs.clock, hs.timer, by simp [TimerEvent.ofRace],
      by simp [TimerEvent.ofRace]⟩

end Op

namespace Session

variable {s s' s'' : Session} {e : TimerEvent}

theorem Follows.acts (h : s.Follows s') (he : e.effect s'.clock s.timer = s.timer)
    (hc : ∀ counting, e ≠ .cancelled counting) (ha : e ≠ .aborted) : s.Acts e s' :=
  ⟨h.clock, h.timer.trans he.symm, fun counting h => absurd h (hc counting),
    fun h => absurd h ha⟩

theorem Undergoes.acts (h : s.Undergoes e s') : s.Acts e s' := by
  cases h with
  | arm h =>
    cases h
    exact ⟨Nat.le_refl _, rfl, by simp, by simp⟩
  | cancel h =>
    have ho := (Op.run?_eq_some_iff ..).1 h
    rw [Op.outcome_cancelTimer] at ho
    cases ho
    exact ⟨by simp, by simp [TimerEvent.effect], by simp, by simp⟩
  | @race α op patience raced _ hop h =>
    have halong := (Op.along_race hop s).within (fun _ _ hs hnow => hs.moveTo hnow) patience
    have hend := halong.of_end? h
    cases raced with
    | none => exact hend.1.acts rfl (by simp [TimerEvent.ofRace]) (by simp [TimerEvent.ofRace])
    | some raced => exact hend
  | await h =>
    have hend := (Op.LeavesTimer.expiry.giveUpAt _ s).of_end? h
    exact hend.acts rfl (by simp) (by simp)
  | pass hop h => exact ((hop s).of_end? h).acts rfl (by simp) (by simp)

/-- A quiet event leaves the timer as it is. -/
theorem Acts.timer_eq (h : s.Acts e s') (he : e.isQuiet) : s'.timer = s.timer := by
  rw [h.timer]
  cases e with
  | armed => cases he
  | cancelled counting =>
    cases counting with
    | true => cases he
    | false =>
      have hidle := h.cancelled false rfl
      simp [TimerEvent.effect, Timer.cancel, ← hidle]
  | aborted => cases he
  | completed => rfl
  | abandoned => rfl
  | awaited => rfl
  | passed => rfl

end Session

/-! ## Histories -/

/-- The events since `s` that lead to a session, the latest first, each with the instant at
which it ended. -/
inductive TimerHistory (s : Session) : List (Nat × TimerEvent) → Session → Prop where
  | none : TimerHistory s [] s
  | next {events : List (Nat × TimerEvent)} {s' s'' : Session} {e : TimerEvent}
      (before : TimerHistory s events s') (h : s'.Undergoes e s'') :
      TimerHistory s ((s''.clock, e) :: events) s''

theorem TimerHistory.next_at {s s' s'' : Session} {events : List (Nat × TimerEvent)}
    {e : TimerEvent} {now : Nat} (before : TimerHistory s events s') (h : s'.Undergoes e s'')
    (hnow : s''.clock = now) : TimerHistory s ((now, e) :: events) s'' :=
  hnow ▸ before.next h

/-- The last arming, with its instant. -/
def lastArm? : List (Nat × TimerEvent) → Option (Nat × Duration)
  | [] => none
  | (now, .armed timeout) :: _ => some (now, timeout)
  | _ :: events => lastArm? events

/-- The events since the last arming. -/
def sinceArm : List (Nat × TimerEvent) → List TimerEvent
  | [] => []
  | (_, .armed _) :: _ => []
  | (_, e) :: events => e :: sinceArm events

/-- What can be read off a timer at the instant `now`, after these events. -/
structure Timer.Tells (events : List (Nat × TimerEvent)) (now : Nat) (t : Timer) : Prop where
  idle : t.state = .idle ↔ lastArm? events = none
  cancelled : t.state = .cancelled ↔ .cancelled true ∈ sinceArm events
  expired : t.state = .expired ↔ .aborted ∈ sinceArm events
  timeout : t.timeout = (lastArm? events).elim .zero Prod.snd
  deadline : t.deadline = (lastArm? events).bind fun armed => Deadline.after armed.1 armed.2
  /-- Once it has expired its deadline is over. -/
  due : t.state = .expired → ∃ deadline, t.deadline = some deadline ∧ deadline.nanos ≤ now * 1000000
  /-- An arming is cancelled once at most. -/
  once : (sinceArm events).count (.cancelled true) ≤ 1

variable {s s' s'' : Session} {e : TimerEvent} {events : List (Nat × TimerEvent)} {now now' : Nat}
  {t : Timer}

theorem lastArm?_cons (he : e.arms = false) : lastArm? ((now, e) :: events) = lastArm? events := by
  cases e with
  | armed => cases he
  | _ => rfl

theorem sinceArm_cons (he : e.arms = false) :
    sinceArm ((now, e) :: events) = e :: sinceArm events := by
  cases e with
  | armed => cases he
  | _ => rfl

/-- After a quiet event the timer tells the same. -/
theorem Timer.Tells.quiet (h : t.Tells events now) (he : e.isQuiet) (hnow : now ≤ now') :
    t.Tells ((now', e) :: events) now' := by
  have harms : e.arms = false := by
    cases e with
    | armed => cases he
    | _ => rfl
  have hcancelled : e ≠ .cancelled true := by rintro rfl; cases he
  have haborted : e ≠ .aborted := by rintro rfl; cases he
  constructor
  · rw [lastArm?_cons harms]
    exact h.idle
  · rw [sinceArm_cons harms, List.mem_cons, or_iff_right (Ne.symm hcancelled)]
    exact h.cancelled
  · rw [sinceArm_cons harms, List.mem_cons, or_iff_right (Ne.symm haborted)]
    exact h.expired
  · rw [lastArm?_cons harms]
    exact h.timeout
  · rw [lastArm?_cons harms]
    exact h.deadline
  · intro hs
    obtain ⟨deadline, hd, hdue⟩ := h.due hs
    exact ⟨deadline, hd, Nat.le_trans hdue (Nat.mul_le_mul_right _ hnow)⟩
  · rw [sinceArm_cons harms, List.count_cons_of_ne hcancelled]
    exact h.once

theorem Timer.Tells.arm (now : Nat) (timeout : Duration) (events : List (Nat × TimerEvent)) :
    (Timer.arm now timeout).Tells ((now, .armed timeout) :: events) now := by
  constructor
  · simp [Timer.arm, lastArm?]
  · simp [Timer.arm, sinceArm]
  · simp [Timer.arm, sinceArm]
  · rfl
  · rw [lastArm?, Option.bind_some, Timer.arm]
  · intro h
    cases h
  · exact Nat.zero_le _

theorem Timer.Tells.cancel (h : t.Tells events now) (ht : t.isArmed) :
    t.cancel.Tells ((now', .cancelled true) :: events) now' := by
  have hstate : t.state = .armed := by simpa [Timer.isArmed] using ht
  have hcancelled : t.cancel.state = .cancelled := by rw [Timer.cancel, if_pos ht]
  have harmed : lastArm? events ≠ none := fun hn => by simp [h.idle.2 hn] at hstate
  have hnot : TimerEvent.cancelled true ∉ sinceArm events := fun hm => by
    simp [h.cancelled.2 hm] at hstate
  have hnot' : TimerEvent.aborted ∉ sinceArm events := fun hm => by
    simp [h.expired.2 hm] at hstate
  constructor
  · rw [lastArm?_cons rfl]
    simp [hcancelled, harmed]
  · rw [sinceArm_cons rfl]
    simp [hcancelled]
  · rw [sinceArm_cons rfl]
    simp [hcancelled, hnot']
  · rw [Timer.cancel_timeout, lastArm?_cons rfl]
    exact h.timeout
  · rw [Timer.cancel_deadline, lastArm?_cons rfl]
    exact h.deadline
  · intro hs
    rw [hcancelled] at hs
    cases hs
  · have hcount : (sinceArm ((now', .cancelled true) :: events)).count (.cancelled true) = 1 := by
      rw [sinceArm_cons rfl, List.count_cons_self, List.count_eq_zero_of_not_mem hnot]
    exact Nat.le_of_eq hcount

theorem Timer.Tells.expire (h : t.Tells events now) {l : Nat} (hl : t.limit = some l)
    (hle : l ≤ now') (hnow : now ≤ now') :
    t.expire.Tells ((now', .aborted) :: events) now' := by
  -- Only a timer that counts down, or has expired before, wins.
  have hdue : ∃ deadline, t.deadline = some deadline ∧ deadline.nanos ≤ now' * 1000000 := by
    rw [Timer.limit] at hl
    cases hstate : t.state with
    | idle => simp [hstate] at hl
    | cancelled => simp [hstate] at hl
    | armed =>
      simp only [hstate, Option.map_eq_some_iff] at hl
      obtain ⟨deadline, hd, rfl⟩ := hl
      exact ⟨deadline, hd, (deadline.due_le_iff now').1 hle⟩
    | expired =>
      obtain ⟨deadline, hd, hdue⟩ := h.due hstate
      exact ⟨deadline, hd, Nat.le_trans hdue (Nat.mul_le_mul_right _ hnow)⟩
  have hidle : t.state ≠ .idle := fun hs => by simp [Timer.limit, hs] at hl
  have hcancelled : t.state ≠ .cancelled := fun hs => by simp [Timer.limit, hs] at hl
  constructor
  · rw [lastArm?_cons rfl, ← h.idle]
    simp [Timer.expire, hidle]
  · rw [sinceArm_cons rfl, List.mem_cons, ← h.cancelled]
    simp [Timer.expire, hcancelled]
  · rw [sinceArm_cons rfl]
    simp [Timer.expire]
  · rw [lastArm?_cons rfl]
    exact h.timeout
  · rw [lastArm?_cons rfl]
    exact h.deadline
  · exact fun _ => hdue
  · rw [sinceArm_cons rfl, List.count_cons_of_ne (by simp)]
    exact h.once

/-- What the timer tells after any history. -/
theorem TimerHistory.tells (hs : s.timer = .idle) (h : TimerHistory s events s') :
    s'.timer.Tells events s'.clock := by
  induction h with
  | none =>
    rw [hs]
    constructor <;> simp [Timer.idle, lastArm?, sinceArm]
  | @next events s' s'' e before h ih =>
    have hacts := h.acts
    rcases hquiet : e.isQuiet with _ | _
    · have htimer := hacts.timer
      rw [htimer]
      cases e with
      | armed timeout => exact .arm _ _ _
      | cancelled counting =>
        cases counting with
        | true => exact ih.cancel (hacts.cancelled true rfl).symm
        | false => cases hquiet
      | aborted =>
        obtain ⟨l, hl, hle⟩ := hacts.aborted rfl
        exact ih.expire hl hle hacts.clock
      | completed => cases hquiet
      | abandoned => cases hquiet
      | awaited => cases hquiet
      | passed => cases hquiet
    · rw [hacts.timer_eq hquiet]
      exact ih.quiet hquiet hacts.clock

/-! ## One arming -/

/-- An arming that has ended is not ended again. -/
theorem Session.Acts.stays (h : s.Acts e s') (he : e.arms = false)
    (hs : s.timer.state = .cancelled ∨ s.timer.state = .expired) :
    s'.timer = s.timer ∧ e ≠ .cancelled true ∧ (s.timer.state = .cancelled → e ≠ .aborted) := by
  have hcancel : e ≠ .cancelled true := by
    rintro rfl
    have harmed := h.cancelled true rfl
    rcases hs with hs | hs <;> simp [Timer.isArmed, hs] at harmed
  have habort : s.timer.state = .cancelled → e ≠ .aborted := by
    rintro hs rfl
    obtain ⟨l, hl, -⟩ := h.aborted rfl
    simp [Timer.limit, hs] at hl
  refine ⟨?_, hcancel, habort⟩
  rcases hquiet : e.isQuiet with _ | _
  · cases e with
    | aborted =>
      have hexpired : s.timer.state = .expired := hs.resolve_left fun hs => habort hs rfl
      rw [h.timer, TimerEvent.effect, Timer.expire, ← hexpired]
    | cancelled counting =>
      cases counting with
      | true => exact absurd rfl hcancel
      | false => cases hquiet
    | armed => cases he
    | completed => cases hquiet
    | abandoned => cases hquiet
    | awaited => cases hquiet
    | passed => cases hquiet
  · exact h.timer_eq hquiet

/-- Once it is cancelled or has expired, a timer stays as it is until it is armed again. -/
theorem TimerHistory.stays (h : TimerHistory s events s')
    (hs : s.timer.state = .cancelled ∨ s.timer.state = .expired)
    (harms : ∀ event ∈ events, event.2.arms = false) :
    s'.timer = s.timer ∧ ∀ event ∈ events, event.2 ≠ .cancelled true ∧
      (s.timer.state = .cancelled → event.2 ≠ .aborted) := by
  induction h with
  | none => exact ⟨rfl, by simp⟩
  | @next events s' s'' e before h ih =>
    obtain ⟨htimer, hevents⟩ := ih fun event hm => harms event (.tail _ hm)
    obtain ⟨htimer', hcancel, habort⟩ := h.acts.stays (harms _ (.head _)) (by rwa [htimer])
    refine ⟨htimer'.trans htimer, fun event hm => ?_⟩
    rcases List.mem_cons.1 hm with rfl | hm
    · exact ⟨hcancel, by rwa [htimer] at habort⟩
    · exact hevents event hm

/-- An event that does not arm a timer keeps its timeout and its deadline. -/
theorem Session.Acts.keeps (h : s.Acts e s') (he : e.arms = false) :
    s'.timer.timeout = s.timer.timeout ∧ s'.timer.deadline = s.timer.deadline := by
  rw [h.timer]
  cases e with
  | armed => cases he
  | cancelled => exact ⟨s.timer.cancel_timeout, s.timer.cancel_deadline⟩
  | _ => exact ⟨rfl, rfl⟩

theorem Op.run?_cancelTimer (s : Session) :
    cancelTimer.run? s = some (s.timer.isArmed, s.cancelled) :=
  (run?_eq_some_iff ..).2 (outcome_cancelTimer s)

/-- What a new timer tells after any history, and what can come later.  It counts down from
an arming to the first of a cancel and a lost race, and there is only the one or the
other. -/
theorem timer_life {s₁ s₂ : Session} {earlier later : List (Nat × TimerEvent)}
    (hs : s.timer = .idle) (h₁ : TimerHistory s earlier s₁) (h₂ : TimerHistory s₁ later s₂) :
    s₁.timer.Tells earlier s₁.clock ∧
    (∀ armed timeout, lastArm? earlier = some (armed, timeout) →
      s₁.timer.deadline =
        if armed * 1000000 + timeout.nanos < Deadline.range then
          some ⟨armed * 1000000 + timeout.nanos⟩
        else none) ∧
    ¬(.cancelled true ∈ sinceArm earlier ∧ .aborted ∈ sinceArm earlier) ∧
    ((∀ event ∈ later, event.2.arms = false) →
      (s₁.timer.state = .cancelled →
        s₂.timer = s₁.timer ∧ ∀ event ∈ later, event.2 ≠ .aborted ∧ event.2 ≠ .cancelled true) ∧
      (s₁.timer.state = .expired →
        s₂.timer = s₁.timer ∧ ∀ event ∈ later, event.2 ≠ .cancelled true)) ∧
    (∀ e s', s₁.Undergoes e s' →
      (e.isQuiet → s'.timer = s₁.timer) ∧
      (e.arms = false → s'.timer.timeout = s₁.timer.timeout ∧
        s'.timer.deadline = s₁.timer.deadline)) ∧
    Op.cancelTimer.run? s₁ = some (s₁.timer.isArmed, s₁.cancelled) ∧
    (s₁.timer.isArmed ↔ lastArm? earlier ≠ none ∧ .cancelled true ∉ sinceArm earlier ∧
      .aborted ∉ sinceArm earlier) := by
  have htells := h₁.tells hs
  refine ⟨htells, ?_, ?_, ?_, ?_, Op.run?_cancelTimer s₁, ?_⟩
  · intro armed timeout harm
    rw [htells.deadline, harm, Option.bind_some, Deadline.after]
  · rintro ⟨hcancelled, hexpired⟩
    have hstate := htells.cancelled.2 hcancelled
    rw [htells.expired.2 hexpired] at hstate
    cases hstate
  · intro harms
    refine ⟨fun hstate => ?_, fun hstate => ?_⟩
    · obtain ⟨htimer, hevents⟩ := h₂.stays (.inl hstate) harms
      exact ⟨htimer, fun event hm => ⟨(hevents event hm).2 hstate, (hevents event hm).1⟩⟩
    · obtain ⟨htimer, hevents⟩ := h₂.stays (.inr hstate) harms
      exact ⟨htimer, fun event hm => (hevents event hm).1⟩
  · intro e s' h
    exact ⟨h.acts.timer_eq, h.acts.keeps⟩
  · rw [← htells.cancelled, ← htells.expired, ne_eq, ← htells.idle, Timer.isArmed]
    cases s₁.timer.state <;> simp

/-- A timer of one second is over while a server keeps silent, and a cancel comes too late.
Without a race that was lost it would have come in time, and then the next race is won. -/
theorem timer_life_silent :
    let gate : Endpoint := .v4 ⟨10, 0, 0, 1⟩ 1080
    let s := Session.start { servers := [{ address := gate, behaviour := .accepts [[]] }] }
    let lost : List (Nat × TimerEvent) :=
      [(1000, .aborted), (0, .completed), (0, .armed (.ofSecs 1))]
    let slept : List (Nat × TimerEvent) := [(2000, .passed), (0, .armed (.ofSecs 1))]
    (∃ s₁ s₂, s.timer = .idle ∧ TimerHistory s lost s₁ ∧
      TimerHistory s₁ [(1000, .cancelled false)] s₂ ∧ s₁.timer.state = .expired ∧
      s₁.timer.Tells lost s₁.clock ∧ s₂.timer = s₁.timer ∧
      lastArm? lost = some (0, .ofSecs 1) ∧
      s₁.timer.deadline =
        if 0 * 1000000 + (Duration.ofSecs 1).nanos < Deadline.range then
          some ⟨0 * 1000000 + (Duration.ofSecs 1).nanos⟩
        else none) ∧
    ∃ s₁ s₂ s₃, TimerHistory s slept s₁ ∧ s₁.timer.isArmed ∧
      Op.cancelTimer.run? s₁ = some (true, s₂) ∧
      TimerHistory s ((2000, .cancelled true) :: slept) s₂ ∧
      TimerHistory s₂ [(7000, .completed)] s₃ ∧ s₃.timer = s₂.timer := by
  intro gate s lost slept
  have hsilent : (Op.readExact 8).LeavesTimer := (Op.Orderly.readExact 8).leavesTimer
  have hconnect : (Op.connect [gate]).LeavesTimer := (Op.Orderly.connect [gate]).leavesTimer
  have hready : (Op.ready (some 5000) (Except.ok () : Except IoError Unit)).LeavesTimer :=
    (Op.Orderly.ready _ _).leavesTimer
  let armed := s.armed (.ofSecs 1)
  have harm : TimerHistory s [(0, .armed (.ofSecs 1))] armed := .next .none (.arm rfl)
  refine ⟨?_, ?_⟩
  · obtain ⟨lapsed, hlost, hend⟩ : ∃ lapsed, TimerHistory s lost lapsed ∧ lapsed.clock = 1000 := by
      let connected := (((Op.race (Op.connect [gate])).giveUpAt none).outcome armed).2
      let lapsed := (((Op.race (Op.readExact 8)).giveUpAt none).outcome connected).2
      have hanswer : (((Op.race (Op.connect [gate])).giveUpAt none).outcome armed).1 =
          some (some (.completed (.ok gate))) := by
        dsimp only [armed, s, gate]
        rfl
      have hsilence : (((Op.race (Op.readExact 8)).giveUpAt none).outcome connected).1 =
          some (some .aborted) := by
        dsimp only [connected, armed, s, gate]
        rfl
      have hstart : connected.clock = 0 := by
        dsimp only [connected, armed, s, gate]
        rfl
      have hend : lapsed.clock = 1000 := by
        dsimp only [lapsed, connected, armed, s, gate]
        rfl
      exact ⟨lapsed, (harm.next_at (.race hconnect (Op.run?_of_outcome hanswer)) hstart).next_at
        (.race hsilent (Op.run?_of_outcome hsilence)) hend, hend⟩
    obtain ⟨htells, hdeadline, -, -, -, hcancel, -⟩ := timer_life rfl hlost .none
    have hexpired : lapsed.timer.state = .expired := htells.expired.2 (by decide)
    have hlapsed : lapsed.timer.isArmed = false := by simp [Timer.isArmed, hexpired]
    rw [hlapsed] at hcancel
    have hlate : TimerHistory lapsed [(1000, .cancelled false)] lapsed.cancelled :=
      TimerHistory.none.next_at (.cancel hcancel) (by simpa using hend)
    obtain ⟨-, -, -, hlater, -⟩ := timer_life rfl hlost hlate
    exact ⟨lapsed, lapsed.cancelled, rfl, hlost, hlate, hexpired, htells,
      ((hlater (by decide)).2 hexpired).1, rfl, hdeadline 0 (.ofSecs 1) rfl⟩
  · obtain ⟨asleep, hasleep, hwoken⟩ : ∃ asleep, TimerHistory s slept asleep ∧
        asleep.clock = 2000 := by
      let asleep := ((Op.sleep 2000).outcome armed).2
      have hsleep : ((Op.sleep 2000).outcome armed).1 = some () := by
        dsimp only [armed, s, gate]
        rfl
      have hwoken : asleep.clock = 2000 := by
        dsimp only [asleep, armed, s, gate]
        rfl
      have hquiet : (Op.sleep 2000).LeavesTimer := (Op.Orderly.sleep 2000).leavesTimer
      exact ⟨asleep, harm.next_at (.pass hquiet (Op.run?_of_outcome hsleep)) hwoken, hwoken⟩
    obtain ⟨-, -, -, -, -, hrun, harmed⟩ := timer_life rfl hasleep .none
    have hcounting : asleep.timer.isArmed := harmed.2 (by decide)
    rw [hcounting] at hrun
    have hcancel : TimerHistory s ((2000, .cancelled true) :: slept) asleep.cancelled :=
      hasleep.next_at (.cancel hrun) (by simpa using hwoken)
    have htimer : asleep.cancelled.timer.limit = none := by
      have hstate := (hcancel.tells rfl).cancelled.2 (by decide)
      rw [Timer.limit, hstate]
    have hrace : ((Op.race (Op.ready (some 5000) (Except.ok ()))).giveUpAt none).run?
        asleep.cancelled = some (some (.completed (.ok ())), asleep.cancelled.later 5000) := by
      rw [Op.run?_eq_some_iff, Op.outcome_giveUpAt_none, Op.outcome_race, htimer,
        Op.outcome_giveUpAt_none, Op.outcome_ready]
      rfl
    have hdone : TimerHistory asleep.cancelled [(7000, .completed)]
        (asleep.cancelled.later 5000) :=
      TimerHistory.none.next_at (.race hready hrace) (by simp [hwoken])
    obtain ⟨htells, -, -, hlater, -⟩ := timer_life rfl hcancel hdone
    exact ⟨asleep, asleep.cancelled, _, hasleep, hcounting, hrun, hcancel, hdone,
      ((hlater (by decide)).1 (htells.cancelled.2 (by decide))).1⟩

end ProxyDial
