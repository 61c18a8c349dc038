import ProxyDial.Proofs.Session.Sending

/-!
# What a session logs

Two kinds of events tell how far an operation has come: its own steps (`Event.isStep`) and
what happens to the timer (`Event.isTimer`).  `Session.Logs` says which of them were recorded
between two sessions, in order.  Work on the socket records neither, so it leaves no mark
(`Op.Connects.logs`, `Op.Reads.logs`, `Op.Writes.logs`).
-/

namespace ProxyDial

namespace Event

/-- Whether an operation has gone from a state to the next. -/
def isStep : Event → Bool
  | connectStep .. => true
  | handshakeStep .. => true
  | _ => false

/-- Whether the timer was armed or ended. -/
def isTimer : Event → Bool
  | timerArmed _ => true
  | timerCancelled => true
  | deadlineReached _ => true
  | _ => false

/-- Whether an event tells how far an operation has come. -/
def isMark (e : Event) : Bool := e.isStep || e.isTimer

theorem isTimer_of_isStep {e : Event} (h : e.isStep) : e.isTimer = false := by
  cases e with
  | connectStep => rfl
  | handshakeStep => rfl
  | _ => cases h

theorem filter_isStep_filter_isMark (events : List Event) :
    (events.filter isMark).filter isStep = events.filter isStep := by
  rw [List.filter_filter]
  exact List.filter_congr fun e _ => by cases h : e.isStep <;> simp [isMark, h]

theorem filter_isTimer_filter_isMark (events : List Event) :
    (events.filter isMark).filter isTimer = events.filter isTimer := by
  rw [List.filter_filter]
  exact List.filter_congr fun e _ => by cases h : e.isTimer <;> simp [isMark, h]

end Event

/-- Whether `s'` comes after `s` and the marks between them are these. -/
def Session.Logs (s s' : Session) (marks : List Event) : Prop :=
  ∃ events, s'.log = s.log ++ events ∧ events.filter Event.isMark = marks

namespace Session

variable {s s' s'' : Session} {marks marks' : List Event}

namespace Logs

theorem of_log_eq (h : s'.log = s.log) : s.Logs s' [] := ⟨[], by simpa using h, rfl⟩

theorem refl (s : Session) : s.Logs s [] := of_log_eq rfl

theorem trans (h : s.Logs s' marks) (h' : s'.Logs s'' marks') : s.Logs s'' (marks ++ marks') := by
  obtain ⟨events, hlog, hmarks⟩ := h
  obtain ⟨events', hlog', hmarks'⟩ := h'
  refine ⟨events ++ events', ?_, ?_⟩
  · rw [hlog', hlog, List.append_assoc]
  · rw [List.filter_append, hmarks, hmarks']

/-- What leaves no mark may come after anything. -/
theorem quietly (h : s.Logs s' marks) (h' : s'.Logs s'' []) : s.Logs s'' marks := by
  have hall := h.trans h'
  rwa [List.append_nil] at hall

theorem record (h : s.Logs s' marks) {e : Event} (he : e.isMark) :
    s.Logs (s'.record e) (marks ++ [e]) :=
  h.trans ⟨[e], rfl, by simp [he]⟩

theorem record_quiet (h : s.Logs s' marks) {e : Event} (he : e.isMark = false) :
    s.Logs (s'.record e) marks :=
  h.quietly ⟨[e], rfl, by simp [he]⟩

theorem later (h : s.Logs s' marks) (millis : Nat) : s.Logs (s'.later millis) marks := by
  cases millis <;> exact h

theorem closed (h : s.Logs s' marks) : s.Logs s'.closed marks := by
  unfold Session.closed
  split
  · exact h
  · rename_i c _
    exact h.record_quiet (e := .closing c.remote?) rfl

theorem armed (h : s.Logs s' marks) (timeout : Duration) :
    s.Logs (s'.armed timeout) (marks ++ [.timerArmed timeout]) :=
  h.record (e := .timerArmed timeout) rfl

theorem expired (h : s.Logs s' marks) :
    s.Logs s'.expired (marks ++ [.deadlineReached s'.timer.timeout]) :=
  h.record (e := .deadlineReached s'.timer.timeout) rfl

/-- Stopping a timer that counts down leaves a mark. -/
theorem cancelled (h : s.Logs s' marks) (ht : s'.timer.isArmed) :
    s.Logs s'.cancelled (marks ++ [.timerCancelled]) := by
  rw [Session.cancelled, if_pos ht]
  exact h.record (e := .timerCancelled) rfl

/-- Stopping any other timer leaves none. -/
theorem cancelled_quiet (h : s.Logs s' marks) (ht : s'.timer.isArmed = false) :
    s.Logs s'.cancelled marks := by
  rw [Session.cancelled, if_neg (by simp [ht])]
  exact h

end Logs

end Session

namespace Op

variable {limit : Option Nat} {s s' : Session}

/-- A walk over candidates marks nothing and leaves the timer alone. -/
theorem Connects.logs {last : IoError} {endpoints : List Endpoint}
    {o : Option (Option (Except IoError Endpoint)) × Session}
    (hc : Connects limit last endpoints s o) : s.Logs o.2 [] ∧ o.2.timer = s.timer := by
  have hattempt {s : Session} {e : Endpoint} {o : Option (Option (Except IoError Unit)) × Session}
      (ha : Attempts limit s e o) : s.Logs o.2 [] ∧ o.2.timer = s.timer :=
    ⟨.of_log_eq ha.quiet.1, ha.quiet.2⟩
  induction hc with
  | exhausted => exact ⟨.refl _, rfl⟩
  | refused ha _ ih =>
    obtain ⟨hlogs, htimer⟩ := hattempt ha
    exact ⟨(hlogs.record_quiet rfl).trans ih.1, ih.2.trans htimer⟩
  | accepted ha => exact hattempt ha
  | late ha => exact hattempt ha
  | never ha => exact hattempt ha

/-- So does a read. -/
theorem Reads.logs {α : Type} {isReady : Connection → Bool} {c : Connection}
    {take : Connection → Except IoError α × Connection}
    {o : Option (Option (Except IoError α)) × Session} (hr : Reads isReady take limit s c o) :
    s.Logs o.2 [] ∧ o.2.timer = s.timer :=
  ⟨.of_log_eq hr.quiet.1, hr.quiet.2.1⟩

/-- So does a write. -/
theorem Writes.logs {bytes : List UInt8} {c : Connection}
    {o : Option (Option (Except IoError Unit)) × Session} (hw : Writes limit bytes s c o) :
    s.Logs o.2 [] ∧ o.2.timer = s.timer :=
  ⟨.of_log_eq hw.quiet.1, hw.quiet.2.1⟩

end Op

end ProxyDial
