import ProxyDial.Time.Deadline

/-!
# The deadline timer

A timer guards one attempt.  It is armed with a timeout and then ended once, by
being cancelled or by expiring.  Reading the clock is left to the caller, so a
timer is a plain value.
-/

namespace ProxyDial

/-- Where a timer is in its life. -/
inductive Timer.State where
  /-- Never armed. -/
  | idle
  /-- Counting down. -/
  | armed
  /-- Cancelled while it counted down. -/
  | cancelled
  /-- An operation was given up at the deadline. -/
  | expired
deriving DecidableEq, Repr, Inhabited

/-- A timer that bounds the operations of one attempt. -/
structure Timer where
  /-- Where the timer is in its life. -/
  state : Timer.State := .idle
  /-- The timeout it was last armed with. -/
  timeout : Duration := .zero
  /-- The deadline, unless the timer was never armed or the deadline is out of the
  clock's range. -/
  deadline : Option Deadline := none
deriving DecidableEq, Repr, Inhabited

namespace Timer

/-- A timer that was never armed. -/
def idle : Timer := {}

/-- Start counting down, in place of any earlier deadline. -/
def arm (now : Nat) (timeout : Duration) : Timer :=
  { state := .armed, timeout, deadline := Deadline.after now timeout }

/-- Whether the timer counts down. -/
def isArmed (t : Timer) : Bool := t.state = .armed

/-- Stop counting down.  A timer that does not count down stays as it is. -/
def cancel (t : Timer) : Timer := if t.isArmed then { t with state := .cancelled } else t

/-- Note that an operation was given up at the deadline. -/
def expire (t : Timer) : Timer := { t with state := .expired }

/-- The instant from which on the timer wins a race.  A timer that has expired
wins at once, and one that is idle, cancelled or without deadline never does. -/
def limit (t : Timer) : Option Nat :=
  match t.state with
  | .armed => t.deadline.map Deadline.due
  | .expired => some 0
  | .idle => none
  | .cancelled => none

theorem isArmed_cancel (t : Timer) : t.cancel.isArmed = false := by
  unfold cancel; cases h : t.isArmed
  · simpa using h
  · rfl

/-- Cancelling changes neither the timeout nor the deadline. -/
theorem cancel_deadline (t : Timer) : t.cancel.deadline = t.deadline := by
  unfold cancel; split <;> rfl

theorem cancel_timeout (t : Timer) : t.cancel.timeout = t.timeout := by
  unfold cancel; split <;> rfl

end Timer

end ProxyDial
