import ProxyDial.Time.Duration

/-!
# Instants and deadlines

The clock counts whole milliseconds from the start, and an instant is a reading of
it, a plain number.  A deadline is finer: it is set a duration after some instant, to
the nanosecond, and falls due at the first whole millisecond that is not before it.  The
clock's range ends at `2 ^ 63` seconds, and a deadline beyond it does not exist
(`after_eq_none_iff`).
-/

namespace ProxyDial

/-- A point of time at which to give up. -/
structure Deadline where
  /-- Nanoseconds since the start. -/
  nanos : Nat
deriving DecidableEq, Repr

namespace Deadline

/-- The first nanosecond that is out of the clock's range. -/
def range : Nat := 9223372036854775808 * 1000000000

/-- The deadline a duration after an instant, if that is in the clock's range. -/
def after (now : Nat) (d : Duration) : Option Deadline :=
  let nanos := now * 1000000 + d.nanos
  if nanos < range then some ⟨nanos⟩ else none

/-- The instant at which a deadline is reached. -/
def due (d : Deadline) : Nat := (d.nanos + 999999) / 1000000

/-- How long a wait lasts, in milliseconds, that should end at a deadline that does not
exist: thirty years. -/
def farFuture : Nat := 30 * 365 * 86400 * 1000

/-- The instant at which to stop waiting a duration after another instant.  This always
exists. -/
def cutoff (now : Nat) (d : Duration) : Nat := (after now d).elim (now + farFuture) due

/-- The time from the start to the deadline. -/
def sinceStart (d : Deadline) : Duration := ⟨d.nanos⟩

theorem after_eq_none_iff (now : Nat) (d : Duration) :
    after now d = none ↔ range ≤ now * 1000000 + d.nanos := by
  simp [after]

/-- What time it is a duration after an instant. -/
theorem sinceStart_of_after {now : Nat} {d : Duration} {deadline : Deadline}
    (h : after now d = some deadline) : deadline.sinceStart = ⟨now * 1000000 + d.nanos⟩ := by
  rw [after] at h
  split at h
  · cases h
    rfl
  · cases h

/-- A deadline falls due at the first instant that is not before it. -/
theorem due_le_iff (d : Deadline) (t : Nat) : d.due ≤ t ↔ d.nanos ≤ t * 1000000 := by
  unfold due; omega

/-- After whole milliseconds a deadline falls due exactly then. -/
theorem due_of_millis (t : Nat) : (⟨t * 1000000⟩ : Deadline).due = t := by
  dsimp only [due]; omega

end Deadline

end ProxyDial
