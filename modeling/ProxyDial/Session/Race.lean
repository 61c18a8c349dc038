import ProxyDial.Session.Course

/-!
# Races against the timer

A race runs an operation against the session's timer.  If the timer wins, the
operation is given up and the timer has expired.  All operations of one attempt race
against the same timer, so they share one allowance.
-/

namespace ProxyDial

/-- The outcome of a race. -/
inductive Race (α : Type) where
  /-- The operation finished first. -/
  | completed (result : Except IoError α)
  /-- The timer won. -/
  | aborted
deriving Repr

/-- The outcome in view of the socket afterwards.  A success on a socket that is not
open counts for nothing. -/
def Race.settle {α : Type} (isOpen : Bool) : Race α → Race α
  | .completed (.ok a) => if isOpen then .completed (.ok a) else .aborted
  | .completed (.error e) => .completed (.error e)
  | .aborted => .aborted

namespace Op

/-- Start the session's timer. -/
def armTimer (timeout : Duration) : Op Unit := do
  modify fun s => { s with timer := .arm s.clock timeout }
  record (.timerArmed timeout)

/-- Stop the session's timer.  Gives whether it was counting down. -/
def cancelTimer : Op Bool := do
  let s ← get
  if s.timer.isArmed then
    modify fun s => { s with timer := s.timer.cancel }
    record .timerCancelled
    return true
  else return false

/-- Put a timer that was never armed into the session. -/
def newTimer : Op Unit := modify fun s => { s with timer := .idle }

/-- Wait until the timer would win a race. -/
def expiry : Op Unit := do
  let s ← get
  match s.timer.limit with
  | none => never
  | some l => if l ≤ s.clock then return () else sleepUntil l

/-- Note that the timer has won. -/
def expireTimer : Op Unit := do
  let s ← get
  modify fun s => { s with timer := s.timer.expire }
  record (.deadlineReached s.timer.timeout)

/-- Run an operation against the timer. -/
def race {α : Type} (op : Op (Except IoError α)) : Op (Race α) := do
  let s ← get
  match ← op.giveUpAt s.timer.limit with
  | some result => return .completed result
  | none =>
    expireTimer
    return .aborted

end Op

end ProxyDial
