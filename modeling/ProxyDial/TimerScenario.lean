import ProxyDial.Session.Race

/-!
# Timer scenarios

A timer scenario is a list of steps on the timer of a session without a network.
The clock moves only while a step waits.
-/

namespace ProxyDial

/-- A step on a timer.  Operations give values of a type `α` or fail. -/
inductive TimerStep (α : Type) where
  /-- Put a new timer in place of the old one. -/
  | renew
  | arm (timeout : Duration)
  | cancel
  /-- Do nothing for so many milliseconds. -/
  | sleep (millis : Nat)
  /-- Wait until the timer would win a race, but no longer than `patience`
  milliseconds. -/
  | expired (patience : Nat)
  /-- Race an operation that is ready `after` so many milliseconds, and give the race
  up after `patience`.  With `isOpen` the outcome is settled. -/
  | race (after : Option Nat) (result : Except IoError α) (isOpen : Option Bool) (patience : Nat)
  | settle (outcome : Race α) (isOpen : Bool)
  /-- Bound an operation by a duration, and give it up after `patience`. -/
  | bounded (limit : Option Duration) (after : Option Nat) (value : α) (patience : Nat)

/-- The outcome of a step on a timer. -/
inductive TimerOutcome (α : Type) where
  /-- There is nothing to tell. -/
  | silent
  | flag (b : Bool)
  | raced (outcome : Race α)
  /-- What a bounded operation gave, if it was in time. -/
  | bounded (value : Option α)
  /-- The step was given up. -/
  | pending

namespace TimerStep

variable {α : Type}

/-- Take a step on the session's timer. -/
def run : TimerStep α → Op (TimerOutcome α)
  | renew => do
    Op.newTimer
    return .silent
  | arm timeout => do
    Op.armTimer timeout
    return .silent
  | cancel => return .flag (← Op.cancelTimer)
  | sleep millis => do
    Op.sleep millis
    return .silent
  | expired patience => return .flag (← Op.giveUpAfter patience Op.expiry).isSome
  | race after result isOpen patience => do
    match ← Op.giveUpAfter patience (Op.race (Op.ready after result)) with
    | none => return .pending
    | some outcome =>
      match isOpen with
      | none => return .raced outcome
      | some isOpen => return .raced (outcome.settle isOpen)
  | settle outcome isOpen => return .raced (outcome.settle isOpen)
  | bounded limit after value patience => do
    match ← Op.giveUpAfter patience (Op.bounded limit (Op.ready after value)) with
    | none => return .pending
    | some value => return .bounded value

end TimerStep

/-- What can be seen after a step on a timer. -/
structure TimerReport (α : Type) where
  /-- The outcome. -/
  outcome : TimerOutcome α
  /-- The timer. -/
  timer : Timer
  /-- The clock. -/
  clock : Nat

/-- Take a step and look at the timer after it. -/
def TimerStep.report {α : Type} (step : TimerStep α) : Op (TimerReport α) := do
  let outcome ← step.run
  let s ← Op.get
  return { outcome, timer := s.timer, clock := s.clock }

/-- Take steps one after the other. -/
def TimerStep.reportAll {α : Type} : List (TimerStep α) → Op (List (TimerReport α))
  | [] => return []
  | step :: steps => do
    let report ← step.report
    let reports ← reportAll steps
    return report :: reports

end ProxyDial
