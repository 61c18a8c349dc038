import ProxyDial.DialError
import ProxyDial.Session.Socket

/-!
# Attempts

An attempt is an operation that may fail for good.  It has a timer of its own, and
afterwards the socket is closed if it failed (`Attempt.run`).

An attempt that goes through states goes round in a loop.  Each round looks at the
state that is stored and does what is due in it.  Then it is done, or it goes on with
a state that has less before it, so the loop comes to an end (`Attempt.loop`).
-/

namespace ProxyDial

/-- An operation that may fail for good. -/
abbrev Attempt := ExceptT DialError Op

namespace Attempt

/-- Run an attempt from beginning to end.  It has a timer of its own.  If it fails the
socket is closed, and the timer is ended in any case. -/
def run {α : Type} (attempt : Attempt α) : Op (Except DialError α) := do
  Op.newTimer
  let result ← ExceptT.run attempt
  match result with
  | .ok _ => pure ()
  | .error _ => Op.close
  let _ ← Op.cancelTimer
  return result

section

variable {σ : Type} {left : σ → Nat}
  (round : (a : σ) → Attempt (Option { b : σ // left b < left a }))

/-- Go round until a round is done.  There are less than `bound` rounds to come. -/
def loopWithin : (bound : Nat) → (a : σ) → left a < bound → Attempt Unit
  | bound + 1, a, h => do
    match ← round a with
    | none => return ()
    | some ⟨b, hb⟩ => loopWithin bound b (Nat.lt_of_lt_of_le hb (Nat.le_of_lt_succ h))

/-- Go round, beginning with a state, until a round is done. -/
def loop (a : σ) : Attempt Unit := loopWithin round (left a + 1) a (Nat.lt_succ_self _)

/-- The bound makes no difference. -/
theorem loopWithin_eq {bound bound' : Nat} {a : σ} (h : left a < bound) (h' : left a < bound') :
    loopWithin round bound a h = loopWithin round bound' a h' := by
  induction bound generalizing bound' a with
  | zero => exact absurd h (Nat.not_lt_zero _)
  | succ bound ih =>
    cases bound' with
    | zero => exact absurd h' (Nat.not_lt_zero _)
    | succ bound' =>
      rw [loopWithin, loopWithin]
      congr 1
      funext next
      cases next with
      | none => rfl
      | some next => exact ih _ _

/-- A loop is a round and then, unless that is done, the loop. -/
theorem loop_eq (a : σ) : loop round a = (do
    match ← round a with
    | none => return ()
    | some next => loop round next.1) := by
  rw [loop, loopWithin]
  congr 1
  funext next
  cases next with
  | none => rfl
  | some next => exact loopWithin_eq round _ _

end

end Attempt

end ProxyDial
