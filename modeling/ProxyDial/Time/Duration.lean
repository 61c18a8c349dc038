import ProxyDial.Text.Decimal

/-!
# Spans of time

A duration counts nanoseconds.  Its text takes the largest of the units s, ms, µs
and ns in which the whole part is not zero, and writes the rest as a fraction
without trailing zeros.
-/

namespace ProxyDial

/-- A span of time. -/
structure Duration where
  /-- Its length in nanoseconds. -/
  nanos : Nat
deriving DecidableEq, Repr, Inhabited

namespace Duration

/-- No time at all. -/
def zero : Duration := ⟨0⟩

/-- Whole seconds. -/
def ofSecs (secs : UInt64) : Duration := ⟨secs.toNat * 1000000000⟩

/-- Seconds and nanoseconds. -/
def ofParts (secs nanos : Nat) : Duration := ⟨secs * 1000000000 + nanos⟩

/-- Seconds and nanoseconds, if they make less than `2 ^ 64` seconds. -/
def ofParts? (secs nanos : Nat) : Option Duration :=
  if (ofParts secs nanos).nanos < UInt64.size * 1000000000 then some (ofParts secs nanos) else none

/-- The whole seconds. -/
def secs (d : Duration) : Nat := d.nanos / 1000000000

/-- The nanoseconds after the last whole second. -/
def subsecNanos (d : Duration) : Nat := d.nanos % 1000000000

theorem ofParts_secs_subsecNanos (d : Duration) : ofParts d.secs d.subsecNanos = d :=
  congrArg mk (Nat.div_add_mod' d.nanos 1000000000)

/-- Every span of less than `2 ^ 64` seconds is made of its parts. -/
theorem ofParts?_secs_subsecNanos {d : Duration} (h : d.nanos < UInt64.size * 1000000000) :
    ofParts? d.secs d.subsecNanos = some d := by
  rw [ofParts?, ofParts_secs_subsecNanos, if_pos h]

/-- The digits of `n / 10 ^ width` after the point, without trailing zeros. -/
def fraction (width n : Nat) : List Char :=
  let digits := Decimal.write n
  let padded := List.replicate (width - digits.length) '0' ++ digits
  (padded.reverse.dropWhile (· = '0')).reverse

/-- A number of units, each `10 ^ width` nanoseconds long, followed by the name of
the unit. -/
def textIn (width : Nat) (unit : String) (nanos : Nat) : String :=
  let whole := Decimal.write (nanos / Nat.pow 10 width)
  let part := fraction width (nanos % Nat.pow 10 width)
  .ofList (if part = [] then whole else whole ++ '.' :: part) ++ unit

/-- The text of a duration. -/
def text (d : Duration) : String :=
  if 1000000000 ≤ d.nanos then textIn 9 "s" d.nanos
  else if 1000000 ≤ d.nanos then textIn 6 "ms" d.nanos
  else if 1000 ≤ d.nanos then textIn 3 "µs" d.nanos
  else textIn 0 "ns" d.nanos

example : (ofParts 1 500000000).text = "1.5s" := by decide
example : (ofParts 0 20050).text = "20.05µs" := by decide
example : zero.text = "0ns" := by decide
example : (ofParts 2 0).text = "2s" := by decide

end Duration

end ProxyDial
