/-!
# Decimal text

Natural numbers are written without leading zeros, by `Nat.toDigits`.  Readers
differ in what they accept besides: `digits?` takes any run of digits, `plain?`
only the written form.
-/

namespace ProxyDial.Decimal

/-- A natural number as digits. -/
abbrev write (n : Nat) : List Char := Nat.toDigits 10 n

/-- The number that a run of one digit or more writes.  Leading zeros are
fine. -/
def digits? (cs : List Char) : Option Nat :=
  if cs ≠ [] ∧ cs.all Char.isDigit then some (Nat.ofDigitChars 10 cs 0) else none

/-- The number that a run of digits writes in its only written form: a leading
zero stands alone. -/
def plain? : List Char → Option Nat
  | ['0'] => some 0
  | cs => if cs.head? = some '0' then none else digits? cs

theorem digits?_write (n : Nat) : digits? (write n) = some n := by
  have all : (Nat.toDigits 10 n).all Char.isDigit = true := by
    rw [List.all_eq_true]
    exact fun _ hc => Nat.isDigit_of_mem_toDigits (by decide) (by decide) hc
  simp [digits?, all, Nat.ofDigitChars_ten_toDigits]

example : plain? "0".toList = some 0 := by decide
example : plain? "07".toList = none := by decide
example : digits? "007".toList = some 7 := by decide
example : digits? "".toList = none := by decide

end ProxyDial.Decimal
