/-!
# Hexadecimal text

A byte is written as two lower-case digits.  Digits are read in either case.
`decode?_encode` says that bytes read back as themselves.
-/

namespace ProxyDial.Hex

/-- The value of a hexadecimal digit, upper or lower case. -/
def digit? (c : Char) : Option Nat :=
  if '0' ≤ c ∧ c ≤ '9' then some (c.toNat - '0'.toNat)
  else if 'a' ≤ c ∧ c ≤ 'f' then some (c.toNat - 'a'.toNat + 10)
  else if 'A' ≤ c ∧ c ≤ 'F' then some (c.toNat - 'A'.toNat + 10)
  else none

/-- The number a run of digits writes.  The empty run writes zero. -/
def number? (cs : List Char) : Option Nat :=
  cs.foldlM (fun n c => (digit? c).map (16 * n + ·)) 0

/-- The two digits of a byte. -/
def byteDigits (b : UInt8) : List Char :=
  [Nat.digitChar (b.toNat / 16), Nat.digitChar (b.toNat % 16)]

/-- A byte as text. -/
def byteText (b : UInt8) : String := .ofList (byteDigits b)

/-- Bytes as digits, two a byte. -/
def encode (bytes : List UInt8) : List Char := bytes.flatMap byteDigits

/-- The bytes that digits write, two a byte. -/
def decode? : List Char → Option (List UInt8)
  | [] => some []
  | [_] => none
  | h :: l :: rest => do
    let high ← digit? h
    let low ← digit? l
    let bytes ← decode? rest
    return UInt8.ofNat (16 * high + low) :: bytes

theorem digit?_digitChar : ∀ n < 16, digit? (Nat.digitChar n) = some n := by decide

theorem decode?_encode (bytes : List UInt8) : decode? (encode bytes) = some bytes := by
  induction bytes with
  | nil => rfl
  | cons b bytes ih =>
    have hb := b.toNat_lt
    have high := digit?_digitChar (b.toNat / 16) (by omega)
    have low := digit?_digitChar (b.toNat % 16) (by omega)
    have same : UInt8.ofNat (16 * (b.toNat / 16) + b.toNat % 16) = b := by
      rw [Nat.div_add_mod]; simp
    have ih' : decode? (bytes.flatMap byteDigits) = some bytes := ih
    simp only [encode, List.flatMap_cons, byteDigits, List.cons_append, List.nil_append, decode?]
    rw [high, low, ih']
    exact congrArg (fun b' => some (b' :: bytes)) same

end ProxyDial.Hex
