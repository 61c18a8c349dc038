import Mathlib.Algebra.Group.Nat.Defs
import Mathlib.Data.List.Induction
import ProxyDial.Text.Decimal
import ProxyDial.Text.Hex

/-!
# Numerals

`Nat.toDigits` writes a number in its only form without superfluous zeros.  The readers of
decimal and hexadecimal text read that form back, and `Decimal.plain?` reads no other
(`Decimal.plain?_eq_some_iff`).
-/

namespace ProxyDial

/-! ## Decimal numerals -/

namespace Decimal

variable {cs : List Char} {n : Nat}

theorem isDigit_of_mem_write {c : Char} (h : c ∈ write n) : c.isDigit :=
  Nat.isDigit_of_mem_toDigits (by decide) (by decide) h

/-- No number but zero is written with a zero first. -/
theorem head?_write {n : Nat} (hn : 0 < n) : (write n).head? ≠ some '0' := by
  induction n using Nat.strongRecOn with
  | ind n ih =>
    rcases Nat.lt_or_ge n 10 with h | h
    · have hdigit : ∀ m < 10, 0 < m → Nat.digitChar m ≠ '0' := by decide
      rw [write, Nat.toDigits_of_lt_base h]
      simpa using hdigit n h hn
    · have htens := ih (n / 10) (by omega) (by omega)
      obtain ⟨d, ds, hw⟩ := List.exists_cons_of_ne_nil (Nat.toDigits_ne_nil (n := n / 10) (b := 10))
      rw [write, Nat.toDigits_of_base_le (by decide) h]
      rw [write, hw] at htens
      rwa [hw]

/-- A digit is what is written for its value. -/
theorem digitChar_of_isDigit {c : Char} (h : c.isDigit) :
    c.toNat - '0'.toNat < 10 ∧ Nat.digitChar (c.toNat - '0'.toNat) = c := by
  obtain ⟨hle, hge⟩ := Char.isDigit_iff_toNat.1 h
  have hzero : '0'.toNat = 48 := rfl
  have hnine : '9'.toNat = 57 := rfl
  have hlt : c.toNat - '0'.toNat < 10 := by omega
  refine ⟨hlt, Char.toNat_inj.1 ?_⟩
  rw [Nat.toNat_digitChar_of_lt_ten hlt]
  omega

/-- Digits after a number other than zero make another number. -/
theorem write_append (hall : ∀ c ∈ cs, c.isDigit) (hn : 0 < n) :
    write n ++ cs = write (Nat.ofDigitChars 10 cs n) := by
  induction cs generalizing n with
  | nil => rw [List.append_nil, Nat.ofDigitChars_nil]
  | cons c cs ih =>
    obtain ⟨hlt, hc⟩ := digitChar_of_isDigit (hall c (.head _))
    have hone : write n ++ [c] = write (10 * n + (c.toNat - '0'.toNat)) := by
      rw [write, write, ← Nat.toDigits_append_toDigits (by decide) hn hlt,
        Nat.toDigits_of_lt_base hlt, hc]
    rw [Nat.ofDigitChars_cons, ← ih (fun d hd => hall d (.tail _ hd)) (by omega), ← hone,
      List.append_assoc, List.singleton_append]

/-- The plain form of a number is the written one. -/
theorem plain?_eq_some_iff : plain? cs = some n ↔ cs = write n := by
  constructor
  · intro h
    unfold plain? at h
    split at h
    · cases h
      rfl
    · rename_i hzero
      split at h
      · cases h
      · rename_i hhead
        unfold digits? at h
        split at h
        · rename_i hdigits
          cases h
          obtain ⟨c, cs, rfl⟩ := List.exists_cons_of_ne_nil hdigits.1
          obtain ⟨hc, hall⟩ := List.forall_mem_cons.1 (List.all_eq_true.1 hdigits.2)
          obtain ⟨hlt, hchar⟩ := digitChar_of_isDigit hc
          have hpos : 0 < c.toNat - '0'.toNat := by
            refine Nat.pos_of_ne_zero fun h => hhead ?_
            rw [h] at hchar
            rw [List.head?_cons, ← hchar]
            rfl
          rw [Nat.ofDigitChars_cons, Nat.mul_zero, Nat.zero_add, ← write_append hall hpos, write,
            Nat.toDigits_of_lt_base hlt, hchar, List.singleton_append]
        · cases h
  · rintro rfl
    rcases Nat.eq_zero_or_pos n with rfl | hn
    · rfl
    · have hhead := head?_write hn
      unfold plain?
      split
      · rename_i hzero
        rw [hzero] at hhead
        exact absurd rfl hhead
      · rw [if_neg hhead, digits?_write]

end Decimal

/-! ## Hexadecimal numerals -/

namespace Hex

variable {cs : List Char} {n : Nat}

theorem number?_append (cs : List Char) (c : Char) :
    number? (cs ++ [c]) = (number? cs).bind fun n => (digit? c).map (16 * n + ·) := by
  rw [number?, number?, List.foldlM_append, Option.bind_eq_bind]
  congr
  funext n
  rw [List.foldlM_cons, Option.bind_eq_bind]
  cases digit? c <;> rfl

theorem number?_toDigits (n : Nat) : number? (Nat.toDigits 16 n) = some n := by
  induction n using Nat.strongRecOn with
  | ind n ih =>
    rcases Nat.lt_or_ge n 16 with h | h
    · rw [Nat.toDigits_of_lt_base h, ← List.nil_append [n.digitChar], number?_append,
        digit?_digitChar n h]
      simp [number?]
    · rw [Nat.toDigits_of_base_le (by decide) h, number?_append, ih (n / 16) (by omega),
        digit?_digitChar (n % 16) (by omega)]
      simp only [Option.bind_some, Option.map_some, Nat.div_add_mod]

theorem digit?_lt {c : Char} {d : Nat} (h : digit? c = some d) : d < 16 := by
  unfold digit? at h
  simp only [Char.le_def, UInt32.le_iff_toNat_le, Char.toNat_val] at h
  have hzero : '0'.toNat = 48 := rfl
  have hnine : '9'.toNat = 57 := rfl
  have ha : 'a'.toNat = 97 := rfl
  have hf : 'f'.toNat = 102 := rfl
  have hA : 'A'.toNat = 65 := rfl
  have hF : 'F'.toNat = 70 := rfl
  split at h
  · cases h
    omega
  split at h
  · cases h
    omega
  split at h
  · cases h
    omega
  · cases h

theorem isSome_digit?_of_isDigit {c : Char} (h : c.isDigit) : (digit? c).isSome := by
  rw [Char.isDigit, Bool.and_eq_true, decide_eq_true_iff, decide_eq_true_iff] at h
  have hrange : '0' ≤ c ∧ c ≤ '9' := h
  rw [digit?, if_pos hrange]
  rfl

theorem isSome_digit?_of_number? (h : number? cs = some n) {c : Char} (hc : c ∈ cs) :
    (digit? c).isSome := by
  induction cs using List.reverseRecOn generalizing n with
  | nil => cases hc
  | append_singleton cs d ih =>
    rw [number?_append] at h
    obtain ⟨high, hhigh, h⟩ := Option.bind_eq_some_iff.1 h
    obtain ⟨m, hm, -⟩ := Option.map_eq_some_iff.1 h
    rcases List.mem_append.1 hc with hc | hc
    · exact ih hhigh hc
    · rw [List.mem_singleton.1 hc, hm]
      rfl

/-- Each digit is worth four bits. -/
theorem number?_lt (h : number? cs = some n) : n < 16 ^ cs.length := by
  induction cs using List.reverseRecOn generalizing n with
  | nil =>
    cases h
    exact Nat.one_pos
  | append_singleton cs c ih =>
    rw [number?_append] at h
    obtain ⟨high, hhigh, h⟩ := Option.bind_eq_some_iff.1 h
    obtain ⟨d, hd, rfl⟩ := Option.map_eq_some_iff.1 h
    have hlt := ih hhigh
    have hdigit := digit?_lt hd
    rw [List.length_append, List.length_singleton, Nat.pow_succ]
    omega

end Hex

end ProxyDial
