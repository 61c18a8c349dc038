import ProxyDial.Json.Quoted

/-!
# Strings that were written

Each character of a written string is one part for the reader.  `part` says which: an
escape of a code unit for a control character without a short escape, and the character
itself for any other.  So a string reads back as it was, with whatever follows it left
over (`units?_write`, `text?_map_part`).
-/

namespace ProxyDial

/-- Two zeros before the digits of a byte change nothing. -/
theorem Hex.number?_byteDigits (b : UInt8) :
    Hex.number? ('0' :: '0' :: Hex.byteDigits b) = some b.toNat := by
  have hb := b.toNat_lt
  have hzero : Hex.digit? '0' = some 0 := by decide
  have hhigh := Hex.digit?_digitChar (b.toNat / 16) (by omega)
  have hlow := Hex.digit?_digitChar (b.toNat % 16) (by omega)
  have hsum : 16 * (b.toNat / 16) + b.toNat % 16 = b.toNat := Nat.div_add_mod _ _
  simp [Hex.number?, Hex.byteDigits, hzero, hhigh, hlow, hsum]

namespace Json.Quoted

/-- Whether a character is written as an escape of its code unit. -/
def isCoded (c : Char) : Bool :=
  decide (c.toNat < 0x20) && decide (c ∉ ['\x08', '\x0c', '\n', '\r', '\t'])

/-- The part as which a written character is read. -/
def part (c : Char) : Part := if isCoded c then .unit c.toNat else .char c

/-! ## Reading one part -/

theorem units?_quote (cs : List Char) : units? ('"' :: cs) = some ([], cs) := by
  rw [units?.eq_def]
  rfl

theorem units?_short {e c : Char} (he : shortEscape? e = some c) (cs : List Char) :
    units? ('\\' :: e :: cs) = (units? cs).map fun (parts, rest) => (.char c :: parts, rest) := by
  have hu : e ≠ 'u' := by
    rintro rfl
    cases he
  rw [units?.eq_def]
  simp [hu, he]

theorem units?_code {h₁ h₂ h₃ h₄ : Char} {n : Nat} (hn : Hex.number? [h₁, h₂, h₃, h₄] = some n)
    (cs : List Char) :
    units? ('\\' :: 'u' :: h₁ :: h₂ :: h₃ :: h₄ :: cs) =
      (units? cs).map fun (parts, rest) => (.unit n :: parts, rest) := by
  rw [units?.eq_def]
  simp [hn]

/-- A character that is not escaped stands for itself. -/
theorem units?_plain {c : Char} (hquote : c ≠ '"') (hslash : c ≠ '\\') (hc : ¬c.toNat < 0x20)
    (cs : List Char) :
    units? (c :: cs) = (units? cs).map fun (parts, rest) => (.char c :: parts, rest) := by
  rw [units?.eq_def]
  simp only [if_neg hquote, if_neg hslash, if_neg hc]

/-! ## Reading what was written -/

/-- What a written character is read as. -/
theorem units?_escape (c : Char) (cs : List Char) :
    units? (escape c ++ cs) = (units? cs).map fun (parts, rest) => (part c :: parts, rest) := by
  by_cases hshort : c ∈ ['"', '\\', '\x08', '\x0c', '\n', '\r', '\t']
  · simp only [List.mem_cons, List.not_mem_nil, or_false] at hshort
    rcases hshort with rfl | rfl | rfl | rfl | rfl | rfl | rfl <;> exact units?_short rfl cs
  · simp only [List.mem_cons, List.not_mem_nil, or_false, not_or] at hshort
    obtain ⟨hquote, hslash, hb, hf, hn, hr, ht⟩ := hshort
    rw [escape, if_neg hquote, if_neg hslash, if_neg hb, if_neg hf, if_neg hn, if_neg hr,
      if_neg ht]
    by_cases hc : c.toNat < 0x20
    · have hcoded : isCoded c := by simp [isCoded, hc, hb, hf, hn, hr, ht]
      have hbyte : (UInt8.ofNat c.toNat).toNat = c.toNat := by
        rw [UInt8.toNat_ofNat']
        omega
      have hdigits := Hex.number?_byteDigits (.ofNat c.toNat)
      rw [hbyte] at hdigits
      rw [if_pos hc, part, if_pos hcoded]
      exact units?_code hdigits cs
    · have hplain : isCoded c = false := by simp [isCoded, hc]
      rw [if_neg hc, part, hplain]
      exact units?_plain hquote hslash hc cs

/-- A written string ends with its own quote. -/
theorem units?_write (cs rest : List Char) :
    units? (cs.flatMap escape ++ '"' :: rest) = some (cs.map part, rest) := by
  induction cs with
  | nil => exact units?_quote rest
  | cons c cs ih =>
    rw [List.flatMap_cons, List.append_assoc, units?_escape, ih]
    rfl

/-! ## The text again -/

theorem text?_char (c : Char) (parts : List Part) :
    text? (.char c :: parts) = (text? parts).map (c :: ·) := by
  rw [text?.eq_def]

theorem text?_unit {n : Nat} (hn : n < 0xD800) (parts : List Part) :
    text? (.unit n :: parts) = (text? parts).map (.ofNat n :: ·) := by
  have hhigh : isHigh n = false := by
    simp only [isHigh, decide_eq_false_iff_not]
    omega
  have hlow : isLow n = false := by
    simp only [isLow, decide_eq_false_iff_not]
    omega
  rw [text?.eq_def]
  simp [hhigh, hlow]

/-- What was one character is one again. -/
theorem text?_part (c : Char) (parts : List Part) :
    text? (part c :: parts) = (text? parts).map (c :: ·) := by
  unfold part
  split
  · rename_i hcoded
    have hc : c.toNat < 0x20 := by
      rw [isCoded, Bool.and_eq_true, decide_eq_true_iff] at hcoded
      exact hcoded.1
    rw [text?_unit (by omega), Char.ofNat_toNat]
  · exact text?_char c parts

theorem text?_map_part (cs : List Char) : text? (cs.map part) = some cs := by
  induction cs with
  | nil => rw [List.map_nil, text?.eq_def]
  | cons c cs ih => rw [List.map_cons, text?_part, ih, Option.map_some]

end Json.Quoted

end ProxyDial
