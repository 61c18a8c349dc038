import ProxyDial.Proofs.Text.Numerals
import ProxyDial.Proofs.Text.Pieces
import ProxyDial.Text.LowerCase

/-!
# Texts in either case

ASCII texts that are the same but for the case of letters fold to one text
(`LowerCase.lower_eq_of_sameButCase`).

Case touches letters alone.  So the separators of a text are the same in either case, and so are
its pieces, but for their case (`pieces_map_toLower`).  A hexadecimal numeral keeps its value
(`Hex.number?_map_toLower`).
-/

namespace ProxyDial

variable {c sep : Char} {cs text : List Char} {s s' : String}

/-- Whether two texts are the same but for the case of ASCII letters. -/
def SameButCase (s s' : String) : Prop := s.toList.map Char.toLower = s'.toList.map Char.toLower

instance (s s' : String) : Decidable (SameButCase s s') :=
  inferInstanceAs (Decidable (s.toList.map Char.toLower = s'.toList.map Char.toLower))

/-- Whether every character of a text is ASCII. -/
def IsAscii (s : String) : Prop := ∀ c ∈ s.toList, c.toNat < 128

instance (s : String) : Decidable (IsAscii s) := List.decidableBAll _ s.toList

/-! ## Characters -/

theorem isAlpha_iff : c.isAlpha ↔
    (65 ≤ c.toNat ∧ c.toNat ≤ 90) ∨ (97 ≤ c.toNat ∧ c.toNat ≤ 122) := by
  change (decide (c.val ≥ 'A'.val ∧ c.val ≤ 'Z'.val) ||
    (decide (c.val ≥ 'a'.val) && decide (c.val ≤ 'z'.val))) = true ↔ _
  simp [UInt32.le_iff_toNat_le]

theorem toNat_toLower (c : Char) :
    c.toLower.toNat = if 65 ≤ c.toNat ∧ c.toNat ≤ 90 then c.toNat + 32 else c.toNat := by
  have hrange : c.val ≥ 'A'.val ∧ c.val ≤ 'Z'.val ↔ 65 ≤ c.toNat ∧ c.toNat ≤ 90 := by
    simp [UInt32.le_iff_toNat_le]
  change Char.toNat (if h : c.val ≥ 'A'.val ∧ c.val ≤ 'Z'.val then ⟨c.val + 32, _⟩ else c) = _
  rw [← if_congr hrange rfl rfl]
  split
  · rename_i h
    have hZ : c.toNat ≤ 90 := (hrange.1 h).2
    change (c.val + 32).toNat = _
    rw [UInt32.toNat_add, Char.toNat_val, Nat.mod_eq_of_lt]
    · rfl
    · exact Nat.lt_of_le_of_lt (Nat.add_le_add_right hZ 32) (by decide)
  · rfl

/-- Only a letter comes from a letter. -/
theorem toLower_eq_iff (h : ¬sep.isAlpha) : c.toLower = sep ↔ c = sep := by
  rw [isAlpha_iff] at h
  rw [← Char.toNat_inj, ← Char.toNat_inj, toNat_toLower]
  split
  · omega
  · rfl

theorem not_isAlpha_of_isDigit (h : c.isDigit) : ¬c.isAlpha := by
  have hrange : 48 ≤ c.toNat ∧ c.toNat ≤ 57 := Char.isDigit_iff_toNat.1 h
  rw [isAlpha_iff]
  omega

theorem toNat_toLower_lt_iff : c.toLower.toNat < 128 ↔ c.toNat < 128 := by
  rw [toNat_toLower]
  split
  · omega
  · rfl

/-! ## Texts -/

theorem map_toLower_eq_iff (h : ∀ c ∈ text, ¬c.isAlpha) :
    cs.map Char.toLower = text ↔ cs = text := by
  induction cs generalizing text with
  | nil => rfl
  | cons c cs ih =>
    cases text with
    | nil => simp
    | cons c' text =>
      rw [List.map_cons, List.cons_eq_cons, List.cons_eq_cons, toLower_eq_iff (h c' (.head _)),
        ih fun d hd => h d (.tail _ hd)]

theorem mem_map_toLower (h : ¬sep.isAlpha) : sep ∈ cs.map Char.toLower ↔ sep ∈ cs := by
  simp only [List.mem_map, toLower_eq_iff h, exists_eq_right]

theorem pieces_map_toLower (h : ¬sep.isAlpha) (cs : List Char) :
    pieces sep (cs.map Char.toLower) = (pieces sep cs).map (·.map Char.toLower) := by
  induction cs with
  | nil => rfl
  | cons c cs ih =>
    rw [List.map_cons, pieces, pieces, ih]
    simp only [toLower_eq_iff h]
    split
    · rfl
    · cases pieces sep cs <;> rfl

theorem Hex.digit?_toLower (c : Char) : digit? c.toLower = digit? c := by
  unfold digit?
  simp only [Char.le_def, UInt32.le_iff_toNat_le, Char.toNat_val, toNat_toLower]
  have hzero : '0'.toNat = 48 := rfl
  have hnine : '9'.toNat = 57 := rfl
  have ha : 'a'.toNat = 97 := rfl
  have hf : 'f'.toNat = 102 := rfl
  have hA : 'A'.toNat = 65 := rfl
  have hF : 'F'.toNat = 70 := rfl
  split
  · rw [if_neg (by omega)]
    by_cases hdigit : c.toNat ≤ 70
    · rw [if_pos (by omega), if_neg (by omega), if_neg (by omega), if_pos (by omega)]
      exact congrArg some (by omega)
    · rw [if_neg (by omega), if_neg (by omega), if_neg (by omega), if_neg (by omega),
        if_neg (by omega)]
  · rfl

theorem Hex.number?_map_toLower (cs : List Char) : number? (cs.map Char.toLower) = number? cs := by
  rw [number?, List.foldlM_map]
  simp only [digit?_toLower]
  rfl

/-! ## Folding -/

theorem SameButCase.isAscii (h : SameButCase s s') (hs : IsAscii s) : IsAscii s' := by
  intro c hc
  have hmem : c.toLower ∈ s.toList.map Char.toLower := h ▸ List.mem_map_of_mem hc
  obtain ⟨d, hd, hlower⟩ := List.mem_map.1 hmem
  rw [← toNat_toLower_lt_iff, ← hlower, toNat_toLower_lt_iff]
  exact hs d hd

theorem LowerCase.lower_eq_of_sameButCase (h : SameButCase s s') (hs : IsAscii s) :
    lower s = lower s' := by
  rw [lower_ascii s hs, lower_ascii s' (h.isAscii hs), h]

end ProxyDial
