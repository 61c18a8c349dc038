import ProxyDial.Address.IPv4
import ProxyDial.Proofs.Text.Numerals
import ProxyDial.Proofs.Text.Pieces

/-!
# Texts of IPv4 addresses

An address has one text, its dotted one, and no other text is read as it
(`IPv4.ofChars?_eq_some_iff`).
-/

namespace ProxyDial.IPv4

variable {cs : List Char} {ip : IPv4}

theorem octet?_eq_some_iff {o : UInt8} : octet? cs = some o ↔ cs = Decimal.write o.toNat := by
  rw [octet?, Option.bind_eq_bind, Option.bind_eq_some_iff, ← Decimal.plain?_eq_some_iff]
  constructor
  · rintro ⟨n, hn, h⟩
    split at h
    · cases h
      rwa [UInt8.toNat_ofNat_of_lt' ‹_›]
    · cases h
  · intro h
    exact ⟨_, h, by rw [if_pos o.toNat_lt, UInt8.ofNat_toNat]⟩

theorem dot_not_mem_write (n : Nat) : '.' ∉ Decimal.write n := fun h =>
  absurd (Decimal.isDigit_of_mem_write h) (by decide)

theorem chars_eq (ip : IPv4) :
    ip.chars = Decimal.write ip.a.toNat ++ '.' :: (Decimal.write ip.b.toNat ++ '.' ::
      (Decimal.write ip.c.toNat ++ '.' :: Decimal.write ip.d.toNat)) := rfl

theorem pieces_chars (ip : IPv4) :
    pieces '.' ip.chars = ip.octets.map fun o => Decimal.write o.toNat := by
  have hdot := dot_not_mem_write
  rw [chars_eq, pieces_append_cons (hdot _), pieces_append_cons (hdot _),
    pieces_append_cons (hdot _), pieces_of_not_mem (hdot _)]
  rfl

/-- The dotted text is the only one. -/
theorem ofChars?_eq_some_iff : ofChars? cs = some ip ↔ cs = ip.chars := by
  constructor
  · intro h
    unfold ofChars? at h
    split at h
    · rename_i a b c d hpieces
      simp only [Option.bind_eq_bind, Option.bind_eq_some_iff, octet?_eq_some_iff] at h
      obtain ⟨a, rfl, b, rfl, c, rfl, d, rfl, h⟩ := h
      cases h
      rw [← join_pieces '.' cs, hpieces]
      rfl
    · cases h
  · rintro rfl
    have hoctet (o : UInt8) : octet? (Decimal.write o.toNat) = some o := octet?_eq_some_iff.2 rfl
    unfold ofChars?
    rw [pieces_chars]
    simp only [octets, List.map_cons, List.map_nil, hoctet]
    rfl

theorem of_mem_chars {c : Char} (h : c ∈ ip.chars) : c.isDigit ∨ c = '.' := by
  simp only [chars_eq, List.mem_append, List.mem_cons] at h
  rcases h with h | h | h | h | h | h | h
  · exact .inl (Decimal.isDigit_of_mem_write h)
  · exact .inr h
  · exact .inl (Decimal.isDigit_of_mem_write h)
  · exact .inr h
  · exact .inl (Decimal.isDigit_of_mem_write h)
  · exact .inr h
  · exact .inl (Decimal.isDigit_of_mem_write h)

theorem dot_mem_chars (ip : IPv4) : '.' ∈ ip.chars := by simp [chars_eq]

theorem colon_not_mem_chars (ip : IPv4) : ':' ∉ ip.chars := fun h =>
  absurd (of_mem_chars h) (by decide)

end ProxyDial.IPv4
