import ProxyDial.Address.Endpoint
import ProxyDial.Proofs.Address.Canonical

/-!
# Literals

A host name is a literal if it is a spelling of an address, bare or in one pair of brackets
(`Ip.literal?_eq_some_iff`).  No spelling begins with a bracket, so no more than one pair is
taken off.  The text of an address is a literal for it (`Ip.literal?_text`).

Every IPv6 address is spelled with a colon and no IPv4 address is, so a literal is of one family.
-/

namespace ProxyDial

namespace IPv6

variable {tail : Bool} {text : List Char} {gs : List UInt16} {ip : IPv6} {c : Char}

theorem GroupsSpelling.colon_mem (h : GroupsSpelling tail text gs) (hgs : 2 < gs.length) :
    ':' ∈ text := by
  cases h with
  | single => simp at hgs
  | dotted => simp [groupsOf] at hgs
  | cons => simp

theorem Spelling.colon_mem (h : Spelling text ip) : ':' ∈ text := by
  cases h with
  | full h => exact h.colon_mem (by rw [ip.length_groups]; decide)
  | elided => simp

/-- The characters of a group, a colon or a dot. -/
theorem GroupsSpelling.of_mem (h : GroupsSpelling tail text gs) (hc : c ∈ text) :
    (Hex.digit? c).isSome ∨ c = ':' ∨ c = '.' := by
  induction h with
  | single h => exact .inl (h.isSome_digit? hc)
  | dotted ip =>
    rcases IPv4.of_mem_chars hc with hc | hc
    · exact .inl (Hex.isSome_digit?_of_isDigit hc)
    · exact .inr (.inr hc)
  | cons h _ ih =>
    rcases List.mem_append.1 hc with hc | hc
    · exact .inl (h.isSome_digit? hc)
    · rcases List.mem_cons.1 hc with hc | hc
      · exact .inr (.inl hc)
      · exact ih hc

theorem Spelling.of_mem (h : Spelling text ip) (hc : c ∈ text) :
    (Hex.digit? c).isSome ∨ c = ':' ∨ c = '.' := by
  have hside {tail : Bool} {text : List Char} {gs : List UInt16} (h : SideSpelling tail text gs)
      (hc : c ∈ text) : (Hex.digit? c).isSome ∨ c = ':' ∨ c = '.' := by
    cases h with
    | none => cases hc
    | some h => exact h.of_mem hc
  cases h with
  | full h => exact h.of_mem hc
  | elided hhead hlow =>
    simp only [List.mem_append, List.mem_cons] at hc
    rcases hc with hc | hc | hc | hc
    · exact hside hhead hc
    · exact .inr (.inl hc)
    · exact .inr (.inl hc)
    · exact hside hlow hc

end IPv6

namespace Ip

variable {cs text : List Char} {ip : Ip} {host : String}

/-- How an address of either family is written. -/
inductive Spelling : List Char → Ip → Prop where
  | v4 (ip : IPv4) : Spelling ip.chars (.v4 ip)
  | v6 {text : List Char} {ip : IPv6} (h : IPv6.Spelling text ip) : Spelling text (.v6 ip)

theorem ofChars?_eq_some_iff : ofChars? cs = some ip ↔ Spelling cs ip := by
  unfold ofChars?
  constructor
  · intro h
    split at h
    · rename_i v4 hv4
      cases h
      cases IPv4.ofChars?_eq_some_iff.1 hv4
      exact .v4 v4
    · obtain ⟨v6, hv6, rfl⟩ := Option.map_eq_some_iff.1 h
      exact .v6 (IPv6.ofChars?_eq_some_iff.1 hv6)
  · intro h
    cases h with
    | v4 v4 => rw [IPv4.ofChars?_eq_some_iff.2 rfl]
    | @v6 _ v6 h =>
      have hnone : IPv4.ofChars? cs = none := by
        refine Option.eq_none_iff_forall_ne_some.2 fun v4 hv4 => ?_
        cases IPv4.ofChars?_eq_some_iff.1 hv4
        exact v4.colon_not_mem_chars h.colon_mem
      rw [hnone, IPv6.ofChars?_eq_some_iff.2 h]
      rfl

/-! ## Brackets -/

theorem Spelling.bracket_not_mem (h : Spelling text ip) : '[' ∉ text := by
  intro hc
  cases h with
  | v4 => exact absurd (IPv4.of_mem_chars hc) (by decide)
  | v6 h => exact absurd (h.of_mem hc) (by decide)

theorem unbracket_brackets (text : List Char) : unbracket ('[' :: (text ++ [']'])) = text := by
  rw [unbracket, if_pos List.getLast?_concat, List.dropLast_concat]

theorem unbracket_of_not_mem (h : '[' ∉ cs) : unbracket cs = cs := by
  unfold unbracket
  split
  · exact absurd (.head _) h
  · rfl

/-- Which host names are literals. -/
theorem literal?_eq_some_iff : literal? host = some ip ↔
    Spelling host.toList ip ∨
      ∃ text, host.toList = '[' :: (text ++ [']']) ∧ Spelling text ip := by
  rw [literal?, ofChars?_eq_some_iff]
  constructor
  · intro h
    unfold unbracket at h
    split at h
    · rename_i cs hcs
      split at h
      · rename_i hlast
        obtain ⟨text, rfl⟩ := List.getLast?_eq_some_iff.1 hlast
        rw [List.dropLast_concat] at h
        exact .inr ⟨text, hcs, h⟩
      · exact .inl (hcs ▸ h)
    · exact .inl h
  · rintro (h | ⟨text, htext, h⟩)
    · rwa [unbracket_of_not_mem h.bracket_not_mem]
    · rwa [htext, unbracket_brackets]

/-! ## Texts of addresses -/

theorem spelling_text (ip : Ip) : Spelling ip.text.toList ip := by
  cases ip with
  | v4 ip =>
    rw [text, IPv4.text, String.toList_ofList]
    exact .v4 ip
  | v6 ip =>
    rw [text, IPv6.text, String.toList_ofList]
    exact .v6 (IPv6.spelling_of_written ip.written_chars)

theorem toList_brackets (s : String) :
    ("[" ++ s ++ "]").toList = '[' :: (s.toList ++ [']']) := by
  rw [String.toList_append, String.toList_append]
  rfl

theorem literal?_text (ip : Ip) : literal? ip.text = some ip :=
  literal?_eq_some_iff.2 (.inl ip.spelling_text)

theorem literal?_brackets_text (ip : Ip) : literal? ("[" ++ ip.text ++ "]") = some ip :=
  literal?_eq_some_iff.2 (.inr ⟨_, toList_brackets ip.text, ip.spelling_text⟩)

/-- An IPv4 address has no literals but its text, bare or in brackets. -/
theorem literal?_eq_v4_iff {v4 : IPv4} : literal? host = some (.v4 v4) ↔
    host = v4.text ∨ host = "[" ++ v4.text ++ "]" := by
  have hspelling {cs : List Char} : Spelling cs (.v4 v4) ↔ cs = v4.chars := by
    constructor
    · rintro ⟨⟩
      rfl
    · rintro rfl
      exact .v4 v4
  have htext : v4.text.toList = v4.chars := String.toList_ofList
  rw [literal?_eq_some_iff, ← String.toList_inj, ← String.toList_inj, toList_brackets, htext,
    hspelling]
  refine or_congr_right ⟨?_, fun h => ⟨_, h, .v4 v4⟩⟩
  rintro ⟨cs, hcs, h⟩
  rw [hcs, hspelling.1 h]

end Ip

end ProxyDial
