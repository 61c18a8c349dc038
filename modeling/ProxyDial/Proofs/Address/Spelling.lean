import ProxyDial.Address.IPv6
import ProxyDial.Proofs.Address.IPv4

/-!
# How IPv6 addresses may be written

`IPv6.Spelling` is the grammar of addresses.  Groups are written in hexadecimal with colons
between them, `::` stands once for any number of zero groups but none, and the last two groups may
be a dotted IPv4 address.  The reader takes just these texts (`IPv6.ofChars?_eq_some_iff`).

*Groups.*  Neither a colon nor a dot is part of a group, so a text comes apart at its colons
again, and a dot in the last piece tells that it is dotted.

*Elision.*  No groups touch two colons in a row, so the first `::` is the one of the grammar
(`IPv6.splitElision_append`).
-/

namespace ProxyDial.IPv6

variable {cs text head low : List Char} {g : UInt16} {gs : List UInt16} {tail : Bool} {ip : IPv6}

/-! ## The grammar -/

/-- How a group is written: as one to four hexadecimal digits. -/
structure GroupSpelling (text : List Char) (g : UInt16) : Prop where
  ne_nil : text ≠ []
  length_le : text.length ≤ 4
  value : Hex.number? text = some g.toNat

/-- How one group or more are written.  With `tail`, the last two may be an IPv4 address. -/
inductive GroupsSpelling (tail : Bool) : List Char → List UInt16 → Prop where
  | single {text : List Char} {g : UInt16} (h : GroupSpelling text g) :
      GroupsSpelling tail text [g]
  | dotted (ip : IPv4) (h : tail = true) : GroupsSpelling tail ip.chars (groupsOf ip)
  | cons {text more : List Char} {g : UInt16} {gs : List UInt16} (h : GroupSpelling text g)
      (hmore : GroupsSpelling tail more gs) :
      GroupsSpelling tail (text ++ ':' :: more) (g :: gs)

/-- How the groups on one side of `::` are written.  There may be none. -/
inductive SideSpelling (tail : Bool) : List Char → List UInt16 → Prop where
  | none : SideSpelling tail [] []
  | some {text : List Char} {gs : List UInt16} (h : GroupsSpelling tail text gs) :
      SideSpelling tail text gs

/-- How an address is written. -/
inductive Spelling : List Char → IPv6 → Prop where
  | full {text : List Char} {ip : IPv6} (h : GroupsSpelling true text ip.groups) :
      Spelling text ip
  /-- `::` stands for one zero group at least. -/
  | elided {head low : List Char} {high gs : List UInt16} {n : Nat} {ip : IPv6}
      (hhead : SideSpelling false head high) (hlow : SideSpelling true low gs) (hn : 1 ≤ n)
      (hgroups : ip.groups = high ++ (List.replicate n 0 ++ gs)) :
      Spelling (head ++ ':' :: ':' :: low) ip

/-! ## Groups -/

theorem group?_eq_some_iff : group? cs = some g ↔ GroupSpelling cs g := by
  unfold group?
  constructor
  · intro h
    split at h
    · rename_i hcs
      obtain ⟨n, hn, rfl⟩ := Option.map_eq_some_iff.1 h
      have hlt : n < 16 ^ 4 :=
        Nat.lt_of_lt_of_le (Hex.number?_lt hn) (Nat.pow_le_pow_right (by decide) hcs.2)
      exact ⟨hcs.1, hcs.2, by rw [UInt16.toNat_ofNat_of_lt' hlt, hn]⟩
    · cases h
  · intro h
    rw [if_pos ⟨h.ne_nil, h.length_le⟩, h.value, Option.map_some, UInt16.ofNat_toNat]

theorem GroupSpelling.isSome_digit? (h : GroupSpelling text g) {c : Char} (hc : c ∈ text) :
    (Hex.digit? c).isSome := Hex.isSome_digit?_of_number? h.value hc

theorem GroupSpelling.colon_not_mem (h : GroupSpelling text g) : ':' ∉ text := fun hc =>
  absurd (h.isSome_digit? hc) (by decide)

theorem GroupSpelling.dot_not_mem (h : GroupSpelling text g) : '.' ∉ text := fun hc =>
  absurd (h.isSome_digit? hc) (by decide)

/-- Groups begin with something that is no colon. -/
theorem GroupsSpelling.exists_cons (h : GroupsSpelling tail text gs) :
    ∃ c cs, text = c :: cs ∧ c ≠ ':' := by
  have hcons {text : List Char} (hne : text ≠ []) (hcolon : ':' ∉ text) :
      ∃ c cs, text = c :: cs ∧ c ≠ ':' := by
    obtain ⟨c, cs, rfl⟩ := List.exists_cons_of_ne_nil hne
    refine ⟨c, cs, rfl, ?_⟩
    rintro rfl
    exact hcolon (.head _)
  cases h with
  | single h => exact hcons h.ne_nil h.colon_not_mem
  | dotted ip => exact hcons (List.ne_nil_of_mem ip.dot_mem_chars) ip.colon_not_mem_chars
  | cons h =>
    obtain ⟨c, cs, rfl, hc⟩ := hcons h.ne_nil h.colon_not_mem
    exact ⟨c, _, rfl, hc⟩

theorem groupsOfPieces?_of_spelling (h : GroupsSpelling tail text gs) :
    groupsOfPieces? tail (pieces ':' text) = some gs := by
  induction h with
  | single h =>
    have hdot : ¬(tail = true ∧ _ = true) := fun hdot =>
      h.dot_not_mem (List.contains_iff_mem.1 hdot.2)
    rw [pieces_of_not_mem h.colon_not_mem, groupsOfPieces?, if_neg hdot, group?_eq_some_iff.2 h]
    rfl
  | dotted ip htail =>
    rw [pieces_of_not_mem ip.colon_not_mem_chars, groupsOfPieces?,
      if_pos ⟨htail, List.contains_iff_mem.2 ip.dot_mem_chars⟩, IPv4.ofChars?_eq_some_iff.2 rfl]
    rfl
  | @cons text more g gs h _ ih =>
    rw [pieces_append_cons h.colon_not_mem, groupsOfPieces?, group?_eq_some_iff.2 h, ih]
    · rfl
    · exact pieces_ne_nil ':' more

theorem spelling_of_groupsOfPieces? {ps : List (List Char)} (hps : ps ≠ [])
    (h : groupsOfPieces? tail ps = some gs) : GroupsSpelling tail (join ':' ps) gs := by
  fun_induction groupsOfPieces? tail ps generalizing gs with
  | case1 => exact absurd rfl hps
  | case2 p hdot =>
    obtain ⟨ip, hip, rfl⟩ := Option.map_eq_some_iff.1 h
    cases IPv4.ofChars?_eq_some_iff.1 hip
    exact .dotted ip hdot.1
  | case3 p =>
    obtain ⟨g, hg, rfl⟩ := Option.map_eq_some_iff.1 h
    exact .single (group?_eq_some_iff.1 hg)
  | case4 p ps hne ih =>
    simp only [Option.bind_eq_bind, Option.bind_eq_some_iff] at h
    obtain ⟨g, hg, more, hmore, h⟩ := h
    cases h
    have hspelling := ih hne hmore
    cases ps with
    | nil => exact absurd rfl hne
    | cons q ps => exact .cons (group?_eq_some_iff.1 hg) hspelling

theorem GroupsSpelling.ne_nil (h : GroupsSpelling tail text gs) : text ≠ [] := by
  obtain ⟨c, cs, rfl, -⟩ := h.exists_cons
  exact List.cons_ne_nil c cs

theorem groups?_eq_some_iff : groups? tail cs = some gs ↔ SideSpelling tail cs gs := by
  unfold groups?
  constructor
  · intro h
    split at h
    · rename_i hcs
      cases hcs
      cases h
      exact .none
    · have hspelling := spelling_of_groupsOfPieces? (pieces_ne_nil ':' cs) h
      rw [join_pieces] at hspelling
      exact .some hspelling
  · intro h
    cases h with
    | none => rfl
    | some h => rw [if_neg h.ne_nil, groupsOfPieces?_of_spelling h]

theorem SideSpelling.of_ne_nil (h : SideSpelling tail text gs) (hne : text ≠ []) :
    GroupsSpelling tail text gs := by
  cases h with
  | none => exact absurd rfl hne
  | some h => exact h

/-! ## Elision -/

/-- The two sides of `::`, with more text before them. -/
def prepend (text : List Char) (sides : List Char × List Char) : List Char × List Char :=
  (text ++ sides.1, sides.2)

theorem splitElision_cons {c : Char} (h : c = ':' → cs.head? ≠ some ':') :
    splitElision (c :: cs) = (splitElision cs).map (prepend [c]) := by
  cases cs with
  | nil => rfl
  | cons d cs =>
    have hne : ¬(c = ':' ∧ d = ':') := fun ⟨hc, hd⟩ => h hc (congrArg some hd)
    rw [splitElision, if_neg hne]
    rfl

theorem splitElision_append_of_not_mem (h : ':' ∉ text) (cs : List Char) :
    splitElision (text ++ cs) = (splitElision cs).map (prepend text) := by
  induction text with
  | nil => exact Option.map_id'.symm
  | cons c text ih =>
    rw [List.mem_cons, not_or] at h
    rw [List.cons_append, splitElision_cons fun hc => absurd hc.symm h.1, ih h.2, Option.map_map]
    rfl

/-- Nothing is elided within groups. -/
theorem splitElision_append (h : GroupsSpelling tail text gs) (cs : List Char) :
    splitElision (text ++ cs) = (splitElision cs).map (prepend text) := by
  induction h with
  | single h => exact splitElision_append_of_not_mem h.colon_not_mem cs
  | dotted ip => exact splitElision_append_of_not_mem ip.colon_not_mem_chars cs
  | @cons text more g gs h hmore ih =>
    have hcolon : ':' = ':' → (more ++ cs).head? ≠ some ':' := by
      obtain ⟨c, more, rfl, hc⟩ := hmore.exists_cons
      exact fun _ heq => hc (Option.some.inj heq)
    rw [List.append_assoc, List.cons_append, splitElision_append_of_not_mem h.colon_not_mem,
      splitElision_cons hcolon, ih, Option.map_map, Option.map_map]
    congr 1
    funext sides
    simp [prepend]

theorem splitElision_of_full (h : GroupsSpelling tail text gs) : splitElision text = none := by
  have happend := splitElision_append h []
  rwa [List.append_nil] at happend

theorem splitElision_of_elided (h : SideSpelling tail head gs) (low : List Char) :
    splitElision (head ++ ':' :: ':' :: low) = some (head, low) := by
  have hnow : splitElision (':' :: ':' :: low) = some ([], low) := rfl
  cases h with
  | none => exact hnow
  | some h =>
    rw [splitElision_append h, hnow, Option.map_some, prepend, List.append_nil]

theorem eq_of_splitElision (h : splitElision cs = some (head, low)) :
    cs = head ++ ':' :: ':' :: low := by
  fun_induction splitElision cs generalizing head with
  | case1 => cases h
  | case2 => cases h
  | case3 c c' cs hcolon =>
    cases h
    obtain ⟨rfl, rfl⟩ := hcolon
    rfl
  | case4 c c' cs hcolon ih =>
    obtain ⟨⟨head', low'⟩, hsplit, heq⟩ := Option.map_eq_some_iff.1 h
    cases heq
    rw [ih hsplit]
    rfl

/-! ## Addresses -/

theorem ofGroups?_eq_some_iff : ofGroups? gs = some ip ↔ ip.groups = gs := by
  unfold ofGroups?
  constructor
  · intro h
    split at h
    · cases h
      rfl
    · cases h
  · rintro rfl
    rw [dif_pos ip.length_groups]

/-- An address is read from its spellings and from nothing else. -/
theorem ofChars?_eq_some_iff : ofChars? cs = some ip ↔ Spelling cs ip := by
  constructor
  · intro h
    unfold ofChars? at h
    split at h
    · split at h
      · cases h
      · rename_i hcs
        obtain ⟨gs, hgs, h⟩ := Option.bind_eq_some_iff.1 h
        cases ofGroups?_eq_some_iff.1 h
        exact .full ((groups?_eq_some_iff.1 hgs).of_ne_nil hcs)
    · rename_i head low hsplit
      cases eq_of_splitElision hsplit
      simp only [Option.bind_eq_bind, Option.bind_eq_some_iff, groups?_eq_some_iff] at h
      obtain ⟨high, hhigh, gs, hlow, h⟩ := h
      split at h
      · rw [ofGroups?_eq_some_iff, List.append_assoc] at h
        exact .elided hhigh hlow (by omega) h
      · cases h
  · intro h
    unfold ofChars?
    cases h with
    | full h =>
      rw [splitElision_of_full h, if_neg h.ne_nil, groups?_eq_some_iff.2 (.some h)]
      exact ofGroups?_eq_some_iff.2 rfl
    | @elided head low high gs n _ hhead hlow hn hgroups =>
      have hlength := ip.length_groups
      rw [hgroups, List.length_append, List.length_append, List.length_replicate] at hlength
      have hzeros : 8 - high.length - gs.length = n := by omega
      rw [splitElision_of_elided hhead]
      simp only [groups?_eq_some_iff.2 hhead, groups?_eq_some_iff.2 hlow, Option.bind_eq_bind,
        Option.bind_some, hzeros]
      rw [if_pos (by omega), ofGroups?_eq_some_iff, hgroups, List.append_assoc]

end ProxyDial.IPv6
