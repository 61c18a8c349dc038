import ProxyDial.Proofs.Address.Spelling

/-!
# The written form of IPv6 addresses

`IPv6.Written` says by rules how an address is written, and each address is written in this one
form (`IPv6.written_iff`).

*Zeros.*  `::` stands for a run of two zero groups or more.  No run is longer, and no other one as
long begins before it.  `IPv6.longestRun` finds that run (`IPv6.longest_longestRun`).

*Mapped addresses.*  An address that maps an IPv4 address is written with the dotted text of that
one, whatever its zeros.

The written form is one of the spellings of its address (`IPv6.spelling_of_written`).  So it is
read back as that address.
-/

namespace ProxyDial.IPv6

variable {ip : IPv6} {text : List Char} {gs high low : List UInt16} {n : Nat}

/-! ## The longest run of zeros -/

/-- Whether groups hold a run of zeros after `high` that no other one outdoes: none is longer, and
none as long begins earlier. -/
structure Longest (gs high : List UInt16) (n : Nat) (low : List UInt16) : Prop where
  eq : gs = high ++ (List.replicate n 0 ++ low)
  le : ∀ high' m low', gs = high' ++ (List.replicate m 0 ++ low') → m ≤ n
  first : ∀ high' low', gs = high' ++ (List.replicate n 0 ++ low') → high.length ≤ high'.length

/-- There is one such run at most. -/
theorem Longest.unique {high' low' : List UInt16} {m : Nat} (h : Longest gs high n low)
    (h' : Longest gs high' m low') : high = high' ∧ n = m ∧ low = low' := by
  have hn : n = m := Nat.le_antisymm (h'.le _ _ _ h.eq) (h.le _ _ _ h'.eq)
  cases hn
  have hlength : high.length = high'.length :=
    Nat.le_antisymm (h.first _ _ h'.eq) (h'.first _ _ h.eq)
  obtain ⟨hhigh, hrest⟩ := List.append_inj (h.eq.symm.trans h'.eq) hlength
  exact ⟨hhigh, rfl, List.append_cancel_left hrest⟩

theorem Longest.take_eq (h : Longest gs high n low) : gs.take high.length = high := by
  rw [h.eq, List.take_left]

theorem Longest.drop_eq (h : Longest gs high n low) : gs.drop (high.length + n) = low := by
  rw [h.eq, ← List.drop_drop, List.drop_left, List.drop_left' List.length_replicate]

/-- A run at the beginning is one of the zeros before the first group that is none. -/
theorem le_takeWhile_of_replicate (h : gs = List.replicate n 0 ++ low) :
    n ≤ (gs.takeWhile (· = 0)).length := by
  have hzeros : ∀ g ∈ List.replicate n (0 : UInt16), decide (g = 0) = true := by
    intro g hg
    rw [List.eq_of_mem_replicate hg]
    rfl
  rw [h, List.takeWhile_append_of_pos hzeros, List.length_append, List.length_replicate]
  exact Nat.le_add_right n _

theorem eq_replicate_takeWhile (gs : List UInt16) :
    gs = List.replicate (gs.takeWhile (· = 0)).length 0 ++ gs.dropWhile (· = 0) := by
  have hzeros : gs.takeWhile (· = 0) = List.replicate (gs.takeWhile (· = 0)).length 0 := by
    refine List.eq_replicate_iff.2 ⟨rfl, fun g hg => ?_⟩
    exact of_decide_eq_true (List.all_eq_true.1 List.all_takeWhile g hg)
  rw [← hzeros, List.takeWhile_append_dropWhile]

theorem longest_longestRun (start : Nat) (gs : List UInt16) :
    ∃ high low, (longestRun start gs).start = start + high.length ∧
      Longest gs high (longestRun start gs).length low := by
  induction gs generalizing start with
  | nil =>
    refine ⟨[], [], rfl, rfl, fun high' m low' h => ?_, fun _ _ _ => Nat.zero_le _⟩
    have hlength := congrArg List.length h
    rw [List.length_append, List.length_append, List.length_replicate, List.length_nil] at hlength
    show m ≤ 0
    omega
  | cons g gs ih =>
    obtain ⟨high, low, hstart, hrun⟩ := ih (start + 1)
    rw [longestRun]
    -- A run begins with the first group or is one of the groups after it.
    split
    case isTrue hle =>
      refine ⟨[], _, rfl, eq_replicate_takeWhile (g :: gs), ?_, fun _ _ _ => Nat.zero_le _⟩
      intro high' m low' h
      cases high' with
      | nil => exact le_takeWhile_of_replicate h
      | cons g' high' => exact Nat.le_trans (hrun.le high' m low' (List.cons.inj h).2) hle
    case isFalse hlt =>
      refine ⟨g :: high, low, ?_, ?_, ?_, ?_⟩
      · rw [hstart, List.length_cons]
        omega
      · exact congrArg (g :: ·) hrun.eq
      · intro high' m low' h
        cases high' with
        | nil => exact Nat.le_of_lt (Nat.lt_of_le_of_lt (le_takeWhile_of_replicate h) (by omega))
        | cons g' high' => exact hrun.le high' m low' (List.cons.inj h).2
      · intro high' low' h
        cases high' with
        | nil => exact absurd (le_takeWhile_of_replicate h) hlt
        | cons g' high' => exact Nat.succ_le_succ (hrun.first high' low' (List.cons.inj h).2)

/-! ## The written form -/

/-- How an address is written. -/
inductive Written (ip : IPv6) : List Char → Prop where
  | mapped {v4 : IPv4} (h : ip.groups = [0, 0, 0, 0, 0, 0xffff] ++ groupsOf v4) :
      Written ip ("::ffff:".toList ++ v4.chars)
  | elided {high low : List UInt16} {n : Nat}
      (hmapped : ∀ v4, ip.groups ≠ [0, 0, 0, 0, 0, 0xffff] ++ groupsOf v4)
      (hrun : Longest ip.groups high n low) (hn : 2 ≤ n) :
      Written ip (colonText high ++ ':' :: ':' :: colonText low)
  | full {high low : List UInt16} {n : Nat}
      (hmapped : ∀ v4, ip.groups ≠ [0, 0, 0, 0, 0, 0xffff] ++ groupsOf v4)
      (hrun : Longest ip.groups high n low) (hn : n < 2) : Written ip (colonText ip.groups)

theorem groupsOf_octets (g h : UInt16) :
    groupsOf ⟨.ofNat (g.toNat / 256), .ofNat g.toNat, .ofNat (h.toNat / 256), .ofNat h.toNat⟩ =
      [g, h] := by
  have hgroup (g : UInt16) : UInt16.ofNat (256 * (UInt8.ofNat (g.toNat / 256)).toNat +
      (UInt8.ofNat g.toNat).toNat) = g := by
    have hg := g.toNat_lt
    apply UInt16.toNat_inj.1
    rw [UInt16.toNat_ofNat', UInt8.toNat_ofNat', UInt8.toNat_ofNat']
    omega
  rw [groupsOf, hgroup, hgroup]

theorem groupsOf_injective {v4 v4' : IPv4} (h : groupsOf v4 = groupsOf v4') : v4 = v4' := by
  have hgroup {a b a' b' : UInt8} (h : UInt16.ofNat (256 * a.toNat + b.toNat) =
      UInt16.ofNat (256 * a'.toNat + b'.toNat)) : a = a' ∧ b = b' := by
    have ha := a.toNat_lt
    have hb := b.toNat_lt
    have ha' := a'.toNat_lt
    have hb' := b'.toNat_lt
    have heq := congrArg UInt16.toNat h
    rw [UInt16.toNat_ofNat', UInt16.toNat_ofNat'] at heq
    exact ⟨UInt8.toNat_inj.1 (by omega), UInt8.toNat_inj.1 (by omega)⟩
  obtain ⟨hhigh, hlow⟩ := List.cons.inj h
  obtain ⟨ha, hb⟩ := hgroup hhigh
  obtain ⟨hc, hd⟩ := hgroup (List.cons.inj hlow).1
  cases v4
  cases v4'
  cases ha
  cases hb
  cases hc
  cases hd
  rfl

theorem mapped?_eq_some_iff {v4 : IPv4} :
    ip.mapped? = some v4 ↔ ip.groups = [0, 0, 0, 0, 0, 0xffff] ++ groupsOf v4 := by
  unfold mapped?
  constructor
  · intro h
    split at h
    · rename_i g g' hgroups
      cases h
      rw [hgroups, groupsOf_octets]
      rfl
    · cases h
  · intro h
    rw [h]
    exact congrArg some (groupsOf_injective (groupsOf_octets _ _))

theorem mapped?_eq_none (h : ip.mapped? = none) (v4 : IPv4) :
    ip.groups ≠ [0, 0, 0, 0, 0, 0xffff] ++ groupsOf v4 := by
  intro hgroups
  rw [mapped?_eq_some_iff.2 hgroups] at h
  cases h

theorem written_chars (ip : IPv6) : Written ip ip.chars := by
  unfold chars
  split
  · rename_i v4 hmapped
    exact .mapped (mapped?_eq_some_iff.1 hmapped)
  · rename_i hnone
    have hmapped := mapped?_eq_none hnone
    obtain ⟨high, low, hstart, hrun⟩ := longest_longestRun 0 ip.groups
    rw [Nat.zero_add] at hstart
    dsimp only
    split
    · rename_i hn
      rw [hstart, hrun.take_eq, hrun.drop_eq]
      exact .elided hmapped hrun hn
    · rename_i hn
      exact .full hmapped hrun (by omega)

/-- An address is written in one form. -/
theorem Written.unique {text' : List Char} (h : Written ip text) (h' : Written ip text') :
    text = text' := by
  cases h with
  | mapped h =>
    cases h' with
    | mapped h' => cases groupsOf_injective (List.append_cancel_left (h.symm.trans h')); rfl
    | elided hmapped => exact absurd h (hmapped _)
    | full hmapped => exact absurd h (hmapped _)
  | elided hmapped hrun hn =>
    cases h' with
    | mapped h' => exact absurd h' (hmapped _)
    | elided _ hrun' =>
      obtain ⟨rfl, -, rfl⟩ := hrun.unique hrun'
      rfl
    | full _ hrun' hn' =>
      obtain ⟨-, rfl, -⟩ := hrun.unique hrun'
      omega
  | full hmapped hrun hn =>
    cases h' with
    | mapped h' => exact absurd h' (hmapped _)
    | elided _ hrun' hn' =>
      obtain ⟨-, rfl, -⟩ := hrun.unique hrun'
      omega
    | full => rfl

theorem written_iff : Written ip text ↔ text = ip.chars := by
  constructor
  · intro h
    exact h.unique ip.written_chars
  · rintro rfl
    exact ip.written_chars

/-! ## Reading the written form -/

theorem groupSpelling_toDigits (g : UInt16) : GroupSpelling (Nat.toDigits 16 g.toNat) g where
  ne_nil := Nat.toDigits_ne_nil
  length_le := (Nat.length_toDigits_le_iff (by decide) (by decide)).2 g.toNat_lt
  value := Hex.number?_toDigits g.toNat

theorem groupsSpelling_colonText (tail : Bool) (hgs : gs ≠ []) :
    GroupsSpelling tail (colonText gs) gs := by
  induction gs with
  | nil => exact absurd rfl hgs
  | cons g gs ih =>
    cases gs with
    | nil => exact .single (groupSpelling_toDigits g)
    | cons g' gs => exact .cons (groupSpelling_toDigits g) (ih (List.cons_ne_nil g' gs))

theorem sideSpelling_colonText (tail : Bool) (gs : List UInt16) :
    SideSpelling tail (colonText gs) gs := by
  cases gs with
  | nil => exact .none
  | cons g gs => exact .some (groupsSpelling_colonText tail (List.cons_ne_nil g gs))

/-- The written form is a spelling. -/
theorem spelling_of_written (h : Written ip text) : Spelling text ip := by
  cases h with
  | @mapped v4 h =>
    have hffff : GroupSpelling "ffff".toList 0xffff := ⟨by decide, by decide, by decide⟩
    have hlow : SideSpelling true ("ffff:".toList ++ v4.chars) (0xffff :: groupsOf v4) :=
      .some (.cons hffff (.dotted v4 rfl))
    exact .elided (n := 5) .none hlow (by decide) h
  | @elided high low n _ hrun hn =>
    exact .elided (sideSpelling_colonText false high) (sideSpelling_colonText true low)
      (by omega) hrun.eq
  | full =>
    refine .full (groupsSpelling_colonText true ?_)
    exact List.ne_nil_of_length_eq_add_one ip.length_groups

end ProxyDial.IPv6
