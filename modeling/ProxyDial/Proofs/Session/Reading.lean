import ProxyDial.Proofs.Session.Socket

/-!
# What an exact read comes to

A read looks when the connection is ready, and when that is depends on the server.
What an exact read comes to does not.  It can be told from what lies with the client
at the *horizon*: at the limit, or if there is none at the last instant at which the
server does something by itself (`Reads.exact_eq`).  A read that begins past its limit
sees only what lies there already.
-/

namespace ProxyDial

namespace Connection

/-- The instant at which the client sees what a wait from `now` on comes to. -/
def horizon (limit : Option Nat) (now : Nat) (c : Connection) : Nat :=
  limit.getD (c.lastInstant now)

/-- The connection as a client sees it that waits from `now` on. -/
def seenBy (limit : Option Nat) (now : Nat) (c : Connection) : Connection :=
  if limit.any (· ≤ now) then c else c.advance (c.horizon limit now)

variable {limit : Option Nat} {now : Nat}

/-- A client that begins before its limit sees what lies there at the horizon. -/
theorem seenBy_of_lt (h : ∀ l ∈ limit, now < l) (c : Connection) :
    c.seenBy limit now = c.advance (c.horizon limit now) := by
  have hnot : limit.any (· ≤ now) = false := by
    cases limit with
    | none => rfl
    | some l => simpa using h l rfl
  rw [seenBy, hnot]
  exact if_neg Bool.false_ne_true

theorem grows_seenBy (limit : Option Nat) (now : Nat) (c : Connection) :
    c.Grows (c.seenBy limit now) := by
  unfold seenBy
  split
  · exact .of_view rfl
  · exact c.grows_advance _

end Connection

namespace Op

variable {isReady : Connection → Bool} {limit : Option Nat} {s s' : Session} {c : Connection}

/-- What was found is still there at the horizon. -/
theorem Awaits.lasts (ha : Awaits isReady limit s c (some (some ()), s'))
    (hs : s.stream = some c) (hb : c.ending ≠ .broken) :
    ∃ c', s'.stream = some c' ∧ isReady c' ∧ c'.Grows (c.seenBy limit s.clock) ∧
      (c'.hasEnded → ((c.seenBy limit s.clock).ending = .broken ↔ c'.ending = .broken)) := by
  cases ha with
  | atOnce h =>
    refine ⟨c, hs, h, c.grows_seenBy _ _, fun he => iff_of_false ?_ hb⟩
    unfold Connection.seenBy
    split
    · exact hb
    · exact Connection.not_broken_follow he hb c.script
  | @inTime t h hr hl =>
    have ht : t ≤ c.horizon limit s.clock := by
      cases limit with
      | none => exact c.le_lastInstant t (List.mem_of_find?_eq_some hr)
      | some l => exact (hl l rfl).2
    have hready := List.find?_some hr
    rw [Connection.seenBy_of_lt fun l hm => (hl l hm).1]
    refine ⟨c.advance t, by simp [hs], hready, Connection.grows_advance_of_le ht c, fun he => ?_⟩
    exact Connection.broken_advance_iff ht hb he

/-- What was not found is not there at the horizon. -/
theorem Awaits.lacks {waited : Option (Option Unit)} (ha : Awaits isReady limit s c (waited, s'))
    (hw : waited ≠ some (some ())) (hready : Connection.Lasting isReady) :
    isReady (c.seenBy limit s.clock) = false ∧ waited = limit.map fun _ => none := by
  cases ha with
  | atOnce h => exact absurd rfl hw
  | inTime h hr hl => exact absurd rfl hw
  | @late l h hlimit hn hr =>
    subst hlimit
    refine ⟨?_, rfl⟩
    rw [Connection.seenBy_of_lt (by rintro _ ⟨⟩; exact hn)]
    show isReady (c.advance l) = false
    cases ht : c.readyAt? isReady s.clock with
    | none => exact Connection.readyAt?_eq_none hready ht (Nat.le_of_lt hn)
    | some t =>
      have hiff := (Connection.readyAt?_eq_some hready ht).2 l (Nat.le_of_lt hn)
      have hlt : l < t := hr t ht
      cases hrl : isReady (c.advance l) with
      | false => rfl
      | true => exact absurd (hiff.1 hrl) (Nat.not_le_of_gt hlt)
  | @tooLate l h hlimit hn =>
    subst hlimit
    refine ⟨?_, rfl⟩
    rw [Connection.seenBy, Option.any_some, decide_eq_true hn]
    exact h
  | never h hlimit hr =>
    subst hlimit
    rw [Connection.seenBy_of_lt (by simp)]
    refine ⟨Connection.readyAt?_eq_none hready hr ?_, rfl⟩
    exact c.le_lastInstant s.clock (.head _)

/-- What an exact read comes to. -/
theorem Reads.exact_eq {count : Nat} {read : Option (Option (Except IoError (List UInt8)))}
    (hr : Reads (Connection.holds count) (Connection.readExact count) limit s c (read, s'))
    (hs : s.stream = some c) (hb : c.ending ≠ .broken) :
    read =
      if count ≤ (c.seenBy limit s.clock).toClient.length then
        some (some (.ok ((c.seenBy limit s.clock).toClient.take count)))
      else match (c.seenBy limit s.clock).ending with
        | .waiting => limit.map fun _ => none
        | .broken => some (some (.error .reset))
        | .ended => some (some (.error .earlyEnd))
        | .gone => some (some (.error .earlyEnd)) := by
  have hlacks {waited : Option (Option Unit)} {s' : Session}
      (ha : Awaits (Connection.holds count) limit s c (waited, s'))
      (hw : waited ≠ some (some ())) :
      ¬count ≤ (c.seenBy limit s.clock).toClient.length ∧
        (c.seenBy limit s.clock).ending = .waiting ∧ waited = limit.map fun _ => none := by
    obtain ⟨hn, hlimit⟩ := ha.lacks hw (Connection.lasting_holds count)
    simp only [Connection.holds, Connection.hasEnded, Bool.or_eq_false_iff, decide_eq_false_iff_not,
      Decidable.not_not] at hn
    exact ⟨hn.1, hn.2, hlimit⟩
  cases hr with
  | @found s' c' ha hs' hready =>
    obtain ⟨c₁, hs₁, -, hg, hbroken⟩ := ha.lasts hs hb
    obtain rfl : c' = c₁ := Option.some.inj (hs'.symm.trans hs₁)
    generalize c.seenBy limit s.clock = seen at hg hbroken ⊢
    unfold Connection.readExact
    by_cases hcount : count ≤ c'.toClient.length
    · obtain ⟨bytes, hmore⟩ := hg.more
      have hseen : count ≤ seen.toClient.length := by
        rw [hmore, List.length_append]
        omega
      rw [if_pos hcount, if_pos hseen, hmore, List.take_append_of_le_length hcount]
    · have he : c'.hasEnded := by
        rw [Connection.holds, Bool.or_eq_true, decide_eq_true_eq] at hready
        exact hready.resolve_left hcount
      obtain ⟨hended, hsame⟩ := hg.ended he
      have hiff := hbroken he
      rw [if_neg hcount, if_neg (hsame ▸ hcount)]
      unfold Connection.findEnd
      by_cases hcb : c'.ending = .broken
      · simp [hcb, hiff.2 hcb]
      · have hsb : seen.ending ≠ .broken := fun h => hcb (hiff.1 h)
        have hsw : seen.ending ≠ .waiting := by simpa [Connection.hasEnded] using hended
        cases hse : seen.ending with
        | waiting => exact absurd hse hsw
        | broken => exact absurd hse hsb
        | ended => simp [hcb]
        | gone => simp [hcb]
  | late ha =>
    obtain ⟨hn, hw, hlimit⟩ := hlacks ha (by simp)
    rw [if_neg hn, hw]
    cases limit with
    | none => cases hlimit
    | some l => rfl
  | never ha =>
    obtain ⟨hn, hw, hlimit⟩ := hlacks ha (by simp)
    rw [if_neg hn, hw]
    cases limit with
    | none => rfl
    | some l => cases hlimit

end Op

end ProxyDial
