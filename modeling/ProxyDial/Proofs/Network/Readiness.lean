import ProxyDial.Proofs.Network.Script

/-!
# When a connection is ready

A client that reads waits until the connection is ready for it.  The conditions that
it waits for last: a connection that meets one goes on meeting it (`Lasting`).  The
first instant of readiness is `readyAt?`, which looks at the present and at the ends of
the script's waits.  That is enough: the connection is ready from this instant on and
not before (`readyAt?_eq_some`), and without such an instant it never is
(`readyAt?_eq_none`).

A reset is the last thing that a server does, so it is still there when the client
looks later (`broken_advance_iff`).
-/

namespace ProxyDial

namespace Connection

variable {now later : Nat}

/-- A condition that lasts once the connection meets it. -/
def Lasting (isReady : Connection → Bool) : Prop :=
  ∀ c c' : Connection, c.Grows c' → isReady c → isReady c'

theorem lasting_holds (count : Nat) : Lasting (holds count) := by
  intro c c' hg h
  simp only [holds, Bool.or_eq_true, decide_eq_true_eq] at h ⊢
  obtain ⟨bytes, hb⟩ := hg.more
  rcases h with h | h
  · left
    rw [hb, List.length_append]
    omega
  · exact .inr (hg.ended h).1

/-- The instants from `now` on at which the client may find a change. -/
def instants (now : Nat) (c : Connection) : List Nat := now :: (c.advance now).wakeups

/-- The first instant from `now` on at which the connection is ready, if the client
writes nothing. -/
def readyAt? (isReady : Connection → Bool) (now : Nat) (c : Connection) : Option Nat :=
  (c.instants now).find? fun t => isReady (c.advance t)

/-- The last of these instants. -/
def lastInstant (now : Nat) (c : Connection) : Nat := (c.advance now).wakeups.getLastD now

theorem pairwise_waitEnds (since : Nat) (script : List Action) :
    (waitEnds since script).Pairwise (· ≤ ·) := by
  induction script generalizing since with
  | nil => exact .nil
  | cons a rest ih =>
    cases a with
    | wait millis => exact .cons (waitEnds_ge _ rest) (ih _)
    | _ => exact ih since

/-- A script that was followed as far as possible has no wait that is over. -/
theorem wakeups_follow_ge (now : Nat) (c : Connection) (script : List Action) :
    ∀ wake ∈ (follow now c script).wakeups, now ≤ wake := by
  induction script generalizing c with
  | nil => intro wake hw; cases hw
  | cons a rest ih =>
    rcases hp : perform now c a with ⟨c', _ | a'⟩
    · simp only [follow, hp]
      split
      · intro wake hw; cases hw
      · exact ih c'
    · simp only [follow, hp, wakeups]
      cases blocked_of_perform hp with
      | wait hn =>
        intro wake hw
        simp only [waitEnds, List.mem_cons] at hw
        rcases hw with rfl | hw
        · omega
        · have := waitEnds_ge _ rest wake hw
          omega
      | read => exact waitEnds_ge now rest
      | readThroughNul => exact waitEnds_ge now rest
      | echo => exact waitEnds_ge now rest

theorem pairwise_instants (now : Nat) (c : Connection) : (c.instants now).Pairwise (· ≤ ·) :=
  .cons (wakeups_follow_ge now c c.script) (pairwise_waitEnds _ _)

/-- The connection is not ready before the client begins to wait. -/
theorem le_of_readyAt? {isReady : Connection → Bool} {c : Connection} {t : Nat}
    (h : c.readyAt? isReady now = some t) : now ≤ t := by
  rcases List.mem_cons.1 (List.mem_of_find?_eq_some h) with rfl | ht
  · exact Nat.le_refl _
  · exact wakeups_follow_ge now c c.script t ht

/-- At any instant the client finds what it found at the last instant of change. -/
theorem exists_instant (h : now ≤ later) (c : Connection) :
    ∃ t ∈ c.instants now, t ≤ later ∧ (c.advance later).view = (c.advance t).view := by
  have hn : now ∈ (c.instants now).filter (· ≤ later) :=
    List.mem_filter.2 ⟨.head _, by simpa using h⟩
  obtain ⟨t, ht⟩ := Option.isSome_iff_exists.1 (List.isSome_max?_of_mem hn)
  obtain ⟨hm, hmax⟩ := List.max?_eq_some_iff.1 ht
  obtain ⟨hm, hl⟩ := List.mem_filter.1 hm
  have hl : t ≤ later := by simpa using hl
  refine ⟨t, hm, hl, ?_⟩
  have hnt : now ≤ t := hmax now hn
  rw [← advance_advance h, ← advance_advance hnt]
  refine view_follow_eq hl (c.advance now) _ fun wake hw hwl => ?_
  exact hmax wake (List.mem_filter.2 ⟨.tail _ hw, by simpa using hwl⟩)

theorem readyAt?_eq_some {isReady : Connection → Bool} (hr : Lasting isReady) {c : Connection}
    {t : Nat} (h : c.readyAt? isReady now = some t) :
    now ≤ t ∧ ∀ later, now ≤ later → (isReady (c.advance later) ↔ t ≤ later) := by
  obtain ⟨ht, as, bs, hs, has⟩ := List.find?_eq_some_iff_append.1 h
  have hp : (as ++ t :: bs).Pairwise (· ≤ ·) := hs ▸ pairwise_instants now c
  have hm : ∀ wake ∈ c.instants now, isReady (c.advance wake) → t ≤ wake := by
    intro wake hw hwr
    rw [hs, List.mem_append] at hw
    rcases hw with hw | hw
    · have := has wake hw
      simp [hwr] at this
    · rcases List.mem_cons.1 hw with rfl | hw
      · exact Nat.le_refl _
      · exact List.rel_of_pairwise_cons (List.pairwise_append.1 hp).2.1 hw
  refine ⟨le_of_readyAt? h, fun later hl => ⟨fun hlr => ?_, fun htl => ?_⟩⟩
  · obtain ⟨wake, hw, hwl, hv⟩ := exists_instant hl c
    exact Nat.le_trans (hm wake hw (hr _ _ (.of_view hv.symm) hlr)) hwl
  · exact hr _ _ (grows_advance_of_le htl c) ht

theorem readyAt?_eq_none {isReady : Connection → Bool} (hr : Lasting isReady) {c : Connection}
    (h : c.readyAt? isReady now = none) {later : Nat} (hl : now ≤ later) :
    isReady (c.advance later) = false := by
  obtain ⟨wake, hw, hwl, hv⟩ := exists_instant hl c
  have hn := List.find?_eq_none.1 h wake hw
  cases hlr : isReady (c.advance later)
  · rfl
  · exact absurd (hr _ _ (.of_view hv.symm) hlr) hn

theorem le_lastInstant (c : Connection) : ∀ t ∈ c.instants now, t ≤ c.lastInstant now := by
  have hp := pairwise_instants now c
  rw [instants] at hp ⊢
  rw [lastInstant]
  generalize (c.advance now).wakeups = wakes at hp ⊢
  induction wakes generalizing now with
  | nil =>
    intro t h
    rcases List.mem_cons.1 h with rfl | h
    · exact Nat.le_refl _
    · cases h
  | cons wake rest ih =>
    intro t h
    rw [List.getLastD_cons]
    have hrest := ih (List.Pairwise.of_cons hp)
    rcases List.mem_cons.1 h with rfl | h
    · exact Nat.le_trans (List.rel_of_pairwise_cons hp (.head _)) (hrest wake (.head _))
    · exact hrest t h

/-! ## Resets -/

theorem broken_of_perform {c : Connection} {a : Action} (ha : a ≠ .reset)
    (h : (perform now c a).1.ending = .broken) : c.ending = .broken := by
  have hs (c : Connection) (bytes : List UInt8) : (c.send bytes).ending = c.ending := by
    unfold send
    split <;> rfl
  cases a with
  | read count => simp only [perform] at h; split at h <;> exact h
  | readThroughNul => simp only [perform] at h; split at h <;> exact h
  | write bytes => exact hs c bytes ▸ h
  | echo count got =>
    simp only [perform] at h
    split at h
    · rw [hs] at h
      exact h
    · exact h
  | wait millis => simp only [perform] at h; split at h <;> exact h
  | close =>
    simp only [perform] at h
    split at h
    · cases h
    · exact h
  | reset => exact absurd rfl ha

/-- Nothing follows a reset. -/
theorem script_of_broken {c : Connection} (hc : c.ending ≠ .broken) (script : List Action)
    (h : (follow now c script).ending = .broken) : (follow now c script).script = [] := by
  induction script generalizing c with
  | nil => rfl
  | cons a rest ih =>
    by_cases ha : a = .reset
    · subst ha
      rfl
    · have hp (hb : (perform now c a).1.ending = .broken) : False := hc (broken_of_perform ha hb)
      rcases he : perform now c a with ⟨c', _ | a'⟩
      · rw [he] at hp
        simp only [follow, he, if_neg ha] at h ⊢
        exact ih hp h
      · rw [he] at hp
        simp only [follow, he] at h
        exact absurd h hp

/-- A reset after the end of the stream is not found. -/
theorem not_broken_follow {c : Connection} (he : c.hasEnded) (hc : c.ending ≠ .broken)
    (script : List Action) : (follow now c script).ending ≠ .broken := by
  induction script generalizing c with
  | nil => exact hc
  | cons a rest ih =>
    have hg := grows_perform now c a
    by_cases ha : a = .reset
    · subst ha
      have hw : c.ending ≠ .waiting := by simpa [hasEnded] using he
      simp [follow, perform, hw]
    · rcases hp : perform now c a with ⟨c', _ | a'⟩
      · have hc' : c'.ending ≠ .broken := fun hb => hc (broken_of_perform ha (by rw [hp]; exact hb))
        rw [hp] at hg
        simp only [follow, hp, if_neg ha]
        exact ih (hg.ended he).1 hc'
      · have hc' : c'.ending ≠ .broken := fun hb => hc (broken_of_perform ha (by rw [hp]; exact hb))
        simp only [follow, hp]
        exact hc'

/-- Once the stream has ended, it does not matter when the client looks whether it was
reset. -/
theorem broken_advance_iff (h : now ≤ later) {c : Connection} (hc : c.ending ≠ .broken)
    (he : (c.advance now).hasEnded) :
    (c.advance later).ending = .broken ↔ (c.advance now).ending = .broken := by
  rw [← advance_advance h]
  constructor
  · intro hb
    by_cases hn : (c.advance now).ending = .broken
    · exact hn
    · exact absurd hb (not_broken_follow he hn _)
  · intro hb
    have hs := script_of_broken hc c.script hb
    rw [advance, show (c.advance now).script = [] from hs]
    exact hb

end Connection

end ProxyDial
