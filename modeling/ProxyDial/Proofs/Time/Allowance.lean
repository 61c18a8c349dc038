import ProxyDial.Time.Timer

/-!
# Timeouts in whole seconds

A timeout of whole seconds falls due after just so many milliseconds.  One that leads
out of the clock's range never does.  So a longer timeout is reached no sooner
(`noLater_allowance?`).

*Waiting without a timer.*  A wait that is not raced against a timer is given up after thirty
years if its timeout leads out of the clock's range (`Deadline.cutoff_ofSecs`).  So there a
longer timeout may be reached sooner, and `Outwaits` compares how long the waits last.
-/

namespace ProxyDial

/-- The milliseconds that a timeout gives from the instant `now` on, if they end at
all. -/
def allowance? (now : Nat) (secs : UInt64) : Option Nat :=
  if now * 1000000 + secs.toNat * 1000000000 < Deadline.range then some (1000 * secs.toNat)
  else none

variable {now : Nat}

theorem lt_of_allowance? {secs : UInt64} (h : 1 ≤ secs) {millis : Nat}
    (ha : allowance? now secs = some millis) : now < now + millis := by
  dsimp only [allowance?] at ha
  have hs : 1 ≤ secs.toNat := h
  split at ha
  · cases ha
    omega
  · cases ha

namespace Deadline

theorem le_due_of_after {d : Duration} {deadline : Deadline} (h : after now d = some deadline) :
    now ≤ deadline.due := by
  dsimp only [after] at h
  split at h
  · cases h
    dsimp only [due]
    omega
  · cases h

theorem due_after_ofSecs (now : Nat) (secs : UInt64) :
    (after now (.ofSecs secs)).map due = (allowance? now secs).map (now + ·) := by
  dsimp only [after, allowance?, Duration.ofSecs]
  split
  · dsimp only [Option.map_some, due]
    congr 1
    omega
  · rfl

/-- A timeout that is in the clock's range is over after just so many seconds. -/
theorem due_of_isSome {now : Nat} {secs : UInt64} (h : (after now (.ofSecs secs)).isSome) :
    (after now (.ofSecs secs)).map due = some (now + 1000 * secs.toNat) := by
  obtain ⟨deadline, hd⟩ := Option.isSome_iff_exists.1 h
  have hdue := due_after_ofSecs now secs
  rw [allowance?] at hdue
  split at hdue
  · exact hdue
  · rw [hd] at hdue
    cases hdue

/-- A shorter time from an earlier instant on is in the clock's range if a longer one is. -/
theorem isSome_of_le {now later : Nat} {d d' : Duration} (h : now ≤ later)
    (hd : d.nanos ≤ d'.nanos) (hs : (after later d').isSome) : (after now d).isSome := by
  cases ha : after now d with
  | some deadline => rfl
  | none =>
    have hover := (after_eq_none_iff now d).1 ha
    have hlater : after later d' = none :=
      (after_eq_none_iff later d').2 (Nat.le_trans hover (by omega))
    rw [hlater] at hs
    cases hs

end Deadline

/-- The first of two limits is reached no later than the second.  A limit that is none is
never reached. -/
def NoLater (limit limit' : Option Nat) : Prop := ∀ l' ∈ limit', ∃ l ∈ limit, l ≤ l'

theorem NoLater.none (limit : Option Nat) : NoLater limit .none := by
  intro l' hl'
  cases hl'

theorem NoLater.le {l : Nat} {limit' : Option Nat} (h : NoLater (some l) limit') :
    ∀ l' ∈ limit', l ≤ l' := by
  intro l' hl'
  obtain ⟨_, hl, hle⟩ := h l' hl'
  cases hl
  exact hle

theorem NoLater.eq_none {limit' : Option Nat} (h : NoLater .none limit') : limit' = .none := by
  cases limit' with
  | none => rfl
  | some l' =>
    obtain ⟨_, hl, -⟩ := h l' rfl
    cases hl

theorem noLater_allowance? {secs secs' : UInt64} (h : secs ≤ secs') (now : Nat) :
    NoLater ((allowance? now secs).map (now + ·)) ((allowance? now secs').map (now + ·)) := by
  intro l' hl'
  obtain ⟨millis', hm, rfl⟩ := Option.map_eq_some_iff.1 hl'
  have hle : secs.toNat ≤ secs'.toNat := h
  rw [allowance?] at hm
  split at hm
  · rename_i hfits'
    cases hm
    have hfits : now * 1000000 + secs.toNat * 1000000000 < Deadline.range :=
      Nat.lt_of_le_of_lt (by omega) hfits'
    refine ⟨now + 1000 * secs.toNat, ?_, by omega⟩
    rw [allowance?, if_pos hfits]
    rfl
  · cases hm

/-- A longer timeout falls due no sooner. -/
theorem noLater_after {secs secs' : UInt64} (h : secs ≤ secs') (now : Nat) :
    NoLater ((Deadline.after now (.ofSecs secs)).map Deadline.due)
      ((Deadline.after now (.ofSecs secs')).map Deadline.due) := by
  rw [Deadline.due_after_ofSecs, Deadline.due_after_ofSecs]
  exact noLater_allowance? h now

/-! ## Waiting without a timer -/

/-- The milliseconds after which a wait with a timeout is given up that begins at the instant
`now`.  Out of the clock's range they are thirty years. -/
def patience (now : Nat) (secs : UInt64) : Nat := (allowance? now secs).getD Deadline.farFuture

namespace Deadline

/-- Out of the clock's range a wait is given up after thirty years. -/
theorem patience_eq_farFuture {secs : UInt64} (h : after now (.ofSecs secs) = none) :
    patience now secs = farFuture := by
  have hdue := due_after_ofSecs now secs
  rw [h] at hdue
  rw [patience, Option.map_eq_none_iff.1 hdue.symm, Option.getD_none]

/-- In range it is given up after just so many seconds. -/
theorem patience_of_isSome {secs : UInt64} (h : (after now (.ofSecs secs)).isSome) :
    patience now secs = 1000 * secs.toNat := by
  have hdue := due_of_isSome h
  rw [due_after_ofSecs] at hdue
  obtain ⟨millis, hm, hsum⟩ := Option.map_eq_some_iff.1 hdue
  rw [patience, hm, Option.getD_some]
  exact Nat.add_left_cancel hsum

theorem cutoff_ofSecs (now : Nat) (secs : UInt64) :
    cutoff now (.ofSecs secs) = now + patience now secs := by
  rw [cutoff]
  cases ha : after now (.ofSecs secs) with
  | none => rw [patience_eq_farFuture ha, Option.elim_none]
  | some deadline =>
    have hsome : (after now (.ofSecs secs)).isSome := by rw [ha]; rfl
    have hdue := due_of_isSome hsome
    rw [ha, Option.map_some] at hdue
    rw [patience_of_isSome hsome, Option.elim_some]
    exact Option.some.inj hdue

theorem le_cutoff (now : Nat) (d : Duration) : now ≤ cutoff now d := by
  rw [cutoff]
  cases ha : after now d with
  | none =>
    rw [Option.elim_none]
    exact Nat.le_add_right ..
  | some deadline =>
    rw [Option.elim_some]
    exact le_due_of_after ha

end Deadline

/-- A wait with the second of two optional timeouts is given up no sooner than one with the
first, if both begin at the instant `now`.  Without a timeout it is never given up. -/
def Outwaits (now : Nat) (secs? secs?' : Option UInt64) : Prop :=
  ∀ secs' ∈ secs?', ∃ secs ∈ secs?, patience now secs ≤ patience now secs'

theorem Outwaits.noLater {secs? secs?' : Option UInt64} (h : Outwaits now secs? secs?') :
    NoLater ((secs?.map Duration.ofSecs).map (Deadline.cutoff now))
      ((secs?'.map Duration.ofSecs).map (Deadline.cutoff now)) := by
  intro l' hl'
  obtain ⟨_, hd', rfl⟩ := Option.map_eq_some_iff.1 hl'
  obtain ⟨secs', hsecs', rfl⟩ := Option.map_eq_some_iff.1 hd'
  obtain ⟨secs, hsecs, hle⟩ := h secs' hsecs'
  rw [Option.mem_def] at hsecs
  refine ⟨Deadline.cutoff now (.ofSecs secs), by rw [hsecs]; rfl, ?_⟩
  rw [Deadline.cutoff_ofSecs, Deadline.cutoff_ofSecs]
  exact Nat.add_le_add_left hle now

theorem Timer.limit_arm (now : Nat) (timeout : Duration) :
    (arm now timeout).limit = (Deadline.after now timeout).map Deadline.due := rfl

end ProxyDial
