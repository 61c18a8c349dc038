import ProxyDial.Proofs.Network.Readiness
import ProxyDial.Proofs.Session.Outcome

/-!
# Waiting

A lookup waits for its answer, and a read waits until the connection is ready for it.
Either may be given up at a limit (`answers_ready`, `awaits_awaitReady`).

For a read, `Session.awaited` says in one place how the wait can end.  The session in
the end does not tell how often the client looked on the way, since a server comes
equally far however often it is looked at (`moveTo_moveTo`).
-/

namespace ProxyDial

variable {now later : Nat}

/-! ## Time -/

theorem Network.advance_advance (h : now ≤ later) (net : Network) :
    (net.advance now).advance later = net.advance later := by
  simp [Network.advance, Connection.advance_advance h]

namespace Session

theorem moveTo_moveTo (h : now ≤ later) (s : Session) :
    (s.moveTo now).moveTo later = s.moveTo later := by
  simp [moveTo, Network.advance_advance h, Function.comp_def, Connection.advance_advance h]

/-- How a wait ends.  It is over at the instant `ready`, or never if there is none, and
it is given up at `limit`.  A wait for good without a limit comes as far as `last`. -/
def awaited (s : Session) (last : Nat) (ready limit : Option Nat) :
    Option (Option Unit) × Session :=
  match ready, limit with
  | some t, none => (some (some ()), s.moveTo t)
  | some t, some l => if t ≤ l then (some (some ()), s.moveTo t) else (some none, s.moveTo l)
  | none, some l => (some none, s.moveTo l)
  | none, none => (none, s.moveTo last)

theorem awaited_of_lt {ready : Option Nat} {l : Nat} (h : ∀ t ∈ ready, l < t) (last : Nat)
    (s : Session) : s.awaited last ready (some l) = (some none, s.moveTo l) := by
  cases ready with
  | none => rfl
  | some t => exact if_neg (Nat.not_le_of_gt (h t rfl))

theorem awaited_of_le {t : Nat} {limit : Option Nat} (h : ∀ l ∈ limit, t ≤ l) (last : Nat)
    (s : Session) : s.awaited last (some t) limit = (some (some ()), s.moveTo t) := by
  cases limit with
  | none => rfl
  | some l => exact if_pos (h l rfl)

end Session

namespace Op

/-! ## Waits that are given up -/

/-- Without a limit nothing is given up. -/
theorem outcome_giveUpAt_none {α : Type} (op : Op α) (s : Session) :
    (op.giveUpAt none).outcome s = ((op.outcome s).1.map some, (op.outcome s).2) := by
  simp only [outcome, course_giveUpAt, Course.within_none, Course.outcome_bind]
  rcases (op.course s).outcome with ⟨_ | a, s'⟩ <;> rfl

/-- How a wait for an answer ends. -/
inductive Answers {α : Type} (a : α) (s : Session) :
    Option Nat → Option Nat → Option (Option α) × Session → Prop where
  | inTime {millis : Nat} {limit : Option Nat} (h : ∀ l ∈ limit, s.clock + millis ≤ l) :
      Answers a s (some millis) limit (some (some a), s.later millis)
  | late {after : Option Nat} {l : Nat} (h : ∀ millis ∈ after, l < s.clock + millis) :
      Answers a s after (some l) (some none, s.later (l - s.clock))
  | never : Answers a s none none (none, s)

/-- What is given up has a limit. -/
theorem Answers.exists_limit {α : Type} {a : α} {s s' : Session} {after limit : Option Nat}
    (ha : Answers a s after limit (some none, s')) : ∃ l, limit = some l := by
  cases ha with
  | @late _ l h => exact ⟨l, rfl⟩

theorem answers_ready {α : Type} {limit : Option Nat} (after : Option Nat) (a : α) {s : Session}
    (hl : ∀ l ∈ limit, s.clock ≤ l) :
    Answers a s after limit (((ready after a).giveUpAt limit).outcome s) := by
  cases limit with
  | none =>
    rw [outcome_giveUpAt_none, outcome_ready]
    cases after with
    | none => exact .never
    | some millis => exact .inTime (by simp)
  | some l =>
    have hl : s.clock ≤ l := hl l rfl
    have hmove (h : s.clock < l) : s.moveTo l = s.later (l - s.clock) := by
      obtain ⟨n, hn⟩ : ∃ n, l - s.clock = n + 1 := ⟨l - s.clock - 1, by omega⟩
      rw [hn, Session.later, show s.clock + (n + 1) = l by omega]
    have hover (h : s.clock = l) : s = s.later (l - s.clock) := by
      rw [← h, Nat.sub_self]
      rfl
    cases after with
    | none =>
      show Answers a s none (some l) ((Course.stuck s : Course α).within (some l)).outcome
      have hn : Answers a s none (some l) (some none, s.later (l - s.clock)) := .late (by simp)
      rcases Nat.eq_or_lt_of_le hl with h | h
      · rw [Course.within_stuck_of_over (Nat.le_of_eq h.symm)]
        rw [← hover h] at hn
        exact hn
      · rw [Course.within_stuck_of_lt h, hmove h]
        exact hn
    | some millis =>
      cases millis with
      | zero => exact .inTime fun l' h => by cases h; exact hl
      | succ millis =>
        have hc : (ready (some (millis + 1)) a).course s =
            .wait s (s.clock + (millis + 1)) (.done a (s.later (millis + 1))) := rfl
        have hn (h : l < s.clock + (millis + 1)) :
            Answers a s (some (millis + 1)) (some l) (some none, s.later (l - s.clock)) :=
          .late fun n hn => by cases hn; exact h
        rw [outcome, course_giveUpAt, hc]
        rcases Nat.eq_or_lt_of_le hl with h | h
        · rw [Course.within_wait_of_over (Nat.le_of_eq h.symm)]
          have hn := hn (by omega)
          rw [← hover h] at hn
          exact hn
        · rcases Nat.lt_or_ge l (s.clock + (millis + 1)) with hw | hw
          · rw [Course.within_wait_of_lt h hw, hmove h]
            exact hn hw
          · rw [Course.within_wait_of_le h hw]
            exact .inTime fun l' hl' => by cases hl'; exact hw

/-- At the instant of readiness nothing is waited for. -/
theorem course_awaitAmong_of_ready {isReady : Connection → Bool} {s : Session} {c : Connection}
    (hs : s.stream = some c) (hr : isReady c) (wakes : List Nat) :
    (awaitAmong isReady wakes).course s = .done () s := by
  cases wakes <;> simp [awaitAmong, hs, hr, Course.bind]

theorem course_awaitAmong_nil {isReady : Connection → Bool} {s : Session} {c : Connection}
    (hs : s.stream = some c) (hr : isReady c = false) :
    (awaitAmong isReady []).course s = .stuck s := by
  simp [awaitAmong, hs, hr, Course.bind, never]

theorem course_awaitAmong_cons {isReady : Connection → Bool} {s : Session} {c : Connection}
    (hs : s.stream = some c) (hr : isReady c = false) (wake : Nat) (rest : List Nat) :
    (awaitAmong isReady (wake :: rest)).course s =
      .wait s wake ((awaitAmong isReady rest).course (s.moveTo wake)) := by
  simp [awaitAmong, hs, hr, Course.bind, sleepUntil]

/-- Waiting among instants ends at the first of them at which the connection is ready. -/
theorem outcome_giveUpAt_awaitAmong (isReady : Connection → Bool) (limit : Option Nat)
    {s : Session} {c : Connection} (hs : s.stream = some c) (wakes : List Nat)
    (hp : (now :: wakes).Pairwise (· ≤ ·)) (hl : ∀ l ∈ limit, now ≤ l) :
    ((awaitAmong isReady wakes).giveUpAt limit).outcome (s.moveTo now) =
      s.awaited (wakes.getLastD now)
        ((now :: wakes).find? fun t => isReady (c.advance t)) limit := by
  have hm (t : Nat) : (s.moveTo t).stream = some (c.advance t) := by simp [hs]
  have ho (t : Nat) : t ≤ (s.moveTo t).clock := Nat.le_refl t
  induction wakes generalizing now with
  | nil =>
    cases hr : isReady (c.advance now) with
    | true =>
      rw [outcome_giveUpAt_of_done limit (course_awaitAmong_of_ready (hm now) hr []),
        List.find?_cons_of_pos (by simpa using hr), Session.awaited_of_le hl]
    | false =>
      rw [outcome, course_giveUpAt, course_awaitAmong_nil (hm now) hr]
      simp only [List.find?_cons, hr]
      cases limit with
      | none => rfl
      | some l =>
        rcases Nat.eq_or_lt_of_le (hl l rfl) with rfl | hn
        · rw [Course.within_stuck_of_over (ho now)]
          rfl
        · rw [Course.within_stuck_of_lt hn, Session.moveTo_moveTo (hl l rfl)]
          rfl
  | cons wake rest ih =>
    have hw : now ≤ wake := List.rel_of_pairwise_cons hp (.head _)
    have hp' : (wake :: rest).Pairwise (· ≤ ·) := List.Pairwise.of_cons hp
    cases hr : isReady (c.advance now) with
    | true =>
      rw [outcome_giveUpAt_of_done limit (course_awaitAmong_of_ready (hm now) hr (wake :: rest)),
        List.find?_cons_of_pos (by simpa using hr), Session.awaited_of_le hl]
    | false =>
      -- The connection is not ready yet, so the first candidate is `wake`.
      have hf : (now :: wake :: rest).find? (fun t => isReady (c.advance t)) =
          (wake :: rest).find? fun t => isReady (c.advance t) := by
        rw [List.find?_cons_of_neg (by simpa using hr)]
      have hge : ∀ t ∈ (wake :: rest).find? fun t => isReady (c.advance t), wake ≤ t := by
        intro t ht
        rcases List.mem_cons.1 (List.mem_of_find?_eq_some ht) with rfl | ht
        · exact Nat.le_refl _
        · exact List.rel_of_pairwise_cons hp' ht
      rw [hf, List.getLastD_cons, outcome, course_giveUpAt, course_awaitAmong_cons (hm now) hr,
        Session.moveTo_moveTo hw]
      cases limit with
      | none => exact ih hp' (by simp)
      | some l =>
        rcases Nat.eq_or_lt_of_le (hl l rfl) with rfl | hn
        · have hlt : ∀ t ∈ (wake :: rest).find? fun t => isReady (c.advance t), now < t := by
            intro t ht
            refine Nat.lt_of_le_of_ne (Nat.le_trans hw (hge t ht)) fun he => ?_
            have htr := List.find?_some ht
            rw [← he, hr] at htr
            cases htr
          rw [Course.within_wait_of_over (ho now), Session.awaited_of_lt hlt]
          rfl
        · rcases Nat.lt_or_ge l wake with hwl | hwl
          · have hlt : ∀ t ∈ (wake :: rest).find? fun t => isReady (c.advance t), l < t :=
              fun t ht => Nat.lt_of_lt_of_le hwl (hge t ht)
            rw [Course.within_wait_of_lt hn hwl, Session.moveTo_moveTo (hl l rfl),
              Session.awaited_of_lt hlt]
            rfl
          · rw [Course.within_wait_of_le hn hwl]
            exact ih hp' fun l' h => by cases h; exact hwl

/-- How a wait for the connection to be ready ends. -/
inductive Awaits (isReady : Connection → Bool) (limit : Option Nat) (s : Session) (c : Connection) :
    Option (Option Unit) × Session → Prop where
  | atOnce (h : isReady c) : Awaits isReady limit s c (some (some ()), s)
  | inTime {t : Nat} (h : isReady c = false) (hr : c.readyAt? isReady s.clock = some t)
      (hl : ∀ l ∈ limit, s.clock < l ∧ t ≤ l) :
      Awaits isReady limit s c (some (some ()), s.moveTo t)
  | late {l : Nat} (h : isReady c = false) (hl : limit = some l) (hc : s.clock < l)
      (hr : ∀ t ∈ c.readyAt? isReady s.clock, l < t) :
      Awaits isReady limit s c (some none, s.moveTo l)
  | tooLate {l : Nat} (h : isReady c = false) (hl : limit = some l) (hc : l ≤ s.clock) :
      Awaits isReady limit s c (some none, s)
  | never (h : isReady c = false) (hl : limit = none) (hr : c.readyAt? isReady s.clock = none) :
      Awaits isReady limit s c (none, s.moveTo (c.lastInstant s.clock))

theorem awaits_awaited {isReady : Connection → Bool} {limit : Option Nat} {s : Session}
    {c : Connection} (h : isReady c = false) (hl : ∀ l ∈ limit, s.clock < l) :
    Awaits isReady limit s c
      (s.awaited (c.lastInstant s.clock) (c.readyAt? isReady s.clock) limit) := by
  cases ht : c.readyAt? isReady s.clock with
  | none =>
    cases limit with
    | none => exact .never h rfl ht
    | some l => exact .late h rfl (hl l rfl) (by simp [ht])
  | some t =>
    cases limit with
    | none => exact .inTime h ht (by simp)
    | some l =>
      rcases Nat.lt_or_ge l t with hlt | hlt
      · have hlt' : ∀ t' ∈ some t, l < t' := by rintro t' ⟨⟩; exact hlt
        rw [Session.awaited_of_lt hlt']
        exact .late h rfl (hl l rfl) (ht ▸ hlt')
      · have hlt' : ∀ l' ∈ some l, t ≤ l' := by rintro l' ⟨⟩; exact hlt
        rw [Session.awaited_of_le hlt']
        exact .inTime h ht fun l' hl' => ⟨hl l' hl', hlt' l' hl'⟩

theorem awaits_awaitReady (isReady : Connection → Bool) (limit : Option Nat) {s : Session}
    {c : Connection} (hs : s.stream = some c) :
    Awaits isReady limit s c (((awaitReady isReady).giveUpAt limit).outcome s) := by
  cases hr : isReady c with
  | true =>
    have hc : (awaitReady isReady).course s = .done () s := by
      simp [awaitReady, hs, hr, Course.bind]
    rw [outcome_giveUpAt_of_done limit hc]
    exact .atOnce hr
  | false =>
    have hc : (awaitReady isReady).course s = .wait s s.clock
        ((awaitAmong isReady (c.advance s.clock).wakeups).course (s.moveTo s.clock)) := by
      simp [awaitReady, sleep, sleepUntil, hs, hr, Course.bind]
    -- Before the limit the wait goes on among the instants at which the server wakes.
    have hgo (hl : ∀ l ∈ limit, s.clock < l) :
        ((awaitReady isReady).giveUpAt limit).outcome s =
          s.awaited (c.lastInstant s.clock) (c.readyAt? isReady s.clock) limit := by
      have ha := outcome_giveUpAt_awaitAmong isReady limit hs _
        (Connection.pairwise_instants s.clock c) fun l h => Nat.le_of_lt (hl l h)
      rw [outcome, course_giveUpAt, hc]
      cases limit with
      | none => exact ha
      | some l =>
        rw [Course.within_wait_of_le (hl l rfl) (Nat.le_of_lt (hl l rfl))]
        exact ha
    cases limit with
    | none =>
      have hl : ∀ l ∈ (none : Option Nat), s.clock < l := by simp
      rw [hgo hl]
      exact awaits_awaited hr hl
    | some l =>
      rcases Nat.lt_or_ge s.clock l with hn | hn
      · have hl : ∀ l' ∈ some l, s.clock < l' := by rintro l' ⟨⟩; exact hn
        rw [hgo hl]
        exact awaits_awaited hr hl
      · rw [outcome, course_giveUpAt, hc, Course.within_wait_of_over hn]
        exact .tooLate hr rfl hn

end Op

end ProxyDial
