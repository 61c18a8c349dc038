import ProxyDial.Proofs.Session.TimerLife

/-!
# One deadline for many operations

A timer is armed once and raced against many times.  An operation that is ready after some
time, or never, shows what a race does.

*One race.*  `Timer.Allows` says when an operation keeps ahead of the timer.  Then the race
goes as the operation goes (`Op.outcome_race_of_allows`).  If not, the race ends at the
deadline, or at once if the deadline is over (`Op.outcome_race_of_not_allows`).

*Many races.*  What counts is how much of the allowance is left (`Op.spent`).  A race takes
its time from it and nothing puts any back, so the k-th operation is in time if all up to
the k-th take no longer than the timeout (`Op.raceAll_of_limit`).
-/

namespace ProxyDial

/-! ## One race -/

namespace Op

variable {α : Type} {s : Session} {after : Option Nat} {millis l : Nat}

/-- Who waits when the limit has passed is given up. -/
theorem outcome_giveUpAt_ready_of_over (a : α) (h : l ≤ s.clock) (hafter : after ≠ some 0) :
    ((ready after a).giveUpAt (some l)).outcome s = (some none, s) := by
  match after, hafter with
  | none, _ =>
    show ((Course.stuck s : Course α).within (some l)).outcome = _
    rw [Course.within_stuck_of_over h]
    rfl
  | some (millis + 1), _ =>
    show ((Course.wait s _ _ : Course α).within (some l)).outcome = _
    rw [Course.within_wait_of_over h]
    rfl

/-- An operation is given up at the limit, or at once if that has passed. -/
theorem outcome_giveUpAt_ready_of_lt (a : α) (h : ∀ millis ∈ after, l < s.clock + millis)
    (hafter : after ≠ some 0) :
    ((ready after a).giveUpAt (some l)).outcome s = (some none, s.later (l - s.clock)) := by
  rcases Nat.le_total l s.clock with hover | hl
  · rw [outcome_giveUpAt_ready_of_over a hover hafter, Nat.sub_eq_zero_of_le hover]
    rfl
  · have hlimit : ∀ l' ∈ some l, s.clock ≤ l' := by rintro _ ⟨⟩; exact hl
    have hanswers := answers_ready after a hlimit
    generalize ((ready after a).giveUpAt (some l)).outcome s = o at hanswers
    cases hanswers with
    | inTime hin =>
      have hlt := h _ rfl
      have hle := hin l rfl
      omega
    | late => rfl

/-- An operation that is ready at once or no later than the limit is not given up. -/
theorem outcome_giveUpAt_ready_of_le (a : α) (h : millis = 0 ∨ s.clock + millis ≤ l) :
    ((ready (some millis) a).giveUpAt (some l)).outcome s = (some (some a), s.later millis) := by
  match millis, h with
  | 0, _ => rfl
  | millis + 1, h =>
    have hle : s.clock + (millis + 1) ≤ l := h.resolve_left (Nat.succ_ne_zero _)
    have hlimit : ∀ l' ∈ some l, s.clock ≤ l' := by rintro _ ⟨⟩; omega
    have hanswers := answers_ready (some (millis + 1)) a hlimit
    generalize ((ready (some (millis + 1)) a).giveUpAt (some l)).outcome s = o at hanswers
    cases hanswers with
    | inTime => rfl
    | late hlate =>
      have hlt := hlate _ rfl
      omega

variable (result : Except IoError α)

theorem outcome_race_ready_of_lt (hl : s.timer.limit = some l)
    (h : ∀ millis ∈ after, l < s.clock + millis) (hafter : after ≠ some 0) :
    (race (ready after result)).outcome s =
      (some .aborted, (s.later (l - s.clock)).expired) := by
  rw [outcome_race, hl, outcome_giveUpAt_ready_of_lt result h hafter]

theorem outcome_race_ready_of_le (hl : s.timer.limit = some l)
    (h : millis = 0 ∨ s.clock + millis ≤ l) :
    (race (ready (some millis) result)).outcome s =
      (some (.completed result), s.later millis) := by
  rw [outcome_race, hl, outcome_giveUpAt_ready_of_le result h]

/-- Against a timer that never wins a race goes as its operation goes. -/
theorem outcome_race_of_limit_eq_none (hl : s.timer.limit = none) (op : Op (Except IoError α)) :
    (race op).outcome s = ((op.outcome s).1.map .completed, (op.outcome s).2) := by
  rw [outcome_race, hl, outcome_giveUpAt_none]
  rcases op.outcome s with ⟨_ | result, s'⟩ <;> rfl

end Op

/-- Whether an operation that starts at `now` and is ready after some time, or never, keeps
ahead of the timer. -/
def Timer.Allows (t : Timer) (now : Nat) (after : Option Nat) : Prop :=
  after = some 0 ∨ t.state = .idle ∨ t.state = .cancelled ∨ t.deadline = none ∨
    ∃ deadline ∈ t.deadline, ∃ millis ∈ after, now + millis ≤ deadline.due

namespace Timer

variable {t : Timer} {events : List (Nat × TimerEvent)} {now : Nat}

/-- What the limit of a timer leaves of its time is what the deadline leaves. -/
theorem Tells.exists_limit (h : t.Tells events now) (hidle : t.state ≠ .idle)
    (hcancelled : t.state ≠ .cancelled) {deadline : Deadline} (hd : t.deadline = some deadline) :
    ∃ l, t.limit = some l ∧ l - now = deadline.due - now := by
  cases hstate : t.state with
  | idle => exact absurd hstate hidle
  | cancelled => exact absurd hstate hcancelled
  | armed =>
    have hlimit : t.limit = some deadline.due := by rw [limit, hstate, hd]; rfl
    exact ⟨_, hlimit, rfl⟩
  | expired =>
    obtain ⟨deadline', hd', hover⟩ := h.due hstate
    have hsame : deadline' = deadline := Option.some.inj (hd'.symm.trans hd)
    have hdue : deadline.due ≤ now := (deadline.due_le_iff now).2 (hsame ▸ hover)
    have hlimit : t.limit = some 0 := by rw [limit, hstate]
    exact ⟨0, hlimit, by omega⟩

theorem limit_eq_none (h : t.state = .idle ∨ t.state = .cancelled) : t.limit = none := by
  rcases h with h | h <;> rw [limit, h]

theorem Tells.limit_eq_none (h : t.Tells events now) (hd : t.deadline = none) :
    t.limit = none := by
  cases hstate : t.state with
  | idle => rw [limit, hstate]
  | cancelled => rw [limit, hstate]
  | armed => rw [limit, hstate, hd]; rfl
  | expired =>
    obtain ⟨deadline, hd', -⟩ := h.due hstate
    rw [hd] at hd'
    cases hd'

end Timer

namespace Op

variable {α : Type} {s : Session} {events : List (Nat × TimerEvent)} {after : Option Nat}

/-- The race of an operation that keeps ahead of the timer is the operation. -/
theorem outcome_race_of_allows (h : s.timer.Tells events s.clock) (result : Except IoError α)
    (hallows : s.timer.Allows s.clock after) :
    (race (ready after result)).outcome s =
      (((ready after result).outcome s).1.map .completed, ((ready after result).outcome s).2) := by
  have hfree (hl : s.timer.limit = none) := outcome_race_of_limit_eq_none hl (ready after result)
  by_cases hstate : s.timer.state = .idle ∨ s.timer.state = .cancelled
  · exact hfree (Timer.limit_eq_none hstate)
  · cases hd : s.timer.deadline with
    | none => exact hfree (h.limit_eq_none hd)
    | some deadline =>
      rw [not_or] at hstate
      obtain ⟨l, hl, hleft⟩ := h.exists_limit hstate.1 hstate.2 hd
      have htime : ∃ millis, after = some millis ∧ (millis = 0 ∨ s.clock + millis ≤ l) := by
        rcases hallows with hzero | hidle | hcancelled | hnone | ⟨deadline', hd', millis, hm, hle⟩
        · exact ⟨0, hzero, .inl rfl⟩
        · exact absurd hidle hstate.1
        · exact absurd hcancelled hstate.2
        · rw [hd] at hnone
          cases hnone
        · cases hd.symm.trans hd'
          exact ⟨millis, hm, by omega⟩
      obtain ⟨millis, rfl, hle⟩ := htime
      rw [outcome_race_ready_of_le result hl hle, outcome_ready]
      rfl

/-- Any other race is lost at the deadline, or at once if the deadline is over. -/
theorem outcome_race_of_not_allows (h : s.timer.Tells events s.clock)
    (result : Except IoError α) (hallows : ¬s.timer.Allows s.clock after) :
    ∃ deadline, s.timer.deadline = some deadline ∧
      (race (ready after result)).outcome s =
        (some .aborted, (s.later (deadline.due - s.clock)).expired) := by
  simp only [Timer.Allows, not_or] at hallows
  obtain ⟨hafter, hidle, hcancelled, hdeadline, htime⟩ := hallows
  obtain ⟨deadline, hd⟩ := Option.ne_none_iff_exists'.1 hdeadline
  obtain ⟨l, hl, hleft⟩ := h.exists_limit hidle hcancelled hd
  have hlate : ∀ millis ∈ after, l < s.clock + millis := by
    intro millis hm
    have hzero : millis ≠ 0 := by
      rintro rfl
      exact hafter hm
    have hover : ¬s.clock + millis ≤ deadline.due := fun hle =>
      htime ⟨deadline, hd, millis, hm, hle⟩
    omega
  exact ⟨deadline, hd, by rw [outcome_race_ready_of_lt result hl hlate hafter, hleft]⟩

/-! ## Many races -/

/-- Race operations one after the other.  Each race is listed with the instant at which it
is over. -/
def raceAll : List (Option Nat × Except IoError α) → Op (List (Race α × Nat))
  | [] => return []
  | (after, result) :: ops => do
    let raced ← race (ready after result)
    let now := (← get).clock
    let races ← raceAll ops
    return (raced, now) :: races

/-- The time that operations take one after the other, unless one of them is never ready. -/
def total? : List (Option Nat) → Option Nat
  | [] => some 0
  | none :: _ => none
  | some millis :: delays => (total? delays).map (millis + ·)

/-- Whether operations take no longer than an allowance. -/
def Fit (allowance : Nat) (delays : List (Option Nat)) : Prop :=
  ∃ millis ∈ total? delays, millis ≤ allowance

instance (allowance : Nat) (delays : List (Option Nat)) : Decidable (Fit allowance delays) :=
  inferInstanceAs (Decidable (∃ millis ∈ total? delays, millis ≤ allowance))

/-- What operations take from an allowance. -/
def spent (allowance : Nat) (delays : List (Option Nat)) : Nat :=
  (total? delays).elim allowance (min allowance)

/-- What an operation leaves of an allowance. -/
def left (allowance : Nat) (after : Option Nat) : Nat := after.elim 0 (allowance - ·)

/-- How the last of some operations fares when all of them share an allowance that begins at
`start`: what its race comes to, and when. -/
def share (start allowance : Nat) (delays : List (Option Nat)) (after : Option Nat)
    (result : Except IoError α) : Race α × Nat :=
  (if after = some 0 ∨ Fit allowance delays then .completed result else .aborted,
    start + spent allowance delays)

/-! ### Allowances -/

variable {allowance millis start : Nat} {delays : List (Option Nat)}

theorem total?_cons : total? (some millis :: delays) = (total? delays).map (millis + ·) := rfl

theorem fit_nil : Fit allowance [] := ⟨0, rfl, Nat.zero_le _⟩

theorem fit_cons :
    Fit allowance (some millis :: delays) ↔
      millis ≤ allowance ∧ Fit (allowance - millis) delays := by
  rw [Fit, Fit, total?_cons]
  cases total? delays with
  | none => simp
  | some rest =>
    simp only [Option.map_some, Option.mem_def, Option.some.injEq, exists_eq_left']
    omega

theorem not_fit_none : ¬Fit allowance (none :: delays) := by
  rintro ⟨_, hm, -⟩
  cases hm

/-- What fits into nothing is ready at once. -/
theorem Fit.eq_zero (h : Fit 0 delays) (hafter : after ∈ delays) : after = some 0 := by
  induction delays with
  | nil => cases hafter
  | cons first delays ih =>
    cases first with
    | none => exact absurd h not_fit_none
    | some millis =>
      rw [fit_cons, Nat.le_zero] at h
      obtain ⟨rfl, h⟩ := h
      rcases List.mem_cons.1 hafter with rfl | hafter
      · rfl
      · exact ih h hafter

/-- What fits also fits as far as it goes. -/
theorem Fit.of_append {later : List (Option Nat)} (h : Fit allowance (delays ++ later)) :
    Fit allowance delays := by
  induction delays generalizing allowance with
  | nil => exact fit_nil
  | cons first delays ih =>
    cases first with
    | none => exact absurd h not_fit_none
    | some millis =>
      rw [List.cons_append, fit_cons] at h
      exact fit_cons.2 ⟨h.1, ih h.2⟩

theorem left_le : left allowance after ≤ allowance := by
  cases after with
  | none => exact Nat.zero_le _
  | some millis => exact Nat.sub_le _ _

theorem spent_nil : spent allowance [] = 0 := Nat.min_zero _

theorem spent_le : spent allowance delays ≤ allowance := by
  unfold spent
  cases total? delays with
  | none => exact Nat.le_refl _
  | some rest => exact Nat.min_le_left _ _

/-- What the first operation takes is gone for the others. -/
theorem spent_cons :
    spent allowance (after :: delays) =
      allowance - left allowance after + spent (left allowance after) delays := by
  cases after with
  | none =>
    have hnothing : spent 0 delays ≤ 0 := spent_le
    show allowance = allowance - 0 + spent 0 delays
    omega
  | some millis =>
    rw [spent, spent, total?_cons, left, Option.elim_some]
    cases total? delays with
    | none =>
      simp only [Option.map_none, Option.elim_none]
      omega
    | some rest =>
      simp only [Option.map_some, Option.elim_some]
      omega

theorem spent_of_not_fit (h : ¬Fit allowance delays) : spent allowance delays = allowance := by
  unfold spent
  unfold Fit at h
  cases ht : total? delays with
  | none => rfl
  | some rest =>
    simp only [ht, Option.mem_def, Option.some.injEq, exists_eq_left'] at h
    exact Nat.min_eq_left (by omega)

/-- After the first operation the others share what is left. -/
theorem share_cons {first : Option Nat} (hafter : after ∈ delays) (result : Except IoError α) :
    share start allowance (first :: delays) after result =
      share (start + (allowance - left allowance first)) (left allowance first) delays after
        result := by
  have hfit : after = some 0 ∨ Fit allowance (first :: delays) ↔
      after = some 0 ∨ Fit (left allowance first) delays := by
    cases first with
    | none =>
      rw [or_iff_left not_fit_none]
      exact ⟨.inl, Or.rec id fun h => h.eq_zero hafter⟩
    | some millis =>
      rw [fit_cons]
      refine ⟨Or.imp id And.right, Or.rec .inl fun h => ?_⟩
      rcases Nat.lt_or_ge allowance millis with hover | hle
      · -- An allowance that is used up has room for nothing but what takes no time.
        rw [left, Option.elim_some, Nat.sub_eq_zero_of_le (Nat.le_of_lt hover)] at h
        exact .inl (h.eq_zero hafter)
      · exact .inr ⟨hle, h⟩
  rw [share, share, spent_cons, Nat.add_assoc]
  simp only [hfit]

/-! ### Races that share an allowance -/

/-- Whether operations with these delays may share an allowance.  A timer that never wins is
as good as one that leaves time for all of them. -/
inductive Shares (s : Session) (allowance : Nat) (delays : List (Option Nat)) : Prop where
  | limited {l : Nat} (hl : s.timer.limit = some l) (hleft : l - s.clock = allowance)
  | unlimited (hl : s.timer.limit = none) (hfit : Fit allowance delays)

/-- One race: what it comes to, and what it leaves to the others. -/
theorem Shares.race (h : Shares s allowance (after :: delays)) (result : Except IoError α) :
    ∃ raced s', (race (ready after result)).outcome s = (some raced, s') ∧
      share s.clock allowance [after] after result = (raced, s'.clock) ∧
      Shares s' (left allowance after) delays := by
  have hintime {millis : Nat} (hle : millis ≤ allowance) :
      share s.clock allowance [some millis] (some millis) result =
        (.completed result, (s.later millis).clock) := by
    have hfirst : Fit allowance [some millis] := fit_cons.2 ⟨hle, fit_nil⟩
    rw [share, if_pos (.inr hfirst), spent_cons, spent_nil, left, Option.elim_some,
      Session.later_clock]
    congr 1
    omega
  cases h with
  | unlimited hl hfit =>
    cases after with
    | none => exact absurd hfit not_fit_none
    | some millis =>
      obtain ⟨hle, hrest⟩ := fit_cons.1 hfit
      have hrace := outcome_race_of_limit_eq_none hl (ready (some millis) result)
      rw [outcome_ready, Option.map_some] at hrace
      exact ⟨_, _, hrace, hintime hle, .unlimited (by simpa using hl) hrest⟩
  | @limited l hl hleft =>
    by_cases htime : ∃ millis, after = some millis ∧ millis ≤ allowance
    · obtain ⟨millis, rfl, hle⟩ := htime
      have htime : millis = 0 ∨ s.clock + millis ≤ l := by omega
      have hrace := outcome_race_ready_of_le result hl htime
      refine ⟨_, _, hrace, hintime hle, .limited (l := l) (by simpa using hl) ?_⟩
      rw [Session.later_clock, left, Option.elim_some]
      omega
    · have hlate : ∀ millis ∈ after, l < s.clock + millis := by
        intro millis hm
        have hover : ¬millis ≤ allowance := fun hle => htime ⟨millis, hm, hle⟩
        omega
      have hafter : after ≠ some 0 := fun hzero => htime ⟨0, hzero, Nat.zero_le _⟩
      have hnot : ¬Fit allowance [after] := by
        cases after with
        | none => exact not_fit_none
        | some millis => exact fun hfit => htime ⟨millis, rfl, (fit_cons.1 hfit).1⟩
      have hrace := outcome_race_ready_of_lt result hl hlate hafter
      have hspent := spent_of_not_fit hnot
      refine ⟨_, _, hrace, ?_, .limited (l := 0) rfl ?_⟩
      · rw [share, if_neg (not_or.2 ⟨hafter, hnot⟩), hspent, Session.expired_clock,
          Session.later_clock, hleft]
      · -- Nothing is left of an allowance that was spent.
        rw [spent_cons, spent_nil, Nat.add_zero] at hspent
        have hle : left allowance after ≤ allowance := left_le
        omega

theorem mem_take_of_getElem? {ops : List (Option Nat × Except IoError α)} {k : Nat}
    {result : Except IoError α} (h : ops[k]? = some (after, result)) :
    after ∈ (ops.map Prod.fst).take (k + 1) := by
  refine List.mem_of_getElem? (i := k) ?_
  rw [List.getElem?_take_of_lt (Nat.lt_succ_self k), List.getElem?_map, h]
  rfl

/-- Races one after the other: each operation has its share. -/
theorem Shares.raceAll {ops : List (Option Nat × Except IoError α)}
    (h : Shares s allowance (ops.map Prod.fst)) :
    ∃ races s', (raceAll ops).outcome s = (some races, s') ∧
      s'.clock = s.clock + spent allowance (ops.map Prod.fst) ∧
      races.length = ops.length ∧
      ∀ k after result, ops[k]? = some (after, result) →
        races[k]? = some (share s.clock allowance ((ops.map Prod.fst).take (k + 1)) after
          result) := by
  induction ops generalizing s allowance with
  | nil => exact ⟨[], s, rfl, by simp [spent_nil], rfl, by simp⟩
  | cons op ops ih =>
    obtain ⟨first, result⟩ := op
    obtain ⟨raced, s₁, hrace, hshare, hrest⟩ := h.race result
    obtain ⟨races, s₂, hraces, hclock, hlength, hk⟩ := ih hrest
    have hnow : s₁.clock = s.clock + (allowance - left allowance first) := by
      have htime := congrArg Prod.snd hshare
      rw [share, spent_cons, spent_nil] at htime
      exact htime.symm
    refine ⟨(raced, s₁.clock) :: races, s₂, ?_, ?_, ?_, ?_⟩
    · rw [Op.raceAll, outcome_bind, hrace]
      simp only [outcome_bind, outcome_get, hraces, outcome_pure]
    · rw [hclock, hnow, List.map_cons, spent_cons, Nat.add_assoc]
    · rw [List.length_cons, List.length_cons, hlength]
    · intro k after result' hop
      rw [List.map_cons, List.take_succ_cons]
      cases k with
      | zero =>
        cases hop
        rw [List.take_zero, hshare]
        rfl
      | succ k =>
        rw [List.getElem?_cons_succ] at hop ⊢
        rw [hk k after result' hop, share_cons (mem_take_of_getElem? hop), hnow]

/-! ### A timeout for all -/

theorem due_after_millis {now millis : Nat} {deadline : Deadline}
    (h : Deadline.after now ⟨millis * 1000000⟩ = some deadline) :
    deadline.due = now + millis := by
  dsimp only [Deadline.after] at h
  split at h
  · cases h
    rw [← Nat.add_mul, Deadline.due_of_millis]
  · cases h

/-- A timer that was armed just now shares its timeout out. -/
theorem shares_armed (s : Session) (delays : List (Option Nat))
    (h : (Deadline.after s.clock ⟨allowance * 1000000⟩).isSome) :
    Shares (s.armed ⟨allowance * 1000000⟩) allowance delays := by
  obtain ⟨deadline, hd⟩ := Option.isSome_iff_exists.1 h
  refine .limited (l := deadline.due) ?_ ?_
  · rw [Session.armed_timer, Timer.limit_arm, hd, Option.map_some]
  · rw [due_after_millis hd, Session.armed_clock, Nat.add_sub_cancel_left]

/-- If its deadline is out of the clock's range it leaves time for everything. -/
theorem shares_armed_of_eq_none (s : Session) {timeout : Duration}
    (h : Deadline.after s.clock timeout = none) (hfit : Fit allowance delays) :
    Shares (s.armed timeout) allowance delays := by
  refine .unlimited ?_ hfit
  rw [Session.armed_timer, Timer.limit_arm, h, Option.map_none]

/-- An operation that is in time has its race when it is ready. -/
theorem share_of_total? {sum : Nat} (hsum : total? delays = some sum) (hle : sum ≤ allowance)
    (result : Except IoError α) :
    share start allowance delays after result = (.completed result, start + sum) := by
  have hfit : Fit allowance delays := ⟨sum, hsum, hle⟩
  rw [share, if_pos (.inr hfit), spent, hsum, Option.elim_some, Nat.min_eq_right hle]

theorem share_of_not_fit (h : ¬Fit allowance delays) (result : Except IoError α) :
    share start allowance delays after result =
      (if after = some 0 then .completed result else .aborted, start + allowance) := by
  rw [share, spent_of_not_fit h]
  simp only [or_iff_left h]

theorem run?_armed_raceAll {timeout : Duration} {ops : List (Option Nat × Except IoError α)}
    {races : List (Race α × Nat)} {s' : Session}
    (h : (Op.raceAll ops).outcome (s.armed timeout) = (some races, s')) :
    (armTimer timeout >>= fun _ => Op.raceAll ops).run? s = some (races, s') := by
  rw [run?_eq_some_iff, outcome_bind, outcome_armTimer]
  exact h

end Op

variable {α : Type} {s s₁ : Session} {events : List (Nat × TimerEvent)}

/-- A race is the operation's if the operation is ready at once, if the timer is not counting
towards a deadline, or if the deadline is not over when the operation is ready, and it ends
as the operation does.  Any other race ends at the deadline or, if that is over, at once.

Operations that are raced one after the other since the timer was armed share the timeout.
One up to which they take no longer is in time.  One up to which they take longer is not,
unless it is ready at once, and its race ends when the timeout does.  If the deadline is out
of the clock's range they are all in time. -/
theorem deadline_shared (hs : s.timer = .idle) (h : TimerHistory s events s₁)
    (after : Option Nat) (result : Except IoError α) (timeout : Nat)
    (ops : List (Option Nat × Except IoError α)) :
    (s₁.timer.Allows s₁.clock after →
      (Op.race (Op.ready after result)).outcome s₁ =
        match after with
        | some millis => (some (.completed result), s₁.later millis)
        | none => (none, s₁)) ∧
    (¬s₁.timer.Allows s₁.clock after →
      ∃ deadline s', s₁.timer.deadline = some deadline ∧
        (Op.race (Op.ready after result)).run? s₁ = some (.aborted, s') ∧
        s'.clock = max s₁.clock deadline.due) ∧
    ((Deadline.after s₁.clock ⟨timeout * 1000000⟩).isSome →
      ∃ races s', (Op.armTimer ⟨timeout * 1000000⟩ >>= fun _ => Op.raceAll ops).run? s₁ =
          some (races, s') ∧
        s'.clock ≤ s₁.clock + timeout ∧
        races.length = ops.length ∧
        ∀ k after result, ops[k]? = some (after, result) →
          let sum? := Op.total? ((ops.map Prod.fst).take (k + 1))
          (∀ sum ∈ sum?, sum ≤ timeout →
            races[k]? = some (.completed result, s₁.clock + sum)) ∧
          ((∀ sum ∈ sum?, timeout < sum) →
            races[k]? = some (if after = some 0 then .completed result else .aborted,
              s₁.clock + timeout) ∧
            ∀ later, k < later →
              ∀ sum ∈ Op.total? ((ops.map Prod.fst).take (later + 1)), timeout < sum)) ∧
    (Deadline.after s₁.clock ⟨timeout * 1000000⟩ = none →
      ∀ total ∈ Op.total? (ops.map Prod.fst),
        ∃ races s', (Op.armTimer ⟨timeout * 1000000⟩ >>= fun _ => Op.raceAll ops).run? s₁ =
            some (races, s') ∧
          s'.clock = s₁.clock + total ∧
          races.length = ops.length ∧
          ∀ k after result, ops[k]? = some (after, result) →
            ∃ sum ∈ Op.total? ((ops.map Prod.fst).take (k + 1)),
              races[k]? = some (.completed result, s₁.clock + sum)) := by
  have htells := h.tells hs
  refine ⟨fun hallows => ?_, fun hallows => ?_, fun hrange => ?_, fun hrange total htotal => ?_⟩
  · rw [Op.outcome_race_of_allows htells result hallows, Op.outcome_ready]
    cases after <;> rfl
  · obtain ⟨deadline, hd, hrace⟩ := Op.outcome_race_of_not_allows htells result hallows
    refine ⟨deadline, _, hd, (Op.run?_eq_some_iff ..).2 hrace, ?_⟩
    rw [Session.expired_clock, Session.later_clock]
    omega
  · obtain ⟨races, s', hraces, hclock, hlength, hk⟩ := (Op.shares_armed s₁ _ hrange).raceAll
    rw [Session.armed_clock] at hclock hk
    have hspent : Op.spent timeout (ops.map Prod.fst) ≤ timeout := Op.spent_le
    refine ⟨races, s', Op.run?_armed_raceAll hraces, by omega, hlength,
      fun k after result hop => ⟨fun sum hsum hle => ?_, fun hover => ?_⟩⟩
    · rw [hk k after result hop, Op.share_of_total? hsum hle]
    · have hnot : ¬Op.Fit timeout ((ops.map Prod.fst).take (k + 1)) := by
        rintro ⟨sum, hsum, hle⟩
        exact Nat.not_le_of_gt (hover sum hsum) hle
      refine ⟨by rw [hk k after result hop, Op.share_of_not_fit hnot], fun later hlater sum hsum =>
        Nat.lt_of_not_le fun hle => hnot ?_⟩
      have hfit : Op.Fit timeout ((ops.map Prod.fst).take (later + 1)) := ⟨sum, hsum, hle⟩
      rw [show later + 1 = k + 1 + (later - k) by omega, List.take_add] at hfit
      exact hfit.of_append
  · have hfit : Op.Fit total (ops.map Prod.fst) := ⟨total, htotal, Nat.le_refl _⟩
    obtain ⟨races, s', hraces, hclock, hlength, hk⟩ :=
      (Op.shares_armed_of_eq_none s₁ hrange hfit).raceAll
    rw [Session.armed_clock] at hclock hk
    rw [Option.mem_def] at htotal
    rw [Op.spent, htotal, Option.elim_some, Nat.min_self] at hclock
    refine ⟨races, s', Op.run?_armed_raceAll hraces, hclock, hlength, fun k after result hop => ?_⟩
    rw [← List.take_append_drop (k + 1) (ops.map Prod.fst)] at hfit
    obtain ⟨sum, hsum, hle⟩ := hfit.of_append
    exact ⟨sum, hsum, by rw [hk k after result hop, Op.share_of_total? hsum hle]⟩

/-- A timer of three seconds is raced against for two.  Then an operation of two seconds is
given up when the third is over.  Armed again, the timer allows one such operation, gives the
second up after three seconds, and is then won against only by an operation that does not
wait. -/
theorem deadline_shared_three_seconds :
    let s := Session.start {}
    let ok : Except IoError Unit := .ok ()
    let ops := [(some 2000, ok), (some 2000, ok), (some 0, ok), (none, ok)]
    ∃ s₁, s.timer = .idle ∧
      TimerHistory s [(2000, .completed), (0, .armed (.ofSecs 3))] s₁ ∧
      s₁.timer.Allows s₁.clock (some 1000) ∧
      (Op.race (Op.ready (some 1000) ok)).outcome s₁ = (some (.completed ok), s₁.later 1000) ∧
      ¬s₁.timer.Allows s₁.clock (some 2000) ∧
      (∃ s', (Op.race (Op.ready (some 2000) ok)).run? s₁ = some (.aborted, s') ∧
        s'.clock = 3000) ∧
      (Deadline.after s₁.clock ⟨3000 * 1000000⟩).isSome ∧
      (∃ races s', (Op.armTimer ⟨3000 * 1000000⟩ >>= fun _ => Op.raceAll ops).run? s₁ =
          some (races, s') ∧
        races[0]? = some (.completed ok, 4000) ∧ races[1]? = some (.aborted, 5000) ∧
        races[2]? = some (.completed ok, 5000) ∧ races[3]? = some (.aborted, 5000)) ∧
      Deadline.after s₁.clock ⟨9223372036854775808000 * 1000000⟩ = none ∧
      ∃ races s', (Op.armTimer ⟨9223372036854775808000 * 1000000⟩ >>= fun _ =>
          Op.raceAll [(some 2000, ok)]).run? s₁ = some (races, s') ∧ s'.clock = 4000 := by
  intro s ok ops
  obtain ⟨s₁, h, hnow, htimer⟩ : ∃ s₁,
      TimerHistory s [(2000, .completed), (0, .armed (.ofSecs 3))] s₁ ∧ s₁.clock = 2000 ∧
        s₁.timer = .arm 0 (.ofSecs 3) := by
    have harm : TimerHistory s [(0, .armed (.ofSecs 3))] (s.armed (.ofSecs 3)) :=
      .next .none (.arm rfl)
    have hlimit : (s.armed (.ofSecs 3)).timer.limit = some 3000 := by decide
    have hrace : ((Op.race (Op.ready (some 2000) ok)).giveUpAt none).run? (s.armed (.ofSecs 3)) =
        some (some (.completed ok), (s.armed (.ofSecs 3)).later 2000) := by
      rw [Op.run?_eq_some_iff, Op.outcome_giveUpAt_none,
        Op.outcome_race_ready_of_le ok hlimit (.inr (by decide)), Option.map_some]
    have hleaves := (Op.Orderly.ready (some 2000) ok).leavesTimer
    exact ⟨_, harm.next_at (.race hleaves hrace) (Session.later_clock ..),
      Session.later_clock .., Session.later_timer ..⟩
  have hd : s₁.timer.deadline = some ⟨3000 * 1000000⟩ := by rw [htimer]; decide
  have hallows : s₁.timer.Allows s₁.clock (some 1000) :=
    .inr (.inr (.inr (.inr ⟨_, hd, 1000, rfl, by rw [hnow]; decide⟩)))
  have hover : ¬s₁.timer.Allows s₁.clock (some 2000) := by
    rw [htimer, hnow]
    rintro (hzero | hidle | hcancelled | hnone | ⟨deadline, hd', millis, hm, hle⟩)
    · cases hzero
    · cases hidle
    · cases hcancelled
    · cases hnone
    · cases hm
      rw [htimer] at hd
      cases hd.symm.trans hd'
      exact absurd hle (by decide)
  have hrange : (Deadline.after s₁.clock ⟨3000 * 1000000⟩).isSome := by rw [hnow]; decide
  have hfar : Deadline.after s₁.clock ⟨9223372036854775808000 * 1000000⟩ = none := by
    rw [hnow]
    decide
  obtain ⟨hwon, -, hshared, -⟩ := deadline_shared rfl h (some 1000) ok 3000 ops
  obtain ⟨-, hlost, -, hall⟩ :=
    deadline_shared rfl h (some 2000) ok 9223372036854775808000 [(some 2000, ok)]
  obtain ⟨deadline, s', hd', haborted, hclock⟩ := hlost hover
  obtain ⟨races, s'', hraces, -, -, hk⟩ := hshared hrange
  obtain ⟨races', s₂, hraces', hclock', -⟩ := hall hfar 2000 rfl
  cases hd.symm.trans hd'
  rw [hnow] at hclock hclock' hk
  refine ⟨s₁, rfl, h, hallows, hwon hallows, hover, ⟨s', haborted, hclock⟩, hrange,
    ⟨races, s'', hraces, ?_, ?_, ?_, ?_⟩, hfar, races', s₂, hraces', hclock'⟩
  · exact (hk 0 (some 2000) ok rfl).1 2000 rfl (by decide)
  · exact ((hk 1 (some 2000) ok rfl).2 (by rintro _ ⟨⟩; decide)).1
  · exact ((hk 2 (some 0) ok rfl).2 (by rintro _ ⟨⟩; decide)).1
  · exact ((hk 3 none ok rfl).2 (by rintro _ ⟨⟩)).1

end ProxyDial
