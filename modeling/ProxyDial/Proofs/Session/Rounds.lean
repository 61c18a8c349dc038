import ProxyDial.Proofs.Session.Outcome

/-!
# Rounds of a loop

`Attempt.turn` says what a round comes to.  It fails, or the loop is done, or the loop goes on
with another state.

*The loop.*  Each round leaves less to do than there was before it.  So a loop makes some
rounds that go on and then a last one, and ends as that does (`Attempt.exists_last_turn`).  It
ends if no round lasts for ever (`Attempt.run_loop_ends_iff`).

*What rounds keep.*  `Attempt.Rounds` says where a number of rounds lead that all go on.  What
each of them keeps they all keep (`Rounds.keeps`), so it holds where the loop ends
(`Attempt.exists_of_run?_loop`).
-/

namespace ProxyDial.Attempt

variable {σ : Type} {left : σ → Nat}
  (round : (a : σ) → Attempt (Option { b : σ // left b < left a }))

/-- What a round comes to, and the session after it. -/
def turn (a : σ) (s : Session) : Option (Except DialError (Option σ)) × Session :=
  (ExceptT.run (Option.map Subtype.val <$> round a)).outcome s

theorem turn_eq (a : σ) (s : Session) :
    turn round a s =
      (((ExceptT.run (round a)).outcome s).1.map fun result => result.map (Option.map Subtype.val),
        ((ExceptT.run (round a)).outcome s).2) := by
  rw [turn, ExceptT.run_map, Op.outcome_map]

/-- A round that does something goes on if that succeeds. -/
theorem turn_of_next {a : σ} {next : Attempt { b : σ // left b < left a }}
    (h : round a = some <$> next) (s : Session) :
    turn round a s = match (ExceptT.run next).outcome s with
      | (some (.ok b), s') => (some (.ok (some b.1)), s')
      | (some (.error e), s') => (some (.error e), s')
      | (none, s') => (none, s') := by
  rw [turn_eq, h, ExceptT.run_map, Op.outcome_map]
  rcases (ExceptT.run next).outcome s with ⟨_ | _ | _, s'⟩ <;> rfl

/-- A round that does nothing is the last. -/
theorem turn_of_done {a : σ} (h : round a = pure none) (s : Session) :
    turn round a s = (some (.ok none), s) := by
  rw [turn_eq, h]
  rfl

/-- A round that goes on leaves less to do. -/
theorem left_lt_of_turn {a b : σ} {s s' : Session}
    (h : turn round a s = (some (.ok (some b)), s')) : left b < left a := by
  rw [turn_eq] at h
  generalize (ExceptT.run (round a)).outcome s = o at h
  rcases o with ⟨_ | _ | _ | ⟨c, hc⟩, s''⟩ <;> cases h
  exact hc

/-- A loop is a round and then, if that goes on, the loop. -/
theorem outcome_loop (a : σ) (s : Session) :
    (ExceptT.run (loop round a)).outcome s = match turn round a s with
      | (some (.ok (some b)), s') => (ExceptT.run (loop round b)).outcome s'
      | (some (.ok none), s') => (some (.ok ()), s')
      | (some (.error e), s') => (some (.error e), s')
      | (none, s') => (none, s') := by
  rw [loop_eq, outcome_run_bind, turn_eq]
  rcases (ExceptT.run (round a)).outcome s with ⟨_ | _ | _ | _, s'⟩ <;> rfl

/-- So many rounds lead from one state and session to others. -/
inductive Rounds : Nat → σ → Session → σ → Session → Prop where
  | none (a : σ) (s : Session) : Rounds 0 a s a s
  | next {n : Nat} {a b c : σ} {s s' s'' : Session}
      (h : turn round a s = (some (.ok (some b)), s')) (hrest : Rounds n b s' c s'') :
      Rounds (n + 1) a s c s''

namespace Rounds

variable {round} {n : Nat} {a b : σ} {s s' : Session}

/-- After some rounds of a loop the loop is still to be done. -/
theorem outcome_loop_eq (h : Rounds round n a s b s') :
    (ExceptT.run (loop round a)).outcome s = (ExceptT.run (loop round b)).outcome s' := by
  induction h with
  | none => rfl
  | next h _ ih =>
    rw [outcome_loop, h]
    exact ih

end Rounds

/-- A loop ends as its last round does. -/
theorem exists_last_turn (a : σ) (s : Session) :
    ∃ n b s', Rounds round n a s b s' ∧ (∀ c s'', turn round b s' ≠ (some (.ok (some c)), s'')) ∧
      (ExceptT.run (loop round a)).outcome s =
        ((turn round b s').1.map fun result => result.map fun _ => (), (turn round b s').2) := by
  induction hm : left a using Nat.strongRecOn generalizing a s with
  | ind m ih =>
    rcases h : turn round a s with ⟨_ | e | _ | b, s'⟩
    · exact ⟨0, a, s, .none a s, by simp [h], by rw [outcome_loop, h]; rfl⟩
    · exact ⟨0, a, s, .none a s, by simp [h], by rw [outcome_loop, h]; rfl⟩
    · exact ⟨0, a, s, .none a s, by simp [h], by rw [outcome_loop, h]; rfl⟩
    · have hlt := left_lt_of_turn round h
      obtain ⟨n, c, s'', hrounds, hlast, hends⟩ := ih (left b) (hm ▸ hlt) b s' rfl
      refine ⟨n + 1, c, s'', .next h hrounds, hlast, ?_⟩
      rw [outcome_loop, h]
      exact hends

/-- A loop ends if and only if each of its rounds does. -/
theorem loop_ends_iff (a : σ) (s : Session) :
    ((ExceptT.run (loop round a)).outcome s).1.isSome ↔
      ∀ n b s', Rounds round n a s b s' → (turn round b s').1.isSome := by
  constructor
  · intro h n b s' hrounds
    rw [hrounds.outcome_loop_eq, outcome_loop] at h
    rcases hturn : turn round b s' with ⟨_ | _, s''⟩
    · rw [hturn] at h
      exact h
    · rfl
  · intro h
    obtain ⟨n, b, s', hrounds, -, hends⟩ := exists_last_turn round a s
    rw [hends, Option.isSome_map]
    exact h n b s' hrounds

/-! ## What rounds keep -/

/-- What a round should come to that begins on `a`.  If it goes on, `P` holds and one thing less
is left.  If it is the last, `P` holds and nothing was left.  If it fails, `F` holds. -/
def Lands (left : σ → Nat) (P : σ → Session → Prop) (F : DialError → Session → Prop) (a : σ) :
    Option (Except DialError (Option σ)) × Session → Prop
  | (none, _) => True
  | (some (.error e), s) => F e s
  | (some (.ok none), s) => left a = 0 ∧ P a s
  | (some (.ok (some b)), s) => 1 + left b = left a ∧ P b s

variable {round} {P : σ → Session → Prop} {F : DialError → Session → Prop} {a b : σ}
  {s s' : Session}

/-- What every round keeps, any number of them keeps, and so many rounds do so many things. -/
theorem Rounds.keeps {n : Nat} (hrounds : Rounds round n a s b s')
    (h : ∀ a s, P a s → Lands left P F a (turn round a s)) (ha : P a s) :
    n + left b = left a ∧ P b s' := by
  induction hrounds with
  | none => exact ⟨Nat.zero_add _, ha⟩
  | next hturn _ ih =>
    have hlands := h _ _ ha
    rw [hturn] at hlands
    obtain ⟨hleft, hb⟩ := hlands
    obtain ⟨hrest, hc⟩ := ih hb
    exact ⟨by omega, hc⟩

/-- An attempt that loops succeeds when nothing is left, or it fails as one of its rounds. -/
theorem exists_of_run?_loop {result : Except DialError Unit}
    (h : ∀ a s, P a s → Lands left P F a (turn round a s)) (ha : P a { s with timer := .idle })
    (hrun : (run (loop round a)).run? s = some (result, s')) :
    (∃ b s₁, left b = 0 ∧ P b s₁ ∧ result = .ok () ∧ s' = s₁.cancelled) ∨
      ∃ e s₁, F e s₁ ∧ result = .error e ∧ s' = s₁.closed.cancelled := by
  rw [Op.run?_eq_some_iff, outcome_run] at hrun
  obtain ⟨n, b, s₁, hrounds, hlast, hends⟩ :=
    exists_last_turn round a ({ s with timer := .idle } : Session)
  have hlands := h b s₁ (hrounds.keeps h ha).2
  rw [hends] at hrun
  rcases hturn : turn round b s₁ with ⟨_ | e | _ | c, s₂⟩
  · rw [hturn] at hrun
    cases hrun
  · rw [hturn] at hrun hlands
    cases hrun
    exact .inr ⟨e, s₂, hlands, rfl, rfl⟩
  · rw [hturn] at hrun hlands
    cases hrun
    exact .inl ⟨b, s₂, hlands.1, hlands.2, rfl, rfl⟩
  · exact absurd hturn (hlast c s₂)

/-- An attempt that loops ends if and only if each of its rounds does. -/
theorem run_loop_ends_iff :
    ((run (loop round a)).run? s).isSome ↔
      ∀ n b s', Rounds round n a { s with timer := .idle } b s' →
        ((ExceptT.run (round b)).run? s').isSome := by
  have hturn (b : σ) (s : Session) :
      ((ExceptT.run (round b)).run? s).isSome = (turn round b s).1.isSome := by
    rw [turn_eq, Op.run?_eq_outcome, Option.isSome_map, Option.isSome_map]
  have hrun : ((run (loop round a)).run? s).isSome =
      ((ExceptT.run (loop round a)).outcome { s with timer := .idle }).1.isSome := by
    rw [Op.run?_eq_outcome, Option.isSome_map, outcome_run]
    rcases (ExceptT.run (loop round a)).outcome _ with ⟨_ | _ | _, s'⟩ <;> rfl
  simp only [hturn, hrun]
  exact loop_ends_iff ..

end ProxyDial.Attempt
