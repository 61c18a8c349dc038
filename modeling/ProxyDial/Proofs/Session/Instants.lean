import ProxyDial.Proofs.Session.Socket

/-!
# When operations end

An operation that is given up ends just at its limit, or at once if that has passed.  One
that is not given up ends before.  Only without a limit can it go on for ever.
-/

namespace ProxyDial

namespace Op

variable {α : Type} {limit : Option Nat} {s s' : Session}

/-! ## Lookups -/

/-- An answer that was found was there all the time. -/
theorem Answers.eq_later {α : Type} {a b : α} {after limit : Option Nat} {s s' : Session}
    (ha : Answers a s after limit (some (some b), s')) :
    b = a ∧ ∃ millis, after = some millis ∧ s' = s.later millis := by
  cases ha with
  | @inTime millis _ h => exact ⟨rfl, millis, rfl, rfl⟩

theorem Answers.clock_eq_limit {α : Type} {a : α} {after limit : Option Nat} {s s' : Session}
    (ha : Answers a s after limit (some none, s')) :
    ∃ l, limit = some l ∧ s'.clock = max s.clock l := by
  cases ha with
  | @late _ l h =>
    refine ⟨l, rfl, ?_⟩
    rw [Session.later_clock]
    omega

/-- An answer that comes before the limit is found. -/
theorem Answers.eq_inTime {α : Type} {a : α} {millis : Nat} {limit : Option Nat} {s s' : Session}
    {found : Option (Option α)} (ha : Answers a s (some millis) limit (found, s'))
    (hl : ∀ l ∈ limit, s.clock + millis ≤ l) : found = some (some a) ∧ s' = s.later millis := by
  cases ha with
  | inTime h => exact ⟨rfl, rfl⟩
  | @late _ l h => exact absurd (h millis rfl) (Nat.not_lt_of_ge (hl l rfl))

/-! ## Walks -/

/-- A walk is given up at its limit. -/
theorem Connects.clock_eq_limit {last : IoError} {endpoints : List Endpoint}
    (hc : Connects limit last endpoints s (some none, s')) : limit = some s'.clock := by
  generalize ho : (some (none : Option (Except IoError Endpoint)), s') = end' at hc
  induction hc with
  | refused _ _ ih => exact ih ho
  | late ha =>
    cases ho
    exact ha.clock_eq_limit
  | _ => cases ho

/-- A walk does not go on past its limit. -/
theorem Connects.clock_le {last : IoError} {endpoints : List Endpoint}
    {walked : Option (Option (Except IoError Endpoint))}
    (hc : Connects limit last endpoints s (walked, s')) {l : Nat} (hl : limit = some l)
    (hle : s.clock ≤ l) : s'.clock ≤ l := by
  subst hl
  have hlimit {s : Session} (hle : s.clock ≤ l) : ∀ l' ∈ some l, s.clock ≤ l' := by
    rintro _ ⟨⟩
    exact hle
  generalize ho : (walked, s') = end' at hc
  induction hc with
  | exhausted =>
    cases ho
    exact hle
  | refused ha _ ih => exact ih (ha.le_limit (hlimit hle) l rfl) ho
  | accepted ha =>
    cases ho
    exact ha.le_limit (hlimit hle) l rfl
  | late ha =>
    cases ho
    exact Nat.le_of_eq (Option.some.inj ha.clock_eq_limit).symm
  | never ha => cases ha.limit_eq_none

/-- Only a walk without a limit can go on for ever. -/
theorem Connects.limit_eq_none {last : IoError} {endpoints : List Endpoint}
    (hc : Connects limit last endpoints s (none, s')) : limit = none := by
  generalize ho : ((none : Option (Option (Except IoError Endpoint))), s') = end' at hc
  induction hc with
  | refused _ _ ih => exact ih ho
  | never ha =>
    cases ho
    exact ha.limit_eq_none
  | _ => cases ho

/-! ## Reads -/

variable {isReady : Connection → Bool} {c : Connection}
  {take : Connection → Except IoError α × Connection}

/-- A read is given up at its limit, or at once if the limit has passed. -/
theorem Reads.clock_eq_limit (hr : Reads isReady take limit s c (some none, s')) :
    ∃ l, limit = some l ∧ s'.clock = max s.clock l := by
  cases hr with
  | late ha =>
    cases ha with
    | @late l _ hl hn => exact ⟨l, hl, (Nat.max_eq_right (Nat.le_of_lt hn)).symm⟩
    | @tooLate l _ hl hn => exact ⟨l, hl, (Nat.max_eq_left hn).symm⟩

/-- A read does not go on past its limit. -/
theorem Reads.clock_le {read : Option (Option (Except IoError α))}
    (hr : Reads isReady take limit s c (read, s')) {l : Nat} (hl : limit = some l) :
    s'.clock ≤ max s.clock l := by
  subst hl
  cases hr with
  | late ha =>
    have hlate : Reads isReady take (some l) s c (some none, s') := .late ha
    obtain ⟨_, hl, hclock⟩ := hlate.clock_eq_limit
    cases hl
    exact Nat.le_of_eq hclock
  | @found s₁ c₁ ha _ _ =>
    cases ha with
    | atOnce => exact Nat.le_max_left ..
    | inTime _ _ ht => exact Nat.le_trans (ht l rfl).2 (Nat.le_max_right ..)
  | never ha =>
    cases ha with
    | never _ hl => cases hl

theorem Reads.clock_ge {o : Option (Option (Except IoError α)) × Session}
    (hr : Reads isReady take limit s c o) : s.clock ≤ o.2.clock := by
  have hawaits {waited : Option (Option Unit)} {s' : Session}
      (ha : Awaits isReady limit s c (waited, s')) : s.clock ≤ s'.clock := by
    cases ha with
    | atOnce => exact Nat.le_refl _
    | inTime _ ht => exact Connection.le_of_readyAt? ht
    | late _ _ hn => exact Nat.le_of_lt hn
    | tooLate => exact Nat.le_refl _
    | never => exact c.le_lastInstant s.clock (.head _)
  cases hr with
  | found ha =>
    have hge := hawaits ha
    exact hge
  | late ha => exact hawaits ha
  | never ha => exact hawaits ha

theorem Reads.limit_eq_none (hr : Reads isReady take limit s c (none, s')) : limit = none := by
  cases hr with
  | never ha =>
    cases ha with
    | never _ hl => exact hl

/-! ## Writes -/

variable {bytes : List UInt8}

theorem Writes.clock_ge {o : Option (Option (Except IoError Unit)) × Session}
    (hw : Writes limit bytes s c o) : s.clock ≤ o.2.clock :=
  hw.related (R := fun s s' => s.clock ≤ s'.clock) (fun _ => Nat.le_refl _)
    (fun _ _ _ => Nat.le_trans) fun _ _ _ _ hr => hr.clock_ge

/-- A write does not go on past its limit, however often it is tried. -/
theorem Writes.clock_le {o : Option (Option (Except IoError Unit)) × Session}
    (hw : Writes limit bytes s c o) {l : Nat} (hl : limit = some l) :
    o.2.clock ≤ max s.clock l := by
  refine hw.related (R := fun s s' => s'.clock ≤ max s.clock l) (fun _ => Nat.le_max_left ..) ?_
    fun _ _ _ _ hr => hr.clock_le hl
  intro s s' s'' h h'
  omega

/-- A write is given up at its limit, or at once if the limit has passed. -/
theorem Writes.clock_eq_limit (hw : Writes limit bytes s c (some none, s')) :
    ∃ l, limit = some l ∧ s'.clock = max s.clock l := by
  generalize ho : (some (none : Option (Except IoError Unit)), s') = o at hw
  induction hw with
  | more _ hr _ _ ih =>
    obtain ⟨l, hl, hclock⟩ := ih ho
    have hge := hr.clock_ge
    have hle := hr.clock_le hl
    exact ⟨l, hl, by dsimp only at hge; omega⟩
  | late _ hr =>
    cases ho
    exact hr.clock_eq_limit
  | _ => cases ho

theorem Writes.limit_eq_none (hw : Writes limit bytes s c (none, s')) : limit = none := by
  generalize ho : ((none : Option (Option (Except IoError Unit))), s') = o at hw
  induction hw with
  | more _ _ _ _ ih => exact ih ho
  | never _ hr =>
    cases ho
    exact hr.limit_eq_none
  | _ => cases ho

end Op

/-! ## Runs -/

/-- A run ends at the instant `due` at the latest.  If it ends with a timeout of the phase
it ends just then, unless the lookup was answered with that very error. -/
def EndsBy (phase : Phase) (timeout : Duration) (answer : Answer) (due : Nat)
    (op : Op (Except DialError Unit)) (s : Session) : Prop :=
  ∃ result s', op.run? s = some (result, s') ∧ s'.clock ≤ due ∧
    ∀ t, result = .error (.timedOut phase t) →
      answer = .error (.timedOut phase t) ∨ t = timeout ∧ s'.clock = due

/-- Two runs that come to the same at instants that are `more` apart. -/
def Shifted (more : Nat) (o o' : Option (Except DialError Unit) × Session) : Prop :=
  ∃ result s s', o = (some result, s) ∧ o' = (some result, s') ∧
    s'.stream.map Connection.peer = s.stream.map Connection.peer ∧ s'.clock = s.clock + more

end ProxyDial
