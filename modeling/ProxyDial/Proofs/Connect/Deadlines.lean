import ProxyDial.Proofs.Connect.Verdict
import ProxyDial.Proofs.Session.Instants

/-!
# When a timed connect ends

The timeout of a timed connect begins with the answer to its lookup.  So the run ends at
the latest when that time is over, and it times out only just then
(`ConnectRequest.endsBy_run`).  A later answer moves the end of the run and changes nothing
else (`ConnectRequest.shifted_run`).
-/

namespace ProxyDial

namespace ConnectRequest

variable {q : ConnectRequest} {r : Resolver} {s s' : Session} {millis : Nat}

/-- An answer that is not overdue is found. -/
theorem Finds.eq_answered {found : Option (Except DialError (List Endpoint))}
    (hf : q.Finds r s (found, s')) (hd : (q.lookup r).delay = some millis)
    (ho : q.overdue r s.clock = false) : found ≠ none ∧ s' = s.later millis := by
  have hl : ∀ l ∈ q.resolveLimit s.clock, s.clock + millis ≤ l := by
    intro l hl
    rw [resolveLimit_eq] at hl
    obtain ⟨secs, hsecs, rfl⟩ := Option.map_eq_some_iff.1 hl
    rw [overdue, hsecs, hd] at ho
    exact Nat.add_le_add_left (Nat.le_of_not_gt (of_decide_eq_false ho)) s.clock
  cases hf with
  | never ha =>
    rw [hd] at ha
    cases (ha.eq_inTime hl).1
  | late _ ha =>
    rw [hd] at ha
    cases (ha.eq_inTime hl).1
  | failed ha =>
    rw [hd] at ha
    exact ⟨Option.some_ne_none _, (ha.eq_inTime hl).2⟩
  | noCandidate ha =>
    rw [hd] at ha
    exact ⟨Option.some_ne_none _, (ha.eq_inTime hl).2⟩
  | found ha =>
    rw [hd] at ha
    exact ⟨Option.some_ne_none _, (ha.eq_inTime hl).2⟩

/-- A lookup is given up at the end of its timeout. -/
theorem exists_secs_of_late {timeout : Duration} (ht : q.resolveTimeout = some timeout)
    (ha : Op.Answers (q.lookup r).answer s (q.lookup r).delay (q.resolveLimit s.clock)
      (some none, s')) :
    ∃ secs ∈ q.resolveTimeoutSecs, timeout = .ofSecs secs ∧
      s'.clock = s.clock + patience s.clock secs := by
  obtain ⟨secs, hsecs, rfl⟩ := Option.map_eq_some_iff.1 ht
  obtain ⟨l, hl, hclock⟩ := ha.clock_eq_limit
  rw [resolveLimit_eq, hsecs, Option.map_some] at hl
  cases hl
  exact ⟨secs, hsecs, rfl, hclock.trans (Nat.max_eq_right (Nat.le_add_right ..))⟩

/-- Why a lookup leaves no candidates. -/
theorem Finds.error_eq {e : DialError} (hf : q.Finds r s (some (.error e), s')) :
    (q.lookup r).answer = .error e ∨ e = q.noCandidates ∨
      ∃ secs ∈ q.resolveTimeoutSecs, e = .timedOut .resolve (.ofSecs secs) ∧
        s'.clock = s.clock + patience s.clock secs := by
  cases hf with
  | late ht ha =>
    obtain ⟨secs, hsecs, rfl, hclock⟩ := exists_secs_of_late ht ha
    exact .inr (.inr ⟨secs, hsecs, rfl, hclock⟩)
  | failed ha => exact .inl ha.eq_later.1.symm
  | noCandidate => exact .inr (.inl rfl)

/-- An answer that is overdue is not found. -/
theorem late_of_overdue {found : Option (Option Answer)}
    (ha : Op.Answers (q.lookup r).answer s (q.lookup r).delay (q.resolveLimit s.clock)
      (found, s')) (ho : q.overdue r s.clock = true) : found = some none := by
  rw [resolveLimit_eq] at ha
  rw [overdue] at ho
  generalize (q.lookup r).delay = delay at ha ho
  cases hsecs : q.resolveTimeoutSecs with
  | none =>
    rw [hsecs] at ho
    cases ho
  | some secs =>
    rw [hsecs] at ha ho
    cases ha with
    | inTime h =>
      have hle : s.clock + _ ≤ s.clock + patience s.clock secs := h _ rfl
      exact absurd (of_decide_eq_true ho) (Nat.not_lt_of_ge (Nat.le_of_add_le_add_left hle))
    | late => rfl

theorem Finds.eq_overdue {found : Option (Except DialError (List Endpoint))}
    (hf : q.Finds r s (found, s')) (ho : q.overdue r s.clock = true) :
    ∃ secs ∈ q.resolveTimeoutSecs, found = some (.error (.timedOut .resolve (.ofSecs secs))) ∧
      s'.clock = s.clock + patience s.clock secs := by
  cases hf with
  | never ha => cases late_of_overdue ha ho
  | late ht ha =>
    obtain ⟨secs, hsecs, rfl, hclock⟩ := exists_secs_of_late ht ha
    exact ⟨secs, hsecs, rfl, hclock⟩
  | failed ha => cases late_of_overdue ha ho
  | noCandidate ha => cases late_of_overdue ha ho
  | found ha => cases late_of_overdue ha ho

theorem kind_noCandidates (q : ConnectRequest) :
    q.noCandidates.kind = .hostNotFound ∨ q.noCandidates.kind = .noMatchingFamily := by
  rw [noCandidates]
  cases q.family with
  | any => exact .inl rfl
  | v4Only => exact .inr rfl
  | v6Only => exact .inr rfl

theorem noCandidates_ne_timedOut (q : ConnectRequest) (phase : Phase) (t : Duration) :
    q.noCandidates ≠ .timedOut phase t := by
  intro h
  have hkind := q.kind_noCandidates
  rw [h] at hkind
  rcases hkind with hkind | hkind <;> cases hkind

variable (q r) in
theorem endsBy_run (s : Session) (hd : (q.lookup r).delay = some millis)
    (ho : q.overdue r s.clock = false)
    (hf : (Deadline.after (s.clock + millis) q.timeout).isSome) :
    EndsBy .connect q.timeout (q.lookup r).answer (s.clock + millis + 1000 * q.timeoutSecs.toNat)
      (q.run r) s := by
  have hanswered {found : Option (Except DialError (List Endpoint))} {s' : Session}
      (hfinds : q.Finds r (q.resolving s) (found, s')) :
      found ≠ none ∧ s'.clock = s.clock + millis := by
    obtain ⟨hne, rfl⟩ := hfinds.eq_answered hd ho
    exact ⟨hne, Session.later_clock ..⟩
  have hlimit {s' : Session} (hclock : s'.clock = s.clock + millis) :
      q.connectLimit s'.clock = some (s.clock + millis + 1000 * q.timeoutSecs.toNat) := by
    rw [hclock]
    exact Deadline.due_of_isSome hf
  have hwalk {s' s'' : Session} {candidates : List Endpoint}
      {walked : Option (Option (Except IoError Endpoint))}
      (hfinds : q.Finds r (q.resolving s) (some (.ok candidates), s'))
      (hc : Op.Connects (q.connectLimit s'.clock) .noEndpoints candidates
        (q.connecting candidates s') (walked, s'')) :
      s''.clock ≤ s.clock + millis + 1000 * q.timeoutSecs.toNat := by
    have hclock := (hanswered hfinds).2
    refine hc.clock_le (hlimit hclock) ?_
    rw [connecting_clock, hclock]
    exact Nat.le_add_right ..
  have hl := q.leads_run r s
  rcases hrun : (q.run r).outcome s with ⟨result, s₁⟩
  rw [hrun] at hl
  cases hl with
  | unanswered hfinds => exact absurd rfl (hanswered hfinds).1
  | @noCandidates s' e hfinds =>
    obtain ⟨-, hclock⟩ := hanswered hfinds
    refine ⟨.error e, _, (Op.run?_eq_some_iff ..).2 hrun, ?_, ?_⟩
    · simp [hclock]
    · rintro t ⟨⟩
      rcases hfinds.error_eq with ha | hn | ⟨_, -, he, -⟩
      · exact .inl ha
      · exact absurd hn.symm (q.noCandidates_ne_timedOut _ _)
      · cases he
  | failed hfinds hc =>
    refine ⟨_, _, (Op.run?_eq_some_iff ..).2 hrun, by simpa using hwalk hfinds hc, ?_⟩
    rintro t ⟨⟩
  | late hfinds hc =>
    have hend := hc.clock_eq_limit
    rw [hlimit (hanswered hfinds).2] at hend
    refine ⟨_, _, (Op.run?_eq_some_iff ..).2 hrun, by simpa using hwalk hfinds hc, ?_⟩
    rintro t ⟨⟩
    exact .inr ⟨rfl, by simpa using (Option.some.inj hend).symm⟩
  | never hfinds hc =>
    have hn := hc.limit_eq_none
    rw [hlimit (hanswered hfinds).2] at hn
    cases hn
  | connected hfinds hc =>
    refine ⟨_, _, (Op.run?_eq_some_iff ..).2 hrun, ?_, ?_⟩
    · simpa [ConnectRequest.connected] using hwalk hfinds hc
    · rintro t ⟨⟩

/-- A timed connect gives an overdue lookup up just at the end of its timeout. -/
theorem run?_of_overdue (ho : q.overdue r s.clock = true) :
    ∃ secs ∈ q.resolveTimeoutSecs, ∃ s',
      (q.run r).run? s = some (.error (.timedOut .resolve (.ofSecs secs)), s') ∧
        s'.clock = s.clock + patience s.clock secs := by
  have hf := q.finds_candidates r (q.resolving s)
  have hrun := q.outcome_run r s
  generalize (ExceptT.run (q.candidates r)).outcome (q.resolving s) = o at hf hrun
  obtain ⟨found, s'⟩ := o
  obtain ⟨secs, hsecs, rfl, hclock⟩ := hf.eq_overdue ho
  refine ⟨secs, hsecs, _, (Op.run?_eq_some_iff ..).2 hrun, ?_⟩
  rw [Session.cancelled_clock, Session.closed_clock]
  exact hclock

/-- A lookup times out just at the end of its timeout. -/
theorem resolve_timedOut {t : Duration}
    (hrun : (q.run r).run? s = some (.error (.timedOut .resolve t), s')) :
    (q.lookup r).answer = .error (.timedOut .resolve t) ∨
      ∃ secs ∈ q.resolveTimeoutSecs, t = .ofSecs secs ∧
        s'.clock = s.clock + patience s.clock secs := by
  have hl := q.leads_run r s
  rw [(Op.run?_eq_some_iff ..).1 hrun] at hl
  cases hl with
  | noCandidates hfinds =>
    rcases hfinds.error_eq with ha | hn | ⟨secs, hsecs, ht, hclock⟩
    · exact .inl ha
    · exact absurd hn.symm (q.noCandidates_ne_timedOut _ _)
    · cases ht
      refine .inr ⟨secs, hsecs, rfl, ?_⟩
      rw [Session.cancelled_clock, Session.closed_clock]
      exact hclock

/-! ### Delays -/

/-- What a walk comes to whose timeout is in the clock's range, and when. -/
theorem walk_eq_walked (h : 1 ≤ q.timeoutSecs) (candidates : List Endpoint) (s : Session)
    (hf : (Deadline.after s.clock q.timeout).isSome) :
    (q.walk candidates s).1 =
        s.net.walked (some (1000 * q.timeoutSecs.toNat)) .noEndpoints candidates ∧
      (∀ e, (q.walk candidates s).1 = some (some (.ok e)) →
        (q.walk candidates s).2.stream.map Connection.peer = some e) ∧
      (q.walk candidates s).2.clock = s.clock + match (q.walk candidates s).1 with
        | some (some _) => s.net.elapsed candidates
        | _ => 1000 * q.timeoutSecs.toNat := by
  have hlimit : q.connectLimit s.clock = some (s.clock + 1000 * q.timeoutSecs.toNat) :=
    Deadline.due_of_isSome hf
  have hsecs : 1 ≤ q.timeoutSecs.toNat := h
  have hpos : ∀ millis ∈ some (1000 * q.timeoutSecs.toNat), 0 < millis := by
    rintro millis ⟨⟩
    omega
  have hsame := q.same_connecting candidates s
  have hc := q.connects_walk candidates s
  rw [hlimit] at hc
  obtain ⟨hwalked, hpeer⟩ := hc.eq_walked (by rw [connecting_clock]; rfl) hpos
  rw [hsame.walked] at hwalked
  refine ⟨hwalked, hpeer, ?_⟩
  generalize q.walk candidates s = o at hc
  rcases o with ⟨_ | _ | result, s'⟩
  · cases hc.limit_eq_none
  · exact (Option.some.inj hc.clock_eq_limit).symm
  · have hclock := hc.clock_eq
    rwa [connecting_clock, hsame.elapsed] at hclock

/-- A walk that begins later ends later and comes to the same. -/
theorem shifted_concluded {candidates : List Endpoint} {s₁ s₂ : Session} {more : Nat}
    (h : 1 ≤ q.timeoutSecs) (hclock : s₂.clock = s₁.clock + more) (hnet : s₁.net.Same s₂.net)
    (hf₁ : (Deadline.after s₁.clock q.timeout).isSome)
    (hf₂ : (Deadline.after s₂.clock q.timeout).isSome) :
    Shifted more (q.concluded (q.walk candidates s₁)) (q.concluded (q.walk candidates s₂)) := by
  obtain ⟨hw₁, hp₁, ht₁⟩ := walk_eq_walked h candidates s₁ hf₁
  obtain ⟨hw₂, hp₂, ht₂⟩ := walk_eq_walked h candidates s₂ hf₂
  have hsame : (q.walk candidates s₂).1 = (q.walk candidates s₁).1 :=
    hw₂.trans ((hnet.walked ..).trans hw₁.symm)
  rw [hsame, hnet.elapsed, hclock, Nat.add_right_comm] at ht₂
  rw [← ht₁] at ht₂
  have hc₁ := q.connects_walk candidates s₁
  generalize q.walk candidates s₁ = o₁ at *
  generalize q.walk candidates s₂ = o₂ at *
  obtain ⟨walked, s₁'⟩ := o₁
  obtain ⟨_, s₂'⟩ := o₂
  cases hsame
  rcases walked with _ | _ | why | e
  · have hl := hc₁.limit_eq_none
    rw [connectLimit, timeout, Deadline.due_of_isSome hf₁] at hl
    cases hl
  · exact ⟨_, _, _, rfl, rfl, by simp, by simpa using ht₂⟩
  · exact ⟨_, _, _, rfl, rfl, by simp, by simpa using ht₂⟩
  · refine ⟨_, _, _, rfl, rfl, ?_, by simpa [ConnectRequest.connected] using ht₂⟩
    simpa [ConnectRequest.connected] using (hp₂ e rfl).trans (hp₁ e rfl).symm

/-- A lookup that is not overdue comes to its answer. -/
theorem lookedUp?_of_not_overdue {now : Nat} (hd : (q.lookup r).delay = some millis)
    (ho : q.overdue r now = false) : q.lookedUp? r now = some (q.lookup r).answer := by
  rw [lookedUp?, ho, hd]
  rfl

/-- A lookup that is answered sooner is overdue no sooner. -/
theorem overdue_of_delayed {r' : Resolver} {more now : Nat} (hd : (q.lookup r).delay = some millis)
    (hd' : (q.lookup r').delay = some (millis + more)) (ho : q.overdue r' now = false) :
    q.overdue r now = false := by
  rw [overdue, hd'] at ho
  rw [overdue, hd]
  cases hsecs : q.resolveTimeoutSecs with
  | none => rfl
  | some secs =>
    rw [hsecs] at ho
    have hle : millis + more ≤ patience now secs := Nat.le_of_not_gt (of_decide_eq_false ho)
    exact decide_eq_false (by omega)

/-- The candidates that are found in time. -/
theorem candidates_outcome (s : Session) (hd : (q.lookup r).delay = some millis)
    (ho : q.overdue r s.clock = false) :
    (ExceptT.run (q.candidates r)).outcome (q.resolving s) =
      (q.candidates? r s.clock, (q.resolving s).later millis) := by
  have hf := q.finds_candidates r (q.resolving s)
  generalize (ExceptT.run (q.candidates r)).outcome (q.resolving s) = o at hf ⊢
  obtain ⟨found, s'⟩ := o
  rw [hf.eq_candidates?, (hf.eq_answered hd ho).2]
  rfl

/-- A later answer moves the end of a timed connect and changes nothing else. -/
theorem shifted_run {r' : Resolver} {more : Nat} (h : 1 ≤ q.timeoutSecs) (s : Session)
    (hd : (q.lookup r).delay = some millis)
    (hr : q.lookup r' = { q.lookup r with delay := some (millis + more) })
    (ho : q.overdue r' s.clock = false)
    (hf : (Deadline.after (s.clock + (millis + more)) q.timeout).isSome) :
    Shifted more ((q.run r).outcome s) ((q.run r').outcome s) := by
  have hd' : (q.lookup r').delay = some (millis + more) := by rw [hr]
  have ho₁ := overdue_of_delayed hd hd' ho
  have hsame (millis : Nat) : s.net.Same ((q.resolving s).later millis).net :=
    (q.resolving s).same_later millis
  have hcandidates : q.candidates? r' s.clock = q.candidates? r s.clock := by
    rw [candidates?, candidates?, lookedUp?_of_not_overdue hd ho₁,
      lookedUp?_of_not_overdue hd' ho, hr]
  have hclock (millis : Nat) : ((q.resolving s).later millis).clock = s.clock + millis :=
    Session.later_clock ..
  rw [outcome_run, outcome_run, candidates_outcome s hd ho₁, candidates_outcome s hd' ho,
    hcandidates]
  rcases hfound : q.candidates? r s.clock with _ | e | candidates
  · have hlost := q.finds_candidates r (q.resolving s)
    rw [candidates_outcome s hd ho₁, hfound] at hlost
    exact absurd rfl (hlost.eq_answered hd ho₁).1
  · refine ⟨.error e, _, _, rfl, rfl, by simp, ?_⟩
    simp only [Session.cancelled_clock, Session.closed_clock, hclock]
    omega
  · refine q.shifted_concluded h ?_ ((hsame _).symm.trans (hsame _)) ?_ ?_
    · rw [hclock, hclock, Nat.add_assoc]
    · rw [hclock]
      exact Deadline.isSome_of_le (Nat.add_le_add_left (Nat.le_add_right ..) _) (Nat.le_refl _) hf
    · rw [hclock]
      exact hf

end ConnectRequest

end ProxyDial
