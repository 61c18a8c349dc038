import ProxyDial.Proofs.Handshake.Paths
import ProxyDial.Proofs.Session.Instants

/-!
# When a handshake ends

One timeout spans the write and the read of a handshake, and it begins when the target is
found.  The read has what the write has left of it.  So the run ends at the latest when
that time is over, and it times out only just then (`HandshakeRequest.endsBy_run`).
-/

namespace ProxyDial

/-- What a reply can say against a request. -/
theorem Reply.kind_of_verdict {bytes : List UInt8} {e : DialError}
    (h : Reply.verdict bytes = .error e) : e.kind = .protocol ∨ e.kind = .rejected := by
  rw [verdict] at h
  cases hd : decode bytes with
  | error e' =>
    rw [hd] at h
    cases h
    rw [decode.eq_def] at hd
    split at hd
    · split at hd
      · cases hd
        exact .inl rfl
      · cases hd
    · cases hd
      exact .inl rfl
  | ok reply =>
    rw [hd] at h
    dsimp only [outcome] at h
    cases hs : reply.status with
    | granted =>
      rw [hs] at h
      cases h
    | rejected why =>
      rw [hs] at h
      cases h
      exact .inr rfl

/-- No reply says that a deadline has passed. -/
theorem Reply.verdict_ne_timedOut (bytes : List UInt8) (phase : Phase) (t : Duration) :
    Reply.verdict bytes ≠ .error (.timedOut phase t) := by
  intro h
  rcases kind_of_verdict h with hkind | hkind <;> cases hkind

namespace HandshakeRequest

variable {q : HandshakeRequest} {r : Resolver} {s s' : Session} {millis : Nat}

/-- When the search for the target's address ends. -/
theorem Targets.clock_le {found : Option (Except DialError IPv4)} (ht : q.Targets r s (found, s'))
    (hd : (q.lookup r).delay = some millis) : s'.clock ≤ s.clock + millis := by
  have hlater (s : Session) : ((q.resolving s).later millis).clock = s.clock + millis :=
    Session.later_clock ..
  cases ht with
  | closed => exact Nat.le_add_right ..
  | badUserId => exact Nat.le_add_right ..
  | unanswered _ _ hd' => cases hd.symm.trans hd'
  | lookupFailed _ _ hd' =>
    cases hd.symm.trans hd'
    exact Nat.le_of_eq (hlater s)
  | noIPv4 _ _ hd' =>
    cases hd.symm.trans hd'
    rw [warned_clock]
    exact Nat.le_of_eq (hlater s)
  | found _ _ hd' =>
    cases hd.symm.trans hd'
    rw [warned_clock]
    exact Nat.le_of_eq (hlater s)

/-- A handshake that does not find its target has timed out only if the answer to the lookup
says so. -/
theorem Targets.answer_of_timedOut {phase : Phase} {t : Duration}
    (ht : q.Targets r s (some (.error (.timedOut phase t)), s')) :
    (q.lookup r).answer = .error (.timedOut phase t) := by
  cases ht with
  | badUserId _ hu =>
    rw [checkUserId] at hu
    cases hc : UserId.check q.userId with
    | ok u =>
      rw [hc] at hu
      cases hu
    | error fault =>
      rw [hc] at hu
      cases hu
  | lookupFailed _ _ _ ha => exact ha

section

variable {ip : IPv4} {s₁ s'' : Session} {c c' : Connection}

/-- The timeout begins when the target is found. -/
theorem Targets.limit_eq (ht : q.Targets r s (some (.ok ip), s'))
    (hd : (q.lookup r).delay = some millis)
    (hf : (Deadline.after (s.clock + millis) q.timeout).isSome) :
    s'.clock = s.clock + millis ∧
      q.limit s'.clock = some (s.clock + millis + 1000 * q.timeoutSecs.toNat) := by
  obtain ⟨_, hd', hclock, -⟩ := ht.passed
  cases hd.symm.trans hd'
  refine ⟨hclock, ?_⟩
  rw [hclock]
  exact Deadline.due_of_isSome hf

theorem Targets.clock_le_of_writes {written : Option (Option (Except IoError Unit))}
    (ht : q.Targets r s (some (.ok ip), s')) (hd : (q.lookup r).delay = some millis)
    (hf : (Deadline.after (s.clock + millis) q.timeout).isSome)
    (hw : q.WritesRequest ip s' c (written, s₁)) :
    s₁.clock ≤ s.clock + millis + 1000 * q.timeoutSecs.toNat := by
  obtain ⟨hclock, hlimit⟩ := ht.limit_eq hd hf
  have hle : s₁.clock ≤ max s'.clock (s.clock + millis + 1000 * q.timeoutSecs.toNat) :=
    hw.clock_le hlimit
  rw [hclock] at hle
  exact Nat.le_trans hle (Nat.max_le.2 ⟨Nat.le_add_right .., Nat.le_refl _⟩)

/-- The read has what the write has left of the time. -/
theorem Targets.clock_le_of_reads {written : Option (Option (Except IoError Unit))}
    {read : Option (Option (Except IoError (List UInt8)))}
    (ht : q.Targets r s (some (.ok ip), s')) (hd : (q.lookup r).delay = some millis)
    (hf : (Deadline.after (s.clock + millis) q.timeout).isSome)
    (hw : q.WritesRequest ip s' c (written, s₁))
    (hr : ReadsReply (q.limit s'.clock) (q.reading s₁) c' (read, s'')) :
    s''.clock ≤ s.clock + millis + 1000 * q.timeoutSecs.toNat := by
  have hle : s''.clock ≤ max s₁.clock (s.clock + millis + 1000 * q.timeoutSecs.toNat) :=
    hr.clock_le (ht.limit_eq hd hf).2
  exact Nat.le_trans hle (Nat.max_le.2 ⟨ht.clock_le_of_writes hd hf hw, Nat.le_refl _⟩)

end

variable (q r) in
theorem endsBy_run (s : Session) (hd : (q.lookup r).delay = some millis)
    (hf : (Deadline.after (s.clock + millis) q.timeout).isSome) :
    EndsBy .handshake q.timeout (q.lookup r).answer (s.clock + millis + 1000 * q.timeoutSecs.toNat)
      (q.run r) s := by
  have hl := q.leads_run r s
  rcases hrun : (q.run r).outcome s with ⟨result, s₁⟩
  rw [hrun] at hl
  have hrun := fun result h => (Op.run?_eq_some_iff (q.run r) s s₁ result).2 (hrun.trans h)
  cases hl with
  | unanswered ht =>
    cases ht with
    | unanswered _ _ hd' => cases hd.symm.trans hd'
  | noTarget ht =>
    refine ⟨_, _, hrun _ rfl, ?_, ?_⟩
    · have hle := ht.clock_le hd
      simp only [Session.cancelled_clock, Session.closed_clock]
      exact Nat.le_trans hle (Nat.le_add_right ..)
    · rintro t ⟨⟩
      exact .inl ht.answer_of_timedOut
  | unwritten ht hs hw =>
    have hn := hw.limit_eq_none
    rw [(ht.limit_eq hd hf).2] at hn
    cases hn
  | writeLate ht hs hw =>
    obtain ⟨l, hl, hclock⟩ := hw.clock_eq_limit
    rw [(ht.limit_eq hd hf).2] at hl
    cases hl
    have hge : (q.writing _).clock ≤ s.clock + millis + 1000 * q.timeoutSecs.toNat :=
      Nat.le_trans (Nat.le_of_eq (ht.limit_eq hd hf).1) (Nat.le_add_right ..)
    have hend := hclock.trans (Nat.max_eq_right hge)
    refine ⟨_, _, hrun _ rfl, ?_, ?_⟩
    · simp [hend]
    · rintro t ⟨⟩
      exact .inr ⟨rfl, by simp [hend]⟩
  | writeFailed ht hs hw =>
    refine ⟨_, _, hrun _ rfl, by simpa using ht.clock_le_of_writes hd hf hw, ?_⟩
    rintro t ⟨⟩
  | unreplied ht hs hw hs₁ hr =>
    have hn := hr.limit_eq_none
    rw [(ht.limit_eq hd hf).2] at hn
    cases hn
  | late ht hs hw hs₁ hr =>
    obtain ⟨l, hl, hclock⟩ := hr.clock_eq_limit
    rw [(ht.limit_eq hd hf).2] at hl
    cases hl
    have hle := ht.clock_le_of_writes hd hf hw
    have hend := hclock.trans (Nat.max_eq_right hle)
    refine ⟨_, _, hrun _ rfl, ?_, ?_⟩
    · simp [hend]
    · rintro t ⟨⟩
      exact .inr ⟨rfl, by simp [hend]⟩
  | readFailed ht hs hw hs₁ hr =>
    refine ⟨_, _, hrun _ rfl, by simpa using ht.clock_le_of_reads hd hf hw hr, ?_⟩
    rintro t ⟨⟩
  | denied ht hs hw hs₁ hr hv =>
    refine ⟨_, _, hrun _ rfl, by simpa using ht.clock_le_of_reads hd hf hw hr, ?_⟩
    rintro t ⟨⟩
    exact absurd hv (Reply.verdict_ne_timedOut _ _ _)
  | granted ht hs hw hs₁ hr hv =>
    have hle := ht.clock_le_of_reads hd hf hw hr
    refine ⟨_, _, hrun _ rfl, by simpa [HandshakeRequest.granted] using hle, ?_⟩
    rintro t ⟨⟩

end HandshakeRequest

end ProxyDial
