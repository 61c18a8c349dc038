import ProxyDial.Proofs.Connect.Deadlines
import ProxyDial.Proofs.Handshake.Deadlines

/-!
# Deadlines

Deadlines are kept from both sides: no run goes on past its deadline, and none times out
before.  The time of a lookup counts for no deadline but its own.
-/

namespace ProxyDial

/-- A timed connect whose lookup is answered ends within its timeout from the answer on, for all
its candidates together, and so does a handshake, for its write and its read together.  Either
times out only at the end of that time, and a lookup at the end of its own.  A later answer to
the lookup of a timed connect moves its end by as much and changes nothing else. -/
theorem deadlines_kept (r : Resolver) (s : Session) :
    (∀ (q : ConnectRequest) (millis : Nat), (q.lookup r).delay = some millis →
      q.overdue r s.clock = false → (Deadline.after (s.clock + millis) q.timeout).isSome →
        EndsBy .connect q.timeout (q.lookup r).answer
          (s.clock + millis + 1000 * q.timeoutSecs.toNat) (q.run r) s) ∧
    (∀ (q : HandshakeRequest) (millis : Nat), (q.lookup r).delay = some millis →
      (Deadline.after (s.clock + millis) q.timeout).isSome →
        EndsBy .handshake q.timeout (q.lookup r).answer
          (s.clock + millis + 1000 * q.timeoutSecs.toNat) (q.run r) s) ∧
    (∀ q : ConnectRequest, q.overdue r s.clock = true →
      (∀ secs ∈ q.resolveTimeoutSecs, (Deadline.after s.clock (.ofSecs secs)).isSome) →
      ∃ secs ∈ q.resolveTimeoutSecs, ∃ s',
        (q.run r).run? s = some (.error (.timedOut .resolve (.ofSecs secs)), s') ∧
          s'.clock = s.clock + 1000 * secs.toNat) ∧
    (∀ (q : ConnectRequest) (t : Duration) (s' : Session),
      (∀ secs ∈ q.resolveTimeoutSecs, (Deadline.after s.clock (.ofSecs secs)).isSome) →
      (q.run r).run? s = some (.error (.timedOut .resolve t), s') →
        (q.lookup r).answer = .error (.timedOut .resolve t) ∨
        ∃ secs ∈ q.resolveTimeoutSecs, t = .ofSecs secs ∧
          s'.clock = s.clock + 1000 * secs.toNat) ∧
    (∀ (q : ConnectRequest) (r' : Resolver) (millis more : Nat), 1 ≤ q.timeoutSecs →
      (q.lookup r).delay = some millis →
      q.lookup r' = { q.lookup r with delay := some (millis + more) } →
      q.overdue r' s.clock = false →
      (Deadline.after (s.clock + (millis + more)) q.timeout).isSome →
        Shifted more ((q.run r).outcome s) ((q.run r').outcome s)) := by
  refine ⟨?_, ?_, ?_, ?_, ?_⟩
  · intro q millis hd ho hf
    exact q.endsBy_run r s hd ho hf
  · intro q millis hd hf
    exact q.endsBy_run r s hd hf
  · intro q ho hf
    obtain ⟨secs, hsecs, s', hrun, hclock⟩ := ConnectRequest.run?_of_overdue ho
    rw [Deadline.patience_of_isSome (hf secs hsecs)] at hclock
    exact ⟨secs, hsecs, s', hrun, hclock⟩
  · intro q t s' hf hrun
    rcases ConnectRequest.resolve_timedOut hrun with ha | ⟨secs, hsecs, ht, hclock⟩
    · exact .inl ha
    · rw [Deadline.patience_of_isSome (hf secs hsecs)] at hclock
      exact .inr ⟨secs, hsecs, ht, hclock⟩
  · intro q r' millis more h hd hr ho hf
    exact ConnectRequest.shifted_run h s hd hr ho hf

/-- The lookup takes three milliseconds, or seven, or too long.  The first candidate refuses
after six hundred milliseconds, and the second would accept after as many.  On a connection that
takes four bytes the server reads the rest of a request after six hundred milliseconds, and would
reply after as many.  Each of these takes less than the timeout, but both together take longer. -/
theorem deadlines_kept_slow :
    let slow : Endpoint := .v4 ⟨10, 0, 0, 1⟩ 1080
    let gate : Endpoint := .v4 ⟨10, 0, 0, 2⟩ 1080
    let script := [.wait 600] ++ Action.request ++
      [.wait 600, .write [0, 90, 0, 0, 0, 0, 0, 7]]
    let q : ConnectRequest :=
      { host := "proxy", port := 1080, timeoutSecs := 1, resolveTimeoutSecs := some 1 }
    let ask : HandshakeRequest :=
      { host := "target", port := 80, timeoutSecs := 1, userId := [117] }
    let r := (Resolver.fixed [slow, gate]).delayed (some 3)
    let s := Session.start { servers := [
      { address := slow, behaviour := .fails .refused, latency := 600 },
      { address := gate, behaviour := .accepts [], latency := 600 }] }
    let c : Connection := { peer := gate, ordinal := 0, script, since := 0, capacity := some 4 }
    let t : Session := { s with stream := some c }
    ((q.lookup r).delay = some 3 ∧ q.overdue r s.clock = false ∧
      (Deadline.after (s.clock + 3) q.timeout).isSome ∧
      EndsBy .connect (.ofSecs 1) (.ok [slow, gate]) 1003 (q.run r) s ∧
      ((q.run r).outcome s).1 = some (.error q.timedOut)) ∧
    (EndsBy .handshake (.ofSecs 1) (.ok [slow, gate]) 1003 (ask.run r) t ∧
      ((ask.run r).outcome t).1 = some (.error ask.timedOut)) ∧
    (q.overdue (r.delayed (some 2000)) s.clock = true ∧ ∃ secs ∈ q.resolveTimeoutSecs, ∃ s',
      (q.run (r.delayed (some 2000))).run? s =
          some (.error (.timedOut .resolve (.ofSecs secs)), s') ∧
        s'.clock = 1000 * secs.toNat ∧ ∃ secs' ∈ q.resolveTimeoutSecs,
          Duration.ofSecs secs = .ofSecs secs' ∧ s'.clock = 1000 * secs'.toNat) ∧
    Shifted 4 ((q.run r).outcome s) ((q.run (r.delayed (some 7))).outcome s) := by
  intro slow gate script q ask r s c t
  have hlate : q.overdue (r.delayed (some 2000)) s.clock = true := by decide
  have hfits : (Deadline.after 3 (.ofSecs 1)).isSome := rfl
  have hfits' : (Deadline.after 7 (.ofSecs 1)).isSome := rfl
  have hresolve : ∀ secs ∈ q.resolveTimeoutSecs,
      (Deadline.after s.clock (.ofSecs secs)).isSome := by
    rintro secs ⟨⟩
    decide
  obtain ⟨hconnect, -, -, -, hshift⟩ := deadlines_kept r s
  obtain ⟨-, -, hoverdue, htimedOut, -⟩ := deadlines_kept (r.delayed (some 2000)) s
  refine ⟨⟨rfl, by decide, hfits, ?_, ?_⟩, ⟨?_, ?_⟩, ⟨hlate, ?_⟩, ?_⟩
  · exact hconnect q 3 rfl (by decide) hfits
  · dsimp only [q, r, s, slow, gate]
    rfl
  · exact (deadlines_kept r t).2.1 ask 3 rfl hfits
  · dsimp only [ask, r, t, s, c, script, slow, gate]
    rfl
  · obtain ⟨secs, hsecs, s', hrun, hclock⟩ := hoverdue q hlate hresolve
    refine ⟨secs, hsecs, s', hrun, hclock.trans (Nat.zero_add _), ?_⟩
    rcases htimedOut q _ s' hresolve hrun with ha | ⟨secs', hsecs', ht, hclock'⟩
    · cases ha
    · exact ⟨secs', hsecs', ht, hclock'.trans (Nat.zero_add _)⟩
  · exact hshift q (r.delayed (some 7)) 3 4 (by decide) rfl rfl (by decide) hfits'

end ProxyDial
