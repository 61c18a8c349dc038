import ProxyDial.Proofs.Connect.Traces
import ProxyDial.Proofs.Dial.Timeouts
import ProxyDial.Proofs.Handshake.Traces
import ProxyDial.Proofs.Scenario.Tunnel

/-!
# A dial and its legs

*The ways of a dial.*  `Dials` lists them, each with what its legs have come to.  It takes
the requests of the two legs one by one, so that the theorem about dials says which option
goes where.

*The proxy's options.*  The family and the lookup timeout reach the first leg alone.  What
they change is which connection the second leg finds, so they change nothing if that is the
same (`Dialer.alike_withLookup`).
-/

namespace ProxyDial

/-! ## The ways of a dial -/

/-- How a dial goes that connects a fresh socket as `connect` says and then asks for its
tunnel as `ask` says.  The socket that was there before stays unless the dial succeeds. -/
inductive Dials (connect : ConnectRequest) (ask : HandshakeRequest) (r : Resolver) (s : Session) :
    Option (Except DialError Unit) × Session → Prop where
  | connecting {s₁ : Session} (h₁ : (connect.run r).outcome s.fresh = (none, s₁))
      (hs₁ : s.fresh.Silent s₁) :
      Dials connect ask r s (none, s₁)
  | unconnected {s₁ : Session} {e : DialError}
      (h₁ : (connect.run r).outcome s.fresh = (some (.error e), s₁))
      (hs₁ : s.fresh.Silent s₁) (hc : s₁.stream = none) :
      Dials connect ask r s
        (some (.error e), { s₁ with stream := s.stream.map (Connection.advance s₁.clock) })
  | asking {s₁ s₂ : Session} {c : Connection}
      (h₁ : (connect.run r).outcome s.fresh = (some (.ok ()), s₁))
      (hs₁ : s.fresh.Opened s₁ c)
      (h₂ : (ask.run r).outcome s₁ = (none, s₂))
      (hs₂ : ask.AsksOnce r s₁ c s.fresh.sent (none, s₂)) :
      Dials connect ask r s (none, s₂)
  | refused {s₁ s₂ : Session} {c : Connection} {e : DialError}
      (h₁ : (connect.run r).outcome s.fresh = (some (.ok ()), s₁))
      (hs₁ : s.fresh.Opened s₁ c)
      (h₂ : (ask.run r).outcome s₁ = (some (.error e), s₂))
      (hs₂ : ask.AsksOnce r s₁ c s.fresh.sent (some (.error e), s₂))
      (hc : s₂.stream = none) :
      Dials connect ask r s
        (some (.error e), { s₂ with stream := s.stream.map (Connection.advance s₂.clock) })
  | opened {s₁ s₂ : Session} {c c' : Connection} {ip : IPv4}
      (h₁ : (connect.run r).outcome s.fresh = (some (.ok ()), s₁))
      (hs₁ : s.fresh.Opened s₁ c)
      (h₂ : (ask.run r).outcome s₁ = (some (.ok ()), s₂))
      (hs₂ : ask.AsksOnce r s₁ c s.fresh.sent (some (.ok ()), s₂))
      (hc : s₂.stream = some c') (hpeer : c'.peer = c.peer ∧ c'.ordinal = c.ordinal)
      (hasks : ask.asks? r true = some (.ok ip)) (hsent : c'.sent = ask.wire ip) :
      Dials connect ask r s (some (.ok ()), { s₂ with
        net := s.stream.elim s₂.net fun old => s₂.net.close (old.advance s₂.clock) })

namespace Dialer

variable (d : Dialer) (r : Resolver) (host : String) (port : UInt16)

theorem dials_dial (s : Session) :
    Dials d.connectRequest (d.handshakeRequest host port) r s ((d.dial r host port).outcome s) := by
  have hsilent := d.connectRequest.silent_run r s.fresh
  have hfirst := d.connectRequest.leads_run r s.fresh
  rw [outcome_dial, outcome_openTunnel]
  rcases h₁ : (d.connectRequest.run r).outcome s.fresh with ⟨_ | e | u, s₁⟩
  · rw [h₁] at hsilent
    exact .connecting h₁ hsilent
  · rw [h₁] at hsilent hfirst
    exact .unconnected h₁ hsilent hfirst.stream_eq_none
  · obtain ⟨c, hopened⟩ := ConnectRequest.exists_opened h₁
    have hasks := (d.handshakeRequest host port).asksOnce_run r hopened.stream hopened.unused
      hopened.sent d.validate_options
    have hsecond := (d.handshakeRequest host port).leads_run r s₁
    dsimp only
    rcases h₂ : ((d.handshakeRequest host port).run r).outcome s₁ with ⟨_ | e | u, s₂⟩
    · rw [h₂] at hasks
      exact .asking h₁ hopened h₂ hasks
    · rw [h₂] at hasks hsecond
      exact .refused h₁ hopened h₂ hasks hsecond.stream_eq_none
    · rw [h₂] at hasks
      obtain ⟨ip, c', _, hip, hc, -, hcarries⟩ := HandshakeRequest.carries_run hopened.stream
        ((Op.run?_eq_some_iff ..).2 h₂)
      have hsent := hcarries.sent
      rw [hopened.unused, List.nil_append] at hsent
      exact .opened h₁ hopened h₂ hasks hc hcarries.same hip hsent

end Dialer

/-! ## The options of the proxy -/

/-- Two connects that lead to the same endpoint at the same instant leave the same. -/
theorem ConnectRequest.alike_of_connected {q q' : ConnectRequest} {r : Resolver}
    {s s₁ s₁' : Session} (hs : s.stream = none)
    (h₁ : (q.run r).outcome s = (some (.ok ()), s₁))
    (h₁' : (q'.run r).outcome s = (some (.ok ()), s₁')) (hclock : s₁'.clock = s₁.clock)
    (hpeer : s₁'.stream.map Connection.peer = s₁.stream.map Connection.peer) : s₁.Alike s₁' := by
  obtain ⟨e, server, scripts, hserver, hscripts, hstream, hnet⟩ :=
    ConnectRequest.exists_accepted_now hs h₁
  obtain ⟨e', server', scripts', hserver', hscripts', hstream', hnet'⟩ :=
    ConnectRequest.exists_accepted_now hs h₁'
  rw [hstream, hstream'] at hpeer
  have he : e' = e := by simpa [Server.accept] using hpeer
  subst he
  cases hserver.symm.trans hserver'
  cases hscripts.symm.trans hscripts'
  refine ⟨hclock, ?_, ?_⟩
  · rw [hnet, hnet', hclock]
  · rw [hstream, hstream', hclock]

namespace Dialer

/-- The dialer that looks its proxy up in another way. -/
def withLookup (d : Dialer) (family : Family) (resolveSecs? : Option UInt64) : Dialer where
  host := d.host
  port := d.port
  options := { d.options with family, resolveTimeoutSecs := resolveSecs? }
  validate_options := d.validate_options

variable {d : Dialer} {r : Resolver} {host : String} {port : UInt16}

/-- The second leg goes the same way on sessions that are alike. -/
theorem alike_withLookup {family : Family} {resolveSecs? : Option UInt64} {s s₁ s₁' : Session}
    (h₁ : (d.connectRequest.run r).outcome s.fresh = (some (.ok ()), s₁))
    (h₁' : ((d.withLookup family resolveSecs?).connectRequest.run r).outcome s.fresh =
      (some (.ok ()), s₁'))
    (hs : s₁.Alike s₁') :
    (((d.withLookup family resolveSecs?).dial r host port).outcome s).1 =
        ((d.dial r host port).outcome s).1 ∧
      ((d.dial r host port).outcome s).2.Alike
        (((d.withLookup family resolveSecs?).dial r host port).outcome s).2 := by
  have hsecond : Keeps (fun _ => False) (((d.handshakeRequest host port).run r).outcome s₁)
      ((((d.withLookup family resolveSecs?).handshakeRequest host port).run r).outcome s₁') :=
    ((d.handshakeRequest host port).inStep_run r (.inl rfl) hs).keeps
  rw [outcome_dial, outcome_dial, outcome_openTunnel, outcome_openTunnel, h₁, h₁']
  rcases hsecond.dialled s with hsame | ⟨e, he, phase, t, hnever, -⟩
  · exact hsame
  · exact hnever.elim

/-- A dial is a timed connect on a fresh socket and then, if that succeeds, a handshake on the
connection that it leaves.  It takes the way of the two (`Dials`).  The family and the lookup
timeout matter only to the connect: others that lead to the same endpoint at the same instant
make no difference. -/
theorem dial_composes (d : Dialer) (r : Resolver) (host : String) (port : UInt16) (s : Session) :
    let connect : ConnectRequest := {
      host := d.host, port := d.port, timeoutSecs := d.options.connectTimeoutSecs
      family := d.options.family, resolveTimeoutSecs := d.options.resolveTimeoutSecs }
    let ask : HandshakeRequest := {
      host, port, timeoutSecs := d.options.handshakeTimeoutSecs
      userId := UserId.ofString d.options.userId }
    Dials connect ask r s ((d.dial r host port).outcome s) ∧
    ((∃ s', (d.dial r host port).run? s = some (.ok (), s')) ↔
      ∃ s₁ s₂, (connect.run r).run? s.fresh = some (.ok (), s₁) ∧
        (ask.run r).run? s₁ = some (.ok (), s₂)) ∧
    ∀ (family : Family) (resolveSecs? : Option UInt64) (s₁ s₁' : Session),
      (connect.run r).run? s.fresh = some (.ok (), s₁) →
      ({ connect with family, resolveTimeoutSecs := resolveSecs? }.run r).run? s.fresh =
        some (.ok (), s₁') →
      s₁'.clock = s₁.clock → s₁'.stream.map Connection.peer = s₁.stream.map Connection.peer →
        (((d.withLookup family resolveSecs?).dial r host port).outcome s).1 =
            ((d.dial r host port).outcome s).1 ∧
          ((d.dial r host port).outcome s).2.Alike
            (((d.withLookup family resolveSecs?).dial r host port).outcome s).2 := by
  intro connect ask
  have hd : Dials connect ask r s ((d.dial r host port).outcome s) := d.dials_dial r host port s
  refine ⟨hd, ⟨?_, ?_⟩, ?_⟩
  · rintro ⟨s', hrun⟩
    obtain ⟨s₁, s₂, h₁, h₂, -⟩ := exists_of_run?_dial hrun
    exact ⟨s₁, s₂, h₁, h₂⟩
  · rintro ⟨s₁, s₂, h₁, h₂⟩
    exact exists_run?_dial h₁ h₂
  · intro family resolveSecs? s₁ s₁' h₁ h₁' hclock hpeer
    have h₁ := (Op.run?_eq_some_iff ..).1 h₁
    have h₁' := (Op.run?_eq_some_iff ..).1 h₁'
    exact alike_withLookup h₁ h₁' (ConnectRequest.alike_of_connected rfl h₁ h₁' hclock hpeer)

/-- The proxy has an address of either kind, and only the second one answers.  To look for
that kind alone comes to the same. -/
theorem dial_composes_v4Only :
    let gate : Endpoint := .v4 ⟨10, 0, 0, 1⟩ 1080
    let dead : Endpoint := .v6 ⟨[0, 0, 0, 0, 0, 0, 0, 1], rfl⟩ 1080 0
    let script := Action.request ++ [.write [0, 90, 0, 0, 0, 0, 0, 7]]
    let r := Resolver.fixed [dead, gate]
    let s := Session.start { servers := [{ address := gate, behaviour := .accepts [script] }] }
    let d := Dialer.make "proxy" 1080
    let connect : ConnectRequest := { host := "proxy", port := 1080, timeoutSecs := 10 }
    let ask : HandshakeRequest := { host := "target", port := 80, timeoutSecs := 10 }
    (∃ s₁ s₁' s₂ s', (connect.run r).run? s = some (.ok (), s₁) ∧
      (ask.run r).run? s₁ = some (.ok (), s₂) ∧
      (d.dial r "target" 80).run? s = some (.ok (), s') ∧
      ({ connect with family := .v4Only, resolveTimeoutSecs := some 5 }.run r).run? s =
        some (.ok (), s₁') ∧ s₁'.clock = s₁.clock ∧
      s₁'.stream.map Connection.peer = s₁.stream.map Connection.peer) ∧
    Dials connect ask r s ((d.dial r "target" 80).outcome s) ∧
    ((d.dial r "target" 80).outcome s).2.Alike
      (((d.withLookup .v4Only (some 5)).dial r "target" 80).outcome s).2 := by
  intro gate dead script r s d connect ask
  have hlegs : ∃ s₁ s₁' s₂, (connect.run r).run? s = some (.ok (), s₁) ∧
      (ask.run r).run? s₁ = some (.ok (), s₂) ∧
      ({ connect with family := .v4Only, resolveTimeoutSecs := some 5 }.run r).run? s =
        some (.ok (), s₁') ∧ s₁'.clock = s₁.clock ∧
      s₁'.stream.map Connection.peer = s₁.stream.map Connection.peer := by
    dsimp only [connect, ask, r, s, script, gate, dead]
    exact ⟨_, _, _, rfl, rfl, rfl, rfl, rfl⟩
  obtain ⟨s₁, s₁', s₂, h₁, h₂, h₁', hclock, hpeer⟩ := hlegs
  obtain ⟨hdials, hok, hsame⟩ := dial_composes d r "target" 80 s
  obtain ⟨s', hrun⟩ := hok.2 ⟨s₁, s₂, h₁, h₂⟩
  exact ⟨⟨s₁, s₁', s₂, s', h₁, h₂, hrun, h₁', hclock, hpeer⟩, hdials,
    (hsame .v4Only (some 5) s₁ s₁' h₁ h₁' hclock hpeer).2⟩

end Dialer

end ProxyDial
