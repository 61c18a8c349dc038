import ProxyDial.Dialer
import ProxyDial.Proofs.Session.Outcome

/-!
# The legs of a dial

A dial is a timed connect and then a handshake, on a fresh socket (`Dialer.outcome_dial`).
-/

namespace ProxyDial

/-- The session with a fresh socket in place of its own. -/
abbrev Session.fresh (s : Session) : Session := { s with stream := none }

/-- How a dial ends that began on a session and whose legs have ended: the socket that was
there before stays if they failed, and is closed otherwise. -/
def Session.dialled (s : Session) : Option (Except DialError Unit) × Session →
    Option (Except DialError Unit) × Session
  | (none, s') => (none, s')
  | (some (.error e), s') =>
    (some (.error e), { s' with stream := s.stream.map (Connection.advance s'.clock) })
  | (some (.ok ()), s') =>
    (some (.ok ()), { s' with
      net := s.stream.elim s'.net fun old => s'.net.close (old.advance s'.clock) })

namespace Dialer

theorem withOptions_of_validate {host : String} {port : UInt16} {options : Options}
    (h : options.validate = .ok ()) :
    withOptions host port options = .ok ⟨host, port, options, h⟩ := by
  rw [withOptions]
  split
  · rfl
  · rename_i e he
    rw [h] at he
    cases he

variable (d : Dialer) (r : Resolver) (host : String) (port : UInt16)

theorem outcome_openTunnel (s : Session) :
    (d.openTunnel r host port).outcome s = match (d.connectRequest.run r).outcome s with
      | (none, s₁) => (none, s₁)
      | (some (.error e), s₁) => (some (.error e), s₁)
      | (some (.ok ()), s₁) => ((d.handshakeRequest host port).run r).outcome s₁ := by
  rw [openTunnel, Op.outcome_bind]
  rcases (d.connectRequest.run r).outcome s with ⟨_ | e | u, s₁⟩ <;> rfl

theorem outcome_dial (s : Session) :
    (d.dial r host port).outcome s =
      s.dialled ((d.openTunnel r host port).outcome s.fresh) := by
  rw [dial]
  simp only [Op.outcome_bind, Op.outcome_get, Op.outcome_setStream]
  rcases (d.openTunnel r host port).outcome s.fresh with ⟨_ | e | u, s'⟩
  · rfl
  · rfl
  · rw [Session.dialled]
    cases s.stream <;> rfl

variable {d r host port} {s s' s₁ s₂ : Session}

/-- A dial that succeeds connects a fresh socket and asks for the tunnel. -/
theorem exists_of_run?_dial (h : (d.dial r host port).run? s = some (.ok (), s')) :
    ∃ s₁ s₂, (d.connectRequest.run r).run? s.fresh = some (.ok (), s₁) ∧
      ((d.handshakeRequest host port).run r).run? s₁ = some (.ok (), s₂) ∧
      s'.stream = s₂.stream := by
  rw [Op.run?_eq_some_iff, outcome_dial, outcome_openTunnel] at h
  rcases h₁ : (d.connectRequest.run r).outcome s.fresh with ⟨_ | e | u, s₁⟩
  · rw [h₁] at h
    cases h
  · rw [h₁] at h
    cases h
  · rw [h₁] at h
    dsimp only at h
    rcases h₂ : ((d.handshakeRequest host port).run r).outcome s₁ with ⟨_ | e | u, s₂⟩
    · rw [h₂] at h
      cases h
    · rw [h₂] at h
      cases h
    · rw [h₂] at h
      cases h
      exact ⟨s₁, s₂, (Op.run?_eq_some_iff ..).2 h₁, (Op.run?_eq_some_iff ..).2 h₂, rfl⟩

/-- A dial succeeds if both of its legs do. -/
theorem exists_run?_dial
    (h₁ : (d.connectRequest.run r).run? s.fresh = some (.ok (), s₁))
    (h₂ : ((d.handshakeRequest host port).run r).run? s₁ = some (.ok (), s₂)) :
    ∃ s', (d.dial r host port).run? s = some (.ok (), s') := by
  refine ⟨(s.dialled (some (.ok ()), s₂)).2, ?_⟩
  rw [Op.run?_eq_some_iff, outcome_dial, outcome_openTunnel, (Op.run?_eq_some_iff ..).1 h₁]
  dsimp only
  rw [(Op.run?_eq_some_iff ..).1 h₂]
  rfl

end Dialer

end ProxyDial
