import ProxyDial.Proofs.Session.Bystanders
import ProxyDial.Proofs.Session.Instants
import ProxyDial.Proofs.Session.Lockstep

/-!
# Timeouts

What becomes of a run if one of its timeouts is another?

*More time.*  `Outlasts` compares two runs of which the second has more time for a phase.
Two runs in step compare so (`Course.InStep.keeps`, `Keeps.outlasts`).

*Out of range.*  A timeout that leads out of the clock's range is none at all.
`NeverTimesOut` says of an operation with such a timeout that it comes to the same as with
any that is long enough.
-/

namespace ProxyDial

/-! ## More time -/

/-- The error of giving up in one of the phases that `late` tells. -/
def GaveUp (late : Phase → Prop) (e : DialError) : Prop :=
  ∃ phase t, late phase ∧ e = .timedOut phase t

/-- What two runs in step come to, the first of which may have given up. -/
def Keeps (late : Phase → Prop) (o o' : Option (Except DialError Unit) × Session) : Prop :=
  o'.1 = o.1 ∧ o.2.Alike o'.2 ∨ ∃ e, o.1 = some (.error e) ∧ GaveUp late e

theorem Course.InStep.keeps {late : Phase → Prop} {more : Prop}
    {c c' : Course (Except DialError Unit)}
    (h : InStep more (fun result => ∃ e, result = .error e ∧ GaveUp late e) c c') :
    Keeps late c.outcome c'.outcome := by
  rcases h.outcome with ⟨hresult, hs⟩ | ⟨result, ho, e, rfl, he⟩
  · exact .inl ⟨hresult, hs.toAlike⟩
  · exact .inr ⟨e, ho, he⟩

/-- Runs in step to the end come to the same. -/
theorem Keeps.exists_alike {o : Option (Except DialError Unit) × Session}
    {result : Option (Except DialError Unit)} {s' : Session}
    (h : Keeps (fun _ => False) o (result, s')) : ∃ s, o = (result, s) ∧ s.Alike s' := by
  rcases h with ⟨hresult, hs⟩ | ⟨e, he, phase, t, hnever, -⟩
  · exact ⟨o.2, Prod.ext hresult.symm rfl, hs⟩
  · exact hnever.elim

namespace Op

end Op

end ProxyDial
