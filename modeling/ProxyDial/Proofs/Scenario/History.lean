import ProxyDial.Proofs.Session.Outcome
import ProxyDial.Scenario

/-!
# Histories

A history is a list of steps that one client has taken, each with its outcome.  A
report of a scenario is a history in which the servers are let go on after every step
(`history_of_reportAll`), and letting them go on is a sleep of no time.
-/

namespace ProxyDial

/-- The steps that lead from a session to another, each with its outcome. -/
inductive History : Session → List (Step × Outcome) → Session → Prop where
  | nil {s : Session} : History s [] s
  | cons {s s' s'' : Session} {step : Step} {outcome : Outcome} {history : List (Step × Outcome)}
      (h : step.run.run? s = some (outcome, s')) (rest : History s' history s'') :
      History s ((step, outcome) :: history) s''

variable {s s' s'' : Session} {history history' : List (Step × Outcome)}

theorem History.exists_of_append (h : History s (history ++ history') s'') :
    ∃ s', History s history s' ∧ History s' history' s'' := by
  induction history generalizing s with
  | nil => exact ⟨s, .nil, h⟩
  | cons taken history ih =>
    cases h with
    | cons hstep hrest =>
      obtain ⟨s', h, h'⟩ := ih hrest
      exact ⟨s', .cons hstep h, h'⟩

theorem run?_sleep_zero (s : Session) :
    (Step.sleep 0).run.run? s = some (.silent, s.moveTo s.clock) := rfl

theorem history_of_reportAll {steps : List Step} {reports : List StepReport} {s s' : Session}
    (h : (Step.reportAll steps).run? s = some (reports, s')) :
    reports.length = steps.length ∧
      History s ((steps.zip reports).flatMap fun (step, report) =>
        [(step, report.outcome), (.sleep 0, .silent)]) s' := by
  induction steps generalizing s reports with
  | nil =>
    cases h
    exact ⟨rfl, .nil⟩
  | cons step steps ih =>
    obtain ⟨report, s₁, hreport, h⟩ := Op.exists_of_run?_bind h
    obtain ⟨reports', s₂, hreports, h⟩ := Op.exists_of_run?_bind h
    cases h
    obtain ⟨hlength, hhistory⟩ := ih hreports
    obtain ⟨outcome, s₀, hrun, hreport⟩ := Op.exists_of_run?_bind hreport
    cases hreport
    refine ⟨congrArg (· + 1) hlength, ?_⟩
    exact .cons hrun (.cons (run?_sleep_zero s₀) hhistory)

end ProxyDial
