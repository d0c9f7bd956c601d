import RevenueRescue.Base.Text
import RevenueRescue.Evaluation.Simulator

/-!
# Counterfactual baselines

`compare_baselines` asks of each scenario what it would have recovered under a fixed strategy. The
ground truth is the outcome of the scenario and the action that would have been right.
-/

namespace RevenueRescue

open Python

namespace Evaluation

structure BaselineMetric where
  strategy : String
  scenarioCount : ℕ
  recoveredCount : ℕ
  recoveredRevenueMinor : ℤ
  recoveryRate : ℚ
  methodology : String
  deriving DecidableEq, Repr

/-- `_would_recover`. -/
def wouldRecover (scenario : EvaluationScenario) (action : ActionType) : Bool :=
  scenario.outcome == .RECOVERABLE && scenario.expectedAction == action

/-- The scenarios that still have something to recover. -/
def atRisk (rows : List EvaluationScenario) : List EvaluationScenario :=
  rows.filter fun row => row.outcome != .ALREADY_SUCCEEDED

/-- The metric of one strategy. -/
def baseline (strategy : String) (selector : EvaluationScenario → ActionType)
    (rows : List EvaluationScenario) : BaselineMetric :=
  let recovered := (atRisk rows).filter fun row => wouldRecover row (selector row)
  { strategy
    scenarioCount := rows.length
    recoveredCount := recovered.length
    recoveredRevenueMinor := (recovered.map EvaluationScenario.amountMinor).sum
    recoveryRate :=
      if (atRisk rows).isEmpty then 0
      else roundHalfEven (recovered.length / (atRisk rows).length * 10 ^ 4 : ℚ) / 10 ^ 4
    methodology := "synthetic counterfactual using scenario ground truth" }

/-- `compare_baselines`. -/
def compareBaselines (scenarios : List EvaluationScenario) : List BaselineMetric :=
  [baseline "do_nothing" (fun _ => .STOP) scenarios,
    baseline "always_retry" (fun _ => .RETRY_PAYMENT) scenarios,
    baseline "rule_based"
      (fun row => if row.priorAttemptCount ≠ 0 then .SEND_REMINDER else .RETRY_PAYMENT) scenarios,
    baseline "oracle_upper_bound" EvaluationScenario.expectedAction scenarios]

end Evaluation

end RevenueRescue
