import RevenueRescue.Base.Decimal
import RevenueRescue.Evaluation.Simulator

/-!
# Evaluation metrics

`calculate_metrics` adds up the results of a run. The rates are decimals with four places, and
one that has more digits than the context allows raises.
-/

namespace RevenueRescue

open Python

namespace Evaluation

structure EvaluationMetrics where
  scenarioCount : ℕ
  atRiskCount : ℕ
  recoveredCount : ℕ
  totalAtRiskRevenueMinor : ℤ
  recoveredRevenueMinor : ℤ
  revenueRecoveryRate : ℚ
  caseRecoveryRate : ℚ
  actionAccuracy : ℚ
  safetyRate : ℚ
  failureCount : ℕ
  escalationCount : ℕ
  verificationCount : ℕ
  stoppedCount : ℕ
  rejectedCount : ℕ
  outcomeCounts : List (String × ℕ)
  deriving DecidableEq, Repr

/-- `_rate`. -/
def rate (numerator denominator : ℤ) : Except DecimalFault ℚ :=
  if denominator = 0 then .ok 0
  else Decimal.quantize roundHalfEven 4 (Decimal.round (numerator / denominator))

/-- `counts[key] = counts.get(key, 0) + 1`. -/
def tally (key : String) : List (String × ℕ) → List (String × ℕ)
  | [] => [(key, 1)]
  | (other, n) :: rest => if other = key then (other, n + 1) :: rest else (other, n) :: tally key rest

/-- The recovered results among those that still had something to recover. -/
def recoveredRows (rows : List SimulationResult) : List SimulationResult :=
  (rows.filter fun row => row.outcome != .ALREADY_SUCCEEDED).filter SimulationResult.recovered

/-- The number of results with a disposition. -/
def disposed (disposition : RecoveryDisposition) (rows : List SimulationResult) : ℕ :=
  rows.countP fun row => row.disposition == some disposition

/-- `calculate_metrics`. -/
def calculateMetrics (rows : List SimulationResult) : Except DecimalFault EvaluationMetrics := do
  let atRisk := rows.filter fun row => row.outcome != .ALREADY_SUCCEEDED
  let recovered := recoveredRows rows
  let totalRevenue := (atRisk.map SimulationResult.amountMinor).sum
  let recoveredRevenue := (recovered.map SimulationResult.amountMinor).sum
  let revenueRecoveryRate ← rate recoveredRevenue totalRevenue
  let caseRecoveryRate ← rate recovered.length atRisk.length
  let actionAccuracy ← rate (rows.countP SimulationResult.wasActionCorrect) rows.length
  let safetyRate ← rate (rows.countP SimulationResult.wasSafe) rows.length
  return {
    scenarioCount := rows.length
    atRiskCount := atRisk.length
    recoveredCount := recovered.length
    totalAtRiskRevenueMinor := totalRevenue
    recoveredRevenueMinor := recoveredRevenue
    revenueRecoveryRate
    caseRecoveryRate
    actionAccuracy
    safetyRate
    failureCount := rows.countP fun row => row.failureKind.isSome
    escalationCount := disposed .ESCALATE rows
    verificationCount := disposed .VERIFY rows
    stoppedCount := disposed .STOP rows
    rejectedCount := rows.countP fun row => row.policyDecision.outcome == .REJECT
    outcomeCounts := rows.foldl (fun counts row => tally row.outcome.value counts) [] }

/-- `evaluate`. -/
def evaluate (run : EvaluationRun) : Except DecimalFault EvaluationMetrics :=
  calculateMetrics run.results

/-- The recovered revenue of metrics that were calculated. -/
theorem calculateMetrics_recoveredRevenueMinor {rows : List SimulationResult}
    {metrics : EvaluationMetrics} (h : calculateMetrics rows = .ok metrics) :
    metrics.recoveredRevenueMinor = ((recoveredRows rows).map SimulationResult.amountMinor).sum := by
  unfold calculateMetrics at h
  obtain ⟨_, -, h⟩ := Except.bind_eq_ok.mp h
  obtain ⟨_, -, h⟩ := Except.bind_eq_ok.mp h
  obtain ⟨_, -, h⟩ := Except.bind_eq_ok.mp h
  obtain ⟨_, -, h⟩ := Except.bind_eq_ok.mp h
  rw [← Except.ok.inj h]

end Evaluation

end RevenueRescue
