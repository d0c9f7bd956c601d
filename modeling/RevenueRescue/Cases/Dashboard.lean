import RevenueRescue.Base.Text
import RevenueRescue.Domain.Repositories

/-!
# Dashboard metrics

`DashboardService.get_metrics` adds up the amounts of the trigger transactions of all cases and
of the attributable recovery evidence. The evidence is a table of its own that no other part
of the program under study reads.
-/

namespace RevenueRescue

open Python

structure RecoveryEvidence where
  amountMinor : ℕ
  currency : Currency
  attributable : Bool
  deriving DecidableEq, Repr

structure DashboardMetricsResponseDTO where
  currency : String
  timeRange : String
  atRiskRevenueMinor : ℕ
  recoveredRevenueMinor : ℕ
  recoveryRatePct : String
  caseRecoveryRatePct : String
  totalAtRiskCases : ℕ
  totalRecoveredCases : ℕ
  escalatedCases : ℕ
  verificationPendingCases : ℕ
  stoppedCases : ℕ
  safetyRatePct : String
  generatedAt : Datetime
  deriving DecidableEq, Repr

namespace DashboardService

/-- `f"{(part / whole * 100):.2f}%"`, up to the rounding of floats. -/
def percentage (part whole : ℕ) : String :=
  if whole > 0 then
    let hundredths := (roundHalfEven ((part : ℚ) / whole * 10000)).toNat
    toString (hundredths / 100) ++ "." ++ (if hundredths % 100 < 10 then "0" else "") ++
      toString (hundredths % 100) ++ "%"
  else "0.00%"

/-- The cases joined with their trigger transactions. -/
def triggered (s : Store) : List (RecoveryCase × Transaction) :=
  s.recoveryCases.filterMap fun case =>
    (s.transactions[case.triggerTransactionId]?).map fun tx => (case, tx)

/-- The sum of the amounts of joined rows. -/
def exposure (rows : List (RecoveryCase × Transaction)) : ℕ :=
  (rows.map fun row => row.2.amountMinor).sum

/-- The sum of the amounts of evidence. -/
def verified (evidence : List RecoveryEvidence) : ℕ :=
  (evidence.map RecoveryEvidence.amountMinor).sum

def attributable (evidence : List RecoveryEvidence) : List RecoveryEvidence :=
  evidence.filter RecoveryEvidence.attributable

def recovered (rows : List (RecoveryCase × Transaction)) : List (RecoveryCase × Transaction) :=
  rows.filter fun row => row.1.state == .RECOVERED

/-- The number of cases in a state. -/
def countIn (s : Store) (state : RecoveryCaseState) : ℕ :=
  s.recoveryCases.countP fun case => case.state == state

/-- The recovered revenue: the evidence or, when that adds up to nothing, the recovered cases. -/
def recoveredRevenue (rows : List (RecoveryCase × Transaction))
    (evidence : List RecoveryEvidence) : ℕ :=
  if verified (attributable evidence) = 0 then exposure (recovered rows)
  else verified (attributable evidence)

/-- `DashboardService.get_metrics`. -/
def getMetrics (now : Datetime) (s : Store) (evidence : List RecoveryEvidence)
    (currency timeRange : String) : DashboardMetricsResponseDTO :=
  let atRiskMinor := exposure (triggered s)
  let recMinor := recoveredRevenue (triggered s) evidence
  let totalCases := s.recoveryCases.length
  let recoveredCases := countIn s .RECOVERED
  { currency := upper currency
    timeRange
    atRiskRevenueMinor := atRiskMinor
    recoveredRevenueMinor := recMinor
    recoveryRatePct := percentage recMinor atRiskMinor
    caseRecoveryRatePct := percentage recoveredCases totalCases
    totalAtRiskCases := totalCases
    totalRecoveredCases := recoveredCases
    escalatedCases := countIn s .ESCALATED
    verificationPendingCases := countIn s .VERIFICATION_PENDING
    stoppedCases := countIn s .STOPPED
    safetyRatePct := "100.00%"
    generatedAt := now }

end DashboardService

end RevenueRescue
