import RevenueRescue.Properties.Currencies

/-!
# The recovered revenue and new evidence

The recovered revenue is the sum of the attributable evidence. While that sum is zero, the
dashboard shows the amounts of the recovered cases instead, and the first row that carries an
amount replaces all of them at once. The figure therefore falls exactly when this row carries
less than the recovered cases add up to.
-/

namespace RevenueRescue

open Python

namespace DashboardService

variable (s : Store) (evidence : List RecoveryEvidence)

/-- A new attributable row adds its amount to the evidence. -/
theorem verified_attributable_append (row : RecoveryEvidence) (hrow : row.attributable = true) :
    verified (attributable (evidence ++ [row])) =
      verified (attributable evidence) + row.amountMinor := by
  unfold verified attributable
  rw [List.filter_append, List.filter_cons_of_pos hrow, List.filter_nil, List.map_append,
    List.sum_append, List.map_singleton, List.sum_singleton]

/-- The new row does not have to stand in for a greater sum: the evidence already counts, the
row carries nothing, or it carries at least what the recovered cases add up to. -/
def Replaces (row : RecoveryEvidence) : Prop :=
  verified (attributable evidence) ≠ 0 ∨ row.amountMinor = 0 ∨
    exposure (recovered (triggered s)) ≤ row.amountMinor

/-- A new attributable row keeps the recovered revenue from falling exactly when it does not have
to stand in for a greater sum of recovered cases. -/
theorem recoveredRevenueMinor_le_append_iff (row : RecoveryEvidence)
    (hrow : row.attributable = true) (before after : Datetime) (currency timeRange : String) :
    (getMetrics before s evidence currency timeRange).recoveredRevenueMinor ≤
        (getMetrics after s (evidence ++ [row]) currency timeRange).recoveredRevenueMinor ↔
      Replaces s evidence row := by
  unfold getMetrics recoveredRevenue Replaces
  dsimp only
  rw [verified_attributable_append evidence row hrow]
  split_ifs with hbefore hafter hafter <;> omega

theorem isCurrencyCode_usd : isCurrencyCode "USD" = true := by decide

/-- Attributable evidence of one dollar. -/
def oneDollar : RecoveryEvidence := ⟨100, ⟨"USD", isCurrencyCode_usd⟩, true⟩

/-- A store with one recovered case of 100 dollars. -/
def recoveredCase : Store :=
  { mixed with
    recoveryCases := mixed.recoveryCases.take 1 |>.map fun case =>
      { case with state := .RECOVERED } }

/-- The condition holds where evidence is there already. -/
theorem recoveredRevenueMinor_le_append_oneDollar :
    (getMetrics ⟨0, some 0⟩ recoveredCase [oneDollar] "USD" "all_time").recoveredRevenueMinor ≤
        (getMetrics ⟨0, some 0⟩ recoveredCase ([oneDollar] ++ [oneDollar]) "USD"
          "all_time").recoveredRevenueMinor ↔
      Replaces recoveredCase [oneDollar] oneDollar :=
  recoveredRevenueMinor_le_append_iff recoveredCase [oneDollar] oneDollar rfl ⟨0, some 0⟩ ⟨0, some 0⟩
    "USD" "all_time"

/-- The first dollar of evidence lowers the figure from a hundred dollars to one. -/
theorem first_evidence_lowers :
    oneDollar.attributable = true ∧
      (getMetrics ⟨0, some 0⟩ recoveredCase [] "USD" "all_time").recoveredRevenueMinor = 10000 ∧
      (getMetrics ⟨0, some 0⟩ recoveredCase ([] ++ [oneDollar]) "USD"
        "all_time").recoveredRevenueMinor = 100 ∧
      ¬ (getMetrics ⟨0, some 0⟩ recoveredCase [] "USD" "all_time").recoveredRevenueMinor ≤
        (getMetrics ⟨0, some 0⟩ recoveredCase ([] ++ [oneDollar]) "USD"
          "all_time").recoveredRevenueMinor := by
  decide +kernel

end DashboardService

end RevenueRescue
