import Mathlib.Algebra.Order.BigOperators.Group.List
import RevenueRescue.Cases.Dashboard

/-!
# Dashboard figures of one currency

The figures of a currency are the sums over the cases triggered in it and the evidence in it.
`get_metrics` takes a currency and shows it, but none of its queries has a condition on it:
the figures are right exactly when nothing outside the currency carries an amount, or when the
evidence outside happens to replace what the recovered cases in the currency add up to.
-/

namespace RevenueRescue

open Python

/-- A sum splits along any condition on its terms. -/
theorem sum_map_eq_add {α : Type} (p : α → Bool) (f : α → ℕ) (l : List α) :
    (l.map f).sum = ((l.filter p).map f).sum + ((l.filter fun a => !p a).map f).sum := by
  have hsplit := List.sum_map_filter_add_sum_map_filter_not (fun a => p a = true) f l
  simp only [Bool.decide_eq_true, Bool.not_eq_true, Bool.decide_eq_false] at hsplit
  exact hsplit.symm

/-- A sum of amounts is zero when each of them is. -/
theorem sum_filter_eq_zero_iff {α : Type} (p : α → Bool) (f : α → ℕ) (l : List α) :
    ((l.filter p).map f).sum = 0 ↔ ∀ a ∈ l, p a = true → f a = 0 := by
  rw [List.sum_eq_zero_iff]
  constructor
  · intro hzero a ha hp
    exact hzero (f a) (List.mem_map_of_mem (List.mem_filter.mpr ⟨ha, hp⟩))
  · intro hzero amount hamount
    obtain ⟨a, ha, rfl⟩ := List.mem_map.mp hamount
    obtain ⟨hmem, hp⟩ := List.mem_filter.mp ha
    exact hzero a hmem hp

namespace DashboardService

variable (s : Store) (evidence : List RecoveryEvidence) (code : String)

/-- The cases that a payment in a currency triggered. -/
def triggeredIn : List (RecoveryCase × Transaction) :=
  (triggered s).filter fun row => row.2.currency.code == code

/-- The evidence in a currency. -/
def evidenceIn : List RecoveryEvidence := evidence.filter fun e => e.currency.code == code

/-- The cases that a payment in another currency triggered. -/
def triggeredElsewhere : List (RecoveryCase × Transaction) :=
  (triggered s).filter fun row => !(row.2.currency.code == code)

/-- The evidence in other currencies. -/
def evidenceElsewhere : List RecoveryEvidence :=
  evidence.filter fun e => !(e.currency.code == code)

/-- Both figures are the sums over the rows in the currency. -/
def SingleCurrency (now : Datetime) (timeRange : String) : Prop :=
  (getMetrics now s evidence code timeRange).atRiskRevenueMinor = exposure (triggeredIn s code) ∧
    (getMetrics now s evidence code timeRange).recoveredRevenueMinor =
      recoveredRevenue (triggeredIn s code) (evidenceIn evidence code)

/-- No row in another currency carries an amount, except for evidence that stands in for the
recovered cases of this currency by adding up to the same figure. -/
def NothingElsewhere : Prop :=
  (∀ row ∈ triggered s, row.2.currency.code ≠ code → row.2.amountMinor = 0) ∧
    ((∀ e ∈ evidence, e.attributable = true → e.currency.code ≠ code → e.amountMinor = 0) ∨
      verified (attributable (evidenceIn evidence code)) = 0 ∧
        verified (attributable (evidenceElsewhere evidence code)) =
          exposure (recovered (triggeredIn s code)))

theorem exposure_eq_add :
    exposure (triggered s) = exposure (triggeredIn s code) + exposure (triggeredElsewhere s code) :=
  sum_map_eq_add _ _ _

theorem exposure_recovered_eq_add :
    exposure (recovered (triggered s)) = exposure (recovered (triggeredIn s code)) +
      exposure (recovered (triggeredElsewhere s code)) := by
  have hin : recovered (triggeredIn s code) =
      (recovered (triggered s)).filter fun row => row.2.currency.code == code :=
    List.filter_comm ..
  have helsewhere : recovered (triggeredElsewhere s code) =
      (recovered (triggered s)).filter fun row => !(row.2.currency.code == code) :=
    List.filter_comm ..
  rw [hin, helsewhere]
  exact sum_map_eq_add _ _ _

theorem verified_eq_add :
    verified (attributable evidence) = verified (attributable (evidenceIn evidence code)) +
      verified (attributable (evidenceElsewhere evidence code)) := by
  have hin : attributable (evidenceIn evidence code) =
      (attributable evidence).filter fun e => e.currency.code == code :=
    List.filter_comm ..
  have helsewhere : attributable (evidenceElsewhere evidence code) =
      (attributable evidence).filter fun e => !(e.currency.code == code) :=
    List.filter_comm ..
  rw [hin, helsewhere]
  exact sum_map_eq_add _ _ _

theorem exposure_triggeredElsewhere_eq_zero_iff :
    exposure (triggeredElsewhere s code) = 0 ↔
      ∀ row ∈ triggered s, row.2.currency.code ≠ code → row.2.amountMinor = 0 := by
  unfold exposure triggeredElsewhere
  rw [sum_filter_eq_zero_iff]
  simp only [Bool.not_eq_true', beq_eq_false_iff_ne]

theorem verified_evidenceElsewhere_eq_zero_iff :
    verified (attributable (evidenceElsewhere evidence code)) = 0 ↔
      ∀ e ∈ evidence, e.attributable = true → e.currency.code ≠ code → e.amountMinor = 0 := by
  unfold verified attributable evidenceElsewhere
  rw [List.filter_filter, sum_filter_eq_zero_iff]
  simp only [Bool.and_eq_true, Bool.not_eq_true', beq_eq_false_iff_ne, and_imp]

/-- What the recovered cases of other currencies add up to is part of their exposure. -/
theorem exposure_recovered_le (rows : List (RecoveryCase × Transaction)) :
    exposure (recovered rows) ≤ exposure rows := by
  have hsplit := sum_map_eq_add (fun row : RecoveryCase × Transaction => row.1.state == .RECOVERED)
    (fun row => row.2.amountMinor) rows
  exact (Nat.le_add_right _ _).trans hsplit.ge

/-- The figures of a currency are right exactly when no other currency has an amount, or its
evidence happens to stand in for the recovered cases. -/
theorem getMetrics_singleCurrency_iff (now : Datetime) (timeRange : String) :
    SingleCurrency s evidence code now timeRange ↔ NothingElsewhere s evidence code := by
  unfold SingleCurrency NothingElsewhere getMetrics
  rw [← exposure_triggeredElsewhere_eq_zero_iff, ← verified_evidenceElsewhere_eq_zero_iff]
  have hrisk := exposure_eq_add s code
  have hrecovered := exposure_recovered_eq_add s code
  have hverified := verified_eq_add evidence code
  have hle := exposure_recovered_le (triggeredElsewhere s code)
  dsimp only
  unfold recoveredRevenue
  split_ifs with hall hin hin <;> omega

/-- A failed payment of 100 dollars and one of 50 euros, each with its case. -/
def mixed : Store :=
  let usd : Currency := ⟨"USD", by decide⟩
  let eur : Currency := ⟨"EUR", by decide⟩
  let failed (reference : String) (amountMinor : ℕ) (currency : Currency) : Transaction :=
    { customerId := 0, provider := "stripe", externalTransactionId := reference, amountMinor
      currency, status := .FAILED, failureCode := none, failureMessageSafe := none
      occurredAt := ⟨0, none⟩, metadataJson := [] }
  let detected (key : String) (triggerTransactionId : UUID) : RecoveryCase :=
    { customerId := 0, triggerTransactionId, caseKey := key, state := .DETECTED, priority := 100
      openedAt := ⟨0, none⟩, lastStateChangedAt := ⟨0, none⟩, closedAt := none, version := 1
      metadataJson := [] }
  { Store.empty with
    transactions := [failed "p1" 10000 usd, failed "p2" 5000 eur]
    recoveryCases := [detected "CASE-TX-stripe-p1" 0, detected "CASE-TX-stripe-p2" 1] }

/-- The dollar figure counts the euros as cents. -/
theorem dollars_count_euros :
    exposure (triggeredIn mixed "USD") = 10000 ∧
      (getMetrics ⟨0, some 0⟩ mixed [] "USD" "all_time").atRiskRevenueMinor = 15000 ∧
      ¬ SingleCurrency mixed [] "USD" ⟨0, some 0⟩ "all_time" := by
  have hrisk : exposure (triggeredIn mixed "USD") = 10000 := by decide +kernel
  have hshown : (getMetrics ⟨0, some 0⟩ mixed [] "USD" "all_time").atRiskRevenueMinor = 15000 := by
    decide +kernel
  refine ⟨hrisk, hshown, fun hsingle => ?_⟩
  have heq := hsingle.1
  rw [hrisk, hshown] at heq
  exact absurd heq (by decide)

end DashboardService

end RevenueRescue
