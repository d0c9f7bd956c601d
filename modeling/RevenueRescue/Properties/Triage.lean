import RevenueRescue.Properties.Normalisation

/-!
# Triage is monotone in exposure and age

Priorities and risk scores are sums of adjustments, and the amount and the age enter one
adjustment each. A larger amount is never adjusted upwards in the queue and never scored lower,
an older case is never adjusted upwards in the queue, and cutting a sum off at fixed bounds or
comparing it with fixed thresholds keeps an order.
-/

namespace RevenueRescue

open Python

/-- The rank of a tier, from the smallest risk to the greatest. -/
def RiskTier.severity : RiskTier → ℕ
  | .LOW => 0
  | .MEDIUM => 1
  | .HIGH => 2

/-- The exposure adjustment of a larger amount is no greater. -/
theorem CasePrioritizer.exposure_score_antitone (currency : String) {amount larger : ℤ}
    (hle : amount ≤ larger) :
    (CasePrioritizer.exposure larger currency).score ≤
      (CasePrioritizer.exposure amount currency).score := by
  simp only [CasePrioritizer.exposure, Adjustment.none, ge_iff_le]
  split_ifs <;> dsimp only <;> omega

/-- The exposure score of a larger amount is no smaller. -/
theorem CaseRiskClassifier.exposure_score_monotone (currency : String) {amount larger : ℤ}
    (hle : amount ≤ larger) :
    (CaseRiskClassifier.exposure amount currency).score ≤
      (CaseRiskClassifier.exposure larger currency).score := by
  simp only [CaseRiskClassifier.exposure, CaseRiskClassifier.HIGH_EXPOSURE_THRESHOLD,
    CaseRiskClassifier.MEDIUM_EXPOSURE_THRESHOLD, ge_iff_le]
  split_ifs <;> dsimp only <;> omega

/-- The time from the opening of a case to the clock. -/
def elapsed (openedAt asOf : Datetime) : ℤ := asOf.assumeUtc.instant - openedAt.assumeUtc.instant

/-- The age adjustment of an older case is no greater. -/
theorem CasePrioritizer.age_score_antitone {openedAt asOf openedAt' asOf' : Datetime}
    (hle : elapsed openedAt asOf ≤ elapsed openedAt' asOf') :
    (CasePrioritizer.age (some openedAt') asOf').score ≤
      (CasePrioritizer.age (some openedAt) asOf).score := by
  unfold elapsed at hle
  simp only [CasePrioritizer.age, Adjustment.none, ge_iff_le]
  split_ifs <;> dsimp only <;> omega

namespace TriageInput

variable (input : TriageInput)

/-- A higher score is in no lower tier. -/
theorem tierOf_severity_monotone (fraud : Bool) {low high : ℤ} (hle : low ≤ high) :
    (tierOf low fraud).severity ≤ (tierOf high fraud).severity := by
  simp only [tierOf, ge_iff_le]
  cases fraud with
  | true =>
    rw [if_pos (Or.inr rfl), if_pos (Or.inr rfl)]
  | false =>
    simp only [Bool.false_eq_true, or_false]
    split_ifs <;> first | decide | omega

/-- Two answers of the classifier, the second no lower than the first; a tier of the wrong type
raises in both. -/
inductive NoLower : Except Fault RiskTier → Except Fault RiskTier → Prop
  | ok {lower higher : RiskTier} (hle : lower.severity ≤ higher.severity) :
    NoLower (.ok lower) (.ok higher)
  | error (fault : Fault) : NoLower (.error fault) (.error fault)

/-- The same case with another amount. -/
def withAmount (amountMinor : ℤ) : TriageInput := { input with amountMinor }

/-- The same case, opened at another time and looked at by another clock. -/
def withTimes (openedAt asOf : Datetime) : TriageInput :=
  { input with openedAt := some openedAt, asOf }

/-- A larger amount is never less urgent. -/
theorem priority_withAmount_le (failureCode : Option String) {larger : ℤ}
    (hle : input.amountMinor ≤ larger) :
    (input.withAmount larger).priority failureCode ≤ input.priority failureCode := by
  have hexposure := CasePrioritizer.exposure_score_antitone input.currency hle
  rw [priority_eq, priority_eq]
  simp only [otherScore, withAmount]
  omega

/-- A larger amount is never in a lower tier. -/
theorem riskTier_withAmount (failureCode : Option String) {larger : ℤ}
    (hle : input.amountMinor ≤ larger) :
    NoLower (input.riskTier failureCode) ((input.withAmount larger).riskTier failureCode) := by
  have hexposure := CaseRiskClassifier.exposure_score_monotone input.currency hle
  rw [riskTier_eq, riskTier_eq]
  simp only [withAmount]
  rcases CaseRiskClassifier.tier input.customerTier with fault | segment
  · exact .error fault
  · apply NoLower.ok
    apply tierOf_severity_monotone
    simp only [List.sum_cons]
    omega

/-- An older case is never less urgent. -/
theorem priority_withTimes_le (failureCode : Option String) {openedAt asOf openedAt' asOf' : Datetime}
    (hle : elapsed openedAt asOf ≤ elapsed openedAt' asOf') :
    (input.withTimes openedAt' asOf').priority failureCode ≤
      (input.withTimes openedAt asOf).priority failureCode := by
  have hage := CasePrioritizer.age_score_antitone hle
  rw [priority_eq, priority_eq]
  simp only [otherScore, withTimes]
  omega

/-- Neither end of the scale is passed. -/
theorem priority_bounds (failureCode : Option String) :
    1 ≤ input.priority failureCode ∧ input.priority failureCode ≤ 1000 := by
  rw [priority_eq]
  omega

/-- Triage is monotone: more money is never less urgent nor in a lower tier, an older case is
never less urgent, and the priority stays on its scale. -/
theorem triage_monotone (failureCode : Option String) :
    (∀ larger, input.amountMinor ≤ larger →
        (input.withAmount larger).priority failureCode ≤ input.priority failureCode ∧
          NoLower (input.riskTier failureCode) ((input.withAmount larger).riskTier failureCode)) ∧
      (∀ openedAt asOf openedAt' asOf', elapsed openedAt asOf ≤ elapsed openedAt' asOf' →
        (input.withTimes openedAt' asOf').priority failureCode ≤
          (input.withTimes openedAt asOf).priority failureCode) ∧
      1 ≤ input.priority failureCode ∧ input.priority failureCode ≤ 1000 :=
  ⟨fun _ hle =>
      ⟨priority_withAmount_le input failureCode hle, riskTier_withAmount input failureCode hle⟩,
    fun _ _ _ _ hle => priority_withTimes_le input failureCode hle,
    priority_bounds input failureCode⟩

/-- A subscription payment of 100 dollars that failed for lack of funds. -/
def subscriptionFailure : TriageInput :=
  { amountMinor := 10000, currency := "USD", eventType := "SUBSCRIPTION_PAYMENT_FAILED"
    customerTier := .str "vip", openedAt := none, asOf := ⟨0, some 0⟩ }

/-- Fifty times the amount, and two days more. -/
theorem triage_monotone_subscriptionFailure :
    (subscriptionFailure.withAmount 500000).priority (some "insufficient_funds") ≤
        subscriptionFailure.priority (some "insufficient_funds") ∧
      (subscriptionFailure.withTimes ⟨0, some 0⟩ ⟨48 * Datetime.hour, some 0⟩).priority
          (some "insufficient_funds") ≤
        (subscriptionFailure.withTimes ⟨0, some 0⟩ ⟨0, some 0⟩).priority
          (some "insufficient_funds") :=
  ⟨((triage_monotone subscriptionFailure (some "insufficient_funds")).1 500000 (by decide)).1,
    (triage_monotone subscriptionFailure (some "insufficient_funds")).2.1 _ _ _ _ (by decide)⟩

end TriageInput

end RevenueRescue
