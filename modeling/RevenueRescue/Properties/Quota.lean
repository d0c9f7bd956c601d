import RevenueRescue.Properties.Retries
import RevenueRescue.Properties.RetryRule

/-!
# Two counts of one quota

The retry rule counts the payment retries that were not cancelled. The escalation rule is told
whether the quota is used up from a count of its own, whose second filter compares the status
with a member of another enumeration and so drops nothing. The counts differ by the cancelled
retries.
-/

namespace RevenueRescue

open Python RetryLimitEvaluator

/-- The payment retries that were cancelled. -/
def cancelledRetries (attempts : List RecoveryAttempt) : List RecoveryAttempt :=
  attempts.filter fun a => a.actionType == .RETRY_PAYMENT && a.status == .CANCELLED

namespace PolicyEngineService

/-- The flag that the escalation rule gets. -/
def priorRetriesExhausted (config : PolicyConfig) (attempts : List RecoveryAttempt) : Bool :=
  !config.canRetry (escalationAttempts attempts).length

/-- The retry rule's own count has used up the quota. -/
def QuotaUsedUp (config : PolicyConfig) (attempts : List RecoveryAttempt) : Prop :=
  config.maxRetryAttempts ≤ (consumed attempts).length

instance (config : PolicyConfig) (attempts : List RecoveryAttempt) :
    Decidable (QuotaUsedUp config attempts) := by
  unfold QuotaUsedUp; infer_instance

theorem length_escalationAttempts (attempts : List RecoveryAttempt) :
    (escalationAttempts attempts).length =
      (consumed attempts).length + (cancelledRetries attempts).length := by
  have hsplit := (escalationAttempts attempts).length_eq_length_filter_add
    fun a => a.status != RecoveryAttemptStatus.CANCELLED
  unfold escalationAttempts at hsplit ⊢
  rw [List.filter_filter, List.filter_filter] at hsplit
  rw [hsplit]
  unfold consumed cancelledRetries
  congr 2
  · apply List.filter_congr
    intro a _
    exact Bool.and_comm _ _
  · apply List.filter_congr
    intro a _
    rw [Bool.and_comm, bne, Bool.not_not]

theorem priorRetriesExhausted_iff (config : PolicyConfig) (attempts : List RecoveryAttempt) :
    priorRetriesExhausted config attempts = true ↔
      config.maxRetryAttempts ≤ (consumed attempts).length + (cancelledRetries attempts).length := by
  unfold priorRetriesExhausted PolicyConfig.canRetry
  rw [Bool.not_eq_true', decide_eq_false_iff_not, Nat.not_lt, length_escalationAttempts]

/-- A reason that a check does not give comes from the rest of the cascade. -/
theorem reasonCode_of_ite {c : Prop} [Decidable c] {refused rest : RuleCheckResult}
    {reasonCode : String} (hrefused : refused.reasonCode ≠ reasonCode)
    (h : (if c then refused else rest).reasonCode = reasonCode) : rest.reasonCode = reasonCode := by
  by_cases hc : c
  · rw [if_pos hc] at h
    exact absurd h hrefused
  · rw [if_neg hc] at h
    exact h

/-- The escalation rule reports an exhausted quota only when it is told so. -/
theorem exhausted_of_reported {config : PolicyConfig} {s : Store} {caseId : UUID}
    {case : RecoveryCase} {recommendation : AgentDecision}
    (h : (escalation config s caseId case recommendation).reasonCode = "RETRY_EXHAUSTED") :
    priorRetriesExhausted config (s.attemptsOf caseId) = true := by
  by_contra hleft
  unfold priorRetriesExhausted at hleft
  unfold escalation EscalationEvaluator.evaluate at h
  dsimp only at h
  replace h := reasonCode_of_ite (by simp [EscalationEvaluator.answer]) h
  replace h := reasonCode_of_ite (by simp [EscalationEvaluator.answer]) h
  rw [if_neg hleft] at h
  replace h := reasonCode_of_ite (by simp [EscalationEvaluator.answer]) h
  replace h := reasonCode_of_ite (by simp [EscalationEvaluator.answer]) h
  rcases hconfidence : recommendation.confidence with _ | confidence
  · rw [hconfidence] at h
    simp [EscalationEvaluator.answer] at h
  · rw [hconfidence] at h
    replace h := reasonCode_of_ite (by simp [EscalationEvaluator.answer]) h
    simp [EscalationEvaluator.answer] at h

/-- The flag of the policy and the quota of the retry rule say the same, so that the policy reports
an exhausted quota only after the retry rule has no retry left. -/
def QuotaAgrees (config : PolicyConfig) (s : Store) (caseId : UUID) (case : RecoveryCase)
    (recommendation : AgentDecision) : Prop :=
  (priorRetriesExhausted config (s.attemptsOf caseId) = true ↔
      QuotaUsedUp config (s.attemptsOf caseId)) ∧
    ((escalation config s caseId case recommendation).reasonCode = "RETRY_EXHAUSTED" →
      QuotaUsedUp config (s.attemptsOf caseId))

/-- The counts agree exactly when the cancelled retries do not make up for what is left of the
quota. -/
theorem quota_agrees_iff (config : PolicyConfig) (s : Store) (caseId : UUID) (case : RecoveryCase)
    (recommendation : AgentDecision) :
    QuotaAgrees config s caseId case recommendation ↔
      ¬((consumed (s.attemptsOf caseId)).length < config.maxRetryAttempts ∧
        config.maxRetryAttempts - (consumed (s.attemptsOf caseId)).length ≤
          (cancelledRetries (s.attemptsOf caseId)).length) := by
  have hflag := priorRetriesExhausted_iff config (s.attemptsOf caseId)
  unfold QuotaAgrees QuotaUsedUp
  constructor
  · rintro ⟨hagree, -⟩ ⟨hleft, hcancelled⟩
    have hused := hagree.mp (hflag.mpr (by omega))
    omega
  · intro hfew
    have hagree : priorRetriesExhausted config (s.attemptsOf caseId) = true ↔
        config.maxRetryAttempts ≤ (consumed (s.attemptsOf caseId)).length := by
      rw [hflag]
      omega
    exact ⟨hagree, fun hreported => hagree.mp (exhausted_of_reported hreported)⟩

end PolicyEngineService

namespace Sample

/-- A retry that was cancelled before it was sent. -/
def cancelledAttempt (number : ℕ) : RecoveryAttempt :=
  { undated with id := number, sequenceNumber := number, status := .CANCELLED
                 idempotencyKey := "retry-" ++ toString number }

/-- A retry is recommended for a failure with consent, after three cancelled ones. -/
def cancelledDb : Store :=
  { (World.empty.run .default [failure, consented, recommended]).db with
    attempts := [cancelledAttempt 1, cancelledAttempt 2, cancelledAttempt 3] }

end Sample

/-- Three cancelled retries send a case with its whole quota to an operator. -/
theorem cancelled_retries_exhaust_quota :
    ((PolicyEngineService.evaluate Sample.env .default ⟨0, 0, none, .SYSTEM, none, none⟩
        Sample.cancelledDb).map fun r => (r.1.decisionStatus,
          r.1.ruleResults.map RuleCheckResult.reasonCode)) =
      .ok (.REQUIRES_REVIEW, ["ELIGIBILITY_PASSED", "CONSENT_VALID", "RETRY_LIMIT_OK",
        "STRATEGY_VALID", "RETRY_EXHAUSTED"]) ∧
      PolicyEngineService.priorRetriesExhausted .default (Sample.cancelledDb.attemptsOf 0) = true ∧
      ¬PolicyEngineService.QuotaUsedUp .default (Sample.cancelledDb.attemptsOf 0) := by
  decide +kernel

end RevenueRescue
