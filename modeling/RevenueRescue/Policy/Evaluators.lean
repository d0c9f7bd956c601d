import Mathlib.Data.List.MinMax
import RevenueRescue.Base.Text
import RevenueRescue.Domain.Repositories
import RevenueRescue.Policy.Config

/-!
# Policy rule evaluators

The five rules of the policy engine: eligibility, consent, retry limit, strategy and
escalation. Each answers with a status, a reason code, a message and the details behind it.
Comparing a naive timestamp with an aware one raises, which the two rules that sort by
timestamps can run into.
-/

namespace RevenueRescue

open Python

namespace EligibilityEvaluator

def RULE_NAME : String := "case_eligibility_evaluation"

/-- An answer of this rule. -/
def answer (status : RuleCheckStatus) (reasonCode message : String) (details : Dict) :
    RuleCheckResult :=
  ⟨RULE_NAME, status, reasonCode, message, details⟩

/-- `EligibilityEvaluator.evaluate` on a loaded case and recommendation. The policy engine
passes the case's own customer and transaction, so those two checks cannot fail there. -/
def evaluate (caseId : UUID) (case : RecoveryCase) (recommendation : AgentDecision)
    (customerId expectedTransactionId : Option UUID) : RuleCheckResult :=
  let state : Dict := [("state", .str case.state.value)]
  if customerId.any (· ≠ case.customerId) then
    answer .FAILED "CUSTOMER_MISMATCH"
      "Case belongs to another customer; ownership boundary violated."
      [("case_customer_id", .str (UUID.str case.customerId)),
        ("expected_customer_id", .ofOption (customerId.map UUID.str))]
  else if expectedTransactionId.any (· ≠ case.triggerTransactionId) then
    answer .FAILED "TRANSACTION_MISMATCH"
      "Case is not associated with the specified trigger transaction."
      [("case_tx_id", .str (UUID.str case.triggerTransactionId)),
        ("expected_tx_id", .ofOption (expectedTransactionId.map UUID.str))]
  else if recommendation.caseId ≠ caseId then
    answer .FAILED "RECOMMENDATION_MISMATCH"
      "The proposed recommendation is associated with a different recovery case."
      [("case_id", .str (UUID.str caseId)),
        ("recommendation_case_id", .str (UUID.str recommendation.caseId))]
  else if recommendation.validationStatus ∈
      [DecisionValidationStatus.INVALID, .REJECTED_BY_POLICY] then
    answer .FAILED "RECOMMENDATION_STALE"
      "Recommendation has already been invalidated or rejected by policy."
      [("validation_status", .str recommendation.validationStatus.value)]
  else if (recommendation.decisionVersion : ℤ) < (case.version : ℤ) - 2 then
    answer .FAILED "RECOMMENDATION_STALE"
      "Recommendation version is outdated relative to recent case updates."
      [("recommendation_version", .int recommendation.decisionVersion),
        ("case_version", .int case.version)]
  else if case.state = .RECOVERED then
    answer .FAILED "CASE_ALREADY_RECOVERED"
      "Case has already been successfully recovered; further recovery is blocked." state
  else if case.state = .CLOSED then
    answer .FAILED "CASE_CLOSED"
      "Case has been closed; no new recovery action may be scheduled." state
  else if case.state = .STOPPED then
    answer .FAILED "CASE_CANCELLED" "Case was permanently stopped or cancelled." state
  else if case.state ∈ [RecoveryCaseState.ACTION_PENDING, .VERIFICATION_PENDING] then
    answer .FAILED "WORKFLOW_ALREADY_ACTIVE"
      ("Case currently has an active workflow in state " ++ case.state.value ++ ".") state
  else if case.state ∉ [RecoveryCaseState.AWAITING_DECISION, .RETRY_ELIGIBLE, .DETECTED] then
    answer .FAILED "CASE_NOT_ACTIONABLE"
      ("Case state " ++ case.state.value ++ " is not an actionable state.") state
  else
    answer .PASSED "ELIGIBILITY_PASSED"
      "Recovery case is valid, actionable, and aligned with recommendation."
      [("case_id", .str (UUID.str caseId)), ("case_state", .str case.state.value)]

end EligibilityEvaluator

/-- `CustomerConsentRecord.is_valid`; a naive timestamp is read as UTC. -/
def CustomerConsentRecord.isValid (consent : CustomerConsent) (atTime : Datetime) : Bool :=
  let past := fun t : Datetime => decide (t.assumeUtc.instant ≤ atTime.assumeUtc.instant)
  if consent.status ≠ .GRANTED then false
  else if consent.revokedAt.any past then false
  else if consent.expiresAt.any past then false
  else true

namespace ConsentValidator

def RULE_NAME : String := "customer_consent_validation"

/-- An answer of this rule. -/
def answer (status : RuleCheckStatus) (reasonCode message : String) (details : Dict) :
    RuleCheckResult :=
  ⟨RULE_NAME, status, reasonCode, message, details⟩

/-- `ConsentValidator._determine_required_consent`. -/
def determineRequiredConsent (actionType : ActionType) (communicationChannel : Option String) :
    Option ConsentType :=
  match actionType with
  | .RETRY_PAYMENT => some .RECURRING_BILLING
  | .SEND_REMINDER =>
    if lower (strip (firstTruthy communicationChannel "email")) = "sms" then
      some .COMMUNICATION_SMS
    else some .COMMUNICATION_EMAIL
  | _ => none

/-- `ConsentStatus.value`. -/
def consentStatusValue : ConsentStatus → String
  | .GRANTED => "granted"
  | .REVOKED => "revoked"
  | .EXPIRED => "expired"

/-- `ConsentValidator._ensure_utc`. -/
def ensureUtc (t : Datetime) : Datetime := ⟨t.instant, some 0⟩

/-- The verdict on the record that was granted last. Every path of the loop body returns, so
no later record is looked at. -/
def judge (requiredType : ConsentType) (now : Datetime) (candidate : CustomerConsent) :
    RuleCheckResult :=
  let nowUtc := now.assumeUtc.instant
  let revTime := candidate.revokedAt.getD candidate.grantedAt
  let revocation := revTime.assumeUtc.instant
  let revoked := (candidate.status = .REVOKED ∨ candidate.revokedAt.isSome) ∧ revocation ≤ nowUtc
  let expired := candidate.expiresAt.any fun t => t.assumeUtc.instant ≤ nowUtc
  if revoked then
    let moment := (ensureUtc revTime).isoformat
    answer .FAILED "CONSENT_REVOKED"
      ("Customer consent for " ++ requiredType.value ++ " was revoked on " ++ moment ++ ".")
      [("revoked_at", .str moment)]
  else if expired then
    let moment := (candidate.expiresAt.map fun t => (ensureUtc t).isoformat).getD ""
    answer .FAILED "CONSENT_EXPIRED"
      ("Customer consent for " ++ requiredType.value ++ " expired on " ++ moment ++ ".")
      [("expires_at", .str moment)]
  else if candidate.status ≠ .GRANTED then
    answer .FAILED ("CONSENT_STATUS_" ++ upper (consentStatusValue candidate.status))
      ("Consent record has non-active status: " ++ consentStatusValue candidate.status ++ ".") []
  else
    answer .PASSED "CONSENT_VALID"
      ("Legally active consent confirmed for " ++ requiredType.value ++ ".")
      [("consent_id", .str (UUID.str candidate.id)), ("consent_type", .str requiredType.value),
        ("source", .str candidate.source)]

/-- Whether sorting by the timestamp compares a naive with an aware one. -/
def mixedOffsets (times : List Datetime) : Bool :=
  times.any (·.utcoffset.isSome) && times.any (·.utcoffset.isNone)

/-- Whether a record may be used for the merchant, which comes from the customer's metadata
and may be any JSON value. -/
def forMerchant (merchantId : Json) (consent : CustomerConsent) : Bool :=
  match merchantId, consent.merchantId with
  | .null, _ => true
  | _, none => true
  | .str m, some bound => bound == m
  | _, some _ => false

/-- The most recently granted record first; equal instants keep their order. -/
def sortedByGrant (candidates : List CustomerConsent) : List CustomerConsent :=
  candidates.insertionSort fun a b => b.grantedAt.instant ≤ a.grantedAt.instant

/-- `ConsentValidator.evaluate`. -/
def evaluate (actionType : ActionType) (customerId : UUID) (consents : List CustomerConsent)
    (merchantId : Json) (communicationChannel : Option String) (evaluationTime : Datetime) :
    Except Fault RuleCheckResult :=
  match determineRequiredConsent actionType communicationChannel with
  | none =>
    .ok (answer .PASSED "NO_CONSENT_REQUIRED"
      ("Action " ++ actionType.value ++
        " is an internal/system action requiring no external consent.")
      [("action_type", .str actionType.value)])
  | some requiredType =>
    let matching := consents.filter fun c => c.customerId == customerId
    let ofType := matching.filter fun c => c.consentType == requiredType
    let candidates := ofType.filter (forMerchant merchantId)
    if matching.isEmpty && !consents.isEmpty then
      .ok (answer .FAILED "CONSENT_CUSTOMER_MISMATCH"
        "Consent records do not match the target customer identifier."
        [("target_customer_id", .str (UUID.str customerId))])
    else if ofType.isEmpty then
      .ok (answer .FAILED "CONSENT_MISSING"
        ("No consent record found for required consent type: " ++ requiredType.value ++ ".")
        [("required_consent_type", .str requiredType.value)])
    else if candidates.isEmpty then
      .ok (answer .FAILED "CONSENT_MERCHANT_MISMATCH"
        "Consent record is bound to a different merchant."
        [("target_merchant_id", merchantId)])
    else if mixedOffsets (candidates.map CustomerConsent.grantedAt) then .error .typeError
    else
      match sortedByGrant candidates with
      | [] =>
        .ok (answer .FAILED "CONSENT_MISSING"
          ("No valid consent available for " ++ requiredType.value ++ ".") [])
      | latest :: _ => .ok (judge requiredType evaluationTime latest)

end ConsentValidator

namespace RetryLimitEvaluator

def RULE_NAME : String := "retry_limit_evaluation"

/-- An answer of this rule. -/
def answer (status : RuleCheckStatus) (reasonCode message : String) (details : Dict) :
    RuleCheckResult :=
  ⟨RULE_NAME, status, reasonCode, message, details⟩

def NON_RETRYABLE_CATEGORIES : List String :=
  ["fraud_suspected", "stolen_card", "lost_card", "account_closed", "pickup_card",
    "restricted_card"]

/-- The payment retries that consume quota. -/
def consumed (attempts : List RecoveryAttempt) : List RecoveryAttempt :=
  attempts.filter fun a => a.actionType == .RETRY_PAYMENT && a.status != .CANCELLED

/-- `a.finished_at or a.started_at`. -/
def timestamp (attempt : RecoveryAttempt) : Option Datetime :=
  attempt.finishedAt <|> attempt.startedAt

/-- The key of the maximum below, with `datetime.min` in UTC for a missing timestamp. -/
def sortKey (attempt : RecoveryAttempt) : Datetime := (timestamp attempt).getD Datetime.minUtc

/-- The order of the keys, by an instance that can be executed. -/
scoped instance (priority := 1100) keyOrder : Preorder ℤ := instLatticeInt.toSemilatticeInf.toPreorder

/-- The timestamp of the most recent attempt: the first of those with the largest key. -/
def latestTime (attempts : List RecoveryAttempt) : Except Fault (Option Datetime) :=
  if ConsentValidator.mixedOffsets (attempts.map sortKey) then .error .typeError
  else .ok ((attempts.argmax fun a => (sortKey a).instant).bind timestamp)

/-- The first attempt with a status. -/
def withStatus (status : RecoveryAttemptStatus) (attempts : List RecoveryAttempt) :
    Option RecoveryAttempt :=
  attempts.find? fun a => a.status == status

/-- The id of the attempt that a rule refers to. -/
def idOf (attempt : Option RecoveryAttempt) : Json := .ofOption (attempt.map fun a => UUID.str a.id)

/-- `RetryLimitEvaluator.evaluate`. -/
def evaluate (actionType : ActionType) (attempts : List RecoveryAttempt) (config : PolicyConfig)
    (currentTime : Datetime) (proposedIdempotencyKey failureCategory : Option String) :
    Except Fault RuleCheckResult :=
  let prior := consumed attempts
  let normCat := lower (strip (failureCategory.getD ""))
  let key := proposedIdempotencyKey.getD ""
  let permitted := answer .PASSED "RETRY_LIMIT_OK"
    ("Retry permitted. " ++ toString prior.length ++ " of " ++ toString config.maxRetryAttempts ++
      " retries used.")
    [("prior_retry_count", .int prior.length), ("max_retry_attempts", .int config.maxRetryAttempts)]
  if actionType ≠ .RETRY_PAYMENT then
    .ok (answer .PASSED "NOT_A_RETRY_ACTION"
      ("Action " ++ actionType.value ++ " does not consume retry quota.")
      [("action_type", .str actionType.value)])
  else if failureCategory.any fun c => NON_RETRYABLE_CATEGORIES.contains (lower (strip c)) then
    .ok (answer .FAILED "RETRY_NOT_SUPPORTED"
      ("Failure category '" ++ normCat ++ "' is permanent and does not support retries.")
      [("failure_category", .str normCat)])
  else if truthy proposedIdempotencyKey &&
      attempts.any fun a => proposedIdempotencyKey == some a.idempotencyKey then
    .ok (answer .FAILED "DUPLICATE_RETRY_REQUEST"
      ("Attempt with idempotency key '" ++ key ++ "' has already been processed.")
      [("idempotency_key", .str key)])
  else if attempts.any fun a => a.status == .SUCCEEDED then
    .ok (answer .FAILED "PREVIOUS_ATTEMPT_SUCCEEDED"
      "A previous recovery attempt already succeeded; cannot retry."
      [("successful_attempt_id", idOf (withStatus .SUCCEEDED attempts))])
  else if attempts.any fun a => a.status == .STARTED then
    .ok (answer .FAILED "RETRY_ALREADY_IN_PROGRESS"
      "Another recovery attempt is currently in progress."
      [("in_progress_attempt_id", idOf (withStatus .STARTED attempts))])
  else if attempts.any fun a => a.status == .UNCERTAIN then
    .ok (answer .NEEDS_REVIEW "PREVIOUS_OUTCOME_UNKNOWN"
      "A prior attempt resulted in an uncertain outcome; operator verification required."
      [("uncertain_attempt_id", idOf (withStatus .UNCERTAIN attempts))])
  else if !config.canRetry prior.length then
    .ok (answer .FAILED "RETRY_LIMIT_EXCEEDED"
      ("Case has executed " ++ toString prior.length ++ " retries; maximum allowed is " ++
        toString config.maxRetryAttempts ++ ".")
      [("prior_retry_count", .int prior.length), ("max_retry_attempts", .int config.maxRetryAttempts),
        ("max_total_attempts", .int config.maxTotalAttempts)])
  else do
    match ← latestTime prior with
    | some latest =>
      if config.isCooldownElapsed latest currentTime then pure permitted
      else
        pure (answer .FAILED "RETRY_COOLDOWN_ACTIVE"
          ("Cooldown active; minimum " ++ toString config.retryCooldownHours ++
            " hours required between retries.")
          [("latest_attempt_at", .str latest.isoformat),
            ("retry_cooldown_hours", .int config.retryCooldownHours)])
    | none => pure permitted

end RetryLimitEvaluator

/-- `RecoveryStrategy`. -/
inductive RecoveryStrategy where
  | RETRY_LATER | UPDATE_PAYMENT_METHOD | CUSTOMER_REMINDER | SUPPORT_ESCALATION | MANUAL_REVIEW
  | NO_ACTION
  deriving DecidableEq, Repr

def RecoveryStrategy.value : RecoveryStrategy → String
  | .RETRY_LATER => "RETRY_LATER"
  | .UPDATE_PAYMENT_METHOD => "UPDATE_PAYMENT_METHOD"
  | .CUSTOMER_REMINDER => "CUSTOMER_REMINDER"
  | .SUPPORT_ESCALATION => "SUPPORT_ESCALATION"
  | .MANUAL_REVIEW => "MANUAL_REVIEW"
  | .NO_ACTION => "NO_ACTION"

/-- `StrategyCatalog.map_to_strategy`. -/
def StrategyCatalog.mapToStrategy : ActionType → RecoveryStrategy
  | .RETRY_PAYMENT => .RETRY_LATER
  | .SEND_REMINDER => .UPDATE_PAYMENT_METHOD
  | .REQUEST_OPERATOR_REVIEW => .MANUAL_REVIEW
  | .STOP => .NO_ACTION
  | .NONE => .NO_ACTION

/-- `StrategyCatalog.map_to_action`. -/
def StrategyCatalog.mapToAction : RecoveryStrategy → ActionType
  | .RETRY_LATER => .RETRY_PAYMENT
  | .UPDATE_PAYMENT_METHOD | .CUSTOMER_REMINDER => .SEND_REMINDER
  | .SUPPORT_ESCALATION | .MANUAL_REVIEW => .REQUEST_OPERATOR_REVIEW
  | .NO_ACTION => .STOP

namespace StrategyValidator

def RULE_NAME : String := "strategy_policy_validation"

/-- An answer of this rule. -/
def answer (status : RuleCheckStatus) (reasonCode message : String) (details : Dict) :
    RuleCheckResult :=
  ⟨RULE_NAME, status, reasonCode, message, details⟩

/-- The failure categories the catalogue lists for `RETRY_LATER`. -/
def retryLaterCategories : List String :=
  ["insufficient_funds", "processing_error", "provider_timeout", "network_error"]

/-- `StrategyValidator.evaluate` on a resolved strategy. -/
def evaluate (strategy : RecoveryStrategy) (failureCategory : Option String)
    (caseState : RecoveryCaseState) (hasContactInfo isRetryable : Bool) : RuleCheckResult :=
  let category := lower (strip (failureCategory.getD ""))
  if caseState.isTerminal ∧ strategy ≠ .NO_ACTION then
    answer .FAILED "STRATEGY_CASE_STATE_MISMATCH"
      ("Actionable strategy " ++ strategy.value ++ " cannot be applied to terminal case (" ++
        caseState.value ++ ").")
      [("case_state", .str caseState.value), ("strategy", .str strategy.value)]
  else if strategy ∈ [RecoveryStrategy.NO_ACTION, .MANUAL_REVIEW] then
    answer .PASSED "STRATEGY_VALID"
      (if strategy = .NO_ACTION then "NO_ACTION strategy is safe and permitted."
        else "MANUAL_REVIEW strategy is permitted.")
      [("strategy", .str strategy.value)]
  else if strategy ∈ [RecoveryStrategy.UPDATE_PAYMENT_METHOD, .CUSTOMER_REMINDER] ∧
      ¬hasContactInfo then
    answer .FAILED "STRATEGY_PREREQUISITE_MISSING"
      ("Strategy " ++ strategy.value ++ " requires customer contact info, which is unavailable.")
      [("strategy", .str strategy.value), ("missing_prerequisite", .str "customer_contact_info")]
  else if strategy = .RETRY_LATER ∧ category ≠ "" ∧ category ∉ retryLaterCategories ∧
      ¬isRetryable then
    answer .FAILED "STRATEGY_FAILURE_MISMATCH"
      ("Retry strategy is incompatible with non-retryable failure category '" ++ category ++ "'.")
      [("strategy", .str strategy.value), ("failure_category", .str category)]
  else if strategy = .UPDATE_PAYMENT_METHOD ∧
      category ∈ ["provider_timeout", "network_error"] then
    answer .FAILED "STRATEGY_FAILURE_MISMATCH"
      ("Update payment method strategy is inappropriate for transient error '" ++ category ++ "'.")
      [("strategy", .str strategy.value), ("failure_category", .str category)]
  else
    answer .PASSED "STRATEGY_VALID"
      ("Strategy " ++ strategy.value ++ " is approved and compatible with case context.")
      [("strategy", .str strategy.value),
        ("action_type", .str (StrategyCatalog.mapToAction strategy).value)]

end StrategyValidator

namespace EscalationEvaluator

def RULE_NAME : String := "escalation_policy_evaluation"

/-- An answer of this rule. -/
def answer (status : RuleCheckStatus) (reasonCode message : String) (details : Dict) :
    RuleCheckResult :=
  ⟨RULE_NAME, status, reasonCode, message, details⟩

def FRAUD_CATEGORIES : List String :=
  ["fraud_suspected", "stolen_card", "lost_card", "pickup_card", "restricted_card",
    "security_violation"]

/-- The confidence below which the recommendation goes to an operator, `0.60`. -/
def minConfidenceThreshold : ℚ := 3 / 5

/-- `EscalationEvaluator.evaluate`, with the two flags the policy engine leaves at `False`. -/
def evaluate (amountMinor : ℕ) (currency : String) (config : PolicyConfig)
    (aiConfidence : Option ℚ) (failureCategory : Option String)
    (priorRetriesExhausted hasUncertainOutcome : Bool) : RuleCheckResult :=
  let category := lower (strip (failureCategory.getD ""))
  if category ∈ FRAUD_CATEGORIES then
    answer .NEEDS_REVIEW "FRAUD_RESTRICTION"
      "Case flagged for suspected fraud or security restrictions; mandatory human review."
      [("fraud_suspected", .bool false), ("failure_category", .str category)]
  else if config.isHighValue amountMinor currency then
    let threshold := config.getHighValueThreshold currency
    answer .NEEDS_REVIEW "HIGH_VALUE_REVIEW_REQUIRED"
      ("Exposure of " ++ toString amountMinor ++ " " ++ currency ++
        " exceeds high-value threshold of " ++ toString threshold ++ " minor units.")
      [("amount_minor", .int amountMinor), ("currency", .str currency),
        ("threshold_minor", .int threshold)]
  else if priorRetriesExhausted then
    answer .NEEDS_REVIEW "RETRY_EXHAUSTED"
      "All automated retry attempts have been exhausted; operator review required."
      [("prior_retries_exhausted", .bool true)]
  else if hasUncertainOutcome then
    answer .NEEDS_REVIEW "PAYMENT_OUTCOME_UNCERTAIN"
      "Previous attempt outcome is indeterminate; operator verification required."
      [("has_uncertain_outcome", .bool true)]
  else if category = "" ∨ category ∈ ["unknown", "unknown_failure"] then
    answer .NEEDS_REVIEW "UNKNOWN_FAILURE_CATEGORY"
      "Decline category could not be determined; operator review required."
      [("failure_category", .str (if category = "" then "missing" else category))]
  else
    match aiConfidence with
    | none =>
      answer .MISSING_INFO "AI_CONFIDENCE_MISSING"
        "AI recommendation confidence score is missing; cannot reliably authorize." []
    | some confidence =>
      if confidence < minConfidenceThreshold then
        answer .NEEDS_REVIEW "LOW_AI_CONFIDENCE"
          ("AI recommendation confidence (" ++ fixed2 confidence ++
            ") is below minimum threshold (" ++ fixed2 minConfidenceThreshold ++ ").")
          [("confidence", .float confidence), ("threshold", .float minConfidenceThreshold)]
      else
        answer .PASSED "NO_ESCALATION_REQUIRED"
          "No escalation triggers detected; action may proceed to authorization."
          [("amount_minor", .int amountMinor), ("currency", .str currency),
            ("confidence", .float confidence)]

end EscalationEvaluator

end RevenueRescue
