import RevenueRescue.Domain.Models

/-!
# Safety policy

`SafetyPolicy`, the policy of the vertical workflow: it judges one proposed action from the facts
that its caller collected in a `PolicyContext`. Facts that the caller leaves out have a harmless
default, and the policy has no access to the rows.
-/

namespace RevenueRescue

open Python

namespace Safety

inductive PolicyOutcome where
  | ALLOW | REJECT | STOP | ESCALATE
  deriving DecidableEq, Repr

inductive PolicyReason where
  | ALLOWED | CASE_TERMINAL | TRANSACTION_ALREADY_SUCCEEDED | RETRY_LIMIT_REACHED
  | DUPLICATE_ATTEMPT | ACTION_NOT_PERMITTED | UNCERTAIN_OUTCOME_REQUIRES_VERIFICATION
  | MISSING_IDEMPOTENCY_KEY | CASE_STATE_NOT_ACTIONABLE
  deriving DecidableEq, Repr

def PolicyReason.value : PolicyReason → String
  | .ALLOWED => "allowed"
  | .CASE_TERMINAL => "case_terminal"
  | .TRANSACTION_ALREADY_SUCCEEDED => "transaction_already_succeeded"
  | .RETRY_LIMIT_REACHED => "retry_limit_reached"
  | .DUPLICATE_ATTEMPT => "duplicate_attempt"
  | .ACTION_NOT_PERMITTED => "action_not_permitted"
  | .UNCERTAIN_OUTCOME_REQUIRES_VERIFICATION => "uncertain_outcome_requires_verification"
  | .MISSING_IDEMPOTENCY_KEY => "missing_idempotency_key"
  | .CASE_STATE_NOT_ACTIONABLE => "case_state_not_actionable"

/-- The limits of one policy version; the actions form a set. -/
structure PolicyConfig where
  maxRetryAttempts : ℤ := 2
  allowedActions : List ActionType :=
    [.RETRY_PAYMENT, .SEND_REMINDER, .REQUEST_OPERATOR_REVIEW, .STOP]
  distinctActions : allowedActions.Nodup := by decide
  policyVersion : String := "phase6.v1"

/-- The facts about one proposed action. -/
structure PolicyContext where
  caseState : RecoveryCaseState
  transactionStatus : TransactionStatus
  action : ActionType
  retryAttemptCount : ℤ
  priorIdempotencyKeys : List String := []
  idempotencyKey : Option String := none
  hasUncertainAttempt : Bool := false
  deriving DecidableEq, Repr

structure PolicyDecision where
  outcome : PolicyOutcome
  reason : PolicyReason
  policyVersion : String
  retryAllowed : Bool := false
  shouldStop : Bool := false
  shouldEscalate : Bool := false
  deriving DecidableEq, Repr

/-- `_TERMINAL_STATES`. -/
def TERMINAL_STATES : List RecoveryCaseState := [.RECOVERED, .STOPPED, .CLOSED]

/-- `_ACTIONABLE_STATES`. -/
def ACTIONABLE_STATES : List RecoveryCaseState := [.AWAITING_DECISION, .RETRY_ELIGIBLE]

structure SafetyPolicy where
  config : PolicyConfig

namespace SafetyPolicy

variable (policy : SafetyPolicy)

/-- `_reject`. -/
def reject (reason : PolicyReason) : PolicyDecision :=
  { outcome := .REJECT, reason, policyVersion := policy.config.policyVersion }

/-- `_stop`. -/
def stop (reason : PolicyReason) : PolicyDecision :=
  { outcome := .STOP, reason, policyVersion := policy.config.policyVersion, shouldStop := true }

/-- The decision that hands the case to an operator. -/
def escalate (reason : PolicyReason) : PolicyDecision :=
  { outcome := .ESCALATE, reason, policyVersion := policy.config.policyVersion
    shouldEscalate := true }

/-- `SafetyPolicy.evaluate`. -/
def evaluate (context : PolicyContext) : PolicyDecision :=
  let retries := context.action = .RETRY_PAYMENT
  if context.caseState ∈ TERMINAL_STATES then policy.stop .CASE_TERMINAL
  else if context.transactionStatus = .SUCCEEDED then policy.stop .TRANSACTION_ALREADY_SUCCEEDED
  else if context.action ∉ policy.config.allowedActions then policy.reject .ACTION_NOT_PERMITTED
  else if retries ∧ context.caseState ∉ ACTIONABLE_STATES then
    policy.reject .CASE_STATE_NOT_ACTIONABLE
  else if retries ∧ policy.config.maxRetryAttempts ≤ context.retryAttemptCount then
    policy.escalate .RETRY_LIMIT_REACHED
  else if retries ∧ context.hasUncertainAttempt then
    policy.escalate .UNCERTAIN_OUTCOME_REQUIRES_VERIFICATION
  else if retries ∧ truthy context.idempotencyKey = false then
    policy.reject .MISSING_IDEMPOTENCY_KEY
  else if truthy context.idempotencyKey ∧
      context.idempotencyKey.any context.priorIdempotencyKeys.contains then
    policy.reject .DUPLICATE_ATTEMPT
  else
    { outcome := .ALLOW, reason := .ALLOWED, policyVersion := policy.config.policyVersion
      retryAllowed := decide retries }

end SafetyPolicy

end Safety

end RevenueRescue
