import Mathlib.Logic.Basic

/-!
# Domain enumerations

The vocabulary shared by persistence and the services, with the persisted value of each
member where the program shows or compares it.
-/

namespace RevenueRescue

inductive CustomerStatus where
  | ACTIVE | INACTIVE | RESTRICTED
  deriving DecidableEq, Repr

inductive TransactionStatus where
  | CREATED | AUTHORIZED | SUCCEEDED | FAILED | PENDING | CANCELLED | REFUNDED | UNKNOWN
  deriving DecidableEq, Repr

inductive RecoveryCaseState where
  | DETECTED | CONTEXT_READY | AWAITING_DECISION | ACTION_PENDING | VERIFICATION_PENDING
  | RECOVERED | RETRY_ELIGIBLE | ESCALATED | STOPPED | CLOSED
  deriving DecidableEq, Repr

def RecoveryCaseState.value : RecoveryCaseState → String
  | .DETECTED => "detected"
  | .CONTEXT_READY => "context_ready"
  | .AWAITING_DECISION => "awaiting_decision"
  | .ACTION_PENDING => "action_pending"
  | .VERIFICATION_PENDING => "verification_pending"
  | .RECOVERED => "recovered"
  | .RETRY_ELIGIBLE => "retry_eligible"
  | .ESCALATED => "escalated"
  | .STOPPED => "stopped"
  | .CLOSED => "closed"

/-- `RecoveryCaseState(text)`, `none` where no member has this value. -/
def RecoveryCaseState.ofValue (text : String) : Option RecoveryCaseState :=
  [DETECTED, CONTEXT_READY, AWAITING_DECISION, ACTION_PENDING, VERIFICATION_PENDING, RECOVERED,
    RETRY_ELIGIBLE, ESCALATED, STOPPED, CLOSED].find? fun state => state.value == text

/-- `TERMINAL_STATES`, the resolved or stopped states of the case engine and the case service. -/
def RecoveryCaseState.isTerminal : RecoveryCaseState → Bool
  | .RECOVERED | .STOPPED | .CLOSED => true
  | _ => false

inductive RecoveryAttemptStatus where
  | PLANNED | STARTED | SUCCEEDED | FAILED | UNCERTAIN | CANCELLED
  deriving DecidableEq, Repr

inductive ActionType where
  | NONE | RETRY_PAYMENT | SEND_REMINDER | REQUEST_OPERATOR_REVIEW | STOP
  deriving DecidableEq, Repr

def ActionType.value : ActionType → String
  | .NONE => "none"
  | .RETRY_PAYMENT => "retry_payment"
  | .SEND_REMINDER => "send_reminder"
  | .REQUEST_OPERATOR_REVIEW => "request_operator_review"
  | .STOP => "stop"

inductive DecisionValidationStatus where
  | NOT_VALIDATED | VALID | INVALID | REJECTED_BY_POLICY
  deriving DecidableEq, Repr

def DecisionValidationStatus.value : DecisionValidationStatus → String
  | .NOT_VALIDATED => "not_validated"
  | .VALID => "valid"
  | .INVALID => "invalid"
  | .REJECTED_BY_POLICY => "rejected_by_policy"

inductive ActorType where
  | SYSTEM | OPERATOR | AGENT | PROVIDER | USER | TEST
  deriving DecidableEq, Repr

/-- `CanonicalEventType`, whose members the events carry as strings. -/
inductive CanonicalEventType where
  | PAYMENT_FAILED | PAYMENT_SUCCEEDED | SUBSCRIPTION_PAYMENT_FAILED | CHECKOUT_ABANDONED
  | INVOICE_OVERDUE
  deriving DecidableEq, Repr

def CanonicalEventType.value : CanonicalEventType → String
  | .PAYMENT_FAILED => "PAYMENT_FAILED"
  | .PAYMENT_SUCCEEDED => "PAYMENT_SUCCEEDED"
  | .SUBSCRIPTION_PAYMENT_FAILED => "SUBSCRIPTION_PAYMENT_FAILED"
  | .CHECKOUT_ABANDONED => "CHECKOUT_ABANDONED"
  | .INVOICE_OVERDUE => "INVOICE_OVERDUE"

inductive FailureCategory where
  | INSUFFICIENT_FUNDS | CARD_EXPIRED | AUTHENTICATION_REQUIRED | DO_NOT_HONOR | GENERIC_DECLINE
  | PROCESSING_ERROR | FRAUD_SUSPECTED | ABANDONED | OVERDUE | UNKNOWN
  deriving DecidableEq, Repr

def FailureCategory.value : FailureCategory → String
  | .INSUFFICIENT_FUNDS => "insufficient_funds"
  | .CARD_EXPIRED => "card_expired"
  | .AUTHENTICATION_REQUIRED => "authentication_required"
  | .DO_NOT_HONOR => "do_not_honor"
  | .GENERIC_DECLINE => "generic_decline"
  | .PROCESSING_ERROR => "processing_error"
  | .FRAUD_SUSPECTED => "fraud_suspected"
  | .ABANDONED => "abandoned"
  | .OVERDUE => "overdue"
  | .UNKNOWN => "unknown"

inductive RiskTier where
  | HIGH | MEDIUM | LOW
  deriving DecidableEq, Repr

def RiskTier.value : RiskTier → String
  | .HIGH => "high"
  | .MEDIUM => "medium"
  | .LOW => "low"

inductive ConsentType where
  | RECURRING_BILLING | COMMUNICATION_EMAIL | COMMUNICATION_SMS
  deriving DecidableEq, Repr

def ConsentType.value : ConsentType → String
  | .RECURRING_BILLING => "recurring_billing"
  | .COMMUNICATION_EMAIL => "communication_email"
  | .COMMUNICATION_SMS => "communication_sms"

inductive ConsentStatus where
  | GRANTED | REVOKED | EXPIRED
  deriving DecidableEq, Repr

inductive PolicyDecisionStatus where
  | APPROVED | REJECTED | REQUIRES_REVIEW | INSUFFICIENT_INFORMATION
  deriving DecidableEq, Repr

inductive RuleCheckStatus where
  | PASSED | FAILED | NEEDS_REVIEW | MISSING_INFO
  deriving DecidableEq, Repr

def RuleCheckStatus.value : RuleCheckStatus → String
  | .PASSED => "passed"
  | .FAILED => "failed"
  | .NEEDS_REVIEW => "needs_review"
  | .MISSING_INFO => "missing_info"

/-- `RuleCheckStatus(text)`, `none` where no member has this value. -/
def RuleCheckStatus.ofValue (text : String) : Option RuleCheckStatus :=
  [PASSED, FAILED, NEEDS_REVIEW, MISSING_INFO].find? fun status => status.value == text

theorem RuleCheckStatus.ofValue_value (status : RuleCheckStatus) :
    ofValue status.value = some status := by
  cases status <;> decide

inductive WorkflowStatus where
  | CREATED | PENDING | SCHEDULED | RUNNING | WAITING | COMPLETED | FAILED | CANCELLED | EXPIRED
  | REQUIRES_REVIEW
  deriving DecidableEq, Repr

inductive WorkflowStepType where
  | VALIDATE_AUTHORIZATION | WAIT_COOLDOWN | DISPATCH_PAYMENT_RETRY | DISPATCH_COMMUNICATION
  | CREATE_SUPPORT_TASK | AWAIT_VERIFICATION
  deriving DecidableEq, Repr

inductive WorkflowStepStatus where
  | PENDING | SCHEDULED | RUNNING | WAITING | COMPLETED | FAILED | CANCELLED | SKIPPED
  deriving DecidableEq, Repr

inductive ExecutionStatus where
  | SUBMITTED | SUCCEEDED | FAILED | PENDING | UNKNOWN | CANCELLED
  deriving DecidableEq, Repr

inductive ReconciliationStatus where
  | MATCHED | DISCREPANCY_DETECTED | RESOLVED | ESCALATED
  deriving DecidableEq, Repr

end RevenueRescue
