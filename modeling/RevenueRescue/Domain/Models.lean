import RevenueRescue.Base.Numbering
import RevenueRescue.Base.Python
import RevenueRescue.Base.Table
import RevenueRescue.Base.Transaction
import RevenueRescue.Domain.Enums

/-!
# Persistence models

The rows of the database and the store that holds them. Rows are never deleted, so a
table is an append-only list and a fresh primary key is the position of the new row.
The steps of a workflow are kept inside it, in the order of their `step_index`.

Inserting a row checks the unique constraints of its table, as the flush that sends the
row to the database does.
-/

namespace RevenueRescue

open Python

/-- A primary key: the position of the row in its table. -/
abbrev UUID : Type := ℕ

/-- `uuid.hex`. -/
def UUID.hex (id : UUID) : String := String.ofList (hexDigits 32 id)

/-- `str(uuid)`, in five groups. -/
def UUID.str (id : UUID) : String :=
  let digits := hexDigits 32 id
  let group := fun start width => (digits.drop start).take width
  String.ofList (group 0 8 ++ '-' :: group 8 4 ++ '-' :: group 12 4 ++ '-' :: group 16 4 ++
    '-' :: group 20 12)

/-- A code that matches `^[A-Z]{3}$`, as the request schemas and the check constraints demand. -/
def isCurrencyCode (code : String) : Bool :=
  code.toList.length == 3 && code.toList.all fun c => 'A' ≤ c && c ≤ 'Z'

/-- A three-letter upper-case currency code. -/
structure Currency where
  code : String
  wellFormed : isCurrencyCode code = true
  deriving DecidableEq, Repr

structure Customer where
  provider : String
  externalCustomerId : String
  email : Option String
  status : CustomerStatus
  metadataJson : Dict
  deriving Repr

structure CustomerConsent where
  id : UUID
  customerId : UUID
  consentType : ConsentType
  status : ConsentStatus
  merchantId : Option String
  grantedAt : Datetime
  revokedAt : Option Datetime
  expiresAt : Option Datetime
  source : String
  deriving DecidableEq, Repr

structure Transaction where
  customerId : UUID
  provider : String
  externalTransactionId : String
  amountMinor : ℕ
  currency : Currency
  status : TransactionStatus
  failureCode : Option String
  failureMessageSafe : Option String
  occurredAt : Datetime
  metadataJson : Dict
  deriving Repr

structure RecoveryCase where
  customerId : UUID
  triggerTransactionId : UUID
  caseKey : String
  state : RecoveryCaseState
  priority : ℤ
  openedAt : Datetime
  lastStateChangedAt : Datetime
  closedAt : Option Datetime
  version : ℕ
  metadataJson : Dict
  deriving Repr

structure RecoveryAttempt where
  id : UUID
  caseId : UUID
  sequenceNumber : ℕ
  status : RecoveryAttemptStatus
  actionType : ActionType
  startedAt : Option Datetime
  finishedAt : Option Datetime
  outcome : Option String
  providerReference : Option String
  idempotencyKey : String
  deriving DecidableEq, Repr

structure AgentDecision where
  caseId : UUID
  decisionVersion : ℕ
  actionType : ActionType
  reasonCode : String
  confidence : Option ℚ
  validationStatus : DecisionValidationStatus
  deriving DecidableEq, Repr

/-- The outcome of one policy rule. -/
structure RuleCheckResult where
  ruleName : String
  status : RuleCheckStatus
  reasonCode : String
  message : String
  details : Dict
  deriving Repr

structure PolicyDecision where
  caseId : UUID
  recommendationId : UUID
  proposedAction : ActionType
  decisionStatus : PolicyDecisionStatus
  policyVersion : String
  ruleResultsJson : List Json
  reasonsJson : List String
  actorType : ActorType
  idempotencyKey : Option String
  caseVersion : ℕ
  evaluatedAt : Datetime
  deriving Repr

structure AuditEvent where
  caseId : UUID
  eventType : String
  fromState : Option RecoveryCaseState
  toState : Option RecoveryCaseState
  actorType : ActorType
  eventTime : Datetime
  sequenceNumber : ℕ
  deriving DecidableEq, Repr

structure CaseStateTransition where
  caseId : UUID
  fromState : Option RecoveryCaseState
  toState : RecoveryCaseState
  reasonCode : String
  actorType : ActorType
  occurredAt : Datetime
  sequenceNumber : ℕ
  deriving DecidableEq, Repr

structure ProviderWebhookEvent where
  provider : String
  externalEventId : String
  eventType : String
  payloadHash : String
  signatureVerified : Bool
  processed : Bool
  payloadSafe : Dict
  ingestionStatus : String
  deriving Repr

structure WorkflowStep where
  stepIndex : ℕ
  stepType : WorkflowStepType
  status : WorkflowStepStatus
  idempotencyKey : String
  actionType : ActionType
  payloadJson : Dict
  errorMessage : Option String
  executedAt : Option Datetime
  deriving Repr

structure RecoveryWorkflow where
  caseId : UUID
  policyDecisionId : UUID
  status : WorkflowStatus
  strategy : String
  scheduledFor : Option Datetime
  expiresAt : Option Datetime
  steps : List WorkflowStep
  deriving Repr

structure RecoveryExecution where
  workflowId : UUID
  stepIndex : ℕ
  caseId : UUID
  provider : String
  externalReference : Option String
  status : ExecutionStatus
  amountMinor : ℤ
  currency : String
  idempotencyKey : String
  errorCode : Option String
  executedAt : Datetime
  deriving DecidableEq, Repr

/-- The committed rows of every table. -/
structure Store where
  customers : List Customer
  consents : List CustomerConsent
  transactions : List Transaction
  recoveryCases : List RecoveryCase
  attempts : List RecoveryAttempt
  decisions : List AgentDecision
  policyDecisions : List PolicyDecision
  auditEvents : List AuditEvent
  transitions : List CaseStateTransition
  webhookEvents : List ProviderWebhookEvent
  workflows : List RecoveryWorkflow
  executions : List RecoveryExecution
  deriving Repr

/-- The database right after its tables were created. -/
def Store.empty : Store := ⟨[], [], [], [], [], [], [], [], [], [], [], []⟩

/-- The constraints of the schema that an insert can violate. -/
inductive Constraint where
  | fk_consent_customer
  | uq_customer_provider_external
  | uq_transaction_provider_external
  | uq_recovery_case_key
  | uq_attempt_case_sequence
  | uq_attempt_idempotency_key
  | uq_audit_case_sequence
  | uq_transition_case_sequence
  | uq_provider_event
  | uq_step_idempotency_key
  | uq_recovery_execution_idempotency
  deriving DecidableEq, Repr

/-- The exceptions that end a request. -/
inductive Fault where
  | valueError (message : String)
  | keyError (key : String)
  | typeError
  | attributeError
  | overflowError
  | entityNotFound (entityName entityId : String)
  | duplicateEntity (entityName identifier : String)
  | invalidStateTransition (currentState targetState : String)
  | eventValidation (message field : String)
  | unsupportedEventType (eventType : String)
  | conflictingDuplicateEvent (eventId provider : String)
  | malformedRequest (message : String)
  | unauthorizedEventSource (message : String)
  | httpException (statusCode : ℕ) (detail : String)
  | integrityError (constraint : Constraint)
  | pipelineError
  | adapterError
  deriving DecidableEq, Repr

/-- The status code that a `RevenueRescueException` or an `HTTPException` is answered with; the
other exceptions have none. -/
def Fault.statusCode : Fault → Option ℕ
  | .entityNotFound _ _ => some 404
  | .duplicateEntity _ _ => some 409
  | .invalidStateTransition _ _ => some 400
  | .eventValidation _ _ => some 422
  | .unsupportedEventType _ => some 400
  | .conflictingDuplicateEvent _ _ => some 409
  | .malformedRequest _ => some 400
  | .unauthorizedEventSource _ => some 401
  | .httpException statusCode _ => some statusCode
  | _ => none

/-- A service method: it runs inside the transaction of its request. -/
abbrev Service : Type → Type := Tx Store Fault

/-- What the surroundings of one request supply: the clock, the `autoflush` setting of its
session and whether the process dies before the commit. -/
structure Env where
  now : Datetime
  autoflush : Bool
  crash : Bool
  deriving DecidableEq, Repr

end RevenueRescue
