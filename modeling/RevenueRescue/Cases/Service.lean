import RevenueRescue.Domain.Repositories

/-!
# Case services

The operator's view of a case (`RecoveryCaseService`), the table-driven
`CaseTransitionService`, and the detector that opens a case for a stored transaction
(`RiskCaseService`). The two transition services guard a move differently: the first only
excludes terminal cases and identity moves, the second consults `_ALLOWED_TRANSITIONS`.
-/

namespace RevenueRescue

open Python

namespace RecoveryCaseService

/-- `RecoveryCaseCreateDTO`. -/
structure RecoveryCaseCreateDTO where
  customerId : UUID
  triggerTransactionId : UUID
  caseKey : Option String
  priority : ℤ
  metadata : Dict

/-- `RecoveryCaseMapper.to_entity`; a missing key is made from a fresh `uuid4`. -/
def toEntity (env : Env) (uuid4 : UUID) (dto : RecoveryCaseCreateDTO) : RecoveryCase :=
  { customerId := dto.customerId
    triggerTransactionId := dto.triggerTransactionId
    caseKey := firstTruthy dto.caseKey
      ("CASE-" ++ upper (String.ofList ((UUID.hex uuid4).toList.take 12)))
    state := .DETECTED
    priority := dto.priority
    openedAt := env.now.naive
    lastStateChangedAt := env.now.naive
    closedAt := none
    version := 1
    metadataJson := dto.metadata }

/-- `RecoveryCaseService.create_case`. -/
def createCase (env : Env) (uuid4 : UUID) (dto : RecoveryCaseCreateDTO) : Service UUID := do
  let s ← get
  if (s.customers[dto.customerId]?).isNone then
    throw (.entityNotFound "Customer" (UUID.str dto.customerId))
  if (s.transactions[dto.triggerTransactionId]?).isNone then
    throw (.entityNotFound "Transaction" (UUID.str dto.triggerTransactionId))
  if (s.caseByTriggerTransaction dto.triggerTransactionId).isSome then
    throw (.duplicateEntity "RecoveryCase" ("trigger_tx:" ++ UUID.str dto.triggerTransactionId))
  if dto.caseKey.any fun key => (s.caseByKey key).isSome then
    throw (.duplicateEntity "RecoveryCase" (dto.caseKey.getD ""))
  let caseId ← insertCase (toEntity env uuid4 dto)
  AuditEventRepository.record env caseId "CASE_OPENED" .SYSTEM none (some .DETECTED)
  return caseId

/-- `CaseStateTransitionDTO`. -/
structure CaseStateTransitionDTO where
  toState : RecoveryCaseState
  reasonCode : String
  actorType : ActorType

/-- The case fields that an explicit transition rewrites. -/
def applyTransition (env : Env) (toState : RecoveryCaseState) (case : RecoveryCase) :
    RecoveryCase :=
  { case with
    state := toState
    lastStateChangedAt := env.now.naive
    version := case.version + 1
    closedAt := if toState.isTerminal then some env.now.naive else case.closedAt }

/-- `RecoveryCaseService.transition_state`. -/
def transitionState (env : Env) (caseId : UUID) (transition : CaseStateTransitionDTO) :
    Service Unit := do
  let s ← get
  match s.recoveryCases[caseId]? with
  | none => throw (.entityNotFound "RecoveryCase" (UUID.str caseId))
  | some case =>
    if case.state.isTerminal ∨ case.state = transition.toState then
      throw (.invalidStateTransition case.state.value transition.toState.value)
    else do
      modify fun s => s.modifyCase caseId (applyTransition env transition.toState)
      insertTransition
        { caseId, fromState := some case.state, toState := transition.toState
          reasonCode := transition.reasonCode, actorType := transition.actorType
          occurredAt := env.now.naive, sequenceNumber := s.nextTransitionNumber caseId }
      AuditEventRepository.record env caseId "STATE_TRANSITION" transition.actorType
        (some case.state) (some transition.toState)

/-- `RecoveryCaseUpdateDTO`. -/
structure RecoveryCaseUpdateDTO where
  priority : Option ℤ
  metadata : Option Dict

/-- The metadata keys an operator cannot edit. -/
def restrictedKeys : List String :=
  ["id", "customer_id", "trigger_transaction_id", "case_key", "amount_minor", "currency",
    "recovered_amount_minor", "version"]

/-- The edits that remain after the restricted keys are dropped. -/
def cleanUpdates (metadata : Dict) : Dict :=
  metadata.filter fun entry => !restrictedKeys.contains entry.1

/-- The case fields that an operator's update rewrites. -/
def applyUpdate (env : Env) (dto : RecoveryCaseUpdateDTO) (case : RecoveryCase) :
    RecoveryCase :=
  { case with
    priority := dto.priority.getD case.priority
    metadataJson := Dict.update case.metadataJson (cleanUpdates (dto.metadata.getD []))
    lastStateChangedAt := env.now.naive
    version := case.version + 1 }

/-- `RecoveryCaseService.update_case`. -/
def updateCase (env : Env) (caseId : UUID) (dto : RecoveryCaseUpdateDTO)
    (actorId : Option String) : Service Unit := do
  let s ← get
  match s.recoveryCases[caseId]? with
  | none => throw (.entityNotFound "RecoveryCase" (UUID.str caseId))
  | some case =>
    if case.state.isTerminal then
      throw (.invalidStateTransition case.state.value "UPDATE_REJECTED")
    else if dto.priority.any (· ≠ case.priority) ∨ dto.metadata.isSome then do
      modify fun s => s.modifyCase caseId (applyUpdate env dto)
      AuditEventRepository.record env caseId "CASE_UPDATED"
        (if truthy actorId then .OPERATOR else .SYSTEM) (some case.state) (some case.state)
    else pure ()

end RecoveryCaseService

namespace CaseTransitionService

/-- `_ALLOWED_TRANSITIONS`. -/
def ALLOWED_TRANSITIONS : RecoveryCaseState → List RecoveryCaseState
  | .DETECTED => [.CONTEXT_READY, .ESCALATED, .STOPPED]
  | .CONTEXT_READY => [.AWAITING_DECISION, .ESCALATED]
  | .AWAITING_DECISION => [.ACTION_PENDING, .ESCALATED, .STOPPED]
  | .ACTION_PENDING => [.VERIFICATION_PENDING, .ESCALATED, .STOPPED]
  | .VERIFICATION_PENDING => [.RECOVERED, .RETRY_ELIGIBLE, .ESCALATED]
  | .RETRY_ELIGIBLE => [.ACTION_PENDING, .ESCALATED, .STOPPED]
  | .RECOVERED => [.CLOSED]
  | .ESCALATED => [.CLOSED]
  | .STOPPED => [.CLOSED]
  | .CLOSED => []

structure TransitionResult where
  caseId : UUID
  fromState : RecoveryCaseState
  toState : RecoveryCaseState
  sequenceNumber : ℕ
  reasonCode : String
  deriving DecidableEq, Repr

/-- The case fields that a transition rewrites. -/
def applyTransition (env : Env) (toState : RecoveryCaseState) (case : RecoveryCase) :
    RecoveryCase :=
  { case with
    state := toState
    version := case.version + 1
    lastStateChangedAt := env.now.naive
    closedAt := if toState = .CLOSED then some env.now.naive else case.closedAt }

/-- `CaseTransitionService.transition`, on a case the caller has loaded. -/
def transition (env : Env) (caseId : UUID) (toState : RecoveryCaseState) (reasonCode : String)
    (actorType : ActorType) : Service TransitionResult := do
  let s ← get
  match s.recoveryCases[caseId]? with
  | none => throw (.valueError ("RecoveryCase not found: " ++ UUID.str caseId))
  | some case =>
    if toState ∈ ALLOWED_TRANSITIONS case.state then do
      -- one number for both logs
      let sequence := s.nextTransitionNumber caseId
      modify fun s => s.modifyCase caseId (applyTransition env toState)
      insertTransition
        { caseId, fromState := some case.state, toState, reasonCode, actorType
          occurredAt := env.now.naive, sequenceNumber := sequence }
      insertAudit
        { caseId, eventType := "case." ++ toState.value, fromState := some case.state
          toState := some toState, actorType, eventTime := env.now.naive
          sequenceNumber := sequence }
      return ⟨caseId, case.state, toState, sequence, reasonCode⟩
    else
      throw (.valueError
        ("invalid recovery transition: " ++ case.state.value ++ " -> " ++ toState.value))

end CaseTransitionService

namespace RiskCaseService

inductive RiskReason where
  | PAYMENT_FAILED | PAYMENT_PENDING_TOO_LONG | PAYMENT_STATUS_UNKNOWN
  | TRANSACTION_ALREADY_SUCCEEDED | TRANSACTION_NOT_AT_RISK | MISSING_CUSTOMER_CONTEXT
  deriving DecidableEq, Repr

inductive RiskSeverity where
  | HIGH | MEDIUM | LOW | NONE
  deriving DecidableEq, Repr

/-- `RevenueRiskDetector._is_stale` with the default threshold of one day. -/
def isStale (occurredAt asOf : Datetime) : Bool :=
  decide (occurredAt.assumeUtc.instant ≤ asOf.instant - 24 * Datetime.hour)

/-- The reasons and the severity a transaction's status gives rise to. -/
def classify (transaction : Transaction) (evaluatedAt : Datetime) :
    List RiskReason × RiskSeverity :=
  match transaction.status with
  | .FAILED => ([.PAYMENT_FAILED], .HIGH)
  | .PENDING =>
    if isStale transaction.occurredAt evaluatedAt then ([.PAYMENT_PENDING_TOO_LONG], .MEDIUM)
    else ([], .NONE)
  | .UNKNOWN => ([.PAYMENT_STATUS_UNKNOWN], .MEDIUM)
  | .SUCCEEDED => ([.TRANSACTION_ALREADY_SUCCEEDED], .NONE)
  | _ => ([.TRANSACTION_NOT_AT_RISK], .NONE)

/-- Whether the reasons put revenue at risk. -/
def isAtRisk (reasons : List RiskReason) : Bool :=
  reasons.any fun r =>
    r ∈ [.PAYMENT_FAILED, .PAYMENT_PENDING_TOO_LONG, .PAYMENT_STATUS_UNKNOWN]

/-- `RiskCaseService.case_key`. -/
def caseKey (transaction : Transaction) : String :=
  transaction.provider ++ ":transaction:" ++ transaction.externalTransactionId ++ ":revenue-risk"

/-- `RiskCaseService._priority`. -/
def priority : RiskSeverity → ℤ
  | .HIGH => 100
  | .MEDIUM => 70
  | .LOW => 40
  | .NONE => 0

def RiskReason.value : RiskReason → String
  | .PAYMENT_FAILED => "payment_failed"
  | .PAYMENT_PENDING_TOO_LONG => "payment_pending_too_long"
  | .PAYMENT_STATUS_UNKNOWN => "payment_status_unknown"
  | .TRANSACTION_ALREADY_SUCCEEDED => "transaction_already_succeeded"
  | .TRANSACTION_NOT_AT_RISK => "transaction_not_at_risk"
  | .MISSING_CUSTOMER_CONTEXT => "missing_customer_context"

def RiskSeverity.value : RiskSeverity → String
  | .HIGH => "high"
  | .MEDIUM => "medium"
  | .LOW => "low"
  | .NONE => "none"

/-- `RiskCaseService.detect_and_create_case`; the result says whether a case was created. -/
def detectAndCreateCase (env : Env) (transactionId : UUID) : Service (Option (UUID × Bool)) := do
  let s ← get
  match s.transactions[transactionId]? with
  | none => throw .attributeError
  | some transaction =>
    let (reasons, severity) := classify transaction env.now
    if isAtRisk reasons then
      match s.caseByKey (caseKey transaction) with
      | some (existingId, _) => pure (some (existingId, false))
      | none => do
        let missing := (s.customers[transaction.customerId]?).isNone
        let allReasons := if missing then reasons ++ [.MISSING_CUSTOMER_CONTEXT] else reasons
        let caseId ← insertCase
          { customerId := transaction.customerId
            triggerTransactionId := transactionId
            caseKey := caseKey transaction
            state := .DETECTED
            priority := priority severity
            openedAt := env.now.naive
            lastStateChangedAt := env.now.naive
            closedAt := none
            version := 1
            metadataJson :=
              [("detector_rule_version", .str "phase3.v1"),
                ("risk_severity", .str severity.value),
                ("reason_codes", .arr (allReasons.map fun r => .str r.value)),
                ("source", .str "deterministic_phase3_detector")] }
        pure (some (caseId, true))
    else pure none

end RiskCaseService

end RevenueRescue
