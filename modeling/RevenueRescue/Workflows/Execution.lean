import RevenueRescue.Base.Request
import RevenueRescue.Cases.Service
import RevenueRescue.Workflows.Revalidation

/-!
# Workflow execution

`WorkflowExecutionService` runs the steps of a workflow. The dispatch step revalidates,
records an attempt, calls the payment adapter, and records the execution and what follows
from its status; all of it shares the transaction of the request, but the call itself is
outside and is kept when the request raises.

The adapter instance belongs to the request and remembers its own submissions, so a second
call with the same key does not reach the provider through the same instance.
-/

namespace RevenueRescue

open Python

/-- `PaymentRetryRequest`. -/
structure PaymentRetryRequest where
  caseId : UUID
  transactionId : UUID
  amountMinor : ℕ
  currency : Currency
  customerReference : String
  idempotencyKey : String
  customerEmail : Option String
  paymentMethod : Json
  metadata : Dict

/-- `ExecutionResult`, the answer of an adapter. -/
structure ExecutionResult where
  status : ExecutionStatus
  provider : String
  providerPaymentId : Option String
  providerOrderId : Option String
  amountMinor : ℤ
  currency : String
  errorCode : Option String
  errorMessageSafe : Option String
  executedAt : Datetime
  isDefinitive : Bool := true
  deriving DecidableEq, Repr

/-- What the provider answers to a submission, `none` when the adapter raises. -/
abbrev Provider : Type := PaymentRetryRequest → Option ExecutionResult

/-- A call of `submit_retry`: where it came from, what was sent, the rows the session saw, and
whether the adapter passed it on to the provider. -/
structure Submission where
  workflowId : UUID
  position : ℕ
  attemptId : UUID
  request : PaymentRetryRequest
  db : Store
  now : Datetime
  executed : Bool

/-- The session of a request and the submissions its adapter instance remembers. -/
structure Session where
  db : Store
  submissions : List (String × ExecutionResult)

/-- A method of the execution service. -/
abbrev Exec : Type → Type := Req Session Submission Fault

/-- Work on the database of the session. -/
def onDb {α : Type} (x : Service α) : Exec α :=
  Req.onPart Session.db (fun db session => { session with db }) x

namespace Store

/-- Rewrite the step at a position of a workflow. -/
def modifyStep (s : Store) (workflowId : UUID) (position : ℕ)
    (f : WorkflowStep → WorkflowStep) : Store :=
  s.modifyWorkflow workflowId fun w => { w with steps := w.steps.modify position f }

/-- `workflow.status = status`. -/
def setWorkflowStatus (s : Store) (workflowId : UUID) (status : WorkflowStatus) : Store :=
  s.modifyWorkflow workflowId fun w => { w with status }

end Store

namespace WorkflowExecutionService

/-- The first step that is pending or scheduled, with its position. -/
def nextPending (workflow : RecoveryWorkflow) : Option (ℕ × WorkflowStep) :=
  Table.find? (fun step => step.status == .PENDING || step.status == .SCHEDULED) workflow.steps

/-- `WorkflowExecutionService._execute_validate_authorization`. -/
def executeValidateAuthorization (env : Env) (workflowId : UUID) (position : ℕ)
    (step : WorkflowStep) (caseId : UUID) : Service Unit := do
  let s ← get
  match WorkflowRevalidationService.revalidateForExecution env s caseId step.actionType with
  | .error fault => throw fault
  | .ok reval =>
    if reval.allowed then
      modify fun s => s.modifyStep workflowId position fun step =>
        { step with status := .COMPLETED, executedAt := some env.now.naive }
    else do
      modify fun s => s.modifyStep workflowId position fun step =>
        { step with
          status := .FAILED, errorMessage := some reval.message
          executedAt := some env.now.naive }
      modify fun s => s.setWorkflowStatus workflowId .FAILED
      let target := if isIn "UNKNOWN" reval.reasonCode then .ESCALATED else .STOPPED
      let _ ← CaseTransitionService.transition env caseId target (lower reval.reasonCode) .SYSTEM

/-- `WorkflowExecutionService._execute_wait_cooldown`. -/
def executeWaitCooldown (env : Env) (workflowId : UUID) (position : ℕ) : Service Unit :=
  modify fun s => s.modifyStep workflowId position fun step =>
    { step with status := .COMPLETED, executedAt := some env.now.naive }

/-- A dispatch that passed revalidation: the recorded attempt, how many attempts came before
it, and the request to send. -/
structure PreparedRetry where
  attemptId : UUID
  priorAttempts : ℕ
  request : PaymentRetryRequest

/-- Fail the dispatch step and its workflow before anything is sent. -/
def refuseDispatch (workflowId : UUID) (position : ℕ) (message : String)
    (executedAt : Option Datetime) : Service Unit := do
  modify fun s => s.modifyStep workflowId position fun step =>
    { step with
      status := .FAILED, errorMessage := some message
      executedAt := executedAt <|> step.executedAt }
  modify fun s => s.setWorkflowStatus workflowId .FAILED

/-- The request for a payment retry; the override wins over the payload of the step. -/
def buildRequest (step : WorkflowStep) (caseId : UUID) (case : RecoveryCase)
    (txn : Transaction) (customer : Customer) (override : Dict) : PaymentRetryRequest :=
  { caseId
    transactionId := case.triggerTransactionId
    amountMinor := txn.amountMinor
    currency := txn.currency
    customerReference := customer.externalCustomerId
    idempotencyKey := step.idempotencyKey
    customerEmail := customer.email
    paymentMethod := Dict.get txn.metadataJson "method"
    metadata := Dict.update step.payloadJson override }

/-- The attempt a dispatch records before it calls the adapter. -/
def newAttempt (env : Env) (attemptId caseId : UUID) (priorAttempts : ℕ) : RecoveryAttempt :=
  { id := attemptId
    caseId
    sequenceNumber := priorAttempts + 1
    status := .STARTED
    actionType := .RETRY_PAYMENT
    startedAt := some env.now.naive
    finishedAt := none
    outcome := none
    providerReference := none
    idempotencyKey := s!"{UUID.str caseId}:retry:{priorAttempts + 1}" }

/-- The part of `_execute_dispatch_payment_retry` before the adapter is called. -/
def prepareDispatch (env : Env) (workflowId : UUID) (position : ℕ) (step : WorkflowStep)
    (caseId : UUID) (override : Dict) : Service (Option PreparedRetry) := do
  let s ← get
  match WorkflowRevalidationService.revalidateForExecution env s caseId .RETRY_PAYMENT with
  | .error fault => throw fault
  | .ok reval =>
    if reval.allowed then
      match s.recoveryCases[caseId]? with
      | none => throw .attributeError
      | some case =>
        match s.transactions[case.triggerTransactionId]?, s.customers[case.customerId]? with
        | some txn, some customer => do
          -- the relationship was loaded by the revalidation and is not refreshed later
          let priorAttempts := (s.attemptsOf caseId).length
          let attemptId ← insertAttempt (newAttempt env s.attempts.length caseId priorAttempts)
          pure (some ⟨attemptId, priorAttempts, buildRequest step caseId case txn customer override⟩)
        | _, _ => do
          refuseDispatch workflowId position "Missing transaction or customer record." none
          pure none
    else do
      refuseDispatch workflowId position reval.message (some env.now.naive)
      pure none

/-- `PaymentExecutionAdapter.submit_retry` with the idempotency store of the instance. -/
def submitRetry (env : Env) (provider : Provider) (workflowId : UUID) (position : ℕ)
    (prepared : PreparedRetry) : Exec ExecutionResult := do
  let session ← get
  let request := prepared.request
  let call := fun executed => Req.emit
    { workflowId, position, attemptId := prepared.attemptId, request, db := session.db
      now := env.now, executed : Submission }
  match session.submissions.lookup request.idempotencyKey with
  | some existing => do
    call false
    pure existing
  | none => do
    call true
    match provider request with
    | none => throw .adapterError
    | some result => do
      modify fun session =>
        { session with
          submissions := (request.idempotencyKey, result) :: session.submissions }
      pure result

/-- The row that records an execution. -/
def newExecution (workflowId : UUID) (step : WorkflowStep) (caseId : UUID)
    (res : ExecutionResult) : RecoveryExecution :=
  { workflowId
    stepIndex := step.stepIndex
    caseId
    provider := res.provider
    externalReference := eitherReference res.providerPaymentId res.providerOrderId
    status := res.status
    amountMinor := res.amountMinor
    currency := res.currency
    idempotencyKey := step.idempotencyKey
    errorCode := res.errorCode
    executedAt := res.executedAt.naive }

/-- What an outcome makes of the dispatch step. -/
def finishStep (res : ExecutionResult) (step : WorkflowStep) : WorkflowStep :=
  let step := { step with executedAt := some res.executedAt.naive }
  match res.status with
  | .SUBMITTED | .SUCCEEDED => { step with status := .COMPLETED }
  | .UNKNOWN =>
    { step with
      status := .FAILED
      errorMessage := some (firstTruthy res.errorMessageSafe "Gateway outcome unknown (timeout).") }
  | .FAILED =>
    { step with
      status := .FAILED
      errorMessage := some (firstTruthy res.errorMessageSafe "Payment retry failed on gateway.") }
  | .PENDING | .CANCELLED => step

/-- What an outcome makes of the attempt. -/
def finishAttempt (res : ExecutionResult) (attempt : RecoveryAttempt) : RecoveryAttempt :=
  let reference := eitherReference res.providerPaymentId res.providerOrderId
  match res.status with
  | .SUBMITTED => { attempt with status := .STARTED, providerReference := reference }
  | .SUCCEEDED =>
    { attempt with
      status := .SUCCEEDED, outcome := some "gateway_confirmed_success"
      providerReference := reference }
  | .UNKNOWN =>
    { attempt with
      status := .UNCERTAIN, outcome := some "unknown_outcome_awaiting_reconciliation" }
  | .FAILED =>
    { attempt with
      status := .FAILED, outcome := some (firstTruthy res.errorCode "payment_failed") }
  | .PENDING | .CANCELLED => attempt

/-- The workflow status an outcome sets, if any. -/
def workflowStatusAfter : ExecutionStatus → Option WorkflowStatus
  | .UNKNOWN => some .REQUIRES_REVIEW
  | .FAILED => some .FAILED
  | _ => none

/-- The case transition that follows an outcome, if any, with its reason. -/
def transitionAfter (status : ExecutionStatus) (priorAttempts : ℕ) :
    Option (RecoveryCaseState × String) :=
  match status with
  | .SUBMITTED => some (.VERIFICATION_PENDING, "payment_retry_submitted_to_provider")
  | .SUCCEEDED => some (.VERIFICATION_PENDING, "gateway_reported_payment_captured")
  | .UNKNOWN => some (.ESCALATED, "provider_timeout_unknown_outcome")
  | .FAILED => if 4 ≤ priorAttempts then some (.STOPPED, "retry_limit_exhausted") else none
  | .PENDING | .CANCELLED => none

/-- What an outcome makes of the step, the attempt, the workflow and the case. -/
def applyOutcome (env : Env) (workflowId : UUID) (position : ℕ) (caseId : UUID)
    (prepared : PreparedRetry) (res : ExecutionResult) : Service Unit := do
  modify fun s => s.modifyStep workflowId position (finishStep res)
  modify fun s => s.modifyAttempt prepared.attemptId (finishAttempt res)
  match workflowStatusAfter res.status with
  | some status => modify fun s => s.setWorkflowStatus workflowId status
  | none => pure ()
  match transitionAfter res.status prepared.priorAttempts with
  | some (target, reasonCode) => do
    let _ ← CaseTransitionService.transition env caseId target reasonCode .SYSTEM
  | none => pure ()

/-- The part of `_execute_dispatch_payment_retry` after the adapter has answered. -/
def recordOutcome (env : Env) (workflowId : UUID) (position : ℕ) (step : WorkflowStep)
    (caseId : UUID) (prepared : PreparedRetry) (res : ExecutionResult) : Service Unit := do
  let _ ← insertExecution (newExecution workflowId step caseId res)
  applyOutcome env workflowId position caseId prepared res

/-- `WorkflowExecutionService._execute_dispatch_payment_retry`. -/
def executeDispatchPaymentRetry (env : Env) (provider : Provider) (workflowId : UUID)
    (position : ℕ) (step : WorkflowStep) (caseId : UUID) (override : Dict) : Exec Unit := do
  match ← onDb (prepareDispatch env workflowId position step caseId override) with
  | none => pure ()
  | some prepared => do
    let res ← submitRetry env provider workflowId position prepared
    onDb (recordOutcome env workflowId position step caseId prepared res)

/-- `WorkflowExecutionService._execute_await_verification`. -/
def executeAwaitVerification (workflowId : UUID) (position : ℕ) : Service Unit := do
  modify fun s => s.modifyStep workflowId position fun step => { step with status := .WAITING }
  modify fun s => s.setWorkflowStatus workflowId .WAITING

/-- The generic steps only complete. -/
def executeGeneric (env : Env) (workflowId : UUID) (position : ℕ) : Service Unit :=
  modify fun s => s.modifyStep workflowId position fun step =>
    { step with status := .COMPLETED, executedAt := some env.now.naive }

/-- Mark the workflow and the step as running. -/
def startStep (workflowId : UUID) (position : ℕ) : Service Unit := do
  modify fun s => s.setWorkflowStatus workflowId .RUNNING
  modify fun s => s.modifyStep workflowId position fun step => { step with status := .RUNNING }

/-- Dispatch by step type. -/
def runStep (env : Env) (provider : Provider) (workflowId : UUID) (position : ℕ)
    (step : WorkflowStep) (caseId : UUID) (override : Dict) : Exec Unit :=
  match step.stepType with
  | .VALIDATE_AUTHORIZATION =>
    onDb (executeValidateAuthorization env workflowId position step caseId)
  | .WAIT_COOLDOWN => onDb (executeWaitCooldown env workflowId position)
  | .DISPATCH_PAYMENT_RETRY =>
    executeDispatchPaymentRetry env provider workflowId position step caseId override
  | .AWAIT_VERIFICATION => onDb (executeAwaitVerification workflowId position)
  | .DISPATCH_COMMUNICATION | .CREATE_SUPPORT_TASK => onDb (executeGeneric env workflowId position)

/-- `str(workflow.status)`. -/
def workflowStatusValue : WorkflowStatus → String
  | .CREATED => "created"
  | .PENDING => "pending"
  | .SCHEDULED => "scheduled"
  | .RUNNING => "running"
  | .WAITING => "waiting"
  | .COMPLETED => "completed"
  | .FAILED => "failed"
  | .CANCELLED => "cancelled"
  | .EXPIRED => "expired"
  | .REQUIRES_REVIEW => "requires_review"

/-- `WorkflowExecutionService.execute_next_step`; the result is the step as it is afterwards. -/
def executeNextStep (env : Env) (provider : Provider) (workflowId : UUID) (override : Dict) :
    Exec (Option WorkflowStep) := do
  let session ← get
  match session.db.workflows[workflowId]? with
  | none => throw (.valueError ("Workflow not found: " ++ UUID.str workflowId))
  | some workflow =>
    if workflow.status ∈ [WorkflowStatus.COMPLETED, .FAILED, .CANCELLED] then
      throw (.valueError ("Cannot execute step in terminal workflow: status=" ++
        workflowStatusValue workflow.status))
    else
      match session.db.recoveryCases[workflow.caseId]? with
      | none =>
        throw (.valueError ("Associated RecoveryCase not found: " ++ UUID.str workflow.caseId))
      | some _ =>
        match nextPending workflow with
        | none => do
          onDb (modify fun s => s.setWorkflowStatus workflowId .COMPLETED)
          pure workflow.steps.getLast?
        | some (position, step) => do
          onDb (startStep workflowId position)
          runStep env provider workflowId position step workflow.caseId override
          let session ← get
          pure ((session.db.workflows[workflowId]?).bind fun w => w.steps[position]?)

/-- The loop of `execute_all_available_steps` with so many iterations left. -/
def runAvailableSteps (env : Env) (provider : Provider) (workflowId : UUID) (override : Dict) :
    ℕ → Exec Unit
  | 0 => pure ()
  | iterations + 1 => do
    let session ← get
    match session.db.workflows[workflowId]? with
    | none => throw (.valueError ("Workflow not found: " ++ UUID.str workflowId))
    | some workflow =>
      if workflow.status ∈
          [WorkflowStatus.COMPLETED, .FAILED, .CANCELLED, .WAITING, .REQUIRES_REVIEW] then
        pure ()
      else if (nextPending workflow).isNone then
        onDb (modify fun s => s.setWorkflowStatus workflowId .COMPLETED)
      else do
        let step ← executeNextStep env provider workflowId override
        if step.any fun step => step.status == .WAITING || step.status == .FAILED then pure ()
        else runAvailableSteps env provider workflowId override iterations

/-- `WorkflowExecutionService.execute_all_available_steps`. -/
def executeAllAvailableSteps (env : Env) (provider : Provider) (workflowId : UUID)
    (override : Dict) : Exec Unit := do
  let session ← get
  match session.db.workflows[workflowId]? with
  | none => throw (.valueError ("Workflow not found: " ++ UUID.str workflowId))
  | some workflow =>
    runAvailableSteps env provider workflowId override (workflow.steps.length + 2)

/-- One execution request: the whole workflow or its next step. -/
def execute (env : Env) (provider : Provider) (workflowId : UUID) (executeAll : Bool)
    (override : Dict) : Exec Unit :=
  if executeAll then executeAllAvailableSteps env provider workflowId override
  else do
    let _ ← executeNextStep env provider workflowId override
    pure ()

end WorkflowExecutionService

end RevenueRescue
