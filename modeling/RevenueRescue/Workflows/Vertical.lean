import RevenueRescue.Cases.Service
import RevenueRescue.Policy.Safety
import RevenueRescue.Workflows.Tools

/-!
# The vertical workflow

`VerticalRecoveryWorkflow.run` takes a detected case through the agent brain, the safety policy
and a dry-run tool. The three move the case through `CaseTransitionService` only, and a run that
raises leaves nothing behind.
-/

namespace RevenueRescue

open Python

structure VerticalWorkflowResult where
  caseId : UUID
  decision : ValidatedAgentDecision
  policy : Safety.PolicyDecision
  toolStatus : String
  finalState : RecoveryCaseState
  auditEventCount : ℕ

structure VerticalRecoveryWorkflow where
  brain : AgentBrain
  policy : Safety.SafetyPolicy
  tools : ToolRegistry

/-- What the caller of `run` passes about the case. -/
structure VerticalRequest where
  caseId : UUID
  transactionId : UUID
  transaction : Transaction
  customer : Option Customer
  riskReasonCodes : List String
  correlationId : String

namespace VerticalRecoveryWorkflow

/-- `len(case.attempts)`. -/
def attemptCount (s : Store) (caseId : UUID) : ℕ := (s.attemptsOf caseId).length

/-- The observation of a case that awaits its decision. -/
def observation (workflow : VerticalRecoveryWorkflow) (s : Store) (request : VerticalRequest) :
    Except Fault AgentObservation :=
  let riskReasonCodes := request.riskReasonCodes
  let allowedActions := workflow.policy.config.allowedActions
  if h : (1 ≤ riskReasonCodes.length ∧ riskReasonCodes.length ≤ 10) ∧
      1 ≤ allowedActions.length ∧ allowedActions.length ≤ 10 then
    .ok
      { caseId := request.caseId
        transactionId := request.transactionId
        transactionStatus := request.transaction.status
        amountMinor := request.transaction.amountMinor
        currency := request.transaction.currency
        customerContextAvailable := request.customer.isSome
        riskReasonCodes
        currentState := .AWAITING_DECISION
        priorAttemptCount := attemptCount s request.caseId
        allowedActions
        reasonsCounted := h.1
        actionsCounted := h.2 }
  else .error (.valueError "ValidationError")

/-- The decision of the brain about the case. -/
def decision (workflow : VerticalRecoveryWorkflow) (s : Store) (request : VerticalRequest) :
    Except Fault ValidatedAgentDecision := do
  let observation ← workflow.observation s request
  let result ← workflow.brain.reason observation
  return result.decision

/-- The key of the attempt that follows the ones of the case. -/
def idempotencyKey (s : Store) (caseId : UUID) : String :=
  UUID.str caseId ++ ":workflow:" ++ toString (attemptCount s caseId + 1)

/-- The row that records the decision. -/
def decisionRecord (s : Store) (caseId : UUID) (decision : ValidatedAgentDecision) :
    AgentDecision :=
  { caseId
    decisionVersion := (s.decisions.filter fun d => d.caseId == caseId).length + 1
    actionType := decision.action
    reasonCode := decision.reasonCode
    confidence := some decision.confidence
    validationStatus := .VALID }

/-- The facts that the policy is given about the case that awaits its decision. -/
def policyContext (s : Store) (request : VerticalRequest) (decision : ValidatedAgentDecision) :
    Safety.PolicyContext :=
  { caseState := .AWAITING_DECISION
    transactionStatus := request.transaction.status
    action := decision.action
    retryAttemptCount := attemptCount s request.caseId
    idempotencyKey := some (idempotencyKey s request.caseId) }

/-- The planned attempt. -/
def plannedAttempt (env : Env) (s : Store) (caseId : UUID) (decision : ValidatedAgentDecision) :
    RecoveryAttempt :=
  { id := s.attempts.length
    caseId
    sequenceNumber := attemptCount s caseId + 1
    status := .PLANNED
    actionType := decision.action
    startedAt := some env.now.naive
    finishedAt := none
    outcome := none
    providerReference := none
    idempotencyKey := idempotencyKey s caseId }

/-- The tool for the decision, with its payload. -/
def toolCall (case : RecoveryCase) (s : Store) (caseId : UUID)
    (decision : ValidatedAgentDecision) : String × ToolPayload :=
  if decision.requiresHumanReview then
    ("escalate_recovery_case", .escalate caseId decision.rationale case.priority)
  else
    ("draft_recovery_intent",
      .draft caseId decision.action decision.rationale (idempotencyKey s caseId))

/-- The policy stands in the way of the action. -/
def holdsBack (policy : Safety.PolicyDecision) : Bool :=
  policy.shouldEscalate || policy.shouldStop || policy.outcome == .REJECT

/-- A decision that the policy holds back: the case is escalated or stopped. -/
def refuse (env : Env) (request : VerticalRequest) (decision : ValidatedAgentDecision)
    (policy : Safety.PolicyDecision) : Service VerticalWorkflowResult := do
  let moved ← CaseTransitionService.transition env request.caseId
    (if policy.shouldEscalate then .ESCALATED else .STOPPED) policy.reason.value .SYSTEM
  let s ← get
  return ⟨request.caseId, decision, policy, "not_executed", moved.toState,
    (s.auditsOf request.caseId).length⟩

/-- A decision that the policy allows: an attempt is planned and the tool is called. -/
def act (env : Env) (workflow : VerticalRecoveryWorkflow) (case : RecoveryCase)
    (request : VerticalRequest) (decision : ValidatedAgentDecision)
    (policy : Safety.PolicyDecision) : Service VerticalWorkflowResult := do
  let _ ← CaseTransitionService.transition env request.caseId .ACTION_PENDING "policy_allowed"
    .SYSTEM
  let s ← get
  let _ ← insertAttempt (plannedAttempt env s request.caseId decision)
  let call := toolCall case s request.caseId decision
  match workflow.tools.execute call.1 call.2
      { authorized := true, dryRun := true, correlationId := request.correlationId } with
  | .error fault => throw fault
  | .ok output => do
    let moved ← CaseTransitionService.transition env request.caseId .VERIFICATION_PENDING
      "action_requires_provider_verification" .SYSTEM
    let s ← get
    return ⟨request.caseId, decision, policy, output.status, moved.toState,
      (s.auditsOf request.caseId).length⟩

/-- The part of `run` that follows the two moves to `AWAITING_DECISION`. -/
def conclude (env : Env) (workflow : VerticalRecoveryWorkflow) (case : RecoveryCase)
    (request : VerticalRequest) : Service VerticalWorkflowResult := do
  let s ← get
  match workflow.decision s request with
  | .error fault => throw fault
  | .ok decision => do
    let _ ← insertDecision (decisionRecord s request.caseId decision)
    let policy := workflow.policy.evaluate (policyContext s request decision)
    if holdsBack policy then refuse env request decision policy
    else act env workflow case request decision policy

/-- `VerticalRecoveryWorkflow.run`, on a case the caller has loaded. -/
def run (env : Env) (workflow : VerticalRecoveryWorkflow) (case : RecoveryCase)
    (request : VerticalRequest) : Service VerticalWorkflowResult := do
  let _ ← CaseTransitionService.transition env request.caseId .CONTEXT_READY "context_collected"
    .SYSTEM
  let _ ← CaseTransitionService.transition env request.caseId .AWAITING_DECISION
    "awaiting_bounded_agent" .SYSTEM
  conclude env workflow case request

end VerticalRecoveryWorkflow

end RevenueRescue
