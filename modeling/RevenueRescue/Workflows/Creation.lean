import RevenueRescue.Domain.Repositories

/-!
# Workflow creation

`WorkflowCreationService.create_workflow_for_decision` turns an approved policy decision
into a bounded workflow whose steps depend on the authorised action alone.
-/

namespace RevenueRescue

open Python

namespace WorkflowCreationService

/-- `str(decision.decision_status)`. -/
def decisionStatusValue : PolicyDecisionStatus → String
  | .APPROVED => "approved"
  | .REJECTED => "rejected"
  | .REQUIRES_REVIEW => "requires_review"
  | .INSUFFICIENT_INFORMATION => "insufficient_information"

/-- A pending step with the key `step:{workflow}:{index}:{name}`. -/
def pendingStep (workflowId : UUID) (action : ActionType) (stepIndex : ℕ)
    (stepType : WorkflowStepType) (name : String) (payload : Dict) : WorkflowStep :=
  { stepIndex
    stepType
    status := .PENDING
    idempotencyKey := s!"step:{UUID.str workflowId}:{stepIndex}:{name}"
    actionType := action
    payloadJson := payload
    errorMessage := none
    executedAt := none }

/-- `WorkflowCreationService._build_steps`. -/
def buildSteps (workflowId : UUID) (action : ActionType) (cooldownHours : ℤ) :
    List WorkflowStep :=
  let step := pendingStep workflowId action
  match action with
  | .RETRY_PAYMENT =>
    [step 1 .VALIDATE_AUTHORIZATION "validate" [("check", .str "consent_and_retry_limits")],
      step 2 .WAIT_COOLDOWN "cooldown" [("cooldown_hours", .int cooldownHours)],
      step 3 .DISPATCH_PAYMENT_RETRY "dispatch" [("adapter", .str "razorpay_sandbox")],
      step 4 .AWAIT_VERIFICATION "await_verify" [("verification_window_hours", .int 72)]]
  | .SEND_REMINDER =>
    [step 1 .VALIDATE_AUTHORIZATION "validate_comm" [("check", .str "communication_consent")],
      step 2 .DISPATCH_COMMUNICATION "dispatch_comm" [("channel", .str "email")]]
  | .REQUEST_OPERATOR_REVIEW =>
    [step 1 .CREATE_SUPPORT_TASK "support_task" [("target_queue", .str "human_operator_review")]]
  | _ => []

/-- The workflow row for an approved decision. -/
def newWorkflow (env : Env) (workflowId decisionId : UUID) (decision : PolicyDecision)
    (cooldownHours maxWorkflowHours : ℤ) : RecoveryWorkflow :=
  { caseId := decision.caseId
    policyDecisionId := decisionId
    status := .PENDING
    strategy := upper decision.proposedAction.value
    scheduledFor := some env.now.naive
    expiresAt := some (env.now.plusHours maxWorkflowHours).naive
    steps := buildSteps workflowId decision.proposedAction cooldownHours }

/-- `WorkflowCreationService.create_workflow_for_decision`. -/
def createWorkflowForDecision (env : Env) (decisionId : UUID)
    (cooldownHours maxWorkflowHours : ℤ) : Service UUID := do
  let s ← get
  match s.policyDecisions[decisionId]? with
  | none => throw (.valueError ("PolicyDecision not found: " ++ UUID.str decisionId))
  | some decision =>
    if decision.decisionStatus ≠ .APPROVED then
      throw (.valueError ("Cannot create workflow from non-approved decision: status=" ++
        decisionStatusValue decision.decisionStatus))
    else
      match s.recoveryCases[decision.caseId]? with
      | none => throw (.valueError ("RecoveryCase not found: " ++ UUID.str decision.caseId))
      | some case =>
        if case.state ≠ .ACTION_PENDING then
          throw (.valueError ("Cannot create workflow for case in non-actionable state: state=" ++
            case.state.value))
        else
          match s.activeWorkflow decision.caseId with
          | some (activeId, _) =>
            throw (.valueError ("Active workflow already exists for case " ++
              UUID.str decision.caseId ++ ": workflow_id=" ++ UUID.str activeId))
          | none =>
            insertWorkflow
              (newWorkflow env s.workflows.length decisionId decision cooldownHours
                maxWorkflowHours)

end WorkflowCreationService

end RevenueRescue
