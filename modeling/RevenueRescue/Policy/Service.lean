import RevenueRescue.Policy.Evaluators

/-!
# The policy engine

`PolicyEngineService.evaluate`: load the authoritative rows, run the five rules, aggregate
their answers by precedence, persist the decision, and move the case through the policy's
own transition function. A request with a known idempotency key is answered from the
stored decision.
-/

namespace RevenueRescue

open Python

structure PolicyEvaluationRequest where
  caseId : UUID
  recommendationId : UUID
  proposedAction : Option ActionType
  actorType : ActorType
  idempotencyKey : Option String
  communicationChannel : Option String
  deriving DecidableEq, Repr

structure PolicyEvaluationResult where
  decisionStatus : PolicyDecisionStatus
  caseId : UUID
  proposedAction : ActionType
  policyVersion : String
  ruleResults : List RuleCheckResult
  reasons : List String
  recommendationId : UUID
  evaluatedAt : Datetime
  deriving Repr

/-- `map_policy_to_validation_status`. -/
def mapPolicyToValidationStatus : PolicyDecisionStatus → DecisionValidationStatus
  | .APPROVED => .VALID
  | .REJECTED => .REJECTED_BY_POLICY
  | .REQUIRES_REVIEW => .NOT_VALIDATED
  | .INSUFFICIENT_INFORMATION => .INVALID

namespace PolicyEngineService

/-- The reason codes of the results with a status. -/
def reasonsOf (status : RuleCheckStatus) (ruleResults : List RuleCheckResult) : List String :=
  (ruleResults.filter fun r => r.status == status).map RuleCheckResult.reasonCode

/-- `PolicyEngineService._aggregate_decision`. -/
def aggregateDecision (ruleResults : List RuleCheckResult) :
    PolicyDecisionStatus × List String :=
  if ruleResults.any fun r => r.status == .FAILED then
    (.REJECTED, reasonsOf .FAILED ruleResults)
  else if ruleResults.any fun r => r.status == .MISSING_INFO then
    (.INSUFFICIENT_INFORMATION, reasonsOf .MISSING_INFO ruleResults)
  else if ruleResults.any fun r => r.status == .NEEDS_REVIEW then
    (.REQUIRES_REVIEW, reasonsOf .NEEDS_REVIEW ruleResults)
  else (.APPROVED, ["ALL_POLICY_GUARDRAILS_PASSED"])

/-- The rejections after which the case is stopped. -/
def terminalReasons : List String :=
  ["RETRY_LIMIT_EXCEEDED", "CASE_ALREADY_RECOVERED", "CASE_CANCELLED", "CASE_CLOSED",
    "RETRY_NOT_SUPPORTED"]

/-- `PolicyEngineService._determine_fsm_transition`. -/
def determineFsmTransition (status : PolicyDecisionStatus) (currentState : RecoveryCaseState)
    (reasons : List String) : Option RecoveryCaseState :=
  match status with
  | .APPROVED =>
    if currentState ∈ [RecoveryCaseState.AWAITING_DECISION, .RETRY_ELIGIBLE, .DETECTED] then
      some .ACTION_PENDING
    else none
  | .REQUIRES_REVIEW =>
    if currentState ∉ [RecoveryCaseState.RECOVERED, .CLOSED, .STOPPED, .ESCALATED] then
      some .ESCALATED
    else none
  | .REJECTED =>
    if reasons.any terminalReasons.contains ∧
        currentState ∉ [RecoveryCaseState.RECOVERED, .CLOSED, .STOPPED] then
      some .STOPPED
    else none
  | .INSUFFICIENT_INFORMATION => none

/-- The rows an evaluation reads besides the case and the recommendation. -/
def triggerTransaction (s : Store) (case : RecoveryCase) : Option Transaction :=
  s.transactions[case.triggerTransactionId]?

/-- The attempts the escalation rule counts; `ActionType.NONE` is never an attempt's status,
so the second condition of the source drops nothing. -/
def escalationAttempts (attempts : List RecoveryAttempt) : List RecoveryAttempt :=
  attempts.filter fun a => a.actionType == .RETRY_PAYMENT

/-- The escalation rule on the rows of the case. -/
def escalation (config : PolicyConfig) (s : Store) (caseId : UUID) (case : RecoveryCase)
    (recommendation : AgentDecision) : RuleCheckResult :=
  let tx := triggerTransaction s case
  let attempts := s.attemptsOf caseId
  EscalationEvaluator.evaluate ((tx.map Transaction.amountMinor).getD 0)
    ((tx.map fun t => t.currency.code).getD "INR") config recommendation.confidence
    (tx.bind Transaction.failureCode)
    (!config.canRetry (escalationAttempts attempts).length)
    (attempts.any fun a => a.status == .UNCERTAIN)

/-- The five rules, in the order in which their answers are reported. -/
def ruleResults (env : Env) (config : PolicyConfig) (s : Store)
    (request : PolicyEvaluationRequest) (case : RecoveryCase) (recommendation : AgentDecision)
    (proposedAction : ActionType) : Except Fault (List RuleCheckResult) := do
  let failureCategory := (triggerTransaction s case).bind Transaction.failureCode
  let customer := s.customers[case.customerId]?
  let merchantId := (customer.map fun c => Dict.get c.metadataJson "merchant_id").getD .null
  let eligibility := EligibilityEvaluator.evaluate request.caseId case recommendation
    (some case.customerId) (some case.triggerTransactionId)
  let consent ← ConsentValidator.evaluate proposedAction case.customerId
    (s.consentsOf case.customerId) merchantId request.communicationChannel env.now
  let retry ← RetryLimitEvaluator.evaluate proposedAction (s.attemptsOf request.caseId) config
    env.now request.idempotencyKey failureCategory
  let strategy := StrategyValidator.evaluate (StrategyCatalog.mapToStrategy proposedAction)
    failureCategory case.state (customer.any fun c => truthy c.email) true
  return [eligibility, consent, retry, strategy,
    escalation config s request.caseId case recommendation]

/-- The entry of a rule's answer in the JSON column of the decision. -/
def encodeRule (r : RuleCheckResult) : Json :=
  .obj
    [("rule_name", .str r.ruleName), ("status", .str r.status.value),
      ("reason_code", .str r.reasonCode), ("message", .str r.message), ("details", .obj r.details)]

/-- `r[key]`, which the engine has stored as a text. -/
def textItem (r : Dict) (key : String) : Except Fault String :=
  match r.lookup key with
  | some (.str text) => .ok text
  | some _ => .error .typeError
  | none => .error (.keyError key)

/-- The answer of a rule that an entry of the JSON column says. -/
def decodeRule : Json → Except Fault RuleCheckResult
  | .obj r => do
    let ruleName ← textItem r "rule_name"
    let text ← textItem r "status"
    match RuleCheckStatus.ofValue text with
    | none =>
      throw (.valueError (Python.reprStr text ++ " is not a valid RuleCheckStatus"))
    | some status =>
      let reasonCode ← textItem r "reason_code"
      let message ← textItem r "message"
      match Dict.getD r "details" (.obj []) with
      | .obj details => pure { ruleName, status, reasonCode, message, details }
      | _ => throw .typeError
  | _ => throw .typeError

/-- `PolicyEngineService._to_evaluation_result`. -/
def toEvaluationResult (record : PolicyDecision) : Except Fault PolicyEvaluationResult := do
  let ruleResults ← record.ruleResultsJson.mapM decodeRule
  return {
    decisionStatus := record.decisionStatus
    caseId := record.caseId
    proposedAction := record.proposedAction
    policyVersion := record.policyVersion
    ruleResults
    reasons := record.reasonsJson
    recommendationId := record.recommendationId
    evaluatedAt := record.evaluatedAt }

/-- `PolicyEngineService._build_synthetic_result`, when the case or the recommendation is
missing. -/
def buildSyntheticResult (env : Env) (config : PolicyConfig) (request : PolicyEvaluationRequest)
    (caseMissing : Bool) : PolicyEvaluationResult :=
  let reason := if caseMissing then "CASE_NOT_FOUND" else "RECOMMENDATION_MISSING"
  { decisionStatus := .INSUFFICIENT_INFORMATION
    caseId := request.caseId
    proposedAction := request.proposedAction.getD .NONE
    policyVersion := config.policyVersion
    ruleResults := [{
      ruleName := "data_availability_check", status := .MISSING_INFO, reasonCode := reason
      message := "Authoritative case or AI recommendation could not be loaded.", details := [] }]
    reasons := [reason]
    recommendationId := request.recommendationId
    evaluatedAt := env.now }

/-- The case fields that the policy's transition rewrites. -/
def applyTransition (env : Env) (toState : RecoveryCaseState) (case : RecoveryCase) :
    RecoveryCase :=
  { case with
    state := toState
    lastStateChangedAt := env.now.naive
    version := case.version + 1 }

/-- The transition that follows a decision, with its entry in the transition log. -/
def synchronizeCase (env : Env) (request : PolicyEvaluationRequest) (case : RecoveryCase)
    (reasons : List String) (toState : RecoveryCaseState) : Service Unit := do
  modify fun s => s.modifyCase request.caseId (applyTransition env toState)
  let s ← get
  insertTransition
    { caseId := request.caseId, fromState := some case.state, toState
      reasonCode := reasons.headD "POLICY_EVALUATION", actorType := request.actorType
      occurredAt := env.now.naive
      sequenceNumber := s.nextTransitionNumber request.caseId }

/-- The state a case is in after the decision. -/
def stateAfter (status : PolicyDecisionStatus) (case : RecoveryCase) (reasons : List String) :
    RecoveryCaseState :=
  (determineFsmTransition status case.state reasons).getD case.state

/-- The row that records the decision. -/
def newDecision (env : Env) (config : PolicyConfig) (request : PolicyEvaluationRequest)
    (case : RecoveryCase) (proposedAction : ActionType) (results : List RuleCheckResult) :
    PolicyDecision :=
  { caseId := request.caseId
    recommendationId := request.recommendationId
    proposedAction
    decisionStatus := (aggregateDecision results).1
    policyVersion := config.policyVersion
    ruleResultsJson := results.map encodeRule
    reasonsJson := (aggregateDecision results).2
    actorType := request.actorType
    idempotencyKey := request.idempotencyKey
    caseVersion := case.version
    evaluatedAt := env.now.naive }

/-- The result that is returned with a decision just made. -/
def newResult (env : Env) (decision : PolicyDecision) (results : List RuleCheckResult) :
    PolicyEvaluationResult :=
  { decisionStatus := decision.decisionStatus
    caseId := decision.caseId
    proposedAction := decision.proposedAction
    policyVersion := decision.policyVersion
    ruleResults := results
    reasons := decision.reasonsJson
    recommendationId := decision.recommendationId
    evaluatedAt := env.now }

/-- Persist the decision and synchronise the recommendation, the case and the audit log. -/
def persist (env : Env) (request : PolicyEvaluationRequest) (case : RecoveryCase)
    (decision : PolicyDecision) : Service Unit := do
  let status := decision.decisionStatus
  let reasons := decision.reasonsJson
  let _ ← insertPolicyDecision decision
  modify fun s => s.modifyDecision request.recommendationId fun d =>
    { d with validationStatus := mapPolicyToValidationStatus status }
  if stateAfter status case reasons ≠ case.state then
    synchronizeCase env request case reasons (stateAfter status case reasons)
  AuditEventRepository.record env request.caseId "POLICY_EVALUATION_COMPLETED"
    request.actorType (some case.state) (some (stateAfter status case reasons))

/-- The stored decision that answers a repeated request. -/
def replayed (s : Store) (request : PolicyEvaluationRequest) : Option PolicyDecision :=
  if truthy request.idempotencyKey then
    (s.policyDecisionByKey request.caseId (request.idempotencyKey.getD "")).map Prod.snd
  else none

/-- `PolicyEngineService.evaluate`. -/
def evaluate (env : Env) (config : PolicyConfig) (request : PolicyEvaluationRequest) :
    Service PolicyEvaluationResult := do
  let s ← get
  match replayed s request with
  | some record =>
    match toEvaluationResult record with
    | .error fault => throw fault
    | .ok result => pure result
  | none =>
    match s.recoveryCases[request.caseId]?, s.decisions[request.recommendationId]? with
    | none, _ => pure (buildSyntheticResult env config request true)
    | some _, none => pure (buildSyntheticResult env config request false)
    | some case, some recommendation =>
      let proposedAction := request.proposedAction.getD recommendation.actionType
      match ruleResults env config s request case recommendation proposedAction with
      | .error fault => throw fault
      | .ok results => do
        let decision := newDecision env config request case proposedAction results
        persist env request case decision
        pure (newResult env decision results)

end PolicyEngineService

end RevenueRescue
