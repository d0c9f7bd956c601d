import RevenueRescue.Intelligence.Orchestrator
import RevenueRescue.Properties.Signatures
import RevenueRescue.Security.Requests
import RevenueRescue.System

/-!
# The HTTP interface

The routes that write, over the accounts and over the system. A webhook is served for anybody, a
guarded endpoint only for an active account with one of its roles, and the authentication endpoints
check for themselves. The dependencies of a route come before its body is read.
-/

namespace RevenueRescue

open Python

/-! ## Bodies -/

/-- `PolicyEvaluationRequestDTO`. -/
structure PolicyEvaluationRequestDTO where
  caseId : UUID
  recommendationId : UUID
  proposedAction : Option ActionType := none
  communicationChannel : Option String := none
  idempotencyKey : Option String := none
  deriving DecidableEq, Repr

def PolicyEvaluationRequestDTO.isValid (dto : PolicyEvaluationRequestDTO) : Bool :=
  dto.communicationChannel.all (hasLength 0 50) && dto.idempotencyKey.all (hasLength 0 250)

/-- `CustomerConsentCreateDTO`. -/
structure CustomerConsentCreateDTO where
  customerId : UUID
  consentType : ConsentType
  status : ConsentStatus := .GRANTED
  merchantId : Option String := none
  source : String := "checkout_agreement"
  evidenceReference : Option String := none
  expiresAt : Option Datetime := none
  deriving DecidableEq, Repr

def CustomerConsentCreateDTO.isValid (dto : CustomerConsentCreateDTO) : Bool :=
  dto.merchantId.all (hasLength 0 128) && hasLength 0 120 dto.source &&
    dto.evidenceReference.all (hasLength 0 255)

/-- `WorkflowCreateRequestDTO`. -/
structure WorkflowCreateRequestDTO where
  policyDecisionId : UUID
  cooldownHours : ℤ := 4
  maxWorkflowHours : ℤ := 72
  deriving DecidableEq, Repr

def WorkflowCreateRequestDTO.isValid (dto : WorkflowCreateRequestDTO) : Bool :=
  0 ≤ dto.cooldownHours && dto.cooldownHours ≤ 168 && 1 ≤ dto.maxWorkflowHours &&
    dto.maxWorkflowHours ≤ 720

/-- `WorkflowExecuteRequestDTO`. -/
structure WorkflowExecuteRequestDTO where
  executeAll : Bool := true
  stepMetadataOverride : Dict := []

/-- `ReconciliationRequestDTO`. -/
structure ReconciliationRequestDTO where
  caseId : UUID
  autoResolve : Bool := true
  deriving DecidableEq, Repr

/-- The bounds of `EventIngestRequestDTO`. -/
def EventIngestRequestDTO.isValid (dto : EventIngestRequestDTO) : Bool :=
  dto.eventId.all (hasLength 0 200) && hasLength 0 64 dto.provider &&
    hasLength 1 128 dto.customerReference && dto.paymentReference.all (hasLength 0 128) &&
    dto.subscriptionReference.all (hasLength 0 128) &&
    dto.invoiceReference.all (hasLength 0 128) && dto.checkoutSessionId.all (hasLength 0 128) &&
    dto.failureCode.all (hasLength 0 100) && dto.failureMessage.all (hasLength 0 500)

/-- The bounds of `SimulateFailureRequestDTO`. -/
def SimulateFailureRequestDTO.isValid (dto : SimulateFailureRequestDTO) : Bool :=
  hasLength 1 128 dto.customerId && hasLength 0 100 dto.failureCode &&
    hasLength 0 500 dto.failureMessage

/-- The bounds of `CaseStateTransitionDTO`, with the correlation id that it must carry. -/
def isValidTransition (dto : RecoveryCaseService.CaseStateTransitionDTO) (correlationId : String) :
    Bool :=
  hasLength 3 120 dto.reasonCode && hasLength 1 200 correlationId

/-- The bounds of `RecoveryCaseUpdateDTO`. -/
def isValidUpdate (dto : RecoveryCaseService.RecoveryCaseUpdateDTO) : Bool :=
  dto.priority.all fun priority => 1 ≤ priority && priority ≤ 1000

/-! ## Endpoints -/

/-- The endpoints that act for an account and write, with their parameters. -/
inductive GuardedRoute where
  | updateCase (caseId : UUID) (updateDto : RecoveryCaseService.RecoveryCaseUpdateDTO)
  | transitionCaseState (caseId : UUID) (transitionDto : RecoveryCaseService.CaseStateTransitionDTO)
      (correlationId : String)
  | generateCaseRecommendation (caseId : UUID)
  | evaluatePolicyRecommendation (payload : PolicyEvaluationRequestDTO)
  | createCustomerConsent (payload : CustomerConsentCreateDTO)
  | revokeCustomerConsent (consentId : UUID)
  | createWorkflow (payload : WorkflowCreateRequestDTO)
  | executeWorkflow (workflowId : UUID) (payload : WorkflowExecuteRequestDTO)
  | reconcileCase (payload : ReconciliationRequestDTO)
  | reconcilePendingCases (limit : ℕ)
  | ingestEvent (requestDto : EventIngestRequestDTO)
  | simulateFailure (simRequest : SimulateFailureRequestDTO)

/-- What a deployment of the application consists of. -/
structure Application where
  deployment : Deployment
  numerics : Numerics
  secrets : GatewaySecrets

/-- What the surroundings of a request supply to the services: the rows' clock, the values of
`uuid4()` in turn, and the answers of the payment provider. -/
structure Surroundings where
  env : Env
  uuid4 : ℕ → UUID
  provider : Provider
  statusProvider : UUID → StatusProvider

namespace GuardedRoute

/-- The roles that an endpoint admits. -/
def allowedRoles : GuardedRoute → List UserRole
  | ingestEvent _ => [.OPERATOR, .ADMIN, .INGESTOR]
  | _ => [.ADMIN, .OPERATOR]

/-- Whether the schema accepts the body and the parameters. -/
def isValid : GuardedRoute → Bool
  | updateCase _ updateDto => isValidUpdate updateDto
  | transitionCaseState _ transitionDto correlationId =>
    isValidTransition transitionDto correlationId
  | evaluatePolicyRecommendation payload => payload.isValid
  | createCustomerConsent payload => payload.isValid
  | createWorkflow payload => payload.isValid
  | reconcilePendingCases limit => 1 ≤ limit && limit ≤ 100
  | ingestEvent requestDto => requestDto.isValid
  | simulateFailure simRequest => simRequest.isValid
  | _ => true

/-- The event that is ingested for an account, or the error of its normalisation. -/
def ingestion (lib : Library) (canonical : Except Fault CanonicalEventDTO) : Except Fault Ask :=
  canonical.map fun event =>
    .operation (.ingestEvent event (EventDeduplicator.computeFingerprint lib event) true)

/-- What an endpoint asks of the system for an account. -/
def ask (a : Application) (x : Surroundings) (s : Store) (currentUser : User) :
    GuardedRoute → Except Fault Ask
  | updateCase caseId updateDto =>
    .ok (.operation (.updateCase caseId updateDto (some currentUser.id.str)))
  | transitionCaseState caseId transitionDto _ =>
    .ok (.operation (.transitionState caseId transitionDto))
  | generateCaseRecommendation caseId =>
    let decisionVersion := ((s.latestDecision caseId).map (·.decisionVersion + 1)).getD 1
    .ok (.operation (.generateRecommendation
      (IntelligenceOrchestrator.defaultPipeline a.numerics s.decisions.length decisionVersion)
      caseId))
  | evaluatePolicyRecommendation payload =>
    .ok (.operation (.evaluate
      { caseId := payload.caseId
        recommendationId := payload.recommendationId
        proposedAction := payload.proposedAction
        actorType := .OPERATOR
        idempotencyKey := payload.idempotencyKey
        communicationChannel := payload.communicationChannel }))
  | createCustomerConsent payload =>
    .ok (.operation (.createCustomerConsent payload.customerId payload.consentType payload.status
      payload.merchantId payload.expiresAt payload.source))
  | revokeCustomerConsent consentId => .ok (.operation (.revokeCustomerConsent consentId))
  | createWorkflow payload =>
    .ok (.operation (.createWorkflow payload.policyDecisionId payload.cooldownHours
      payload.maxWorkflowHours))
  | executeWorkflow workflowId payload =>
    .ok (.execute workflowId payload.executeAll payload.stepMetadataOverride x.provider)
  | reconcileCase payload =>
    .ok (.operation (.reconcileCase (x.statusProvider payload.caseId) payload.autoResolve
      payload.caseId))
  | reconcilePendingCases limit => .ok (.reconcilePending x.statusProvider limit)
  | ingestEvent requestDto =>
    ingestion a.deployment.lib
      (EventNormalizer.normalizeCanonicalRequest a.deployment.lib x.env.now (x.uuid4 0) requestDto)
  | simulateFailure simRequest =>
    ingestion a.deployment.lib
      (EventNormalizer.normalizeSimulatorRequest a.deployment.lib x.env.now (x.uuid4 0) (x.uuid4 1)
        simRequest)

end GuardedRoute

/-! ## Requests -/

/-- The routes with what a request gives them. -/
inductive ApiCall where
  | auth (call : AuthCall)
  | webhook (route : WebhookRoute) (request : GatewayRequest)
  | guarded (endpoint : GuardedRoute)

/-- A request with its bearer token and its surroundings. -/
structure ApiRequest where
  identity : AuthEnv
  surroundings : Surroundings
  token : Option String
  call : ApiCall

/-- The accounts with the tokens handed out, and the system with the calls that it made. -/
structure ApiWorld where
  auth : AuthWorld
  system : World

namespace ApiWorld

/-- The account that a guarded endpoint acts for. -/
def currentUser (a : Application) (w : ApiWorld) (r : ApiRequest) (endpoint : GuardedRoute) :
    Except AuthFault User := do
  requireRoles endpoint.allowedRoles
    (← getCurrentUser a.deployment r.identity.now r.token w.auth.users)

/-- What a guarded endpoint asks of the system; `none` stands for an error. -/
def askOf (a : Application) (w : ApiWorld) (r : ApiRequest) (endpoint : GuardedRoute) : Option Ask :=
  match currentUser a w r endpoint with
  | .error _ => none
  | .ok user =>
    if endpoint.isValid then
      (endpoint.ask a r.surroundings w.system.db user).toOption
    else none

/-- Serve one request. -/
def step (a : Application) (w : ApiWorld) (r : ApiRequest) : ApiWorld :=
  match r.call with
  | .auth call => { w with auth := w.auth.step a.deployment ⟨r.identity, r.token, call⟩ }
  | .webhook route request =>
    let x := r.surroundings
    { w with
      system :=
        { w.system with
          db := commitUnlessCrash x.env
            (route.serve a.deployment.lib a.secrets x.env (x.uuid4 0) request) w.system.db } }
  | .guarded endpoint =>
    match askOf a w r endpoint with
    | none => w
    | some ask => { w with system := w.system.step .default ⟨r.surroundings.env, ask⟩ }

/-- The world after requests that are served one after the other. -/
def run (a : Application) (w : ApiWorld) (requests : List ApiRequest) : ApiWorld :=
  Run.after (step a) w requests

end ApiWorld

end RevenueRescue
