import RevenueRescue.Base.Run
import RevenueRescue.Cases.Ingestion
import RevenueRescue.Cases.Recommendation
import RevenueRescue.Cases.Service
import RevenueRescue.Domain.Accounts
import RevenueRescue.Policy.Service
import RevenueRescue.Workflows.Creation
import RevenueRescue.Workflows.Execution
import RevenueRescue.Workflows.Reconciliation

/-!
# The system

The operations that clients, providers and schedulers can ask for, each in a session of its
own. An operation that raises is rolled back, and so is one whose process dies before the
commit; a call that was made to the payment provider stays made. The batch reconciliation
commits once for each of its cases.
-/

namespace RevenueRescue

open Python

/-- The operations that work on the database alone. -/
inductive Operation where
  | createCustomer (row : Customer)
  | updateCustomer (customerId : UUID) (dto : CustomerService.CustomerUpdateDTO)
  | createCustomerConsent (customerId : UUID) (consentType : ConsentType)
      (status : ConsentStatus) (merchantId : Option String) (expiresAt : Option Datetime)
      (source : String)
  | revokeCustomerConsent (consentId : UUID)
  | recordTransaction (dto : TransactionService.TransactionCreateDTO)
  | processEvent (event : CanonicalEventDTO)
  | ingestEvent (event : CanonicalEventDTO) (payloadHash : String) (signatureVerified : Bool)
  | createCase (uuid4 : UUID) (dto : RecoveryCaseService.RecoveryCaseCreateDTO)
  | transitionState (caseId : UUID) (dto : RecoveryCaseService.CaseStateTransitionDTO)
  | updateCase (caseId : UUID) (dto : RecoveryCaseService.RecoveryCaseUpdateDTO)
      (actorId : Option String)
  | detectAndCreateCase (transactionId : UUID)
  | generateRecommendation (pipeline : Pipeline) (caseId : UUID)
  | evaluate (request : PolicyEvaluationRequest)
  | transition (caseId : UUID) (toState : RecoveryCaseState) (reasonCode : String)
      (actorType : ActorType)
  | createWorkflow (decisionId : UUID) (cooldownHours maxWorkflowHours : ℤ)
  | reconcileCase (provider : StatusProvider) (autoResolve : Bool) (caseId : UUID)

/-- Forget the result of a service method. -/
def ignoringResult {α : Type} (x : Service α) : Service Unit := do
  let _ ← x
  pure ()

/-- The service method an operation calls. -/
def Operation.service (config : PolicyConfig) (env : Env) : Operation → Service Unit
  | .createCustomer row => ignoringResult (CustomerService.createCustomer row)
  | .updateCustomer customerId dto => CustomerService.updateCustomer customerId dto
  | .createCustomerConsent customerId consentType status merchantId expiresAt source =>
    ignoringResult
      (RevenueRescue.createCustomerConsent env customerId consentType status merchantId expiresAt
        source)
  | .revokeCustomerConsent consentId => RevenueRescue.revokeCustomerConsent env consentId
  | .recordTransaction dto => ignoringResult (TransactionService.recordTransaction env dto)
  | .processEvent event => ignoringResult (EventToCaseEngine.processEvent env event)
  | .ingestEvent event payloadHash signatureVerified =>
    ignoringResult (EventService.ingestCanonicalEvent env event payloadHash signatureVerified)
  | .createCase uuid4 dto => ignoringResult (RecoveryCaseService.createCase env uuid4 dto)
  | .transitionState caseId dto => RecoveryCaseService.transitionState env caseId dto
  | .updateCase caseId dto actorId => RecoveryCaseService.updateCase env caseId dto actorId
  | .detectAndCreateCase transactionId =>
    ignoringResult (RiskCaseService.detectAndCreateCase env transactionId)
  | .generateRecommendation pipeline caseId =>
    ignoringResult (IntelligenceOrchestrator.generateRecommendation env pipeline caseId)
  | .evaluate request => ignoringResult (PolicyEngineService.evaluate env config request)
  | .transition caseId toState reasonCode actorType =>
    ignoringResult (CaseTransitionService.transition env caseId toState reasonCode actorType)
  | .createWorkflow decisionId cooldownHours maxWorkflowHours =>
    ignoringResult (WorkflowCreationService.createWorkflowForDecision env decisionId cooldownHours
      maxWorkflowHours)
  | .reconcileCase provider autoResolve caseId =>
    ignoringResult (PaymentReconciliationService.reconcileCase env provider autoResolve caseId)

/-- What a request asks for. -/
inductive Ask where
  | operation (op : Operation)
  | execute (workflowId : UUID) (executeAll : Bool) (override : Dict) (provider : Provider)
  | reconcilePending (provider : UUID → StatusProvider) (limit : ℕ)

/-- A request with its surroundings. -/
structure Request where
  env : Env
  ask : Ask

/-- The committed rows and the calls of `submit_retry` so far. -/
structure World where
  db : Store
  sent : List Submission

/-- The world before the first request. -/
def World.empty : World := ⟨Store.empty, []⟩

/-- Run a service method in its own session. -/
def commitUnlessCrash {α : Type} (env : Env) (x : Service α) (db : Store) : Store :=
  if env.crash then db else x.commit db

/-- What one execution request did: its calls, and the rows if it was committed. -/
def executeRequest (env : Env) (workflowId : UUID) (executeAll : Bool) (override : Dict)
    (provider : Provider) (db : Store) : List Submission × Store :=
  match WorkflowExecutionService.execute env provider workflowId executeAll override ⟨db, []⟩ with
  | (sent, .ok (_, session)) => (sent, if env.crash then db else session.db)
  | (sent, .error _) => (sent, db)

/-- Serve one request. -/
def World.step (config : PolicyConfig) (w : World) (r : Request) : World :=
  match r.ask with
  | .operation op => { w with db := commitUnlessCrash r.env (op.service config r.env) w.db }
  | .execute workflowId executeAll override provider =>
    let (sent, db) := executeRequest r.env workflowId executeAll override provider w.db
    { db, sent := w.sent ++ sent }
  | .reconcilePending provider limit =>
    { w with
      db :=
        if r.env.crash then w.db
        else (PaymentReconciliationService.reconcilePendingCases r.env provider limit w.db).1 }

/-- The world after the requests, served in order. -/
def World.run (config : PolicyConfig) (w : World) (requests : List Request) : World :=
  Run.after (World.step config) w requests

end RevenueRescue
