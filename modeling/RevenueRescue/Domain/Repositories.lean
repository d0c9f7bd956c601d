import Mathlib.Data.List.Sort
import RevenueRescue.Domain.Models

/-!
# Repositories

The queries the services run against the store and the inserts they flush. A query
without an order returns rows in the order of their insertion. Timestamps lose their
offset on the way into a column, so every stored timestamp is naive.
-/

namespace RevenueRescue

open Python

namespace Store

/-! ## Queries -/

/-- `CustomerRepository.find_by_external_id`. -/
def customerByExternalId (s : Store) (provider externalCustomerId : String) :
    Option (UUID × Customer) :=
  Table.find? (fun c => c.provider == provider && c.externalCustomerId == externalCustomerId)
    s.customers

/-- `TransactionRepository.find_by_external_id`. -/
def transactionByExternalId (s : Store) (provider externalTransactionId : String) :
    Option (UUID × Transaction) :=
  Table.find?
    (fun t => t.provider == provider && t.externalTransactionId == externalTransactionId)
    s.transactions

/-- `RecoveryCaseRepository.find_by_case_key`. -/
def caseByKey (s : Store) (caseKey : String) : Option (UUID × RecoveryCase) :=
  Table.find? (fun c => c.caseKey == caseKey) s.recoveryCases

/-- `RecoveryCaseRepository.find_by_trigger_transaction_id`. -/
def caseByTriggerTransaction (s : Store) (transactionId : UUID) : Option (UUID × RecoveryCase) :=
  Table.find? (fun c => c.triggerTransactionId == transactionId) s.recoveryCases

/-- `CustomerConsentRepository.find_by_customer`, the latest `granted_at` first. -/
def consentsOf (s : Store) (customerId : UUID) : List CustomerConsent :=
  (s.consents.filter fun c => c.customerId == customerId).insertionSort
    fun a b => b.grantedAt.wall ≤ a.grantedAt.wall

/-- `case.attempts`, and `RecoveryAttemptRepository.find_by_case` up to the order. -/
def attemptsOf (s : Store) (caseId : UUID) : List RecoveryAttempt :=
  s.attempts.filter fun a => a.caseId == caseId

/-- `AgentDecisionRepository.find_latest_by_case`. -/
def latestDecision (s : Store) (caseId : UUID) : Option AgentDecision :=
  ((s.decisions.filter fun d => d.caseId == caseId).insertionSort
    fun a b => b.decisionVersion ≤ a.decisionVersion).head?

/-- `PolicyDecisionRepository.find_by_idempotency_key`. -/
def policyDecisionByKey (s : Store) (caseId : UUID) (idempotencyKey : String) :
    Option (UUID × PolicyDecision) :=
  Table.find? (fun d => d.caseId == caseId && d.idempotencyKey == some idempotencyKey)
    s.policyDecisions

/-- `case.audit_events`, in the order in which they were written. -/
def auditsOf (s : Store) (caseId : UUID) : List AuditEvent :=
  s.auditEvents.filter fun a => a.caseId == caseId

/-- `case.transitions`, in the order in which they were written. -/
def transitionsOf (s : Store) (caseId : UUID) : List CaseStateTransition :=
  s.transitions.filter fun t => t.caseId == caseId

/-- The sequence numbers of a case's audit log. -/
def auditNumbers (s : Store) (caseId : UUID) : List ℕ :=
  (s.auditsOf caseId).map AuditEvent.sequenceNumber

/-- The sequence numbers of a case's transition log. -/
def transitionNumbers (s : Store) (caseId : UUID) : List ℕ :=
  (s.transitionsOf caseId).map CaseStateTransition.sequenceNumber

/-- `AuditEventRepository.get_next_sequence_number`. -/
def nextAuditNumber (s : Store) (caseId : UUID) : ℕ := Numbering.next (s.auditNumbers caseId)

/-- One more than the highest sequence number among the case's transitions. -/
def nextTransitionNumber (s : Store) (caseId : UUID) : ℕ :=
  Numbering.next (s.transitionNumbers caseId)

/-- `WorkflowRepository.find_active_by_case`. -/
def activeWorkflow (s : Store) (caseId : UUID) : Option (UUID × RecoveryWorkflow) :=
  Table.find? (fun w => w.caseId == caseId && (w.status == .RUNNING || w.status == .SCHEDULED ||
    w.status == .PENDING || w.status == .WAITING)) s.workflows

/-- `RecoveryExecutionRepository.find_by_case`, the latest `executed_at` first. -/
def executionsOf (s : Store) (caseId : UUID) : List RecoveryExecution :=
  (s.executions.filter fun e => e.caseId == caseId).insertionSort
    fun a b => b.executedAt.wall ≤ a.executedAt.wall

/-! ## Rewriting rows -/

def modifyCustomer (s : Store) (id : UUID) (f : Customer → Customer) : Store :=
  { s with customers := s.customers.modify id f }

def modifyConsent (s : Store) (id : UUID) (f : CustomerConsent → CustomerConsent) : Store :=
  { s with consents := s.consents.modify id f }

def modifyTransaction (s : Store) (id : UUID) (f : Transaction → Transaction) : Store :=
  { s with transactions := s.transactions.modify id f }

def modifyCase (s : Store) (id : UUID) (f : RecoveryCase → RecoveryCase) : Store :=
  { s with recoveryCases := s.recoveryCases.modify id f }

def modifyAttempt (s : Store) (id : UUID) (f : RecoveryAttempt → RecoveryAttempt) : Store :=
  { s with attempts := s.attempts.modify id f }

def modifyDecision (s : Store) (id : UUID) (f : AgentDecision → AgentDecision) : Store :=
  { s with decisions := s.decisions.modify id f }

def modifyWebhookEvent (s : Store) (id : UUID)
    (f : ProviderWebhookEvent → ProviderWebhookEvent) : Store :=
  { s with webhookEvents := s.webhookEvents.modify id f }

def modifyWorkflow (s : Store) (id : UUID) (f : RecoveryWorkflow → RecoveryWorkflow) : Store :=
  { s with workflows := s.workflows.modify id f }

end Store

/-! ## Inserts -/

/-- The check of one unique constraint at a flush. -/
def requireFree (taken : Bool) (constraint : Constraint) : Service Unit :=
  if taken then throw (.integrityError constraint) else pure ()

theorem requireFree_bind_apply {α : Type} (taken : Bool) (constraint : Constraint)
    (g : Unit → Service α) (s : Store) :
    (requireFree taken constraint >>= g) s =
      if taken then .error (.integrityError constraint) else g () s := by
  cases taken <;> rfl

def insertCustomer (row : Customer) : Service UUID := do
  let s ← get
  requireFree
    (s.customers.any fun c =>
      c.provider == row.provider && c.externalCustomerId == row.externalCustomerId)
    .uq_customer_provider_external
  set { s with customers := s.customers ++ [row] }
  return s.customers.length

theorem insertCustomer_apply (row : Customer) (s : Store) :
    insertCustomer row s =
      if s.customers.any fun c =>
          c.provider == row.provider && c.externalCustomerId == row.externalCustomerId then
        .error (.integrityError .uq_customer_provider_external)
      else .ok (s.customers.length, { s with customers := s.customers ++ [row] }) :=
  requireFree_bind_apply ..

def insertConsent (row : CustomerConsent) : Service UUID := do
  let s ← get
  requireFree (s.customers[row.customerId]?).isNone .fk_consent_customer
  set { s with consents := s.consents ++ [row] }
  return s.consents.length

def insertTransaction (row : Transaction) : Service UUID := do
  let s ← get
  requireFree
    (s.transactions.any fun t =>
      t.provider == row.provider && t.externalTransactionId == row.externalTransactionId)
    .uq_transaction_provider_external
  set { s with transactions := s.transactions ++ [row] }
  return s.transactions.length

theorem insertTransaction_apply (row : Transaction) (s : Store) :
    insertTransaction row s =
      if s.transactions.any fun t =>
          t.provider == row.provider && t.externalTransactionId == row.externalTransactionId then
        .error (.integrityError .uq_transaction_provider_external)
      else .ok (s.transactions.length, { s with transactions := s.transactions ++ [row] }) :=
  requireFree_bind_apply ..

def insertCase (row : RecoveryCase) : Service UUID := do
  let s ← get
  requireFree (s.recoveryCases.any fun c => c.caseKey == row.caseKey) .uq_recovery_case_key
  set { s with recoveryCases := s.recoveryCases ++ [row] }
  return s.recoveryCases.length

theorem insertCase_apply (row : RecoveryCase) (s : Store) :
    insertCase row s =
      if s.recoveryCases.any fun c => c.caseKey == row.caseKey then
        .error (.integrityError .uq_recovery_case_key)
      else .ok (s.recoveryCases.length, { s with recoveryCases := s.recoveryCases ++ [row] }) :=
  requireFree_bind_apply ..

def insertAttempt (row : RecoveryAttempt) : Service UUID := do
  let s ← get
  requireFree
    (s.attempts.any fun a => a.caseId == row.caseId && a.sequenceNumber == row.sequenceNumber)
    .uq_attempt_case_sequence
  requireFree (s.attempts.any fun a => a.idempotencyKey == row.idempotencyKey)
    .uq_attempt_idempotency_key
  set { s with attempts := s.attempts ++ [row] }
  return s.attempts.length

theorem insertAttempt_apply (row : RecoveryAttempt) (s : Store) :
    insertAttempt row s =
      if s.attempts.any fun a => a.caseId == row.caseId && a.sequenceNumber == row.sequenceNumber
      then .error (.integrityError .uq_attempt_case_sequence)
      else if s.attempts.any fun a => a.idempotencyKey == row.idempotencyKey then
        .error (.integrityError .uq_attempt_idempotency_key)
      else .ok (s.attempts.length, { s with attempts := s.attempts ++ [row] }) := by
  refine (requireFree_bind_apply ..).trans ?_
  congr 1
  exact requireFree_bind_apply ..

def insertDecision (row : AgentDecision) : Service UUID := do
  let s ← get
  set { s with decisions := s.decisions ++ [row] }
  return s.decisions.length

def insertPolicyDecision (row : PolicyDecision) : Service UUID := do
  let s ← get
  set { s with policyDecisions := s.policyDecisions ++ [row] }
  return s.policyDecisions.length

def insertAudit (row : AuditEvent) : Service Unit := do
  let s ← get
  requireFree ((s.auditNumbers row.caseId).contains row.sequenceNumber) .uq_audit_case_sequence
  set { s with auditEvents := s.auditEvents ++ [row] }

theorem insertAudit_apply (row : AuditEvent) (s : Store) :
    insertAudit row s =
      if (s.auditNumbers row.caseId).contains row.sequenceNumber then
        .error (.integrityError .uq_audit_case_sequence)
      else .ok ((), { s with auditEvents := s.auditEvents ++ [row] }) :=
  requireFree_bind_apply ..

def insertTransition (row : CaseStateTransition) : Service Unit := do
  let s ← get
  requireFree ((s.transitionNumbers row.caseId).contains row.sequenceNumber)
    .uq_transition_case_sequence
  set { s with transitions := s.transitions ++ [row] }

theorem insertTransition_apply (row : CaseStateTransition) (s : Store) :
    insertTransition row s =
      if (s.transitionNumbers row.caseId).contains row.sequenceNumber then
        .error (.integrityError .uq_transition_case_sequence)
      else .ok ((), { s with transitions := s.transitions ++ [row] }) :=
  requireFree_bind_apply ..

def insertWebhookEvent (row : ProviderWebhookEvent) : Service UUID := do
  let s ← get
  requireFree
    (s.webhookEvents.any fun e =>
      e.provider == row.provider && e.externalEventId == row.externalEventId)
    .uq_provider_event
  set { s with webhookEvents := s.webhookEvents ++ [row] }
  return s.webhookEvents.length

theorem insertWebhookEvent_apply (row : ProviderWebhookEvent) (s : Store) :
    insertWebhookEvent row s =
      if s.webhookEvents.any fun e =>
          e.provider == row.provider && e.externalEventId == row.externalEventId then
        .error (.integrityError .uq_provider_event)
      else .ok (s.webhookEvents.length, { s with webhookEvents := s.webhookEvents ++ [row] }) :=
  requireFree_bind_apply ..

/-- The keys of all workflow steps. -/
def Store.stepKeys (s : Store) : List String :=
  s.workflows.flatMap fun w => w.steps.map WorkflowStep.idempotencyKey

/-- A workflow is flushed together with its steps. -/
def insertWorkflow (row : RecoveryWorkflow) : Service UUID := do
  let s ← get
  let keys := row.steps.map WorkflowStep.idempotencyKey
  requireFree (!decide keys.Nodup || keys.any s.stepKeys.contains) .uq_step_idempotency_key
  set { s with workflows := s.workflows ++ [row] }
  return s.workflows.length

theorem insertWorkflow_apply (row : RecoveryWorkflow) (s : Store) :
    insertWorkflow row s =
      if !decide (row.steps.map WorkflowStep.idempotencyKey).Nodup ||
          (row.steps.map WorkflowStep.idempotencyKey).any s.stepKeys.contains then
        .error (.integrityError .uq_step_idempotency_key)
      else .ok (s.workflows.length, { s with workflows := s.workflows ++ [row] }) :=
  requireFree_bind_apply ..

def insertExecution (row : RecoveryExecution) : Service UUID := do
  let s ← get
  requireFree (s.executions.any fun e => e.idempotencyKey == row.idempotencyKey)
    .uq_recovery_execution_idempotency
  set { s with executions := s.executions ++ [row] }
  return s.executions.length

theorem insertExecution_apply (row : RecoveryExecution) (s : Store) :
    insertExecution row s =
      if s.executions.any fun e => e.idempotencyKey == row.idempotencyKey then
        .error (.integrityError .uq_recovery_execution_idempotency)
      else .ok (s.executions.length, { s with executions := s.executions ++ [row] }) :=
  requireFree_bind_apply ..

/-- `AuditEventRepository.record`, numbered from the rows in `seen`: those that the session
had flushed when the query for the highest number ran. -/
def AuditEventRepository.recordSeeing (seen : Store) (env : Env) (caseId : UUID)
    (eventType : String) (actorType : ActorType) (fromState toState : Option RecoveryCaseState) :
    Service Unit :=
  insertAudit
    { caseId, eventType, fromState, toState, actorType, eventTime := env.now.naive,
      sequenceNumber := seen.nextAuditNumber caseId }

/-- `AuditEventRepository.record` in a session that has flushed all its rows. -/
def AuditEventRepository.record (env : Env) (caseId : UUID) (eventType : String)
    (actorType : ActorType) (fromState toState : Option RecoveryCaseState) : Service Unit := do
  let s ← get
  AuditEventRepository.recordSeeing s env caseId eventType actorType fromState toState

end RevenueRescue
