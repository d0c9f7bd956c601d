import RevenueRescue.Cases.Service
import RevenueRescue.Workflows.Execution

/-!
# Payment reconciliation

`PaymentReconciliationService` compares a case and its trigger transaction with the answer
of the provider and, when asked to, resolves the difference. Depending on the branch it
moves the case through `CaseTransitionService` or assigns the state directly.
-/

namespace RevenueRescue

open Python

/-- What the provider answers to a status query for a payment reference, `none` when the
adapter raises. -/
abbrev StatusProvider : Type := String → Option ExecutionResult

structure ReconciliationReport where
  caseId : UUID
  transactionId : UUID
  internalStatus : TransactionStatus
  providerStatus : ExecutionStatus
  status : ReconciliationStatus
  discrepancies : List String
  resolutionAction : Option String
  providerRef : Option String
  executionsCount : ℕ
  deriving DecidableEq, Repr

namespace PaymentReconciliationService

/-- The reference the provider is asked about. -/
def providerReference (s : Store) (caseId : UUID) (txn : Transaction) : Option String :=
  let fromTransaction :=
    if txn.externalTransactionId ≠ "" ∧ ¬startsWith txn.externalTransactionId "tx_" then
      some txn.externalTransactionId
    else none
  match (s.executionsOf caseId).head? with
  | some latest => if truthy latest.externalReference then latest.externalReference else fromTransaction
  | none => fromTransaction

/-- Whether the receipts that match the reference report both a success and a failure. -/
def conflictingWebhooks (s : Store) (providerRef : Option String) : Bool :=
  let matching := s.webhookEvents.filter fun e =>
    like e.externalEventId ("%" ++ providerRef.getD "" ++ "%")
  decide (1 < matching.length) && matching.any (·.eventType == "PAYMENT_SUCCEEDED") &&
    matching.any (·.eventType == "PAYMENT_FAILED")

/-- The status the provider reports, `UNKNOWN` when there is nothing to ask about. -/
def providerStatusOf (provider : StatusProvider) (providerRef : Option String) :
    Except Fault ExecutionStatus :=
  match providerRef with
  | some ref =>
    match provider ref with
    | some result => .ok result.status
    | none => .error .adapterError
  | none => .ok .UNKNOWN

/-- The provider confirms a payment that is unresolved here. -/
def resolveToSucceeded (env : Env) (caseId : UUID) (case : RecoveryCase) : Service Unit := do
  modify fun s => s.modifyTransaction case.triggerTransactionId fun t =>
    { t with status := .SUCCEEDED }
  if case.state ∉ [RecoveryCaseState.RECOVERED, .CLOSED] then
    if case.state = .VERIFICATION_PENDING then do
      let _ ← CaseTransitionService.transition env caseId .RECOVERED "reconciled_provider_success"
        .SYSTEM
    else
      -- neither a transition record nor a new version
      modify fun s => s.modifyCase caseId fun c =>
        { c with state := .RECOVERED, closedAt := some env.now.naive }

/-- The provider reports that a pending payment failed. -/
def resolveToFailed (env : Env) (caseId : UUID) (case : RecoveryCase) : Service Unit := do
  modify fun s => s.modifyTransaction case.triggerTransactionId fun t =>
    { t with status := .FAILED }
  if case.state = .VERIFICATION_PENDING then do
    let _ ← CaseTransitionService.transition env caseId .RETRY_ELIGIBLE
      "reconciled_provider_failure" .SYSTEM

/-- The branch of the comparison: the discrepancies it adds and the resolution it takes. -/
def compareAndResolve (env : Env) (autoResolve : Bool) (caseId : UUID) (case : RecoveryCase)
    (txn : Transaction) (providerStatus : ExecutionStatus) :
    Service (List String × Option String) :=
  if txn.status ∈ [TransactionStatus.FAILED, .PENDING] ∧ providerStatus = .SUCCEEDED then
    if autoResolve then do
      resolveToSucceeded env caseId case
      pure (["INTERNAL_UNRESOLVED_PROVIDER_SUCCEEDED"], some "RESOLVED_TO_SUCCEEDED")
    else pure (["INTERNAL_UNRESOLVED_PROVIDER_SUCCEEDED"], none)
  else if txn.status = .PENDING ∧ providerStatus = .FAILED then
    if autoResolve then do
      resolveToFailed env caseId case
      pure (["INTERNAL_PENDING_PROVIDER_FAILED"], some "RESOLVED_TO_FAILED")
    else pure (["INTERNAL_PENDING_PROVIDER_FAILED"], none)
  else if providerStatus = .UNKNOWN then
    if autoResolve ∧ case.state ∉ [RecoveryCaseState.ESCALATED, .CLOSED] then do
      let _ ← CaseTransitionService.transition env caseId .ESCALATED
        "reconciliation_outcome_unknown" .SYSTEM
      pure (["PROVIDER_STATUS_UNKNOWN"], some "ESCALATED_FOR_MANUAL_REVIEW")
    else pure (["PROVIDER_STATUS_UNKNOWN"], none)
  else pure ([], none)

/-- The final classification. -/
def classify (discrepancies : List String) (resolutionAction : Option String) :
    ReconciliationStatus :=
  if discrepancies.isEmpty then .MATCHED
  else
    match resolutionAction with
    | some action =>
      if isIn "ESCALATED" action then .ESCALATED
      else if action ≠ "" then .RESOLVED
      else .DISCREPANCY_DETECTED
    | none => .DISCREPANCY_DETECTED

/-- The audit record of a reconciliation, numbered by the length of the case's log. -/
def recordReconciled (env : Env) (caseId : UUID) : Service Unit := do
  let s ← get
  let state := (s.recoveryCases[caseId]?).map RecoveryCase.state
  insertAudit
    { caseId, eventType := "PAYMENT_RECONCILED", fromState := state, toState := state
      actorType := .SYSTEM, eventTime := env.now.naive
      sequenceNumber := (s.auditsOf caseId).length + 1 }

/-- `PaymentReconciliationService.reconcile_case`. -/
def reconcileCase (env : Env) (provider : StatusProvider) (autoResolve : Bool)
    (caseId : UUID) : Service ReconciliationReport := do
  let s ← get
  match s.recoveryCases[caseId]? with
  | none => throw (.valueError ("RecoveryCase not found: " ++ UUID.str caseId))
  | some case =>
    match s.transactions[case.triggerTransactionId]? with
    | none =>
      throw (.valueError ("Transaction not found: " ++ UUID.str case.triggerTransactionId))
    | some txn =>
      let providerRef := providerReference s caseId txn
      match providerStatusOf provider providerRef with
      | .error fault => throw fault
      | .ok providerStatus => do
        let (found, resolutionAction) ←
          compareAndResolve env autoResolve caseId case txn providerStatus
        let discrepancies :=
          (if providerRef.isNone then ["MISSING_PROVIDER_PAYMENT_REFERENCE"] else []) ++
            (if conflictingWebhooks s providerRef then ["CONFLICTING_WEBHOOK_EVENT_HISTORY"]
              else []) ++ found
        recordReconciled env caseId
        let after ← get
        return {
          caseId
          transactionId := case.triggerTransactionId
          internalStatus :=
            ((after.transactions[case.triggerTransactionId]?).getD txn).status
          providerStatus
          status := classify discrepancies resolutionAction
          discrepancies
          resolutionAction
          providerRef
          executionsCount := (s.executionsOf caseId).length }

/-- The cases a batch selects, the one waiting longest first. -/
def pendingCases (s : Store) (limit : ℕ) : List UUID :=
  ((s.recoveryCases.zipIdx.filter fun entry => entry.1.state == .VERIFICATION_PENDING).insertionSort
    fun a b => a.1.lastStateChangedAt.wall ≤ b.1.lastStateChangedAt.wall).take limit |>.map Prod.snd

/-- Reconcile the cases one after the other, each in its own commit, up to the first fault. Every
case meets the provider at a moment of its own. -/
def reconcileEach (env : Env) (provider : UUID → StatusProvider) :
    List UUID → Store → Store × Except Fault (List ReconciliationReport)
  | [], s => (s, .ok [])
  | caseId :: rest, s =>
    match reconcileCase env (provider caseId) true caseId s with
    | .error fault => (s, .error fault)
    | .ok (report, s') =>
      let (final, reports) := reconcileEach env provider rest s'
      (final, reports.map (report :: ·))

/-- `PaymentReconciliationService.reconcile_pending_cases`. -/
def reconcilePendingCases (env : Env) (provider : UUID → StatusProvider) (limit : ℕ) (s : Store) :
    Store × Except Fault (List ReconciliationReport) :=
  reconcileEach env provider (pendingCases s limit) s

end PaymentReconciliationService

end RevenueRescue
