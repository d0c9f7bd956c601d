import RevenueRescue.Cases.Triage
import RevenueRescue.Domain.Repositories

/-!
# The case engine

`EventToCaseEngine.process_event`: an event provisions its customer and its transaction,
is matched to a case by the derived key or by the trigger transaction, and then resolves
that case, updates it or opens a new one. `TERMINAL_STATES` protects the history of
resolved cases, and a failure for a case whose transaction succeeded is ignored as stale.
-/

namespace RevenueRescue

open Python

/-- `CanonicalEventDTO`, the normalised event. -/
structure CanonicalEventDTO where
  externalEventId : String
  eventType : String
  provider : String
  occurredAt : Datetime
  customerReference : String
  paymentReference : Option String
  subscriptionReference : Option String
  invoiceReference : Option String
  checkoutSessionId : Option String
  amountMinor : ℕ
  currency : Currency
  failureCode : Option String
  failureMessage : Option String
  metadata : Dict

inductive CaseOutcome where
  | CASE_CREATED | CASE_UPDATED | CASE_RESOLVED | IGNORED | CONFLICT
  deriving DecidableEq, Repr

structure CaseProcessingOutcome where
  outcome : CaseOutcome
  caseId : Option UUID := none
  caseKey : Option String := none
  state : Option RecoveryCaseState := none
  priority : Option ℤ := none
  riskTier : Option RiskTier := none
  reason : String
  deriving DecidableEq, Repr

namespace EventToCaseEngine

def CASE_CREATION_ELIGIBLE_EVENTS : List String :=
  [CanonicalEventType.PAYMENT_FAILED.value, CanonicalEventType.SUBSCRIPTION_PAYMENT_FAILED.value,
    CanonicalEventType.CHECKOUT_ABANDONED.value, CanonicalEventType.INVOICE_OVERDUE.value]

def CASE_RESOLUTION_EVENTS : List String := [CanonicalEventType.PAYMENT_SUCCEEDED.value]

/-- `event.event_type.strip().upper()`. -/
def cleanType (event : CanonicalEventDTO) : String := upper (strip event.eventType)

/-- `EventToCaseEngine.derive_case_key`. -/
def deriveCaseKey (event : CanonicalEventDTO) : String :=
  if truthy event.subscriptionReference then
    let recorded := Dict.get event.metadata "billing_period"
    let billingPeriod :=
      if recorded.truthy then strJson recorded else event.occurredAt.strftimeYearMonth
    "CASE-SUB-" ++ event.subscriptionReference.getD "" ++ "-" ++ billingPeriod
  else if truthy event.invoiceReference then "CASE-INV-" ++ event.invoiceReference.getD ""
  else if truthy event.checkoutSessionId then "CASE-CHK-" ++ event.checkoutSessionId.getD ""
  else if truthy event.paymentReference then
    "CASE-TX-" ++ event.provider ++ "-" ++ event.paymentReference.getD ""
  else "CASE-EVT-" ++ event.provider ++ "-" ++ event.externalEventId

/-- The reference under which the transaction of the event is stored. -/
def transactionReference (event : CanonicalEventDTO) : String :=
  firstTruthy event.paymentReference <| firstTruthy event.invoiceReference <|
    firstTruthy event.checkoutSessionId ("tx_" ++ event.externalEventId)

/-- The customer row an event provisions. -/
def newCustomer (event : CanonicalEventDTO) : Customer :=
  let primary := Dict.get event.metadata "customer_email"
  let email := if primary.truthy then primary else Dict.get event.metadata "email"
  { provider := event.provider
    externalCustomerId := event.customerReference
    email := if email.truthy then some (strJson email) else none
    status := .ACTIVE
    metadataJson := event.metadata }

/-- `EventToCaseEngine._get_or_create_customer`. -/
def getOrCreateCustomer (event : CanonicalEventDTO) : Service UUID := do
  let s ← get
  match s.customerByExternalId event.provider event.customerReference with
  | some (id, _) => pure id
  | none => insertCustomer (newCustomer event)

/-- The transaction row an event provisions. -/
def newTransaction (event : CanonicalEventDTO) (customerId : UUID) : Transaction :=
  { customerId
    provider := event.provider
    externalTransactionId := transactionReference event
    amountMinor := event.amountMinor
    currency := event.currency
    status := if cleanType event ∈ CASE_RESOLUTION_EVENTS then .SUCCEEDED else .FAILED
    failureCode := event.failureCode
    failureMessageSafe := event.failureMessage
    occurredAt := event.occurredAt.naive
    metadataJson := event.metadata }

/-- `EventToCaseEngine._get_or_create_transaction`. -/
def getOrCreateTransaction (event : CanonicalEventDTO) (customerId : UUID) : Service UUID := do
  let s ← get
  match s.transactionByExternalId event.provider (transactionReference event) with
  | some (id, _) => pure id
  | none => insertTransaction (newTransaction event customerId)

/-- The case fields that a resolution rewrites. -/
def resolveCase (env : Env) (case : RecoveryCase) : RecoveryCase :=
  { case with
    state := .RECOVERED
    lastStateChangedAt := env.now.naive
    closedAt := some env.now.naive
    version := case.version + 1 }

/-- `EventToCaseEngine._handle_payment_succeeded`. -/
def handlePaymentSucceeded (env : Env) (existingCase : Option (UUID × RecoveryCase))
    (txId : UUID) : Service CaseProcessingOutcome :=
  match existingCase with
  | none =>
    pure
      { outcome := .IGNORED
        reason := "No active recovery case matching succeeded payment reference." }
  | some (caseId, case) =>
    if case.state.isTerminal then
      pure
        { outcome := .IGNORED, caseId := some caseId, caseKey := some case.caseKey
          state := some case.state
          reason := s!"Recovery case is already terminal ({case.state.value})." }
    else do
      modify fun s => s.modifyCase caseId (resolveCase env)
      modify fun s => s.modifyTransaction txId fun t => { t with status := .SUCCEEDED }
      let s ← get
      insertTransition
        { caseId, fromState := some case.state, toState := .RECOVERED
          reasonCode := "PAYMENT_SUCCEEDED_VERIFIED", actorType := .PROVIDER
          occurredAt := env.now.naive, sequenceNumber := s.nextTransitionNumber caseId }
      AuditEventRepository.record env caseId "CASE_RECOVERED" .PROVIDER (some case.state)
        (some .RECOVERED)
      pure
        { outcome := .CASE_RESOLVED, caseId := some caseId, caseKey := some case.caseKey
          state := some .RECOVERED
          reason := "Case successfully resolved following verified payment confirmation." }

/-- The case fields that a further failure rewrites. -/
def updateCase (env : Env) (event : CanonicalEventDTO) (newFailureCount : Json)
    (case : RecoveryCase) : RecoveryCase :=
  let result := CasePrioritizer.calculatePriority event.amountMinor event.currency.code
    event.failureCode event.eventType case.openedAt env.now
  let optional := fun value : Option String => (value.map Json.str).getD .null
  { case with
    priority := result.priority
    metadataJson := Dict.update case.metadataJson
      [("failure_count", newFailureCount),
        ("latest_failure_event_id", .str event.externalEventId),
        ("latest_failure_code", optional event.failureCode),
        ("latest_failure_message", optional event.failureMessage),
        ("priority_reason", .str result.reason), ("priority_factors", .obj result.factors)]
    lastStateChangedAt := env.now.naive
    version := case.version + 1 }

/-- `EventToCaseEngine._handle_existing_case_update`. -/
def handleExistingCaseUpdate (env : Env) (event : CanonicalEventDTO) (caseId : UUID)
    (case : RecoveryCase) : Service CaseProcessingOutcome := do
  let s ← get
  let txSucceeded := (s.transactions[case.triggerTransactionId]?).any (·.status == .SUCCEEDED)
  if case.state.isTerminal then
    pure
      { outcome := .IGNORED, caseId := some caseId, caseKey := some case.caseKey
        state := some case.state
        reason := "Recovery case is already in terminal state '" ++ case.state.value ++
          "'. Historical resolution preserved." }
  else if txSucceeded then
    -- out-of-order protection
    pure
      { outcome := .IGNORED, caseId := some caseId, caseKey := some case.caseKey
        state := some case.state
        reason := "Stale failure event ignored; associated transaction has already succeeded." }
  else
    match ((case.metadataJson.lookup "failure_count").getD (.int 1)).addOne with
    | none => throw .typeError
    | some newFailureCount => do
      modify fun s => s.modifyCase caseId (updateCase env event newFailureCount)
      AuditEventRepository.record env caseId "CASE_UPDATED" .SYSTEM (some case.state)
        (some case.state)
      pure
        { outcome := .CASE_UPDATED, caseId := some caseId, caseKey := some case.caseKey
          state := some case.state
          priority := some (updateCase env event newFailureCount case).priority
          reason := "Case updated with subsequent failure event. Total failures: " ++
            strJson newFailureCount ++ "." }

/-- The case row a failure opens. -/
def newCase (env : Env) (event : CanonicalEventDTO) (customerId txId : UUID)
    (risk : RiskClassificationResult) : RecoveryCase :=
  let result := CasePrioritizer.calculatePriority event.amountMinor event.currency.code
    event.failureCode event.eventType env.now env.now
  let optional := fun value : Option String => (value.map Json.str).getD .null
  { customerId
    triggerTransactionId := txId
    caseKey := deriveCaseKey event
    state := .DETECTED
    priority := result.priority
    openedAt := env.now.naive
    lastStateChangedAt := env.now.naive
    closedAt := none
    version := 1
    metadataJson := Dict.update event.metadata
      [("source_event_id", .str event.externalEventId), ("provider", .str event.provider),
        ("event_type", .str event.eventType), ("failure_code", optional event.failureCode),
        ("failure_message", optional event.failureMessage), ("failure_count", .int 1),
        ("risk_tier", .str risk.riskTier.value), ("risk_reason", .str risk.reason),
        ("risk_factors", .obj risk.factors), ("priority_reason", .str result.reason),
        ("priority_factors", .obj result.factors), ("amount_minor", .int event.amountMinor),
        ("currency", .str event.currency.code)] }

/-- The insert under a savepoint: `inl` is the identity of the new case, `inr` a case that
took the key in the meantime. -/
def insertCaseOrExisting (row : RecoveryCase) : Service (UUID ⊕ UUID × RecoveryCase) :=
  tryCatch (do let id ← insertCase row; pure (.inl id)) fun fault =>
    match fault with
    | .integrityError _ => do
      let s ← get
      match s.caseByKey row.caseKey with
      | some existing => pure (.inr existing)
      | none => throw fault
    | _ => throw fault

/-- `EventToCaseEngine._create_new_case`. -/
def createNewCase (env : Env) (event : CanonicalEventDTO) (customerId txId : UUID) :
    Service CaseProcessingOutcome :=
  match CaseRiskClassifier.classifyRisk event.amountMinor event.currency.code event.failureCode
      event.eventType (Dict.get event.metadata "customer_tier") with
  | .error fault => throw fault
  | .ok risk => do
    let case := newCase env event customerId txId risk
    match ← insertCaseOrExisting case with
    | .inr (existingId, existing) => handleExistingCaseUpdate env event existingId existing
    | .inl caseId => do
      insertTransition
        { caseId, fromState := none, toState := .DETECTED
          reasonCode := "AUTOMATIC_EVENT_INGESTION", actorType := .SYSTEM
          occurredAt := env.now.naive, sequenceNumber := 1 }
      AuditEventRepository.record env caseId "CASE_OPENED" .SYSTEM none (some .DETECTED)
      pure
        { outcome := .CASE_CREATED, caseId := some caseId, caseKey := some case.caseKey
          state := some .DETECTED, priority := some case.priority
          riskTier := some risk.riskTier
          reason := "Recovery case opened. Priority: " ++ toString case.priority ++ " (" ++
            strJson (Dict.get case.metadataJson "priority_reason") ++ "). Risk: " ++
            upper risk.riskTier.value ++ "." }

/-- The lookup by key, then by trigger transaction. -/
def findExistingCase (s : Store) (event : CanonicalEventDTO) (txId : UUID) :
    Option (UUID × RecoveryCase) :=
  match s.caseByKey (deriveCaseKey event) with
  | some existing => some existing
  | none => s.caseByTriggerTransaction txId

/-- `EventToCaseEngine.process_event`. -/
def processEvent (env : Env) (event : CanonicalEventDTO) : Service CaseProcessingOutcome :=
  if cleanType event ∈ CASE_CREATION_ELIGIBLE_EVENTS ++ CASE_RESOLUTION_EVENTS then do
    let customerId ← getOrCreateCustomer event
    let txId ← getOrCreateTransaction event customerId
    let s ← get
    let existingCase := findExistingCase s event txId
    if cleanType event ∈ CASE_RESOLUTION_EVENTS then
      handlePaymentSucceeded env existingCase txId
    else
      match existingCase with
      | some (caseId, case) => handleExistingCaseUpdate env event caseId case
      | none => createNewCase env event customerId txId
  else
    pure
      { outcome := .IGNORED
        reason := s!"Event type '{event.eventType}' does not trigger case management actions." }

end EventToCaseEngine

end RevenueRescue
