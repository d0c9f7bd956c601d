import RevenueRescue.Concurrency.Tables

/-!
# Requests as sequences of statements

`RecoveryCaseService.transition_state`, `EventToCaseEngine.process_event` and
`EventService.ingest_canonical_event`, statement by statement. The sessions are made with
`autoflush=False`, so the changes to a loaded row and the rows of the two logs are sent
together at the end of a request, after the queries for their sequence numbers; new customers,
transactions, cases and receipts are flushed at once, the last two under a savepoint.

No query locks the row of a case and no update compares its version. The arguments `drawn` are
the `uuid4` draws of the request.
-/

namespace RevenueRescue

open Python ReadCommitted

/-- The statements of a request. A query that loads the row of a case is labelled with it. -/
abbrev Statements (α : Type) : Type := Program Tables Fault RowLock UUID α

/-- The primary keys that a request draws for its new rows. -/
structure Drawn where
  customerId : UUID
  transactionId : UUID
  caseId : UUID
  webhookEventId : UUID
  deriving DecidableEq, Repr

namespace Concurrent

variable {α : Type}

/-- A query that loads no case. -/
def select (read : Tables → α) : Statements α := .query (fun _ => none) fun t => .done (read t)

/-- A query for the row of a case. -/
def selectCase (read : Tables → Option (UUID × RecoveryCase)) :
    Statements (Option (UUID × RecoveryCase)) :=
  .query (fun t => (read t).map Prod.fst) fun t => .done (read t)

/-- Send one write; a violation ends the request. -/
def flush (u : RowWrite) : Statements Unit := .update u (.done ()) .fail

section Transition

open RecoveryCaseService

/-- The columns that an explicit transition sets, on the row that is there by then. -/
def setTransitioned (env : Env) (toState : RecoveryCaseState) (loaded row : RecoveryCase) :
    RecoveryCase :=
  { applyTransition env toState row with version := loaded.version + 1 }

/-- `RecoveryCaseService.transition_state` once the case is loaded. -/
def transitionLoaded (env : Env) (caseId : UUID) (transition : CaseStateTransitionDTO)
    (case : RecoveryCase) : Statements Unit :=
  if case.state.isTerminal ∨ case.state = transition.toState then
    .fail (.invalidStateTransition case.state.value transition.toState.value)
  else do
    let transitionNumber ← select (·.nextTransitionNumber caseId)
    let auditNumber ← select (·.nextAuditNumber caseId)
    flush (.updateCase caseId (setTransitioned env transition.toState case))
    flush (.insertTransition
      { caseId, fromState := some case.state, toState := transition.toState
        reasonCode := transition.reasonCode, actorType := transition.actorType
        occurredAt := env.now.naive, sequenceNumber := transitionNumber })
    flush (.insertAudit
      { caseId, eventType := "STATE_TRANSITION", fromState := some case.state
        toState := some transition.toState, actorType := transition.actorType
        eventTime := env.now.naive, sequenceNumber := auditNumber })

/-- `RecoveryCaseService.transition_state`. -/
def transitionState (env : Env) (caseId : UUID) (transition : CaseStateTransitionDTO) :
    Statements Unit := do
  match ← selectCase (·.caseById caseId) with
  | none => .fail (.entityNotFound "RecoveryCase" (UUID.str caseId))
  | some (_, case) => transitionLoaded env caseId transition case

end Transition

section Engine

open EventToCaseEngine

/-- `EventToCaseEngine._get_or_create_customer`. -/
def getOrCreateCustomer (event : CanonicalEventDTO) (drawn : Drawn) :
    Statements (UUID × Customer) :=
  let row := newCustomer event
  .findOrInsert (·.customerByExternalId row.provider row.externalCustomerId)
    (RowWrite.insertCustomer drawn.customerId row) (drawn.customerId, row)

/-- `EventToCaseEngine._get_or_create_transaction`. -/
def getOrCreateTransaction (event : CanonicalEventDTO) (drawn : Drawn) (customerId : UUID) :
    Statements (UUID × Transaction) :=
  let row := newTransaction event customerId
  .findOrInsert (·.transactionByExternalId row.provider row.externalTransactionId)
    (RowWrite.insertTransaction drawn.transactionId row) (drawn.transactionId, row)

/-- `tx.status = SUCCEEDED`, which is sent only when it changes the row that was loaded. -/
def markSucceeded (tx : UUID × Transaction) : Statements Unit :=
  if tx.2.status = .SUCCEEDED then pure ()
  else flush (.updateTransaction tx.1 fun t => { t with status := .SUCCEEDED })

/-- The columns that a resolution sets. -/
def setResolved (env : Env) (loaded row : RecoveryCase) : RecoveryCase :=
  { resolveCase env row with version := loaded.version + 1 }

/-- `EventToCaseEngine._handle_payment_succeeded` on an active case. -/
def resolveLoaded (env : Env) (caseId : UUID) (case : RecoveryCase) (tx : UUID × Transaction) :
    Statements CaseProcessingOutcome := do
  let transitionNumber ← select (·.nextTransitionNumber caseId)
  let auditNumber ← select (·.nextAuditNumber caseId)
  markSucceeded tx
  flush (.updateCase caseId (setResolved env case))
  flush (.insertTransition
    { caseId, fromState := some case.state, toState := .RECOVERED
      reasonCode := "PAYMENT_SUCCEEDED_VERIFIED", actorType := .PROVIDER
      occurredAt := env.now.naive, sequenceNumber := transitionNumber })
  flush (.insertAudit
    { caseId, eventType := "CASE_RECOVERED", fromState := some case.state
      toState := some .RECOVERED, actorType := .PROVIDER, eventTime := env.now.naive
      sequenceNumber := auditNumber })
  pure
    { outcome := .CASE_RESOLVED, caseId := some caseId, caseKey := some case.caseKey
      state := some .RECOVERED
      reason := "Case successfully resolved following verified payment confirmation." }

/-- `EventToCaseEngine._handle_payment_succeeded`. -/
def handlePaymentSucceeded (env : Env) (existingCase : Option (UUID × RecoveryCase))
    (tx : UUID × Transaction) : Statements CaseProcessingOutcome :=
  match existingCase with
  | none =>
    pure
      { outcome := .IGNORED
        reason := "No active recovery case matching succeeded payment reference." }
  | some (caseId, case) =>
    if case.state.isTerminal then
      pure
        { outcome := .IGNORED, caseId := some caseId, caseKey := some case.caseKey
          state := some case.state
          reason := s!"Recovery case is already terminal ({case.state.value})." }
    else resolveLoaded env caseId case tx

/-- The columns that a further failure sets. The priority is sent only when it changes the row
that was loaded. -/
def setUpdated (env : Env) (event : CanonicalEventDTO) (newFailureCount : Json)
    (loaded row : RecoveryCase) : RecoveryCase :=
  let updated := updateCase env event newFailureCount loaded
  { row with
    priority := if updated.priority = loaded.priority then row.priority else updated.priority
    metadataJson := updated.metadataJson
    lastStateChangedAt := updated.lastStateChangedAt
    version := updated.version }

/-- `session.get(Transaction, case.trigger_transaction_id)`: the session hands out the row that
it has loaded for the event when that is the one. -/
def triggerTransaction (case : RecoveryCase) (tx : UUID × Transaction) :
    Statements (Option Transaction) :=
  if case.triggerTransactionId = tx.1 then pure (some tx.2)
  else select fun t => (t.transactionById case.triggerTransactionId).map Prod.snd

/-- `EventToCaseEngine._handle_existing_case_update` on a case that is still at risk. -/
def updateLoaded (env : Env) (event : CanonicalEventDTO) (caseId : UUID) (case : RecoveryCase) :
    Statements CaseProcessingOutcome :=
  match ((case.metadataJson.lookup "failure_count").getD (.int 1)).addOne with
  | none => .fail .typeError
  | some newFailureCount => do
    let auditNumber ← select (·.nextAuditNumber caseId)
    flush (.updateCase caseId (setUpdated env event newFailureCount case))
    flush (.insertAudit
      { caseId, eventType := "CASE_UPDATED", fromState := some case.state
        toState := some case.state, actorType := .SYSTEM, eventTime := env.now.naive
        sequenceNumber := auditNumber })
    pure
      { outcome := .CASE_UPDATED, caseId := some caseId, caseKey := some case.caseKey
        state := some case.state
        priority := some (updateCase env event newFailureCount case).priority
        reason := "Case updated with subsequent failure event. Total failures: " ++
          strJson newFailureCount ++ "." }

/-- `EventToCaseEngine._handle_existing_case_update`. -/
def handleExistingCaseUpdate (env : Env) (event : CanonicalEventDTO) (caseId : UUID)
    (case : RecoveryCase) (tx : UUID × Transaction) : Statements CaseProcessingOutcome :=
  if case.state.isTerminal then
    pure
      { outcome := .IGNORED, caseId := some caseId, caseKey := some case.caseKey
        state := some case.state
        reason := "Recovery case is already in terminal state '" ++ case.state.value ++
          "'. Historical resolution preserved." }
  else do
    let trigger ← triggerTransaction case tx
    if trigger.any (·.status == .SUCCEEDED) then
      -- out-of-order protection
      pure
        { outcome := .IGNORED, caseId := some caseId, caseKey := some case.caseKey
          state := some case.state
          reason := "Stale failure event ignored; associated transaction has already succeeded." }
    else updateLoaded env event caseId case

/-- The insert under a savepoint: `inl` is the identity of the new case, `inr` a case that took
the key in the meantime. -/
def insertCaseOrExisting (drawn : Drawn) (row : RecoveryCase) :
    Statements (UUID ⊕ UUID × RecoveryCase) :=
  .update (RowWrite.insertCase drawn.caseId row) (.done (.inl drawn.caseId)) fun fault => do
    match ← selectCase (·.caseByKey row.caseKey) with
    | some existing => pure (.inr existing)
    | none => .fail fault

/-- `EventToCaseEngine._create_new_case` once the case is inserted. -/
def openedCase (env : Env) (risk : RiskClassificationResult) (caseId : UUID)
    (case : RecoveryCase) : Statements CaseProcessingOutcome := do
  let auditNumber ← select (·.nextAuditNumber caseId)
  flush (.insertTransition
    { caseId, fromState := none, toState := .DETECTED
      reasonCode := "AUTOMATIC_EVENT_INGESTION", actorType := .SYSTEM
      occurredAt := env.now.naive, sequenceNumber := 1 })
  flush (.insertAudit
    { caseId, eventType := "CASE_OPENED", fromState := none, toState := some .DETECTED
      actorType := .SYSTEM, eventTime := env.now.naive, sequenceNumber := auditNumber })
  pure
    { outcome := .CASE_CREATED, caseId := some caseId, caseKey := some case.caseKey
      state := some .DETECTED, priority := some case.priority, riskTier := some risk.riskTier
      reason := "Recovery case opened. Priority: " ++ toString case.priority ++ " (" ++
        strJson (Dict.get case.metadataJson "priority_reason") ++ "). Risk: " ++
        upper risk.riskTier.value ++ "." }

/-- `EventToCaseEngine._create_new_case`. -/
def createNewCase (env : Env) (event : CanonicalEventDTO) (drawn : Drawn) (customerId : UUID)
    (tx : UUID × Transaction) : Statements CaseProcessingOutcome :=
  match CaseRiskClassifier.classifyRisk event.amountMinor event.currency.code event.failureCode
      event.eventType (Dict.get event.metadata "customer_tier") with
  | .error fault => .fail fault
  | .ok risk => do
    let case := newCase env event customerId tx.1 risk
    match ← insertCaseOrExisting drawn case with
    | .inr (existingId, existing) => handleExistingCaseUpdate env event existingId existing tx
    | .inl caseId => openedCase env risk caseId case

/-- The lookup by key, then by trigger transaction. -/
def findExistingCase (event : CanonicalEventDTO) (txId : UUID) :
    Statements (Option (UUID × RecoveryCase)) := do
  match ← selectCase (·.caseByKey (deriveCaseKey event)) with
  | some existing => pure (some existing)
  | none => selectCase (·.caseByTriggerTransaction txId)

/-- The branches of `EventToCaseEngine.process_event`. -/
def handleEvent (env : Env) (event : CanonicalEventDTO) (drawn : Drawn) (customerId : UUID)
    (tx : UUID × Transaction) (existingCase : Option (UUID × RecoveryCase)) :
    Statements CaseProcessingOutcome :=
  if cleanType event ∈ CASE_RESOLUTION_EVENTS then handlePaymentSucceeded env existingCase tx
  else
    match existingCase with
    | some (caseId, case) => handleExistingCaseUpdate env event caseId case tx
    | none => createNewCase env event drawn customerId tx

/-- `EventToCaseEngine.process_event`. -/
def processEvent (env : Env) (event : CanonicalEventDTO) (drawn : Drawn) :
    Statements CaseProcessingOutcome :=
  if cleanType event ∈ CASE_CREATION_ELIGIBLE_EVENTS ++ CASE_RESOLUTION_EVENTS then do
    let customer ← getOrCreateCustomer event drawn
    let tx ← getOrCreateTransaction event drawn customer.1
    let existingCase ← findExistingCase event tx.1
    handleEvent env event drawn customer.1 tx existingCase
  else
    pure
      { outcome := .IGNORED
        reason := s!"Event type '{event.eventType}' does not trigger case management actions." }

end Engine

section Delivery

open WebhookEventRepository

/-- `WebhookEventRepository.record`. -/
def record (drawn : Drawn) (row : ProviderWebhookEvent) : Statements EventRecordResult := do
  match ← select (·.receipt row.provider row.externalEventId) with
  | some existing => pure (compareReceipt existing row.payloadHash)
  | none =>
    .update (RowWrite.insertWebhookEvent drawn.webhookEventId row)
      (.done ⟨drawn.webhookEventId, true, false, "accepted", false⟩) fun fault => do
        match ← select (·.receipt row.provider row.externalEventId) with
        | some existing => pure (compareReceipt existing row.payloadHash)
        | none => .fail fault

/-- `WebhookEventRepository.mark_processed`. -/
def markProcessed (id : UUID) : Statements Unit :=
  flush (.updateWebhookEvent id fun e => { e with processed := true })

/-- `EventDeduplicator.evaluate_and_record`. -/
def evaluateAndRecord (event : CanonicalEventDTO) (payloadHash : String)
    (signatureVerified : Bool) (ingestionStatus : String) (drawn : Drawn) :
    Statements EventRecordResult := do
  let result ← record drawn
    { provider := lower event.provider, externalEventId := event.externalEventId
      eventType := event.eventType, payloadHash, signatureVerified, processed := false
      payloadSafe := event.modelDump, ingestionStatus }
  if result.conflict then
    .fail (.conflictingDuplicateEvent event.externalEventId event.provider)
  else pure result

/-- `EventService.ingest_canonical_event` and `ingest_raw_webhook` on the normalised event. -/
def ingestCanonicalEvent (env : Env) (event : CanonicalEventDTO) (payloadHash : String)
    (signatureVerified : Bool) (drawn : Drawn) : Statements EventRecordResult :=
  match EventValidator.validate env event with
  | .error fault => .fail fault
  | .ok () => do
    let result ← evaluateAndRecord event payloadHash signatureVerified "ACCEPTED" drawn
    if result.duplicate then pure result
    else do
      let _ ← processEvent env event drawn
      markProcessed result.eventId
      pure result

end Delivery

end Concurrent

/-! ## The operations that write to a case -/

/-- An operation, with what it is asked and the keys it draws. -/
inductive CaseOperation where
  | transitionState (caseId : UUID) (transition : RecoveryCaseService.CaseStateTransitionDTO)
  | processEvent (event : CanonicalEventDTO) (drawn : Drawn)

/-- What a committed operation answers. -/
inductive CaseAnswer where
  | transitioned (caseId : UUID)
  | processed (outcome : CaseProcessingOutcome)
  deriving DecidableEq, Repr

/-- The case that an operation with this answer has written to. -/
def CaseAnswer.mutated : CaseAnswer → Option UUID
  | .transitioned caseId => some caseId
  | .processed outcome =>
    if outcome.outcome ∈ [.CASE_CREATED, .CASE_UPDATED, .CASE_RESOLVED] then outcome.caseId
    else none

/-- The statements of an operation, up to its commit. -/
def CaseOperation.statements (env : Env) : CaseOperation → Statements CaseAnswer
  | .transitionState caseId transition => do
    Concurrent.transitionState env caseId transition
    pure (.transitioned caseId)
  | .processEvent event drawn => do
    let outcome ← Concurrent.processEvent env event drawn
    pure (.processed outcome)

/-- The key an operation has drawn for a new case. -/
def CaseOperation.drawnCase : CaseOperation → Option UUID
  | .transitionState _ _ => none
  | .processEvent _ drawn => some drawn.caseId

end RevenueRescue
