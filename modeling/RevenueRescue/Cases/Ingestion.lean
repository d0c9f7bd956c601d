import RevenueRescue.Base.Text
import RevenueRescue.Cases.Engine

/-!
# Event ingestion

The part of `EventService.ingest_canonical_event` after normalisation: the event is
validated, its receipt is recorded under the unique constraint of the provider and the
event id, and only a new receipt reaches the case engine. The digest of the canonical
payload is an argument, since only its equality with a stored digest matters here.
-/

namespace RevenueRescue

open Python

namespace EventValidator

def SUPPORTED_EVENT_TYPES : List String :=
  [CanonicalEventType.PAYMENT_FAILED.value, CanonicalEventType.PAYMENT_SUCCEEDED.value,
    CanonicalEventType.SUBSCRIPTION_PAYMENT_FAILED.value,
    CanonicalEventType.CHECKOUT_ABANDONED.value, CanonicalEventType.INVOICE_OVERDUE.value]

/-- `not text or not text.strip()`. -/
def isBlank (text : Option String) : Bool := strip (text.getD "") == ""

/-- Raise an `EventValidationException` unless the check holds. -/
def check (holds : Bool) (message field : String) : Except Fault Unit :=
  if holds then .ok () else .error (.eventValidation message field)

/-- The rules for text that must be present and has a maximal length. -/
def checkText (text : String) (limit : ℕ) (emptyMessage longMessage field : String) :
    Except Fault Unit := do
  check (!isBlank (some text)) emptyMessage field
  check (decide (text.toList.length ≤ limit)) longMessage field

def validatePaymentFailed (event : CanonicalEventDTO) : Except Fault Unit := do
  check (!isBlank event.paymentReference) "PAYMENT_FAILED requires a payment_reference."
    "payment_reference"
  check (!isBlank event.failureCode) "PAYMENT_FAILED requires a failure_code." "failure_code"

def validatePaymentSucceeded (event : CanonicalEventDTO) : Except Fault Unit :=
  check (!isBlank event.paymentReference) "PAYMENT_SUCCEEDED requires a payment_reference."
    "payment_reference"

def validateSubscriptionFailed (event : CanonicalEventDTO) : Except Fault Unit := do
  check (truthy event.subscriptionReference || truthy event.paymentReference)
    "SUBSCRIPTION_PAYMENT_FAILED requires a subscription_reference or payment_reference."
    "subscription_reference"
  check (!isBlank event.failureCode) "SUBSCRIPTION_PAYMENT_FAILED requires a failure_code."
    "failure_code"

def validateCheckoutAbandoned (event : CanonicalEventDTO) : Except Fault Unit :=
  check (truthy event.checkoutSessionId || (Dict.get event.metadata "checkout_id").truthy)
    "CHECKOUT_ABANDONED requires a checkout_session_id." "checkout_session_id"

def validateInvoiceOverdue (event : CanonicalEventDTO) : Except Fault Unit :=
  check (truthy event.invoiceReference || (Dict.get event.metadata "invoice_id").truthy)
    "INVOICE_OVERDUE requires an invoice_reference." "invoice_reference"

/-- The rules of one event type. -/
def validateByType (event : CanonicalEventDTO) : Except Fault Unit :=
  if event.eventType = CanonicalEventType.PAYMENT_FAILED.value then validatePaymentFailed event
  else if event.eventType = CanonicalEventType.PAYMENT_SUCCEEDED.value then
    validatePaymentSucceeded event
  else if event.eventType = CanonicalEventType.SUBSCRIPTION_PAYMENT_FAILED.value then
    validateSubscriptionFailed event
  else if event.eventType = CanonicalEventType.CHECKOUT_ABANDONED.value then
    validateCheckoutAbandoned event
  else if event.eventType = CanonicalEventType.INVOICE_OVERDUE.value then
    validateInvoiceOverdue event
  else .ok ()

/-- `EventValidator.validate`. The types of the event already exclude a negative amount and a
malformed currency. -/
def validate (env : Env) (event : CanonicalEventDTO) : Except Fault Unit := do
  if event.eventType ∉ SUPPORTED_EVENT_TYPES then
    throw (.unsupportedEventType event.eventType)
  checkText event.externalEventId 200 "Event external_event_id cannot be empty."
    "Event external_event_id exceeds maximum length of 200." "external_event_id"
  checkText event.provider 64 "Event provider cannot be empty."
    "Event provider exceeds maximum length of 64." "provider"
  checkText event.customerReference 128 "Customer reference cannot be empty."
    "Customer reference exceeds maximum length of 128." "customer_reference"
  check
    (decide (event.occurredAt.assumeUtc.instant ≤ env.now.instant + 15 * 60 * 1000000))
    "Event occurred_at cannot be in the future." "occurred_at"
  validateByType event

end EventValidator

/-- The outcome of recording a receipt. -/
structure EventRecordResult where
  eventId : UUID
  accepted : Bool
  duplicate : Bool
  reason : String
  conflict : Bool
  deriving DecidableEq, Repr

namespace WebhookEventRepository

/-- The answer when the receipt is already stored. -/
def compareReceipt (existing : UUID × ProviderWebhookEvent) (payloadHash : String) :
    EventRecordResult :=
  if existing.2.payloadHash ≠ payloadHash then
    ⟨existing.1, false, true, "event_id_reused_with_different_payload", true⟩
  else ⟨existing.1, false, true, "duplicate_event_suppressed", false⟩

/-- The stored receipt of a provider's event id. -/
def find (s : Store) (provider externalEventId : String) :
    Option (UUID × ProviderWebhookEvent) :=
  Table.find? (fun e => e.provider == provider && e.externalEventId == externalEventId)
    s.webhookEvents

/-- `WebhookEventRepository.record`. -/
def record (row : ProviderWebhookEvent) : Service EventRecordResult := do
  let s ← get
  match find s row.provider row.externalEventId with
  | some existing => pure (compareReceipt existing row.payloadHash)
  | none =>
    tryCatch
      (do
        let id ← insertWebhookEvent row
        pure ⟨id, true, false, "accepted", false⟩)
      fun fault =>
        match fault with
        | .integrityError _ => do
          let s ← get
          match find s row.provider row.externalEventId with
          | some existing => pure (compareReceipt existing row.payloadHash)
          | none => throw fault
        | _ => throw fault

/-- `WebhookEventRepository.mark_processed`. -/
def markProcessed (id : UUID) : Service Unit :=
  modify fun s => s.modifyWebhookEvent id fun e => { e with processed := true }

end WebhookEventRepository

/-- `event.model_dump(mode="json")`. -/
def CanonicalEventDTO.modelDump (event : CanonicalEventDTO) : Dict :=
  [("external_event_id", .str event.externalEventId), ("event_type", .str event.eventType),
    ("provider", .str event.provider), ("occurred_at", .str event.occurredAt.json),
    ("customer_reference", .str event.customerReference),
    ("payment_reference", .ofOption event.paymentReference),
    ("subscription_reference", .ofOption event.subscriptionReference),
    ("invoice_reference", .ofOption event.invoiceReference),
    ("checkout_session_id", .ofOption event.checkoutSessionId),
    ("amount_minor", .int event.amountMinor), ("currency", .str event.currency.code),
    ("failure_code", .ofOption event.failureCode),
    ("failure_message", .ofOption event.failureMessage), ("metadata", .obj event.metadata)]

/-- `EventDeduplicator.evaluate_and_record`. -/
def EventDeduplicator.evaluateAndRecord (event : CanonicalEventDTO) (payloadHash : String)
    (signatureVerified : Bool) (ingestionStatus : String) : Service EventRecordResult := do
  let result ← WebhookEventRepository.record
    { provider := lower event.provider, externalEventId := event.externalEventId
      eventType := event.eventType, payloadHash, signatureVerified, processed := false
      payloadSafe := event.modelDump, ingestionStatus }
  if result.conflict then
    throw (.conflictingDuplicateEvent event.externalEventId event.provider)
  pure result

/-- `EventService.ingest_canonical_event` on the normalised event. -/
def EventService.ingestCanonicalEvent (env : Env) (event : CanonicalEventDTO)
    (payloadHash : String) (signatureVerified : Bool) : Service EventRecordResult := do
  match EventValidator.validate env event with
  | .error fault => throw fault
  | .ok () => do
    let result ← EventDeduplicator.evaluateAndRecord event payloadHash signatureVerified "ACCEPTED"
    if result.duplicate then pure result
    else do
      let _ ← EventToCaseEngine.processEvent env event
      WebhookEventRepository.markProcessed result.eventId
      pure result

end RevenueRescue
