import RevenueRescue.Base.Text
import RevenueRescue.Cases.Ingestion

/-!
# Raw webhooks

`EventNormalizer.normalize_raw_provider_webhook` reads the body of a webhook in the format of
one of two gateways or in a generic one, and `EventService.ingest_raw_webhook` records and
processes the canonical event under a digest of its fields. An event that nothing in the
request names gets a name of its own, drawn from a new `uuid4`.

A `ValidationError` of the canonical schema is a `ValueError`, and its report is left out.
-/

namespace RevenueRescue

open Python

/-- What the headers and the body of a webhook say. -/
structure RawWebhook where
  payload : Dict
  provider : String
  eventIdHeader : Option String

namespace EventNormalizer

/-- The parts of a key that mark its value as a secret. -/
def SENSITIVE_KEYS : List String :=
  ["card_number", "number", "cvv", "cvc", "security_code", "pin", "password", "secret", "api_key",
    "token", "authorization", "cookie"]

def EVENT_TYPE_MAPPING : List (String × CanonicalEventType) :=
  [("payment_intent.payment_failed", .PAYMENT_FAILED),
    ("payment.failed", .PAYMENT_FAILED),
    ("charge.failed", .PAYMENT_FAILED),
    ("payment_failed", .PAYMENT_FAILED),
    ("PAYMENT_FAILED", .PAYMENT_FAILED),
    ("payment_intent.succeeded", .PAYMENT_SUCCEEDED),
    ("payment.captured", .PAYMENT_SUCCEEDED),
    ("charge.succeeded", .PAYMENT_SUCCEEDED),
    ("payment_succeeded", .PAYMENT_SUCCEEDED),
    ("PAYMENT_SUCCEEDED", .PAYMENT_SUCCEEDED),
    ("invoice.payment_failed", .SUBSCRIPTION_PAYMENT_FAILED),
    ("subscription.payment_failed", .SUBSCRIPTION_PAYMENT_FAILED),
    ("subscription_payment_failed", .SUBSCRIPTION_PAYMENT_FAILED),
    ("SUBSCRIPTION_PAYMENT_FAILED", .SUBSCRIPTION_PAYMENT_FAILED),
    ("checkout.session.expired", .CHECKOUT_ABANDONED),
    ("checkout_abandoned", .CHECKOUT_ABANDONED),
    ("CHECKOUT_ABANDONED", .CHECKOUT_ABANDONED),
    ("invoice.marked_uncollectible", .INVOICE_OVERDUE),
    ("invoice.overdue", .INVOICE_OVERDUE),
    ("invoice_overdue", .INVOICE_OVERDUE),
    ("INVOICE_OVERDUE", .INVOICE_OVERDUE)]

def FAILURE_CODE_MAPPING : List (String × FailureCategory) :=
  [("insufficient_funds", .INSUFFICIENT_FUNDS),
    ("card_declined", .GENERIC_DECLINE),
    ("expired_card", .CARD_EXPIRED),
    ("card_expired", .CARD_EXPIRED),
    ("authentication_required", .AUTHENTICATION_REQUIRED),
    ("do_not_honor", .DO_NOT_HONOR),
    ("fraudulent", .FRAUD_SUSPECTED),
    ("fraud_suspected", .FRAUD_SUSPECTED),
    ("processing_error", .PROCESSING_ERROR),
    ("abandoned", .ABANDONED),
    ("overdue", .OVERDUE)]

def isSensitive (key : String) : Bool := SENSITIVE_KEYS.any fun sens => isIn sens (lower key)

mutual
/-- `sanitize_metadata`. -/
def sanitizeMetadata (lib : Library) : Json → Json
  | .str s => if searchCardNumber lib none s.toList then .str "[REDACTED_PAN]" else .str s
  | .arr items => .arr (sanitizeItems lib items)
  | .obj fields => .obj (sanitizeFields lib fields)
  | .null => .null
  | .bool b => .bool b
  | .int n => .int n
  | .float x => .float x
  | .inf negative => .inf negative
  | .nan => .nan

def sanitizeItems (lib : Library) : List Json → List Json
  | [] => []
  | item :: rest => sanitizeMetadata lib item :: sanitizeItems lib rest

def sanitizeFields (lib : Library) : List (String × Json) → List (String × Json)
  | [] => []
  | (key, value) :: rest =>
    (key, if isSensitive key then .str "[REDACTED]" else sanitizeMetadata lib value) ::
      sanitizeFields lib rest
end

/-- `normalize_event_type`, which reads its argument as a string. -/
def normalizeEventType : Json → Except Fault String
  | .str raw =>
    .ok (match EVENT_TYPE_MAPPING.lookup (strip raw) with
      | some type => type.value
      | none => replaceChar '.' '_' (upper raw))
  | _ => .error .attributeError

/-- `normalize_failure_code`. -/
def normalizeFailureCode (raw : Json) : Except Fault String :=
  if raw.truthy then
    match raw with
    | .str code =>
      let cleaned := lower (strip code)
      .ok (match FAILURE_CODE_MAPPING.lookup cleaned with
        | some category => category.value
        | none => cleaned)
    | _ => .error .attributeError
  else .ok FailureCategory.UNKNOWN.value

/-- The time of a number of seconds since the epoch, or of milliseconds if it is large. -/
def normalizeEpoch (raw : ℚ) : Except Fault Datetime :=
  let seconds := if 100000000000 < raw then raw / 1000 else raw
  match Datetime.fromtimestamp seconds with
  | some t => .ok t
  | none => .error (.valueError "timestamp out of range")

/-- `normalize_timestamp`. What is neither a number nor a readable string gives the clock. -/
def normalizeTimestamp (lib : Library) (now : Datetime) : Json → Except Fault Datetime
  | .bool b => normalizeEpoch (if b then 1 else 0)
  | .int n => normalizeEpoch n
  | .float x => normalizeEpoch x
  | .inf _ => .error .overflowError
  | .nan => .error (.valueError "Invalid value NaN (not a number)")
  | .str s =>
    match lib.fromisoformat (replaceZ s) with
    | some t => .ok t.assumeUtc
    | none => .ok now
  | _ => .ok now

/-- A value whose `.get` is called. -/
def asDict : Json → Except Fault Dict
  | .obj fields => .ok fields
  | _ => .error .attributeError

/-- `int(value)`. -/
def toInt (lib : Library) : Json → Except Fault ℤ
  | .bool b => .ok (if b then 1 else 0)
  | .int n => .ok n
  | .float x => .ok (truncate x)
  | .inf _ => .error .overflowError
  | .nan => .error (.valueError "cannot convert float NaN to integer")
  | .str s =>
    match intOfString lib s with
    | some n => .ok n
    | none => .error (.valueError ("invalid literal for int() with base 10: " ++ Python.reprStr s))
  | _ => .error .typeError

/-- The local variables of the normalisation at its return statement. -/
structure RawFields where
  extId : Json
  rawType : Json
  occurredAt : Datetime
  customerRef : String
  paymentRef : Option String
  amountMinor : ℤ
  currency : String
  failureCode : String
  failureMsg : Json
  metadata : Json

/-- The name an event gets that nothing else names: `f"evt_str_{uuid4().hex[:12]}"` and the like. -/
def generatedId (start : String) (uuid4 : UUID) : Json :=
  .str (start ++ String.ofList ((UUID.hex uuid4).toList.take 12))

variable (lib : Library) (now : Datetime) (uuid4 : UUID) (raw : RawWebhook)

/-- The Stripe format, with its `data.object`. -/
def stripeFields (object : Json) : Except Fault RawFields := do
  let extId := ((Dict.get raw.payload "id").or (.ofOption raw.eventIdHeader)).or
    (generatedId "evt_str_" uuid4)
  let rawType := Dict.getD raw.payload "type" (.str "payment_intent.payment_failed")
  let occurredAt ← normalizeTimestamp lib now (Dict.get raw.payload "created")
  let obj ← asDict object
  let customerRef := strJson (((Dict.get obj "customer").or (Dict.get obj "customer_id")).or
    (.str "cust_unknown"))
  let paymentRef := strJson ((Dict.get obj "id").or (.str "txn_unknown"))
  let amountMinor ← toInt lib (Dict.getD obj "amount" (.int 0))
  let currency := upper (strJson (Dict.getD obj "currency" (.str "USD")))
  let lastError ← asDict ((Dict.get obj "last_payment_error").or (.obj []))
  let failureCode ← normalizeFailureCode
    ((Dict.get lastError "code").or (Dict.get obj "failure_code"))
  let failureMsg := (Dict.get lastError "message").or (Dict.get obj "failure_message")
  let metadata := .obj [("gateway_status", Dict.get obj "status"),
    ("livemode", Dict.get raw.payload "livemode")]
  return { extId, rawType, occurredAt, customerRef, paymentRef := some paymentRef, amountMinor
           currency, failureCode, failureMsg, metadata }

/-- The Razorpay format, with its `payload.payment`. -/
def razorpayFields (payment : Json) : Except Fault RawFields := do
  let payEntity := Dict.getD (← asDict payment) "entity" (.obj [])
  let extId := ((Json.ofOption raw.eventIdHeader).or (Dict.get raw.payload "id")).or
    (generatedId "evt_rzp_" uuid4)
  let rawType := Dict.getD raw.payload "event" (.str "payment.failed")
  let occurredAt ← normalizeTimestamp lib now (Dict.get raw.payload "created_at")
  let payEntity ← asDict payEntity
  let customerRef := strJson (((Dict.get payEntity "contact").or (Dict.get payEntity "email")).or
    (.str "cust_unknown"))
  let paymentRef := strJson ((Dict.get payEntity "id").or (.str "pay_unknown"))
  let amountMinor ← toInt lib (Dict.getD payEntity "amount" (.int 0))
  let currency := upper (strJson (Dict.getD payEntity "currency" (.str "INR")))
  let failureCode ← normalizeFailureCode (Dict.get payEntity "error_code")
  let failureMsg := Dict.get payEntity "error_description"
  let metadata := .obj [("method", Dict.get payEntity "method")]
  return { extId, rawType, occurredAt, customerRef, paymentRef := some paymentRef, amountMinor
           currency, failureCode, failureMsg, metadata }

/-- The generic format. -/
def genericFields : Except Fault RawFields := do
  let payload := raw.payload
  let extId := (((Json.ofOption raw.eventIdHeader).or (Dict.get payload "id")).or
    (Dict.get payload "event_id")).or (generatedId "evt_gen_" uuid4)
  let rawType := ((Dict.get payload "event_type").or (Dict.get payload "type")).or
    (.str "PAYMENT_FAILED")
  let occurredAt ← normalizeTimestamp lib now
    ((Dict.get payload "occurred_at").or (Dict.get payload "created"))
  let customerRef := strJson ((((Dict.get payload "customer_reference").or
    (Dict.get payload "customer_id")).or (Dict.get payload "customer")).or (.str "cust_unknown"))
  let paymentRef := strOrNone ((((Dict.get payload "payment_reference").or
    (Dict.get payload "transaction_id")).or (Dict.get payload "payment_id")).or (.str ""))
  let amountMinor ← toInt lib
    (((Dict.get payload "amount_minor").or (Dict.get payload "amount")).or (.int 0))
  let currency := upper (strJson (Dict.getD payload "currency" (.str "USD")))
  let failureCode ← normalizeFailureCode (Dict.get payload "failure_code")
  let failureMsg := (Dict.get payload "failure_message").or (Dict.get payload "message")
  let metadata := (Dict.get payload "metadata").or (.obj [])
  return { extId, rawType, occurredAt, customerRef, paymentRef, amountMinor, currency
           failureCode, failureMsg, metadata }

/-- `key in d and inner in d[key]`, with the value of `d[key][inner]` if so. -/
def nested (d : Dict) (key inner : String) : Except Fault (Option Json) :=
  match d.lookup key with
  | none => .ok none
  | some value =>
    match value.contains inner with
    | none => .error .typeError
    | some false => .ok none
    | some true =>
      match value with
      | .obj fields => .ok (some (Dict.get fields inner))
      | _ => .error .typeError

/-- The fields of the first format that the body has. -/
def rawFields : Except Fault RawFields := do
  match ← nested raw.payload "data" "object" with
  | some object => stripeFields lib now uuid4 raw object
  | none =>
    match ← nested raw.payload "payload" "payment" with
    | some payment => razorpayFields lib now uuid4 raw payment
    | none => genericFields lib now uuid4 raw

/-- A field of the canonical schema: a string of bounded length. -/
def fieldString (low high : ℕ) (value : Json) : Except Fault String :=
  match value with
  | .str s => if low ≤ s.length ∧ s.length ≤ high then .ok s else .error (.valueError "ValidationError")
  | _ => .error (.valueError "ValidationError")

/-- A field of the canonical schema that may be `None`. -/
def fieldOptional (high : ℕ) (value : Json) : Except Fault (Option String) :=
  match value with
  | .null => .ok none
  | value => (fieldString 0 high value).map some

def fieldAmount (value : ℤ) : Except Fault ℕ :=
  if 0 ≤ value then .ok value.toNat else .error (.valueError "ValidationError")

def fieldCurrency (code : String) : Except Fault Currency :=
  if h : isCurrencyCode code = true then .ok ⟨code, h⟩ else .error (.valueError "ValidationError")

def fieldMetadata : Json → Except Fault Dict
  | .obj fields => .ok fields
  | _ => .error (.valueError "ValidationError")

/-- `CanonicalEventDTO(…)` on the fields of the normalisation. -/
def canonicalEvent (fields : RawFields) : Except Fault CanonicalEventDTO := do
  let eventType ← normalizeEventType fields.rawType
  let externalEventId ← fieldString 1 200 fields.extId
  let eventType ← fieldString 1 160 (.str eventType)
  let provider ← fieldString 1 64 (.str (lower (strip raw.provider)))
  let customerReference ← fieldString 1 128 (.str fields.customerRef)
  let paymentReference ← fieldOptional 128 (.ofOption fields.paymentRef)
  let subscriptionReference ← fieldOptional 128
    (.ofOption (strOrNone ((Dict.get raw.payload "subscription_id").or (.str ""))))
  let invoiceReference ← fieldOptional 128
    (.ofOption (strOrNone ((Dict.get raw.payload "invoice_id").or (.str ""))))
  let checkoutSessionId ← fieldOptional 128
    (.ofOption (strOrNone ((Dict.get raw.payload "checkout_session_id").or (.str ""))))
  let amountMinor ← fieldAmount fields.amountMinor
  let currency ← fieldCurrency fields.currency
  let failureCode ← fieldOptional 100 (.str fields.failureCode)
  let failureMessage ← fieldOptional 500 fields.failureMsg
  let metadata ← fieldMetadata (sanitizeMetadata lib fields.metadata)
  return { externalEventId, eventType, provider, occurredAt := fields.occurredAt
           customerReference, paymentReference, subscriptionReference, invoiceReference
           checkoutSessionId, amountMinor, currency, failureCode, failureMessage, metadata }

/-- `EventNormalizer.normalize_raw_provider_webhook`. -/
def normalizeRawProviderWebhook : Except Fault CanonicalEventDTO := do
  canonicalEvent lib raw (← rawFields lib now uuid4 raw)

end EventNormalizer

/-- `EventIngestRequestDTO`. -/
structure EventIngestRequestDTO where
  eventId : Option String
  eventType : String
  provider : String
  occurredAt : Option Datetime
  customerReference : String
  paymentReference : Option String
  subscriptionReference : Option String
  invoiceReference : Option String
  checkoutSessionId : Option String
  amountMinor : ℕ
  currency : Currency
  failureCode : Option String
  failureMessage : Option String
  metadata : Dict

namespace EventNormalizer

/-- `text.strip() if text else None`. -/
def stripped (text : Option String) : Option String :=
  if truthy text then text.map strip else none

/-- `EventNormalizer.normalize_canonical_request`; a currency code has neither blanks nor small
letters. -/
def normalizeCanonicalRequest (lib : Library) (now : Datetime) (uuid4 : UUID)
    (req : EventIngestRequestDTO) : Except Fault CanonicalEventDTO := do
  let extEventId := (Json.ofOption req.eventId).or (generatedId "evt_ing_" uuid4)
  let canonicalType ← normalizeEventType (.str req.eventType)
  let failureCode ← (if truthy req.failureCode then
    (normalizeFailureCode (.ofOption req.failureCode)).map some else .ok none)
  let externalEventId ← fieldString 1 200 extEventId
  let eventType ← fieldString 1 160 (.str canonicalType)
  let provider ← fieldString 1 64 (.str (lower (strip req.provider)))
  let customerReference ← fieldString 1 128 (.str (strip req.customerReference))
  let paymentReference ← fieldOptional 128 (.ofOption (stripped req.paymentReference))
  let subscriptionReference ← fieldOptional 128 (.ofOption (stripped req.subscriptionReference))
  let invoiceReference ← fieldOptional 128 (.ofOption (stripped req.invoiceReference))
  let checkoutSessionId ← fieldOptional 128 (.ofOption (stripped req.checkoutSessionId))
  let failureCode ← fieldOptional 100 (.ofOption failureCode)
  let failureMessage ← fieldOptional 500 (.ofOption (stripped req.failureMessage))
  let metadata ← fieldMetadata (sanitizeMetadata lib (.obj req.metadata))
  return { externalEventId, eventType, provider
           occurredAt := (req.occurredAt.map Datetime.assumeUtc).getD now
           customerReference, paymentReference, subscriptionReference, invoiceReference
           checkoutSessionId, amountMinor := req.amountMinor, currency := req.currency
           failureCode, failureMessage, metadata }

end EventNormalizer

/-- `SimulateFailureRequestDTO`. -/
structure SimulateFailureRequestDTO where
  customerId : String
  amountMinor : ℕ
  currency : Currency
  failureCode : String
  failureMessage : String
  metadata : Dict

namespace EventNormalizer

/-- `EventNormalizer.normalize_simulator_request`, with the values of `uuid4()` for the event and
the payment. -/
def normalizeSimulatorRequest (lib : Library) (now : Datetime) (eventUuid4 paymentUuid4 : UUID)
    (sim : SimulateFailureRequestDTO) : Except Fault CanonicalEventDTO := do
  let extEventId := generatedId "evt_sim_" eventUuid4
  let paymentId := "txn_sim_" ++ String.ofList ((UUID.hex paymentUuid4).toList.take 10)
  let failureCode ← normalizeFailureCode (.str sim.failureCode)
  let externalEventId ← fieldString 1 200 extEventId
  let customerReference ← fieldString 1 128 (.str (strip sim.customerId))
  let paymentReference ← fieldOptional 128 (.str paymentId)
  let failureCode ← fieldOptional 100 (.str failureCode)
  let failureMessage ← fieldOptional 500 (.str (strip sim.failureMessage))
  let metadata ← fieldMetadata (sanitizeMetadata lib (.obj sim.metadata))
  return { externalEventId, eventType := CanonicalEventType.PAYMENT_FAILED.value
           provider := "synthetic", occurredAt := now, customerReference, paymentReference
           subscriptionReference := none, invoiceReference := none, checkoutSessionId := none
           amountMinor := sim.amountMinor, currency := sim.currency, failureCode, failureMessage
           metadata }

end EventNormalizer

/-- `EventDeduplicator.compute_fingerprint`. -/
def EventDeduplicator.computeFingerprint (lib : Library) (event : CanonicalEventDTO) : String :=
  let fingerprintData : Dict :=
    [("event_type", .str event.eventType),
      ("provider", .str (lower event.provider)),
      ("customer_reference", .str event.customerReference),
      ("payment_reference", .ofOption event.paymentReference),
      ("subscription_reference", .ofOption event.subscriptionReference),
      ("invoice_reference", .ofOption event.invoiceReference),
      ("checkout_session_id", .ofOption event.checkoutSessionId),
      ("amount_minor", .int event.amountMinor),
      ("currency", .str (upper event.currency.code)),
      ("failure_code", .ofOption event.failureCode),
      ("failure_message", .ofOption event.failureMessage),
      ("metadata", .obj event.metadata)]
  lib.sha256 (encode (dumps (.obj fingerprintData)))

/-- `EventService.ingest_raw_webhook`. -/
def EventService.ingestRawWebhook (lib : Library) (env : Env) (uuid4 : UUID) (raw : RawWebhook)
    (signatureVerified : Bool) : Service EventRecordResult :=
  match EventNormalizer.normalizeRawProviderWebhook lib env.now uuid4 raw with
  | .error fault => throw fault
  | .ok canonical =>
    ingestCanonicalEvent env canonical (EventDeduplicator.computeFingerprint lib canonical)
      signatureVerified

end RevenueRescue
