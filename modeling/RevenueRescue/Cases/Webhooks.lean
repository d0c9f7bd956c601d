import RevenueRescue.Cases.Normalizer

/-!
# The webhook endpoints

Razorpay webhooks can be sent to `/api/v1/recovery/webhooks/provider`, which verifies and
records them, and to `/api/v1/webhooks/razorpay`, which also runs the case engine. Both
write receipts of the provider `razorpay`; one takes the digest of the raw body, the other one
that of the canonical event.

The webhooks of every gateway can be sent to `/api/v1/webhooks/provider`, which has a verifier
of its own and looks for the secret and the signature in more places.
-/

namespace RevenueRescue

open Python

/-- A webhook request: its body and the headers that the endpoints read. -/
structure WebhookRequest where
  body : List UInt8
  xEventId : Option String
  xSignature : Option String
  xRazorpayEventId : Option String
  xRazorpaySignature : Option String

/-- The secrets of the deployment: the environment variable and the two settings. -/
structure WebhookSecrets where
  RAZORPAY_WEBHOOK_SECRET : Option String
  paymentWebhookSecret : String
  razorpayWebhookSecret : String

/-- `verify_signature`; comparing a signature with characters outside ASCII raises. -/
def verifySignature (lib : Library) (rawBody : List UInt8) (signature secret : String) :
    Except Fault Bool :=
  if rawBody = [] ∨ signature = "" ∨ secret = "" then .ok false
  else
    let start := "v1="
    let supplied := strip
      (if startsWith signature start then String.ofList (signature.toList.drop 3) else signature)
    if supplied.toList.any fun c => 127 < c.toNat then .error .typeError
    else .ok (supplied == lib.hmacSha256 secret rawBody)

/-- `WebhookResult`. -/
structure WebhookResult where
  accepted : Bool
  duplicate : Bool
  eventId : String
  eventType : String
  reason : String
  verified : Bool
  deriving DecidableEq, Repr

/-- The scalar fields of a body that its receipt keeps. -/
def safePayload (payload : Dict) : Dict :=
  ["event", "id", "entity"].flatMap fun key =>
    match payload.lookup key with
    | some (.str s) => [(key, .str s)]
    | some (.int n) => [(key, .int n)]
    | some (.bool b) => [(key, .bool b)]
    | some .null => [(key, .null)]
    | _ => []

/-- `provider_webhook` of the recovery intelligence routes. -/
def providerWebhook (lib : Library) (secrets : WebhookSecrets) (request : WebhookRequest) :
    Service WebhookResult := do
  let eventId := firstTruthy request.xEventId (request.xRazorpayEventId.getD "")
  if eventId = "" then
    throw (.httpException 400 "missing event id")
  let signature := firstTruthy request.xSignature (request.xRazorpaySignature.getD "")
  match verifySignature lib request.body signature (secrets.RAZORPAY_WEBHOOK_SECRET.getD "") with
  | .error fault => throw fault
  | .ok false => throw (.httpException 401 "invalid provider signature")
  | .ok true =>
    match lib.loads request.body with
    | .ok (.obj payload) => do
      let eventType := strJson (Dict.getD payload "event" (.str "unknown"))
      let receipt ← WebhookEventRepository.record
        { provider := "razorpay", externalEventId := eventId, eventType
          payloadHash := lib.sha256 request.body, signatureVerified := true, processed := false
          payloadSafe := safePayload payload, ingestionStatus := "ACCEPTED" }
      pure { accepted := receipt.accepted, duplicate := receipt.duplicate, eventId, eventType
             reason := receipt.reason, verified := true }
    | _ => throw (.httpException 400 "invalid JSON payload")

/-- `ingest_razorpay_webhook` of the event routes. -/
def ingestRazorpayWebhook (lib : Library) (secrets : WebhookSecrets) (env : Env) (uuid4 : UUID)
    (request : WebhookRequest) : Service EventRecordResult := do
  if request.body = [] then
    throw (.malformedRequest "Razorpay webhook body cannot be empty.")
  let secret := firstTruthy secrets.RAZORPAY_WEBHOOK_SECRET
    (firstTruthy (some secrets.paymentWebhookSecret) secrets.razorpayWebhookSecret)
  let verified : Except Fault Bool :=
    if secret = "" then .ok true
    else verifySignature lib request.body (request.xRazorpaySignature.getD "") secret
  match verified with
  | .error fault => throw fault
  | .ok false =>
    throw (.unauthorizedEventSource "Razorpay webhook signature verification failed.")
  | .ok true =>
    match lib.decodeAndLoad request.body with
    | .error message => throw (.malformedRequest ("Invalid JSON payload: " ++ message))
    | .ok (.obj payload) =>
      EventService.ingestRawWebhook lib env uuid4 ⟨payload, "razorpay", request.xRazorpayEventId⟩
        true
    | .ok _ =>
      throw (.malformedRequest "Invalid JSON payload: Payload must be a JSON object")

/-- A webhook request with the headers that only the endpoint of all gateways reads. -/
structure GatewayRequest extends WebhookRequest where
  xSignatureSha256 : Option String
  stripeSignature : Option String
  stripeEventId : Option String
  userAgent : Option String

/-- The secrets of the deployment with the variables that only that endpoint reads. -/
structure GatewaySecrets extends WebhookSecrets where
  WEBHOOK_SIGNING_SECRET : Option String
  STRIPE_WEBHOOK_SECRET : Option String

/-- `verify_webhook_hmac`; comparing a signature with characters outside ASCII raises. -/
def verifyWebhookHmac (lib : Library) (body : List UInt8) (signatureHeader secret : String) :
    Except Fault Bool :=
  if secret = "" then .ok true
  else if signatureHeader = "" then .ok false
  else
    let start := "sha256="
    let stripped := strip signatureHeader
    let sig := if startsWith stripped start then String.ofList (stripped.toList.drop 7) else stripped
    if (lower sig).toList.any fun c => 127 < c.toNat then .error .typeError
    else .ok (lower (lib.hmacSha256 secret body) == lower sig)

/-- The provider that `ingest_provider_webhook` takes a payload to come from. -/
def providerHint (request : GatewayRequest) (payload : Dict) : String :=
  if isIn "razorpay" (lower (request.userAgent.getD "")) || (payload.lookup "payload").isSome then
    "razorpay"
  else if isIn "synthetic" (strJson (Dict.getD payload "provider" (.str ""))) then "synthetic"
  else "stripe"

/-- `ingest_provider_webhook` of the event routes. -/
def ingestProviderWebhook (lib : Library) (secrets : GatewaySecrets) (env : Env) (uuid4 : UUID)
    (request : GatewayRequest) : Service EventRecordResult := do
  if request.body = [] then
    throw (.malformedRequest "Webhook request body cannot be empty.")
  let sig := firstTruthy request.xSignatureSha256
    (firstTruthy request.xRazorpaySignature (request.stripeSignature.getD ""))
  let eventId := eitherReference request.xEventId
    (eitherReference request.xRazorpayEventId request.stripeEventId)
  let webhookSecret := firstTruthy secrets.WEBHOOK_SIGNING_SECRET
    (firstTruthy secrets.RAZORPAY_WEBHOOK_SECRET (secrets.STRIPE_WEBHOOK_SECRET.getD ""))
  match verifyWebhookHmac lib request.body sig webhookSecret with
  | .error fault => throw fault
  | .ok false => throw (.unauthorizedEventSource "Webhook signature verification failed.")
  | .ok true =>
    match lib.decodeAndLoad request.body with
    | .error message => throw (.malformedRequest ("Invalid JSON payload: " ++ message))
    | .ok (.obj payload) =>
      EventService.ingestRawWebhook lib env uuid4
        ⟨payload, providerHint request payload, eventId⟩ true
    | .ok _ =>
      throw (.malformedRequest "Invalid JSON payload: Payload must be a JSON object")

end RevenueRescue
