import RevenueRescue.Cases.Webhooks
import RevenueRescue.Properties.Redelivery

/-!
# The two Razorpay endpoints

The endpoints share the receipts of the provider but not the digest of a payload, and only one
of them processes events. If the endpoint that only records sees an event first, the event is
never processed: what arrives at the other endpoint meets the receipt, and is a duplicate or,
since the digests differ, a conflict.
-/

namespace RevenueRescue

open Python

inductive Endpoint where
  | provider | razorpay
  deriving DecidableEq, Repr

/-- What an endpoint says about a delivery that it does not refuse. -/
structure Answer where
  duplicate : Bool
  reason : String
  deriving DecidableEq, Repr

/-- One delivery to an endpoint. -/
def Endpoint.serve (lib : Library) (secrets : WebhookSecrets) (env : Env) (uuid4 : UUID)
    (request : WebhookRequest) : Endpoint → Service Answer
  | .provider => do
    let result ← providerWebhook lib secrets request
    pure ⟨result.duplicate, result.reason⟩
  | .razorpay => do
    let result ← ingestRazorpayWebhook lib secrets env uuid4 request
    pure ⟨result.duplicate, result.reason⟩

/-- The number of receipts whose event the case engine has processed. -/
def processedReceipts (s : Store) : ℕ := s.webhookEvents.countP ProviderWebhookEvent.processed

/-- Two deliveries of one event agree: neither is refused, one of them is a duplicate and none a
conflict, and the event is processed once. -/
def AgreeInOrder (first second : Service Answer) (s : Store) : Prop :=
  ∃ a b t u, first s = .ok (a, t) ∧ second t = .ok (b, u) ∧ a.duplicate ≠ b.duplicate ∧
    a.reason ≠ "event_id_reused_with_different_payload" ∧
    b.reason ≠ "event_id_reused_with_different_payload" ∧
    processedReceipts u = processedReceipts s + 1

/-- The event id that `provider_webhook` reads. -/
def WebhookRequest.eventId (request : WebhookRequest) : String :=
  firstTruthy request.xEventId (request.xRazorpayEventId.getD "")

section Deliveries

variable {lib : Library} {secrets : WebhookSecrets} {request : WebhookRequest} {s t : Store}

/-- The endpoint that only records answers with what recording a receipt says. -/
theorem providerWebhook_ok {result : WebhookResult}
    (h : providerWebhook lib secrets request s = .ok (result, t)) :
    ∃ receipt row, WebhookEventRepository.record row s = .ok (receipt, t) ∧
      row.provider = "razorpay" ∧ row.externalEventId = request.eventId ∧ row.processed = false ∧
      result.duplicate = receipt.duplicate ∧ result.reason = receipt.reason := by
  unfold providerWebhook at h
  by_cases hid : firstTruthy request.xEventId (request.xRazorpayEventId.getD "") = ""
  · simp only [if_pos hid] at h
    cases h
  simp only [if_neg hid] at h
  rcases hverified : verifySignature lib request.body
    (firstTruthy request.xSignature (request.xRazorpaySignature.getD ""))
    (secrets.RAZORPAY_WEBHOOK_SECRET.getD "") with fault | _ | _
  · rw [hverified] at h
    cases h
  · rw [hverified] at h
    cases h
  rw [hverified] at h
  rcases hloads : lib.loads request.body with message | value
  · rw [hloads] at h
    cases h
  rw [hloads] at h
  cases value with
  | obj payload =>
    obtain ⟨receipt, u, hrecord, h⟩ := Tx.bind_eq_ok.mp h
    cases h
    exact ⟨receipt, _, hrecord, rfl, rfl, rfl, rfl, rfl⟩
  | _ => cases h

/-- On a new event id, the endpoint that only records accepts and processes nothing. -/
theorem providerWebhook_new {result : WebhookResult}
    (h : providerWebhook lib secrets request s = .ok (result, t))
    (hnew : WebhookEventRepository.find s "razorpay" request.eventId = none) :
    result.duplicate = false ∧ processedReceipts t = processedReceipts s := by
  obtain ⟨receipt, row, hrecord, hprovider, hid, hprocessed, hduplicate, -⟩ :=
    providerWebhook_ok h
  rw [← hprovider, ← hid] at hnew
  rw [WebhookEventRepository.record_new hnew] at hrecord
  cases hrecord
  refine ⟨hduplicate, ?_⟩
  unfold processedReceipts
  rw [List.countP_append, List.countP_singleton, if_neg (by rw [hprocessed]; decide)]
  rfl

/-- The other endpoint answers with what ingesting a canonical event says. -/
theorem ingestRazorpayWebhook_ok {env : Env} {uuid4 : UUID} {result : EventRecordResult}
    (h : ingestRazorpayWebhook lib secrets env uuid4 request s = .ok (result, t)) :
    ∃ event payloadHash, EventService.ingestCanonicalEvent env event payloadHash true s =
      .ok (result, t) := by
  unfold ingestRazorpayWebhook at h
  by_cases hbody : request.body = []
  · simp only [if_pos hbody] at h
    cases h
  simp only [if_neg hbody] at h
  generalize (if firstTruthy secrets.RAZORPAY_WEBHOOK_SECRET _ = "" then _ else _ :
    Except Fault Bool) = verified at h
  rcases verified with fault | _ | _
  · cases h
  · cases h
  rcases hloads : lib.decodeAndLoad request.body with message | value
  · rw [hloads] at h
    cases h
  rw [hloads] at h
  cases value with
  | obj payload =>
    dsimp only at h
    unfold EventService.ingestRawWebhook at h
    rcases hread : EventNormalizer.normalizeRawProviderWebhook lib env.now uuid4
      ⟨payload, "razorpay", request.xRazorpayEventId⟩ with fault | event
    · rw [hread] at h
      cases h
    · rw [hread] at h
      exact ⟨event, _, h⟩
  | _ => cases h

/-- An event that reaches first the endpoint that only records is never processed, so for no
request with a new event id do the two endpoints agree in both orders. -/
theorem endpoints_never_agree (lib : Library) (secrets : WebhookSecrets) (env : Endpoint → Env)
    (uuid4 : UUID) (request : WebhookRequest) {s : Store}
    (hnew : WebhookEventRepository.find s "razorpay" request.eventId = none) :
    ¬(AgreeInOrder (Endpoint.provider.serve lib secrets (env .provider) uuid4 request)
        (Endpoint.razorpay.serve lib secrets (env .razorpay) uuid4 request) s ∧
      AgreeInOrder (Endpoint.razorpay.serve lib secrets (env .razorpay) uuid4 request)
        (Endpoint.provider.serve lib secrets (env .provider) uuid4 request) s) := by
  rintro ⟨⟨a, b, t, u, hfirst, hsecond, hdiffer, -, -, hprocessed⟩, -⟩
  obtain ⟨recorded, t', hrecorded, hfirst⟩ := Tx.bind_eq_ok.mp hfirst
  cases hfirst
  obtain ⟨ingested, u', hingested, hsecond⟩ := Tx.bind_eq_ok.mp hsecond
  cases hsecond
  obtain ⟨haccepted, hcount⟩ := providerWebhook_new hrecorded hnew
  have hduplicate : ingested.duplicate = true := by
    dsimp only at hdiffer
    rw [haccepted] at hdiffer
    exact Bool.eq_true_of_not_eq_false hdiffer.symm
  obtain ⟨event, payloadHash, hrun⟩ := ingestRazorpayWebhook_ok hingested
  rw [EventService.ingestCanonicalEvent_duplicate hrun hduplicate, hcount] at hprocessed
  omega

end Deliveries

namespace Sample

/-- The body of a Razorpay webhook about a failure of the payment `pay_1`. -/
def failedBody : List UInt8 :=
  encode ("\x7b\"event\":\"payment.failed\",\"created_at\":1700000000,\"payload\":\x7b\"payment\":" ++
    "\x7b\"entity\":\x7b\"id\":\"pay_1\",\"email\":\"cust_1\",\"amount\":5000,\"currency\":\"INR\"," ++
    "\"error_code\":\"insufficient_funds\"\x7d\x7d\x7d\x7d")

/-- The value of that body. -/
def failedPayload : Json :=
  .obj [("event", .str "payment.failed"), ("created_at", .int 1700000000),
    ("payload", .obj [("payment", .obj [("entity", .obj
      [("id", .str "pay_1"), ("email", .str "cust_1"), ("amount", .int 5000),
        ("currency", .str "INR"), ("error_code", .str "insufficient_funds")])])])]

/-- The library on that body: its digest, its signature under the secret, and the digest of its
event. -/
def razorpayLibrary : Library :=
  { library with
    sha256 := fun bytes =>
      if bytes = failedBody then "15f57dbfd9dd99bdeda5340cd334664832362c6a732ee52fa3499c1427861604"
      else "05acd01de456d0d70120f253c1d0c298aaa657c52195f115a35362efbf2860a3"
    hmacSha256 := fun _ _ => "ec462999a81ed5b8f10a451c64eb973243882d1d47574ee1a0bed3a5fb3b77de"
    loads := fun _ => .ok failedPayload
    decodeAndLoad := fun _ => .ok failedPayload }

def webhookSecrets : WebhookSecrets := ⟨some "whsec", "", ""⟩

/-- The webhook, signed and with an event id. -/
def signed : WebhookRequest :=
  { body := failedBody, xEventId := none, xSignature := none, xRazorpayEventId := some "evt_1"
    xRazorpaySignature := some "ec462999a81ed5b8f10a451c64eb973243882d1d47574ee1a0bed3a5fb3b77de" }

/-- Deliver the webhook to one of the endpoints. -/
def deliverTo (endpoint : Endpoint) : Service Answer :=
  endpoint.serve razorpayLibrary webhookSecrets env (drawn 1) signed

end Sample

/-- The endpoints disagree about a signed webhook with an event id that is new. -/
theorem endpoints_never_agree_signed :
    ¬(AgreeInOrder (Sample.deliverTo .provider) (Sample.deliverTo .razorpay) Store.empty ∧
      AgreeInOrder (Sample.deliverTo .razorpay) (Sample.deliverTo .provider) Store.empty) :=
  endpoints_never_agree Sample.razorpayLibrary Sample.webhookSecrets (fun _ => Sample.env)
    (Sample.drawn 1) Sample.signed rfl

/-- After the endpoint that records has accepted the webhook, the endpoint that processes refuses
it and no case is opened; in the other order the event is processed, and the second delivery is
taken for a different payload. -/
theorem recorded_webhook_is_never_processed :
    ((Sample.deliverTo .provider Store.empty).map fun r => r.1).toOption =
        some ⟨false, "accepted"⟩ ∧
      (Sample.deliverTo .razorpay).fault ((Sample.deliverTo .provider).commit Store.empty) =
        some (.conflictingDuplicateEvent "evt_1" "razorpay") ∧
      ((Sample.deliverTo .razorpay Store.empty).map fun r =>
        (r.1.duplicate, processedReceipts r.2, r.2.recoveryCases.length)).toOption =
          some (false, 1, 1) ∧
      ((Sample.deliverTo .provider ((Sample.deliverTo .razorpay).commit Store.empty)).map
        fun r => r.1).toOption = some ⟨true, "event_id_reused_with_different_payload"⟩ := by
  decide +kernel

end RevenueRescue
