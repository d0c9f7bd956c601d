import RevenueRescue.Properties.Endpoints
import RevenueRescue.Properties.Totality

/-!
# Which webhooks count as signed

Three endpoints store receipts that say their signature was verified. Two of them skip the
verification when no secret is configured, and all three raise where the supplied signature has
a character outside ASCII. An endpoint treats a request as it should in all other cases: it is
signed under a configured secret, or it is refused.
-/

namespace RevenueRescue

open Python

/-- The three webhook endpoints. -/
inductive WebhookRoute where
  | gateway | razorpay | recovery
  deriving DecidableEq, Repr

namespace WebhookRoute

/-- The secret an endpoint is configured with, empty when there is none. -/
def secret (secrets : GatewaySecrets) : WebhookRoute → String
  | .gateway => firstTruthy secrets.WEBHOOK_SIGNING_SECRET
      (firstTruthy secrets.RAZORPAY_WEBHOOK_SECRET (secrets.STRIPE_WEBHOOK_SECRET.getD ""))
  | .razorpay => firstTruthy secrets.RAZORPAY_WEBHOOK_SECRET
      (firstTruthy (some secrets.paymentWebhookSecret) secrets.razorpayWebhookSecret)
  | .recovery => secrets.RAZORPAY_WEBHOOK_SECRET.getD ""

/-- The signature header an endpoint reads, empty when there is none. -/
def signature (request : GatewayRequest) : WebhookRoute → String
  | .gateway => firstTruthy request.xSignatureSha256
      (firstTruthy request.xRazorpaySignature (request.stripeSignature.getD ""))
  | .razorpay => request.xRazorpaySignature.getD ""
  | .recovery => firstTruthy request.xSignature (request.xRazorpaySignature.getD "")

/-- The digest that the signature header supplies, without blanks and the name of the scheme. -/
def supplied (request : GatewayRequest) : WebhookRoute → String
  | .gateway =>
    let stripped := strip (signature request .gateway)
    lower (if startsWith stripped "sha256=" then String.ofList (stripped.toList.drop 7)
      else stripped)
  | route =>
    let header := signature request route
    strip (if startsWith header "v1=" then String.ofList (header.toList.drop 3) else header)

/-- The digest of the raw body under the secret, as the endpoint compares it. -/
def expected (lib : Library) (secrets : GatewaySecrets) (request : GatewayRequest) :
    WebhookRoute → String
  | .gateway => lower (lib.hmacSha256 (secret secrets .gateway) request.body)
  | route => lib.hmacSha256 (secret secrets route) request.body

/-- What an endpoint does with a request, without its answer. -/
def serve (lib : Library) (secrets : GatewaySecrets) (env : Env) (uuid4 : UUID)
    (request : GatewayRequest) : WebhookRoute → Service Unit
  | .gateway => ignoringResult (ingestProviderWebhook lib secrets env uuid4 request)
  | .razorpay => ignoringResult (ingestRazorpayWebhook lib secrets.toWebhookSecrets env uuid4
      request.toWebhookRequest)
  | .recovery => ignoringResult (providerWebhook lib secrets.toWebhookSecrets
      request.toWebhookRequest)

/-- The request is refused before its signature is looked at. -/
def RefusedUnread (request : GatewayRequest) : WebhookRoute → Prop
  | .recovery => request.toWebhookRequest.eventId = "" ∨ request.body = []
  | _ => request.body = []

/-- What the verifier of an endpoint says. -/
def verify (lib : Library) (secrets : GatewaySecrets) (request : GatewayRequest) :
    WebhookRoute → Except Fault Bool
  | .gateway => verifyWebhookHmac lib request.body (signature request .gateway)
      (secret secrets .gateway)
  | .razorpay =>
    if secret secrets .razorpay = "" then .ok true
    else verifySignature lib request.body (signature request .razorpay) (secret secrets .razorpay)
  | .recovery => verifySignature lib request.body (signature request .recovery)
      (secret secrets .recovery)

/-- The JSON object that a body says, if it says one. -/
def payload (lib : Library) (request : GatewayRequest) : Option Dict :=
  match lib.decodeAndLoad request.body with
  | .ok (.obj payload) => some payload
  | _ => none

/-- The webhook that an endpoint ingests, if the body says one. -/
def content (lib : Library) (request : GatewayRequest) : WebhookRoute → Option RawWebhook
  | .gateway => (payload lib request).map fun payload =>
    ⟨payload, providerHint request payload, eitherReference request.xEventId
      (eitherReference request.xRazorpayEventId request.stripeEventId)⟩
  | .razorpay => (payload lib request).map fun payload =>
    ⟨payload, "razorpay", request.xRazorpayEventId⟩
  | .recovery => none

end WebhookRoute

/-- Every character is an ASCII character. -/
def IsAscii (text : String) : Prop := ∀ c ∈ text.toList, c.toNat ≤ 127

/-- The supplied signature is the digest of the raw body under a secret that is configured. -/
structure Signed (lib : Library) (secrets : GatewaySecrets) (request : GatewayRequest)
    (route : WebhookRoute) : Prop where
  configured : route.secret secrets ≠ ""
  equal : route.supplied request = route.expected lib secrets request

/-- A receipt was added that says the signature was verified. -/
def StoresVerified (s t : Store) : Prop :=
  ∃ id row, s.webhookEvents.length ≤ id ∧ t.webhookEvents[id]? = some row ∧
    row.signatureVerified = true

/-- The request ends in an answer that blames the client. -/
def RefusedBy {α : Type} (x : Service α) (s : Store) : Prop :=
  ∃ fault, x s = .error fault ∧ fault.BlamesClient

/-- Receipts that say so were verified, and what is not signed is refused. -/
structure SignatureSound (lib : Library) (secrets : GatewaySecrets) (env : Env) (uuid4 : UUID)
    (request : GatewayRequest) (s : Store) (route : WebhookRoute) : Prop where
  verified : ∀ t, route.serve lib secrets env uuid4 request s = .ok ((), t) →
    StoresVerified s t → Signed lib secrets request route
  refused : ¬Signed lib secrets request route →
    RefusedBy (route.serve lib secrets env uuid4 request) s

/-- An ingestion of this webhook blames the client: the event it says is invalid, or its receipt
is stored with another digest. -/
def Unusable (lib : Library) (env : Env) (uuid4 : UUID) (s : Store) (raw : RawWebhook) : Prop :=
  ∃ event, EventNormalizer.Says lib env.now uuid4 raw event ∧
    (EventValidator.validate env event ≠ .ok () ∨
      ∃ existing, WebhookEventRepository.find s (lower event.provider) event.externalEventId =
          some existing ∧
        existing.2.payloadHash ≠ EventDeduplicator.computeFingerprint lib event)

/-- When an endpoint is sound: with no secret configured it must refuse for another reason, and
with a secret the supplied signature must be one that can be compared. -/
structure SoundWhen (lib : Library) (secrets : GatewaySecrets) (env : Env) (uuid4 : UUID)
    (request : GatewayRequest) (s : Store) (route : WebhookRoute) : Prop where
  unconfigured : route.secret secrets = "" → route ≠ .recovery →
    ∀ raw, route.content lib request = some raw → Unusable lib env uuid4 s raw
  comparable : route.secret secrets ≠ "" → route.signature request ≠ "" →
    Signed lib secrets request route ∨ IsAscii (route.supplied request)

/-! ## The verifiers -/

theorem isAscii_iff (text : String) :
    (text.toList.any fun c => 127 < c.toNat) = false ↔ IsAscii text := by
  simp [IsAscii]

section Verification

variable {lib : Library} {secrets : GatewaySecrets} {request : GatewayRequest}
  {route : WebhookRoute} {env : Env} {uuid4 : UUID} {s : Store}

namespace WebhookRoute

/-- Without a signature header a configured endpoint refuses. -/
theorem verify_unsigned (hsecret : route.secret secrets ≠ "") (hsig : route.signature request = "") :
    route.verify lib secrets request = .ok false := by
  cases route with
  | gateway =>
    rw [verify, verifyWebhookHmac, if_neg hsecret, if_pos hsig]
  | razorpay =>
    rw [verify, if_neg hsecret, verifySignature, if_pos (.inr (.inl hsig))]
  | recovery =>
    rw [verify, verifySignature, if_pos (.inr (.inl hsig))]

/-- With a secret and a header the digests are compared, if they can be. -/
theorem verify_signed (hbody : request.body ≠ []) (hsecret : route.secret secrets ≠ "")
    (hsig : route.signature request ≠ "") :
    route.verify lib secrets request =
      if (route.supplied request).toList.any fun c => 127 < c.toNat then .error .typeError
      else .ok (route.supplied request == route.expected lib secrets request) := by
  have hgiven : ¬(request.body = [] ∨ route.signature request = "" ∨ route.secret secrets = "") := by
    simp [hbody, hsig, hsecret]
  cases route with
  | gateway =>
    rw [verify, verifyWebhookHmac, if_neg hsecret, if_neg hsig, Bool.beq_comm]
    rfl
  | razorpay =>
    rw [verify, if_neg hsecret, verifySignature, if_neg hgiven]
    rfl
  | recovery =>
    rw [verify, verifySignature, if_neg hgiven]
    rfl

/-- What is refused unread blames the client. -/
theorem serve_unread (h : route.RefusedUnread request) :
    RefusedBy (route.serve lib secrets env uuid4 request) s := by
  cases route with
  | gateway =>
    have hbody : request.body = [] := h
    refine ⟨.malformedRequest "Webhook request body cannot be empty.", ?_, 400, rfl, by decide,
      by decide⟩
    unfold serve ingestProviderWebhook
    simp only [if_pos hbody]
    rfl
  | razorpay =>
    have hbody : request.body = [] := h
    refine ⟨.malformedRequest "Razorpay webhook body cannot be empty.", ?_, 400, rfl, by decide,
      by decide⟩
    unfold serve ingestRazorpayWebhook
    simp only [if_pos hbody]
    rfl
  | recovery =>
    unfold serve providerWebhook
    by_cases hid : request.toWebhookRequest.eventId = ""
    · refine ⟨.httpException 400 "missing event id", ?_, 400, rfl, by decide, by decide⟩
      unfold WebhookRequest.eventId at hid
      simp only [if_pos hid]
      rfl
    · have hbody : request.body = [] := Or.resolve_left h hid
      refine ⟨.httpException 401 "invalid provider signature", ?_, 401, rfl, by decide, by decide⟩
      unfold WebhookRequest.eventId at hid
      simp only [if_neg hid, verifySignature, hbody, true_or, if_true]
      rfl

/-- The exception of a verifier is not caught. -/
theorem serve_of_verify_error (hread : ¬route.RefusedUnread request) {fault : Fault}
    (h : route.verify lib secrets request = .error fault) :
    route.serve lib secrets env uuid4 request s = .error fault := by
  cases route with
  | gateway =>
    have hbody : ¬request.body = [] := hread
    unfold serve ingestProviderWebhook
    unfold verify signature secret at h
    simp only [if_neg hbody, h]
    rfl
  | razorpay =>
    have hbody : ¬request.body = [] := hread
    unfold serve ingestRazorpayWebhook
    unfold verify signature secret at h
    simp only [if_neg hbody, h]
    rfl
  | recovery =>
    have hid : ¬request.toWebhookRequest.eventId = "" := fun hid => hread (.inl hid)
    unfold WebhookRequest.eventId at hid
    unfold serve providerWebhook
    unfold verify signature secret at h
    simp only [if_neg hid, h]
    rfl

/-- What is not verified is refused. -/
theorem serve_of_verify_false (hread : ¬route.RefusedUnread request)
    (h : route.verify lib secrets request = .ok false) :
    RefusedBy (route.serve lib secrets env uuid4 request) s := by
  cases route with
  | gateway =>
    have hbody : ¬request.body = [] := hread
    refine ⟨.unauthorizedEventSource "Webhook signature verification failed.", ?_, 401, rfl,
      by decide, by decide⟩
    unfold serve ingestProviderWebhook
    unfold verify signature secret at h
    simp only [if_neg hbody, h]
    rfl
  | razorpay =>
    have hbody : ¬request.body = [] := hread
    refine ⟨.unauthorizedEventSource "Razorpay webhook signature verification failed.", ?_, 401,
      rfl, by decide, by decide⟩
    unfold serve ingestRazorpayWebhook
    unfold verify signature secret at h
    simp only [if_neg hbody, h]
    rfl
  | recovery =>
    have hid : ¬request.toWebhookRequest.eventId = "" := fun hid => hread (.inl hid)
    refine ⟨.httpException 401 "invalid provider signature", ?_, 401, rfl, by decide, by decide⟩
    unfold WebhookRequest.eventId at hid
    unfold serve providerWebhook
    unfold verify signature secret at h
    simp only [if_neg hid, h]
    rfl

/-- A verified request whose body says no webhook is refused. -/
theorem serve_of_no_content (hread : ¬route.RefusedUnread request) (hroute : route ≠ .recovery)
    (h : route.verify lib secrets request = .ok true) (hcontent : route.content lib request = none) :
    RefusedBy (route.serve lib secrets env uuid4 request) s := by
  have hblames : ∀ message, (Fault.malformedRequest message).BlamesClient :=
    fun _ => ⟨400, rfl, by decide, by decide⟩
  cases route with
  | gateway =>
    have hbody : ¬request.body = [] := hread
    unfold serve ingestProviderWebhook
    unfold verify signature secret at h
    unfold content payload at hcontent
    simp only [if_neg hbody, h]
    rcases hloads : lib.decodeAndLoad request.body with message | value
    · exact ⟨_, rfl, hblames _⟩
    · rw [hloads] at hcontent
      cases value with
      | obj payload => cases hcontent
      | _ => exact ⟨_, rfl, hblames _⟩
  | razorpay =>
    have hbody : ¬request.body = [] := hread
    unfold serve ingestRazorpayWebhook
    unfold verify signature secret at h
    unfold content payload at hcontent
    simp only [if_neg hbody, h]
    rcases hloads : lib.decodeAndLoad request.body with message | value
    · exact ⟨_, rfl, hblames _⟩
    · rw [hloads] at hcontent
      cases value with
      | obj payload => cases hcontent
      | _ => exact ⟨_, rfl, hblames _⟩
  | recovery => exact absurd rfl hroute

/-- A verified request is ingested. -/
theorem serve_of_content (hread : ¬route.RefusedUnread request)
    (h : route.verify lib secrets request = .ok true) {raw : RawWebhook}
    (hcontent : route.content lib request = some raw) :
    route.serve lib secrets env uuid4 request s =
      ignoringResult (EventService.ingestRawWebhook lib env uuid4 raw true) s := by
  cases route with
  | gateway =>
    have hbody : ¬request.body = [] := hread
    unfold serve ingestProviderWebhook
    unfold verify signature secret at h
    unfold content payload at hcontent
    simp only [if_neg hbody, h]
    rcases hloads : lib.decodeAndLoad request.body with message | value
    · rw [hloads] at hcontent
      cases hcontent
    · rw [hloads] at hcontent
      cases value with
      | obj payload =>
        cases hcontent
        rfl
      | _ => cases hcontent
  | razorpay =>
    have hbody : ¬request.body = [] := hread
    unfold serve ingestRazorpayWebhook
    unfold verify signature secret at h
    unfold content payload at hcontent
    simp only [if_neg hbody, h]
    rcases hloads : lib.decodeAndLoad request.body with message | value
    · rw [hloads] at hcontent
      cases hcontent
    · rw [hloads] at hcontent
      cases value with
      | obj payload =>
        cases hcontent
        rfl
      | _ => cases hcontent
  | recovery => cases hcontent

end WebhookRoute

/-- Forgetting the result keeps how a method ends. -/
theorem refusedBy_ignoringResult {α : Type} {x : Service α} :
    RefusedBy (ignoringResult x) s ↔ RefusedBy x s := by
  unfold RefusedBy ignoringResult
  rw [Tx.bind_apply]
  rcases x s with fault | ⟨a, t⟩
  · constructor <;> rintro ⟨other, h, hblames⟩ <;> cases h <;> exact ⟨_, rfl, hblames⟩
  · exact iff_of_false (fun ⟨_, h, _⟩ => by cases h) fun ⟨_, h, _⟩ => by cases h

/-- A raw webhook is refused exactly when it is unusable. -/
theorem ingestRawWebhook_refused_iff {raw : RawWebhook}
    (htriggers : ∀ case ∈ s.recoveryCases, case.triggerTransactionId < s.transactions.length)
    (hknown : TransitionsKnown s) :
    RefusedBy (EventService.ingestRawWebhook lib env uuid4 raw true) s ↔
      Unusable lib env uuid4 s raw := by
  unfold RefusedBy EventService.ingestRawWebhook
  rcases hread : EventNormalizer.normalizeRawProviderWebhook lib env.now uuid4 raw with fault | event
  · have huntyped : fault.statusCode = none :=
      EventNormalizer.normalizeRawProviderWebhook_untyped.of_eq fault hread
    refine iff_of_false ?_ ?_
    · rintro ⟨other, hother, hblames⟩
      cases hother
      exact Fault.not_blamesClient huntyped hblames
    · rintro ⟨event, hsays, -⟩
      rw [EventNormalizer.normalizeRawProviderWebhook_eq_ok.mpr hsays] at hread
      cases hread
  have hsays := EventNormalizer.normalizeRawProviderWebhook_eq_ok.mp hread
  have honly : ∀ other, EventNormalizer.Says lib env.now uuid4 raw other → other = event := by
    intro other hother
    have hsame := EventNormalizer.normalizeRawProviderWebhook_eq_ok.mpr hother
    rw [hread, Except.ok.injEq] at hsame
    exact hsame.symm
  have hcases := EventService.ingestCanonicalEvent_cases env event
    (EventDeduplicator.computeFingerprint lib event) true htriggers hknown
  dsimp only
  generalize EventService.ingestCanonicalEvent env event
    (EventDeduplicator.computeFingerprint lib event) true s = run at hcases ⊢
  have hunusable : Unusable lib env uuid4 s raw ↔ EventValidator.validate env event ≠ .ok () ∨
      ∃ existing, WebhookEventRepository.find s (lower event.provider) event.externalEventId =
          some existing ∧
        existing.2.payloadHash ≠ EventDeduplicator.computeFingerprint lib event :=
    ⟨fun ⟨other, hother, h⟩ => honly other hother ▸ h, fun h => ⟨event, hsays, h⟩⟩
  rw [hunusable]
  cases hcases with
  | invalid fault hvalid hblames =>
    exact iff_of_true ⟨fault, rfl, hblames⟩ (.inl fun h => by rw [hvalid] at h; cases h)
  | conflicting fault existing _ hfind hother hblames =>
    exact iff_of_true ⟨fault, rfl, hblames⟩ (.inr ⟨existing, hfind, hother⟩)
  | repeated result t existing hvalid hfind hsame _ =>
    refine iff_of_false (fun ⟨_, h, _⟩ => by cases h) ?_
    rintro (h | ⟨other, hfound, hother⟩)
    · exact h hvalid
    · rw [hfind, Option.some.injEq] at hfound
      exact hother (hfound ▸ hsame)
  | processed result t hvalid hnew _ _ =>
    refine iff_of_false (fun ⟨_, h, _⟩ => by cases h) ?_
    rintro (h | ⟨other, hfound, -⟩)
    · exact h hvalid
    · rw [hnew] at hfound
      cases hfound
  | unprocessable fault hvalid hnew _ huntyped =>
    refine iff_of_false (fun ⟨_, h, hblames⟩ => ?_) ?_
    · cases h
      exact Fault.not_blamesClient huntyped hblames
    · rintro (h | ⟨other, hfound, -⟩)
      · exact h hvalid
      · rw [hnew] at hfound
        cases hfound

/-- What is stored as verified was signed as soon as everything else is refused. -/
theorem signatureSound_iff_refused : SignatureSound lib secrets env uuid4 request s route ↔
    (¬Signed lib secrets request route →
      RefusedBy (route.serve lib secrets env uuid4 request) s) := by
  refine ⟨SignatureSound.refused, fun hrefused => ⟨fun t hserve _ => ?_, hrefused⟩⟩
  by_contra hunsigned
  obtain ⟨fault, hfault, -⟩ := hrefused hunsigned
  rw [hserve] at hfault
  cases hfault

end Verification

/-- In every reachable database a webhook endpoint is sound about a request exactly when it
refuses the request unread, or has no secret but another reason to refuse it, or has a secret and
can compare the supplied signature. -/
theorem signature_sound_iff (config : PolicyConfig) (requests : List Request) (lib : Library)
    (secrets : GatewaySecrets) (env : Env) (uuid4 : UUID) (request : GatewayRequest)
    (route : WebhookRoute) :
    SignatureSound lib secrets env uuid4 request (World.empty.run config requests).db route ↔
      route.RefusedUnread request ∨
        SoundWhen lib secrets env uuid4 request (World.empty.run config requests).db route := by
  have htriggers := (World.run_chain config requests).triggers
  have hknown := World.run_transitionsKnown config requests
  rw [signatureSound_iff_refused]
  by_cases hread : route.RefusedUnread request
  · exact iff_of_true (fun _ => route.serve_unread hread) (.inl hread)
  rw [or_iff_right hread]
  have hbody : request.body ≠ [] := by
    cases route with
    | recovery => exact fun hbody => hread (.inr hbody)
    | _ => exact hread
  by_cases hsecret : route.secret secrets = ""
  · have hunsigned : ¬Signed lib secrets request route := fun h => h.configured hsecret
    rw [imp_iff_right hunsigned]
    refine (?_ : _ ↔ _).trans ⟨fun h => ⟨fun _ => h, fun hne => absurd hsecret hne⟩,
      fun h => h.unconfigured hsecret⟩
    by_cases hroute : route = .recovery
    · subst hroute
      refine iff_of_true (WebhookRoute.serve_of_verify_false hread ?_) fun h => absurd rfl h
      rw [WebhookRoute.verify, verifySignature, if_pos (.inr (.inr hsecret))]
    rw [imp_iff_right hroute]
    have hverify : route.verify lib secrets request = .ok true := by
      cases route with
      | gateway => rw [WebhookRoute.verify, verifyWebhookHmac, if_pos hsecret]
      | razorpay => rw [WebhookRoute.verify, if_pos hsecret]
      | recovery => exact absurd rfl hroute
    rcases hcontent : route.content lib request with _ | raw
    · exact iff_of_true (WebhookRoute.serve_of_no_content hread hroute hverify hcontent) nofun
    · unfold RefusedBy
      rw [WebhookRoute.serve_of_content hread hverify hcontent]
      refine (refusedBy_ignoringResult.trans (ingestRawWebhook_refused_iff htriggers hknown)).trans
        ⟨fun h other hother => ?_, fun h => h raw rfl⟩
      cases hother
      exact h
  refine (?_ : _ ↔ _).trans ⟨fun h => ⟨fun hnone => absurd hnone hsecret, fun _ => h⟩,
    fun h => h.comparable hsecret⟩
  by_cases hsig : route.signature request = ""
  · refine iff_of_true (fun _ => ?_) fun h => absurd hsig h
    exact WebhookRoute.serve_of_verify_false hread (WebhookRoute.verify_unsigned hsecret hsig)
  rw [imp_iff_right hsig]
  have hverify : route.verify lib secrets request = _ :=
    WebhookRoute.verify_signed hbody hsecret hsig
  by_cases hascii : IsAscii (route.supplied request)
  · rw [(isAscii_iff _).mpr hascii, if_neg Bool.false_ne_true] at hverify
    refine iff_of_true (fun hunsigned => ?_) (.inr hascii)
    have hdiffer : ¬route.supplied request = route.expected lib secrets request :=
      fun hequal => hunsigned ⟨hsecret, hequal⟩
    rw [beq_false_of_ne hdiffer] at hverify
    exact WebhookRoute.serve_of_verify_false hread hverify
  · rw [Bool.eq_true_of_not_eq_false (mt (isAscii_iff _).mp hascii), if_pos rfl] at hverify
    rw [or_iff_left hascii]
    refine ⟨fun hrefused => ?_, fun hsigned hunsigned => absurd hsigned hunsigned⟩
    by_contra hunsigned
    obtain ⟨fault, hfault, hblames⟩ := hrefused hunsigned
    rw [WebhookRoute.serve_of_verify_error hread hverify] at hfault
    cases hfault
    exact Fault.not_blamesClient rfl hblames

namespace Sample

/-- A deployment with or without a secret. -/
def deployed (whsec : Option String) : GatewaySecrets :=
  { RAZORPAY_WEBHOOK_SECRET := whsec, paymentWebhookSecret := "", razorpayWebhookSecret := ""
    WEBHOOK_SIGNING_SECRET := none, STRIPE_WEBHOOK_SECRET := none }

/-- The webhook about a failure, with a signature or without one. -/
def posted (signature : Option String) : GatewayRequest :=
  { body := failedBody, xEventId := some "evt_1", xSignature := none, xRazorpayEventId := none
    xRazorpaySignature := signature, xSignatureSha256 := none, stripeSignature := none
    stripeEventId := none, userAgent := none }

end Sample

/-- Without a secret an unsigned webhook is stored as verified, and with a secret a signature that
is not ASCII is an unhandled exception of every endpoint. -/
theorem unsigned_webhook_is_stored_as_verified :
    ¬SignatureSound Sample.razorpayLibrary (Sample.deployed none) Sample.env (Sample.drawn 1)
        (Sample.posted none) Store.empty .gateway ∧
      ∀ route, ¬SignatureSound Sample.razorpayLibrary (Sample.deployed (some "whsec")) Sample.env
        (Sample.drawn 1) (Sample.posted (some "é")) Store.empty route := by
  have hstored : ((WebhookRoute.serve Sample.razorpayLibrary (Sample.deployed none) Sample.env
      (Sample.drawn 1) (Sample.posted none) .gateway Store.empty).map fun r =>
        r.2.webhookEvents.map ProviderWebhookEvent.signatureVerified).toOption = some [true] := by
    decide +kernel
  have hraised : ∀ route, (WebhookRoute.serve Sample.razorpayLibrary
      (Sample.deployed (some "whsec")) Sample.env (Sample.drawn 1) (Sample.posted (some "é"))
        route).fault Store.empty = some .typeError := by
    rintro (_ | _ | _) <;> decide +kernel
  refine ⟨fun hsound => ?_, fun route hsound => ?_⟩
  · obtain ⟨fault, hfault, -⟩ := hsound.refused fun h => absurd h.configured (by decide)
    rw [hfault] at hstored
    cases hstored
  · have hunsigned : ¬Signed Sample.razorpayLibrary (Sample.deployed (some "whsec"))
        (Sample.posted (some "é")) route :=
      fun h => absurd h.equal (by cases route <;> decide +kernel)
    obtain ⟨fault, hfault, hblames⟩ := hsound.refused hunsigned
    have hraised := hraised route
    rw [Tx.fault, hfault, Option.some.injEq] at hraised
    subst hraised
    exact Fault.not_blamesClient rfl hblames

end RevenueRescue
