import RevenueRescue.Properties.Redelivery
import RevenueRescue.Refinement.Bodies
import RevenueRescue.Refinement.Redaction

/-!
# Card data at rest

The free texts of a request are its failure message and its metadata. An ingestion keeps them in
the receipt, in the transaction it adds, and in the case it opens or updates. The redaction reads
the metadata only, so a request leaves no card number behind exactly when its message has none
and no leaf of its metadata survives the redaction with one.
-/

namespace RevenueRescue

open Python EventNormalizer

/-! ## What an ingestion keeps -/

namespace EventToCaseEngine

variable {env : Env} {s t : Store} {event : CanonicalEventDTO} {i : ℕ}

end EventToCaseEngine

/-! ## Ingestion -/

namespace EventService

variable {env : Env} {s t : Store} {event : CanonicalEventDTO} {payloadHash : String}
  {signatureVerified : Bool}

end EventService

/-! ## Requests -/

/-- A body is laid out in one way. -/
theorem EventNormalizer.Laid.unique {raw : RawWebhook} {values others : BodyValues}
    (h : Laid raw values) (hother : Laid raw others) : values = others := by
  have hlacks : ∀ {d fields : Dict} {key inner : String} {value : Json}, Lacks d key inner →
      d.lookup key = some (.obj fields) → fields.lookup inner = some value → False := by
    intro d fields key inner value hlacks hfields hvalue
    have hcontains := hlacks _ hfields
    simp [Json.contains, hvalue] at hcontains
  cases h with
  | stripe hdata hobject herror =>
    cases hother with
    | stripe hdata' hobject' herror' =>
      rw [hdata] at hdata'
      cases hdata'
      rw [hobject] at hobject'
      cases hobject'
      rw [herror] at herror'
      cases herror'
      rfl
    | razorpay hstripe _ _ _ => exact (hlacks hstripe hdata hobject).elim
    | generic hstripe _ => exact (hlacks hstripe hdata hobject).elim
  | razorpay hstripe hpayload hpayment hentity =>
    cases hother with
    | stripe hdata hobject _ => exact (hlacks hstripe hdata hobject).elim
    | razorpay _ hpayload' hpayment' hentity' =>
      rw [hpayload] at hpayload'
      cases hpayload'
      rw [hpayment] at hpayment'
      cases hpayment'
      rw [hentity] at hentity'
      cases hentity'
      rfl
    | generic _ hrazorpay => exact (hlacks hrazorpay hpayload hpayment).elim
  | generic hstripe hrazorpay =>
    cases hother with
    | stripe hdata hobject _ => exact (hlacks hstripe hdata hobject).elim
    | razorpay _ hpayload hpayment _ => exact (hlacks hrazorpay hpayload hpayment).elim
    | generic _ _ => rfl

/-- A request for the ingestion of an event: the webhook of a gateway or an event in the canonical
schema. -/
inductive EventRequest where
  | webhook (raw : RawWebhook)
  | canonical (request : EventIngestRequestDTO)

namespace EventRequest

/-- The provider as the request spells it. -/
def provider : EventRequest → String
  | .webhook raw => raw.provider
  | .canonical request => request.provider

/-- The name of the event in the request, or the one that is generated for it. -/
inductive Named (uuid4 : UUID) : EventRequest → Json → Prop
  | webhook {raw : RawWebhook} {values : BodyValues} (hlaid : Laid raw values) :
    Named uuid4 (.webhook raw) (values.named.or (generatedId values.start uuid4))
  | canonical {request : EventIngestRequestDTO} :
    Named uuid4 (.canonical request)
      ((Json.ofOption request.eventId).or (generatedId "evt_ing_" uuid4))

variable {lib : Library} {env : Env} {uuid4 : UUID} {request : EventRequest}

theorem Named.unique {first second : Json} (hfirst : request.Named uuid4 first)
    (hsecond : request.Named uuid4 second) : first = second := by
  cases hfirst with
  | webhook hlaid =>
    cases hsecond with
    | webhook hother => rw [hlaid.unique hother]
  | canonical =>
    cases hsecond
    rfl

end EventRequest

namespace Sample

/-- The webhook with a failure message. -/
def declinedWebhook (message : String) : RawWebhook :=
  { webhook (some "evt_1") with
    payload := ("failure_message", .str message) :: (webhook (some "evt_1")).payload }

/-- The request with that webhook. -/
def declined (message : String) : EventRequest := .webhook (declinedWebhook message)

end Sample

end RevenueRescue
