import RevenueRescue.Base.JsonText
import RevenueRescue.Properties.Redelivery
import RevenueRescue.Refinement.Receipts

/-!
# What a fingerprint tells

The digest that a receipt keeps is taken of a JSON text with sorted keys, so two events have the
same digest exactly when they agree in the twelve fields it covers, their metadata up to the order
of keys. An event id that is used again is therefore suppressed as a duplicate or refused as a
conflict according to the content alone: not to the time or the spelling of the provider.
-/

namespace RevenueRescue

open Python

/-- The entries that a fingerprint is taken of. -/
def fingerprintData (event : CanonicalEventDTO) : Dict :=
  [("event_type", .str event.eventType),
    ("provider", .str (lower event.provider)),
    ("customer_reference", .str event.customerReference),
    ("payment_reference", .ofOption event.paymentReference),
    ("subscription_reference", .ofOption event.subscriptionReference),
    ("invoice_reference", .ofOption event.invoiceReference),
    ("checkout_session_id", .ofOption event.checkoutSessionId),
    ("amount_minor", .int event.amountMinor),
    ("currency", .str (upper event.currency.code)),
    ("failure_code", .ofOption event.failureCode),
    ("failure_message", .ofOption event.failureMessage),
    ("metadata", .obj event.metadata)]

/-- The bytes that a fingerprint is the digest of. -/
def fingerprintBytes (event : CanonicalEventDTO) : List UInt8 :=
  encode (dumps (.obj (fingerprintData event)))

namespace Sample

/-- The failure of a payment, and another one under the same event id. -/
def reported : CanonicalEventDTO := event "evt_1" "PAYMENT_FAILED"

/-- The library with the digests of the two events. -/
def digests : Library :=
  { library with
    sha256 := fun bytes =>
      if bytes = fingerprintBytes reported then
        "2ac09915ec83b5d896dbfe39d49a51d29d4a77cde3cd500e3102d246bb4c4182"
      else "b4f541d640cab81b66464568a23b2b6d0784b166540eaab2490e7a4dc98521cc" }

/-- Ingest an event at noon. -/
def ingestion (event : CanonicalEventDTO) : Service EventRecordResult :=
  EventService.ingestCanonicalEvent env event (EventDeduplicator.computeFingerprint digests event)
    true

end Sample

end RevenueRescue
