import RevenueRescue.Base.Run
import RevenueRescue.Base.Text

/-!
# The ledger of provider events

`WebhookEventLedger.accept` remembers the digest of the payload under which an event id was first
seen, and answers later deliveries of the id from it. The id is remembered before the payload is
read, and the payload is only read when the id is new.

Reading a payload can end with a `ValueError`, which the source catches, and at the recursion limit
of the interpreter, which it does not.
-/

namespace RevenueRescue

open Python

/-- `WebhookReceipt`. -/
structure WebhookReceipt where
  eventId : String
  eventType : String
  payloadHash : String
  accepted : Bool
  duplicate : Bool
  reason : String
  deriving DecidableEq, Repr

/-- The arguments of one call of `accept`. -/
structure WebhookDelivery where
  eventId : String
  payload : List UInt8
  deriving DecidableEq, Repr

/-- What `json.loads` raises for a payload. -/
inductive LoadsFault where
  | valueError
  | recursionError
  deriving DecidableEq, Repr

/-- What `accept` raises. -/
inductive AcceptFault where
  | attributeError
  | recursionError
  deriving DecidableEq, Repr

/-- `WebhookEventLedger`, the digests by event id. -/
structure WebhookEventLedger where
  seen : List (String × String)
  deriving DecidableEq, Repr

namespace WebhookEventLedger

/-- `WebhookEventLedger()`. -/
def empty : WebhookEventLedger := ⟨[]⟩

variable (sha256 : List UInt8 → String) (loads : List UInt8 → Except LoadsFault Json)

/-- `str(json.loads(payload).get("event", "unknown"))`, or `"unknown"` when the payload is no JSON
text; only an object has the method `get`. -/
def eventTypeOf (payload : List UInt8) : Except AcceptFault String :=
  match loads payload with
  | .ok (.obj fields) => .ok (strJson (Dict.getD fields "event" (.str "unknown")))
  | .ok _ => .error .attributeError
  | .error .valueError => .ok "unknown"
  | .error .recursionError => .error .recursionError

/-- The receipt of a delivery whose id was seen with a digest. -/
def seenReceipt (previous : String) (delivery : WebhookDelivery) : WebhookReceipt :=
  { eventId := delivery.eventId
    eventType := "unknown"
    payloadHash := sha256 delivery.payload
    accepted := false
    duplicate := true
    reason :=
      if previous ≠ sha256 delivery.payload then "event_id_reused_with_different_payload"
      else "duplicate_event_suppressed" }

/-- The receipt of a delivery whose id is new. -/
def newReceipt (eventType : String) (delivery : WebhookDelivery) : WebhookReceipt :=
  { eventId := delivery.eventId
    eventType
    payloadHash := sha256 delivery.payload
    accepted := true
    duplicate := false
    reason := "accepted" }

/-- `WebhookEventLedger.accept`: the receipt or the exception, and the ledger afterwards. -/
def accept (ledger : WebhookEventLedger) (delivery : WebhookDelivery) :
    Except AcceptFault WebhookReceipt × WebhookEventLedger :=
  match ledger.seen.lookup delivery.eventId with
  | some previous => (.ok (seenReceipt sha256 previous delivery), ledger)
  | none =>
    -- the id is seen from here on, whatever becomes of the payload
    let ledger := ⟨(delivery.eventId, sha256 delivery.payload) :: ledger.seen⟩
    match eventTypeOf loads delivery.payload with
    | .ok eventType => (.ok (newReceipt sha256 eventType delivery), ledger)
    | .error fault => (.error fault, ledger)

/-- The ledger after one call. -/
def step (ledger : WebhookEventLedger) (delivery : WebhookDelivery) : WebhookEventLedger :=
  (accept sha256 loads ledger delivery).2

/-- The ledger after a sequence of calls. -/
def after (ledger : WebhookEventLedger) (deliveries : List WebhookDelivery) : WebhookEventLedger :=
  Run.after (step sha256 loads) ledger deliveries

/-- The calls of a sequence that return, with their receipts. -/
def returned (ledger : WebhookEventLedger) :
    List WebhookDelivery → List (WebhookDelivery × WebhookReceipt)
  | [] => []
  | delivery :: rest =>
    match accept sha256 loads ledger delivery with
    | (.ok receipt, next) => (delivery, receipt) :: returned next rest
    | (.error _, next) => returned next rest

end WebhookEventLedger

end RevenueRescue
