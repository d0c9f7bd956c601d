import RevenueRescue.Cases.Normalizer
import RevenueRescue.Workflows.Reconciliation

/-!
# The live payment adapter

The live paths of `RazorpaySandboxPaymentAdapter`: a retry creates an order at the provider, and a
status query fetches a payment. The HTTP exchange is a parameter. What an answer holds is passed on
unchecked, so that a field of the result may be any JSON value.
-/

namespace RevenueRescue

open Python

/-- An HTTP response: its status code, its content type, and what `resp.json()` makes of its body,
the value or the text of the error. -/
structure HttpResponse where
  statusCode : ℕ
  contentType : Option String
  json : Except String Json

/-- How a request to the provider ends. -/
inductive HttpExchange where
  | response (resp : HttpResponse)
  | timeout
  | failure (exc : String)

/-- `ExecutionResult` as the live path builds it. -/
structure LiveResult where
  status : ExecutionStatus
  providerPaymentId : Json
  providerOrderId : Json
  amountMinor : Json
  currency : Json
  errorCode : Json
  errorMessageSafe : Json
  rawResponseSafe : Json
  executedAt : Datetime
  isDefinitive : Bool

/-- An adapter with live keys, and the provider behind its two endpoints. -/
structure RazorpaySandboxPaymentAdapter where
  lib : Library
  timeoutSeconds : ℚ
  postOrder : Dict → HttpExchange
  fetchPayment : String → HttpExchange

namespace RazorpaySandboxPaymentAdapter

def PROVIDER_NAME : String := "razorpay"

/-- The name of the type that `json.loads` gives a value. -/
def typeName : Json → String
  | .null => "NoneType"
  | .bool _ => "bool"
  | .int _ => "int"
  | .float _ | .inf _ | .nan => "float"
  | .str _ => "str"
  | .arr _ => "list"
  | .obj _ => "dict"

/-- `value.get(key, default)`, or the text of the `AttributeError`. -/
def getField (value : Json) (key : String) (default : Json) : Except String Json :=
  match value with
  | .obj fields => .ok (Dict.getD fields key default)
  | _ => .error ("'" ++ typeName value ++ "' object has no attribute 'get'")

variable (adapter : RazorpaySandboxPaymentAdapter) (now : Datetime) (request : PaymentRetryRequest)

/-! ## Submitting a retry -/

/-- The body of the request that creates the order. -/
def orderPayload : Dict :=
  [("amount", .int request.amountMinor), ("currency", .str (upper request.currency.code)),
    ("receipt", .str (String.ofList (request.idempotencyKey.toList.take 40))),
    ("notes", .obj [("case_id", .str (UUID.str request.caseId)),
      ("transaction_id", .str (UUID.str request.transactionId))])]

/-- The result of an exchange that gave no usable answer. -/
def unknownResult (errorCode message : String) : LiveResult :=
  { status := .UNKNOWN
    providerPaymentId := .null
    providerOrderId := .null
    amountMinor := .int request.amountMinor
    currency := .str request.currency.code
    errorCode := .str errorCode
    errorMessageSafe := .str message
    rawResponseSafe := .obj [("error", .obj [("code", .str errorCode)])]
    executedAt := now
    isDefinitive := false }

/-- The answer says that the order was created. -/
def created (resp : HttpResponse) : Except String LiveResult := do
  let data ← resp.json
  let safeData := EventNormalizer.sanitizeMetadata adapter.lib data
  let orderId ← getField data "id" .null
  let amountMinor ← getField data "amount" (.int request.amountMinor)
  let currency ← getField data "currency" (.str request.currency.code)
  return { status := .SUBMITTED
           providerPaymentId := .null
           providerOrderId := orderId
           amountMinor
           currency
           errorCode := .null
           errorMessageSafe := .null
           rawResponseSafe := safeData
           executedAt := now
           isDefinitive := true }

/-- Whether the header announces JSON. -/
def announcesJson (resp : HttpResponse) : Bool :=
  startsWith (resp.contentType.getD "") "application/json"

/-- The body of another answer, which is read only when it is announced as JSON. -/
def rejectionBody (resp : HttpResponse) : Except String Json :=
  if announcesJson resp then resp.json else .ok (.obj [])

/-- Every other answer. -/
def rejected (resp : HttpResponse) : Except String LiveResult := do
  let data ← rejectionBody resp
  let safeData := EventNormalizer.sanitizeMetadata adapter.lib data
  let err ← getField safeData "error" (.obj [])
  let errCode ← getField err "code" (.str ("HTTP_" ++ toString resp.statusCode))
  let errDesc ← getField err "description" (.str "Razorpay order creation rejected.")
  return { status := .FAILED
           providerPaymentId := .null
           providerOrderId := .null
           amountMinor := .int request.amountMinor
           currency := .str request.currency.code
           errorCode := errCode
           errorMessageSafe := errDesc
           rawResponseSafe := safeData
           executedAt := now
           isDefinitive := true }

/-- The result that an exchange leads to. -/
def resultOf : HttpExchange → LiveResult
  | .timeout =>
    unknownResult now request "GATEWAY_TIMEOUT"
      ("Connection to Razorpay timed out after " ++ floatStr adapter.timeoutSeconds ++ "s.")
  | .failure exc =>
    unknownResult now request "NETWORK_ERROR" ("Failed to communicate with Razorpay: " ++ exc)
  | .response resp =>
    match if resp.statusCode ∈ [200, 201] then adapter.created now request resp
        else adapter.rejected now request resp with
    | .ok result => result
    | .error exc =>
      unknownResult now request "NETWORK_ERROR" ("Failed to communicate with Razorpay: " ++ exc)

/-- `_execute_live_razorpay_request`. -/
def executeLiveRazorpayRequest : LiveResult :=
  adapter.resultOf now request (adapter.postOrder (orderPayload request))

/-! ## What the columns take -/

/-- A text column takes a number or a truth value as its text, and no container. -/
def textColumn : Json → Option (Option String)
  | .null => some none
  | .str text => some (some text)
  | .bool b => some (some (if b then "1" else "0"))
  | .arr _ | .obj _ => none
  | number => some (some (reprJson number))

/-- An integer column that must be set. -/
def integerColumn : Json → Option ℤ
  | .int n => some n
  | .bool b => some (if b then 1 else 0)
  | _ => none

/-- The result with the values that its columns take; `none` where the flush of the execution
fails. -/
def recordable (result : LiveResult) : Option ExecutionResult := do
  let providerPaymentId ← textColumn result.providerPaymentId
  let providerOrderId ← textColumn result.providerOrderId
  let amountMinor ← integerColumn result.amountMinor
  let currency ← (textColumn result.currency).join
  let errorCode ← textColumn result.errorCode
  let errorMessageSafe ← textColumn result.errorMessageSafe
  return { status := result.status
           provider := PROVIDER_NAME
           providerPaymentId
           providerOrderId
           amountMinor
           currency
           errorCode
           errorMessageSafe
           executedAt := result.executedAt
           isDefinitive := result.isDefinitive }

/-- The provider of a dispatch that goes through the live path. -/
def submitRetry : Provider := fun request =>
  recordable (adapter.executeLiveRazorpayRequest now request)

/-! ## Querying a payment -/

/-- `_normalize_razorpay_status`. -/
def normalizeRazorpayStatus (rawStatus : String) : ExecutionStatus :=
  (([("created", .SUBMITTED), ("authorized", .PENDING), ("captured", .SUCCEEDED),
    ("failed", .FAILED), ("refunded", .CANCELLED)] :
      List (String × ExecutionStatus)).lookup rawStatus).getD .UNKNOWN

/-- The result of a query that was not answered with a payment. -/
def unanswered (providerPaymentId errorCode message : String) (isDefinitive : Bool) : LiveResult :=
  { status := .UNKNOWN
    providerPaymentId := .str providerPaymentId
    providerOrderId := .null
    amountMinor := .int 0
    currency := .str "INR"
    errorCode := .str errorCode
    errorMessageSafe := .str message
    rawResponseSafe := .obj []
    executedAt := now
    isDefinitive }

/-- The answer to a query that found its payment. -/
def found (resp : HttpResponse) : Except Fault LiveResult := do
  let data ← match resp.json with
    | .ok data => EventNormalizer.asDict data
    | .error exc => .error (.valueError exc)
  let rawStatus ← match Dict.getD data "status" (.str "") with
    | .str status => .ok (lower status)
    | _ => .error .attributeError
  let amountMinor ← EventNormalizer.toInt adapter.lib (Dict.getD data "amount" (.int 0))
  return { status := normalizeRazorpayStatus rawStatus
           providerPaymentId := Dict.get data "id"
           providerOrderId := Dict.get data "order_id"
           amountMinor := .int amountMinor
           currency := .str (upper (strJson (Dict.getD data "currency" (.str "INR"))))
           errorCode := Dict.get data "error_code"
           errorMessageSafe := Dict.get data "error_description"
           rawResponseSafe := EventNormalizer.sanitizeMetadata adapter.lib (.obj data)
           executedAt := now
           isDefinitive := true }

/-- `_execute_live_status_query`; only a timeout is caught. -/
def executeLiveStatusQuery (providerPaymentId : String) : Except Fault LiveResult :=
  match adapter.fetchPayment providerPaymentId with
  | .timeout =>
    .ok (unanswered now providerPaymentId "GATEWAY_TIMEOUT"
      "Timeout querying Razorpay payment status." false)
  | .failure _ => .error .adapterError
  | .response resp =>
    if resp.statusCode = 200 then adapter.found now resp
    else
      .ok (unanswered now providerPaymentId ("HTTP_" ++ toString resp.statusCode)
        "Gateway failed to return payment status." true)

/-- The status that a reconciliation gets to see. -/
def retrieveStatus (providerPaymentId : String) : Option ExecutionStatus :=
  match adapter.executeLiveStatusQuery now providerPaymentId with
  | .ok result => some result.status
  | .error _ => none

end RazorpaySandboxPaymentAdapter

end RevenueRescue
