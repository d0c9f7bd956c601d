import Mathlib.Algebra.Ring.Int.Defs
import RevenueRescue.Domain.Models

/-!
# Priority and risk tier

`CasePrioritizer.calculate_priority` and `CaseRiskClassifier.classify_risk`. Both add up
fixed amounts chosen by the exposure, the event and the cleaned failure code; the factors
and the rationale that accompany the result are kept because they end up in the metadata
of the case.
-/

namespace RevenueRescue

open Python

/-- The digits of a number in groups of three. -/
def groupThousands (digits : List Char) : List Char :=
  (digits.reverse.zipIdx.flatMap fun (c, i) =>
    if i % 3 = 0 && i ≠ 0 then [',', c] else [c]).reverse

/-- `f"{amount_minor / 100:,.2f}"`, exact where the quotient is; it is shown for positive amounts
only. -/
def majorUnits (amountMinor : ℤ) : String :=
  let cents := amountMinor.toNat % 100
  String.ofList (groupThousands (toString (amountMinor.toNat / 100)).toList) ++ "." ++
    (if cents < 10 then "0" else "") ++ toString cents

/-- `". ".join(parts)`, or the default when there are none. -/
def joinReasons (parts : List String) (default : String) : String :=
  if parts.isEmpty then default else String.intercalate ". " parts

/-- `(failure_code or "").strip().lower()`. -/
def cleanCode (failureCode : Option String) : String := lower (strip (failureCode.getD ""))

/-- One step of a score: what it adds, the factors it records and why. -/
structure Adjustment where
  score : ℤ
  factors : Dict
  reasons : List String

/-- No change. -/
def Adjustment.none : Adjustment := ⟨0, [], []⟩

structure PriorityResult where
  priority : ℤ
  reason : String
  factors : Dict

namespace CasePrioritizer

def BASE_PRIORITY : ℤ := 100

/-- The financial exposure dimension. -/
def exposure (amountMinor : ℤ) (currency : String) : Adjustment :=
  let shown := s!"({currency} {majorUnits amountMinor})"
  let factor := fun n : ℤ => [("exposure_adjustment", Json.int n)]
  if amountMinor ≥ 500000 then
    ⟨-50, factor (-50), [s!"Major exposure {shown} requires top queue placement"]⟩
  else if amountMinor ≥ 100000 then
    ⟨-25, factor (-25), [s!"Significant exposure {shown} prioritized"]⟩
  else if amountMinor ≥ 25000 then ⟨-10, factor (-10), [s!"Moderate exposure {shown}"]⟩
  else if amountMinor < 5000 then
    ⟨15, factor 15, ["Low transaction amount adjusted to standard queue"]⟩
  else .none

/-- The failure category dimension. -/
def failure (cleanCode : String) : Adjustment :=
  let factor := fun n : ℤ => [("failure_adjustment", Json.int n)]
  if cleanCode ∈ ["insufficient_funds"] then
    ⟨-20, factor (-20),
      ["Transient balance shortage has high recovery probability via scheduled retry"]⟩
  else if cleanCode ∈ ["processing_error", "network_error", "timeout"] then
    ⟨-25, factor (-25), ["Transient gateway/processing error prioritized for rapid re-attempt"]⟩
  else if cleanCode ∈ ["card_expired", "expired_card"] then
    ⟨15, factor 15, ["Expired card requires customer payment method update"]⟩
  else if cleanCode ∈ ["authentication_required", "3d_secure_required"] then
    ⟨10, factor 10, ["Authentication step-up required by cardholder"]⟩
  else if cleanCode ∈ ["fraud_suspected", "fraudulent"] then
    ⟨50, factor 50,
      ["Suspected fraud de-prioritized for automated retry and flagged for risk review"]⟩
  else if cleanCode ∈ ["do_not_honor", "card_declined"] then
    ⟨10, factor 10, ["Bank decline requires customer inquiry"]⟩
  else .none

/-- The age dimension: cases unresolved for a day, and for two, become more urgent. -/
def age (openedAt : Option Datetime) (currentTime : Datetime) : Adjustment :=
  match openedAt with
  | none => .none
  | some caseTime =>
    let elapsed := currentTime.assumeUtc.instant - caseTime.assumeUtc.instant
    let hours := toString (elapsed / Datetime.hour)
    if elapsed ≥ 48 * Datetime.hour then
      ⟨-20, [("age_adjustment", .int (-20))],
        [s!"Unresolved for {hours}h; critical aging escalation"]⟩
    else if elapsed ≥ 24 * Datetime.hour then
      ⟨-10, [("age_adjustment", .int (-10))], [s!"Unresolved for {hours}h; elevated priority"]⟩
    else .none

/-- `CasePrioritizer.calculate_priority`; `asOf` is the clock when the caller gives none. -/
def calculatePriority (amountMinor : ℤ) (currency : String) (failureCode : Option String)
    (eventType : String) (openedAt : Option Datetime) (asOf : Datetime) : PriorityResult :=
  let parts :=
    [exposure amountMinor currency, failure (cleanCode failureCode), age openedAt asOf]
  let score := BASE_PRIORITY + (parts.map Adjustment.score).sum
  let finalPriority := max 1 (min 1000 score)
  let base : Dict :=
    [("base_priority", .int BASE_PRIORITY), ("amount_minor", .int amountMinor),
      ("currency", .str currency), ("failure_code", (failureCode.map Json.str).getD .null),
      ("event_type", .str eventType)]
  { priority := finalPriority
    reason := joinReasons (parts.flatMap Adjustment.reasons) "Default queue priority."
    factors := base ++ parts.flatMap Adjustment.factors ++
      [("final_priority", .int finalPriority)] }

end CasePrioritizer

structure RiskClassificationResult where
  riskTier : RiskTier
  reason : String
  factors : Dict

namespace CaseRiskClassifier

def HIGH_EXPOSURE_THRESHOLD : ℤ := 500000
def MEDIUM_EXPOSURE_THRESHOLD : ℤ := 100000

/-- The financial exposure component. -/
def exposure (amountMinor : ℤ) (currency : String) : Adjustment :=
  let shown := s!"({currency} {majorUnits amountMinor})"
  let factor := fun n : ℤ => [("exposure_score", Json.int n)]
  if amountMinor ≥ HIGH_EXPOSURE_THRESHOLD then
    ⟨50, factor 50, [s!"Major financial exposure {shown}"]⟩
  else if amountMinor ≥ MEDIUM_EXPOSURE_THRESHOLD then
    ⟨30, factor 30, [s!"Significant financial exposure {shown}"]⟩
  else if amountMinor ≥ 25000 then ⟨15, factor 15, [s!"Moderate financial exposure {shown}"]⟩
  else ⟨0, factor 5, []⟩

/-- The event type component. -/
def churn (cleanEvent : String) : Adjustment :=
  let factor := fun n : ℤ => [("event_type_score", Json.int n)]
  if cleanEvent = CanonicalEventType.SUBSCRIPTION_PAYMENT_FAILED.value then
    ⟨25, factor 25, ["Recurring subscription failure risks ongoing customer churn"]⟩
  else if cleanEvent = CanonicalEventType.INVOICE_OVERDUE.value then
    ⟨20, factor 20, ["Overdue B2B invoice represents aged accounts receivable risk"]⟩
  else if cleanEvent = CanonicalEventType.CHECKOUT_ABANDONED.value then
    ⟨15, factor 15, ["Abandoned checkout may lead to immediate loss of high-intent buyer"]⟩
  else ⟨0, factor 10, []⟩

def isFraud (cleanCode : String) : Bool := cleanCode ∈ ["fraud_suspected", "fraudulent"]

/-- The failure category component. -/
def failure (cleanCode : String) : Adjustment :=
  let factor := fun n : ℤ => [("failure_code_score", Json.int n)]
  if isFraud cleanCode then
    ⟨35, factor 35, ["Suspected fraud represents acute chargeback and loss risk"]⟩
  else if cleanCode ∈ ["card_expired", "expired_card"] then
    ⟨20, factor 20,
      ["Expired payment instrument requires customer intervention to avoid churn"]⟩
  else if cleanCode ∈ ["do_not_honor", "card_declined"] then
    ⟨15, factor 15, ["Hard issuer decline indicates payment instrument friction"]⟩
  else if cleanCode ∈ ["insufficient_funds"] then
    ⟨10, factor 10,
      ["Insufficient funds is typically recoverable with optimal retry timing"]⟩
  else if cleanCode ∈ ["processing_error", "network_error", "timeout"] then
    ⟨5, factor 5, ["Transient infrastructure glitch has low structural churn risk"]⟩
  else ⟨0, factor 10, []⟩

/-- The customer tier component; the tier of an event may be any JSON value, and a truthy one
that is not a string has no `strip`. -/
def tier (customerTier : Json) : Except Fault Adjustment :=
  if customerTier.truthy then
    match customerTier with
    | .str t =>
      if lower (strip t) ∈ ["enterprise", "vip", "tier_1"] then
        .ok ⟨20, [("customer_tier_score", .int 20)],
          [s!"High-value customer segment ({t}) escalates risk"]⟩
      else .ok .none
    | _ => .error .attributeError
  else .ok .none

/-- `CaseRiskClassifier.classify_risk`. -/
def classifyRisk (amountMinor : ℤ) (currency : String) (failureCode : Option String)
    (eventType : String) (customerTier : Json) : Except Fault RiskClassificationResult :=
  let code := cleanCode failureCode
  (tier customerTier).map fun segment =>
    let parts :=
      [exposure amountMinor currency, churn (upper (strip eventType)), failure code, segment]
    let riskScore := (parts.map Adjustment.score).sum
    let base : Dict :=
      [("amount_minor", .int amountMinor), ("currency", .str currency),
        ("failure_code", (failureCode.map Json.str).getD .null), ("event_type", .str eventType),
        ("customer_tier", customerTier)]
    { riskTier :=
        if riskScore ≥ 50 ∨ isFraud code then .HIGH
        else if riskScore ≥ 25 then .MEDIUM
        else .LOW
      reason := joinReasons (parts.flatMap Adjustment.reasons) "Standard risk classification."
      factors := base ++ parts.flatMap Adjustment.factors ++
        [("calculated_risk_score", .int riskScore)] }

end CaseRiskClassifier

end RevenueRescue
