import Mathlib.Algebra.Order.BigOperators.Group.List
import Mathlib.Algebra.Ring.Int.Defs
import RevenueRescue.Cases.Strategy

/-!
# The analysis of a failed payment

What comes before the selection of a strategy: `FailureAnalyzer` finds the category of a failure by
the first rule with a keyword in the gateway's texts, `RiskAssessor` adds up the points of the
signals, and `LogisticRecoveryEstimator` turns the features of an action into a probability.
`ExplanationService` words the result.
-/

namespace RevenueRescue

open Python

/-- Floating point arithmetic as the intelligence services use it. -/
structure Numerics where
  /-- `f"{amount_minor / 100:,.2f}"`. -/
  hundredths : ℤ → String
  /-- `round(1.0 / (1.0 + exp(-z)), 4)`. -/
  logistic : ℚ → ℚ
  /-- `float(value)`; `none` stands for the error it raises. -/
  float : Json → Option ℚ

/-! ## Failures -/

/-- An entry of `RULES`. -/
structure FailureRule where
  keywords : List String
  category : String
  retryable : Bool
  confidence : ℚ
  explanation : String
  deriving DecidableEq, Repr

/-- A result of the analyzer with the fields that the selection does not read. -/
structure FailureAnalysis extends FailureAnalysisResult where
  evidence : List String
  rawCode : Option String
  analysisVersion : String
  deriving DecidableEq, Repr

/-- The arguments of `analyze`; two of them have a second name each. -/
structure AnalysisRequest where
  failureCode : Option String := none
  failureMessage : Option String := none
  eventType : Option String := none
  code : Option String := none
  message : Option String := none
  deriving DecidableEq, Repr

namespace FailureAnalyzer

def VERSION : String := "failure-rules-v1"

def RULES : List FailureRule :=
  [⟨["insufficient_funds", "insufficient", "balance", "not_enough_funds"],
      "insufficient_funds", true, 95 / 100,
      "Payment declined due to temporary insufficient balance. Retryable upon scheduled " ++
        "cooling period."⟩,
    ⟨["expired", "card_expired", "card_has_expired"], "expired_card", false, 95 / 100,
      "Payment instrument has expired. Requires customer to input updated expiration/card."⟩,
    ⟨["authentication_required", "3ds", "3d_secure", "auth_required", "challenge_required"],
      "authentication_required", true, 90 / 100,
      "Step-up 3D-Secure or SCA customer authentication required."⟩,
    ⟨["fraud", "fraudulent", "risk_blocked", "stolen_card", "lost_card"], "fraud_suspected", false,
      98 / 100,
      "Flagged by payment gateway or bank security filters for suspected fraud or lost " ++
        "instrument."⟩,
    ⟨["timeout", "timed_out", "network", "gateway_error", "processing_error"],
      "provider_timeout", true, 85 / 100,
      "Transient gateway network error or provider timeout during transaction processing."⟩,
    ⟨["do_not_honor", "card_declined", "generic_decline", "issuer_declined"], "bank_decline", true,
      85 / 100, "Issuer bank declined the transaction without specific diagnostic code."⟩,
    ⟨["invalid_number", "invalid_cvc", "invalid_expiry", "invalid_account"],
      "invalid_payment_details", false, 95 / 100,
      "Customer submitted invalid payment instrument details."⟩]

/-- `any(kw in combined_text for kw in keywords)`. -/
def matchesText (combinedText : String) (rule : FailureRule) : Bool :=
  rule.keywords.any fun kw => isIn kw combinedText

/-- A result for an event that is no failed payment. -/
def ofEvent (rawCode : Option String) (type : CanonicalEventType)
    (failureCategory explanation : String) : FailureAnalysis :=
  { failureCategory
    retryable := false
    confidence := 95 / 100
    explanation
    evidence := ["Source event type: " ++ type.value]
    rawCode
    analysisVersion := VERSION }

/-- The lines of evidence that quote the gateway. -/
def quoted (failureCode failureMessage : Option String) : List String :=
  (if truthy failureCode then ["Gateway failure code: " ++ failureCode.getD ""] else []) ++
    if truthy failureMessage then ["Gateway message: " ++ failureMessage.getD ""] else []

/-- `FailureAnalyzer.analyze`. -/
def analyze (request : AnalysisRequest) : FailureAnalysis :=
  let failureCode := request.failureCode <|> request.code
  let failureMessage := request.failureMessage <|> request.message
  let eventClean := upper (strip (request.eventType.getD ""))
  let combinedText := lower (strip (failureCode.getD "")) ++ " " ++
    lower (strip (failureMessage.getD ""))
  if eventClean = CanonicalEventType.CHECKOUT_ABANDONED.value then
    ofEvent failureCode .CHECKOUT_ABANDONED "abandoned_checkout"
      "Customer abandoned high-intent checkout session before completion."
  else if eventClean = CanonicalEventType.INVOICE_OVERDUE.value then
    ofEvent failureCode .INVOICE_OVERDUE "overdue_invoice"
      "B2B invoice has passed its payment due date without settlement."
  else
    match RULES.find? (matchesText combinedText) with
    | some rule =>
      { failureCategory := rule.category
        retryable := rule.retryable
        confidence := rule.confidence
        explanation := rule.explanation
        evidence := quoted failureCode failureMessage
        rawCode := failureCode
        analysisVersion := VERSION }
    | none =>
      { failureCategory := "unknown_failure"
        retryable := false
        confidence := 1 / 2
        explanation :=
          "Unclassified failure code; insufficient evidence for automated categorization."
        evidence := quoted failureCode failureMessage ++
          ["No recognized diagnostic code provided by gateway."]
        rawCode := failureCode
        analysisVersion := VERSION }

/-- The categories that the analyzer calls retryable. -/
def RETRYABLE_CATEGORIES : List String :=
  ["insufficient_funds", "authentication_required", "provider_timeout", "bank_decline"]

end FailureAnalyzer

/-! ## Risk -/

/-- A result of the assessor with the field that the selection does not read. -/
structure RiskAssessment extends RiskAssessmentResult where
  reasons : List String
  deriving DecidableEq, Repr

/-- The arguments of `assess`. -/
structure RiskRequest where
  failureCategory : String
  amountMinor : ℤ
  priorAttempts : ℤ
  unusualVelocity : Bool := false
  customerRestricted : Bool := false
  isSubscription : Bool := false
  deriving DecidableEq, Repr

namespace RiskAssessor

def HIGH_THRESHOLD : ℤ := 70

def MEDIUM_THRESHOLD : ℤ := 30

/-- The points that each dimension contributes, with their reasons. -/
def signals (n : Numerics) (request : RiskRequest) : List (ℤ × String) :=
  (if request.failureCategory ∈ ["fraud_suspected", "risk_blocked"] then
    [(60, "provider_security_or_fraud_signal")] else []) ++
  (if 4 ≤ request.priorAttempts then
    [(35, "repeated_failed_attempts (" ++ toString request.priorAttempts ++ " prior)")]
  else if 2 ≤ request.priorAttempts then
    [(20, "elevated_attempt_count (" ++ toString request.priorAttempts ++ " prior)")] else []) ++
  (if request.unusualVelocity then [(25, "unusual_retry_velocity_detected")] else []) ++
  (if request.customerRestricted then [(35, "customer_account_restricted_or_suspended")]
    else []) ++
  (if 500000 ≤ request.amountMinor then
    [(20, "major_financial_exposure (" ++ n.hundredths request.amountMinor ++ ")")]
  else if 100000 ≤ request.amountMinor then
    [(10, "high_value_transaction (" ++ n.hundredths request.amountMinor ++ ")")] else []) ++
  if request.isSubscription ∧ request.failureCategory = "expired_card" then
    [(15, "recurring_subscriber_churn_risk")] else []

/-- The band of a score. -/
def bandOf (score : ℤ) : String :=
  if HIGH_THRESHOLD ≤ score then "high" else if MEDIUM_THRESHOLD ≤ score then "medium" else "low"

/-- The limit of automation for a score. -/
def limitOf (score : ℤ) : String :=
  if HIGH_THRESHOLD ≤ score then "block"
  else if MEDIUM_THRESHOLD ≤ score then "human_approval" else "automatic"

/-- `RiskAssessor.assess`. -/
def assess (n : Numerics) (request : RiskRequest) : RiskAssessment :=
  let found := signals n request
  let finalScore := min (found.map Prod.fst).sum 100
  { score := finalScore
    band := bandOf finalScore
    actionLimit := limitOf finalScore
    reasons := if found = [] then ["no_elevated_risk_signals"] else found.map Prod.snd }

/-- Points are never negative. -/
theorem signals_nonneg (n : Numerics) (request : RiskRequest) :
    ∀ signal ∈ signals n request, 0 ≤ signal.1 := by
  unfold signals
  simp only [List.forall_mem_append]
  refine ⟨⟨⟨⟨⟨?_, ?_⟩, ?_⟩, ?_⟩, ?_⟩, ?_⟩ <;> split_ifs <;> simp

theorem score_bounds (n : Numerics) (request : RiskRequest) :
    0 ≤ (assess n request).score ∧ (assess n request).score ≤ 100 := by
  refine ⟨le_min (List.sum_nonneg fun points hpoints => ?_) (by norm_num), min_le_right _ _⟩
  obtain ⟨signal, hsignal, rfl⟩ := List.mem_map.mp hpoints
  exact signals_nonneg n request signal hsignal

end RiskAssessor

/-! ## Probabilities -/

namespace LogisticRecoveryEstimator

def VERSION : String := "deterministic-logistic-v1"

/-- The log-odds `z` of a recovery. -/
def logOdds (request : EstimateRequest) : ℚ :=
  -65 / 100 +
    (if request.priorAttempts ≤ 1 then (42 / 100 : ℚ)
      else -25 / 100 * (min request.priorAttempts 4 : ℤ)) +
    55 / 100 * (max 0 (min 1 request.customerSuccessRate) - 1 / 2) +
    (if request.actionType = .SEND_REMINDER ∧ request.alternateMethodAvailable then 25 / 100
      else 0) +
    (if request.actionType = .RETRY_PAYMENT ∧ request.isRetryable then 45 / 100 else 0) +
    (if request.actionType = .REQUEST_OPERATOR_REVIEW then 10 / 100 else 0) +
    (if request.actionType = .STOP then -45 / 100 else 0) +
    if 70 ≤ request.riskScore then -120 / 100 else 0

/-- `LogisticRecoveryEstimator.estimate_recovery_probability`. -/
def estimateRecoveryProbability (n : Numerics) (request : EstimateRequest) : ℚ :=
  max (1 / 100) (min (99 / 100) (n.logistic (logOdds request)))

/-- The estimator answers a call like every call before it. -/
def estimator (n : Numerics) : RecoveryEstimator := fun _ => estimateRecoveryProbability n

theorem estimator_bounds (n : Numerics) (call : ℕ) (request : EstimateRequest) :
    1 / 100 ≤ estimator n call request ∧ estimator n call request ≤ 99 / 100 :=
  ⟨le_max_left _ _, max_le (by norm_num) (min_le_left _ _)⟩

/-- Higher odds are no lower a probability. -/
theorem estimate_mono {n : Numerics} (hmono : Monotone n.logistic)
    {request other : EstimateRequest} (h : logOdds request ≤ logOdds other) :
    estimateRecoveryProbability n request ≤ estimateRecoveryProbability n other :=
  max_le_max le_rfl (min_le_min le_rfl (hmono h))

end LogisticRecoveryEstimator

/-! ## Explanations -/

structure RecommendationExplanation where
  summary : String
  supportingEvidence : List String
  limitations : List String
  deriving DecidableEq, Repr

namespace ExplanationService

/-- The sentence for a strategy. -/
def summaryOf (n : Numerics) (failure : FailureAnalysis) (risk : RiskAssessment) (amountMinor : ℤ)
    (currency : String) : RecoveryStrategy → String
  | .RETRY_LATER =>
    "Recommended automated retry because the failure category (" ++ failure.failureCategory ++
      ") represents a transient issue with elevated recovery probability upon scheduled " ++
      "re-attempt."
  | .UPDATE_PAYMENT_METHOD =>
    "Recommended customer payment method update because the recorded failure (" ++
      failure.failureCategory ++
      ") indicates that the payment instrument cannot be charged in its current state."
  | .CUSTOMER_REMINDER =>
    "Recommended gentle customer reminder to prompt checkout completion or invoice settlement " ++
      "for outstanding " ++ currency ++ " " ++ n.hundredths amountMinor ++ "."
  | .SUPPORT_ESCALATION =>
    "Recommended high-touch concierge support escalation due to elevated exposure (" ++
      currency ++ " " ++ n.hundredths amountMinor ++ ") and repeated transaction friction."
  | .MANUAL_REVIEW =>
    "Flagged for manual operator review due to high risk band (" ++ upper risk.band ++
      ") or diagnostic uncertainty (" ++ failure.failureCategory ++ ")."
  | .NO_ACTION =>
    "Halted automated recovery workflow as case is terminal, restricted, or ineligible."

/-- `ExplanationService.generate_explanation` for a failure and a risk that are given. -/
def generateExplanation (n : Numerics) (strategy : RecoveryStrategy) (failure : FailureAnalysis)
    (risk : RiskAssessment) (amountMinor : ℤ) (currency : String) (priorAttempts : ℤ)
    (modelVersion : String) : RecommendationExplanation :=
  { summary := summaryOf n failure risk amountMinor currency strategy
    supportingEvidence :=
      ["Recorded failure category: " ++ upper failure.failureCategory] ++
        (if truthy failure.rawCode then ["Gateway decline code: " ++ failure.rawCode.getD ""]
          else []) ++
        ["Financial exposure: " ++ currency ++ " " ++ n.hundredths amountMinor,
          "Assessed risk band: " ++ upper risk.band ++ " (score: " ++ toString risk.score ++
            "/100)",
          "Prior recovery attempts: " ++ toString priorAttempts] ++
        risk.reasons.map fun r => "Risk signal: " ++ r
    limitations :=
      ["Strategy ranked using expected-value estimation model (" ++ modelVersion ++ ").",
        "This recommendation does NOT authorize or execute payments; policy validation is " ++
          "required."] }

end ExplanationService

end RevenueRescue
