import Mathlib.Logic.Function.Basic
import RevenueRescue.Intelligence.Orchestrator

/-!
# The baseline of the decision preview

`analyze_recovery` is the pipeline of an earlier phase, which the decision preview and the strategy
comparison still use. It has four actions, ranks all of them by expected value, and recommends the
first one that is permitted. A comparison adds up what it expects over a batch of scenarios.
-/

namespace RevenueRescue

open Python

namespace Legacy

inductive Action where
  | retryPayment
  | sendReminder
  | requestOperatorReview
  | stop
  deriving DecidableEq, Repr

def Action.value : Action → String
  | retryPayment => "retry_payment"
  | sendReminder => "send_reminder"
  | requestOperatorReview => "request_operator_review"
  | stop => "stop"

def ACTIONS : List Action := [.retryPayment, .sendReminder, .requestOperatorReview, .stop]

structure FailureClassification where
  category : String
  retryable : Bool
  confidence : ℚ
  explanation : String
  deriving DecidableEq, Repr

structure RiskAssessment where
  score : ℤ
  band : String
  reasons : List String
  actionLimit : String
  deriving DecidableEq, Repr

structure ActionEstimate where
  action : Action
  probability : ℚ
  amountMinor : ℤ
  recoveryValueMinor : ℤ
  costMinor : ℤ
  expectedValueMinor : ℤ
  explanation : List String
  deriving DecidableEq, Repr

structure DecisionAnalysis where
  classification : FailureClassification
  risk : RiskAssessment
  estimates : List ActionEstimate
  recommendedAction : Action
  confidence : ℚ
  rationale : List String
  deriving DecidableEq, Repr

/-- The arguments of `analyze_recovery`. -/
structure AnalysisRequest where
  amountMinor : ℤ
  failureCode : Option String
  failureMessage : Option String
  priorAttempts : ℤ
  customerSuccessRate : ℚ := 1 / 2
  alternateMethodAvailable : Bool := true
  unusualVelocity : Bool := false
  customerRestricted : Bool := false
  deriving DecidableEq, Repr

/-! ## Failures and risk -/

/-- An entry of `rules`. -/
structure Rule where
  needles : List String
  category : String
  retryable : Bool
  explanation : String
  deriving DecidableEq, Repr

def rules : List Rule :=
  [⟨["insufficient", "funds", "balance"], "insufficient_funds", true,
      "Offer an alternate method after a cooling period."⟩,
    ⟨["timeout", "timed_out", "network"], "provider_timeout", true,
      "Verify provider state before retrying."⟩,
    ⟨["authentication", "3ds", "auth"], "authentication_required", true,
      "Require customer authentication; do not blind retry."⟩,
    ⟨["expired", "card_expired"], "expired_card", false, "Request an updated payment method."⟩,
    ⟨["fraud", "blocked", "risk"], "risk_blocked", false,
      "Stop automated recovery and require human review."⟩,
    ⟨["decline", "do_not_honor", "bank"], "bank_decline", true,
      "Prefer an alternate payment method over repeated retries."⟩]

def classifyFailure (code message : Option String) : FailureClassification :=
  let text := lower (code.getD "" ++ " " ++ message.getD "")
  match rules.find? fun rule => rule.needles.any fun needle => isIn needle text with
  | some rule => ⟨rule.category, rule.retryable, 9 / 10, rule.explanation⟩
  | none =>
    ⟨"unknown_failure", false, 55 / 100, "Insufficient evidence; escalate instead of guessing."⟩

/-- The points of the signals with their reasons. -/
def signals (failure : FailureClassification) (request : AnalysisRequest) : List (ℤ × String) :=
  (if failure.category = "risk_blocked" then [(60, "provider_risk_signal")] else []) ++
  (if 3 ≤ request.priorAttempts then [(25, "repeated_attempts")] else []) ++
  (if request.unusualVelocity then [(25, "unusual_retry_velocity")] else []) ++
  (if request.customerRestricted then [(30, "customer_restricted")] else []) ++
  if 100000 ≤ request.amountMinor then [(15, "high_value_transaction")] else []

/-- `RiskEngine.assess`. -/
def assess (failure : FailureClassification) (request : AnalysisRequest) : RiskAssessment :=
  let found := signals failure request
  let score := min (found.map Prod.fst).sum 100
  let band := if 71 ≤ score then "high" else if 31 ≤ score then "medium" else "low"
  { score
    band
    reasons := if found = [] then ["no_elevated_risk_signal"] else found.map Prod.snd
    actionLimit :=
      if band = "high" then "block" else if band = "medium" then "human_approval" else "automatic" }

/-! ## Expected values -/

/-- The sum of the coefficients. -/
def logOdds (request : AnalysisRequest) (failure : FailureClassification) (risk : RiskAssessment)
    (action : Action) : ℚ :=
  -65 / 100 +
    (if request.priorAttempts ≤ 1 then (42 / 100 : ℚ)
      else -25 / 100 * (min request.priorAttempts 4 : ℤ)) +
    55 / 100 * (request.customerSuccessRate - 1 / 2) +
    (if request.alternateMethodAvailable ∧ action = .sendReminder then 35 / 100 else 0) +
    (if failure.retryable ∧ action = .retryPayment then 30 / 100 else 0) +
    (if 71 ≤ risk.score then -120 / 100 else 0) +
    (if action = .requestOperatorReview then 10 / 100 else 0) +
    if action = .stop then -45 / 100 else 0

/-- `RecoveryProbabilityModel.predict`. -/
def predict (n : Numerics) (request : AnalysisRequest) (failure : FailureClassification)
    (risk : RiskAssessment) (action : Action) : ℚ :=
  max (1 / 100) (min (99 / 100) (n.logistic (logOdds request failure risk action)))

/-- `ExpectedValueEngine.costs_minor`. -/
def costsMinor : Action → ℤ
  | .retryPayment => 2
  | .sendReminder => 15
  | .requestOperatorReview => 250
  | .stop => 0

/-- Whether an action may be taken at a high risk. -/
def isCautious (action : Action) : Bool :=
  action == .requestOperatorReview || action == .stop

/-- The estimate of one action. -/
def estimate (n : Numerics) (request : AnalysisRequest) (failure : FailureClassification)
    (risk : RiskAssessment) (action : Action) : Except SelectionFault ActionEstimate :=
  let probability := predict n request failure risk action
  match StrategySelector.grossRecovery request.amountMinor probability with
  | .error fault => .error (.decimal fault)
  | .ok value =>
    .ok {
      action
      probability
      amountMinor := request.amountMinor
      recoveryValueMinor := value
      costMinor := costsMinor action
      expectedValueMinor := value - costsMinor action
      explanation :=
        ["probability=" ++ fixed4 probability,
          "cost=" ++ toString (costsMinor action) ++ " minor units"] ++
        (if action = .retryPayment ∧ failure.retryable = false then ["failure is not retryable"]
          else []) ++
        if risk.band = "high" ∧ isCautious action = false then
          ["high-risk action requires policy block"] else [] }

/-- The estimates of all actions. -/
def estimates (n : Numerics) (request : AnalysisRequest) (failure : FailureClassification)
    (risk : RiskAssessment) : Except SelectionFault (List ActionEstimate) :=
  ACTIONS.mapM (estimate n request failure risk)

/-- `ExpectedValueEngine.rank`. -/
def rank (n : Numerics) (request : AnalysisRequest) (failure : FailureClassification)
    (risk : RiskAssessment) : Except SelectionFault (List ActionEstimate) :=
  (estimates n request failure risk).map fun rows =>
    rows.insertionSort fun a b => b.expectedValueMinor ≤ a.expectedValueMinor

/-! ## Recommendations -/

/-- Whether an action is permitted. -/
def isPermitted (failure : FailureClassification) (risk : RiskAssessment) (action : Action) : Bool :=
  !(risk.band == "high" && !isCautious action) &&
    !(action == .retryPayment && !failure.retryable)

/-- The analysis in which an estimate won. -/
def conclude (failure : FailureClassification) (risk : RiskAssessment)
    (estimates : List ActionEstimate) (winner : ActionEstimate) :
    Except SelectionFault DecisionAnalysis :=
  match Decimal.quantize roundHalfEven 4 (min failure.confidence (max winner.probability (1 / 2)))
    with
  | .error fault => .error (.decimal fault)
  | .ok confidence =>
    .ok {
      classification := failure
      risk
      estimates
      recommendedAction := winner.action
      confidence
      rationale :=
        [failure.category ++ ": " ++ failure.explanation,
          "risk=" ++ risk.band ++ " (" ++ toString risk.score ++ "/100)",
          winner.action.value ++ " has highest permitted expected value of " ++
            toString winner.expectedValueMinor ++ " minor units"] ++ winner.explanation }

/-- `analyze_recovery`. -/
def analyzeRecovery (n : Numerics) (request : AnalysisRequest) :
    Except SelectionFault DecisionAnalysis :=
  let failure := classifyFailure request.failureCode request.failureMessage
  let risk := assess failure request
  match rank n request failure risk with
  | .error fault => .error fault
  | .ok estimates =>
    let permitted := estimates.filter fun row => isPermitted failure risk row.action
    match permitted.head? <|> estimates.find? fun row => row.action == .stop with
    | none => .error .stopIteration
    | some winner => conclude failure risk estimates winner

/-! ## Comparisons -/

/-- `totals` and `counts`. -/
structure Tally where
  totals : Action → ℤ
  counts : Action → ℕ

/-- One turn of the inner loop. -/
def Tally.add (tally : Tally) (row : ActionEstimate) : Tally :=
  { totals := Function.update tally.totals row.action
      (tally.totals row.action + row.expectedValueMinor)
    counts := Function.update tally.counts row.action (tally.counts row.action + 1) }

/-- The value of an action in the answer of `compare_strategies`. -/
structure StrategyTotals where
  totalExpectedValueMinor : ℤ
  scenarioCount : ℕ
  method : String := "expected_value_estimate"
  deriving DecidableEq, Repr

/-- The two loops of `compare_strategies`. -/
def tally (analyses : List DecisionAnalysis) : Tally :=
  analyses.foldl (fun found analysis => analysis.estimates.foldl Tally.add found)
    ⟨fun _ => 0, fun _ => 0⟩

/-- `compare_strategies`. -/
def compareStrategies (analyses : List DecisionAnalysis) : List (Action × StrategyTotals) :=
  let found := tally analyses
  ACTIONS.map fun action =>
    (action,
      { totalExpectedValueMinor := found.totals action, scenarioCount := found.counts action })

/-- The answer of the comparison. -/
structure StrategyComparison where
  scenarioCount : ℕ
  strategies : List (Action × StrategyTotals)
  measurement : String := "expected_value_estimate_not_verified_revenue"
  deriving DecidableEq, Repr

/-- What the endpoint can raise. -/
inductive ComparisonFault where
  | tooManyScenarios
  | selection (fault : SelectionFault)
  deriving DecidableEq, Repr

/-- `strategy_comparison`, for payloads that the schema accepts. -/
def strategyComparison (n : Numerics) (payloads : List AnalysisRequest) :
    Except ComparisonFault StrategyComparison :=
  if 1000 < payloads.length then .error .tooManyScenarios
  else
    match payloads.mapM (analyzeRecovery n) with
    | .error fault => .error (.selection fault)
    | .ok analyses =>
      .ok { scenarioCount := analyses.length, strategies := compareStrategies analyses }

end Legacy

end RevenueRescue
