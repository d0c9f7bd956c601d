import RevenueRescue.Base.Decimal
import RevenueRescue.Policy.Evaluators

/-!
# Strategy selection

`StrategySelector.select_strategy`: every strategy of the catalogue is estimated and checked
against its guardrails, and the permitted one with the highest expected value is selected. The
products are decimal, so an amount beyond the precision of the context raises.

The estimator is any object with the method of `RecoveryEstimatorAdapter`; it may answer every
call differently.
-/

namespace RevenueRescue

open Python

/-- What `StrategyDefinition` says about a strategy. -/
structure StrategyDefinition where
  strategy : RecoveryStrategy
  actionType : ActionType
  estimatedCostMinor : ℤ
  deriving DecidableEq, Repr

namespace StrategyCatalog

/-- `StrategyCatalog.all_strategies`. -/
def allStrategies : List StrategyDefinition :=
  [⟨.RETRY_LATER, .RETRY_PAYMENT, 2⟩,
    ⟨.UPDATE_PAYMENT_METHOD, .SEND_REMINDER, 15⟩,
    ⟨.CUSTOMER_REMINDER, .SEND_REMINDER, 15⟩,
    ⟨.SUPPORT_ESCALATION, .REQUEST_OPERATOR_REVIEW, 250⟩,
    ⟨.MANUAL_REVIEW, .REQUEST_OPERATOR_REVIEW, 250⟩,
    ⟨.NO_ACTION, .STOP, 0⟩]

/-- Each strategy has one entry, with the action it is mapped to. -/
theorem allStrategies_maps : (allStrategies.map StrategyDefinition.strategy).Nodup ∧
    ∀ spec ∈ allStrategies, spec.actionType = mapToAction spec.strategy := by
  decide

end StrategyCatalog

structure FailureAnalysisResult where
  failureCategory : String
  retryable : Bool
  confidence : ℚ
  explanation : String
  deriving DecidableEq, Repr

structure RiskAssessmentResult where
  score : ℤ
  band : String
  actionLimit : String := "automatic"
  deriving DecidableEq, Repr

/-- The arguments of `estimate_recovery_probability`. -/
structure EstimateRequest where
  actionType : ActionType
  failureCategory : String
  isRetryable : Bool
  amountMinor : ℤ
  priorAttempts : ℤ
  customerSuccessRate : ℚ
  alternateMethodAvailable : Bool
  riskScore : ℤ
  deriving DecidableEq, Repr

/-- `estimate_recovery_probability`, for the number of the call. -/
abbrev RecoveryEstimator := ℕ → EstimateRequest → ℚ

structure StrategyCandidateEstimate where
  strategy : RecoveryStrategy
  actionType : ActionType
  probability : ℚ
  recoveryValueMinor : ℤ
  costMinor : ℤ
  expectedValueMinor : ℤ
  permitted : Bool
  reasons : List String
  deriving DecidableEq, Repr

structure StrategySelectionResult where
  selectedStrategy : RecoveryStrategy
  actionType : ActionType
  confidence : ℚ
  expectedValueMinor : ℤ
  candidates : List StrategyCandidateEstimate
  selectionRationale : List String
  deriving DecidableEq, Repr

/-- The arguments of `select_strategy`; two of them have a second name each. -/
structure SelectionRequest where
  amountMinor : ℤ
  failure : Option FailureAnalysisResult := none
  risk : Option RiskAssessmentResult := none
  priorAttempts : ℤ := 0
  customerSuccessRate : ℚ := 1 / 2
  alternateMethodAvailable : Bool := true
  isCaseTerminal : Bool := false
  failureResult : Option FailureAnalysisResult := none
  riskResult : Option RiskAssessmentResult := none
  isTerminalCase : Bool := false
  deriving DecidableEq, Repr

/-- What a selection can raise. -/
inductive SelectionFault where
  | valueError (message : String)
  | decimal (fault : DecimalFault)
  | stopIteration
  deriving DecidableEq, Repr

namespace StrategySelector

/-- Whether a strategy is permitted, and the reasons its guardrails give. -/
def guardrails (failure : FailureAnalysisResult) (risk : RiskAssessmentResult)
    (priorAttempts : ℤ) : RecoveryStrategy → Bool × List String
  | .RETRY_LATER =>
    (failure.retryable && risk.band != "high" && decide (priorAttempts < 4),
      (if failure.retryable then [] else ["Failure category is not retryable."]) ++
        (if risk.band = "high" then ["High risk band blocks automated retry."] else []) ++
        if 4 ≤ priorAttempts then ["Exceeded maximum retry attempt quota."] else [])
  | .UPDATE_PAYMENT_METHOD =>
    (true, if failure.failureCategory ∈ ["expired_card", "invalid_payment_details", "bank_decline"]
      then [] else ["Card update not required for transient failure."])
  | .MANUAL_REVIEW =>
    (true, if risk.band = "high" ∨ failure.failureCategory ∈ ["fraud_suspected", "unknown_failure"]
      then ["High risk or fraud signal flags case for manual review."] else [])
  | _ => (true, [])

/-- `Decimal(amount_minor) * prob`, rounded to whole units. -/
def grossRecovery (amountMinor : ℤ) (probability : ℚ) : Except DecimalFault ℤ :=
  (Decimal.quantize Decimal.roundHalfUp 0 (Decimal.mul amountMinor probability)).map truncate

/-- The estimate of one strategy. -/
def candidate (failure : FailureAnalysisResult) (risk : RiskAssessmentResult)
    (amountMinor priorAttempts : ℤ) (spec : StrategyDefinition) (probability : ℚ) :
    Except SelectionFault StrategyCandidateEstimate :=
  match grossRecovery amountMinor probability with
  | .error fault => .error (.decimal fault)
  | .ok recoveryValue =>
    let (permitted, reasons) := guardrails failure risk priorAttempts spec.strategy
    .ok {
      strategy := spec.strategy
      actionType := spec.actionType
      probability
      recoveryValueMinor := recoveryValue
      costMinor := spec.estimatedCostMinor
      expectedValueMinor := recoveryValue - spec.estimatedCostMinor
      permitted
      reasons := reasons ++
        ["Estimated recovery probability: " ++ fixed2 (Decimal.mul probability 100) ++ "%",
          "Estimated intervention cost: " ++ toString spec.estimatedCostMinor ++ " minor units"] }

/-- The estimates of the catalogue, in its order. -/
def candidates (estimator : RecoveryEstimator) (request : SelectionRequest)
    (failure : FailureAnalysisResult) (risk : RiskAssessmentResult) :
    Except SelectionFault (List StrategyCandidateEstimate) :=
  StrategyCatalog.allStrategies.zipIdx.mapM fun (spec, call) =>
    candidate failure risk request.amountMinor request.priorAttempts spec (estimator call
      { actionType := spec.actionType
        failureCategory := failure.failureCategory
        isRetryable := failure.retryable
        amountMinor := request.amountMinor
        priorAttempts := request.priorAttempts
        customerSuccessRate := request.customerSuccessRate
        alternateMethodAvailable := request.alternateMethodAvailable
        riskScore := risk.score })

/-- The candidates that the selection is made from. -/
def eligible (risk : RiskAssessmentResult) (candidates : List StrategyCandidateEstimate) :
    List StrategyCandidateEstimate :=
  let permittedCandidates := candidates.filter StrategyCandidateEstimate.permitted
  let highRiskCandidates := permittedCandidates.filter fun c =>
    [RecoveryStrategy.MANUAL_REVIEW, .NO_ACTION].contains c.strategy
  if risk.band = "high" ∧ highRiskCandidates ≠ [] then highRiskCandidates else permittedCandidates

/-- The first of the eligible candidates with the highest expected value; without any, the one
that takes no action. -/
def winner (risk : RiskAssessmentResult) (candidates : List StrategyCandidateEstimate) :
    Option StrategyCandidateEstimate :=
  let sorted := (eligible risk candidates).insertionSort fun a b =>
    b.expectedValueMinor ≤ a.expectedValueMinor
  match sorted with
  | first :: _ => some first
  | [] => candidates.find? fun c => c.strategy == .NO_ACTION

/-- The answer for a case in a terminal state. -/
def terminalResult : StrategySelectionResult :=
  { selectedStrategy := .NO_ACTION
    actionType := .STOP
    confidence := 1
    expectedValueMinor := 0
    candidates :=
      [{ strategy := .NO_ACTION, actionType := .STOP, probability := 0, recoveryValueMinor := 0
         costMinor := 0, expectedValueMinor := 0, permitted := true
         reasons := ["Case is already in a terminal state; recovery halted."] }]
    selectionRationale := ["Case is terminal. No active recovery strategy permitted."] }

/-- The answer for the candidate that won. -/
def selectionResult (failure : FailureAnalysisResult) (risk : RiskAssessmentResult)
    (candidates : List StrategyCandidateEstimate) (winner : StrategyCandidateEstimate) :
    Except SelectionFault StrategySelectionResult :=
  let confidence := min failure.confidence (max winner.probability (1 / 2))
  match Decimal.quantize roundHalfEven 4 confidence with
  | .error fault => .error (.decimal fault)
  | .ok confidence =>
    .ok {
      selectedStrategy := winner.strategy
      actionType := winner.actionType
      confidence
      expectedValueMinor := winner.expectedValueMinor
      candidates
      selectionRationale :=
        ["Selected " ++ winner.strategy.value ++ " with expected net value of " ++
            toString winner.expectedValueMinor ++ " minor units.",
          "Failure category: " ++ failure.failureCategory ++ " (" ++ failure.explanation ++ ")",
          "Risk assessment: " ++ upper risk.band ++ " (score " ++ toString risk.score ++
            "/100, limit: " ++ risk.actionLimit ++ ")"] ++ winner.reasons }

/-- `StrategySelector.select_strategy`. -/
def selectStrategy (estimator : RecoveryEstimator) (request : SelectionRequest) :
    Except SelectionFault StrategySelectionResult :=
  match request.failure <|> request.failureResult with
  | none => .error (.valueError "FailureAnalysisResult is required")
  | some failure =>
    match request.risk <|> request.riskResult with
    | none => .error (.valueError "RiskAssessmentResult is required")
    | some risk =>
      if request.isCaseTerminal || request.isTerminalCase then .ok terminalResult
      else
        match candidates estimator request failure risk with
        | .error fault => .error fault
        | .ok candidates =>
          match winner risk candidates with
          -- the catalogue has an entry that takes no action
          | none => .error .stopIteration
          | some winner => selectionResult failure risk candidates winner

end StrategySelector

end RevenueRescue
