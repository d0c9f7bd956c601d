import RevenueRescue.Cases.Recommendation
import RevenueRescue.Intelligence.Analysis

/-!
# The recommendation pipeline

The services that `IntelligenceOrchestrator` has by default, one after the other: the features of a
case are read from its rows, the failure is analysed, the risk assessed, a strategy selected and the
selection explained. A preview takes the features from a request instead.
-/

namespace RevenueRescue

open Python

/-- What the services are told about a case. -/
structure CaseFeatures where
  amountMinor : ℤ
  currency : String
  failureCode : Option String
  failureMessage : Option String
  priorAttempts : ℤ
  isSubscription : Bool
  unusualVelocity : Bool
  customerRestricted : Bool
  customerSuccessRate : ℚ
  alternateMethodAvailable : Bool
  isTerminal : Bool
  deriving DecidableEq, Repr

/-- What the services answer. -/
structure Formulation where
  failure : FailureAnalysis
  risk : RiskAssessment
  selection : StrategySelectionResult
  winnerEstimate : StrategyCandidateEstimate
  explanation : RecommendationExplanation
  deriving DecidableEq, Repr

structure StrategyEstimateDTO where
  strategy : String
  actionType : ActionType
  probability : ℚ
  recoveryValueMinor : ℤ
  costMinor : ℤ
  expectedValueMinor : ℤ
  permitted : Bool
  reasons : List String
  deriving DecidableEq, Repr

/-- `CaseRecommendationDTO`. -/
structure CaseRecommendationDTO where
  id : UUID
  caseId : UUID
  decisionVersion : ℕ
  recommendedStrategy : String
  actionType : ActionType
  failureCategory : String
  riskBand : String
  riskScore : ℤ
  recoveryProbability : Option ℚ
  confidence : Option ℚ
  expectedValueMinor : ℤ
  explanation : String
  supportingEvidence : List String
  limitations : List String
  analysisMethod : String
  modelVersion : String
  validationStatus : DecisionValidationStatus
  generatedAt : Datetime
  candidateStrategies : List StrategyEstimateDTO
  deriving DecidableEq, Repr

/-- `DecisionPreviewRequestDTO`. -/
structure DecisionPreviewRequestDTO where
  amountMinor : ℤ
  currency : String
  failureCode : Option String
  failureMessage : Option String
  priorAttempts : ℤ
  customerSuccessRate : ℚ
  alternateMethodAvailable : Bool
  unusualVelocity : Bool
  customerRestricted : Bool
  deriving DecidableEq, Repr

/-- `str(value)` of a decimal with four places. -/
def fixed4 (x : ℚ) : String :=
  let units := roundHalfEven (x * 10000)
  (if units < 0 then "-" else "") ++ toString (units.natAbs / 10000) ++ "." ++
    Datetime.padded 4 (units.natAbs % 10000)

namespace IntelligenceOrchestrator

/-- The features of a case, where `float` may raise. -/
def featuresOf (n : Numerics) (case : RecoveryCase) (txn : Option Transaction)
    (customer : Option Customer) (priorAttempts : ℕ) : Option CaseFeatures := do
  let customerSuccessRate ←
    match customer with
    | some c => n.float (Dict.getD c.metadataJson "success_rate" (.float (1 / 2)))
    | none => some (1 / 2)
  return {
    amountMinor := (txn.map fun t => (t.amountMinor : ℤ)).getD 0
    currency := (txn.map fun t => t.currency.code).getD "USD"
    failureCode := txn.bind Transaction.failureCode
    failureMessage := txn.bind Transaction.failureMessageSafe
    priorAttempts
    isSubscription := (Dict.get case.metadataJson "is_subscription").truthy ||
      txn.any fun t => (Dict.get t.metadataJson "is_subscription").truthy
    unusualVelocity := (Dict.getD case.metadataJson "unusual_velocity" (.bool false)).truthy
    customerRestricted := customer.any fun c => c.status != .ACTIVE
    customerSuccessRate
    alternateMethodAvailable := customer.all fun c =>
      (Dict.getD c.metadataJson "has_alternate_method" (.bool true)).truthy
    isTerminal := case.state.isTerminal }

/-- The features that a preview asks about. -/
def featuresOfPreview (request : DecisionPreviewRequestDTO) : CaseFeatures :=
  { amountMinor := request.amountMinor
    currency := request.currency
    failureCode := request.failureCode
    failureMessage := request.failureMessage
    priorAttempts := request.priorAttempts
    isSubscription := false
    unusualVelocity := request.unusualVelocity
    customerRestricted := request.customerRestricted
    customerSuccessRate := request.customerSuccessRate
    alternateMethodAvailable := request.alternateMethodAvailable
    isTerminal := false }

/-- The analysis of the failure that the features name. -/
def failureOf (features : CaseFeatures) : FailureAnalysis :=
  FailureAnalyzer.analyze { code := features.failureCode, message := features.failureMessage }

/-- The assessment of the risk that the features name. -/
def riskOf (n : Numerics) (features : CaseFeatures) : RiskAssessment :=
  RiskAssessor.assess n
    { failureCategory := (failureOf features).failureCategory
      amountMinor := features.amountMinor
      priorAttempts := features.priorAttempts
      isSubscription := features.isSubscription
      unusualVelocity := features.unusualVelocity
      customerRestricted := features.customerRestricted }

/-- What the selector is asked. -/
def selectionOf (n : Numerics) (features : CaseFeatures) : SelectionRequest :=
  { amountMinor := features.amountMinor
    failureResult := some (failureOf features).toFailureAnalysisResult
    riskResult := some (riskOf n features).toRiskAssessmentResult
    priorAttempts := features.priorAttempts
    isTerminalCase := features.isTerminal
    customerSuccessRate := features.customerSuccessRate
    alternateMethodAvailable := features.alternateMethodAvailable }

/-- The four stages of the pipeline. -/
def formulate (n : Numerics) (features : CaseFeatures) : Except SelectionFault Formulation := do
  let failure := failureOf features
  let risk := riskOf n features
  let selection ←
    StrategySelector.selectStrategy (LogisticRecoveryEstimator.estimator n) (selectionOf n features)
  let chosen := selection.candidates.find? fun est => est.strategy == selection.selectedStrategy
  -- the selector returns the estimate that it selected
  let winnerEstimate ← (chosen <|> selection.candidates.head?).elim (.error .stopIteration) .ok
  return {
    failure
    risk
    selection
    winnerEstimate
    explanation := ExplanationService.generateExplanation n selection.selectedStrategy failure risk
      features.amountMinor features.currency features.priorAttempts
      LogisticRecoveryEstimator.VERSION }

/-- The estimate of a candidate as it is answered. -/
def toEstimateDTO (est : StrategyCandidateEstimate) : StrategyEstimateDTO :=
  { strategy := est.strategy.value
    actionType := est.actionType
    probability := est.probability
    recoveryValueMinor := est.recoveryValueMinor
    costMinor := est.costMinor
    expectedValueMinor := est.expectedValueMinor
    permitted := est.permitted
    reasons := est.reasons }

/-- `StrategyEstimateDTO.model_dump(mode="json")`. -/
def dumpEstimate (dto : StrategyEstimateDTO) : Dict :=
  [("strategy", .str dto.strategy), ("action_type", .str dto.actionType.value),
    ("probability", .str (fixed4 dto.probability)),
    ("recovery_value_minor", .int dto.recoveryValueMinor), ("cost_minor", .int dto.costMinor),
    ("expected_value_minor", .int dto.expectedValueMinor), ("permitted", .bool dto.permitted),
    ("reasons", .arr (dto.reasons.map .str))]

/-- The payload of the audit record, which the case keeps as its latest recommendation. -/
def auditPayload (decisionId : UUID) (decisionVersion : ℕ) (f : Formulation) : Dict :=
  [("recommendation_id", .str (UUID.str decisionId)), ("decision_version", .int decisionVersion),
    ("recommended_strategy", .str f.selection.selectedStrategy.value),
    ("action_type", .str f.selection.actionType.value),
    ("failure_category", .str f.failure.failureCategory), ("risk_band", .str f.risk.band),
    ("risk_score", .int f.risk.score),
    ("recovery_probability", .str (fixed4 f.winnerEstimate.probability)),
    ("confidence", .str (fixed4 f.selection.confidence)),
    ("expected_value_minor", .int f.winnerEstimate.expectedValueMinor),
    ("explanation", .str f.explanation.summary),
    ("supporting_evidence", .arr (f.explanation.supportingEvidence.map .str)),
    ("limitations", .arr (f.explanation.limitations.map .str)),
    ("model_version", .str LogisticRecoveryEstimator.VERSION),
    ("validation_status", .str DecisionValidationStatus.NOT_VALIDATED.value),
    ("candidate_strategies",
      .arr ((f.selection.candidates.map toEstimateDTO).map fun dto => .obj (dumpEstimate dto)))]

/-- What the generation stores of an answer of the services. -/
def recommendationOf (decisionId : UUID) (decisionVersion : ℕ) (f : Formulation) :
    Recommendation :=
  { selectedAction := f.selection.actionType
    selectedStrategy := f.selection.selectedStrategy.value
    failureCategory := f.failure.failureCategory
    confidence := f.selection.confidence
    auditPayload := auditPayload decisionId decisionVersion f }

/-- The pipeline that the constructor makes by default, for the decision that is about to be
stored. -/
def defaultPipeline (n : Numerics) (decisionId : UUID) (decisionVersion : ℕ) : Pipeline :=
  fun case txn customer priorAttempts => do
    let features ← featuresOf n case txn customer priorAttempts
    let formulation ← (formulate n features).toOption
    return recommendationOf decisionId decisionVersion formulation

/-- The answer about an analysed case. -/
def toRecommendationDTO (id caseId : UUID) (decisionVersion : ℕ) (analysisMethod : String)
    (now : Datetime) (f : Formulation) : CaseRecommendationDTO :=
  { id
    caseId
    decisionVersion
    recommendedStrategy := f.selection.selectedStrategy.value
    actionType := f.selection.actionType
    failureCategory := f.failure.failureCategory
    riskBand := f.risk.band
    riskScore := f.risk.score
    recoveryProbability := some f.winnerEstimate.probability
    confidence := some f.selection.confidence
    expectedValueMinor := f.winnerEstimate.expectedValueMinor
    explanation := f.explanation.summary
    supportingEvidence := f.explanation.supportingEvidence
    limitations := f.explanation.limitations
    analysisMethod
    modelVersion := LogisticRecoveryEstimator.VERSION
    validationStatus := .NOT_VALIDATED
    generatedAt := now
    candidateStrategies := f.selection.candidates.map toEstimateDTO }

/-- `IntelligenceOrchestrator.preview_recommendation`. -/
def previewRecommendation (n : Numerics) (id caseId : UUID) (now : Datetime)
    (request : DecisionPreviewRequestDTO) : Except SelectionFault CaseRecommendationDTO :=
  (formulate n (featuresOfPreview request)).map
    (toRecommendationDTO id caseId 1 "hybrid_expected_value_simulation" now)

end IntelligenceOrchestrator

end RevenueRescue
