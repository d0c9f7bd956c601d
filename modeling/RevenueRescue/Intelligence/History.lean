import RevenueRescue.Base.Numeral
import RevenueRescue.Intelligence.Orchestrator

/-!
# The history of recommendations

`get_latest_recommendation` and `get_recommendation_history` rebuild the answers of earlier
generations from the stored decision and from the payload of the audit record with its id. Without a
record they fall back on what the decision says.
-/

namespace RevenueRescue

open Python

/-- An audit record as the history reads it. -/
structure RecordedEvent where
  eventType : String
  payloadSafe : Json
  eventTime : Datetime

/-- `ActionType(text)`, `none` where no member has this value. -/
def ActionType.ofValue (text : String) : Option ActionType :=
  [NONE, RETRY_PAYMENT, SEND_REMINDER, REQUEST_OPERATOR_REVIEW, STOP].find? fun action =>
    action.value == text

theorem ActionType.ofValue_value (action : ActionType) : ofValue action.value = some action := by
  cases action <;> decide

/-! ## Fields of a schema -/

/-- A field that the schema requires. -/
def fieldOf {α : Type} (payload : Dict) (key : String) (read : Json → Option α) : Option α :=
  (payload.lookup key).bind read

/-- A field with what stands in for it where the payload lacks it. -/
def fieldOr {α : Type} (payload : Dict) (key : String) (default : α) (read : Json → Option α) :
    Option α :=
  match payload.lookup key with
  | none => some default
  | some value => read value

def readText : Json → Option String
  | .str text => some text
  | _ => none

def readInt : Json → Option ℤ
  | .int n => some n
  | _ => none

def readBool : Json → Option Bool
  | .bool b => some b
  | _ => none

def readAction : Json → Option ActionType
  | .str text => ActionType.ofValue text
  | _ => none

def readDecimal : Json → Option ℚ
  | .str text => Numeral.ofText text
  | .int n => some n
  | .float x => some x
  | _ => none

/-- A list whose items are read one by one. -/
def readList {α : Type} (read : Json → Option α) : Json → Option (List α)
  | .arr items => items.mapM read
  | _ => none

/-- `StrategyEstimateDTO(**item)`. -/
def readEstimate : Json → Option StrategyEstimateDTO
  | .obj item => do
    return {
      strategy := ← fieldOf item "strategy" readText
      actionType := ← fieldOf item "action_type" readAction
      probability := ← fieldOf item "probability" readDecimal
      recoveryValueMinor := ← fieldOf item "recovery_value_minor" readInt
      costMinor := ← fieldOf item "cost_minor" readInt
      expectedValueMinor := ← fieldOf item "expected_value_minor" readInt
      permitted := ← fieldOf item "permitted" readBool
      reasons := ← fieldOr item "reasons" [] (readList readText) }
  | _ => none

namespace IntelligenceOrchestrator

/-- `next(ev for ev in audit_records if ev.event_type == "RECOMMENDATION_GENERATED")`, with its
payload if that is an object. -/
def recordedPayload (auditRecords : List RecordedEvent) : Option (Dict × Datetime) :=
  match auditRecords.find? fun ev => ev.eventType == "RECOMMENDATION_GENERATED" with
  | some ⟨_, .obj payload, eventTime⟩ => some (payload, eventTime)
  | _ => none

/-- `decision.reason_code.split(":")[0]`. -/
def categoryOf (decision : AgentDecision) : String :=
  String.ofList (decision.reasonCode.toList.takeWhile (· != ':'))

/-- The answer that a payload records. -/
def ofPayload (id : UUID) (decision : AgentDecision) (rationaleSafe : Option String)
    (payload : Dict) (eventTime : Datetime) : Option CaseRecommendationDTO := do
  let candidateStrategies ← fieldOr payload "candidate_strategies" [] (readList readEstimate)
  let recommendedStrategy ← fieldOr payload "recommended_strategy"
    (StrategyCatalog.mapToStrategy decision.actionType).value readText
  let failureCategory ← fieldOr payload "failure_category" (categoryOf decision) readText
  let riskBand ← fieldOr payload "risk_band" "medium" readText
  let riskScore ← fieldOr payload "risk_score" 50 readInt
  guard (0 ≤ riskScore ∧ riskScore ≤ 100)
  let recoveryProbability ←
    match Dict.get payload "recovery_probability" with
    | .null => some none
    | value => (readDecimal value).map some
  let expectedValueMinor ← fieldOr payload "expected_value_minor" 0 readInt
  let explanation ← fieldOr payload "explanation" (rationaleSafe.getD "") readText
  let supportingEvidence ← fieldOr payload "supporting_evidence" [] (readList readText)
  let limitations ← fieldOr payload "limitations" [] (readList readText)
  let modelVersion ← fieldOr payload "model_version" "deterministic-logistic-v1" readText
  return {
    id
    caseId := decision.caseId
    decisionVersion := decision.decisionVersion
    recommendedStrategy
    actionType := decision.actionType
    failureCategory
    riskBand
    riskScore
    recoveryProbability
    confidence := decision.confidence
    expectedValueMinor
    explanation
    supportingEvidence
    limitations
    analysisMethod := "hybrid_expected_value"
    modelVersion
    validationStatus := decision.validationStatus
    generatedAt := eventTime
    candidateStrategies }

/-- The answer without a record. -/
def fallback (now : Datetime) (id : UUID) (decision : AgentDecision)
    (rationaleSafe : Option String) : CaseRecommendationDTO :=
  { id
    caseId := decision.caseId
    decisionVersion := decision.decisionVersion
    recommendedStrategy := (StrategyCatalog.mapToStrategy decision.actionType).value
    actionType := decision.actionType
    failureCategory := categoryOf decision
    riskBand := "medium"
    riskScore := 50
    recoveryProbability := some (1 / 2)
    confidence := some ((decision.confidence.filter (· ≠ 0)).getD (8 / 10))
    expectedValueMinor := 0
    explanation := if truthy rationaleSafe then rationaleSafe.getD ""
      else "Persisted recovery recommendation."
    supportingEvidence := ["Reason code: " ++ decision.reasonCode]
    limitations := ["Historical snapshot reconstructed without full audit payload."]
    analysisMethod := "persisted_record_fallback"
    modelVersion := "deterministic-logistic-v1"
    validationStatus := decision.validationStatus
    generatedAt := now
    candidateStrategies := [] }

/-- `IntelligenceOrchestrator._reconstitute_recommendation`, where a schema may refuse. -/
def reconstituteRecommendation (now : Datetime) (id : UUID) (decision : AgentDecision)
    (rationaleSafe : Option String) (auditRecords : List RecordedEvent) :
    Option CaseRecommendationDTO :=
  match recordedPayload auditRecords with
  | some (payload, eventTime) => ofPayload id decision rationaleSafe payload eventTime
  | none => some (fallback now id decision rationaleSafe)

/-- The decisions on a case with their ids, in the order in which they were stored. -/
def decisionRows (s : Store) (caseId : UUID) : List (AgentDecision × UUID) :=
  s.decisions.zipIdx.filter fun row => row.1.caseId == caseId

/-- `AgentDecisionRepository.find_by_case`, with the ids. -/
def decisionsByVersion (s : Store) (caseId : UUID) : List (AgentDecision × UUID) :=
  (decisionRows s caseId).insertionSort fun a b => a.1.decisionVersion ≤ b.1.decisionVersion

/-- `AgentDecisionRepository.find_latest_by_case`, with the id. -/
def latestByVersion (s : Store) (caseId : UUID) : Option (AgentDecision × UUID) :=
  ((decisionRows s caseId).insertionSort fun a b =>
    b.1.decisionVersion ≤ a.1.decisionVersion).head?

/-- `IntelligenceOrchestrator.get_recommendation_history`; `none` where a schema refuses. -/
def getRecommendationHistory (now : Datetime) (rationaleSafe : UUID → Option String)
    (auditRecords : UUID → List RecordedEvent) (s : Store) (caseId : UUID) :
    Except Fault (Option (List CaseRecommendationDTO)) :=
  match s.recoveryCases[caseId]? with
  | none => .error (.entityNotFound "RecoveryCase" (UUID.str caseId))
  | some _ =>
    .ok ((decisionsByVersion s caseId).mapM fun row =>
      reconstituteRecommendation now row.2 row.1 (rationaleSafe row.2) (auditRecords row.2))

/-- `IntelligenceOrchestrator.get_latest_recommendation`; the outer `none` where a schema
refuses. -/
def getLatestRecommendation (now : Datetime) (rationaleSafe : UUID → Option String)
    (auditRecords : UUID → List RecordedEvent) (s : Store) (caseId : UUID) :
    Except Fault (Option (Option CaseRecommendationDTO)) :=
  match s.recoveryCases[caseId]? with
  | none => .error (.entityNotFound "RecoveryCase" (UUID.str caseId))
  | some _ =>
    .ok (match latestByVersion s caseId with
      | none => some none
      | some row =>
        (reconstituteRecommendation now row.2 row.1 (rationaleSafe row.2)
          (auditRecords row.2)).map some)

/-- The payload of the record of an advance. -/
def advancePayload (sequenceNumber : ℕ) : Dict :=
  [("reason_code", .str "AI_RECOMMENDATION_FORMULATED"),
    ("from_state", .str RecoveryCaseState.DETECTED.value),
    ("to_state", .str RecoveryCaseState.AWAITING_DECISION.value),
    ("sequence_number", .int sequenceNumber)]

/-- The audit records that `generate_recommendation` writes with the id of the decision. -/
def generationRecords (env : Env) (s : Store) (caseId : UUID) (case : RecoveryCase)
    (answer : Recommendation) : List RecordedEvent :=
  ⟨"RECOMMENDATION_GENERATED", .obj answer.auditPayload, env.now.naive⟩ ::
    if case.state = .DETECTED then
      [⟨"STATE_TRANSITION", .obj (advancePayload (s.nextTransitionNumber caseId)), env.now.naive⟩]
    else []

end IntelligenceOrchestrator

end RevenueRescue
