import RevenueRescue.Domain.Repositories

/-!
# Recommendations

`IntelligenceOrchestrator.generate_recommendation` around the pipeline of analyser,
assessor, selector, estimator and explainer, which its constructor injects and which is an
argument here. The decision is stored unvalidated, and a case in `DETECTED` is advanced to
`AWAITING_DECISION` with a second audit record in the same session.
-/

namespace RevenueRescue

open Python

/-- What the injected pipeline answers about a case. -/
structure Recommendation where
  selectedAction : ActionType
  selectedStrategy : String
  failureCategory : String
  confidence : ℚ
  auditPayload : Dict

/-- The injected pipeline: it sees the case, its transaction, its customer and the number of
earlier attempts, and answers `none` when it raises. -/
abbrev Pipeline : Type :=
  RecoveryCase → Option Transaction → Option Customer → ℕ → Option Recommendation

namespace IntelligenceOrchestrator

/-- The row that records the recommendation. -/
def newDecision (s : Store) (caseId : UUID) (r : Recommendation) : AgentDecision :=
  { caseId
    decisionVersion := ((s.latestDecision caseId).map (·.decisionVersion + 1)).getD 1
    actionType := r.selectedAction
    reasonCode := r.failureCategory ++ ":" ++ lower r.selectedStrategy
    confidence := some r.confidence
    validationStatus := .NOT_VALIDATED }

/-- The case fields that the advance to `AWAITING_DECISION` rewrites. -/
def applyAdvance (env : Env) (case : RecoveryCase) : RecoveryCase :=
  { case with
    state := .AWAITING_DECISION
    lastStateChangedAt := env.now.naive
    version := case.version + 1 }

/-- The advance of a detected case. The second audit record is numbered from the rows the
session has flushed: with `autoflush` that includes the first one, without it not. -/
def advance (env : Env) (before : Store) (caseId : UUID) (case : RecoveryCase) :
    Service Unit := do
  modify fun s => s.modifyCase caseId (applyAdvance env)
  let s ← get
  insertTransition
    { caseId, fromState := some case.state, toState := .AWAITING_DECISION
      reasonCode := "AI_RECOMMENDATION_FORMULATED", actorType := .SYSTEM
      occurredAt := env.now.naive, sequenceNumber := s.nextTransitionNumber caseId }
  AuditEventRepository.recordSeeing (if env.autoflush then s else before) env caseId
    "STATE_TRANSITION" .SYSTEM (some case.state) (some .AWAITING_DECISION)

/-- `IntelligenceOrchestrator.generate_recommendation`. -/
def generateRecommendation (env : Env) (pipeline : Pipeline) (caseId : UUID) :
    Service UUID := do
  let s ← get
  match s.recoveryCases[caseId]? with
  | none => throw (.entityNotFound "RecoveryCase" (UUID.str caseId))
  | some case =>
    match pipeline case s.transactions[case.triggerTransactionId]?
        s.customers[case.customerId]? (s.attemptsOf caseId).length with
    | none => throw .pipelineError
    | some recommendation => do
      let decisionId ← insertDecision (newDecision s caseId recommendation)
      AuditEventRepository.record env caseId "RECOMMENDATION_GENERATED" .SYSTEM
        (some case.state) (some case.state)
      if case.state = .DETECTED then advance env s caseId case
      modify fun s => s.modifyCase caseId fun c =>
        { c with
          metadataJson :=
            Dict.set c.metadataJson "latest_recommendation" (.obj recommendation.auditPayload) }
      return decisionId

end IntelligenceOrchestrator

end RevenueRescue
