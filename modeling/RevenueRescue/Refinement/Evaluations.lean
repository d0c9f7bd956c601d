import RevenueRescue.Policy.Service
import RevenueRescue.Refinement.Effects

/-!
# What an evaluation does to the rows

An evaluation that is a replay, that misses the case or the recommendation, or in which a rule
raises, changes nothing. Every other one records its decision, the validation status of the
recommendation it was asked about and an audit record, and it moves the case when the policy's
transition function says so.
-/

namespace RevenueRescue

open Python

namespace PolicyEngineService

variable {env : Env} {config : PolicyConfig} {request : PolicyEvaluationRequest} {s : Store}
  {case : RecoveryCase} {recommendation : AgentDecision} {results : List RuleCheckResult}

/-- The transition log's entry for a decision. -/
def transitionEntry (env : Env) (s : Store) (request : PolicyEvaluationRequest)
    (case : RecoveryCase) (reasons : List String) (toState : RecoveryCaseState) :
    CaseStateTransition :=
  { caseId := request.caseId, fromState := some case.state, toState
    reasonCode := reasons.headD "POLICY_EVALUATION", actorType := request.actorType
    occurredAt := env.now.naive, sequenceNumber := s.nextTransitionNumber request.caseId }

/-- The rows with the case moved after a decision. -/
def synchronized (env : Env) (s : Store) (request : PolicyEvaluationRequest)
    (case : RecoveryCase) (reasons : List String) (toState : RecoveryCaseState) : Store :=
  { s.modifyCase request.caseId (applyTransition env toState) with
    transitions := s.transitions ++ [transitionEntry env s request case reasons toState] }

/-- The recommendation with the verdict of the policy. -/
def validated (status : PolicyDecisionStatus) (recommendation : AgentDecision) : AgentDecision :=
  { recommendation with validationStatus := mapPolicyToValidationStatus status }

/-- The rows with the decision and the verdict on the recommendation. -/
def decided (s : Store) (request : PolicyEvaluationRequest) (decision : PolicyDecision) : Store :=
  { s with
    policyDecisions := s.policyDecisions ++ [decision]
    decisions := s.decisions.modify request.recommendationId (validated decision.decisionStatus) }

/-- The rows that a decision commits. -/
def persisted (env : Env) (s : Store) (request : PolicyEvaluationRequest) (case : RecoveryCase)
    (decision : PolicyDecision) : Store :=
  let after := stateAfter decision.decisionStatus case decision.reasonsJson
  let moved :=
    if after ≠ case.state then
      synchronized env (decided s request decision) request case decision.reasonsJson after
    else decided s request decision
  { moved with
    auditEvents := s.auditEvents ++
      [nextAudit s env request.caseId "POLICY_EVALUATION_COMPLETED" request.actorType
        (some case.state) (some after)] }

theorem synchronizeCase_apply (env : Env) (s : Store) (request : PolicyEvaluationRequest)
    (case : RecoveryCase) (reasons : List String) (toState : RecoveryCaseState) :
    synchronizeCase env request case reasons toState s =
      .ok ((), synchronized env s request case reasons toState) := by
  unfold synchronizeCase
  rw [Tx.modify_bind_apply, Tx.get_bind_apply]
  exact insertTransition_next rfl

/-- Persisting a decision never fails. -/
theorem persist_apply (env : Env) (s : Store) (request : PolicyEvaluationRequest)
    (case : RecoveryCase) (decision : PolicyDecision) :
    persist env request case decision s =
      .ok ((), persisted env s request case decision) := by
  have hpersist : persist env request case decision s = (do
      if stateAfter decision.decisionStatus case decision.reasonsJson ≠ case.state then
        synchronizeCase env request case decision.reasonsJson
          (stateAfter decision.decisionStatus case decision.reasonsJson)
      AuditEventRepository.record env request.caseId "POLICY_EVALUATION_COMPLETED"
        request.actorType (some case.state)
        (some (stateAfter decision.decisionStatus case decision.reasonsJson)) : Service Unit)
      (decided s request decision) := rfl
  rw [hpersist]
  by_cases hmoves : stateAfter decision.decisionStatus case decision.reasonsJson ≠ case.state
  · rw [if_pos hmoves, Tx.bind_apply, synchronizeCase_apply]
    simp only [persisted, if_pos hmoves]
    exact record_apply ..
  · rw [if_neg hmoves]
    simp only [persisted, if_neg hmoves]
    exact record_apply ..

/-- The evaluation reaches a decision: it repeats none, finds both rows, and no rule raises. -/
structure Decides (config : PolicyConfig) (env : Env) (request : PolicyEvaluationRequest)
    (s : Store) (case : RecoveryCase) (recommendation : AgentDecision)
    (results : List RuleCheckResult) : Prop where
  new : replayed s request = none
  caseRow : s.recoveryCases[request.caseId]? = some case
  recommendationRow : s.decisions[request.recommendationId]? = some recommendation
  answers : ruleResults env config s request case recommendation
    (request.proposedAction.getD recommendation.actionType) = .ok results

/-- The decision that is reached. -/
def decision (env : Env) (config : PolicyConfig) (request : PolicyEvaluationRequest)
    (case : RecoveryCase) (recommendation : AgentDecision) (results : List RuleCheckResult) :
    PolicyDecision :=
  newDecision env config request case
    (request.proposedAction.getD recommendation.actionType) results

theorem Decides.evaluate_apply (h : Decides config env request s case recommendation results) :
    evaluate env config request s =
      .ok (newResult env (decision env config request case recommendation results) results,
        persisted env s request case
          (decision env config request case recommendation results)) := by
  unfold evaluate
  rw [Tx.get_bind_apply, h.new]
  dsimp only
  rw [h.caseRow, h.recommendationRow]
  dsimp only
  rw [h.answers]
  refine (Tx.bind_apply ..).trans ?_
  rw [persist_apply]
  rfl

/-- What is committed when a decision is reached. -/
theorem Decides.commit (h : Decides config env request s case recommendation results) :
    (evaluate env config request).commit s =
      persisted env s request case (decision env config request case recommendation results) := by
  unfold Tx.commit
  rw [h.evaluate_apply]

theorem persisted_policyDecisions (env : Env) (s : Store) (request : PolicyEvaluationRequest)
    (case : RecoveryCase) (decision : PolicyDecision) :
    (persisted env s request case decision).policyDecisions = s.policyDecisions ++ [decision] := by
  unfold persisted
  dsimp only
  split <;> rfl

theorem persisted_workflows (env : Env) (s : Store) (request : PolicyEvaluationRequest)
    (case : RecoveryCase) (decision : PolicyDecision) :
    (persisted env s request case decision).workflows = s.workflows := by
  unfold persisted
  dsimp only
  split <;> rfl

/-- An evaluation that reaches no decision leaves the rows as they were. -/
theorem evaluate_same {t : Store} {result : PolicyEvaluationResult}
    (hnone : ∀ case recommendation results,
      ¬Decides config env request s case recommendation results)
    (h : evaluate env config request s = .ok (result, t)) : t = s := by
  unfold evaluate at h
  rw [Tx.get_bind_apply] at h
  rcases hnew : replayed s request with _ | record
  · rw [hnew] at h
    dsimp only at h
    rcases hcase : s.recoveryCases[request.caseId]? with _ | case
    · rw [hcase] at h
      cases h
      rfl
    rcases hrecommendation : s.decisions[request.recommendationId]? with _ | recommendation
    · rw [hcase, hrecommendation] at h
      cases h
      rfl
    rw [hcase, hrecommendation] at h
    dsimp only at h
    rcases hresults : ruleResults env config s request case recommendation
      (request.proposedAction.getD recommendation.actionType) with fault | results
    · rw [hresults] at h
      cases h
    · exact absurd ⟨hnew, hcase, hrecommendation, hresults⟩ (hnone case recommendation results)
  · rw [hnew] at h
    dsimp only at h
    rcases hresult : toEvaluationResult record with fault | replay
    · rw [hresult] at h
      cases h
    · rw [hresult] at h
      cases h
      rfl

/-- What an evaluation that is not a replay answers about a stored case and recommendation. -/
theorem ruleResults_of_evaluate {t : Store} {result : PolicyEvaluationResult}
    (hnew : replayed s request = none) (hcase : s.recoveryCases[request.caseId]? = some case)
    (hrecommendation : s.decisions[request.recommendationId]? = some recommendation)
    (h : evaluate env config request s = .ok (result, t)) :
    ruleResults env config s request case recommendation
      (request.proposedAction.getD recommendation.actionType) = .ok result.ruleResults := by
  rcases hanswers : ruleResults env config s request case recommendation
    (request.proposedAction.getD recommendation.actionType) with fault | results
  · unfold evaluate at h
    rw [Tx.get_bind_apply, hnew] at h
    dsimp only at h
    rw [hcase, hrecommendation] at h
    dsimp only at h
    rw [hanswers] at h
    cases h
  · have hdecides : Decides config env request s case recommendation results :=
      ⟨hnew, hcase, hrecommendation, hanswers⟩
    rw [hdecides.evaluate_apply] at h
    cases h
    rfl

/-- The eligibility rule answers first. -/
theorem head_ruleResults {proposedAction : ActionType}
    (h : ruleResults env config s request case recommendation proposedAction = .ok results) :
    results.head? = some (EligibilityEvaluator.evaluate request.caseId case recommendation
      (some case.customerId) (some case.triggerTransactionId)) := by
  unfold ruleResults at h
  obtain ⟨consent, -, h⟩ := Except.bind_eq_ok.mp h
  obtain ⟨retry, -, h⟩ := Except.bind_eq_ok.mp h
  cases h
  rfl

/-- A recommendation for another case is rejected. -/
theorem Decides.rejected (h : Decides config env request s case recommendation results)
    (hforeign : recommendation.caseId ≠ request.caseId) :
    (aggregateDecision results).1 = .REJECTED := by
  have hmismatch : EligibilityEvaluator.evaluate request.caseId case recommendation
      (some case.customerId) (some case.triggerTransactionId) =
        EligibilityEvaluator.answer .FAILED "RECOMMENDATION_MISMATCH"
          "The proposed recommendation is associated with a different recovery case."
          [("case_id", .str (UUID.str request.caseId)),
            ("recommendation_case_id", .str (UUID.str recommendation.caseId))] := by
    have hcustomer : ¬(some case.customerId).any (· ≠ case.customerId) = true := by simp
    have htransaction :
        ¬(some case.triggerTransactionId).any (· ≠ case.triggerTransactionId) = true := by simp
    unfold EligibilityEvaluator.evaluate
    rw [if_neg hcustomer, if_neg htransaction, if_pos hforeign]
  have hhead := head_ruleResults h.answers
  rw [hmismatch] at hhead
  have hfailed : (results.any fun r => r.status == .FAILED) = true :=
    List.any_eq_true.mpr ⟨_, List.mem_of_head? hhead, rfl⟩
  unfold aggregateDecision
  rw [if_pos hfailed]

end PolicyEngineService

end RevenueRescue
