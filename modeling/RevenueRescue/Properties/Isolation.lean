import RevenueRescue.Properties.Recommendations

/-!
# Evaluations and the rows of other cases

A request names a case and a recommendation, and only the eligibility rule compares the two.
Whatever the rules answer, the verdict is then written into the recommendation. So a request
that names the recommendation of another case has it rejected there, and this is the one way
in which an evaluation touches a row of another case.
-/

namespace RevenueRescue

open Python PolicyEngineService

/-- Every row that belongs to another case is the same before and after. -/
structure OtherCasesKept (caseId : UUID) (s t : Store) : Prop where
  recoveryCases : ∀ other, other ≠ caseId → t.recoveryCases[other]? = s.recoveryCases[other]?
  attempts : Table.SameRows (fun a => a.caseId ≠ caseId) s.attempts t.attempts
  decisions : Table.SameRows (fun d => d.caseId ≠ caseId) s.decisions t.decisions
  policyDecisions : Table.SameRows (fun d => d.caseId ≠ caseId) s.policyDecisions t.policyDecisions
  auditEvents : Table.SameRows (fun a => a.caseId ≠ caseId) s.auditEvents t.auditEvents
  transitions : Table.SameRows (fun e => e.caseId ≠ caseId) s.transitions t.transitions
  workflows : Table.SameRows (fun w => w.caseId ≠ caseId) s.workflows t.workflows
  executions : Table.SameRows (fun e => e.caseId ≠ caseId) s.executions t.executions

theorem OtherCasesKept.refl (caseId : UUID) (s : Store) : OtherCasesKept caseId s s :=
  ⟨fun _ _ => rfl, .refl _ _, .refl _ _, .refl _ _, .refl _ _, .refl _ _, .refl _ _, .refl _ _⟩

namespace PolicyEngineService

variable {env : Env} {config : PolicyConfig} {request : PolicyEvaluationRequest} {s : Store}
  {case : RecoveryCase}

theorem persisted_decisions (decision : PolicyDecision) :
    (persisted env s request case decision).decisions =
      s.decisions.modify request.recommendationId (validated decision.decisionStatus) := by
  by_cases hmoves : stateAfter decision.decisionStatus case decision.reasonsJson ≠ case.state
  · simp only [persisted, if_pos hmoves]
    rfl
  · simp only [persisted, if_neg hmoves]
    rfl

/-- What a decision commits stays with its case, apart from the verdict on the recommendation. -/
theorem persisted_kept {decision : PolicyDecision} (hcase : decision.caseId = request.caseId)
    (hdecisions : Table.SameRows (fun d => d.caseId ≠ request.caseId) s.decisions
      (s.decisions.modify request.recommendationId (validated decision.decisionStatus))) :
    OtherCasesKept request.caseId s (persisted env s request case decision) := by
  have hlogged : ∀ entry : AuditEvent, entry.caseId = request.caseId →
      Table.SameRows (fun a => a.caseId ≠ request.caseId) s.auditEvents
        (s.auditEvents ++ [entry]) :=
    fun _ h => .append_one _ (not_not.mpr h)
  have hdecided : Table.SameRows (fun d => d.caseId ≠ request.caseId) s.policyDecisions
      (s.policyDecisions ++ [decision]) := .append_one _ (not_not.mpr hcase)
  by_cases hmoves : stateAfter decision.decisionStatus case decision.reasonsJson ≠ case.state
  · simp only [persisted, if_pos hmoves]
    exact
      { OtherCasesKept.refl request.caseId s with
        recoveryCases := fun other hother => List.getElem?_modify_ne _ _ (Ne.symm hother)
        decisions := hdecisions
        policyDecisions := hdecided
        auditEvents := hlogged _ rfl
        transitions := .append_one _ (not_not.mpr rfl) }
  · simp only [persisted, if_neg hmoves]
    exact
      { OtherCasesKept.refl request.caseId s with
        decisions := hdecisions
        policyDecisions := hdecided
        auditEvents := hlogged _ rfl }

end PolicyEngineService

/-- An evaluation leaves the rows of other cases alone exactly when each recommendation of another
case that it judges was rejected by the policy already. -/
theorem evaluation_isolates_iff (config : PolicyConfig) (env : Env)
    (request : PolicyEvaluationRequest) (s : Store) :
    OtherCasesKept request.caseId s ((evaluate env config request).commit s) ↔
      ∀ case recommendation results, Decides config env request s case recommendation results →
        recommendation.caseId ≠ request.caseId →
          recommendation.validationStatus = .REJECTED_BY_POLICY := by
  constructor
  · intro hkept case recommendation results hdecides hforeign
    have hverdict : (decision env config request case recommendation results).decisionStatus =
        .REJECTED := hdecides.rejected hforeign
    unfold Tx.commit at hkept
    rw [hdecides.evaluate_apply] at hkept
    have hrow := (hkept.decisions request.recommendationId recommendation hforeign).mp
      hdecides.recommendationRow
    rw [persisted_decisions, List.getElem?_modify_eq, hdecides.recommendationRow, hverdict] at hrow
    exact (congrArg AgentDecision.validationStatus (Option.some.inj hrow)).symm
  · intro hforeign
    by_cases hsome : ∃ case recommendation results,
      Decides config env request s case recommendation results
    · obtain ⟨case, recommendation, results, hdecides⟩ := hsome
      unfold Tx.commit
      rw [hdecides.evaluate_apply]
      refine persisted_kept rfl (.modify _ _ fun d hd => ?_)
      obtain rfl : recommendation = d :=
        Option.some.inj (hdecides.recommendationRow.symm.trans hd)
      by_cases hown : recommendation.caseId = request.caseId
      · exact .inl ⟨not_not.mpr hown, not_not.mpr hown⟩
      · have hverdict : (decision env config request case recommendation results).decisionStatus =
            .REJECTED := hdecides.rejected hown
        have hbefore := hforeign case recommendation results hdecides hown
        right
        rw [hverdict]
        unfold validated mapPolicyToValidationStatus
        rw [← hbefore]
    · have hnone : ∀ case recommendation results,
          ¬Decides config env request s case recommendation results :=
        fun case recommendation results h => hsome ⟨case, recommendation, results, h⟩
      unfold Tx.commit
      rcases hrun : evaluate env config request s with fault | ⟨result, t⟩
      · exact .refl _ _
      · rw [evaluate_same hnone hrun]
        exact .refl _ _

namespace Sample

/-- Two payments failed, and a retry was recommended for the second case. -/
def secondRecommended : List Request :=
  [failure, request (.processEvent { event "evt_2" "PAYMENT_FAILED" with
    paymentReference := some "pay_2" }), request (.generateRecommendation retrying 1)]

/-- The rows after an evaluation of the first case that names that recommendation. -/
def crossEvaluated : Store :=
  evaluation.commit (World.empty.run .default secondRecommended).db

end Sample

/-- The recommendation for the second case is rejected by an evaluation of the first. -/
theorem foreign_recommendation_is_rejected :
    ((World.empty.run .default Sample.secondRecommended).db.decisions[0]?).map
        (fun d => (d.caseId, d.validationStatus)) = some (1, .NOT_VALIDATED) ∧
      (Sample.crossEvaluated.decisions[0]?).map (fun d => (d.caseId, d.validationStatus)) =
        some (1, .REJECTED_BY_POLICY) ∧
      ¬OtherCasesKept 0 (World.empty.run .default Sample.secondRecommended).db
        Sample.crossEvaluated := by
  have hbefore : ((World.empty.run .default Sample.secondRecommended).db.decisions[0]?).map
      (fun d => (d.caseId, d.validationStatus)) = some (1, .NOT_VALIDATED) := by decide +kernel
  have hafter : (Sample.crossEvaluated.decisions[0]?).map
      (fun d => (d.caseId, d.validationStatus)) = some (1, .REJECTED_BY_POLICY) := by
    decide +kernel
  refine ⟨hbefore, hafter, fun hkept => ?_⟩
  obtain ⟨d, hd, hfacts⟩ := Option.map_eq_some_iff.mp hbefore
  obtain ⟨hcaseId, hstatus⟩ := Prod.mk.inj hfacts
  have hforeign : d.caseId ≠ 0 := by
    rw [hcaseId]
    decide
  rw [(hkept.decisions 0 d hforeign).mp hd, Option.map_some, hcaseId, hstatus] at hafter
  cases hafter

end RevenueRescue
