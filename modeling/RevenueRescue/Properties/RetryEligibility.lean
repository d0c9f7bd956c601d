import RevenueRescue.Properties.Coherence
import RevenueRescue.Properties.Transitions
import RevenueRescue.Refinement.Backing
import RevenueRescue.Refinement.Grounding

/-!
# Eligible for a retry

A reconciliation moves a case to `RETRY_ELIGIBLE` through the transition service, which writes
the number of its entry into the audit log. Since a recommendation puts the audit log ahead of
the transition log for good, only a case without a recommendation gets there. Such a case has no
workflow, no attempt and no execution, so nothing of an earlier retry is still open.
-/

namespace RevenueRescue

open Python

/-- No earlier retry of the case is still open. -/
structure AtRest (s : Store) (caseId : UUID) : Prop where
  attempts : ∀ attempt ∈ s.attempts, attempt.caseId = caseId →
    attempt.status ≠ .STARTED ∧ attempt.status ≠ .UNCERTAIN
  workflows : ∀ workflow ∈ s.workflows, workflow.caseId = caseId →
    workflow.status ∉ activeStatuses
  executions : ∀ execution ∈ s.executions, execution.caseId = caseId → execution.status ≠ .UNKNOWN

/-- A new retry of the case is possible: no evaluation finds one in progress, and a workflow is
made from an approval for it while it waits for its action. -/
structure RetryPossible (s : Store) (caseId : UUID) : Prop where
  evaluates : ∀ config env request case recommendation results, request.caseId = caseId →
    PolicyEngineService.Decides config env request s case recommendation results →
    ∀ result ∈ results, result.reasonCode ≠ "RETRY_ALREADY_IN_PROGRESS"
  creates : ∀ (env : Env) (t : Store) (decisionId : UUID) (decision : PolicyDecision)
    (case : RecoveryCase) (cooldownHours maxWorkflowHours : ℤ), t.workflows = s.workflows →
    t.policyDecisions[decisionId]? = some decision → decision.caseId = caseId →
    decision.decisionStatus = .APPROVED → t.recoveryCases[caseId]? = some case →
    case.state = .ACTION_PENDING →
    WorkflowCreationService.createWorkflowForDecision env decisionId cooldownHours maxWorkflowHours
        t =
      insertWorkflow (WorkflowCreationService.newWorkflow env t.workflows.length decisionId decision
        cooldownHours maxWorkflowHours) t

variable {config : PolicyConfig} {env : Env} {s : Store} {caseId : UUID}

/-! ## Evaluations -/

/-- The answer is not that a retry is in progress. -/
def RuleCheckResult.NotInProgress (result : RuleCheckResult) : Prop :=
  result.reasonCode ≠ "RETRY_ALREADY_IN_PROGRESS"

theorem RuleCheckResult.NotInProgress.ite {c : Prop} [Decidable c] {first rest : RuleCheckResult}
    (hfirst : first.NotInProgress) (hrest : rest.NotInProgress) :
    (if c then first else rest).NotInProgress := by
  by_cases hc : c
  · rw [if_pos hc]
    exact hfirst
  · rw [if_neg hc]
    exact hrest

/-- An answer with another reason. -/
theorem RuleCheckResult.NotInProgress.answer {ruleName : String} {status : RuleCheckStatus}
    {reasonCode : String} {message : String} {details : Dict}
    (h : reasonCode ≠ "RETRY_ALREADY_IN_PROGRESS") :
    RuleCheckResult.NotInProgress ⟨ruleName, status, reasonCode, message, details⟩ := h

theorem EligibilityEvaluator.notInProgress (case : RecoveryCase) (recommendation : AgentDecision)
    (customerId expectedTransactionId : Option UUID) :
    (evaluate caseId case recommendation customerId expectedTransactionId).NotInProgress := by
  unfold evaluate
  repeat' apply RuleCheckResult.NotInProgress.ite
  all_goals exact .answer (by decide)

theorem ConsentValidator.judge_notInProgress (requiredType : ConsentType) (now : Datetime)
    (candidate : CustomerConsent) : (judge requiredType now candidate).NotInProgress := by
  unfold judge
  refine .ite (.answer (by decide)) (.ite (.answer (by decide))
    (.ite (.answer ?_) (.answer (by decide))))
  cases candidate.status <;> decide

theorem ConsentValidator.notInProgress {actionType : ActionType} {customerId : UUID}
    {consents : List CustomerConsent} {merchantId : Json} {channel : Option String}
    {now : Datetime} {result : RuleCheckResult}
    (h : evaluate actionType customerId consents merchantId channel now = .ok result) :
    result.NotInProgress := by
  unfold evaluate at h
  split at h
  · cases h
    exact .answer (by decide)
  dsimp only at h
  split_ifs at h
  · cases h
    exact .answer (by decide)
  · cases h
    exact .answer (by decide)
  · cases h
    exact .answer (by decide)
  split at h
  · cases h
    exact .answer (by decide)
  · cases h
    exact judge_notInProgress _ _ _

/-- Without an attempt that was started, the retry rule finds none in progress. -/
theorem RetryLimitEvaluator.notInProgress {actionType : ActionType}
    {attempts : List RecoveryAttempt} {now : Datetime} {key category : Option String}
    {result : RuleCheckResult} (hrest : ∀ attempt ∈ attempts, attempt.status ≠ .STARTED)
    (h : evaluate actionType attempts config now key category = .ok result) :
    result.NotInProgress := by
  have hstarted : ¬(attempts.any fun a => a.status == .STARTED) = true := by
    rw [List.any_eq_true]
    rintro ⟨attempt, hattempt, hstatus⟩
    exact hrest attempt hattempt (beq_iff_eq.mp hstatus)
  unfold evaluate at h
  dsimp only at h
  rw [if_neg hstarted] at h
  split_ifs at h
  · cases h
    exact .answer (by decide)
  · cases h
    exact .answer (by decide)
  · cases h
    exact .answer (by decide)
  · cases h
    exact .answer (by decide)
  · cases h
    exact .answer (by decide)
  · cases h
    exact .answer (by decide)
  obtain ⟨latest, -, h⟩ := Except.bind_eq_ok.mp h
  rcases latest with _ | latest
  · cases h
    exact .answer (by decide)
  · dsimp only at h
    split_ifs at h
    · cases h
      exact .answer (by decide)
    · cases h
      exact .answer (by decide)

theorem StrategyValidator.notInProgress (strategy : RecoveryStrategy) (category : Option String)
    (state : RecoveryCaseState) (hasContactInfo isRetryable : Bool) :
    (evaluate strategy category state hasContactInfo isRetryable).NotInProgress := by
  unfold evaluate
  repeat' apply RuleCheckResult.NotInProgress.ite
  all_goals exact .answer (by decide)

theorem EscalationEvaluator.notInProgress (amountMinor : ℕ) (currency : String)
    (confidence : Option ℚ) (category : Option String) (exhausted uncertain : Bool) :
    (evaluate amountMinor currency config confidence category exhausted
      uncertain).NotInProgress := by
  unfold evaluate
  iterate 5 refine .ite (.answer (by decide)) ?_
  rcases confidence with _ | confidence
  · exact .answer (by decide)
  · exact .ite (.answer (by decide)) (.answer (by decide))

/-- No rule finds a retry of a case at rest in progress. -/
theorem AtRest.evaluates (h : AtRest s caseId) {request : PolicyEvaluationRequest}
    {case : RecoveryCase} {recommendation : AgentDecision} {results : List RuleCheckResult}
    (hcase : request.caseId = caseId)
    (hdecides : PolicyEngineService.Decides config env request s case recommendation results) :
    ∀ result ∈ results, result.NotInProgress := by
  have hrest : ∀ attempt ∈ s.attemptsOf request.caseId, attempt.status ≠ .STARTED := by
    intro attempt hattempt
    obtain ⟨hmem, hown⟩ := List.mem_filter.mp hattempt
    exact (h.attempts attempt hmem ((beq_iff_eq.mp hown).trans hcase)).1
  have hanswers := hdecides.answers
  unfold PolicyEngineService.ruleResults at hanswers
  obtain ⟨consent, hconsent, hanswers⟩ := Except.bind_eq_ok.mp hanswers
  obtain ⟨retry, hretry, hanswers⟩ := Except.bind_eq_ok.mp hanswers
  rw [← Except.ok.inj hanswers]
  refine List.forall_mem_cons.mpr ⟨?_, List.forall_mem_cons.mpr ⟨?_, List.forall_mem_cons.mpr ⟨?_,
    List.forall_mem_cons.mpr ⟨?_, List.forall_mem_singleton.mpr ?_⟩⟩⟩⟩
  · exact EligibilityEvaluator.notInProgress _ _ _ _
  · exact ConsentValidator.notInProgress hconsent
  · exact RetryLimitEvaluator.notInProgress hrest hretry
  · exact StrategyValidator.notInProgress _ _ _ _ _
  · unfold PolicyEngineService.escalation
    exact EscalationEvaluator.notInProgress _ _ _ _ _ _

/-! ## Workflows -/

/-- A case at rest has no active workflow. -/
theorem AtRest.activeWorkflow (h : AtRest s caseId) : s.activeWorkflow caseId = none := by
  unfold Store.activeWorkflow
  rw [Table.find?_none]
  intro workflow hworkflow
  by_cases hcase : workflow.caseId = caseId
  · have hidle := h.workflows workflow hworkflow hcase
    rw [hcase, beq_self_eq_true, Bool.true_and]
    revert hidle
    cases workflow.status <;> decide
  · rw [beq_false_of_ne hcase, Bool.false_and]

/-- A retry of a case at rest is possible. -/
theorem AtRest.retryPossible (h : AtRest s caseId) : RetryPossible s caseId := by
  refine ⟨fun config env request case recommendation results hcase hdecides result hresult =>
    h.evaluates hcase hdecides result hresult, ?_⟩
  rintro env t decisionId decision case cooldownHours maxWorkflowHours hworkflows hdecision rfl
    happroved hcase hpending
  have hactive : t.activeWorkflow decision.caseId = none := by
    unfold Store.activeWorkflow
    rw [hworkflows]
    exact h.activeWorkflow
  unfold WorkflowCreationService.createWorkflowForDecision
  rw [Tx.get_bind_apply, hdecision]
  dsimp only
  rw [if_neg (not_not.mpr happroved), hcase]
  dsimp only
  rw [if_neg (not_not.mpr hpending), hactive]

/-! ## Reconciliations -/

/-- The request reconciles cases: the one it names, or those that wait for their verification. -/
def Request.Reconciles (r : Request) (caseId : UUID) : Prop :=
  (∃ provider autoResolve, r.ask = .operation (.reconcileCase provider autoResolve caseId)) ∨
    ∃ provider limit, r.ask = .reconcilePending provider limit

/-- A case that a reconciliation moves to `RETRY_ELIGIBLE` is moved by a transition. -/
theorem Request.Moves.carriesOut {w : World} {r : Request} {case : RecoveryCase}
    {move : CaseMove} (hr : r.Reconciles caseId) (h : r.Moves config w caseId case move)
    (heligible : move.toState = .RETRY_ELIGIBLE) :
    CaseTransitionService.CarriesOut w.db caseId .RETRY_ELIGIBLE case := by
  obtain ⟨env, ask⟩ := r
  rcases hr with ⟨provider, autoResolve, rfl⟩ | ⟨provider, limit, rfl⟩
  · obtain ⟨-, -, txn, providerStatus, -, ⟨toState, -, hcarries, rfl⟩ | ⟨-, -, rfl⟩⟩ := h
    · obtain rfl : toState = .RETRY_ELIGIBLE := heligible
      exact hcarries
    · cases heligible
  · obtain ⟨-, -, -, -, hcarries, -⟩ := h
    rw [heligible] at hcarries
    exact hcarries

/-- A reconciliation writes no workflow. -/
theorem Request.Reconciles.workflows {w : World} {r : Request} (hr : r.Reconciles caseId) :
    (w.step config r).db.workflows = w.db.workflows := by
  obtain ⟨env, ask⟩ := r
  rcases hr with ⟨provider, autoResolve, rfl⟩ | ⟨provider, limit, rfl⟩
  · rcases World.step_operation_workflows config w env
      (.reconcileCase provider autoResolve caseId) with hsame | ⟨_, _, _, _, hcreates, -⟩
    · exact hsame
    · cases hcreates
  · exact World.step_reconcile_workflows config w env provider limit

/-- Without a workflow of its own, a case is at rest. -/
theorem Worked.atRest (h : Worked s) (hnone : ∀ workflow ∈ s.workflows, workflow.caseId ≠ caseId) :
    AtRest s caseId := by
  refine ⟨fun attempt hattempt hcase => ?_, fun workflow hworkflow hcase => ?_,
    fun execution hexecution hcase => ?_⟩
  · obtain ⟨workflow, hworkflow, hown⟩ := h.attempts attempt hattempt
    exact absurd (hown.trans hcase) (hnone workflow hworkflow)
  · exact absurd hcase (hnone workflow hworkflow)
  · obtain ⟨workflow, hworkflow, hown⟩ := h.executions execution hexecution
    exact absurd (hown.trans hcase) (hnone workflow hworkflow)

/-- A case that a reconciliation moves to `RETRY_ELIGIBLE` has no retry of it open, and a new one
is possible. -/
theorem retry_eligible_means_possible (config : PolicyConfig) (requests : List Request)
    (r : Request) (caseId : UUID) (case after : RecoveryCase) (hr : r.Reconciles caseId)
    (hcase : (World.empty.run config requests).db.recoveryCases[caseId]? = some case)
    (hbefore : case.state ≠ .RETRY_ELIGIBLE)
    (hafter : ((World.empty.run config requests).step config r).db.recoveryCases[caseId]? =
      some after)
    (heligible : after.state = .RETRY_ELIGIBLE) :
    AtRest ((World.empty.run config requests).step config r).db caseId ∧
      RetryPossible ((World.empty.run config requests).step config r).db caseId := by
  have hchain := World.run_chain config requests
  have hgrounded := World.run_grounded config requests
  obtain ⟨row, hrow, hkept⟩ := (World.step_casesMoved hchain r).rows caseId case hcase
  obtain rfl : row = after := Option.some.inj (hrow.symm.trans hafter)
  rcases hkept with ⟨hsame, -⟩ | ⟨move, hmove, hrewrites⟩
  · exact absurd (hsame.symm.trans heligible) hbefore
  -- the number of the entry was free in the audit log, so nothing was recommended before
  have hcarries := hmove.carriesOut hr (hrewrites.1.symm.trans heligible)
  have hnone := (World.run_auditsAhead config requests).not_recommended hcarries
  have hidle := hgrounded.not_worked hchain hnone
  have hrest : AtRest ((World.empty.run config requests).step config r).db caseId := by
    refine (World.step_grounded r hgrounded).worked.atRest ?_
    rw [hr.workflows]
    exact hidle
  exact ⟨hrest, hrest.retryPossible⟩

namespace Sample

/-- The payment has been pending for years when the detector finds it, and an operator sends the
case to verification. -/
def verifying : List Request :=
  [request (.createCustomer ⟨"razorpay", "cust_1", none, .ACTIVE, []⟩),
    request (.recordTransaction ⟨0, "razorpay", "pay_1", 5000, inr, .PENDING, none, none,
      some ⟨1600000000000000, some 0⟩, []⟩),
    detected, request (.transitionState 0 ⟨.VERIFICATION_PENDING, "OPERATOR", .OPERATOR⟩)]

end Sample

/-- The provider reports that a payment which was never recommended for a retry failed. -/
theorem retry_eligible_means_possible_detected :
    AtRest (World.empty.run .default (Sample.verifying ++ [Sample.reconciled .FAILED 5000])).db 0 ∧
      RetryPossible
        (World.empty.run .default (Sample.verifying ++ [Sample.reconciled .FAILED 5000])).db 0 := by
  have hbefore : (World.empty.run .default Sample.verifying).db.recoveryCases.map
      RecoveryCase.state = [.VERIFICATION_PENDING] := by decide +kernel
  have hafter : ((World.empty.run .default Sample.verifying).step .default
      (Sample.reconciled .FAILED 5000)).db.recoveryCases.map RecoveryCase.state =
        [.RETRY_ELIGIBLE] := by decide +kernel
  obtain ⟨case, hcase, hstate⟩ := List.map_eq_singleton_iff.mp hbefore
  obtain ⟨after, hrow, heligible⟩ := List.map_eq_singleton_iff.mp hafter
  refine retry_eligible_means_possible .default Sample.verifying (Sample.reconciled .FAILED 5000) 0
    case after (.inl ⟨_, _, rfl⟩) ?_ ?_ ?_ heligible
  · rw [hcase]
    rfl
  · rw [hstate]
    decide
  · rw [hrow]
    rfl

end RevenueRescue
