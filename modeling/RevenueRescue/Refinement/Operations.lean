import RevenueRescue.Refinement.Events
import RevenueRescue.Refinement.Rules
import RevenueRescue.System

/-!
# Operations within their authority

Each operation has an authority that can be read off its arguments and the rows it starts
from: which case it may decide on, which one it may recover, on which decision it may build a
workflow. Every operation stays within it; whether it also keeps the numbering of the audit
log depends on the two conditions of `Operation.Numbered`.
-/

namespace RevenueRescue

open Python

variable {A : Authority} {s : Store}

/-! ## Recommendations -/

namespace IntelligenceOrchestrator

theorem advance_keeps {env : Env} {before : Store} {caseId : UUID} {case : RecoveryCase}
    (hcase : s.recoveryCases[caseId]? = some case) (hdetected : case.state = .DETECTED)
    (hflush : A.numbered → env.autoflush = true) :
    Keeps A s (advance env before caseId case) := by
  have hstep : ∀ c, s.recoveryCases[caseId]? = some c →
      CaseStep (A.recovers caseId) A.counts c (applyAdvance env c) := by
    intro c hc
    rw [hcase, Option.some.injEq] at hc
    subst hc
    refine ⟨⟨rfl, rfl, rfl, .inr (.inl ?_)⟩, fun h => (by cases h), .inr rfl⟩
    rw [hdetected]
    rfl
  refine .modify_bind (.setCase s caseId _ hstep) (.get_bind ?_)
  refine .bind (insertTransition_keeps (lt_modifyCase hcase _)) fun _ t ht _ =>
    recordSeeing_keeps fun hn => ?_
  rw [if_pos (hflush hn), nextAuditNumber_of_insertTransition ht]

theorem generateRecommendation_keeps {env : Env} {pipeline : Pipeline} {caseId : UUID}
    (hflush : A.numbered → env.autoflush = true) :
    Keeps A s (generateRecommendation env pipeline caseId) := by
  refine .get_bind ?_
  rcases hcase : s.recoveryCases[caseId]? with _ | case
  · exact .of_throw fun _ h => by cases h
  dsimp only
  rcases pipeline case s.transactions[case.triggerTransactionId]?
    s.customers[case.customerId]? (s.attemptsOf caseId).length with _ | recommendation
  · exact .of_throw fun _ h => by cases h
  have hfinish : ∀ (t : Store) (decisionId : UUID), Keeps A t (do
      modify fun s => s.modifyCase caseId fun c =>
        { c with
          metadataJson :=
            Dict.set c.metadataJson "latest_recommendation" (.obj recommendation.auditPayload) }
      return decisionId : Service UUID) :=
    fun t _ => .modify_bind (.setCase t caseId _ fun c _ =>
      ⟨⟨rfl, rfl, rfl, .inl rfl⟩, .inl, .inr (Dict.lookup_set_other _ _ (by decide))⟩) (.of_pure _)
  refine .bind (insertDecision_keeps _) fun decisionId t ht _ => ?_
  refine .bind (record_keeps ..) fun _ u hu _ => ?_
  refine .ite (fun hdetected => ?_) fun _ => hfinish u decisionId
  have hcase' : u.recoveryCases[caseId]? = some case := by
    obtain ⟨row, rfl⟩ := insertAudit_ok hu
    cases ht
    exact hcase
  exact .bind (advance_keeps hcase' hdetected hflush) fun _ v _ _ => hfinish v decisionId

end IntelligenceOrchestrator

/-! ## Policy decisions -/

namespace PolicyEngineService

theorem escalation_mem_ruleResults {env : Env} {config : PolicyConfig}
    {request : PolicyEvaluationRequest} {case : RecoveryCase} {recommendation : AgentDecision}
    {proposedAction : ActionType} {results : List RuleCheckResult}
    (h : ruleResults env config s request case recommendation proposedAction = .ok results) :
    escalation config s request.caseId case recommendation ∈ results := by
  unfold ruleResults at h
  obtain ⟨consent, -, h⟩ := Except.bind_eq_ok.mp h
  obtain ⟨retry, -, h⟩ := Except.bind_eq_ok.mp h
  cases h
  simp

/-- An approval stands for an exposure below the high-value threshold. -/
theorem newDecision_approvable {env : Env} {config : PolicyConfig}
    {request : PolicyEvaluationRequest} {case : RecoveryCase} {recommendation : AgentDecision}
    {proposedAction : ActionType} {results : List RuleCheckResult}
    (hcase : s.recoveryCases[request.caseId]? = some case)
    (h : ruleResults env config s request case recommendation proposedAction = .ok results) :
    Approvable config s (newDecision env config request case proposedAction results) := by
  unfold Approvable
  intro happroved
  have hstatus : (aggregateDecision results).1 = .APPROVED := happroved
  refine ⟨case, hcase, fun txn htxn => ?_⟩
  have hpassed := aggregateDecision_approved hstatus (escalation_mem_ruleResults h)
  unfold escalation at hpassed
  have htrigger : triggerTransaction s case = some txn := htxn
  rw [htrigger] at hpassed
  exact (EscalationEvaluator.of_passed hpassed).2.2.1

theorem consent_namesDefect (actionType : ActionType) (customerId : UUID)
    (consents : List CustomerConsent) (merchantId : Json) (communicationChannel : Option String)
    (evaluationTime : Datetime) :
    NamesDefect (ConsentValidator.evaluate actionType customerId consents merchantId
      communicationChannel evaluationTime) := by
  unfold ConsentValidator.evaluate
  split
  · exact .of_ok _
  dsimp only
  split
  · exact .of_ok _
  split
  · exact .of_ok _
  split
  · exact .of_ok _
  split
  · exact .of_error fun _ h => by cases h
  split <;> exact .of_ok _

theorem retryLimit_namesDefect (actionType : ActionType) (attempts : List RecoveryAttempt)
    (config : PolicyConfig) (currentTime : Datetime)
    (proposedIdempotencyKey failureCategory : Option String) :
    NamesDefect (RetryLimitEvaluator.evaluate actionType attempts config currentTime
      proposedIdempotencyKey failureCategory) := by
  have hlatest : ∀ prior, NamesDefect (RetryLimitEvaluator.latestTime prior) := by
    intro prior
    unfold RetryLimitEvaluator.latestTime
    split
    · exact .of_error fun _ h => by cases h
    · exact .of_ok _
  unfold RetryLimitEvaluator.evaluate
  dsimp only
  split
  · exact .of_ok _
  split
  · exact .of_ok _
  split
  · exact .of_ok _
  split
  · exact .of_ok _
  split
  · exact .of_ok _
  split
  · exact .of_ok _
  split
  · exact .of_ok _
  refine .bind (hlatest _) fun latest => ?_
  rcases latest with _ | latest
  · exact .of_ok _
  dsimp only
  split <;> exact .of_ok _

theorem textItem_namesDefect (r : Dict) (key : String) : NamesDefect (textItem r key) := by
  unfold textItem
  split
  · exact .of_ok _
  · exact .of_error fun _ h => by cases h
  · exact .of_error fun _ h => by cases h

theorem decodeRule_namesDefect (value : Json) : NamesDefect (decodeRule value) := by
  cases value with
  | obj r =>
    refine .bind (textItem_namesDefect ..) fun _ => .bind (textItem_namesDefect ..) fun text => ?_
    split
    · exact .of_error fun _ h => by cases h
    · refine .bind (textItem_namesDefect ..) fun _ => .bind (textItem_namesDefect ..) fun _ => ?_
      split
      · exact .of_ok _
      · exact .of_error fun _ h => by cases h
  | _ => exact .of_error fun _ h => by cases h

theorem toEvaluationResult_namesDefect (record : PolicyDecision) :
    NamesDefect (toEvaluationResult record) := by
  have hrows : ∀ rows : List Json, NamesDefect (rows.mapM decodeRule) := by
    intro rows
    induction rows with
    | nil => exact .of_ok _
    | cons row rows ih =>
      rw [List.mapM_cons]
      exact .bind (decodeRule_namesDefect row) fun _ => .bind ih fun _ => .of_ok _
  exact .bind (hrows _) fun _ => .of_ok _

theorem ruleResults_namesDefect (env : Env) (config : PolicyConfig)
    (request : PolicyEvaluationRequest) (case : RecoveryCase) (recommendation : AgentDecision)
    (proposedAction : ActionType) :
    NamesDefect (ruleResults env config s request case recommendation proposedAction) := by
  unfold ruleResults
  refine .bind ?_ fun consent => .bind ?_ fun retry => .of_ok _
  · exact consent_namesDefect ..
  · exact retryLimit_namesDefect ..

/-- The policy moves no case that is recovered, stopped or closed, and recovers none. -/
theorem determineFsmTransition_live {status : PolicyDecisionStatus}
    {state toState : RecoveryCaseState} {reasons : List String}
    (h : determineFsmTransition status state reasons = some toState) :
    state.isTerminal = false ∧ toState ≠ .RECOVERED := by
  cases status with
  | APPROVED =>
    simp only [determineFsmTransition] at h
    split at h <;> cases h
    next hstate => exact ⟨by revert hstate; cases state <;> decide, by decide⟩
  | REQUIRES_REVIEW =>
    simp only [determineFsmTransition] at h
    split at h <;> cases h
    next hstate => exact ⟨by revert hstate; cases state <;> decide, by decide⟩
  | REJECTED =>
    simp only [determineFsmTransition] at h
    split at h <;> cases h
    next hstate =>
      refine ⟨?_, by decide⟩
      have hopen := hstate.2
      revert hopen
      cases state <;> decide
  | INSUFFICIENT_INFORMATION => cases h

theorem synchronizeCase_keeps {env : Env} {request : PolicyEvaluationRequest}
    {case : RecoveryCase} {reasons : List String} {toState : RecoveryCaseState}
    (hcase : s.recoveryCases[request.caseId]? = some case) (hlive : case.state.isTerminal = false)
    (htarget : toState ≠ .RECOVERED) :
    Keeps A s (synchronizeCase env request case reasons toState) := by
  have hstep : ∀ c, s.recoveryCases[request.caseId]? = some c →
      CaseStep (A.recovers request.caseId) A.counts c (applyTransition env toState c) := by
    intro c hc
    rw [hcase, Option.some.injEq] at hc
    subst hc
    exact ⟨⟨rfl, rfl, rfl, .inr (.inl hlive)⟩, fun h => absurd h htarget, .inr rfl⟩
  exact .modify_bind (.setCase s _ _ hstep)
    (.get_bind (insertTransition_keeps (lt_modifyCase hcase _)))

theorem persist_keeps {env : Env} {request : PolicyEvaluationRequest} {case : RecoveryCase}
    {decision : PolicyDecision} (hcase : s.recoveryCases[request.caseId]? = some case)
    (hdecides : A.decides decision.caseId) (happrovable : Approvable A.config s decision) :
    Keeps A s (persist env request case decision) := by
  refine .bind (insertPolicyDecision_keeps hdecides happrovable) fun _ t ht _ => ?_
  refine .modify_bind (.setDecision t _ _ fun _ => rfl) ?_
  refine .ite (fun hmoves => ?_) fun _ => record_keeps ..
  have hcase' : t.recoveryCases[request.caseId]? = some case := by
    cases ht
    exact hcase
  have hmove : determineFsmTransition decision.decisionStatus case.state decision.reasonsJson =
      some (stateAfter decision.decisionStatus case decision.reasonsJson) := by
    unfold stateAfter at hmoves ⊢
    rcases hfsm : determineFsmTransition decision.decisionStatus case.state decision.reasonsJson
      with _ | toState
    · rw [hfsm] at hmoves
      exact absurd rfl hmoves
    · rfl
  have hlive := determineFsmTransition_live hmove
  exact .bind (synchronizeCase_keeps hcase' hlive.1 hlive.2) fun _ _ _ _ => record_keeps ..

theorem evaluate_keeps {env : Env} {request : PolicyEvaluationRequest}
    (hdecides : A.decides request.caseId) : Keeps A s (evaluate env A.config request) := by
  refine .get_bind ?_
  rcases replayed s request with _ | record
  case some =>
    dsimp only
    rcases hresult : toEvaluationResult record with fault | result
    · exact .of_throw ((toEvaluationResult_namesDefect record).unaborted hresult)
    · exact .of_pure _
  dsimp only
  rcases hcase : s.recoveryCases[request.caseId]? with _ | case
  · exact .of_pure _
  rcases s.decisions[request.recommendationId]? with _ | recommendation
  · exact .of_pure _
  dsimp only
  rcases hresults : ruleResults env A.config s request case recommendation
    (request.proposedAction.getD recommendation.actionType) with fault | results
  · exact .of_throw ((ruleResults_namesDefect ..).unaborted hresults)
  refine .bind (persist_keeps hcase hdecides ?_) fun _ _ _ _ => .of_pure _
  exact newDecision_approvable hcase hresults

end PolicyEngineService

/-! ## Workflow creation -/

namespace WorkflowCreationService

theorem createWorkflowForDecision_keeps {env : Env} {decisionId : UUID}
    {cooldownHours maxWorkflowHours : ℤ} (hcreates : A.creates decisionId) :
    Keeps A s (createWorkflowForDecision env decisionId cooldownHours maxWorkflowHours) := by
  refine .get_bind ?_
  rcases hdecision : s.policyDecisions[decisionId]? with _ | decision
  · exact .of_throw fun _ h => by cases h
  refine .ite (fun _ => .of_throw fun _ h => by cases h) fun happroved => ?_
  rcases s.recoveryCases[decision.caseId]? with _ | case
  · exact .of_throw fun _ h => by cases h
  refine .ite (fun _ => .of_throw fun _ h => by cases h) fun _ => ?_
  rcases s.activeWorkflow decision.caseId with _ | ⟨activeId, active⟩
  · refine insertWorkflow_keeps hcreates ⟨decision, cooldownHours, hdecision, ?_, rfl, rfl⟩
    exact not_not.mp happroved
  · exact .of_throw fun _ h => by cases h

/-- A workflow may be built on a decision. -/
structure Buildable (s : Store) (decisionId : UUID) (decision : PolicyDecision) : Prop where
  decisionRow : s.policyDecisions[decisionId]? = some decision
  approved : decision.decisionStatus = .APPROVED
  actionPending : ∃ case, s.recoveryCases[decision.caseId]? = some case ∧
    case.state = .ACTION_PENDING
  inactive : s.activeWorkflow decision.caseId = none

/-- What is built is one more workflow on the decision. -/
theorem createWorkflowForDecision_ok {env : Env} {decisionId workflowId : UUID}
    {cooldownHours maxWorkflowHours : ℤ} {t : Store}
    (h : createWorkflowForDecision env decisionId cooldownHours maxWorkflowHours s =
      .ok (workflowId, t)) :
    ∃ decision, Buildable s decisionId decision ∧
      t = { s with workflows := s.workflows ++ [newWorkflow env s.workflows.length decisionId
        decision cooldownHours maxWorkflowHours] } := by
  unfold createWorkflowForDecision at h
  rw [Tx.get_bind_apply] at h
  rcases hdecision : s.policyDecisions[decisionId]? with _ | decision
  · rw [hdecision] at h
    cases h
  rw [hdecision] at h
  dsimp only at h
  by_cases happroved : decision.decisionStatus = .APPROVED
  swap
  · rw [if_pos happroved] at h
    cases h
  rw [if_neg (not_not.mpr happroved)] at h
  rcases hcase : s.recoveryCases[decision.caseId]? with _ | case
  · rw [hcase] at h
    cases h
  rw [hcase] at h
  dsimp only at h
  by_cases hpending : case.state = .ACTION_PENDING
  swap
  · rw [if_pos hpending] at h
    cases h
  rw [if_neg (not_not.mpr hpending)] at h
  rcases hactive : s.activeWorkflow decision.caseId with _ | ⟨activeId, active⟩
  swap
  · rw [hactive] at h
    cases h
  rw [hactive] at h
  dsimp only at h
  rw [insertWorkflow_apply] at h
  split at h
  · cases h
  cases h
  exact ⟨decision, ⟨hdecision, happroved, ⟨case, hcase, hpending⟩, hactive⟩, rfl⟩

end WorkflowCreationService

/-! ## Reconciliation -/

namespace PaymentReconciliationService

/-- The transition that a reconciliation asks `CaseTransitionService` for, if any. -/
def requestedTransition (autoResolve : Bool) (case : RecoveryCase) (txn : Transaction)
    (providerStatus : ExecutionStatus) : Option RecoveryCaseState :=
  if autoResolve then
    if txn.status ∈ [TransactionStatus.FAILED, .PENDING] ∧ providerStatus = .SUCCEEDED then
      if case.state = .VERIFICATION_PENDING then some .RECOVERED else none
    else if txn.status = .PENDING ∧ providerStatus = .FAILED then
      if case.state = .VERIFICATION_PENDING then some .RETRY_ELIGIBLE else none
    else if providerStatus = .UNKNOWN ∧ case.state ∉ [RecoveryCaseState.ESCALATED, .CLOSED] then
      some .ESCALATED
    else none
  else none

/-- A reconciliation moves the case to `RECOVERED`. -/
def Settles (autoResolve : Bool) (case : RecoveryCase) (txn : Transaction)
    (providerStatus : ExecutionStatus) : Prop :=
  autoResolve = true ∧ txn.status ∈ [TransactionStatus.FAILED, .PENDING] ∧
    providerStatus = .SUCCEEDED ∧ case.state ∉ [RecoveryCaseState.RECOVERED, .CLOSED]

theorem resolveToSucceeded_keeps {env : Env} {caseId : UUID} {case : RecoveryCase}
    (hcase : s.recoveryCases[caseId]? = some case)
    (hrecovers : case.state ∉ [RecoveryCaseState.RECOVERED, .CLOSED] → A.recovers caseId)
    (hnumbered : A.numbered → case.state = .VERIFICATION_PENDING →
      CaseTransitionService.CountersAgree s caseId .RECOVERED) :
    Keeps A s (resolveToSucceeded env caseId case) := by
  refine .modify_bind (.setTransaction s _ _ fun t _ => ⟨rfl, rfl, rfl, rfl, rfl, fun _ => rfl⟩) ?_
  refine .ite (fun hopen => ?_) fun _ => .of_pure _
  refine .ite (fun hverifying => ?_) fun _ => .of_modify (.setCase _ caseId _ ?_)
  · refine .bind (CaseTransitionService.transition_keeps ?_ fun hn => ?_) fun _ _ _ _ => .of_pure _
    · exact fun _ _ _ _ => hrecovers hopen
    · exact hnumbered hn hverifying
  · intro c hc
    have hsame : c = case := Option.some.inj (hc.symm.trans hcase)
    subst hsame
    have hmove : MayMove c.state .RECOVERED := by
      revert hopen
      cases c.state <;> decide
    exact ⟨⟨rfl, rfl, rfl, .inr hmove⟩, fun _ => .inr (hrecovers hopen), .inr rfl⟩

theorem resolveToFailed_keeps {env : Env} {caseId : UUID} {case : RecoveryCase} {txn : Transaction}
    (htxn : s.transactions[case.triggerTransactionId]? = some txn)
    (hpending : txn.status = .PENDING)
    (hnumbered : A.numbered → case.state = .VERIFICATION_PENDING →
      CaseTransitionService.CountersAgree s caseId .RETRY_ELIGIBLE) :
    Keeps A s (resolveToFailed env caseId case) := by
  refine .modify_bind (.setTransaction s _ _ fun t ht => ?_) ?_
  · have hsame : t = txn := Option.some.inj (ht.symm.trans htxn)
    subst hsame
    refine ⟨rfl, rfl, rfl, rfl, rfl, fun h => ?_⟩
    rw [hpending] at h
    cases h
  refine .ite (fun hverifying => ?_) fun _ => .of_pure _
  refine .bind (CaseTransitionService.transition_keeps ?_ fun hn => ?_) fun _ _ _ _ => .of_pure _
  · exact fun _ _ _ h => by cases h
  · exact hnumbered hn hverifying

theorem compareAndResolve_keeps {env : Env} {autoResolve : Bool} {caseId : UUID}
    {case : RecoveryCase} {txn : Transaction} {providerStatus : ExecutionStatus}
    (hcase : s.recoveryCases[caseId]? = some case)
    (htxn : s.transactions[case.triggerTransactionId]? = some txn)
    (hrecovers : Settles autoResolve case txn providerStatus → A.recovers caseId)
    (hnumbered : A.numbered → ∀ toState,
      requestedTransition autoResolve case txn providerStatus = some toState →
      CaseTransitionService.CountersAgree s caseId toState) :
    Keeps A s (compareAndResolve env autoResolve caseId case txn providerStatus) := by
  unfold compareAndResolve
  refine .ite (fun hsucceeded => ?_) fun hnot => .ite (fun hfailed => ?_) fun hnot' =>
    .ite (fun hunknown => ?_) fun _ => .of_pure _
  · refine .ite (fun hauto => ?_) fun _ => .of_pure _
    refine .bind (resolveToSucceeded_keeps hcase ?_ fun hn hverifying => ?_) fun _ _ _ _ =>
      .of_pure _
    · exact fun hopen => hrecovers ⟨hauto, hsucceeded.1, hsucceeded.2, hopen⟩
    · apply hnumbered hn
      simp only [requestedTransition, hauto, if_true, if_pos hsucceeded, if_pos hverifying]
  · refine .ite (fun hauto => ?_) fun _ => .of_pure _
    refine .bind (resolveToFailed_keeps htxn hfailed.1 fun hn hverifying => ?_) fun _ _ _ _ =>
      .of_pure _
    apply hnumbered hn
    simp only [requestedTransition, hauto, if_true, if_neg hnot, if_pos hfailed, if_pos hverifying]
  · refine .ite (fun hauto => ?_) fun _ => .of_pure _
    refine .bind (CaseTransitionService.transition_keeps ?_ fun hn => ?_) fun _ _ _ _ => .of_pure _
    · exact fun _ _ _ h => by cases h
    · apply hnumbered hn
      simp only [requestedTransition, hauto.1, if_true, if_neg hnot, if_neg hnot',
        if_pos (And.intro hunknown hauto.2)]

/-- Counting the records and looking for the highest number agree in a dense log. -/
theorem recordReconciled_keeps {env : Env} {caseId : UUID}
    (hdense : A.numbered → Numbering.Dense (s.auditNumbers caseId)) :
    Keeps A s (recordReconciled env caseId) := by
  refine .get_bind (insertAudit_keeps fun hn => ?_)
  have hnext := (hdense hn).next_eq
  unfold Store.nextAuditNumber
  rw [hnext, Store.auditNumbers, List.length_map]

theorem providerStatusOf_namesDefect (provider : StatusProvider) (providerRef : Option String) :
    NamesDefect (providerStatusOf provider providerRef) := by
  unfold providerStatusOf
  rcases providerRef with _ | ref
  · exact .of_ok _
  dsimp only
  split
  · exact .of_ok _
  · exact .of_error fun _ h => by cases h

/-- The case, the transaction and the answer that a reconciliation compares. -/
def Compares (provider : StatusProvider) (s : Store) (caseId : UUID) (case : RecoveryCase)
    (txn : Transaction) (providerStatus : ExecutionStatus) : Prop :=
  s.recoveryCases[caseId]? = some case ∧
    s.transactions[case.triggerTransactionId]? = some txn ∧
    providerStatusOf provider (providerReference s caseId txn) = .ok providerStatus

theorem reconcileCase_keeps {env : Env} {provider : StatusProvider} {autoResolve : Bool}
    {caseId : UUID}
    (hrecovers : ∀ case txn providerStatus, Compares provider s caseId case txn providerStatus →
      Settles autoResolve case txn providerStatus → A.recovers caseId)
    (hnumbered : A.numbered → AuditLogsDense s ∧ ∀ case txn providerStatus toState,
      Compares provider s caseId case txn providerStatus →
      requestedTransition autoResolve case txn providerStatus = some toState →
      CaseTransitionService.CountersAgree s caseId toState) :
    Keeps A s (reconcileCase env provider autoResolve caseId) := by
  refine .get_bind ?_
  rcases hcase : s.recoveryCases[caseId]? with _ | case
  · exact .of_throw fun _ h => by cases h
  dsimp only
  rcases htxn : s.transactions[case.triggerTransactionId]? with _ | txn
  · exact .of_throw fun _ h => by cases h
  dsimp only
  rcases hanswer : providerStatusOf provider (providerReference s caseId txn)
    with fault | providerStatus
  · exact .of_throw ((providerStatusOf_namesDefect ..).unaborted hanswer)
  have hcompares : Compares provider s caseId case txn providerStatus := ⟨hcase, htxn, hanswer⟩
  refine .bind (compareAndResolve_keeps hcase htxn (hrecovers _ _ _ hcompares) fun hn toState => ?_)
    fun found t _ hw => ?_
  · exact (hnumbered hn).2 case txn providerStatus toState hcompares
  refine .bind (recordReconciled_keeps fun hn => ?_) fun _ _ _ _ => .get_bind (.of_pure _)
  exact hw.auditLogsDense hn (hnumbered hn).1 caseId

end PaymentReconciliationService

/-! ## The authority of an operation -/

/-- The operation moves the case to `RECOVERED` when it is carried out on these rows. -/
def Operation.Recovers (s : Store) (caseId : UUID) : Operation → Prop
  | .processEvent event | .ingestEvent event _ _ =>
    EventToCaseEngine.cleanType event ∈ EventToCaseEngine.CASE_RESOLUTION_EVENTS ∧
      ∃ case, EventToCaseEngine.matchedCase s event = some (caseId, case) ∧
        case.state.isTerminal = false
  | .transitionState id dto =>
    id = caseId ∧ dto.toState = .RECOVERED ∧
      ∃ case, s.recoveryCases[caseId]? = some case ∧ case.state.isTerminal = false
  | .transition id toState _ _ =>
    id = caseId ∧ toState = .RECOVERED ∧
      ∃ case, s.recoveryCases[caseId]? = some case ∧
        toState ∈ CaseTransitionService.ALLOWED_TRANSITIONS case.state
  | .reconcileCase provider autoResolve id =>
    id = caseId ∧ ∃ case txn providerStatus,
      PaymentReconciliationService.Compares provider s caseId case txn providerStatus ∧
        PaymentReconciliationService.Settles autoResolve case txn providerStatus
  | _ => False

/-- The operations that may rewrite a number of failures: events, and edits of the metadata. -/
def Operation.Counts : Operation → Prop
  | .processEvent _ | .ingestEvent _ _ _ => True
  | .updateCase _ dto _ => dto.metadata.isSome = true
  | _ => False

/-- What an operation may write, as far as its arguments and the rows tell. -/
def Operation.authority (config : PolicyConfig) (numbered : Prop) (s : Store) (op : Operation) :
    Authority where
  config := config
  numbered := numbered
  decides := fun caseId => ∃ request, op = .evaluate request ∧ request.caseId = caseId
  recovers := fun caseId => op.Recovers s caseId
  counts := op.Counts
  creates := fun decisionId => ∃ cooldownHours maxWorkflowHours,
    op = .createWorkflow decisionId cooldownHours maxWorkflowHours
  executes := fun _ => False

/-- The operation numbers the audit log as `AuditEventRepository.record` does: its session sees
the records it has added, and a transition finds both logs at the same number. -/
def Operation.Numbered (env : Env) (s : Store) : Operation → Prop
  | .generateRecommendation _ _ => env.autoflush = true
  | .transition caseId toState _ _ => CaseTransitionService.CountersAgree s caseId toState
  | .reconcileCase provider autoResolve caseId =>
    ∀ case txn providerStatus toState,
      PaymentReconciliationService.Compares provider s caseId case txn providerStatus →
      PaymentReconciliationService.requestedTransition autoResolve case txn providerStatus =
        some toState →
      CaseTransitionService.CountersAgree s caseId toState
  | _ => True

theorem ignoringResult_keeps {α : Type} {x : Service α} (hx : Keeps A s x) :
    Keeps A s (ignoringResult x) :=
  .bind hx fun _ _ _ _ => .of_pure ()

/-- Every operation stays within its authority. -/
theorem Operation.service_keeps {config : PolicyConfig} {numbered : Prop} {env : Env}
    {op : Operation} (hdense : numbered → AuditLogsDense s)
    (hnumbered : numbered → op.Numbered env s) :
    Keeps (op.authority config numbered s) s (op.service config env) := by
  cases op with
  | createCustomer row => exact ignoringResult_keeps (CustomerService.createCustomer_keeps row)
  | updateCustomer customerId dto => exact CustomerService.updateCustomer_keeps customerId dto
  | createCustomerConsent customerId consentType status merchantId expiresAt source =>
    exact ignoringResult_keeps (createCustomerConsent_keeps ..)
  | revokeCustomerConsent consentId => exact revokeCustomerConsent_keeps env consentId
  | recordTransaction dto =>
    exact ignoringResult_keeps (TransactionService.recordTransaction_keeps env dto)
  | processEvent event =>
    refine ignoringResult_keeps (EventToCaseEngine.processEvent_keeps trivial ?_)
    exact fun hsucceeded _ case hmatch hlive => ⟨hsucceeded, case, hmatch, hlive⟩
  | ingestEvent event payloadHash signatureVerified =>
    refine ignoringResult_keeps (EventService.ingestCanonicalEvent_keeps trivial ?_)
    exact fun hsucceeded _ case hmatch hlive => ⟨hsucceeded, case, hmatch, hlive⟩
  | createCase uuid4 dto =>
    exact ignoringResult_keeps (RecoveryCaseService.createCase_keeps env uuid4 dto)
  | transitionState caseId dto =>
    refine RecoveryCaseService.transitionState_keeps ?_
    exact fun case hcase hlive htarget => ⟨rfl, htarget, case, hcase, hlive⟩
  | updateCase caseId dto actorId =>
    exact RecoveryCaseService.updateCase_keeps env caseId actorId id
  | detectAndCreateCase transactionId =>
    exact ignoringResult_keeps (RiskCaseService.detectAndCreateCase_keeps env transactionId)
  | generateRecommendation pipeline caseId =>
    exact ignoringResult_keeps (IntelligenceOrchestrator.generateRecommendation_keeps hnumbered)
  | evaluate request =>
    exact ignoringResult_keeps (PolicyEngineService.evaluate_keeps ⟨request, rfl, rfl⟩)
  | transition caseId toState reasonCode actorType =>
    refine ignoringResult_keeps (CaseTransitionService.transition_keeps ?_ hnumbered)
    exact fun case hcase hallowed htarget => ⟨rfl, htarget, case, hcase, hallowed⟩
  | createWorkflow decisionId cooldownHours maxWorkflowHours =>
    refine ignoringResult_keeps (WorkflowCreationService.createWorkflowForDecision_keeps ?_)
    exact ⟨cooldownHours, maxWorkflowHours, rfl⟩
  | reconcileCase provider autoResolve caseId =>
    refine ignoringResult_keeps (PaymentReconciliationService.reconcileCase_keeps ?_ fun hn => ?_)
    · exact fun case txn providerStatus hcompares hsettles =>
        ⟨rfl, case, txn, providerStatus, hcompares, hsettles⟩
    · exact ⟨hdense hn, hnumbered hn⟩

end RevenueRescue
