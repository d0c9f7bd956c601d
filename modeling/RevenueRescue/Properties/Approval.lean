import RevenueRescue.Properties.Retries
import RevenueRescue.Refinement.Effects
import RevenueRescue.Refinement.Rules

/-!
# What an approval stands for

An evaluation that answers `APPROVED` without repeating a stored decision found the case
actionable and the recommendation its own, the exposure below the threshold, the failure
understood, the recommendation confident, no attempt uncertain, the required consent valid
and, for a retry, the budget and the cooldown kept. It moves the case to `ACTION_PENDING`
and adds one decision and one transition.
-/

namespace RevenueRescue

open Python

/-- What the rows show before a decision may be an approval. -/
structure Authorised (config : PolicyConfig) (now : Datetime) (s : Store)
    (request : PolicyEvaluationRequest) (case : RecoveryCase) (recommendation : AgentDecision)
    (txn : Transaction) (proposedAction : ActionType) : Prop where
  actionable : case.state ∈ [RecoveryCaseState.AWAITING_DECISION, .RETRY_ELIGIBLE, .DETECTED]
  own : recommendation.caseId = request.caseId
  inForce : recommendation.validationStatus ∉
    [DecisionValidationStatus.INVALID, .REJECTED_BY_POLICY]
  belowThreshold : txn.amountMinor < config.getHighValueThreshold txn.currency.code
  understood : ∃ code, txn.failureCode = some code ∧
    lower (strip code) ∉ ["", "unknown", "unknown_failure"] ∧
    lower (strip code) ∉ EscalationEvaluator.FRAUD_CATEGORIES
  confident : ∃ confidence, recommendation.confidence = some confidence ∧ 3 / 5 ≤ confidence
  certain : ∀ a ∈ s.attemptsOf request.caseId, a.status ≠ .UNCERTAIN
  consented : ∀ requiredType, ConsentValidator.determineRequiredConsent proposedAction
      request.communicationChannel = some requiredType →
    ∃ consent ∈ s.consents, consent.customerId = case.customerId ∧
      consent.consentType = requiredType ∧ CustomerConsentRecord.isValid consent now = true
  retriable : proposedAction = .RETRY_PAYMENT →
    (RetryLimitEvaluator.consumed (s.attemptsOf request.caseId)).length < config.maxRetryAttempts ∧
      (∀ a ∈ s.attemptsOf request.caseId, a.status ≠ .STARTED ∧ a.status ≠ .SUCCEEDED) ∧
      -- the smallest time there is stands for a missing timestamp
      ∀ a ∈ RetryLimitEvaluator.consumed (s.attemptsOf request.caseId), ∀ time,
        RetryLimitEvaluator.timestamp a = some time → Datetime.minUtc.instant < time.instant →
          config.isCooldownElapsed time now = true

namespace PolicyEngineService

variable {env : Env} {config : PolicyConfig} {request : PolicyEvaluationRequest} {s t : Store}

/-- Rules that all passed show what an approval needs. -/
theorem authorised_of_passed {case : RecoveryCase} {recommendation : AgentDecision}
    {proposedAction : ActionType} {results : List RuleCheckResult}
    (h : ruleResults env config s request case recommendation proposedAction = .ok results)
    (hpassed : ∀ result ∈ results, result.status = .PASSED) :
    ∃ txn, s.transactions[case.triggerTransactionId]? = some txn ∧
      Authorised config env.now s request case recommendation txn proposedAction := by
  unfold ruleResults at h
  obtain ⟨consent, hconsent, h⟩ := Except.bind_eq_ok.mp h
  obtain ⟨retry, hretry, h⟩ := Except.bind_eq_ok.mp h
  cases h
  simp only [List.forall_mem_cons] at hpassed
  obtain ⟨heligible, hconsented, hretried, -, hescalation, -⟩ := hpassed
  obtain ⟨hown, hforce, hactionable⟩ := EligibilityEvaluator.of_passed heligible
  unfold escalation at hescalation
  obtain ⟨hfraud, hunknown, hlow, hcertain, confidence, hconfidence, hmin⟩ :=
    EscalationEvaluator.of_passed hescalation
  rcases htxn : triggerTransaction s case with _ | txn
  · -- without a transaction there is no failure code to understand
    rw [htxn] at hunknown
    exact absurd List.mem_cons_self hunknown
  rw [htxn] at hfraud hunknown hlow hretry
  rw [Option.bind_some] at hfraud hunknown hretry
  refine ⟨txn, htxn, hactionable, hown, hforce, ?_, ?_, ⟨confidence, hconfidence, hmin⟩, ?_, ?_, ?_⟩
  · exact Nat.lt_of_not_le (of_decide_eq_false hlow)
  · rcases hcode : txn.failureCode with _ | code
    · rw [hcode] at hunknown
      exact absurd List.mem_cons_self hunknown
    · rw [hcode] at hunknown hfraud
      exact ⟨code, rfl, hunknown, hfraud⟩
  · intro a ha hstatus
    have hnone := List.any_eq_false.mp hcertain a ha
    rw [hstatus] at hnone
    exact hnone rfl
  · intro requiredType hrequired
    obtain ⟨record, hin, hcustomer, htype, -, hvalid⟩ :=
      ConsentValidator.of_passed hconsented hconsent hrequired
    unfold Store.consentsOf at hin
    rw [List.mem_insertionSort, List.mem_filter] at hin
    exact ⟨record, hin.1, hcustomer, htype, hvalid⟩
  · rintro rfl
    have hpermits := RetryLimitEvaluator.permits_of_passed hretried hretry
    exact ⟨hpermits.budget, fun a ha => ⟨(hpermits.settled a ha).2.1, (hpermits.settled a ha).1⟩,
      fun a ha time htime hdated => hpermits.elapsed ha htime (.inr hdated)⟩

/-- The entry of an approval in the transition log. -/
def approvalEntry (env : Env) (s : Store) (request : PolicyEvaluationRequest)
    (case : RecoveryCase) (reasons : List String) : CaseStateTransition :=
  { caseId := request.caseId, fromState := some case.state, toState := .ACTION_PENDING
    reasonCode := reasons.headD "POLICY_EVALUATION", actorType := request.actorType
    occurredAt := env.now.naive, sequenceNumber := s.nextTransitionNumber request.caseId }

/-- What persisting an approval adds to the rows. -/
theorem persist_approved {case : RecoveryCase} {decision : PolicyDecision}
    (hstatus : decision.decisionStatus = .APPROVED)
    (hactionable : case.state ∈ [RecoveryCaseState.AWAITING_DECISION, .RETRY_ELIGIBLE, .DETECTED])
    (h : persist env request case decision s = .ok ((), t)) :
    t.recoveryCases = s.recoveryCases.modify request.caseId (applyTransition env .ACTION_PENDING) ∧
      t.transitions = s.transitions ++ [approvalEntry env s request case decision.reasonsJson] ∧
      t.policyDecisions = s.policyDecisions ++ [decision] := by
  have hafter : stateAfter decision.decisionStatus case decision.reasonsJson = .ACTION_PENDING := by
    unfold stateAfter determineFsmTransition
    rw [hstatus]
    dsimp only
    rw [if_pos hactionable]
    rfl
  have hmoves : RecoveryCaseState.ACTION_PENDING ≠ case.state := by
    rintro hsame
    rw [← hsame] at hactionable
    exact absurd hactionable (by decide)
  unfold persist at h
  dsimp only at h
  rw [hafter, if_pos hmoves] at h
  obtain ⟨id, u, hinsert, h⟩ := Tx.bind_eq_ok.mp h
  cases hinsert
  rw [Tx.modify_bind_apply] at h
  obtain ⟨_, v, hsync, h⟩ := Tx.bind_eq_ok.mp h
  unfold synchronizeCase at hsync
  rw [Tx.modify_bind_apply, Tx.get_bind_apply] at hsync
  rw [record_apply] at h
  rw [insertTransition_ok hsync] at h
  cases h
  exact ⟨rfl, rfl, rfl⟩

end PolicyEngineService

open PolicyEngineService

/-- An approval that repeats no stored decision is authorised by the rows before it, and it moves
the case to `ACTION_PENDING` with one new decision and one new transition. -/
theorem approval_is_sound {env : Env} {config : PolicyConfig} {request : PolicyEvaluationRequest}
    {s t : Store} {result : PolicyEvaluationResult} (hfresh : replayed s request = none)
    (hrun : evaluate env config request s = .ok (result, t))
    (happroved : result.decisionStatus = .APPROVED) :
    ∃ case recommendation txn, s.recoveryCases[request.caseId]? = some case ∧
      s.decisions[request.recommendationId]? = some recommendation ∧
      s.transactions[case.triggerTransactionId]? = some txn ∧
      Authorised config env.now s request case recommendation txn
        (request.proposedAction.getD recommendation.actionType) ∧
      (∃ after, t.recoveryCases[request.caseId]? = some after ∧ after.state = .ACTION_PENDING ∧
        after.version = case.version + 1) ∧
      (∃ entry, t.transitions = s.transitions ++ [entry] ∧ entry.caseId = request.caseId ∧
        entry.fromState = some case.state ∧ entry.toState = .ACTION_PENDING) ∧
      ∃ decision, t.policyDecisions = s.policyDecisions ++ [decision] ∧
        decision.caseId = request.caseId ∧ decision.decisionStatus = .APPROVED := by
  unfold evaluate at hrun
  rw [Tx.get_bind_apply, hfresh] at hrun
  dsimp only at hrun
  rcases hcase : s.recoveryCases[request.caseId]? with _ | case
  · rw [hcase] at hrun
    cases hrun
    cases happroved
  rcases hrecommendation : s.decisions[request.recommendationId]? with _ | recommendation
  · rw [hcase, hrecommendation] at hrun
    cases hrun
    cases happroved
  rw [hcase, hrecommendation] at hrun
  dsimp only at hrun
  rcases hresults : ruleResults env config s request case recommendation
    (request.proposedAction.getD recommendation.actionType) with fault | results
  · rw [hresults] at hrun
    cases hrun
  rw [hresults] at hrun
  obtain ⟨_, u, hpersist, hrun⟩ := Tx.bind_eq_ok.mp hrun
  cases hrun
  have hstatus : (aggregateDecision results).1 = .APPROVED := happroved
  obtain ⟨txn, htxn, hauthorised⟩ := authorised_of_passed hresults
    fun result hresult => aggregateDecision_approved hstatus hresult
  have hnew : (newDecision env config request case
      (request.proposedAction.getD recommendation.actionType) results).decisionStatus =
        .APPROVED := hstatus
  obtain ⟨hcases, htransitions, hdecisions⟩ :=
    persist_approved hnew hauthorised.actionable hpersist
  refine ⟨case, recommendation, txn, rfl, rfl, htxn, hauthorised, ?_, ?_, ?_⟩
  · refine ⟨applyTransition env .ACTION_PENDING case, ?_, rfl, rfl⟩
    rw [hcases, List.getElem?_modify_eq, hcase]
    rfl
  · exact ⟨_, htransitions, rfl, rfl, rfl⟩
  · exact ⟨_, hdecisions, rfl, hstatus⟩

/-- The retry of a payment of fifty rupees is approved on a consent for recurring billing. -/
theorem approval_is_sound_retry :
    let s := (World.empty.run .default [Sample.failure, Sample.consented, Sample.recommended]).db
    ∃ case : RecoveryCase, ∃ txn, s.transactions[0]? = some txn ∧ txn.amountMinor < 100000 ∧
      ∃ consent ∈ s.consents, consent.customerId = case.customerId ∧
        consent.consentType = .RECURRING_BILLING ∧
        CustomerConsentRecord.isValid consent Sample.noon = true := by
  intro s
  have hstatus : ((evaluate Sample.env .default ⟨0, 0, none, .SYSTEM, none, none⟩ s).map
      fun r => r.1.decisionStatus).toOption = some .APPROVED := by
    decide +kernel
  have hrows : s.recoveryCases[0]?.map RecoveryCase.triggerTransactionId = some 0 ∧
      s.transactions[0]?.map (fun t => t.currency.code) = some "INR" ∧
      s.decisions[0]?.map AgentDecision.actionType = some .RETRY_PAYMENT := by
    decide +kernel
  rcases hrun : evaluate Sample.env .default ⟨0, 0, none, .SYSTEM, none, none⟩ s
    with fault | ⟨result, t⟩
  · rw [hrun] at hstatus
    cases hstatus
  rw [hrun] at hstatus
  obtain ⟨case, recommendation, txn, hcase, hrecommendation, htxn, hauthorised, -⟩ :=
    approval_is_sound rfl hrun (Option.some.inj hstatus)
  rw [hcase, hrecommendation, Option.map_some, Option.map_some] at hrows
  obtain ⟨htrigger, hcurrency, haction⟩ := hrows
  rw [Option.some.inj htrigger] at htxn
  rw [htxn, Option.map_some] at hcurrency
  have hlow := hauthorised.belowThreshold
  rw [Option.some.inj hcurrency] at hlow
  refine ⟨case, txn, htxn, hlow, hauthorised.consented .RECURRING_BILLING ?_⟩
  rw [Option.some.inj haction]
  rfl

end RevenueRescue
