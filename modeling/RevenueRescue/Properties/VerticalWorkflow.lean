import RevenueRescue.Properties.History
import RevenueRescue.Refinement.Walks
import RevenueRescue.Workflows.Vertical

/-!
# Uncertain attempts in the vertical workflow

`SafetyPolicy` escalates a retry whose case has an attempt of uncertain outcome, when it is told of
one. The vertical workflow never tells it: the flag of the context keeps its default. A retry is
escalated all the same when the attempts have used up the budget, and otherwise the case goes on
to `ACTION_PENDING`.
-/

namespace RevenueRescue

open Python

namespace Safety.SafetyPolicy

variable {policy : SafetyPolicy} {context : PolicyContext}

/-- A permitted retry of a case that awaits its decision. -/
structure ProposesRetry (policy : SafetyPolicy) (context : PolicyContext) : Prop where
  state : context.caseState = .AWAITING_DECISION
  action : context.action = .RETRY_PAYMENT
  permitted : ActionType.RETRY_PAYMENT ∈ policy.config.allowedActions
  keyed : truthy context.idempotencyKey = true
  unused : context.priorIdempotencyKeys = []

/-- The verdicts on a permitted retry. -/
theorem evaluate_retry (h : ProposesRetry policy context) :
    policy.evaluate context =
      if context.transactionStatus = .SUCCEEDED then policy.stop .TRANSACTION_ALREADY_SUCCEEDED
      else if policy.config.maxRetryAttempts ≤ context.retryAttemptCount then
        policy.escalate .RETRY_LIMIT_REACHED
      else if context.hasUncertainAttempt then
        policy.escalate .UNCERTAIN_OUTCOME_REQUIRES_VERIFICATION
      else
        { outcome := .ALLOW, reason := .ALLOWED, policyVersion := policy.config.policyVersion
          retryAllowed := true } := by
  have hopen : context.caseState ∉ TERMINAL_STATES := by
    rw [h.state]
    decide
  have hactionable : context.caseState ∈ ACTIONABLE_STATES := by
    rw [h.state]
    decide
  have hpermitted : context.action ∈ policy.config.allowedActions := h.action ▸ h.permitted
  have hfresh : context.idempotencyKey.any context.priorIdempotencyKeys.contains = false := by
    rw [h.unused]
    cases context.idempotencyKey <;> rfl
  unfold evaluate
  simp only [if_neg hopen, h.action, hactionable, h.keyed, hfresh, h.action ▸ hpermitted,
    not_true_eq_false, and_false, if_false, true_and, decide_true, Bool.true_eq_false,
    Bool.false_eq_true]

end Safety.SafetyPolicy

namespace VerticalRecoveryWorkflow

variable {env : Env} {workflow : VerticalRecoveryWorkflow} {s t u : Store} {case : RecoveryCase}
  {request : VerticalRequest} {decision : ValidatedAgentDecision} {result : VerticalWorkflowResult}
  {path : List RecoveryCaseState}

/-! ## What the run reads -/

/-- The brain decides from the number of attempts, whatever else was written. -/
theorem decision_congr (h : t.attempts = s.attempts) :
    workflow.decision t request = workflow.decision s request := by
  unfold VerticalRecoveryWorkflow.decision observation attemptCount Store.attemptsOf
  rw [h]

theorem policyContext_congr (h : t.attempts = s.attempts) :
    policyContext t request decision = policyContext s request decision := by
  unfold policyContext idempotencyKey attemptCount Store.attemptsOf
  rw [h]

/-- The brain only decides for actions that the policy permits. -/
theorem permitted_of_decision (h : workflow.decision s request = .ok decision) :
    decision.action ∈ workflow.policy.config.allowedActions := by
  obtain ⟨observed, hobserved, h⟩ := Except.bind_eq_ok.mp h
  obtain ⟨answer, hanswer, h⟩ := Except.bind_eq_ok.mp h
  cases h
  have hactions : observed.allowedActions = workflow.policy.config.allowedActions := by
    unfold observation at hobserved
    dsimp only at hobserved
    split at hobserved
    · cases hobserved
      rfl
    · cases hobserved
  rw [← hactions]
  exact (AgentBrain.permitted_of_reason hanswer).2

theorem truthy_idempotencyKey (s : Store) (caseId : UUID) :
    truthy (some (idempotencyKey s caseId)) = true := by
  have hlength : 10 ≤ (idempotencyKey s caseId).length := by
    have hmark : ":workflow:".length = 10 := by decide
    unfold idempotencyKey
    rw [String.length_append, String.length_append, hmark]
    omega
  have hkey : idempotencyKey s caseId ≠ "" := by
    intro h
    rw [h] at hlength
    exact absurd hlength (by decide)
  unfold truthy
  rw [Option.any_some, decide_eq_true_eq]
  exact hkey

/-- The context that the workflow builds for a retry, with or without an uncertain attempt. -/
theorem proposesRetry (hdecision : workflow.decision s request = .ok decision)
    (hretry : decision.action = .RETRY_PAYMENT) (uncertain : Bool) :
    workflow.policy.ProposesRetry
      { policyContext s request decision with hasUncertainAttempt := uncertain } :=
  { state := rfl
    action := hretry
    permitted := hretry ▸ permitted_of_decision hdecision
    keyed := truthy_idempotencyKey s request.caseId
    unused := rfl }

/-! ## What the run writes -/

/-- Where a refused case goes. -/
def refusedState (policy : Safety.PolicyDecision) : RecoveryCaseState :=
  if policy.shouldEscalate then .ESCALATED else .STOPPED

theorem refuse_walked {policy : Safety.PolicyDecision}
    (h : Walked s request.caseId path .AWAITING_DECISION t)
    (hrun : refuse env request decision policy t = .ok (result, u)) :
    Walked s request.caseId (path ++ [refusedState policy]) (refusedState policy) u := by
  obtain ⟨moved, v, hmove, hrun⟩ := Tx.bind_eq_ok.mp hrun
  cases hrun
  exact (h.of_transition hmove).1

theorem act_walked {policy : Safety.PolicyDecision}
    (h : Walked s request.caseId path .AWAITING_DECISION t)
    (hrun : act env workflow case request decision policy t = .ok (result, u)) :
    Walked s request.caseId (path ++ [.ACTION_PENDING] ++ [.VERIFICATION_PENDING])
      .VERIFICATION_PENDING u := by
  obtain ⟨moved, v, hmove, hrun⟩ := Tx.bind_eq_ok.mp hrun
  have hpending := (h.of_transition hmove).1
  rw [Tx.get_bind_apply] at hrun
  obtain ⟨attemptId, w, hinsert, hrun⟩ := Tx.bind_eq_ok.mp hrun
  obtain ⟨-, rfl⟩ := insertAttempt_ok hinsert
  have hplanned := hpending.of_same (u := { v with
    attempts := v.attempts ++ [plannedAttempt env v request.caseId decision] }) rfl rfl rfl
  generalize workflow.tools.execute _ _ _ = answer at hrun
  cases answer with
  | error fault => cases hrun
  | ok output =>
    obtain ⟨moved, x, hmove, hrun⟩ := Tx.bind_eq_ok.mp hrun
    cases hrun
    exact (hplanned.of_transition hmove).1

/-- The path of a run that ends normally, by the verdict on its decision. -/
structure Ran (workflow : VerticalRecoveryWorkflow) (s : Store) (request : VerticalRequest)
    (t : Store) (decision : ValidatedAgentDecision) : Prop where
  held : holdsBack (workflow.policy.evaluate (policyContext s request decision)) = true →
    let state := refusedState (workflow.policy.evaluate (policyContext s request decision))
    Walked s request.caseId [.CONTEXT_READY, .AWAITING_DECISION, state] state t
  acted : holdsBack (workflow.policy.evaluate (policyContext s request decision)) = false →
    Walked s request.caseId
      [.CONTEXT_READY, .AWAITING_DECISION, .ACTION_PENDING, .VERIFICATION_PENDING]
      .VERIFICATION_PENDING t

/-- Every run that ends normally takes one of the two paths. -/
theorem ran_of_run (hcase : s.recoveryCases[request.caseId]? = some case)
    (hdetected : case.state = .DETECTED) (hdecision : workflow.decision s request = .ok decision)
    (hrun : run env workflow case request s = .ok (result, t)) :
    Ran workflow s request t decision := by
  have hstart : Walked s request.caseId [] .DETECTED s := hdetected ▸ Walked.start hcase
  obtain ⟨ready, u, hready, hrun⟩ := Tx.bind_eq_ok.mp hrun
  obtain ⟨hready, hattempts⟩ := hstart.of_transition hready
  obtain ⟨waiting, v, hwaiting, hrun⟩ := Tx.bind_eq_ok.mp hrun
  obtain ⟨hwaiting, hattempts'⟩ := hready.of_transition hwaiting
  have hsame : v.attempts = s.attempts := hattempts'.trans hattempts
  unfold conclude at hrun
  rw [Tx.get_bind_apply, decision_congr hsame, hdecision] at hrun
  dsimp only at hrun
  obtain ⟨decisionId, w, hinsert, hrun⟩ := Tx.bind_eq_ok.mp hrun
  cases hinsert
  rw [policyContext_congr hsame] at hrun
  have hrecorded := hwaiting.of_same (u := { v with
    decisions := v.decisions ++ [decisionRecord v request.caseId decision] }) rfl rfl rfl
  refine ⟨fun hheld => ?_, fun hheld => ?_⟩
  · rw [if_pos hheld] at hrun
    exact refuse_walked hrecorded hrun
  · rw [if_neg (by rw [hheld]; decide)] at hrun
    exact act_walked hrecorded hrun

theorem refuse_ok (env : Env) (decision : ValidatedAgentDecision)
    (policy : Safety.PolicyDecision) (h : Walked s request.caseId path .AWAITING_DECISION t)
    (hfree : s.nextTransitionNumber request.caseId + path.length ∉
      s.auditNumbers request.caseId) :
    ∃ result u, refuse env request decision policy t = .ok (result, u) := by
  have hallowed : refusedState policy ∈
      CaseTransitionService.ALLOWED_TRANSITIONS .AWAITING_DECISION := by
    unfold refusedState
    split <;> decide
  obtain ⟨moved, u, hmoved⟩ := h.transition_ok env _ policy.reason.value .SYSTEM hallowed hfree
  exact ⟨_, u, Tx.bind_eq_ok.mpr ⟨moved, u, hmoved, rfl⟩⟩

theorem conclude_of_held (hsame : t.attempts = s.attempts)
    (hdecision : workflow.decision s request = .ok decision)
    (hheld : holdsBack (workflow.policy.evaluate (policyContext s request decision)) = true) :
    conclude env workflow case request t =
      refuse env request decision (workflow.policy.evaluate (policyContext s request decision))
        { t with decisions := t.decisions ++ [decisionRecord t request.caseId decision] } := by
  unfold conclude
  rw [Tx.get_bind_apply, decision_congr hsame, hdecision]
  dsimp only
  rw [policyContext_congr hsame, if_pos hheld]
  rfl

/-- A decision that the policy holds back is carried out when its three numbers are free. -/
theorem run_ok_of_held (env : Env) (hcase : s.recoveryCases[request.caseId]? = some case)
    (hdetected : case.state = .DETECTED) (hdecision : workflow.decision s request = .ok decision)
    (hheld : holdsBack (workflow.policy.evaluate (policyContext s request decision)) = true)
    (hfree : ∀ k < 3,
      s.nextTransitionNumber request.caseId + k ∉ s.auditNumbers request.caseId) :
    ∃ result t, run env workflow case request s = .ok (result, t) := by
  have hstart : Walked s request.caseId [] .DETECTED s := hdetected ▸ Walked.start hcase
  obtain ⟨ready, u, hready⟩ := hstart.transition_ok env .CONTEXT_READY "context_collected"
    .SYSTEM (by decide) (hfree 0 (by decide))
  obtain ⟨hwalked, hattempts⟩ := hstart.of_transition hready
  obtain ⟨waiting, v, hwaiting⟩ := hwalked.transition_ok env .AWAITING_DECISION
    "awaiting_bounded_agent" .SYSTEM (by decide) (hfree 1 (by decide))
  obtain ⟨hwalked, hattempts'⟩ := hwalked.of_transition hwaiting
  have hrecorded := hwalked.of_same (u := { v with
    decisions := v.decisions ++ [decisionRecord v request.caseId decision] }) rfl rfl rfl
  obtain ⟨result, w, hrefused⟩ := refuse_ok env decision
    (workflow.policy.evaluate (policyContext s request decision)) hrecorded (hfree 2 (by decide))
  rw [← conclude_of_held (hattempts'.trans hattempts) hdecision hheld] at hrefused
  exact ⟨result, w, Tx.bind_eq_ok.mpr ⟨ready, u, hready,
    Tx.bind_eq_ok.mpr ⟨waiting, v, hwaiting, hrefused⟩⟩⟩

/-! ## Uncertain attempts -/

/-- The outcome of some attempt of the case is uncertain. -/
def hasUncertainAttempt (s : Store) (caseId : UUID) : Bool :=
  (s.attemptsOf caseId).any fun attempt => attempt.status == .UNCERTAIN

/-- The verdict of the policy when it is told of the uncertain attempts. -/
def informedVerdict (workflow : VerticalRecoveryWorkflow) (s : Store) (request : VerticalRequest)
    (decision : ValidatedAgentDecision) : Safety.PolicyDecision :=
  workflow.policy.evaluate
    { policyContext s request decision with
      hasUncertainAttempt := hasUncertainAttempt s request.caseId }

/-- Between the two stores the case was moved to the state. -/
def MovedTo (caseId : UUID) (state : RecoveryCaseState) (s t : Store) : Prop :=
  ∃ entry ∈ t.transitions.drop s.transitions.length,
    entry.caseId = caseId ∧ entry.toState = state

/-- What the run commits never moved the case to `ACTION_PENDING`, and the case is escalated where
the informed policy requires it. -/
def RespectsUncertainty (env : Env) (workflow : VerticalRecoveryWorkflow) (case : RecoveryCase)
    (request : VerticalRequest) (s : Store) (decision : ValidatedAgentDecision) : Prop :=
  let t := (run env workflow case request).commit s
  ¬MovedTo request.caseId .ACTION_PENDING s t ∧
    ((informedVerdict workflow s request decision).shouldEscalate = true →
      (t.recoveryCases[request.caseId]?).map RecoveryCase.state = some .ESCALATED)

instance (caseId : UUID) (state : RecoveryCaseState) (s t : Store) :
    Decidable (MovedTo caseId state s t) := by
  unfold MovedTo; infer_instance

instance (env : Env) (workflow : VerticalRecoveryWorkflow) (case : RecoveryCase)
    (request : VerticalRequest) (s : Store) (decision : ValidatedAgentDecision) :
    Decidable (RespectsUncertainty env workflow case request s decision) := by
  unfold RespectsUncertainty; infer_instance

theorem not_movedTo_self (caseId : UUID) (state : RecoveryCaseState) (s : Store) :
    ¬MovedTo caseId state s s := by
  rintro ⟨entry, hentry, -⟩
  rw [List.drop_length] at hentry
  exact List.not_mem_nil hentry

/-- The verdict on a retry, told or not told of an uncertain attempt. -/
theorem evaluate_policyContext (hdecision : workflow.decision s request = .ok decision)
    (hretry : decision.action = .RETRY_PAYMENT) (uncertain : Bool) :
    workflow.policy.evaluate
        { policyContext s request decision with hasUncertainAttempt := uncertain } =
      if request.transaction.status = .SUCCEEDED then
        workflow.policy.stop .TRANSACTION_ALREADY_SUCCEEDED
      else if workflow.policy.config.maxRetryAttempts ≤ attemptCount s request.caseId then
        workflow.policy.escalate .RETRY_LIMIT_REACHED
      else if uncertain then
        workflow.policy.escalate .UNCERTAIN_OUTCOME_REQUIRES_VERIFICATION
      else
        { outcome := .ALLOW, reason := .ALLOWED
          policyVersion := workflow.policy.config.policyVersion, retryAllowed := true } :=
  Safety.SafetyPolicy.evaluate_retry (proposesRetry hdecision hretry uncertain)

/-- The informed policy escalates every such retry of a payment that has not succeeded. -/
theorem informed_shouldEscalate (hdecision : workflow.decision s request = .ok decision)
    (hretry : decision.action = .RETRY_PAYMENT)
    (huncertain : hasUncertainAttempt s request.caseId = true) :
    (informedVerdict workflow s request decision).shouldEscalate = true ↔
      request.transaction.status ≠ .SUCCEEDED := by
  unfold informedVerdict
  rw [evaluate_policyContext hdecision hretry, if_pos huncertain]
  by_cases hsucceeded : request.transaction.status = .SUCCEEDED
  · rw [if_pos hsucceeded]
    exact ⟨fun h => absurd h Bool.false_ne_true, fun h => absurd hsucceeded h⟩
  · rw [if_neg hsucceeded]
    refine ⟨fun _ => hsucceeded, fun _ => ?_⟩
    split <;> rfl

/-- What a run commits: nothing, or one of the two paths. -/
theorem commit_run (env : Env) (hcase : s.recoveryCases[request.caseId]? = some case)
    (hdetected : case.state = .DETECTED)
    (hdecision : workflow.decision s request = .ok decision) :
    (run env workflow case request).commit s = s ∨
      Ran workflow s request ((run env workflow case request).commit s) decision := by
  unfold Tx.commit
  rcases hrun : run env workflow case request s with fault | ⟨result, t⟩
  · exact .inl rfl
  · exact .inr (ran_of_run hcase hdetected hdecision hrun)

/-- For a retry of a case with an uncertain attempt, the run does what the policy requires exactly
when the payment has succeeded, or the attempts have used up the budget and the three numbers of
its moves are free. -/
theorem uncertainty_respected_iff (env : Env) (workflow : VerticalRecoveryWorkflow)
    (request : VerticalRequest) (s : Store) (case : RecoveryCase)
    (decision : ValidatedAgentDecision) (hcase : s.recoveryCases[request.caseId]? = some case)
    (hdetected : case.state = .DETECTED)
    (huncertain : hasUncertainAttempt s request.caseId = true)
    (hdecision : workflow.decision s request = .ok decision)
    (hretry : decision.action = .RETRY_PAYMENT) :
    RespectsUncertainty env workflow case request s decision ↔
      request.transaction.status = .SUCCEEDED ∨
        (workflow.policy.config.maxRetryAttempts ≤ attemptCount s request.caseId ∧
          ∀ k < 3,
            s.nextTransitionNumber request.caseId + k ∉ s.auditNumbers request.caseId) := by
  have hverdict : workflow.policy.evaluate (policyContext s request decision) = _ :=
    evaluate_policyContext hdecision hretry false
  have hinformed := informed_shouldEscalate hdecision hretry huncertain
  have hcommit := commit_run env hcase hdetected hdecision
  constructor
  · rintro ⟨-, hescalated⟩
    by_cases hsucceeded : request.transaction.status = .SUCCEEDED
    · exact .inl hsucceeded
    have hstate := hescalated (hinformed.mpr hsucceeded)
    rw [if_neg hsucceeded] at hverdict
    rcases hcommit with hsame | hran
    · rw [hsame, hcase, Option.map_some, hdetected] at hstate
      cases hstate
    by_cases hmax : workflow.policy.config.maxRetryAttempts ≤ attemptCount s request.caseId
    · rw [if_pos hmax] at hverdict
      exact .inr ⟨hmax, (hran.held (by rw [hverdict]; rfl)).free⟩
    · rw [if_neg hmax, if_neg Bool.false_ne_true] at hverdict
      obtain ⟨row, hrow, hpending⟩ := (hran.acted (by rw [hverdict]; rfl)).caseRow
      rw [hrow, Option.map_some, hpending] at hstate
      cases hstate
  · intro hcondition
    have hheld : holdsBack (workflow.policy.evaluate (policyContext s request decision)) = true := by
      rw [hverdict]
      rcases hcondition with hsucceeded | ⟨hmax, -⟩
      · rw [if_pos hsucceeded]
        rfl
      · rw [if_pos hmax]
        split <;> rfl
    refine ⟨?_, fun hescalates => ?_⟩
    · rcases hcommit with hsame | hran
      · rw [hsame]
        exact not_movedTo_self request.caseId .ACTION_PENDING s
      · intro hmoved
        have hmem := (hran.held hheld).mem_path.mp hmoved
        unfold refusedState at hmem
        revert hmem
        split <;> decide
    · have hsucceeded := hinformed.mp hescalates
      obtain ⟨hmax, hfree⟩ := hcondition.resolve_left hsucceeded
      obtain ⟨result, t, hrun⟩ := run_ok_of_held env hcase hdetected hdecision hheld hfree
      have hcommitted : (run env workflow case request).commit s = t := by
        unfold Tx.commit
        rw [hrun]
      have hran := ran_of_run hcase hdetected hdecision hrun
      obtain ⟨row, hrow, hstate⟩ := (hran.held hheld).caseRow
      rw [if_neg hsucceeded, if_pos hmax] at hverdict
      rw [hcommitted, hrow, Option.map_some, hstate, hverdict]
      rfl

end VerticalRecoveryWorkflow

namespace Sample

/-- A retry whose outcome is not known. -/
def uncertainAttempt (number : ℕ) : RecoveryAttempt :=
  { id := number, caseId := 0, sequenceNumber := number, status := .UNCERTAIN
    actionType := .RETRY_PAYMENT, startedAt := none, finishedAt := none, outcome := none
    providerReference := none, idempotencyKey := "retry-" ++ toString number }

/-- A detected case that was retried as often as the list says. -/
def uncertainDb (numbers : List ℕ) : Store :=
  { Store.empty with
    customers := [{ provider := "razorpay", externalCustomerId := "cust_1", email := none
                    status := .ACTIVE, metadataJson := [] }]
    transactions := [transaction .FAILED]
    recoveryCases := [case .DETECTED]
    attempts := numbers.map uncertainAttempt }

/-- The agent proposes another retry. -/
def retryProposal (caseId : UUID) : AgentDecisionOutput :=
  { caseId, action := .RETRY_PAYMENT, reasonCode := "retry", rationale := "Retry the payment."
    confidence := 1, requiresHumanReview := false, stopReason := none
    rationaleFits := by decide
    confidenceFits := by norm_num
    stopReasonFits := by simp }

def retryingWorkflow : VerticalRecoveryWorkflow :=
  ⟨⟨fun observation => .ok (retryProposal observation.caseId), "fake"⟩, ⟨{}⟩, .default⟩

def verticalRequest : VerticalRequest :=
  ⟨0, 0, transaction .FAILED, none, ["payment_failed"], "vertical-slice"⟩

/-- The proposal after its checks. -/
def retryDecision : ValidatedAgentDecision :=
  { retryProposal 0 with stopReasonGiven := by decide }

end Sample

namespace VerticalRecoveryWorkflow

/-- Two uncertain attempts use up the budget, and the case is escalated. -/
theorem uncertainty_respected_iff_exhausted :
    RespectsUncertainty Sample.env Sample.retryingWorkflow (Sample.case .DETECTED)
      Sample.verticalRequest (Sample.uncertainDb [1, 2]) Sample.retryDecision := by
  have hcase : (Sample.uncertainDb [1, 2]).recoveryCases[0]? = some (Sample.case .DETECTED) := by
    rfl
  have hdecision : Sample.retryingWorkflow.decision (Sample.uncertainDb [1, 2])
      Sample.verticalRequest = .ok Sample.retryDecision := by
    rfl
  exact (uncertainty_respected_iff Sample.env Sample.retryingWorkflow Sample.verticalRequest
    (Sample.uncertainDb [1, 2]) (Sample.case .DETECTED) Sample.retryDecision hcase rfl (by decide)
    hdecision rfl).mpr (.inr (by decide +kernel))

/-- After one uncertain attempt the case goes on to `ACTION_PENDING`. -/
theorem uncertain_attempt_is_retried :
    hasUncertainAttempt (Sample.uncertainDb [1]) 0 = true ∧
      Sample.retryDecision.action = .RETRY_PAYMENT ∧
      ((run Sample.env Sample.retryingWorkflow (Sample.case .DETECTED) Sample.verticalRequest
        (Sample.uncertainDb [1])).toOption.map fun r => (r.1.policy.reason, r.1.finalState)) =
          some (.ALLOWED, .VERIFICATION_PENDING) ∧
      ¬RespectsUncertainty Sample.env Sample.retryingWorkflow (Sample.case .DETECTED)
        Sample.verticalRequest (Sample.uncertainDb [1]) Sample.retryDecision := by
  decide +kernel

end VerticalRecoveryWorkflow

end RevenueRescue
