import RevenueRescue.Base.Ledger
import RevenueRescue.Refinement.Services
import RevenueRescue.Workflows.Execution

/-!
# What an execution request does

The services of an execution request stay within the authority to execute one workflow, and
each call of `submit_retry` is gated: the rows its session saw allow it, and it spends the
dispatch step it came from.

The three facts are one trace property, so they follow for a whole request from its steps.
-/

namespace RevenueRescue

open Python

/-! ## Calls of `submit_retry` -/

namespace Submission

/-- The step a submission came from. -/
def token (sub : Submission) : UUID × ℕ := (sub.workflowId, sub.position)

/-- The attempts that were recorded for the case before the one of this submission. -/
def priorAttempts (sub : Submission) : List RecoveryAttempt :=
  (sub.db.attempts.take sub.attemptId).filter fun a => a.caseId == sub.request.caseId

/-- What the rows say at the instant of the call. -/
structure Gated (sub : Submission) (case : RecoveryCase) (txn : Transaction) : Prop where
  caseRow : sub.db.recoveryCases[sub.request.caseId]? = some case
  actionPending : case.state = .ACTION_PENDING
  transactionRow : sub.db.transactions[case.triggerTransactionId]? = some txn
  notSucceeded : txn.status ≠ .SUCCEEDED
  resolved : ∀ e ∈ sub.db.executions, e.caseId = sub.request.caseId → e.status ≠ .UNKNOWN
  budget : sub.priorAttempts.length < 4
  consent : ∃ consent ∈ sub.db.consents, consent.customerId = case.customerId ∧
    consent.consentType = .RECURRING_BILLING ∧ consent.status = .GRANTED ∧
    consent.revokedAt = none ∧
    ∀ expiresAt, consent.expiresAt = some expiresAt → expiresAt.lt? sub.now = some false
  amount : sub.request.amountMinor = txn.amountMinor
  currency : sub.request.currency = txn.currency

/-- The step and the workflow that the submission belongs to. -/
structure Placed (sub : Submission) (workflow : RecoveryWorkflow) (step : WorkflowStep) :
    Prop where
  workflowRow : sub.db.workflows[sub.workflowId]? = some workflow
  caseId : workflow.caseId = sub.request.caseId
  stepRow : workflow.steps[sub.position]? = some step
  stepType : step.stepType = .DISPATCH_PAYMENT_RETRY
  idempotencyKey : step.idempotencyKey = sub.request.idempotencyKey

end Submission

/-- The submissions for a case. -/
def submissionsFor (caseId : UUID) (sent : List Submission) : List Submission :=
  sent.filter fun sub => sub.request.caseId == caseId

/-- A dispatch step that a request can still pick up. -/
def Due (s : Store) (token : UUID × ℕ) : Prop :=
  ∃ workflow step, s.workflows[token.1]? = some workflow ∧
    workflow.steps[token.2]? = some step ∧ step.isPending = true ∧
    step.stepType = .DISPATCH_PAYMENT_RETRY

/-- A submission that is gated, belongs to a step, and was made after writes within `A`. -/
structure Sanctioned (A : Authority) (s : Store) (sub : Submission) : Prop where
  executes : A.executes sub.workflowId
  writes : Writes A s sub.db
  gated : ∃ case txn, sub.Gated case txn
  placed : ∃ workflow step, sub.Placed workflow step

/-- The call left an execution of its workflow behind. -/
def Recorded (s : Store) (sub : Submission) : Prop :=
  ∃ row ∈ s.executions, row.workflowId = sub.workflowId

variable {A : Authority} {s : Store}

/-! ## Writes of an execution -/

theorem Writes.workflows_length (hno : ∀ id, ¬A.creates id) {t : Store} (h : Writes A s t) :
    t.workflows.length = s.workflows.length := by
  induction h with
  | refl => rfl
  | tail _ hstep ih =>
    cases hstep with
    | addWorkflow row hcreates => exact absurd hcreates (hno _)
    | setWorkflow id f _ _ => simpa [Store.modifyWorkflow] using ih
    | _ => exact ih

/-- Without the authority to create or execute workflows they stay as they are. -/
theorem Writes.workflows_eq (hno : ∀ id, ¬A.creates id) (hidle : ∀ id, ¬A.executes id)
    {t : Store} (h : Writes A s t) : t.workflows = s.workflows := by
  induction h with
  | refl => rfl
  | tail _ hstep ih =>
    cases hstep with
    | addWorkflow row hcreates => exact absurd hcreates (hno _)
    | setWorkflow id f hexecutes _ => exact absurd hexecutes (hidle _)
    | _ => exact ih

/-- A step that became due belongs to a new workflow. -/
theorem Writes.due_or_new {t : Store} (h : Writes A s t) {token : UUID × ℕ} (hdue : Due t token) :
    Due s token ∨ s.workflows.length ≤ token.1 := by
  obtain ⟨workflow', step', hworkflow', hstep', hpending, htype⟩ := hdue
  rcases hrow : s.workflows[token.1]? with _ | workflow
  · exact .inr (List.getElem?_eq_none_iff.mp hrow)
  obtain ⟨after, hafter, hprogress⟩ := h.evolved.workflows.getElem? hrow
  obtain rfl : after = workflow' := Option.some.inj (hafter.symm.trans hworkflow')
  obtain ⟨step, hstep, hstepProgress⟩ := hprogress.step_before hstep'
  refine .inl ⟨workflow, step, hrow, hstep, ?_, ?_⟩
  · exact hstepProgress.pending hpending
  · exact hstepProgress.stepType.symm.trans htype

/-- Without the authority to create workflows no step becomes due. -/
theorem Writes.due (hno : ∀ id, ¬A.creates id) {t : Store} (h : Writes A s t) {token : UUID × ℕ}
    (hdue : Due t token) : Due s token := by
  rcases h.due_or_new hdue with hold | hnew
  · exact hold
  · obtain ⟨workflow, -, hworkflow, -⟩ := hdue
    have hlt := (List.getElem?_eq_some_iff.mp hworkflow).1
    rw [h.workflows_length hno] at hlt
    omega

/-- Executions are only added. -/
theorem Writes.executions_mem {t : Store} (h : Writes A s t) {row : RecoveryExecution}
    (hrow : row ∈ s.executions) : row ∈ t.executions := by
  induction h with
  | refl => exact hrow
  | tail _ hstep ih =>
    cases hstep with
    | addExecution row _ _ => exact List.mem_append_left _ ih
    | _ => exact ih

theorem attemptsOf_modifyAttempt {f : RecoveryAttempt → RecoveryAttempt}
    (h : ∀ a, AttemptStep a (f a)) (id caseId : UUID) :
    ((s.modifyAttempt id f).attemptsOf caseId).length = (s.attemptsOf caseId).length := by
  have hcolumn := Table.filter_map_modify (p := fun a : RecoveryAttempt => a.caseId == caseId)
    (g := RecoveryAttempt.caseId) (f := f) (fun a => by rw [(h a).caseId])
    (fun a => (h a).caseId) s.attempts id
  have hlength := congrArg List.length hcolumn
  rwa [List.length_map, List.length_map] at hlength

theorem Writes.attemptsOf_le {t : Store} (h : Writes A s t) (caseId : UUID) :
    (s.attemptsOf caseId).length ≤ (t.attemptsOf caseId).length := by
  induction h with
  | refl => exact Nat.le_refl _
  | tail _ hstep ih =>
    cases hstep with
    | addAttempt row _ =>
      refine ih.trans ?_
      simp [Store.attemptsOf, List.filter_append]
    | setAttempt id f hf => exact ih.trans (attemptsOf_modifyAttempt hf id caseId).ge
    | _ => exact ih

/-- What an execution request writes, sends and spends. -/
def executionTrace (A : Authority) : Trace Session Submission where
  done s sent t :=
    Writes A s.db t.db ∧ Ledger.Spends (Due s.db) (sent.map Submission.token) (Due t.db) ∧
      (∀ sub ∈ sent, Sanctioned A s.db sub ∧ Recorded t.db sub) ∧
      ∀ caseId, (s.db.attemptsOf caseId).length + (submissionsFor caseId sent).length ≤
        (t.db.attemptsOf caseId).length
  failed s sent :=
    Ledger.Spends (Due s.db) (sent.map Submission.token) (fun _ => False) ∧
      ∀ sub ∈ sent, Sanctioned A s.db sub
  refl s := ⟨.refl, .none fun _ h => h, by simp, fun _ => by simp [submissionsFor]⟩
  trans := by
    rintro s t u sent later ⟨hw, hspends, hsent, hcount⟩ ⟨hw', hspends', hlater, hcount'⟩
    refine ⟨hw.trans hw', ?_, ?_, fun caseId => ?_⟩
    · rw [List.map_append]
      exact hspends.trans hspends'
    · intro sub hsub
      rcases List.mem_append.mp hsub with hfirst | hsecond
      · obtain ⟨hsanctioned, row, hrow, hworkflow⟩ := hsent sub hfirst
        exact ⟨hsanctioned, row, hw'.executions_mem hrow, hworkflow⟩
      · obtain ⟨hsanctioned, hrecorded⟩ := hlater sub hsecond
        exact ⟨{ hsanctioned with writes := hw.trans hsanctioned.writes }, hrecorded⟩
    · have hfirst := hcount caseId
      have hsecond := hcount' caseId
      simp only [submissionsFor, List.filter_append, List.length_append] at hfirst hsecond ⊢
      omega
  fail := by
    rintro s t sent later ⟨hw, hspends, hsent, -⟩ ⟨hspends', hlater⟩
    refine ⟨?_, ?_⟩
    · rw [List.map_append]
      exact hspends.trans hspends'
    · intro sub hsub
      rcases List.mem_append.mp hsub with hfirst | hsecond
      · exact (hsent sub hfirst).1
      · exact { hlater sub hsecond with writes := hw.trans (hlater sub hsecond).writes }

/-- A database method of an execution request sends nothing. -/
theorem onDb_follows {α : Type} (hno : ∀ id, ¬A.creates id) {session : Session} {x : Service α}
    (hx : Keeps A session.db x) : Req.Follows (executionTrace A) session (onDb x) := by
  constructor
  unfold onDb
  rw [Req.wp_onPart]
  refine Tx.wp_mono hx.wp (fun _ t hw => ?_) fun _ _ => ?_
  · exact ⟨hw, .none fun _ h => hw.due hno h, by simp, fun caseId => hw.attemptsOf_le caseId⟩
  · exact ⟨.none fun _ h => h.elim, by simp⟩

/-! ## Revalidation -/

/-- The rows allow a payment retry for the case. -/
structure Cleared (now : Datetime) (s : Store) (caseId : UUID) (case : RecoveryCase) : Prop where
  caseRow : s.recoveryCases[caseId]? = some case
  actionPending : case.state = .ACTION_PENDING
  notSucceeded : ∀ txn, s.transactions[case.triggerTransactionId]? = some txn →
    txn.status ≠ .SUCCEEDED
  resolved : ∀ e ∈ s.executions, e.caseId = caseId → e.status ≠ .UNKNOWN
  budget : (s.attemptsOf caseId).length < 4
  consent : ∃ consent ∈ s.consents, consent.customerId = case.customerId ∧
    consent.consentType = .RECURRING_BILLING ∧ consent.status = .GRANTED ∧
    consent.revokedAt = none ∧
    ∀ expiresAt, consent.expiresAt = some expiresAt → expiresAt.lt? now = some false

namespace WorkflowRevalidationService

/-- What a passed retry check says about the attempts and the consent. -/
theorem revalidateRetry_allowed {env : Env} {caseId : UUID} {case : RecoveryCase}
    {result : RevalidationResult} (h : revalidateRetry env s caseId case = .ok result)
    (hallowed : result.allowed = true) :
    (s.attemptsOf caseId).length < 4 ∧
      ∃ consent ∈ s.consents, consent.customerId = case.customerId ∧
        consent.consentType = .RECURRING_BILLING ∧ consent.status = .GRANTED ∧
        consent.revokedAt = none ∧
        ∀ expiresAt, consent.expiresAt = some expiresAt → expiresAt.lt? env.now = some false := by
  unfold revalidateRetry at h
  dsimp only at h
  split at h
  · cases h
    cases hallowed
  rename_i hbudget
  refine ⟨Nat.lt_of_not_le hbudget, ?_⟩
  rcases hfound : recurringConsent s case.customerId with _ | consent
  · rw [hfound] at h
    cases h
    cases hallowed
  have hmem : consent ∈ s.consents := List.mem_of_find?_eq_some hfound
  have hmatch := List.find?_some hfound
  simp only [Bool.and_eq_true, beq_iff_eq] at hmatch
  rw [hfound] at h
  dsimp only at h
  refine ⟨consent, hmem, hmatch.1.1, hmatch.1.2, hmatch.2, ?_⟩
  have hrevoked : (if consent.revokedAt.isSome then
      refuse "CONSENT_REVOKED" "Customer recurring billing consent was revoked."
      else allow) = .ok result → consent.revokedAt = none := by
    intro hresult
    split at hresult
    · cases hresult
      cases hallowed
    · simpa using ‹¬consent.revokedAt.isSome = true›
  rcases hexpires : consent.expiresAt with _ | expiresAt
  · rw [hexpires] at h
    exact ⟨hrevoked h, fun _ hnone => by cases hnone⟩
  · rw [hexpires] at h
    dsimp only at h
    rcases hlt : expiresAt.lt? env.now with _ | past
    · rw [hlt] at h
      cases h
    cases past with
    | true =>
      rw [hlt] at h
      cases h
      cases hallowed
    | false =>
      rw [hlt] at h
      refine ⟨hrevoked h, fun expiresAt' heq => ?_⟩
      cases heq
      exact hlt

/-- A passed revalidation clears the case. -/
theorem revalidateForExecution_allowed {env : Env} {caseId : UUID} {result : RevalidationResult}
    (h : revalidateForExecution env s caseId .RETRY_PAYMENT = .ok result)
    (hallowed : result.allowed = true) : ∃ case, Cleared env.now s caseId case := by
  unfold revalidateForExecution at h
  rcases hcase : s.recoveryCases[caseId]? with _ | case
  · rw [hcase] at h
    cases h
    cases hallowed
  rw [hcase] at h
  dsimp only at h
  split at h
  · cases h
    cases hallowed
  rename_i hpending
  split at h
  · cases h
    cases hallowed
  rename_i hsucceeded
  rcases hunknown : unknownExecution s caseId with _ | ⟨executionId, execution⟩
  · rw [hunknown] at h
    obtain ⟨hbudget, hconsent⟩ := revalidateRetry_allowed h hallowed
    refine ⟨case, hcase, not_not.mp hpending, ?_, ?_, hbudget, hconsent⟩
    · intro txn htxn hstatus
      apply hsucceeded
      simp [htxn, hstatus]
    · intro e he hcaseId hstatus
      have hnone := Table.find?_none.mp hunknown e he
      simp [hcaseId, hstatus] at hnone
  · rw [hunknown] at h
    cases h
    cases hallowed

end WorkflowRevalidationService

/-! ## The steps of a workflow -/

theorem modifyStep_write {workflowId : UUID} {position : ℕ} {f : WorkflowStep → WorkflowStep}
    (hexecutes : A.executes workflowId) (hf : ∀ step, StepProgress step (f step)) :
    Write A s (s.modifyStep workflowId position f) := by
  refine .setWorkflow s workflowId _ hexecutes fun w => ⟨rfl, rfl, rfl, ?_, ?_⟩
  · exact List.length_modify ..
  · exact .modify w.steps position f fun step _ => hf step

theorem setWorkflowStatus_write {workflowId : UUID} {status : WorkflowStatus}
    (hexecutes : A.executes workflowId) : Write A s (s.setWorkflowStatus workflowId status) :=
  .setWorkflow s workflowId _ hexecutes fun w => ⟨rfl, rfl, rfl, rfl, .refl w.steps⟩

/-- Setting a status that is neither pending nor scheduled is progress. -/
theorem StepProgress.of_status {before after : WorkflowStep}
    (hindex : after.stepIndex = before.stepIndex) (htype : after.stepType = before.stepType)
    (hkey : after.idempotencyKey = before.idempotencyKey)
    (haction : after.actionType = before.actionType) (hstatus : after.isPending = false) :
    StepProgress before after :=
  ⟨hindex, htype, hkey, haction, fun h => by rw [hstatus] at h; cases h⟩

namespace WorkflowExecutionService

/-- A transition that an execution asks for recovers nothing. -/
theorem transition_keeps {env : Env} {caseId : UUID} {toState : RecoveryCaseState}
    {reasonCode : String} {actorType : ActorType} (hn : ¬A.numbered)
    (htarget : toState ≠ .RECOVERED) :
    Keeps A s (CaseTransitionService.transition env caseId toState reasonCode actorType) :=
  CaseTransitionService.transition_keeps (fun _ _ _ h => absurd h htarget) fun h => absurd h hn

theorem executeValidateAuthorization_keeps {env : Env} {workflowId : UUID} {position : ℕ}
    {step : WorkflowStep} {caseId : UUID} (hn : ¬A.numbered) (hexecutes : A.executes workflowId) :
    Keeps A s (executeValidateAuthorization env workflowId position step caseId) := by
  refine .get_bind ?_
  rcases WorkflowRevalidationService.revalidateForExecution env s caseId step.actionType
    with fault | reval
  · exact .of_throw fun h => absurd h hn
  refine .ite (fun _ => .of_modify (modifyStep_write hexecutes fun _ => ?_)) fun _ => ?_
  · exact .of_status rfl rfl rfl rfl rfl
  refine .modify_bind (modifyStep_write hexecutes fun _ => .of_status rfl rfl rfl rfl rfl) ?_
  refine .modify_bind (setWorkflowStatus_write hexecutes) ?_
  refine .bind (transition_keeps hn ?_) fun _ _ _ _ => .of_pure _
  split <;> decide

theorem executeWaitCooldown_keeps {env : Env} {workflowId : UUID} {position : ℕ}
    (hexecutes : A.executes workflowId) :
    Keeps A s (executeWaitCooldown env workflowId position) :=
  .of_modify (modifyStep_write hexecutes fun _ => .of_status rfl rfl rfl rfl rfl)

theorem executeAwaitVerification_keeps {workflowId : UUID} {position : ℕ}
    (hexecutes : A.executes workflowId) :
    Keeps A s (executeAwaitVerification workflowId position) := by
  refine .modify_bind (modifyStep_write hexecutes fun _ => .of_status rfl rfl rfl rfl rfl) ?_
  exact .of_modify (setWorkflowStatus_write hexecutes)

theorem executeGeneric_keeps {env : Env} {workflowId : UUID} {position : ℕ}
    (hexecutes : A.executes workflowId) : Keeps A s (executeGeneric env workflowId position) :=
  .of_modify (modifyStep_write hexecutes fun _ => .of_status rfl rfl rfl rfl rfl)

theorem startStep_keeps {workflowId : UUID} {position : ℕ} (hexecutes : A.executes workflowId) :
    Keeps A s (startStep workflowId position) := by
  refine .modify_bind (setWorkflowStatus_write hexecutes) ?_
  exact .of_modify (modifyStep_write hexecutes fun _ => .of_status rfl rfl rfl rfl rfl)

theorem refuseDispatch_keeps {workflowId : UUID} {position : ℕ} {message : String}
    {executedAt : Option Datetime} (hexecutes : A.executes workflowId) :
    Keeps A s (refuseDispatch workflowId position message executedAt) := by
  refine .modify_bind (modifyStep_write hexecutes fun _ => .of_status rfl rfl rfl rfl rfl) ?_
  exact .of_modify (setWorkflowStatus_write hexecutes)

theorem finishStep_progress (res : ExecutionResult) (step : WorkflowStep) :
    StepProgress step (finishStep res step) := by
  unfold finishStep
  split
  · exact .of_status rfl rfl rfl rfl rfl
  · exact .of_status rfl rfl rfl rfl rfl
  · exact .of_status rfl rfl rfl rfl rfl
  · exact .of_status rfl rfl rfl rfl rfl
  · exact ⟨rfl, rfl, rfl, rfl, fun h => h⟩
  · exact ⟨rfl, rfl, rfl, rfl, fun h => h⟩

theorem finishAttempt_step (res : ExecutionResult) (attempt : RecoveryAttempt) :
    AttemptStep attempt (finishAttempt res attempt) := by
  unfold finishAttempt
  split <;> exact ⟨rfl, rfl, rfl⟩

/-- No outcome of a payment retry recovers the case. -/
theorem transitionAfter_ne_recovered {status : ExecutionStatus} {priorAttempts : ℕ}
    {target : RecoveryCaseState} {reasonCode : String}
    (h : transitionAfter status priorAttempts = some (target, reasonCode)) :
    target ≠ .RECOVERED := by
  unfold transitionAfter at h
  cases status <;> simp only [] at h
  case FAILED =>
    split at h <;> cases h
    decide
  all_goals cases h
  all_goals decide

/-- The move of the case that follows an answer of the provider. -/
theorem followingMove_keeps {env : Env} {caseId : UUID} {status : ExecutionStatus}
    {priorAttempts : ℕ} (hn : ¬A.numbered) (u : Store) :
    Keeps A u (match transitionAfter status priorAttempts with
      | some (target, reasonCode) => do
        let _ ← CaseTransitionService.transition env caseId target reasonCode .SYSTEM
      | none => pure () : Service Unit) := by
  rcases htransition : transitionAfter status priorAttempts with _ | ⟨target, reasonCode⟩
  · exact .of_pure _
  · refine .bind (transition_keeps hn ?_) fun _ _ _ _ => .of_pure _
    exact transitionAfter_ne_recovered htransition

theorem applyOutcome_keeps {env : Env} {workflowId : UUID} {position : ℕ} {caseId : UUID}
    {prepared : PreparedRetry} {res : ExecutionResult} (hn : ¬A.numbered)
    (hexecutes : A.executes workflowId) :
    Keeps A s (applyOutcome env workflowId position caseId prepared res) := by
  refine .modify_bind (modifyStep_write hexecutes (finishStep_progress res)) ?_
  refine .modify_bind (.setAttempt _ _ _ (finishAttempt_step res)) ?_
  rcases workflowStatusAfter res.status with _ | status
  · exact followingMove_keeps hn _
  · exact .modify_bind (setWorkflowStatus_write hexecutes) (followingMove_keeps hn _)

theorem recordOutcome_keeps {env : Env} {workflowId : UUID} {position : ℕ} {step : WorkflowStep}
    {caseId : UUID} {prepared : PreparedRetry} {res : ExecutionResult} (hn : ¬A.numbered)
    (hexecutes : A.executes workflowId)
    (hunderway : Underway s (newExecution workflowId step caseId res)) :
    Keeps A s (recordOutcome env workflowId position step caseId prepared res) :=
  .bind (insertExecution_keeps hexecutes hunderway) fun _ _ _ _ => applyOutcome_keeps hn hexecutes

/-- Once an outcome is recorded an execution of the workflow is there. -/
theorem recordOutcome_recorded {env : Env} {workflowId : UUID} {position : ℕ}
    {step : WorkflowStep} {caseId : UUID} {prepared : PreparedRetry} {res : ExecutionResult}
    (hn : ¬A.numbered) (hexecutes : A.executes workflowId) :
    (recordOutcome env workflowId position step caseId prepared res).wp
      (fun _ t => ∃ row ∈ t.executions, row.workflowId = workflowId) (fun _ => True) s := by
  unfold recordOutcome
  rw [Tx.wp_bind]
  unfold Tx.wp
  rw [insertExecution_apply]
  by_cases htaken : (s.executions.any fun e =>
      e.idempotencyKey == (newExecution workflowId step caseId res).idempotencyKey) = true
  · rw [if_pos htaken]
    exact trivial
  · rw [if_neg htaken]
    refine Tx.wp_mono (applyOutcome_keeps hn hexecutes).wp (fun _ t ht => ?_) fun _ _ => trivial
    exact ⟨_, ht.executions_mem (List.mem_append_right _ (List.mem_singleton_self _)), rfl⟩

/-! ## The dispatch step -/

theorem prepareDispatch_keeps {env : Env} {workflowId : UUID} {position : ℕ} {step : WorkflowStep}
    {caseId : UUID} {override : Dict} (hn : ¬A.numbered) (hexecutes : A.executes workflowId) :
    Keeps A s (prepareDispatch env workflowId position step caseId override) := by
  refine .get_bind ?_
  rcases WorkflowRevalidationService.revalidateForExecution env s caseId .RETRY_PAYMENT
    with fault | reval
  · exact .of_throw fun h => absurd h hn
  refine .ite (fun _ => ?_) fun _ => ?_
  · rcases s.recoveryCases[caseId]? with _ | case
    · exact .of_throw fun h => absurd h hn
    dsimp only
    rcases s.transactions[case.triggerTransactionId]? with _ | txn
    · exact .bind (refuseDispatch_keeps hexecutes) fun _ _ _ _ => .of_pure _
    rcases s.customers[case.customerId]? with _ | customer
    · exact .bind (refuseDispatch_keeps hexecutes) fun _ _ _ _ => .of_pure _
    · exact .bind (insertAttempt_keeps _ ⟨workflowId, hexecutes⟩) fun _ _ _ _ => .of_pure _
  · exact .bind (refuseDispatch_keeps hexecutes) fun _ _ _ _ => .of_pure _

/-- A dispatch that goes on was cleared; its attempt is the last one and nothing else changed. -/
structure Dispatched (env : Env) (step : WorkflowStep) (caseId : UUID) (override : Dict)
    (before : Store) (prepared : PreparedRetry) (after : Store) (case : RecoveryCase)
    (txn : Transaction) (customer : Customer) : Prop where
  revalidated : ∃ result, WorkflowRevalidationService.revalidateForExecution env before caseId
    .RETRY_PAYMENT = .ok result ∧ result.allowed = true
  cleared : Cleared env.now before caseId case
  transactionRow : before.transactions[case.triggerTransactionId]? = some txn
  customerRow : before.customers[case.customerId]? = some customer
  priorAttempts : prepared.priorAttempts = (before.attemptsOf caseId).length
  attemptId : prepared.attemptId = before.attempts.length
  request : prepared.request = buildRequest step caseId case txn customer override
  after : after = { before with
    attempts := before.attempts ++
      [newAttempt env before.attempts.length caseId (before.attemptsOf caseId).length] }

/-- The rows after a dispatch was refused. -/
def refused (s : Store) (workflowId : UUID) (position : ℕ) (message : String)
    (executedAt : Option Datetime) : Store :=
  (s.modifyStep workflowId position fun step =>
    { step with
      status := .FAILED, errorMessage := some message
      executedAt := executedAt <|> step.executedAt }).setWorkflowStatus workflowId .FAILED

theorem refuseDispatch_bind_apply (s : Store) (workflowId : UUID) (position : ℕ)
    (message : String) (executedAt : Option Datetime) :
    (do refuseDispatch workflowId position message executedAt; pure none :
      Service (Option PreparedRetry)) s =
        .ok (none, refused s workflowId position message executedAt) :=
  rfl

/-- The preparation of a dispatch refuses it or dispatches it. -/
theorem prepareDispatch_ok {env : Env} {workflowId : UUID} {position : ℕ} {step : WorkflowStep}
    {caseId : UUID} {override : Dict} {result : Option PreparedRetry} {t : Store}
    (h : prepareDispatch env workflowId position step caseId override s = .ok (result, t)) :
    (result = none ∧ ∃ message executedAt, t = refused s workflowId position message executedAt) ∨
      ∃ prepared case txn customer, result = some prepared ∧
        Dispatched env step caseId override s prepared t case txn customer := by
  have hrefused : ∀ message executedAt,
      (do refuseDispatch workflowId position message executedAt; pure none :
        Service (Option PreparedRetry)) s = .ok (result, t) →
      result = none ∧ ∃ message executedAt, t = refused s workflowId position message executedAt := by
    intro message executedAt hrun
    rw [refuseDispatch_bind_apply] at hrun
    cases hrun
    exact ⟨rfl, message, executedAt, rfl⟩
  unfold prepareDispatch at h
  rw [Tx.get_bind_apply] at h
  rcases hreval : WorkflowRevalidationService.revalidateForExecution env s caseId .RETRY_PAYMENT
    with fault | reval
  · rw [hreval] at h
    cases h
  rw [hreval] at h
  dsimp only at h
  by_cases hallowed : reval.allowed = true
  · rw [if_pos hallowed] at h
    obtain ⟨case, hcleared⟩ :=
      WorkflowRevalidationService.revalidateForExecution_allowed hreval hallowed
    rw [hcleared.caseRow] at h
    dsimp only at h
    rcases htxn : s.transactions[case.triggerTransactionId]? with _ | txn
    · rw [htxn] at h
      exact .inl (hrefused _ _ h)
    rcases hcustomer : s.customers[case.customerId]? with _ | customer
    · rw [htxn, hcustomer] at h
      exact .inl (hrefused _ _ h)
    rw [htxn, hcustomer] at h
    dsimp only at h
    obtain ⟨attemptId, u, hinsert, h⟩ := Tx.bind_eq_ok.mp h
    obtain ⟨rfl, rfl⟩ := insertAttempt_ok hinsert
    cases h
    exact .inr ⟨_, case, txn, customer, rfl, ⟨reval, hreval, hallowed⟩, hcleared, htxn, hcustomer,
      rfl, rfl, rfl, rfl⟩
  · rw [if_neg hallowed] at h
    exact .inl (hrefused _ _ h)

theorem prepareDispatch_some {env : Env} {workflowId : UUID} {position : ℕ} {step : WorkflowStep}
    {caseId : UUID} {override : Dict} {prepared : PreparedRetry} {t : Store}
    (h : prepareDispatch env workflowId position step caseId override s = .ok (some prepared, t)) :
    ∃ case txn customer, Dispatched env step caseId override s prepared t case txn customer := by
  rcases prepareDispatch_ok h with ⟨hnone, -⟩ | ⟨prepared', case, txn, customer, hsome, hdispatched⟩
  · cases hnone
  · cases hsome
    exact ⟨case, txn, customer, hdispatched⟩

/-- The call that a prepared dispatch makes. -/
def submissionOf (env : Env) (workflowId : UUID) (position : ℕ) (prepared : PreparedRetry)
    (db : Store) (executed : Bool) : Submission :=
  { workflowId, position, attemptId := prepared.attemptId, request := prepared.request, db
    now := env.now, executed }

/-- How the adapter instance of a session comes to an answer. -/
inductive Answered (session : Session) (provider : Provider) (request : PaymentRetryRequest) :
    ExecutionResult → Bool → Prop
  | remembered (res : ExecutionResult)
      (h : session.submissions.lookup request.idempotencyKey = some res) :
    Answered session provider request res false
  | sent (res : ExecutionResult) (h : session.submissions.lookup request.idempotencyKey = none)
      (hres : provider request = some res) : Answered session provider request res true

/-- The rule of the adapter: one call, and an answer unless the provider's raises. -/
theorem submitRetry_wp {env : Env} {provider : Provider} {workflowId : UUID} {position : ℕ}
    {prepared : PreparedRetry} {session : Session}
    {Q : ExecutionResult → List Submission → Session → Prop} {E : Fault → List Submission → Prop}
    (hsilent : provider prepared.request = none →
      E .adapterError [submissionOf env workflowId position prepared session.db true])
    (hanswered : ∀ res executed, Answered session provider prepared.request res executed →
      ∀ submissions, Q res [submissionOf env workflowId position prepared session.db executed]
        ⟨session.db, submissions⟩) :
    (submitRetry env provider workflowId position prepared).wp Q E session := by
  unfold submitRetry
  rw [Req.wp_bind, Req.wp_get]
  dsimp only
  rcases hlookup : session.submissions.lookup prepared.request.idempotencyKey with _ | existing
  · rw [Req.wp_bind, Req.wp_emit]
    rcases hprovider : provider prepared.request with _ | res
    · exact hsilent hprovider
    · exact hanswered res true (.sent res hlookup hprovider) _
  · exact hanswered existing false (.remembered existing hlookup) _

/-- The rule of the dispatch step: refused, or one call whose outcome is recorded. -/
theorem executeDispatchPaymentRetry_wp {env : Env} {provider : Provider} {workflowId : UUID}
    {position : ℕ} {step : WorkflowStep} {caseId : UUID} {override : Dict} {session : Session}
    {Q : Unit → List Submission → Session → Prop} {E : Fault → List Submission → Prop}
    (hbefore : ∀ fault, E fault [])
    (hrefused : ∀ u, prepareDispatch env workflowId position step caseId override session.db =
      .ok (none, u) → Q () [] { session with db := u })
    (hsilent : ∀ prepared u, prepareDispatch env workflowId position step caseId override
      session.db = .ok (some prepared, u) → provider prepared.request = none →
      E .adapterError [submissionOf env workflowId position prepared u true])
    (hanswered : ∀ prepared u res executed,
      prepareDispatch env workflowId position step caseId override session.db =
        .ok (some prepared, u) →
      Answered session provider prepared.request res executed →
      (recordOutcome env workflowId position step caseId prepared res).wp
        (fun _ v => ∀ submissions,
          Q () [submissionOf env workflowId position prepared u executed] ⟨v, submissions⟩)
        (fun fault => E fault [submissionOf env workflowId position prepared u executed]) u) :
    (executeDispatchPaymentRetry env provider workflowId position step caseId override).wp Q E
      session := by
  unfold executeDispatchPaymentRetry
  rw [Req.wp_bind]
  unfold onDb
  rw [Req.wp_onPart]
  unfold Tx.wp
  rcases hprepare : prepareDispatch env workflowId position step caseId override session.db
    with fault | ⟨_ | prepared, u⟩
  · exact hbefore fault
  · exact hrefused u hprepare
  · dsimp only
    rw [Req.wp_bind]
    refine submitRetry_wp (fun hprovider => hsilent prepared u hprepare hprovider)
      fun res executed hres submissions => ?_
    rw [Req.wp_onPart]
    refine Tx.wp_mono (hanswered prepared u res executed hprepare ?_) (fun _ v hv => ?_) fun _ h => h
    · cases hres with
      | remembered h => exact .remembered res h
      | sent h hres => exact .sent res h hres
    · exact hv submissions

/-- The rows after a step was marked as running. -/
def started (s : Store) (workflowId : UUID) (position : ℕ) : Store :=
  (s.setWorkflowStatus workflowId .RUNNING).modifyStep workflowId position fun step =>
    { step with status := .RUNNING }

theorem startStep_apply (s : Store) (workflowId : UUID) (position : ℕ) :
    startStep workflowId position s = .ok ((), started s workflowId position) :=
  rfl

theorem started_writes {workflowId : UUID} {position : ℕ} (hexecutes : A.executes workflowId) :
    Writes A s (started s workflowId position) :=
  (startStep_keeps hexecutes).writes (startStep_apply s workflowId position)

/-- The workflow as it is once one of its steps is running. -/
def startedWorkflow (workflow : RecoveryWorkflow) (position : ℕ) : RecoveryWorkflow :=
  { workflow with
    status := .RUNNING
    steps := workflow.steps.modify position fun step => { step with status := .RUNNING } }

theorem started_workflow {workflowId : UUID} {position : ℕ} {workflow : RecoveryWorkflow}
    (h : s.workflows[workflowId]? = some workflow) :
    (started s workflowId position).workflows[workflowId]? =
      some (startedWorkflow workflow position) := by
  simp [started, startedWorkflow, Store.modifyStep, Store.modifyWorkflow, Store.setWorkflowStatus, h]

theorem startedWorkflow_step {workflow : RecoveryWorkflow} {position : ℕ} {step : WorkflowStep}
    (h : workflow.steps[position]? = some step) :
    (startedWorkflow workflow position).steps[position]? =
      some { step with status := .RUNNING } := by
  simp [startedWorkflow, h]

/-- Starting a dispatch step spends it. -/
theorem started_spends {workflowId : UUID} {position : ℕ} {workflow : RecoveryWorkflow}
    {step : WorkflowStep} (hno : ∀ id, ¬A.creates id) (hexecutes : A.executes workflowId)
    (hworkflow : s.workflows[workflowId]? = some workflow)
    (hstep : workflow.steps[position]? = some step) (hpending : step.isPending = true)
    (htype : step.stepType = .DISPATCH_PAYMENT_RETRY) :
    Ledger.Spends (Due s) [(workflowId, position)] (Due (started s workflowId position)) := by
  refine ⟨List.nodup_singleton _, ?_, fun token hdue => ⟨?_, ?_⟩⟩
  · intro token htoken
    rw [List.mem_singleton.mp htoken]
    exact ⟨workflow, step, hworkflow, hstep, hpending, htype⟩
  · exact (started_writes hexecutes).due hno hdue
  · intro htoken
    rw [List.mem_singleton.mp htoken] at hdue
    obtain ⟨after, running, hafter, hrunning, hstill, -⟩ := hdue
    rw [started_workflow hworkflow, Option.some.injEq] at hafter
    subst hafter
    rw [startedWorkflow_step hstep, Option.some.injEq] at hrunning
    subst hrunning
    cases hstill

theorem submission_gated {env : Env} {workflowId : UUID} {position : ℕ} {step : WorkflowStep}
    {caseId : UUID} {override : Dict} {prepared : PreparedRetry} {t : Store} {case : RecoveryCase}
    {txn : Transaction} {customer : Customer} {executed : Bool}
    (h : Dispatched env step caseId override s prepared t case txn customer) :
    (submissionOf env workflowId position prepared t executed).Gated case txn := by
  have hcase : (submissionOf env workflowId position prepared t executed).request.caseId =
      caseId := by
    rw [submissionOf, h.request, buildRequest]
  have hprior : (submissionOf env workflowId position prepared t executed).priorAttempts =
      s.attemptsOf caseId := by
    unfold Submission.priorAttempts
    rw [hcase]
    simp [submissionOf, h.attemptId, h.after, Store.attemptsOf]
  have hcleared := h.cleared
  obtain ⟨-, -, htxn, -, -, -, hrequest, rfl⟩ := h
  refine ⟨?_, hcleared.actionPending, htxn, hcleared.notSucceeded txn htxn, ?_, ?_,
    hcleared.consent, ?_, ?_⟩
  · rw [hcase]
    exact hcleared.caseRow
  · rw [hcase]
    exact hcleared.resolved
  · rw [hprior]
    exact hcleared.budget
  · rw [submissionOf, hrequest, buildRequest]
  · rw [submissionOf, hrequest, buildRequest]

theorem submission_placed {env : Env} {workflowId : UUID} {position : ℕ} {step : WorkflowStep}
    {override : Dict} {prepared : PreparedRetry} {t : Store} {case : RecoveryCase}
    {txn : Transaction} {customer : Customer} {executed : Bool} {workflow : RecoveryWorkflow}
    (hworkflow : s.workflows[workflowId]? = some workflow)
    (hstep : workflow.steps[position]? = some step)
    (htype : step.stepType = .DISPATCH_PAYMENT_RETRY)
    (h : Dispatched env step workflow.caseId override (started s workflowId position) prepared t
      case txn customer) :
    (submissionOf env workflowId position prepared t executed).Placed
      (startedWorkflow workflow position) { step with status := .RUNNING } := by
  obtain ⟨-, -, -, -, -, -, hrequest, rfl⟩ := h
  refine ⟨started_workflow hworkflow, ?_, startedWorkflow_step hstep, htype, ?_⟩
  · rw [submissionOf, hrequest, buildRequest]
    rfl
  · rw [submissionOf, hrequest, buildRequest]

/-- Once a dispatch is prepared its step is running. -/
theorem Dispatched.underway {env : Env} {workflowId : UUID} {position : ℕ} {step : WorkflowStep}
    {override : Dict} {prepared : PreparedRetry} {t : Store} {case : RecoveryCase}
    {txn : Transaction} {customer : Customer} {workflow : RecoveryWorkflow} {caseId : UUID}
    (h : Dispatched env step caseId override (started s workflowId position) prepared t case txn
      customer) (hworkflow : s.workflows[workflowId]? = some workflow)
    (hstep : workflow.steps[position]? = some step) (res : ExecutionResult) :
    Underway t (newExecution workflowId step caseId res) := by
  refine ⟨startedWorkflow workflow position, position, { step with status := .RUNNING }, ?_,
    startedWorkflow_step hstep, rfl, rfl⟩
  rw [h.after]
  exact started_workflow hworkflow

/-- A call whose attempt was recorded is counted among the attempts. -/
theorem submission_counted (sub : Submission) (row : RecoveryAttempt) {t : Store}
    (hcase : row.caseId = sub.request.caseId) (hattempts : t.attempts = s.attempts ++ [row])
    (caseId : UUID) : (s.attemptsOf caseId).length + (submissionsFor caseId [sub]).length ≤
      (t.attemptsOf caseId).length := by
  unfold Store.attemptsOf submissionsFor
  rw [hattempts, List.filter_append, List.length_append]
  by_cases heq : sub.request.caseId = caseId <;> simp [hcase, heq]

/-- A dispatch step that is due, started and carried out. -/
theorem dispatch_follows {env : Env} {provider : Provider} {workflowId : UUID} {position : ℕ}
    {step : WorkflowStep} {override : Dict} {session : Session} {workflow : RecoveryWorkflow}
    (hno : ∀ id, ¬A.creates id) (hn : ¬A.numbered) (hexecutes : A.executes workflowId)
    (hworkflow : session.db.workflows[workflowId]? = some workflow)
    (hstep : workflow.steps[position]? = some step) (hpending : step.isPending = true)
    (htype : step.stepType = .DISPATCH_PAYMENT_RETRY) :
    Req.Follows (executionTrace A) session (do
      onDb (startStep workflowId position)
      executeDispatchPaymentRetry env provider workflowId position step workflow.caseId
        override) := by
  have hstarted : Writes A session.db (started session.db workflowId position) :=
    started_writes hexecutes
  have hspends := started_spends hno hexecutes hworkflow hstep hpending htype
  have hspent : Ledger.Spends (Due session.db) [(workflowId, position)] fun _ => False :=
    ⟨hspends.nodup, hspends.spendable, fun _ h => h.elim⟩
  -- what the trace says once the dispatch was prepared and one call was made
  have hsent : ∀ prepared u executed, prepareDispatch env workflowId position step workflow.caseId
      override (started session.db workflowId position) = .ok (some prepared, u) →
      Sanctioned A session.db (submissionOf env workflowId position prepared u executed) ∧
        ∀ caseId, (session.db.attemptsOf caseId).length + (submissionsFor caseId
          [submissionOf env workflowId position prepared u executed]).length ≤
            (u.attemptsOf caseId).length := by
    intro prepared u executed hprepare
    have hu : Writes A session.db u :=
      hstarted.trans ((prepareDispatch_keeps hn hexecutes).writes hprepare)
    obtain ⟨case, txn, customer, hdispatched⟩ := prepareDispatch_some hprepare
    refine ⟨⟨hexecutes, hu, ⟨case, txn, submission_gated hdispatched⟩, _, _,
      submission_placed hworkflow hstep htype hdispatched⟩, fun caseId => ?_⟩
    have hkept : (session.db.attemptsOf caseId).length ≤
        ((started session.db workflowId position).attemptsOf caseId).length :=
      hstarted.attemptsOf_le caseId
    have hcounted := submission_counted (submissionOf env workflowId position prepared u executed)
      (newAttempt env _ workflow.caseId
        ((started session.db workflowId position).attemptsOf workflow.caseId).length)
      (by rw [submissionOf, hdispatched.request, buildRequest]; rfl)
      (congrArg Store.attempts hdispatched.after) caseId
    omega
  constructor
  rw [Req.wp_bind]
  unfold onDb
  rw [Req.wp_onPart]
  unfold Tx.wp
  rw [startStep_apply]
  refine executeDispatchPaymentRetry_wp (fun _ => ⟨.none fun _ h => h.elim, by simp⟩)
    (fun u hrefused => ?_) (fun prepared u hprepare _ => ?_)
    fun prepared u res executed hprepare _ => ?_
  · have hu : Writes A session.db u :=
      hstarted.trans ((prepareDispatch_keeps hn hexecutes).writes hrefused)
    exact ⟨hu, .none fun _ h => hu.due hno h, by simp, fun caseId => hu.attemptsOf_le caseId⟩
  · exact ⟨hspent, fun sub hsub => List.mem_singleton.mp hsub ▸ (hsent prepared u true hprepare).1⟩
  · have hw : Writes A (started session.db workflowId position) u :=
      (prepareDispatch_keeps hn hexecutes).writes hprepare
    obtain ⟨hsanctioned, hcounted⟩ := hsent prepared u executed hprepare
    obtain ⟨case, txn, customer, hdispatched⟩ := prepareDispatch_some hprepare
    have hunderway := hdispatched.underway hworkflow hstep res
    refine Tx.wp_mono (Tx.wp_and (recordOutcome_keeps hn hexecutes hunderway).wp
      (recordOutcome_recorded hn hexecutes)) (fun _ v hv submissions => ?_) fun _ _ => ?_
    · obtain ⟨hv, row, hrow, hrecorded⟩ := hv
      have hwritten : Writes A (started session.db workflowId position) v := hw.trans hv
      refine ⟨hstarted.trans hwritten, ?_, fun sub hsub => ?_, fun caseId => ?_⟩
      · exact hspends.trans (.none fun _ h => hwritten.due hno h)
      · rw [List.mem_singleton.mp hsub]
        exact ⟨hsanctioned, row, hrow, hrecorded⟩
      · exact (hcounted caseId).trans (hv.attemptsOf_le caseId)
    · exact ⟨hspent, fun sub hsub => List.mem_singleton.mp hsub ▸ hsanctioned⟩

/-! ## Whole requests -/

theorem nextPending_some {workflow : RecoveryWorkflow} {position : ℕ} {step : WorkflowStep}
    (h : nextPending workflow = some (position, step)) :
    workflow.steps[position]? = some step ∧ step.isPending = true :=
  Table.find?_some h

/-- A step that is started and carried out, of whatever type. -/
theorem runStep_follows (env : Env) (provider : Provider) {workflowId : UUID} {position : ℕ}
    {step : WorkflowStep} (override : Dict) {session : Session} {workflow : RecoveryWorkflow}
    (hno : ∀ id, ¬A.creates id) (hn : ¬A.numbered) (hexecutes : A.executes workflowId)
    (hworkflow : session.db.workflows[workflowId]? = some workflow)
    (hstep : workflow.steps[position]? = some step) (hpending : step.isPending = true) :
    Req.Follows (executionTrace A) session (do
      onDb (startStep workflowId position)
      runStep env provider workflowId position step workflow.caseId override) := by
  have hdb : ∀ x : Service Unit, (∀ t, Keeps A t x) → Req.Follows (executionTrace A) session (do
      onDb (startStep workflowId position)
      onDb x) :=
    fun x hx => .bind (onDb_follows hno (startStep_keeps hexecutes)) fun _ _ _ _ _ =>
      onDb_follows hno (hx _)
  unfold runStep
  cases htype : step.stepType with
  | VALIDATE_AUTHORIZATION => exact hdb _ fun _ => executeValidateAuthorization_keeps hn hexecutes
  | WAIT_COOLDOWN => exact hdb _ fun _ => executeWaitCooldown_keeps hexecutes
  | DISPATCH_PAYMENT_RETRY => exact dispatch_follows hno hn hexecutes hworkflow hstep hpending htype
  | AWAIT_VERIFICATION => exact hdb _ fun _ => executeAwaitVerification_keeps hexecutes
  | DISPATCH_COMMUNICATION => exact hdb _ fun _ => executeGeneric_keeps hexecutes
  | CREATE_SUPPORT_TASK => exact hdb _ fun _ => executeGeneric_keeps hexecutes

/-- Raising before anything was sent. -/
theorem throw_follows {α : Type} {session : Session} (fault : Fault) :
    Req.Follows (executionTrace A) session (throw fault : Exec α) :=
  .of_throw ⟨.none fun _ h => h.elim, by simp⟩

theorem executeNextStep_follows {env : Env} {provider : Provider} {workflowId : UUID}
    {override : Dict} {session : Session} (hno : ∀ id, ¬A.creates id) (hn : ¬A.numbered)
    (hexecutes : A.executes workflowId) :
    Req.Follows (executionTrace A) session (executeNextStep env provider workflowId override) := by
  refine .get_bind ?_
  rcases hworkflow : session.db.workflows[workflowId]? with _ | workflow
  · exact throw_follows _
  refine .ite (fun _ => throw_follows _) fun _ => ?_
  rcases session.db.recoveryCases[workflow.caseId]? with _ | case
  · exact throw_follows _
  dsimp only
  rcases hnext : nextPending workflow with _ | ⟨position, step⟩
  · have hcompleted : Keeps A session.db
        (modify fun s => s.setWorkflowStatus workflowId .COMPLETED) :=
      .of_modify (setWorkflowStatus_write hexecutes)
    exact .bind (onDb_follows hno hcompleted) fun _ _ _ _ _ => .of_pure _
  · obtain ⟨hstep, hpending⟩ := nextPending_some hnext
    have hrun := runStep_follows env provider override hno hn hexecutes hworkflow hstep hpending
    dsimp only
    rw [← Req.bind_assoc]
    exact .bind hrun fun _ _ _ _ _ => .get_bind (.of_pure _)

/-- The loop of a request, by induction on the iterations left. -/
theorem runAvailableSteps_follows {env : Env} {provider : Provider} {workflowId : UUID}
    {override : Dict} (hno : ∀ id, ¬A.creates id) (hn : ¬A.numbered)
    (hexecutes : A.executes workflowId) (iterations : ℕ) {session : Session} :
    Req.Follows (executionTrace A) session
      (runAvailableSteps env provider workflowId override iterations) := by
  induction iterations generalizing session with
  | zero => exact .of_pure _
  | succ iterations ih =>
    refine .get_bind ?_
    rcases session.db.workflows[workflowId]? with _ | workflow
    · exact throw_follows _
    refine .ite (fun _ => .of_pure _) fun _ => .ite (fun _ => ?_) fun _ => ?_
    · exact onDb_follows hno (.of_modify (setWorkflowStatus_write hexecutes))
    · refine .bind (executeNextStep_follows hno hn hexecutes) fun _ _ _ _ _ => ?_
      exact .ite (fun _ => .of_pure _) fun _ => ih

/-- What holds of every execution request, whatever its rows and answers. -/
theorem execute_follows {env : Env} {provider : Provider} {workflowId : UUID} {executeAll : Bool}
    {override : Dict} {session : Session} (hno : ∀ id, ¬A.creates id) (hn : ¬A.numbered)
    (hexecutes : A.executes workflowId) :
    Req.Follows (executionTrace A) session
      (execute env provider workflowId executeAll override) := by
  refine .ite (fun _ => ?_) fun _ => ?_
  · refine .get_bind ?_
    rcases session.db.workflows[workflowId]? with _ | workflow
    · exact throw_follows _
    · exact runAvailableSteps_follows hno hn hexecutes _
  · exact .bind (executeNextStep_follows hno hn hexecutes) fun _ _ _ _ _ => .of_pure _

end WorkflowExecutionService

end RevenueRescue
