import RevenueRescue.Refinement.Commit
import RevenueRescue.Refinement.Moves

/-!
# What the execution of one step does

A call of `execute_next_step` that ends normally either found no step to run and completed the
workflow, or it ran the first pending step with one of five outcomes. An outcome fixes the new
status of the step and of the workflow, and whether the case is moved; everything that later
results say about workflows is by cases on it.
-/

namespace RevenueRescue

open Python

/-- How the execution of a step ended. -/
inductive StepOutcome where
  /-- The step was carried out. -/
  | completed
  /-- The validation was refused, and the case is moved. -/
  | invalid (target : RecoveryCaseState)
  /-- The dispatch was refused before anything was sent. -/
  | refused
  /-- The adapter answered the dispatch. -/
  | answered (status : ExecutionStatus)
  /-- The step waits for a verification. -/
  | waiting
  deriving DecidableEq, Repr

namespace StepOutcome

/-- The status of the step afterwards. -/
def stepStatus : StepOutcome → WorkflowStepStatus
  | .completed => .COMPLETED
  | .invalid _ => .FAILED
  | .refused => .FAILED
  | .answered .SUBMITTED => .COMPLETED
  | .answered .SUCCEEDED => .COMPLETED
  | .answered .UNKNOWN => .FAILED
  | .answered .FAILED => .FAILED
  | .answered .PENDING => .RUNNING
  | .answered .CANCELLED => .RUNNING
  | .waiting => .WAITING

/-- The status of the workflow afterwards. -/
def workflowStatus : StepOutcome → WorkflowStatus
  | .invalid _ => .FAILED
  | .refused => .FAILED
  | .answered .UNKNOWN => .REQUIRES_REVIEW
  | .answered .FAILED => .FAILED
  | .waiting => .WAITING
  | _ => .RUNNING

/-- The state to which the case is moved, if it is. -/
def target : StepOutcome → Option RecoveryCaseState
  | .invalid target => some target
  | .answered .SUBMITTED => some .VERIFICATION_PENDING
  | .answered .SUCCEEDED => some .VERIFICATION_PENDING
  | .answered .UNKNOWN => some .ESCALATED
  | _ => none

/-- The step wrote its workflow and nothing else. -/
def isLocal : StepOutcome → Bool
  | .completed | .refused | .waiting => true
  | _ => false

end StepOutcome

/-- What no execution changes of a step. -/
structure StepKept (before after : WorkflowStep) : Prop where
  stepIndex : after.stepIndex = before.stepIndex
  stepType : after.stepType = before.stepType
  idempotencyKey : after.idempotencyKey = before.idempotencyKey
  actionType : after.actionType = before.actionType

namespace WorkflowExecutionService

variable {env : Env} {provider : Provider} {workflowId : UUID} {override : Dict}
  {s t : Store} {session : Session} {workflow : RecoveryWorkflow} {position : ℕ}
  {step : WorkflowStep} {outcome : StepOutcome}

/-- The two logs are the same, or they have the entries of one transition of the case. -/
def LogsOnce (env : Env) (s : Store) (caseId : UUID) (t : Store) : Prop :=
  (t.transitions = s.transitions ∧ t.auditEvents = s.auditEvents) ∨
    ∃ case toState reasonCode actorType, CaseTransitionService.CarriesOut s caseId toState case ∧
      t.transitions = s.transitions ++ [CaseTransitionService.transitionEntry env s caseId case
        toState reasonCode actorType] ∧
      t.auditEvents = s.auditEvents ++ [CaseTransitionService.transitionRecord env s caseId case
        toState actorType]

/-- New attempts and executions are those of the case, and no recommendation is touched. -/
structure RetriesOf (caseId : UUID) (s t : Store) : Prop where
  attempts : ∀ attempt ∈ t.attempts,
    attempt.caseId = caseId ∨ ∃ before ∈ s.attempts, before.caseId = attempt.caseId
  executions : ∀ execution ∈ t.executions, execution.caseId = caseId ∨ execution ∈ s.executions
  decisions : t.decisions = s.decisions

/-- The rows after the step at a position ended with an outcome. -/
structure Took (env : Env) (workflowId : UUID) (s : Store) (workflow : RecoveryWorkflow)
    (position : ℕ) (step : WorkflowStep) (outcome : StepOutcome) (t : Store) : Prop where
  workflows : ∃ after, t.workflows = s.workflows.set workflowId
      { workflow with
        status := outcome.workflowStatus, steps := workflow.steps.set position after } ∧
    after.status = outcome.stepStatus ∧ StepKept step after
  moves : (outcome.target = none ∧ t.recoveryCases = s.recoveryCases) ∨
    ∃ target case, outcome.target = some target ∧
      CaseTransitionService.CarriesOut s workflow.caseId target case ∧
      t.recoveryCases = s.recoveryCases.modify workflow.caseId
        (CaseTransitionService.applyTransition env target)
  policyDecisions : t.policyDecisions = s.policyDecisions
  frame : outcome.isLocal = true → t = { s with workflows := t.workflows }
  logs : LogsOnce env s workflow.caseId t
  retries : RetriesOf workflow.caseId s t

/-- The state to which a refused validation moves the case. -/
def refusalTarget (result : RevalidationResult) : RecoveryCaseState :=
  if isIn "UNKNOWN" result.reasonCode then .ESCALATED else .STOPPED

/-- The rows let a payment retry for the case through to the adapter. -/
structure Allowed (env : Env) (s : Store) (caseId : UUID) (case : RecoveryCase)
    (txn : Transaction) (customer : Customer) : Prop where
  revalidated : ∃ result, WorkflowRevalidationService.revalidateForExecution env s caseId
    .RETRY_PAYMENT = .ok result ∧ result.allowed = true
  caseRow : s.recoveryCases[caseId]? = some case
  transactionRow : s.transactions[case.triggerTransactionId]? = some txn
  customerRow : s.customers[case.customerId]? = some customer

/-- Which outcomes a step can have, and why. -/
inductive Yields (env : Env) (provider : Provider) (override : Dict) (session : Session)
    (caseId : UUID) (step : WorkflowStep) : StepOutcome → Prop
  | validated (htype : step.stepType = .VALIDATE_AUTHORIZATION) (result : RevalidationResult)
      (h : WorkflowRevalidationService.revalidateForExecution env session.db caseId
        step.actionType = .ok result) (hallowed : result.allowed = true) :
    Yields env provider override session caseId step .completed
  | invalid (htype : step.stepType = .VALIDATE_AUTHORIZATION) (result : RevalidationResult)
      (h : WorkflowRevalidationService.revalidateForExecution env session.db caseId
        step.actionType = .ok result) (hrefused : result.allowed = false) :
    Yields env provider override session caseId step (.invalid (refusalTarget result))
  | carried (htype : step.stepType ∈ [WorkflowStepType.WAIT_COOLDOWN, .DISPATCH_COMMUNICATION,
      .CREATE_SUPPORT_TASK]) :
    Yields env provider override session caseId step .completed
  | waiting (htype : step.stepType = .AWAIT_VERIFICATION) :
    Yields env provider override session caseId step .waiting
  | refused (htype : step.stepType = .DISPATCH_PAYMENT_RETRY)
      (hanswers : ∃ result, WorkflowRevalidationService.revalidateForExecution env session.db caseId
        .RETRY_PAYMENT = .ok result)
      (h : ¬∃ case txn customer, Allowed env session.db caseId case txn customer) :
    Yields env provider override session caseId step .refused
  | answered (htype : step.stepType = .DISPATCH_PAYMENT_RETRY) (case : RecoveryCase)
      (txn : Transaction) (customer : Customer)
      (h : Allowed env session.db caseId case txn customer) (res : ExecutionResult)
      (executed : Bool) (hanswered : Answered session provider
        (buildRequest step caseId case txn customer override) res executed) :
    Yields env provider override session caseId step (.answered res.status)

/-! ## The rows of the workflow -/

/-- The store after the step at a position and the status of its workflow were written, with the
attempts and the executions of a dispatch. -/
def written (s : Store) (workflowId : UUID) (workflow : RecoveryWorkflow) (position : ℕ)
    (status : WorkflowStatus) (after : WorkflowStep) (attempts : List RecoveryAttempt)
    (executions : List RecoveryExecution) : Store :=
  { s with
    workflows := s.workflows.set workflowId
      { workflow with status, steps := workflow.steps.set position after }
    attempts, executions }

theorem dispatched_modifyStep (hrow : s.workflows[workflowId]? = some workflow)
    (hstep : workflow.steps[position]? = some step) (f : WorkflowStep → WorkflowStep)
    (attempts : List RecoveryAttempt) (executions : List RecoveryExecution) :
    { started s workflowId position with attempts, executions }.modifyStep workflowId position f =
      written s workflowId workflow position .RUNNING (f { step with status := .RUNNING }) attempts
        executions := by
  unfold started Store.setWorkflowStatus Store.modifyStep Store.modifyWorkflow
  dsimp only
  rw [List.modify_modify_eq, List.modify_modify_eq, Table.modify_eq_set hrow]
  dsimp only [Function.comp]
  rw [List.modify_modify_eq, Table.modify_eq_set hstep]
  rfl

theorem started_modifyStep (hrow : s.workflows[workflowId]? = some workflow)
    (hstep : workflow.steps[position]? = some step) (f : WorkflowStep → WorkflowStep) :
    (started s workflowId position).modifyStep workflowId position f =
      written s workflowId workflow position .RUNNING (f { step with status := .RUNNING }) s.attempts
        s.executions :=
  dispatched_modifyStep hrow hstep f s.attempts s.executions

variable {after : WorkflowStep} {attempts : List RecoveryAttempt}
  {executions : List RecoveryExecution}

theorem written_setWorkflowStatus (hrow : s.workflows[workflowId]? = some workflow)
    (before status : WorkflowStatus) :
    (written s workflowId workflow position before after attempts executions).setWorkflowStatus
        workflowId status =
      written s workflowId workflow position status after attempts executions := by
  have hlt : workflowId < s.workflows.length := (List.getElem?_eq_some_iff.mp hrow).1
  unfold written Store.setWorkflowStatus Store.modifyWorkflow
  dsimp only
  rw [Table.modify_eq_set (List.getElem?_set_self hlt), List.set_set]

/-- A step that ends without moving the case. -/
theorem Took.of_written (hkept : StepKept step after) (hstatus : after.status = outcome.stepStatus)
    (htarget : outcome.target = none)
    (hlocal : outcome.isLocal = true → attempts = s.attempts ∧ executions = s.executions)
    (hattempts : ∀ attempt ∈ attempts,
      attempt.caseId = workflow.caseId ∨ ∃ before ∈ s.attempts, before.caseId = attempt.caseId)
    (hexecutions : ∀ execution ∈ executions,
      execution.caseId = workflow.caseId ∨ execution ∈ s.executions) :
    Took env workflowId s workflow position step outcome
      (written s workflowId workflow position outcome.workflowStatus after attempts executions) := by
  refine ⟨⟨after, rfl, hstatus, hkept⟩, .inl ⟨htarget, rfl⟩, rfl, fun h => ?_, .inl ⟨rfl, rfl⟩,
    hattempts, hexecutions, rfl⟩
  obtain ⟨rfl, rfl⟩ := hlocal h
  rfl

/-- A step that ends without moving the case, and is no dispatch. -/
theorem Took.of_local (hkept : StepKept step after) (hstatus : after.status = outcome.stepStatus)
    (htarget : outcome.target = none) :
    Took env workflowId s workflow position step outcome (written s workflowId workflow position
      outcome.workflowStatus after s.attempts s.executions) :=
  .of_written hkept hstatus htarget (fun _ => ⟨rfl, rfl⟩) (fun attempt h => .inr ⟨attempt, h, rfl⟩)
    fun _ h => .inr h

/-- A step that ends with a move of the case. -/
theorem Took.of_transition {target : RecoveryCaseState} {reasonCode : String}
    {actorType : ActorType} {result : CaseTransitionService.TransitionResult}
    (h : CaseTransitionService.transition env workflow.caseId target reasonCode actorType
      (written s workflowId workflow position outcome.workflowStatus after attempts executions) =
        .ok (result, t))
    (hkept : StepKept step after) (hstatus : after.status = outcome.stepStatus)
    (htarget : outcome.target = some target)
    (hattempts : ∀ attempt ∈ attempts,
      attempt.caseId = workflow.caseId ∨ ∃ before ∈ s.attempts, before.caseId = attempt.caseId)
    (hexecutions : ∀ execution ∈ executions,
      execution.caseId = workflow.caseId ∨ execution ∈ s.executions) :
    Took env workflowId s workflow position step outcome t := by
  obtain ⟨case, hcarries, rfl⟩ := CaseTransitionService.of_transition h
  have hcarries : CaseTransitionService.CarriesOut s workflow.caseId target case :=
    hcarries.congr rfl rfl rfl
  have hlogs : LogsOnce env s workflow.caseId (CaseTransitionService.transitioned env
      (written s workflowId workflow position outcome.workflowStatus after attempts executions)
      workflow.caseId case target reasonCode actorType) :=
    .inr ⟨case, target, reasonCode, actorType, hcarries, rfl, rfl⟩
  have hmoved : outcome.isLocal = false := by
    cases outcome with
    | invalid _ => rfl
    | answered _ => rfl
    | completed => cases htarget
    | refused => cases htarget
    | waiting => cases htarget
  refine ⟨⟨after, rfl, hstatus, hkept⟩, .inr ⟨target, case, htarget, hcarries, rfl⟩, rfl, ?_, hlogs,
    hattempts, hexecutions, rfl⟩
  rw [hmoved]
  exact fun h => absurd h Bool.false_ne_true

/-- A validation passes, or it fails its workflow and moves the case. -/
theorem executeValidateAuthorization_took
    (hrow : session.db.workflows[workflowId]? = some workflow)
    (hstep : workflow.steps[position]? = some step)
    (htype : step.stepType = .VALIDATE_AUTHORIZATION) {x : Unit}
    (h : executeValidateAuthorization env workflowId position step workflow.caseId
      (started session.db workflowId position) = .ok (x, t)) :
    ∃ outcome, Yields env provider override session workflow.caseId step outcome ∧
      Took env workflowId session.db workflow position step outcome t := by
  unfold executeValidateAuthorization at h
  rw [Tx.get_bind_apply] at h
  rcases hreval : WorkflowRevalidationService.revalidateForExecution env
    (started session.db workflowId position) workflow.caseId step.actionType with fault | result
  · rw [hreval] at h
    cases h
  rw [hreval] at h
  dsimp only at h
  by_cases hallowed : result.allowed = true
  · rw [if_pos hallowed] at h
    cases h
    refine ⟨.completed, .validated htype result hreval hallowed, ?_⟩
    dsimp only
    rw [started_modifyStep hrow hstep]
    exact .of_local ⟨rfl, rfl, rfl, rfl⟩ rfl rfl
  · rw [if_neg hallowed, Tx.modify_bind_apply, Tx.modify_bind_apply, started_modifyStep hrow hstep,
      written_setWorkflowStatus hrow] at h
    obtain ⟨_, u, hmove, h⟩ := Tx.bind_eq_ok.mp h
    cases h
    refine ⟨.invalid (refusalTarget result),
      .invalid htype result hreval (Bool.eq_false_of_not_eq_true hallowed), ?_⟩
    exact .of_transition hmove ⟨rfl, rfl, rfl, rfl⟩ rfl rfl
      (fun attempt h => .inr ⟨attempt, h, rfl⟩) fun _ h => .inr h

/-- What an answer makes of the step agrees with the outcome. -/
theorem finishStep_status (res : ExecutionResult) (step : WorkflowStep) :
    (finishStep res { step with status := .RUNNING }).status =
        (StepOutcome.answered res.status).stepStatus ∧
      StepKept step (finishStep res { step with status := .RUNNING }) := by
  unfold finishStep
  cases res.status <;> exact ⟨rfl, rfl, rfl, rfl, rfl⟩

/-- Recording an answer below the ceiling of attempts. -/
theorem recordOutcome_took (hrow : s.workflows[workflowId]? = some workflow)
    (hstep : workflow.steps[position]? = some step) {prepared : PreparedRetry}
    {res : ExecutionResult} (hbudget : prepared.priorAttempts < 4)
    (hattempts : ∀ attempt ∈ attempts,
      attempt.caseId = workflow.caseId ∨ ∃ before ∈ s.attempts, before.caseId = attempt.caseId)
    {x : Unit}
    (h : recordOutcome env workflowId position step workflow.caseId prepared res
      { started s workflowId position with attempts } = .ok (x, t)) :
    Took env workflowId s workflow position step (.answered res.status) t := by
  obtain ⟨hstatus, hkept⟩ := finishStep_status res step
  unfold recordOutcome at h
  obtain ⟨_, u, hinsert, h⟩ := Tx.bind_eq_ok.mp h
  rw [insertExecution_apply] at hinsert
  split at hinsert
  · cases hinsert
  cases hinsert
  unfold applyOutcome at h
  rw [Tx.modify_bind_apply, Tx.modify_bind_apply] at h
  dsimp only at h
  rw [dispatched_modifyStep hrow hstep] at h
  have hmodified : ∀ attempt ∈ attempts.modify prepared.attemptId (finishAttempt res),
      attempt.caseId = workflow.caseId ∨
        ∃ before ∈ s.attempts, before.caseId = attempt.caseId := by
    refine Table.forall_modify hattempts fun attempt _ hknown => ?_
    rw [(finishAttempt_step res attempt).caseId]
    exact hknown
  have hexecuted : ∀ execution ∈ s.executions ++
      [newExecution workflowId step workflow.caseId res],
      execution.caseId = workflow.caseId ∨ execution ∈ s.executions :=
    Table.forall_append_one (fun _ h => .inr h) (.inl rfl)
  have hfinished : ∀ {attempts executions},
      (written s workflowId workflow position .RUNNING
        (finishStep res { step with status := .RUNNING }) attempts executions).modifyAttempt
          prepared.attemptId (finishAttempt res) =
        written s workflowId workflow position .RUNNING
          (finishStep res { step with status := .RUNNING })
          (attempts.modify prepared.attemptId (finishAttempt res)) executions := rfl
  rw [hfinished] at h
  cases hanswer : res.status with
  | PENDING =>
    rw [hanswer] at h hstatus
    cases h
    exact .of_written hkept hstatus rfl (fun h => by cases h) hmodified hexecuted
  | CANCELLED =>
    rw [hanswer] at h hstatus
    cases h
    exact .of_written hkept hstatus rfl (fun h => by cases h) hmodified hexecuted
  | SUBMITTED =>
    rw [hanswer] at h hstatus
    obtain ⟨_, v, hmove, h⟩ := Tx.bind_eq_ok.mp h
    cases h
    exact .of_transition hmove hkept hstatus rfl hmodified hexecuted
  | SUCCEEDED =>
    rw [hanswer] at h hstatus
    obtain ⟨_, v, hmove, h⟩ := Tx.bind_eq_ok.mp h
    cases h
    exact .of_transition hmove hkept hstatus rfl hmodified hexecuted
  | UNKNOWN =>
    rw [hanswer] at h hstatus
    obtain ⟨_, w, hset, h⟩ := Tx.bind_eq_ok.mp h
    cases hset
    dsimp only at h
    rw [written_setWorkflowStatus hrow] at h
    obtain ⟨_, v, hmove, h⟩ := Tx.bind_eq_ok.mp h
    cases h
    exact .of_transition hmove hkept hstatus rfl hmodified hexecuted
  | FAILED =>
    have hnone : transitionAfter .FAILED prepared.priorAttempts = none :=
      if_neg (Nat.not_le.mpr hbudget)
    rw [hanswer, hnone] at h
    rw [hanswer] at hstatus
    cases h
    dsimp only
    rw [written_setWorkflowStatus hrow]
    exact .of_written hkept hstatus rfl (fun h => by cases h) hmodified hexecuted

/-! ## The dispatch step -/

/-- An answer of the adapter comes from its memory or from the provider. -/
theorem submitRetry_ok {prepared : PreparedRetry} {sent : List Submission} {res : ExecutionResult}
    {u : Session} (h : submitRetry env provider workflowId position prepared session =
      (sent, .ok (res, u))) :
    u.db = session.db ∧ ∃ executed, Answered session provider prepared.request res executed := by
  unfold submitRetry at h
  rw [Req.get_bind_apply] at h
  dsimp only at h
  rcases hlookup : session.submissions.lookup prepared.request.idempotencyKey with _ | existing
  · rw [hlookup] at h
    obtain ⟨_, _, v, _, hcall, h⟩ := Req.of_bind_eq_ok h
    cases hcall
    rcases hprovider : provider prepared.request with _ | answer
    · rw [hprovider] at h
      cases h
    · rw [hprovider] at h
      cases h
      exact ⟨rfl, true, .sent res hlookup hprovider⟩
  · rw [hlookup] at h
    cases h
    exact ⟨rfl, false, .remembered res hlookup⟩

/-- A dispatch is only refused when the revalidation does not allow it or a row is missing. -/
theorem not_allowed_of_prepareDispatch {caseId : UUID}
    (h : prepareDispatch env workflowId position step caseId override s = .ok (none, t)) :
    (∃ result, WorkflowRevalidationService.revalidateForExecution env s caseId .RETRY_PAYMENT =
      .ok result) ∧ ¬∃ case txn customer, Allowed env s caseId case txn customer := by
  unfold prepareDispatch at h
  rw [Tx.get_bind_apply] at h
  rcases hreval : WorkflowRevalidationService.revalidateForExecution env s caseId .RETRY_PAYMENT
    with fault | result
  · rw [hreval] at h
    cases h
  refine ⟨⟨result, rfl⟩, ?_⟩
  rintro ⟨case, txn, customer, ⟨found, hfound, hallowed⟩, hcase, htxn, hcustomer⟩
  obtain rfl : result = found := Except.ok.inj (hreval.symm.trans hfound)
  rw [hreval] at h
  dsimp only at h
  rw [if_pos hallowed, hcase] at h
  dsimp only at h
  rw [htxn, hcustomer] at h
  obtain ⟨_, _, -, h⟩ := Tx.bind_eq_ok.mp h
  cases h

/-- The revalidation does not read the workflows. -/
theorem Allowed.of_started {caseId : UUID} {case : RecoveryCase} {txn : Transaction}
    {customer : Customer}
    (h : Allowed env (started s workflowId position) caseId case txn customer) :
    Allowed env s caseId case txn customer :=
  ⟨h.revalidated, h.caseRow, h.transactionRow, h.customerRow⟩

theorem Allowed.started {caseId : UUID} {case : RecoveryCase} {txn : Transaction}
    {customer : Customer} (h : Allowed env s caseId case txn customer) :
    Allowed env (started s workflowId position) caseId case txn customer :=
  ⟨h.revalidated, h.caseRow, h.transactionRow, h.customerRow⟩

/-- A dispatch is refused, or its answer is recorded. -/
theorem executeDispatchPaymentRetry_took
    (hrow : session.db.workflows[workflowId]? = some workflow)
    (hstep : workflow.steps[position]? = some step)
    (htype : step.stepType = .DISPATCH_PAYMENT_RETRY) {sent : List Submission} {x : Unit}
    {u : Session}
    (h : executeDispatchPaymentRetry env provider workflowId position step workflow.caseId override
      { session with db := started session.db workflowId position } = (sent, .ok (x, u))) :
    ∃ outcome, Yields env provider override session workflow.caseId step outcome ∧
      Took env workflowId session.db workflow position step outcome u.db ∧
      (outcome.isLocal = true → u.submissions = session.submissions) := by
  unfold executeDispatchPaymentRetry at h
  obtain ⟨_, prepared, v, _, hdb, h⟩ := Req.of_bind_eq_ok h
  obtain ⟨t, hprepare, rfl⟩ := Req.of_onPart_eq_ok hdb
  rcases prepareDispatch_ok hprepare with
    ⟨rfl, message, executedAt, rfl⟩ | ⟨prepared', case, txn, customer, rfl, hdispatched⟩
  · cases h
    obtain ⟨hanswers, hrefused⟩ := not_allowed_of_prepareDispatch hprepare
    refine ⟨.refused, .refused htype hanswers ?_, ?_, fun _ => rfl⟩
    · rintro ⟨case, txn, customer, hallowed⟩
      exact hrefused ⟨case, txn, customer, hallowed.started⟩
    · unfold refused
      rw [started_modifyStep hrow hstep, written_setWorkflowStatus hrow]
      exact .of_local ⟨rfl, rfl, rfl, rfl⟩ rfl rfl
  · obtain ⟨_, res, w, _, hsubmit, h⟩ := Req.of_bind_eq_ok h
    obtain ⟨hdb, executed, hanswered⟩ := submitRetry_ok hsubmit
    obtain ⟨v, hrecord, rfl⟩ := Req.of_onPart_eq_ok h
    have hallowed : Allowed env (started session.db workflowId position) workflow.caseId case txn
        customer :=
      ⟨hdispatched.revalidated, hdispatched.cleared.caseRow, hdispatched.transactionRow,
        hdispatched.customerRow⟩
    have hrequest := hdispatched.request
    have hbudget : prepared'.priorAttempts < 4 := by
      rw [hdispatched.priorAttempts]
      exact hdispatched.cleared.budget
    refine ⟨.answered res.status, .answered htype case txn customer hallowed.of_started res
      executed ?_, ?_, fun h => by cases h⟩
    · rw [← hrequest]
      cases hanswered with
      | remembered h => exact .remembered res h
      | sent h hres => exact .sent res h hres
    · rw [hdb, hdispatched.after] at hrecord
      refine recordOutcome_took hrow hstep hbudget ?_ hrecord
      exact Table.forall_append_one (fun attempt h => .inr ⟨attempt, h, rfl⟩) (.inl rfl)

/-! ## One step -/

/-- What a call of `execute_next_step` that ends normally did to the session. -/
inductive Stepped (env : Env) (provider : Provider) (workflowId : UUID) (override : Dict)
    (session : Session) (workflow : RecoveryWorkflow) : Session → Prop
  | finished (hnext : nextPending workflow = none) :
    Stepped env provider workflowId override session workflow
      { session with db := session.db.setWorkflowStatus workflowId .COMPLETED }
  | ran (position : ℕ) (step : WorkflowStep) (outcome : StepOutcome) (u : Session)
      (hnext : nextPending workflow = some (position, step))
      (hyields : Yields env provider override session workflow.caseId step outcome)
      (htook : Took env workflowId session.db workflow position step outcome u.db)
      (hsame : (outcome.isLocal = true → u.submissions = session.submissions)) :
    Stepped env provider workflowId override session workflow u

/-- A step of whatever type. -/
theorem runStep_took (hrow : session.db.workflows[workflowId]? = some workflow)
    (hstep : workflow.steps[position]? = some step) {sent : List Submission} {x : Unit}
    {u : Session}
    (h : runStep env provider workflowId position step workflow.caseId override
      { session with db := started session.db workflowId position } = (sent, .ok (x, u))) :
    ∃ outcome, Yields env provider override session workflow.caseId step outcome ∧
      Took env workflowId session.db workflow position step outcome u.db ∧
      (outcome.isLocal = true → u.submissions = session.submissions) := by
  have hcarried : step.stepType ∈ [WorkflowStepType.WAIT_COOLDOWN, .DISPATCH_COMMUNICATION,
      .CREATE_SUPPORT_TASK] →
      ∀ v, onDb (executeGeneric env workflowId position)
          { session with db := started session.db workflowId position } = (sent, .ok (x, v)) →
        ∃ outcome, Yields env provider override session workflow.caseId step outcome ∧
          Took env workflowId session.db workflow position step outcome v.db ∧
          (outcome.isLocal = true → v.submissions = session.submissions) := by
    intro htype v hv
    cases hv
    refine ⟨.completed, .carried htype, ?_, fun _ => rfl⟩
    dsimp only
    rw [started_modifyStep hrow hstep]
    exact .of_local ⟨rfl, rfl, rfl, rfl⟩ rfl rfl
  unfold runStep at h
  cases htype : step.stepType with
  | VALIDATE_AUTHORIZATION =>
    rw [htype] at h
    obtain ⟨t, hvalidate, rfl⟩ := Req.of_onPart_eq_ok h
    have htook : ∃ outcome, Yields env provider override session workflow.caseId step outcome ∧
        Took env workflowId session.db workflow position step outcome t :=
      executeValidateAuthorization_took hrow hstep htype hvalidate
    obtain ⟨outcome, hyields, htook⟩ := htook
    exact ⟨outcome, hyields, htook, fun _ => rfl⟩
  | WAIT_COOLDOWN =>
    rw [htype] at h hcarried
    exact hcarried (by decide) u h
  | DISPATCH_PAYMENT_RETRY =>
    rw [htype] at h
    exact executeDispatchPaymentRetry_took hrow hstep htype h
  | AWAIT_VERIFICATION =>
    rw [htype] at h
    cases h
    refine ⟨.waiting, .waiting htype, ?_, fun _ => rfl⟩
    dsimp only
    rw [started_modifyStep hrow hstep, written_setWorkflowStatus hrow]
    exact .of_local ⟨rfl, rfl, rfl, rfl⟩ rfl rfl
  | DISPATCH_COMMUNICATION =>
    rw [htype] at h hcarried
    exact hcarried (by decide) u h
  | CREATE_SUPPORT_TASK =>
    rw [htype] at h hcarried
    exact hcarried (by decide) u h

/-- A call that ends normally found its workflow open and its case, and took a step. -/
theorem executeNextStep_stepped {sent : List Submission} {result : Option WorkflowStep}
    {u : Session}
    (h : executeNextStep env provider workflowId override session = (sent, .ok (result, u))) :
    ∃ workflow, session.db.workflows[workflowId]? = some workflow ∧
      workflow.status ∉ [WorkflowStatus.COMPLETED, .FAILED, .CANCELLED] ∧
      Stepped env provider workflowId override session workflow u := by
  unfold executeNextStep at h
  rw [Req.get_bind_apply] at h
  rcases hrow : session.db.workflows[workflowId]? with _ | workflow
  · rw [hrow] at h
    cases h
  rw [hrow] at h
  dsimp only at h
  by_cases hclosed : workflow.status ∈ [WorkflowStatus.COMPLETED, .FAILED, .CANCELLED]
  · rw [if_pos hclosed] at h
    cases h
  rw [if_neg hclosed] at h
  refine ⟨workflow, rfl, hclosed, ?_⟩
  rcases hcase : session.db.recoveryCases[workflow.caseId]? with _ | case
  · rw [hcase] at h
    cases h
  rw [hcase] at h
  dsimp only at h
  rcases hnext : nextPending workflow with _ | ⟨position, step⟩
  · rw [hnext] at h
    cases h
    exact .finished hnext
  · rw [hnext] at h
    obtain ⟨_, _, v, _, hstart, h⟩ := Req.of_bind_eq_ok h
    cases hstart
    obtain ⟨_, x, w, _, hrun, h⟩ := Req.of_bind_eq_ok h
    cases h
    obtain ⟨outcome, hyields, htook, hsame⟩ := runStep_took hrow (nextPending_some hnext).1 hrun
    exact .ran position step outcome _ hnext hyields htook hsame

/-! ## One request -/

/-- The sessions in which the loop calls `execute_next_step`. -/
def loopCalls (env : Env) (provider : Provider) (workflowId : UUID) (override : Dict) :
    ℕ → Session → List Session
  | 0, _ => []
  | iterations + 1, session =>
    match session.db.workflows[workflowId]? with
    | none => []
    | some workflow =>
      if workflow.status ∈ stoppingStatuses then []
      else if (nextPending workflow).isNone then []
      else session ::
        match executeNextStep env provider workflowId override session with
        | (_, .ok (step, after)) =>
          if step.any fun step => step.status == .WAITING || step.status == .FAILED then []
          else loopCalls env provider workflowId override iterations after
        | (_, .error _) => []

/-- The sessions in which a request calls `execute_next_step`. -/
def stepCalls (env : Env) (provider : Provider) (workflowId : UUID) (executeAll : Bool)
    (override : Dict) (s : Store) : List Session :=
  if executeAll then
    match s.workflows[workflowId]? with
    | none => []
    | some workflow =>
      loopCalls env provider workflowId override (workflow.steps.length + 2) ⟨s, []⟩
  else [⟨s, []⟩]

/-- What one step of a request that started in a session keeps. -/
def KeptBySteps (env : Env) (provider : Provider) (workflowId : UUID) (executeAll : Bool)
    (override : Dict) (start : Session) (I : Session → Prop) : Prop :=
  ∀ u workflow t, I u → u.db.workflows[workflowId]? = some workflow →
    workflow.status ∉ refusedStatuses executeAll → (executeAll = false → u = start) →
    Stepped env provider workflowId override u workflow t → I t

variable {executeAll : Bool} {I : Session → Prop} {start : Session}

/-- A step that the loop takes keeps what steps keep. -/
theorem KeptBySteps.call {u t : Session} {sent : List Submission} {step : Option WorkflowStep}
    (hkept : KeptBySteps env provider workflowId true override start I) (hu : I u)
    (hrow : u.db.workflows[workflowId]? = some workflow) (hstop : workflow.status ∉ stoppingStatuses)
    (h : executeNextStep env provider workflowId override u = (sent, .ok (step, t))) : I t := by
  obtain ⟨found, hfound, -, hstepped⟩ := executeNextStep_stepped h
  obtain rfl : found = workflow := Option.some.inj (hfound.symm.trans hrow)
  exact hkept u found t hu hrow hstop (fun h => by cases h) hstepped

/-- What every step keeps, the loop keeps, by induction on the iterations left. -/
theorem runAvailableSteps_invariant
    (hkept : KeptBySteps env provider workflowId true override start I) (iterations : ℕ)
    {u t : Session} (hu : I u) {sent : List Submission} {x : Unit}
    (h : runAvailableSteps env provider workflowId override iterations u = (sent, .ok (x, t))) :
    I t := by
  induction iterations generalizing u sent with
  | zero =>
    cases h
    exact hu
  | succ iterations ih =>
    unfold runAvailableSteps at h
    rw [Req.get_bind_apply] at h
    rcases hrow : u.db.workflows[workflowId]? with _ | workflow
    · rw [hrow] at h
      cases h
    rw [hrow] at h
    dsimp only at h
    by_cases hstop : workflow.status ∈ stoppingStatuses
    · rw [if_pos (show workflow.status ∈ [WorkflowStatus.COMPLETED, .FAILED, .CANCELLED, .WAITING,
        .REQUIRES_REVIEW] from hstop)] at h
      cases h
      exact hu
    rw [if_neg (show workflow.status ∉ [WorkflowStatus.COMPLETED, .FAILED, .CANCELLED, .WAITING,
      .REQUIRES_REVIEW] from hstop)] at h
    rcases hnext : nextPending workflow with _ | next
    · rw [hnext] at h
      cases h
      exact hkept u workflow _ hu hrow hstop (fun h => by cases h) (.finished hnext)
    rw [hnext, if_neg (by simp)] at h
    obtain ⟨_, step, v, _, hstep, h⟩ := Req.of_bind_eq_ok h
    have hv : I v := hkept.call hu hrow hstop hstep
    by_cases hends : (step.any fun step => step.status == .WAITING || step.status == .FAILED) = true
    · rw [if_pos hends] at h
      cases h
      exact hv
    · rw [if_neg hends] at h
      exact ih hv h

/-- What every step keeps, a request keeps. -/
theorem execute_invariant (hkept : KeptBySteps env provider workflowId executeAll override start I)
    (hstart : I start) {t : Session} {sent : List Submission} {x : Unit}
    (h : execute env provider workflowId executeAll override start = (sent, .ok (x, t))) :
    I t := by
  unfold execute at h
  cases executeAll with
  | true =>
    rw [if_pos rfl] at h
    unfold executeAllAvailableSteps at h
    rw [Req.get_bind_apply] at h
    rcases hrow : start.db.workflows[workflowId]? with _ | workflow
    · rw [hrow] at h
      cases h
    · rw [hrow] at h
      exact runAvailableSteps_invariant hkept _ hstart h
  | false =>
    rw [if_neg Bool.false_ne_true] at h
    obtain ⟨_, step, u, _, hstep, h⟩ := Req.of_bind_eq_ok h
    cases h
    obtain ⟨workflow, hrow, hopen, hstepped⟩ := executeNextStep_stepped hstep
    exact hkept start workflow _ hstart hrow hopen (fun _ => rfl) hstepped

/-- A request that ends normally found its workflow. -/
theorem execute_workflow {t : Session} {sent : List Submission} {x : Unit}
    (h : execute env provider workflowId executeAll override start = (sent, .ok (x, t))) :
    ∃ workflow, start.db.workflows[workflowId]? = some workflow := by
  unfold execute at h
  cases executeAll with
  | true =>
    rw [if_pos rfl] at h
    unfold executeAllAvailableSteps at h
    rw [Req.get_bind_apply] at h
    rcases hrow : start.db.workflows[workflowId]? with _ | workflow
    · rw [hrow] at h
      cases h
    · exact ⟨workflow, rfl⟩
  | false =>
    rw [if_neg Bool.false_ne_true] at h
    obtain ⟨_, _, _, _, hstep, -⟩ := Req.of_bind_eq_ok h
    obtain ⟨workflow, hrow, -⟩ := executeNextStep_stepped hstep
    exact ⟨workflow, hrow⟩

/-- Each call of the loop finds what every step keeps, and its workflow not stopped. -/
theorem loopCalls_invariant (hkept : KeptBySteps env provider workflowId true override start I)
    (iterations : ℕ) {u : Session} (hu : I u) :
    ∀ v ∈ loopCalls env provider workflowId override iterations u, I v ∧
      ∀ workflow, v.db.workflows[workflowId]? = some workflow →
        workflow.status ∉ stoppingStatuses := by
  induction iterations generalizing u with
  | zero => exact fun _ h => absurd h List.not_mem_nil
  | succ iterations ih =>
    intro v hv
    unfold loopCalls at hv
    rcases hrow : u.db.workflows[workflowId]? with _ | workflow
    · rw [hrow] at hv
      exact absurd hv List.not_mem_nil
    rw [hrow] at hv
    dsimp only at hv
    by_cases hstop : workflow.status ∈ stoppingStatuses
    · rw [if_pos hstop] at hv
      exact absurd hv List.not_mem_nil
    rw [if_neg hstop] at hv
    split at hv
    · exact absurd hv List.not_mem_nil
    rcases List.mem_cons.mp hv with rfl | hv
    · refine ⟨hu, fun found hfound => ?_⟩
      obtain rfl : found = workflow := Option.some.inj (hfound.symm.trans hrow)
      exact hstop
    rcases hstep : executeNextStep env provider workflowId override u with
      ⟨sent, fault | ⟨step, t⟩⟩
    · rw [hstep] at hv
      exact absurd hv List.not_mem_nil
    rw [hstep] at hv
    dsimp only at hv
    split at hv
    · exact absurd hv List.not_mem_nil
    · exact ih (hkept.call hu hrow hstop hstep) v hv

/-- Each call of a request finds what every step keeps; a single step is called on the rows
before the request, and the loop goes on only while the workflow is not stopped. -/
theorem stepCalls_invariant {s : Store}
    (hkept : KeptBySteps env provider workflowId executeAll override ⟨s, []⟩ I)
    (hstart : I ⟨s, []⟩) :
    ∀ v ∈ stepCalls env provider workflowId executeAll override s, I v ∧
      (executeAll = false → v = ⟨s, []⟩) ∧
      (executeAll = true → ∀ workflow, v.db.workflows[workflowId]? = some workflow →
        workflow.status ∉ stoppingStatuses) := by
  intro v hv
  unfold stepCalls at hv
  cases executeAll with
  | true =>
    rw [if_pos rfl] at hv
    rcases hrow : s.workflows[workflowId]? with _ | workflow
    · rw [hrow] at hv
      exact absurd hv List.not_mem_nil
    rw [hrow] at hv
    obtain ⟨hv, hstop⟩ := loopCalls_invariant hkept _ hstart v hv
    exact ⟨hv, fun h => (by cases h), fun _ => hstop⟩
  | false =>
    rw [if_neg Bool.false_ne_true, List.mem_singleton] at hv
    subst hv
    exact ⟨hstart, fun _ => rfl, fun h => by cases h⟩

end WorkflowExecutionService

end RevenueRescue
