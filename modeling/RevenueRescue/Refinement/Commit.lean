import RevenueRescue.Refinement.Chain
import RevenueRescue.Refinement.StepKeys

/-!
# Dispatches that commit

A call of `submit_retry` shares the transaction of its request, so the request must not
raise after the call. Where the adapter answers, the process survives and the transition
that follows finds its number free, it does not: before the call every fault leaves nothing
sent, and after it only steps remain that cannot fail.
-/

namespace RevenueRescue

open Python

variable {s : Store}

/-- The statuses at which a request that runs the whole workflow stops. -/
def stoppingStatuses : List WorkflowStatus :=
  [.COMPLETED, .FAILED, .CANCELLED, .WAITING, .REQUIRES_REVIEW]

/-- The statuses at which a request refuses to go on. -/
def refusedStatuses (executeAll : Bool) : List WorkflowStatus :=
  if executeAll then stoppingStatuses else [.COMPLETED, .FAILED, .CANCELLED]

/-- A request on these rows gets to the dispatch step at a position. -/
structure Reaches (env : Env) (s : Store) (workflowId : UUID) (executeAll : Bool)
    (workflow : RecoveryWorkflow) (position : ℕ) (step : WorkflowStep) (case : RecoveryCase)
    (txn : Transaction) (customer : Customer) : Prop where
  workflowRow : s.workflows[workflowId]? = some workflow
  running : workflow.status ∉ refusedStatuses executeAll
  stepRow : workflow.steps[position]? = some step
  pending : step.isPending = true
  dispatch : step.stepType = .DISPATCH_PAYMENT_RETRY
  next : executeAll = false →
    WorkflowExecutionService.nextPending workflow = some (position, step)
  cleared : ∃ result, WorkflowRevalidationService.revalidateForExecution env s workflow.caseId
    .RETRY_PAYMENT = .ok result ∧ result.allowed = true
  caseRow : s.recoveryCases[workflow.caseId]? = some case
  transactionRow : s.transactions[case.triggerTransactionId]? = some txn
  customerRow : s.customers[case.customerId]? = some customer

/-- Nothing keeps the call from being committed: the process survives, the adapter answers, and
an answer that moves the case finds the next transition number free in the audit log. -/
structure Unbroken (env : Env) (provider : Provider) (s : Store) (caseId : UUID)
    (request : PaymentRetryRequest) : Prop where
  survives : env.crash = false
  answered : provider request ≠ none
  numberFree : ∀ res, provider request = some res →
    res.status ∈ [ExecutionStatus.SUBMITTED, .SUCCEEDED, .UNKNOWN] →
    s.nextTransitionNumber caseId ∉ s.auditNumbers caseId

/-- A request on these rows that gets to a dispatch step is not broken off after the call. -/
def DispatchCommits (env : Env) (provider : Provider) (s : Store) (workflowId : UUID)
    (executeAll : Bool) (override : Dict) : Prop :=
  ∀ workflow position step case txn customer,
    Reaches env s workflowId executeAll workflow position step case txn customer →
    Unbroken env provider s workflow.caseId
      (WorkflowExecutionService.buildRequest step workflow.caseId case txn customer override)

/-! ## Steps that cannot fail -/

/-- Neither validates nor dispatches. -/
def WorkflowStepType.isHarmless (stepType : WorkflowStepType) : Prop :=
  stepType ≠ .VALIDATE_AUTHORIZATION ∧ stepType ≠ .DISPATCH_PAYMENT_RETRY

/-- Only steps that cannot fail are left in the workflow. -/
def Harmless (workflowId : UUID) (s : Store) : Prop :=
  ∃ workflow case, s.workflows[workflowId]? = some workflow ∧
    s.recoveryCases[workflow.caseId]? = some case ∧
    ∀ (position : ℕ) (step : WorkflowStep), workflow.steps[position]? = some step →
      step.isPending = true → step.stepType.isHarmless

/-- The rest of the loop does nothing that could fail. -/
def Quiet (workflowId : UUID) (s : Store) : Prop :=
  (∃ workflow, s.workflows[workflowId]? = some workflow ∧ workflow.status ∈ stoppingStatuses) ∨
    Harmless workflowId s

/-- Writes leave no step that could fail where there was none. -/
theorem Harmless.evolve {workflowId : UUID} {t : Store} (h : Evolved s t)
    (hs : Harmless workflowId s) : Harmless workflowId t := by
  obtain ⟨workflow, case, hworkflow, hcase, hsteps⟩ := hs
  obtain ⟨workflow', hworkflow', hprogress⟩ := h.workflows.getElem? hworkflow
  obtain ⟨case', hcase', -⟩ := h.recoveryCases.getElem? hcase
  refine ⟨workflow', case', hworkflow', ?_, fun position step' hstep' hpending => ?_⟩
  · rw [hprogress.caseId]
    exact hcase'
  · obtain ⟨step, hstep, hstepProgress⟩ := hprogress.step_before hstep'
    rw [hstepProgress.stepType]
    exact hsteps position step hstep (hstepProgress.pending hpending)

namespace WorkflowExecutionService

variable {env : Env} {provider : Provider} {workflowId : UUID}
  {override : Dict}

/-- A harmless step ends normally and sends nothing. -/
theorem runStep_harmless {position : ℕ} {step : WorkflowStep} {caseId : UUID} {session : Session}
    (hharmless : step.stepType.isHarmless) :
    (runStep env provider workflowId position step caseId override).wp
      (fun _ sent t => sent = [] ∧ Writes (.execution .default workflowId) session.db t.db)
      (fun _ _ => False) session := by
  unfold runStep onDb
  cases htype : step.stepType with
  | VALIDATE_AUTHORIZATION => exact absurd htype hharmless.1
  | DISPATCH_PAYMENT_RETRY => exact absurd htype hharmless.2
  | WAIT_COOLDOWN =>
    rw [Req.wp_onPart]
    exact ⟨rfl, (executeWaitCooldown_keeps rfl).writes rfl⟩
  | AWAIT_VERIFICATION =>
    rw [Req.wp_onPart]
    exact ⟨rfl, (executeAwaitVerification_keeps rfl).writes rfl⟩
  | DISPATCH_COMMUNICATION =>
    rw [Req.wp_onPart]
    exact ⟨rfl, (executeGeneric_keeps rfl).writes rfl⟩
  | CREATE_SUPPORT_TASK =>
    rw [Req.wp_onPart]
    exact ⟨rfl, (executeGeneric_keeps rfl).writes rfl⟩

/-- One more step of a quiet workflow that has not stopped. -/
theorem executeNextStep_quiet {session : Session} {workflow : RecoveryWorkflow}
    (hworkflow : session.db.workflows[workflowId]? = some workflow)
    (hrunning : workflow.status ∉ stoppingStatuses) (hharmless : Harmless workflowId session.db) :
    (executeNextStep env provider workflowId override).wp
      (fun _ sent t => sent = [] ∧ Quiet workflowId t.db) (fun _ _ => False) session := by
  obtain ⟨workflow', case, hworkflow', hcase, hsteps⟩ := hharmless
  obtain rfl : workflow' = workflow := Option.some.inj (hworkflow'.symm.trans hworkflow)
  have hopen : workflow'.status ∉ [WorkflowStatus.COMPLETED, .FAILED, .CANCELLED] := by
    intro hclosed
    apply hrunning
    revert hclosed
    cases workflow'.status <;> decide
  unfold executeNextStep
  rw [Req.wp_bind, Req.wp_get, hworkflow]
  dsimp only
  rw [if_neg hopen, hcase]
  dsimp only
  rcases hnext : nextPending workflow' with _ | ⟨position, step⟩
  · refine ⟨rfl, .inl ⟨{ workflow' with status := .COMPLETED }, ?_, ?_⟩⟩
    · simp [Store.setWorkflowStatus, Store.modifyWorkflow, hworkflow]
    · exact List.mem_cons_self
  · obtain ⟨hstep, hpending⟩ := nextPending_some hnext
    have hstarted : Writes (.execution .default workflowId) session.db
        (started session.db workflowId position) := started_writes rfl
    have hleft : Harmless workflowId session.db := ⟨workflow', case, hworkflow, hcase, hsteps⟩
    dsimp only
    rw [Req.wp_bind]
    unfold onDb
    rw [Req.wp_onPart]
    unfold Tx.wp
    rw [startStep_apply]
    dsimp only
    rw [Req.wp_bind]
    refine Req.wp_mono (runStep_harmless (hsteps position step hstep hpending))
      (fun _ sent t hrun => ?_) fun _ _ hfalse => hfalse
    obtain ⟨rfl, hw⟩ := hrun
    have hwritten : Writes (.execution .default workflowId) session.db t.db := hstarted.trans hw
    exact ⟨rfl, .inr (hleft.evolve hwritten.evolved)⟩

/-- The rest of the loop on a quiet workflow, by induction on the iterations left. -/
theorem runAvailableSteps_quiet (iterations : ℕ) {session : Session}
    (hquiet : Quiet workflowId session.db) :
    (runAvailableSteps env provider workflowId override iterations).wp
      (fun _ sent _ => sent = []) (fun _ _ => False) session := by
  induction iterations generalizing session with
  | zero => exact rfl
  | succ iterations ih =>
    have hrow : ∃ workflow, session.db.workflows[workflowId]? = some workflow := by
      rcases hquiet with ⟨workflow, hworkflow, -⟩ | ⟨workflow, -, hworkflow, -⟩ <;>
        exact ⟨workflow, hworkflow⟩
    obtain ⟨workflow, hworkflow⟩ := hrow
    unfold runAvailableSteps
    rw [Req.wp_bind, Req.wp_get, hworkflow]
    dsimp only
    rw [Req.wp_ite]
    refine ⟨fun _ => rfl, fun hstop => ?_⟩
    rw [Req.wp_ite]
    refine ⟨fun _ => rfl, fun _ => ?_⟩
    rw [Req.wp_bind]
    have hharmless : Harmless workflowId session.db := by
      rcases hquiet with ⟨workflow', hworkflow', hstopped⟩ | hharmless
      · obtain rfl : workflow' = workflow := Option.some.inj (hworkflow'.symm.trans hworkflow)
        exact absurd hstopped hstop
      · exact hharmless
    refine Req.wp_mono (executeNextStep_quiet hworkflow hstop hharmless)
      (fun step sent t hrun => ?_) fun _ _ hfalse => hfalse
    obtain ⟨rfl, ht⟩ := hrun
    rw [Req.wp_ite]
    exact ⟨fun _ => rfl, fun _ => Req.wp_mono (ih ht) (fun _ _ _ h => h) fun _ _ h => h⟩

/-! ## Before the call -/

/-- The request has only touched the workflow so far, and left its pending steps as they were. -/
structure Ready (workflowId : UUID) (before : Store) (original : RecoveryWorkflow)
    (session : Session) (workflow : RecoveryWorkflow) : Prop where
  db : session.db = { before with workflows := session.db.workflows }
  fresh : session.submissions = []
  workflowRow : session.db.workflows[workflowId]? = some workflow
  caseId : workflow.caseId = original.caseId
  pending : ∀ (position : ℕ) (step : WorkflowStep), workflow.steps[position]? = some step →
    step.isPending = true → original.steps[position]? = some step

theorem Ready.start {before : Store} {workflow : RecoveryWorkflow}
    (h : before.workflows[workflowId]? = some workflow) :
    Ready workflowId before workflow ⟨before, []⟩ workflow :=
  ⟨rfl, rfl, h, rfl, fun _ _ hstep _ => hstep⟩

/-- Rewriting a step so that it is not pending keeps a request ready. -/
theorem Ready.modifyStep {before : Store} {original workflow : RecoveryWorkflow}
    {session : Session} (h : Ready workflowId before original session workflow) (position : ℕ)
    {f : WorkflowStep → WorkflowStep} (hf : ∀ step, (f step).isPending = false) :
    Ready workflowId before original
      { session with db := session.db.modifyStep workflowId position f }
      { workflow with steps := workflow.steps.modify position f } := by
  refine ⟨?_, h.fresh, ?_, h.caseId, fun i step hstep hpending => ?_⟩
  · rw [h.db]
    rfl
  · simp [Store.modifyStep, Store.modifyWorkflow, h.workflowRow]
  · obtain ⟨old, hrow, rfl⟩ := Table.getElem?_modify_some hstep
    by_cases hi : position = i
    · rw [if_pos hi, hf old] at hpending
      cases hpending
    · rw [if_neg hi] at hpending ⊢
      exact h.pending i old hrow hpending

theorem Ready.setStatus {before : Store} {original workflow : RecoveryWorkflow}
    {session : Session} (h : Ready workflowId before original session workflow)
    (status : WorkflowStatus) :
    Ready workflowId before original
      { session with db := session.db.setWorkflowStatus workflowId status }
      { workflow with status } := by
  refine ⟨?_, h.fresh, ?_, h.caseId, h.pending⟩
  · rw [h.db]
    rfl
  · simp [Store.setWorkflowStatus, Store.modifyWorkflow, h.workflowRow]

theorem Ready.started {before : Store} {original workflow : RecoveryWorkflow}
    {session : Session} (h : Ready workflowId before original session workflow) (position : ℕ) :
    Ready workflowId before original { session with db := started session.db workflowId position }
      (startedWorkflow workflow position) :=
  (h.setStatus .RUNNING).modifyStep position fun _ => rfl

/-- Revalidation does not read the workflows. -/
theorem Ready.revalidate {before : Store} {original workflow : RecoveryWorkflow}
    {session : Session} (h : Ready workflowId before original session workflow) (caseId : UUID)
    (actionType : ActionType) :
    WorkflowRevalidationService.revalidateForExecution env session.db caseId actionType =
      WorkflowRevalidationService.revalidateForExecution env before caseId actionType := by
  rw [h.db]
  rfl

/-- The request is still ready, or the rest of the loop does nothing that could fail. -/
def Unsent (workflowId : UUID) (before : Store) (original : RecoveryWorkflow) (session : Session) :
    Prop :=
  (∃ workflow, Ready workflowId before original session workflow) ∨ Quiet workflowId session.db

/-- A validation passes, fails the workflow, or raises. -/
theorem executeValidateAuthorization_unsent {before : Store}
    {original workflow : RecoveryWorkflow} {session : Session} {position : ℕ}
    {step : WorkflowStep} {caseId : UUID}
    (h : Ready workflowId before original session workflow) :
    (executeValidateAuthorization env workflowId position step caseId).wp
      (fun _ t => Unsent workflowId before original { session with db := t }) (fun _ => True)
      session.db := by
  unfold executeValidateAuthorization
  rw [Tx.wp_bind, Tx.wp_get]
  rcases WorkflowRevalidationService.revalidateForExecution env session.db caseId step.actionType
    with fault | reval
  · exact trivial
  dsimp only
  rw [Tx.wp_ite]
  constructor
  · intro _
    exact .inl ⟨_, h.modifyStep position fun _ => rfl⟩
  · intro _
    have hfailed := (h.modifyStep position (f := fun step =>
      { step with
        status := .FAILED, errorMessage := some reval.message
        executedAt := some env.now.naive }) fun _ => rfl).setStatus .FAILED
    rw [Tx.wp_bind, Tx.wp_modify, Tx.wp_bind, Tx.wp_modify, Tx.wp_bind]
    have hkeeps : ∀ u target, target ≠ RecoveryCaseState.RECOVERED →
        Keeps (.reconciliation .default fun _ => False) u
          (CaseTransitionService.transition env caseId target (lower reval.reasonCode) .SYSTEM) :=
      fun u target htarget => transition_keeps (fun h => h) htarget
    refine Tx.wp_mono (hkeeps _ _ ?_).wp (fun _ t ht => ?_) fun _ _ => trivial
    · split <;> decide
    · have hstops : WorkflowStatus.FAILED ∈ stoppingStatuses := by decide
      have hrow := hfailed.workflowRow
      rw [← ht.workflows_eq (fun _ h => h) fun _ h => h] at hrow
      exact .inr (.inl ⟨_, hrow, hstops⟩)

/-! ## After the call -/

/-- Recording the outcome of a call does not fail. -/
theorem recordOutcome_ok {position : ℕ} {step : WorkflowStep} {caseId : UUID}
    {prepared : PreparedRetry} {res : ExecutionResult} (case : RecoveryCase)
    (hkey : ∀ row ∈ s.executions, row.idempotencyKey ≠ step.idempotencyKey)
    (hcase : s.recoveryCases[caseId]? = some case) (hpending : case.state = .ACTION_PENDING)
    (hbudget : prepared.priorAttempts < 4)
    (hfree : res.status ∈ [ExecutionStatus.SUBMITTED, .SUCCEEDED, .UNKNOWN] →
      s.nextTransitionNumber caseId ∉ s.auditNumbers caseId) :
    (recordOutcome env workflowId position step caseId prepared res).wp (fun _ _ => True)
      (fun _ => False) s := by
  have hfresh : ¬(s.executions.any fun e =>
      e.idempotencyKey == (newExecution workflowId step caseId res).idempotencyKey) = true := by
    rw [List.any_eq_true]
    rintro ⟨row, hrow, hsame⟩
    exact hkey row hrow (beq_iff_eq.mp hsame)
  have hinsert := (insertExecution_apply (newExecution workflowId step caseId res) s).trans
    (if_neg hfresh)
  have htransition : ∀ (u : Store) (target : RecoveryCaseState) (reasonCode : String),
      u.recoveryCases = s.recoveryCases → u.transitions = s.transitions →
      u.auditEvents = s.auditEvents →
      target ∈ CaseTransitionService.ALLOWED_TRANSITIONS .ACTION_PENDING →
      s.nextTransitionNumber caseId ∉ s.auditNumbers caseId →
      (do let _ ← CaseTransitionService.transition env caseId target reasonCode .SYSTEM :
        Service Unit).wp (fun _ _ => True) (fun _ => False) u := by
    intro u target reasonCode hcases htransitions haudits hallowed hnumber
    have hrow : u.recoveryCases[caseId]? = some case := by rw [hcases, hcase]
    have hnumber' : u.nextTransitionNumber caseId ∉ u.auditNumbers caseId := by
      unfold Store.nextTransitionNumber Store.transitionNumbers Store.transitionsOf
        Store.auditNumbers Store.auditsOf
      rw [htransitions, haudits]
      exact hnumber
    rw [← hpending] at hallowed
    obtain ⟨result, t, hok⟩ := CaseTransitionService.transition_ok env reasonCode .SYSTEM hrow hallowed
      hnumber'
    rw [Tx.wp_bind_of_ok hok]
    exact trivial
  unfold recordOutcome
  rw [Tx.wp_bind_of_ok hinsert]
  unfold applyOutcome
  rw [Tx.wp_bind, Tx.wp_modify, Tx.wp_bind, Tx.wp_modify]
  cases hstatus : res.status with
  | PENDING => exact trivial
  | CANCELLED => exact trivial
  | SUBMITTED =>
    refine htransition _ _ _ rfl rfl rfl (by decide) (hfree ?_)
    rw [hstatus]
    decide
  | SUCCEEDED =>
    refine htransition _ _ _ rfl rfl rfl (by decide) (hfree ?_)
    rw [hstatus]
    decide
  | UNKNOWN =>
    refine htransition _ _ _ rfl rfl rfl (by decide) (hfree ?_)
    rw [hstatus]
    decide
  | FAILED =>
    have hnone : transitionAfter .FAILED prepared.priorAttempts = none :=
      if_neg (Nat.not_le.mpr hbudget)
    simp only [workflowStatusAfter, hnone]
    exact trivial

/-! ## The step of the call -/

/-- After a dispatch step only steps follow that cannot fail. -/
def HarmlessAfterDispatch (workflow : RecoveryWorkflow) : Prop :=
  ∀ (p q : ℕ) (step later : WorkflowStep), workflow.steps[p]? = some step →
    step.stepType = .DISPATCH_PAYMENT_RETRY → p < q → workflow.steps[q]? = some later →
    later.stepType.isHarmless

/-- The first pending step has no pending step before it. -/
theorem nextPending_first {workflow : RecoveryWorkflow} {position i : ℕ}
    {step earlier : WorkflowStep} (h : nextPending workflow = some (position, step))
    (hearlier : workflow.steps[i]? = some earlier) (hpending : earlier.isPending = true) :
    position ≤ i := by
  by_contra hlt
  exact Table.find?_first h (Nat.lt_of_not_le hlt) hearlier hpending

/-- Once the dispatch step is running only harmless steps are pending. -/
theorem Ready.harmless {before t : Store} {original workflow : RecoveryWorkflow}
    {session : Session} {position : ℕ} {step : WorkflowStep}
    (h : Ready workflowId before original session workflow) (case : RecoveryCase)
    (hharmless : HarmlessAfterDispatch original)
    (hnext : nextPending workflow = some (position, step))
    (htype : step.stepType = .DISPATCH_PAYMENT_RETRY)
    (hworkflow : t.workflows[workflowId]? = some (startedWorkflow workflow position))
    (hcase : t.recoveryCases[workflow.caseId]? = some case) : Harmless workflowId t := by
  obtain ⟨hstep, hpending⟩ := nextPending_some hnext
  refine ⟨_, case, hworkflow, hcase, fun i later hlater hstill => ?_⟩
  by_cases hi : i = position
  · subst hi
    rw [startedWorkflow_step hstep, Option.some.injEq] at hlater
    subst hlater
    cases hstill
  · have hkept : workflow.steps[i]? = some later := by
      simpa [startedWorkflow, Ne.symm hi] using hlater
    have hle : position ≤ i := nextPending_first hnext hkept hstill
    have hlt : position < i := by omega
    have hold := h.pending position step hstep hpending
    exact hharmless position i step later hold htype hlt (h.pending i later hkept hstill)

/-- A dispatch that is refused fails its workflow. -/
theorem refused_quiet {workflow : RecoveryWorkflow} {position : ℕ} {message : String}
    {executedAt : Option Datetime} (hworkflow : s.workflows[workflowId]? = some workflow) :
    Quiet workflowId (refused s workflowId position message executedAt) := by
  have hstops : WorkflowStatus.FAILED ∈ stoppingStatuses := by decide
  have hrow : ∃ steps, (refused s workflowId position message executedAt).workflows[workflowId]? =
      some { workflow with steps, status := .FAILED } := by
    simp [refused, Store.setWorkflowStatus, Store.modifyStep, Store.modifyWorkflow, hworkflow]
  obtain ⟨steps, hsteps⟩ := hrow
  exact .inl ⟨_, hsteps, hstops⟩

/-- An execution request whose dispatches commit, on rows that grew from the empty ones. -/
structure Driven (env : Env) (provider : Provider) (before : Store) (workflowId : UUID)
    (executeAll : Bool) (override : Dict) (original : RecoveryWorkflow) : Prop where
  commits : DispatchCommits env provider before workflowId executeAll override
  keys : KeysSound before
  workflowRow : before.workflows[workflowId]? = some original
  harmless : HarmlessAfterDispatch original
  running : original.status ∉ refusedStatuses executeAll

/-- What a step leaves behind: nothing sent yet, or a call that nothing later can undo. -/
def Carried (env : Env) (before : Store) (workflowId : UUID) (executeAll : Bool)
    (original : RecoveryWorkflow) (sent : List Submission) (session : Session) : Prop :=
  (sent = [] ∧ Unsent workflowId before original session) ∨
    (∃ position step case txn customer, Reaches env before workflowId executeAll original position
      step case txn customer) ∧ Harmless workflowId session.db

/-- A dispatch of a ready request that goes on got there from the rows before the request. -/
theorem Driven.reaches {before : Store} {original workflow : RecoveryWorkflow} {session : Session}
    {position : ℕ} {step : WorkflowStep} {executeAll : Bool} {prepared : PreparedRetry} {u : Store}
    {case : RecoveryCase} {txn : Transaction} {customer : Customer}
    (hdriven : Driven env provider before workflowId executeAll override original)
    (hsingle : executeAll = false → workflow = original)
    (h : Ready workflowId before original session workflow)
    (hnext : nextPending workflow = some (position, step))
    (htype : step.stepType = .DISPATCH_PAYMENT_RETRY)
    (hdispatched : Dispatched env step workflow.caseId override
      (started session.db workflowId position) prepared u case txn customer) :
    Reaches env before workflowId executeAll original position step case txn customer ∧
      prepared.request = buildRequest step original.caseId case txn customer override := by
  obtain ⟨hstep, hpending⟩ := nextPending_some hnext
  have hready := h.started position
  obtain ⟨result, hresult, hallowed⟩ := hdispatched.revalidated
  rw [hready.revalidate, h.caseId] at hresult
  have hcase := hdispatched.cleared.caseRow
  have htxn := hdispatched.transactionRow
  have hcustomer := hdispatched.customerRow
  have hdb : started session.db workflowId position =
      { before with workflows := (started session.db workflowId position).workflows } := hready.db
  rw [hdb] at hcase htxn hcustomer
  rw [h.caseId] at hcase
  refine ⟨⟨hdriven.workflowRow, hdriven.running, h.pending position step hstep hpending, hpending,
    htype, fun hfalse => ?_, ⟨result, hresult, hallowed⟩, hcase, htxn, hcustomer⟩, ?_⟩
  · rw [← hsingle hfalse]
    exact hnext
  · rw [hdispatched.request, h.caseId]

/-- The call of a ready request that gets to its dispatch step: refused, broken off before
anything is sent, or made and recorded. -/
theorem dispatch_carried {before : Store} {original workflow : RecoveryWorkflow}
    {session : Session} {position : ℕ} {step : WorkflowStep} {executeAll : Bool}
    (hdriven : Driven env provider before workflowId executeAll override original)
    (hsingle : executeAll = false → workflow = original)
    (h : Ready workflowId before original session workflow)
    (hnext : nextPending workflow = some (position, step))
    (htype : step.stepType = .DISPATCH_PAYMENT_RETRY) :
    (executeDispatchPaymentRetry env provider workflowId position step workflow.caseId override).wp
      (fun _ sent t => Carried env before workflowId executeAll original sent t)
      (fun _ sent => sent = []) { session with db := started session.db workflowId position } := by
  have ⟨hguard, hkeys, horiginal, hharmless, _⟩ := hdriven
  obtain ⟨hstep, hpending⟩ := nextPending_some hnext
  have hready := h.started position
  have hstepBefore : original.steps[position]? = some step := h.pending position step hstep hpending
  refine executeDispatchPaymentRetry_wp (fun _ => rfl) (fun u hrefused => ?_)
    (fun prepared u hprepare hsilent => ?_) fun prepared u res executed hprepare hanswered => ?_
  · rcases prepareDispatch_ok hrefused with
      ⟨-, message, executedAt, rfl⟩ | ⟨prepared, _, _, _, hsome, -⟩
    · exact .inl ⟨rfl, .inr (refused_quiet hready.workflowRow)⟩
    · cases hsome
  · obtain ⟨case, txn, customer, hdispatched⟩ := prepareDispatch_some hprepare
    obtain ⟨hreach, hrequest⟩ := hdriven.reaches hsingle h hnext htype hdispatched
    have hunbroken := hguard _ _ _ _ _ _ hreach
    rw [← hrequest] at hunbroken
    exact absurd hsilent hunbroken.answered
  · obtain ⟨case, txn, customer, hdispatched⟩ := prepareDispatch_some hprepare
    obtain ⟨hreach, hrequest⟩ := hdriven.reaches hsingle h hnext htype hdispatched
    have hunbroken := hguard _ _ _ _ _ _ hreach
    rw [← hrequest] at hunbroken
    have hres : provider prepared.request = some res := by
      cases hanswered with
      | remembered hlookup =>
        rw [h.fresh] at hlookup
        cases hlookup
      | sent _ hres => exact hres
    have hunderway := hdispatched.underway h.workflowRow hstep res
    have hkeeps : Keeps (.execution .default workflowId) u
        (recordOutcome env workflowId position step workflow.caseId prepared res) :=
      recordOutcome_keeps (fun h => h) rfl hunderway
    have hsound : (recordOutcome env workflowId position step workflow.caseId prepared res).wp
        (fun _ _ => True) (fun _ => False) u := by
      have hcleared := hdispatched.cleared
      refine recordOutcome_ok case ?_ ?_ hcleared.actionPending ?_ fun hmoves => ?_
      · rw [hdispatched.after, hready.db]
        exact hkeys.unexecuted horiginal hstepBefore hpending
      · rw [hdispatched.after]
        exact hcleared.caseRow
      · rw [hdispatched.priorAttempts]
        exact hcleared.budget
      · have hfree := hunbroken.numberFree res hres hmoves
        rw [hdispatched.after, hready.db, h.caseId]
        exact hfree
    have hafter : Harmless workflowId u := by
      refine h.harmless case hharmless hnext htype ?_ ?_
      · rw [hdispatched.after]
        exact started_workflow h.workflowRow
      · rw [hdispatched.after]
        exact hdispatched.cleared.caseRow
    refine Tx.wp_mono (Tx.wp_and hsound hkeeps.wp) (fun _ v hv submissions => ?_)
      fun fault hfault => hfault.1.elim
    exact .inr ⟨⟨position, step, case, txn, customer, hreach⟩,
      hafter.evolve (Writes.evolved hv.2)⟩

/-- One step of a ready request, of whatever type. -/
theorem executeNextStep_carried {before : Store} {original workflow : RecoveryWorkflow}
    {session : Session} {executeAll : Bool}
    (hdriven : Driven env provider before workflowId executeAll override original)
    (hsingle : executeAll = false → workflow = original)
    (h : Ready workflowId before original session workflow) :
    (executeNextStep env provider workflowId override).wp
      (fun _ sent t => Carried env before workflowId executeAll original sent t)
      (fun _ sent => sent = []) session := by
  unfold executeNextStep
  rw [Req.wp_bind, Req.wp_get, h.workflowRow]
  dsimp only
  rw [Req.wp_ite]
  refine ⟨fun _ => rfl, fun _ => ?_⟩
  rcases session.db.recoveryCases[workflow.caseId]? with _ | case
  · exact rfl
  dsimp only
  rcases hnext : nextPending workflow with _ | ⟨position, step⟩
  · exact .inl ⟨rfl, .inl ⟨_, h.setStatus .COMPLETED⟩⟩
  have hready := h.started position
  dsimp only
  rw [Req.wp_bind]
  unfold onDb
  rw [Req.wp_onPart]
  unfold Tx.wp
  rw [startStep_apply]
  dsimp only
  rw [Req.wp_bind]
  have hrun : (runStep env provider workflowId position step workflow.caseId override).wp
      (fun _ sent t => Carried env before workflowId executeAll original sent t)
      (fun _ sent => sent = []) { session with db := started session.db workflowId position } := by
    unfold runStep onDb
    cases htype : step.stepType with
    | VALIDATE_AUTHORIZATION =>
      dsimp only
      rw [Req.wp_onPart]
      refine Tx.wp_mono (executeValidateAuthorization_unsent hready) (fun _ t ht => ?_)
        fun _ _ => rfl
      exact .inl ⟨rfl, ht⟩
    | WAIT_COOLDOWN => exact .inl ⟨rfl, .inl ⟨_, hready.modifyStep position fun _ => rfl⟩⟩
    | DISPATCH_PAYMENT_RETRY => exact dispatch_carried hdriven hsingle h hnext htype
    | AWAIT_VERIFICATION =>
      have hwaiting := (hready.modifyStep position (f := fun step =>
        { step with status := .WAITING }) fun _ => rfl).setStatus .WAITING
      exact .inl ⟨rfl, .inl ⟨_, hwaiting⟩⟩
    | DISPATCH_COMMUNICATION => exact .inl ⟨rfl, .inl ⟨_, hready.modifyStep position fun _ => rfl⟩⟩
    | CREATE_SUPPORT_TASK => exact .inl ⟨rfl, .inl ⟨_, hready.modifyStep position fun _ => rfl⟩⟩
  refine Req.wp_mono hrun (fun _ sent t hcarried => ?_) fun _ _ hnone => hnone
  rw [Req.wp_bind, Req.wp_get, Req.wp_pure]
  simpa only [List.nil_append, List.append_nil] using hcarried

/-! ## Whole requests -/

/-- The loop of a request that ran no dispatch yet, by induction on the iterations left. -/
theorem runAvailableSteps_carried {before : Store} {original : RecoveryWorkflow}
    (hdriven : Driven env provider before workflowId true override original) (iterations : ℕ)
    {session : Session} (h : Unsent workflowId before original session) :
    (runAvailableSteps env provider workflowId override iterations).wp
      (fun _ sent _ => sent = [] ∨ ∃ position step case txn customer,
        Reaches env before workflowId true original position step case txn customer)
      (fun _ sent => sent = []) session := by
  induction iterations generalizing session with
  | zero => exact .inl rfl
  | succ iterations ih =>
    rcases h with ⟨workflow, hready⟩ | hquiet
    · unfold runAvailableSteps
      rw [Req.wp_bind, Req.wp_get, hready.workflowRow]
      dsimp only
      rw [Req.wp_ite]
      refine ⟨fun _ => .inl rfl, fun _ => ?_⟩
      rw [Req.wp_ite]
      refine ⟨fun _ => .inl rfl, fun _ => ?_⟩
      rw [Req.wp_bind]
      refine Req.wp_mono (executeNextStep_carried hdriven (fun h => by cases h) hready)
        (fun step sent t hcarried => ?_) fun _ _ hnone => hnone
      rw [Req.wp_ite]
      rcases hcarried with ⟨rfl, hunsent⟩ | ⟨hreaches, hharmless⟩
      · exact ⟨fun _ => .inl rfl, fun _ => Req.wp_mono (ih hunsent) (fun _ _ _ h => h) fun _ _ h => h⟩
      · refine ⟨fun _ => .inr hreaches, fun _ => ?_⟩
        exact Req.wp_mono (runAvailableSteps_quiet iterations (.inr hharmless))
          (fun _ _ _ _ => .inr hreaches) fun _ _ hfalse => hfalse.elim
    · exact Req.wp_mono (runAvailableSteps_quiet (iterations + 1) hquiet)
        (fun _ _ _ hnone => .inl hnone) fun _ _ hfalse => hfalse.elim

/-- A request whose dispatches commit raises only before it sends anything. -/
theorem execute_carried {before : Store} {executeAll : Bool}
    (hcommits : DispatchCommits env provider before workflowId executeAll override)
    (hkeys : KeysSound before)
    (hharmless : ∀ workflow, before.workflows[workflowId]? = some workflow →
      HarmlessAfterDispatch workflow) :
    (execute env provider workflowId executeAll override).wp
      (fun _ sent _ => sent = [] ∨ ∃ workflow position step case txn customer,
        Reaches env before workflowId executeAll workflow position step case txn customer)
      (fun _ sent => sent = []) ⟨before, []⟩ := by
  rcases hrow : before.workflows[workflowId]? with _ | original
  · cases executeAll <;> simp [execute, executeAllAvailableSteps, executeNextStep, hrow]
  by_cases hrunning : original.status ∈ refusedStatuses executeAll
  · cases executeAll with
    | true =>
      unfold execute executeAllAvailableSteps runAvailableSteps
      rw [if_pos rfl, Req.wp_bind, Req.wp_get, hrow]
      dsimp only
      rw [Req.wp_bind, Req.wp_get, hrow]
      dsimp only
      have hstop : original.status ∈ [WorkflowStatus.COMPLETED, .FAILED, .CANCELLED, .WAITING,
          .REQUIRES_REVIEW] := hrunning
      rw [if_pos hstop]
      exact .inl rfl
    | false =>
      unfold execute executeNextStep
      rw [if_neg Bool.false_ne_true, Req.wp_bind, Req.wp_bind, Req.wp_get, hrow]
      dsimp only
      have hclosed : original.status ∈ [WorkflowStatus.COMPLETED, .FAILED, .CANCELLED] := hrunning
      rw [if_pos hclosed]
      exact rfl
  have hdriven : Driven env provider before workflowId executeAll override original :=
    ⟨hcommits, hkeys, hrow, hharmless original hrow, hrunning⟩
  have hstart : Ready workflowId before original ⟨before, []⟩ original := .start hrow
  cases executeAll with
  | true =>
    unfold execute executeAllAvailableSteps
    rw [if_pos rfl, Req.wp_bind, Req.wp_get, hrow]
    refine Req.wp_mono (runAvailableSteps_carried hdriven _ (.inl ⟨original, hstart⟩))
      (fun _ sent _ h => ?_) fun _ _ h => h
    exact h.imp_right fun hreaches => ⟨original, hreaches⟩
  | false =>
    unfold execute
    rw [if_neg Bool.false_ne_true, Req.wp_bind]
    refine Req.wp_mono (executeNextStep_carried hdriven (fun _ => rfl) hstart)
      (fun _ sent _ h => ?_) fun _ _ h => h
    rw [Req.wp_pure, List.append_nil]
    rcases h with ⟨hnone, -⟩ | ⟨hreaches, -⟩
    · exact .inl hnone
    · exact .inr ⟨original, hreaches⟩

end WorkflowExecutionService

/-- A workflow that stands on its decision has at most a harmless step after its dispatch. -/
theorem StandsOn.harmlessAfterDispatch {workflowId : UUID} {workflow : RecoveryWorkflow}
    (h : StandsOn s workflowId workflow) :
    WorkflowExecutionService.HarmlessAfterDispatch workflow := by
  obtain ⟨decision, cooldownHours, -, -, -, hlength, hsteps⟩ := h
  intro p q step later hstep htype hlt hlater
  obtain ⟨step', hstep', hprogress⟩ := hsteps.row_before hlength hstep
  obtain ⟨later', hlater', hprogress'⟩ := hsteps.row_before hlength hlater
  obtain ⟨haction, rfl⟩ := buildSteps_dispatch hstep' (hprogress.stepType.symm.trans htype)
  rw [haction] at hlater'
  have hthird : later.stepType = .AWAIT_VERIFICATION := by
    rw [hprogress'.stepType]
    match q, hlt with
    | 3, _ => cases hlater'; rfl
    | _ + 4, _ => cases hlater'
  rw [hthird]
  exact ⟨by decide, by decide⟩

namespace World

/-- An execution request whose dispatches commit sends nothing, or commits with what it sent. -/
theorem step_commits {config : PolicyConfig} {w : World} {env : Env} {workflowId : UUID}
    {executeAll : Bool} {override : Dict} {provider : Provider} (hkeys : KeysSound w.db)
    (hchain : Chain config w.db)
    (hcommits : DispatchCommits env provider w.db workflowId executeAll override) :
    ∃ sent, Executed config workflowId w
        (w.step config ⟨env, .execute workflowId executeAll override provider⟩) sent ∧
      (sent = [] ∨
        (executionTrace (.execution config workflowId)).done ⟨w.db, []⟩ sent
          ⟨(w.step config ⟨env, .execute workflowId executeAll override provider⟩).db, []⟩ ∧
        ∃ workflow position step case txn customer,
          Reaches env w.db workflowId executeAll workflow position step case txn customer) := by
  have hcarried := WorkflowExecutionService.execute_carried hcommits hkeys
    fun workflow hrow => (hchain.workflows workflowId workflow hrow).harmlessAfterDispatch
  refine ⟨_, step_executed, ?_⟩
  have hfollows : Req.Follows (executionTrace (.execution config workflowId)) ⟨w.db, []⟩
      (WorkflowExecutionService.execute env provider workflowId executeAll override) :=
    WorkflowExecutionService.execute_follows (fun _ h => h) (fun h => h) rfl
  unfold Req.wp at hcarried
  unfold step executeRequest
  dsimp only
  rcases hrun : WorkflowExecutionService.execute env provider workflowId executeAll override
    ⟨w.db, []⟩ with ⟨sent, fault | ⟨u, session⟩⟩
  · rw [hrun] at hcarried
    exact .inl hcarried
  rw [hrun] at hcarried
  rcases hcarried with hnone | hreaches
  · exact .inl hnone
  refine .inr ⟨?_, hreaches⟩
  obtain ⟨workflow, position, step, case, txn, customer, hreach⟩ := hreaches
  have hsurvives := (hcommits workflow position step case txn customer hreach).survives
  have hdone := hfollows.done hrun
  dsimp only
  rw [hsurvives, if_neg Bool.false_ne_true]
  exact hdone

end World

end RevenueRescue
