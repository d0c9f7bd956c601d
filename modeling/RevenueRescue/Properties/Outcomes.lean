import RevenueRescue.Properties.Order

/-!
# How steps are recorded

A step shares the transaction of its request, so a fault behind it takes back what was recorded
about it. A refused validation also moves its case, and it is recorded exactly where the table
allows that move and the number of the move is free in the audit log.

An answered dispatch is handled where the answer has a branch of its own and the move of that
branch goes through. The branch of a failure compares the attempts that came before it with the
ceiling, which the revalidation has just found below the ceiling, so no failure stops its case.
-/

namespace RevenueRescue

open Python

namespace WorkflowExecutionService

variable {env : Env} {provider : Provider} {workflowId : UUID} {override : Dict}
  {session : Session} {workflow : RecoveryWorkflow} {case : RecoveryCase} {position : ℕ}
  {step : WorkflowStep}

/-- The workflow is open, its case exists, and the step at the position is the next one. -/
structure Faces (session : Session) (workflowId : UUID) (workflow : RecoveryWorkflow)
    (case : RecoveryCase) (position : ℕ) (step : WorkflowStep) : Prop where
  workflowRow : session.db.workflows[workflowId]? = some workflow
  opened : workflow.status ∉ [WorkflowStatus.COMPLETED, .FAILED, .CANCELLED]
  caseRow : session.db.recoveryCases[workflow.caseId]? = some case
  next : nextPending workflow = some (position, step)

/-- A call runs the step it faces and returns the step as it is afterwards. -/
theorem Faces.executeNextStep_apply (h : Faces session workflowId workflow case position step)
    (env : Env) (provider : Provider) (override : Dict) :
    executeNextStep env provider workflowId override session =
      match runStep env provider workflowId position step workflow.caseId override
        { session with db := started session.db workflowId position } with
      | (sent, .ok (_, u)) =>
        (sent, .ok ((u.db.workflows[workflowId]?).bind fun w => w.steps[position]?, u))
      | (sent, .error fault) => (sent, .error fault) := by
  unfold executeNextStep
  rw [Req.get_bind_apply, h.workflowRow]
  dsimp only
  rw [if_neg h.opened, h.caseRow]
  dsimp only
  rw [h.next]
  dsimp only
  have hstart : onDb (startStep workflowId position) session =
      ([], .ok ((), { session with db := started session.db workflowId position })) := rfl
  rw [Req.bind_apply, hstart]
  dsimp only
  rw [Req.bind_apply]
  rcases runStep env provider workflowId position step workflow.caseId override
    { session with db := started session.db workflowId position } with ⟨sent, fault | ⟨x, u⟩⟩
  · rfl
  · exact Prod.ext (List.append_nil sent) rfl

/-- A call that returns took its step, and it returns the step with the status of the outcome. -/
theorem Faces.took (h : Faces session workflowId workflow case position step)
    {sent : List Submission} {row : Option WorkflowStep} {u : Session}
    (hrun : executeNextStep env provider workflowId override session = (sent, .ok (row, u))) :
    ∃ outcome after, Yields env provider override session workflow.caseId step outcome ∧
      Took env workflowId session.db workflow position step outcome u.db ∧
      row = some after ∧ after.status = outcome.stepStatus ∧
      u.db.workflows[workflowId]? = some { workflow with
        status := outcome.workflowStatus, steps := workflow.steps.set position after } := by
  have hstep : workflow.steps[position]? = some step := (nextPending_some h.next).1
  rw [h.executeNextStep_apply] at hrun
  rcases hstepped : runStep env provider workflowId position step workflow.caseId override
    { session with db := started session.db workflowId position } with ⟨made, fault | ⟨x, v⟩⟩
  · rw [hstepped] at hrun
    cases hrun
  rw [hstepped] at hrun
  cases hrun
  obtain ⟨outcome, hyields, htook, -⟩ := runStep_took h.workflowRow hstep hstepped
  obtain ⟨after, hworkflows, hstatus, -⟩ := htook.workflows
  have hrow : u.db.workflows[workflowId]? = some { workflow with
      status := outcome.workflowStatus, steps := workflow.steps.set position after } := by
    rw [hworkflows]
    exact List.getElem?_set_self (List.getElem?_eq_some_iff.mp h.workflowRow).1
  refine ⟨outcome, after, hyields, htook, ?_, hstatus, hrow⟩
  rw [hrow]
  exact List.getElem?_set_self (List.getElem?_eq_some_iff.mp hstep).1

end WorkflowExecutionService

namespace Sample

open WorkflowExecutionService

/-- The planned retry after its customer has withdrawn, in rows that hold no logs yet. -/
def unloggedDb : Store :=
  { plannedWorld.db with consents := [], auditEvents := [], transitions := [] }

/-- The planned retry after its payment has gone through. -/
def settledDb : Store := (plannedWorld.step .default success).db

/-- What a workflow faces. -/
def facing (db : Store) (workflowId : UUID) :
    Option (RecoveryWorkflow × RecoveryCase × ℕ × WorkflowStep) :=
  (db.workflows[workflowId]?).bind fun workflow =>
    (db.recoveryCases[workflow.caseId]?).bind fun case =>
      if workflow.status ∉ [WorkflowStatus.COMPLETED, .FAILED, .CANCELLED] then
        (WorkflowExecutionService.nextPending workflow).map fun next => (workflow, case, next)
      else none

/-- The first workflow goes on with a validation that these rows refuse. -/
def refusesNext (db : Store) : Bool :=
  (facing db 0).any fun ⟨workflow, _, _, step⟩ =>
    step.stepType == .VALIDATE_AUTHORIZATION &&
      (WorkflowRevalidationService.revalidateForExecution env db workflow.caseId
        step.actionType).toOption.any (!·.allowed)

theorem facing_faces {db : Store} {workflowId : UUID} {workflow : RecoveryWorkflow}
    {case : RecoveryCase} {position : ℕ} {step : WorkflowStep}
    (h : facing db workflowId = some (workflow, case, position, step)) :
    Faces ⟨db, []⟩ workflowId workflow case position step := by
  obtain ⟨found, hworkflow, h⟩ := Option.bind_eq_some_iff.mp h
  obtain ⟨caseFound, hcase, h⟩ := Option.bind_eq_some_iff.mp h
  split at h
  next hopen =>
    obtain ⟨next, hnext, h⟩ := Option.map_eq_some_iff.mp h
    cases h
    exact ⟨hworkflow, hopen, hcase, hnext⟩
  · cases h

theorem refusesNext_faces {db : Store} (h : refusesNext db = true) :
    ∃ workflow case position step result, Faces ⟨db, []⟩ 0 workflow case position step ∧
      step.stepType = .VALIDATE_AUTHORIZATION ∧
      WorkflowRevalidationService.revalidateForExecution env db workflow.caseId step.actionType =
        .ok result ∧ result.allowed = false := by
  obtain ⟨⟨workflow, case, position, step⟩, hfacing, h⟩ := (Option.any_eq_true _ _).mp h
  simp only [Bool.and_eq_true, beq_iff_eq] at h
  obtain ⟨htype, hrefused⟩ := h
  obtain ⟨result, hresult, hrefused⟩ := (Option.any_eq_true _ _).mp hrefused
  rcases hrevalidated : WorkflowRevalidationService.revalidateForExecution env db workflow.caseId
    step.actionType with fault | found
  · rw [hrevalidated] at hresult
    cases hresult
  · rw [hrevalidated] at hresult
    cases hresult
    exact ⟨workflow, case, position, step, result, facing_faces hfacing, htype, hrevalidated,
      by simpa using hrefused⟩

end Sample

namespace WorkflowExecutionService

variable {env : Env} {provider : Provider} {workflowId : UUID} {override : Dict}
  {session : Session} {workflow : RecoveryWorkflow} {case : RecoveryCase} {position : ℕ}
  {step : WorkflowStep}

/-! ## Refused validations -/

/-- The call returned a failed step and left its workflow failed. -/
def RecordsFailure (workflowId : UUID)
    (outcome : List Submission × Except Fault (Option WorkflowStep × Session)) : Prop :=
  ∃ step u, outcome.2 = .ok (some step, u) ∧ step.status = .FAILED ∧
    (u.db.workflows[workflowId]?).map RecoveryWorkflow.status = some .FAILED

/-- Only a case that waits for its action is refused for an unresolved outcome; any other state
is a reason of its own. -/
theorem refusalTarget_cases {s : Store} {caseId : UUID} {actionType : ActionType}
    {result : RevalidationResult} (hcase : s.recoveryCases[caseId]? = some case)
    (h : WorkflowRevalidationService.revalidateForExecution env s caseId actionType = .ok result) :
    refusalTarget result = .STOPPED ∨ case.state = .ACTION_PENDING := by
  by_cases hpending : case.state = .ACTION_PENDING
  · exact .inr hpending
  · unfold WorkflowRevalidationService.revalidateForExecution at h
    rw [hcase] at h
    dsimp only at h
    rw [if_pos hpending] at h
    cases h
    have hreason : ¬isIn "UNKNOWN" "CASE_NOT_ACTION_PENDING" = true := by decide +kernel
    exact .inl (if_neg hreason)

/-- The table allows the move of a refused case exactly when it allows the case to be stopped. -/
theorem refusalTarget_allowed {s : Store} {caseId : UUID} {actionType : ActionType}
    {result : RevalidationResult} (hcase : s.recoveryCases[caseId]? = some case)
    (h : WorkflowRevalidationService.revalidateForExecution env s caseId actionType = .ok result) :
    refusalTarget result ∈ CaseTransitionService.ALLOWED_TRANSITIONS case.state ↔
      .STOPPED ∈ CaseTransitionService.ALLOWED_TRANSITIONS case.state := by
  rcases refusalTarget_cases hcase h with hstopped | hpending
  · rw [hstopped]
  · rw [hpending]
    unfold refusalTarget
    split
    · exact iff_of_true (by decide) (by decide)
    · rfl

/-- A refused validation whose move is carried out does not raise. -/
theorem executeValidateAuthorization_refused {s : Store} {caseId : UUID}
    {result : RevalidationResult}
    (h : WorkflowRevalidationService.revalidateForExecution env s caseId step.actionType =
      .ok result) (hrefused : result.allowed = false)
    (hcarries : CaseTransitionService.CarriesOut s caseId (refusalTarget result) case) :
    ∃ t, executeValidateAuthorization env workflowId position step caseId s = .ok ((), t) := by
  let failed : Store := (s.modifyStep workflowId position fun step =>
    { step with
      status := .FAILED, errorMessage := some result.message
      executedAt := some env.now.naive }).setWorkflowStatus workflowId .FAILED
  obtain ⟨moved, t, hmove⟩ := CaseTransitionService.transition_ok env (s := failed)
    (lower result.reasonCode) .SYSTEM hcarries.caseRow hcarries.allowed hcarries.numberFree
  refine ⟨t, ?_⟩
  unfold executeValidateAuthorization
  rw [Tx.get_bind_apply, h]
  dsimp only
  rw [if_neg (by rw [hrefused]; exact Bool.false_ne_true), Tx.modify_bind_apply,
    Tx.modify_bind_apply]
  exact Tx.bind_eq_ok.mpr ⟨moved, t, hmove, rfl⟩

/-- A validation that is refused leaves its step and its workflow failed exactly when its case can
be stopped: the table allows the move from the state the case is in, and the number of the move is
free in the audit log. Otherwise the call raises, and the workflow stays as it was. -/
theorem refused_validation_is_recorded {result : RevalidationResult}
    (h : Faces session workflowId workflow case position step)
    (htype : step.stepType = .VALIDATE_AUTHORIZATION)
    (hrevalidated : WorkflowRevalidationService.revalidateForExecution env session.db
      workflow.caseId step.actionType = .ok result) (hrefused : result.allowed = false) :
    RecordsFailure workflowId (executeNextStep env provider workflowId override session) ↔
      CaseTransitionService.CarriesOut session.db workflow.caseId .STOPPED case := by
  have houtcome : ∀ outcome, Yields env provider override session workflow.caseId step outcome →
      outcome = .invalid (refusalTarget result) := by
    intro outcome hyields
    cases hyields with
    | validated _ found hfound hallowed =>
      obtain rfl : result = found := Except.ok.inj (hrevalidated.symm.trans hfound)
      rw [hrefused] at hallowed
      cases hallowed
    | invalid _ found hfound _ =>
      rw [Except.ok.inj (hrevalidated.symm.trans hfound)]
    | carried hother => simp [htype] at hother
    | waiting hother => simp [htype] at hother
    | refused hother => simp [htype] at hother
    | answered hother => simp [htype] at hother
  constructor
  · rintro ⟨failed, u, hrun, -, -⟩
    obtain ⟨outcome, after, hyields, htook, -⟩ := h.took (Prod.ext rfl hrun)
    rw [houtcome outcome hyields] at htook
    rcases htook.moves with ⟨hnone, -⟩ | ⟨target, found, htarget, hcarries, -⟩
    · cases hnone
    · cases htarget
      obtain rfl : case = found := Option.some.inj (h.caseRow.symm.trans hcarries.caseRow)
      exact ⟨h.caseRow, (refusalTarget_allowed h.caseRow hrevalidated).mp hcarries.allowed,
        hcarries.numberFree⟩
  · intro hcarries
    have hmoves : CaseTransitionService.CarriesOut (started session.db workflowId position)
        workflow.caseId (refusalTarget result) case :=
      ⟨h.caseRow, (refusalTarget_allowed h.caseRow hrevalidated).mpr hcarries.allowed,
        hcarries.numberFree⟩
    obtain ⟨t, hvalidated⟩ : ∃ t, executeValidateAuthorization env workflowId position step
        workflow.caseId (started session.db workflowId position) = .ok ((), t) :=
      executeValidateAuthorization_refused hrevalidated hrefused hmoves
    have hrun : runStep env provider workflowId position step workflow.caseId override
        { session with db := started session.db workflowId position } =
          ([], .ok ((), { session with db := t })) := by
      unfold runStep onDb Req.onPart
      rw [htype]
      dsimp only
      rw [hvalidated]
    have hcall := h.executeNextStep_apply env provider override
    rw [hrun] at hcall
    dsimp only at hcall
    obtain ⟨outcome, after, hyields, htook, hafter, hstatus, hworkflow⟩ := h.took hcall
    rw [houtcome outcome hyields] at hstatus hworkflow
    rw [hafter] at hcall
    exact ⟨after, _, congrArg Prod.snd hcall, hstatus, congrArg _ hworkflow⟩

end WorkflowExecutionService

open WorkflowExecutionService

/-- The withdrawal is recorded where no log stands in the way. -/
theorem refused_validation_is_recorded_withdrawn :
    RecordsFailure 0
      (executeNextStep Sample.env (fun _ => none) 0 [] ⟨Sample.unloggedDb, []⟩) := by
  have hrefuses : Sample.refusesNext Sample.unloggedDb = true := by decide +kernel
  obtain ⟨workflow, case, position, step, result, hfaces, htype, hrevalidated, hrefused⟩ :=
    Sample.refusesNext_faces hrefuses
  have hid : (Sample.unloggedDb.workflows[0]?).map RecoveryWorkflow.caseId = some 0 := by
    decide +kernel
  have hstate : (Sample.unloggedDb.recoveryCases[0]?).map RecoveryCase.state =
      some .ACTION_PENDING := by decide +kernel
  have hworkflow : Sample.unloggedDb.workflows[0]? = some workflow := hfaces.workflowRow
  have hcase : Sample.unloggedDb.recoveryCases[workflow.caseId]? = some case := hfaces.caseRow
  rw [hworkflow, Option.map_some, Option.some.injEq] at hid
  rw [hid] at hcase
  rw [hcase, Option.map_some, Option.some.injEq] at hstate
  refine (refused_validation_is_recorded hfaces htype hrevalidated hrefused).mpr
    ⟨hfaces.caseRow, ?_, ?_⟩
  · rw [hstate]
    decide
  · rw [hid]
    exact List.not_mem_nil

/-- A payment that went through leaves a case that cannot be stopped, so the refusal of its retry
raises. -/
theorem settled_case_refuses_the_record :
    ∃ workflow case position step result,
      Faces ⟨Sample.settledDb, []⟩ 0 workflow case position step ∧
      step.stepType = .VALIDATE_AUTHORIZATION ∧
      WorkflowRevalidationService.revalidateForExecution Sample.env Sample.settledDb
        workflow.caseId step.actionType = .ok result ∧ result.allowed = false ∧
      ¬RecordsFailure 0
        (executeNextStep Sample.env (fun _ => none) 0 [] ⟨Sample.settledDb, []⟩) := by
  have hrefuses : Sample.refusesNext Sample.settledDb = true := by decide +kernel
  obtain ⟨workflow, case, position, step, result, hfaces, htype, hrevalidated, hrefused⟩ :=
    Sample.refusesNext_faces hrefuses
  refine ⟨workflow, case, position, step, result, hfaces, htype, hrevalidated, hrefused, ?_⟩
  rintro ⟨failed, u, hrun, -⟩
  have hraises : (executeNextStep Sample.env (fun _ => none) 0 []
      ⟨Sample.settledDb, []⟩).2.toOption.isSome = false := by decide +kernel
  rw [hrun] at hraises
  cases hraises

namespace WorkflowExecutionService

variable {env : Env} {provider : Provider} {workflowId : UUID} {override : Dict}
  {session : Session} {workflow : RecoveryWorkflow} {case : RecoveryCase} {position : ℕ}
  {step : WorkflowStep}

/-! ## Answered dispatches -/

/-- The rows after a request that makes this call: what raises is rolled back. -/
def rowsAfter (session : Session)
    (outcome : List Submission × Except Fault (Option WorkflowStep × Session)) : Store :=
  match outcome.2 with
  | .ok (_, u) => u.db
  | .error _ => session.db

/-- The call faces a dispatch, its preparation wrote the attempt, and the adapter answered. -/
structure AnsweredDispatch (env : Env) (provider : Provider) (workflowId : UUID) (override : Dict)
    (session : Session) (workflow : RecoveryWorkflow) (case : RecoveryCase) (position : ℕ)
    (step : WorkflowStep) (prepared : PreparedRetry) (attempted : Store) (res : ExecutionResult) :
    Prop extends Faces session workflowId workflow case position step where
  stepType : step.stepType = .DISPATCH_PAYMENT_RETRY
  preparation : prepareDispatch env workflowId position step workflow.caseId override
    (started session.db workflowId position) = .ok (some prepared, attempted)
  answer : ∃ executed, Answered session provider prepared.request res executed

variable {prepared : PreparedRetry} {attempted : Store} {res : ExecutionResult}

/-- The adapter answers from its memory or from the provider, and the rows stay as they are. -/
theorem submitRetry_answered {executed : Bool}
    (h : Answered session provider prepared.request res executed) (env : Env) (workflowId : UUID)
    (position : ℕ) (db : Store) :
    ∃ submissions, submitRetry env provider workflowId position prepared { session with db } =
      ([submissionOf env workflowId position prepared db executed],
        .ok (res, ⟨db, submissions⟩)) := by
  cases h with
  | remembered hlookup =>
    refine ⟨session.submissions, ?_⟩
    unfold submitRetry
    rw [Req.get_bind_apply]
    dsimp only
    rw [hlookup]
    rfl
  | sent hlookup hres =>
    refine ⟨(prepared.request.idempotencyKey, res) :: session.submissions, ?_⟩
    unfold submitRetry
    rw [Req.get_bind_apply]
    dsimp only
    rw [hlookup, hres]
    rfl

/-- After the answer everything depends on whether its outcome can be recorded. -/
theorem AnsweredDispatch.rowsAfter_eq
    (h : AnsweredDispatch env provider workflowId override session workflow case position step
      prepared attempted res) :
    rowsAfter session (executeNextStep env provider workflowId override session) =
      match recordOutcome env workflowId position step workflow.caseId prepared res attempted with
      | .ok (_, recorded) => recorded
      | .error _ => session.db := by
  obtain ⟨executed, hanswered⟩ := h.answer
  obtain ⟨submissions, hsubmit⟩ :=
    submitRetry_answered hanswered env workflowId position attempted
  have hprepare : onDb (prepareDispatch env workflowId position step workflow.caseId override)
      { session with db := started session.db workflowId position } =
        ([], .ok (some prepared, { session with db := attempted })) := by
    unfold onDb Req.onPart
    dsimp only
    rw [h.preparation]
  rw [h.executeNextStep_apply]
  unfold runStep
  rw [h.stepType]
  dsimp only
  unfold executeDispatchPaymentRetry
  rw [Req.bind_apply, hprepare]
  dsimp only
  rw [Req.bind_apply, hsubmit]
  dsimp only
  unfold onDb Req.onPart
  dsimp only
  rcases recordOutcome env workflowId position step workflow.caseId prepared res attempted
    with fault | ⟨x, recorded⟩
  · rfl
  · rfl

/-- The rows in which the answer came: the case waits for its action, it has tries left, and only
the attempt is new. -/
theorem AnsweredDispatch.dispatched
    (h : AnsweredDispatch env provider workflowId override session workflow case position step
      prepared attempted res) :
    case.state = .ACTION_PENDING ∧ prepared.priorAttempts < 4 ∧
      prepared.priorAttempts = (session.db.attemptsOf workflow.caseId).length ∧
      ∃ attempt : RecoveryAttempt, attempt.caseId = workflow.caseId ∧
        attempted = { started session.db workflowId position with
          attempts := session.db.attempts ++ [attempt] } := by
  obtain ⟨found, txn, customer, hdispatched⟩ := prepareDispatch_some h.preparation
  have hcase : session.db.recoveryCases[workflow.caseId]? = some found :=
    hdispatched.cleared.caseRow
  obtain rfl : case = found := Option.some.inj (h.caseRow.symm.trans hcase)
  refine ⟨hdispatched.cleared.actionPending, ?_, hdispatched.priorAttempts, _, rfl,
    hdispatched.after⟩
  rw [hdispatched.priorAttempts]
  exact hdispatched.cleared.budget

/-- What recording the outcome reads is as it was before the attempt. -/
theorem AnsweredDispatch.reads
    (h : AnsweredDispatch env provider workflowId override session workflow case position step
      prepared attempted res) :
    attempted.executions = session.db.executions ∧
      attempted.recoveryCases = session.db.recoveryCases ∧
      attempted.nextTransitionNumber workflow.caseId =
        session.db.nextTransitionNumber workflow.caseId ∧
      attempted.auditNumbers workflow.caseId = session.db.auditNumbers workflow.caseId := by
  obtain ⟨-, -, -, attempt, -, hattempted⟩ := h.dispatched
  rw [hattempted]
  exact ⟨rfl, rfl, rfl, rfl⟩

/-- An outcome that is recorded took the step. -/
theorem AnsweredDispatch.took
    (h : AnsweredDispatch env provider workflowId override session workflow case position step
      prepared attempted res) {x : Unit} {recorded : Store}
    (hrecord : recordOutcome env workflowId position step workflow.caseId prepared res attempted =
      .ok (x, recorded)) :
    Took env workflowId session.db workflow position step (.answered res.status) recorded := by
  obtain ⟨-, hbudget, -, attempt, hattempt, rfl⟩ := h.dispatched
  refine recordOutcome_took h.workflowRow (nextPending_some h.next).1 hbudget ?_ hrecord
  exact Table.forall_append_one (fun before hbefore => .inr ⟨before, hbefore, rfl⟩) (.inl hattempt)

/-- A failure leaves every case as it was, whether or not it could be recorded. -/
theorem AnsweredDispatch.failed_recoveryCases
    (h : AnsweredDispatch env provider workflowId override session workflow case position step
      prepared attempted res) (hfailed : res.status = .FAILED) :
    (rowsAfter session (executeNextStep env provider workflowId override session)).recoveryCases =
      session.db.recoveryCases := by
  rw [h.rowsAfter_eq]
  rcases hrecord : recordOutcome env workflowId position step workflow.caseId prepared res attempted
    with fault | ⟨x, recorded⟩
  · rfl
  · have htook := h.took hrecord
    rw [hfailed] at htook
    rcases htook.moves with ⟨-, hsame⟩ | ⟨target, found, htarget, -⟩
    · exact hsame
    · cases htarget

end WorkflowExecutionService

namespace Sample

/-- The adapter that gives one answer to every submission. -/
def gateway (status : ExecutionStatus) : Provider := fun request =>
  some ⟨status, "razorpay", some "pay_2", none, request.amountMinor, "INR", none, none, noon, true⟩

/-- The workflow goes on with a dispatch for the first case, which makes so many attempts. -/
def dispatchesNext (db : Store) (workflowId position attempts : ℕ) : Bool :=
  (facing db workflowId).any fun ⟨workflow, _, next, step⟩ =>
    workflow.caseId == 0 && next == position && step.stepType == .DISPATCH_PAYMENT_RETRY &&
      (WorkflowExecutionService.prepareDispatch env workflowId position step 0 []
        (WorkflowExecutionService.started db workflowId position)).toOption.any
          fun ⟨prepared, attempted⟩ =>
            prepared.isSome && (attempted.attemptsOf 0).length == attempts

/-- The planned retry is about to be dispatched. -/
def dueDb : Store := (plannedWorld.run .default [stepped 0 .FAILED, stepped 0 .FAILED]).db

/-- Three retries failed, and the fourth is about to be dispatched. -/
def lastTryDb : Store :=
  (plannedWorld.run .default [executed 0 .FAILED, planned, executed 1 .FAILED, planned,
    executed 2 .FAILED, planned, stepped 3 .FAILED, stepped 3 .FAILED]).db

theorem dispatchesNext_answered {db : Store} {workflowId position attempts : ℕ}
    (h : dispatchesNext db workflowId position attempts = true) (status : ExecutionStatus) :
    ∃ workflow case step prepared attempted res,
      AnsweredDispatch env (gateway status) workflowId [] ⟨db, []⟩ workflow case position step
        prepared attempted res ∧ workflow.caseId = 0 ∧ res.status = status ∧
      res.isDefinitive = true ∧ (attempted.attemptsOf 0).length = attempts := by
  obtain ⟨⟨workflow, case, next, step⟩, hfacing, h⟩ := (Option.any_eq_true _ _).mp h
  simp only [Bool.and_eq_true, beq_iff_eq] at h
  obtain ⟨⟨⟨hid, rfl⟩, htype⟩, hprepares⟩ := h
  obtain ⟨⟨prepared, attempted⟩, hresult, hprepares⟩ := (Option.any_eq_true _ _).mp hprepares
  simp only [Bool.and_eq_true, beq_iff_eq] at hprepares
  obtain ⟨hprepared, hattempts⟩ := hprepares
  obtain ⟨retry, rfl⟩ := Option.isSome_iff_exists.mp hprepared
  rcases hprepare : prepareDispatch env workflowId next step 0 [] (started db workflowId next)
    with fault | result
  · rw [hprepare] at hresult
    cases hresult
  rw [hprepare] at hresult
  cases hresult
  rw [← hid] at hprepare
  exact ⟨workflow, case, step, retry, attempted, _,
    ⟨facing_faces hfacing, htype, hprepare, true, .sent _ rfl rfl⟩, hid, rfl, rfl, hattempts⟩

end Sample

namespace WorkflowExecutionService

variable {env : Env} {provider : Provider} {workflowId : UUID} {override : Dict}
  {session : Session} {workflow : RecoveryWorkflow} {case : RecoveryCase} {position : ℕ}
  {step : WorkflowStep}

variable {prepared : PreparedRetry} {attempted : Store} {res : ExecutionResult}

/-- A dispatch that ends in a definitive failure never stops its case, however many attempts are
on record: the ceiling that stops it counts the attempts before this one, and the revalidation has
let the dispatch through because there were less than four of them. -/
theorem last_failure_does_not_stop
    (h : AnsweredDispatch env provider workflowId override session workflow case position step
      prepared attempted res) (hfailed : res.status = .FAILED) (_ : res.isDefinitive = true)
    (_ : 4 ≤ (attempted.attemptsOf workflow.caseId).length) :
    ((rowsAfter session (executeNextStep env provider workflowId override
      session)).recoveryCases[workflow.caseId]?).map RecoveryCase.state ≠ some .STOPPED := by
  rw [h.failed_recoveryCases hfailed, h.caseRow, Option.map_some, h.dispatched.1]
  decide

end WorkflowExecutionService

/-- The fourth retry fails, and the case still waits for its action. -/
theorem fourth_failure_does_not_stop :
    ((rowsAfter ⟨Sample.lastTryDb, []⟩ (executeNextStep Sample.env (Sample.gateway .FAILED) 3 []
      ⟨Sample.lastTryDb, []⟩)).recoveryCases[0]?).map RecoveryCase.state ≠ some .STOPPED := by
  have hdue : Sample.dispatchesNext Sample.lastTryDb 3 2 4 = true := by decide +kernel
  obtain ⟨workflow, case, step, prepared, attempted, res, hanswered, hid, hstatus, hdefinitive,
    hattempts⟩ := Sample.dispatchesNext_answered hdue .FAILED
  rw [← hid] at hattempts ⊢
  exact last_failure_does_not_stop hanswered hstatus hdefinitive hattempts.ge

/-- Four retries have failed, the last workflow is over, and the case waits for a fifth. -/
theorem fourth_failure_leaves_case_pending :
    let tried := Sample.plannedWorld.run .default [Sample.executed 0 .FAILED, Sample.planned,
      Sample.executed 1 .FAILED, Sample.planned, Sample.executed 2 .FAILED, Sample.planned,
      Sample.executed 3 .FAILED]
    (tried.db.attemptsOf 0).map RecoveryAttempt.status = [.FAILED, .FAILED, .FAILED, .FAILED] ∧
      (Sample.progress tried.db 3).map Prod.fst = some .FAILED ∧
      (tried.db.recoveryCases[0]?).map RecoveryCase.state = some .ACTION_PENDING := by
  decide +kernel

namespace WorkflowExecutionService

variable {env : Env} {provider : Provider} {workflowId : UUID} {override : Dict}
  {session : Session} {workflow : RecoveryWorkflow} {case : RecoveryCase} {position : ℕ}
  {step : WorkflowStep}

variable {prepared : PreparedRetry} {attempted : Store} {res : ExecutionResult}

/-! ## Handled outcomes -/

/-- The step is not left running, and only a definitive failure leaves its case to be retried. -/
structure Handled (res : ExecutionResult) (workflowId : UUID) (position : ℕ) (caseId : UUID)
    (rows : Store) : Prop where
  notRunning : ∀ workflow step, rows.workflows[workflowId]? = some workflow →
    workflow.steps[position]? = some step → step.status ≠ .RUNNING
  leaves : (res.status = .FAILED ∧ res.isDefinitive = true) ∨
    ∀ case, rows.recoveryCases[caseId]? = some case → case.state ≠ .ACTION_PENDING

/-- An outcome that the code has a branch for, and whose case can be moved as the branch says. -/
def Covered (s : Store) (caseId : UUID) (step : WorkflowStep) (res : ExecutionResult) : Prop :=
  match res.status with
  | .FAILED => res.isDefinitive = true
  | .SUBMITTED | .SUCCEEDED | .UNKNOWN =>
    (∀ row ∈ s.executions, row.idempotencyKey ≠ step.idempotencyKey) ∧
      s.nextTransitionNumber caseId ∉ s.auditNumbers caseId
  | .PENDING | .CANCELLED => False

/-- What is recorded under a key was not recorded before. -/
theorem recordOutcome_fresh {s t : Store} {caseId : UUID} {x : Unit}
    (h : recordOutcome env workflowId position step caseId prepared res s = .ok (x, t)) :
    ∀ row ∈ s.executions, row.idempotencyKey ≠ step.idempotencyKey := by
  obtain ⟨_, u, hinsert, -⟩ := Tx.bind_eq_ok.mp h
  rw [insertExecution_apply] at hinsert
  split at hinsert
  · cases hinsert
  next hfree =>
    intro row hrow hsame
    exact hfree (List.any_eq_true.mpr ⟨row, hrow, beq_iff_eq.mpr hsame⟩)

/-- A case that still waits for its action can only have met a definitive failure. -/
theorem Handled.definitive {rows : Store} {caseId : UUID}
    (h : Handled res workflowId position caseId rows)
    (hcase : rows.recoveryCases[caseId]? = some case) (hpending : case.state = .ACTION_PENDING) :
    res.status = .FAILED ∧ res.isDefinitive = true :=
  h.leaves.resolve_right fun hleft => hleft case hcase hpending

/-- A step whose outcome was recorded is no longer running, unless the outcome has no branch. -/
theorem AnsweredDispatch.recorded_step
    (h : AnsweredDispatch env provider workflowId override session workflow case position step
      prepared attempted res) {recorded : Store}
    (htook : Took env workflowId session.db workflow position step (.answered res.status)
      recorded) :
    ∃ after, recorded.workflows[workflowId]? = some { workflow with
        status := (StepOutcome.answered res.status).workflowStatus
        steps := workflow.steps.set position after } ∧
      (workflow.steps.set position after)[position]? = some after ∧
      after.status = (StepOutcome.answered res.status).stepStatus := by
  obtain ⟨after, hworkflows, hstatus, -⟩ := htook.workflows
  refine ⟨after, ?_, ?_, hstatus⟩
  · rw [hworkflows]
    exact List.getElem?_set_self (List.getElem?_eq_some_iff.mp h.workflowRow).1
  · exact List.getElem?_set_self
      (List.getElem?_eq_some_iff.mp (nextPending_some h.next).1).1

/-- The outcome is recorded if its key is new to the executions and the number of the case's next
transition is free in its audit log. -/
theorem AnsweredDispatch.records
    (h : AnsweredDispatch env provider workflowId override session workflow case position step
      prepared attempted res)
    (hfresh : ∀ row ∈ session.db.executions, row.idempotencyKey ≠ step.idempotencyKey)
    (hfree : session.db.nextTransitionNumber workflow.caseId ∉
      session.db.auditNumbers workflow.caseId) :
    ∃ x recorded, recordOutcome env workflowId position step workflow.caseId prepared res attempted =
      .ok (x, recorded) := by
  obtain ⟨hpending, hbudget, -, -⟩ := h.dispatched
  obtain ⟨hexecutions, hcases, hnext, hnumbers⟩ := h.reads
  rw [← hexecutions] at hfresh
  rw [← hnext, ← hnumbers] at hfree
  have hrow : attempted.recoveryCases[workflow.caseId]? = some case := by
    rw [hcases, h.caseRow]
  have hends : (recordOutcome env workflowId position step workflow.caseId prepared res).wp
      (fun _ _ => True) (fun _ => False) attempted :=
    recordOutcome_ok case hfresh hrow hpending hbudget fun _ => hfree
  unfold Tx.wp at hends
  rcases hrecord : recordOutcome env workflowId position step workflow.caseId prepared res attempted
    with fault | ⟨x, recorded⟩
  · rw [hrecord] at hends
    exact hends.elim
  · exact ⟨x, recorded, rfl⟩

/-- Where the outcome cannot be recorded, the request is rolled back. -/
theorem AnsweredDispatch.handled_of_error
    (h : AnsweredDispatch env provider workflowId override session workflow case position step
      prepared attempted res) {fault : Fault}
    (hrecord : recordOutcome env workflowId position step workflow.caseId prepared res attempted =
      .error fault) :
    Handled res workflowId position workflow.caseId session.db ↔
      Covered session.db workflow.caseId step res := by
  obtain ⟨hpending, -⟩ := h.dispatched
  obtain ⟨hstep, hwaiting⟩ := nextPending_some h.next
  have hraises : ¬((∀ row ∈ session.db.executions, row.idempotencyKey ≠ step.idempotencyKey) ∧
      session.db.nextTransitionNumber workflow.caseId ∉
        session.db.auditNumbers workflow.caseId) := by
    rintro ⟨hfresh, hfree⟩
    obtain ⟨x, recorded, hok⟩ := h.records hfresh hfree
    rw [hrecord] at hok
    cases hok
  have hstill : (res.status = .FAILED ∧ res.isDefinitive = true) →
      Handled res workflowId position workflow.caseId session.db := by
    intro hdefinitive
    refine ⟨fun found after hfound hafter hrunning => ?_, .inl hdefinitive⟩
    obtain rfl : workflow = found := Option.some.inj (h.workflowRow.symm.trans hfound)
    obtain rfl : step = after := Option.some.inj (hstep.symm.trans hafter)
    rw [WorkflowStep.isPending, hrunning] at hwaiting
    exact absurd hwaiting (by decide)
  have hdefinitive : Handled res workflowId position workflow.caseId session.db ↔
      res.status = .FAILED ∧ res.isDefinitive = true :=
    ⟨fun hhandled => hhandled.definitive h.caseRow hpending, hstill⟩
  rw [hdefinitive]
  unfold Covered
  cases res.status with
  | FAILED => simp
  | SUBMITTED => exact iff_of_false (fun hother => by cases hother.1) hraises
  | SUCCEEDED => exact iff_of_false (fun hother => by cases hother.1) hraises
  | UNKNOWN => exact iff_of_false (fun hother => by cases hother.1) hraises
  | PENDING => exact iff_of_false (fun hother => by cases hother.1) id
  | CANCELLED => exact iff_of_false (fun hother => by cases hother.1) id

/-- A recorded outcome that ends its step does not leave it running. -/
theorem AnsweredDispatch.notRunning
    (h : AnsweredDispatch env provider workflowId override session workflow case position step
      prepared attempted res) {recorded : Store}
    (htook : Took env workflowId session.db workflow position step (.answered res.status) recorded)
    (hends : (StepOutcome.answered res.status).stepStatus ≠ .RUNNING) {found : RecoveryWorkflow}
    {row : WorkflowStep} (hfound : recorded.workflows[workflowId]? = some found)
    (hrow : found.steps[position]? = some row) : row.status ≠ .RUNNING := by
  obtain ⟨after, hworkflow, hafter, hstatus⟩ := h.recorded_step htook
  rw [← Option.some.inj (hworkflow.symm.trans hfound)] at hrow
  rw [← Option.some.inj (hafter.symm.trans hrow), hstatus]
  exact hends

/-- An outcome that ends its step and moves the case is handled, and the move found its number
free. -/
theorem AnsweredDispatch.handled_of_target
    (h : AnsweredDispatch env provider workflowId override session workflow case position step
      prepared attempted res) {recorded : Store}
    (htook : Took env workflowId session.db workflow position step (.answered res.status) recorded)
    (hends : (StepOutcome.answered res.status).stepStatus ≠ .RUNNING) {target : RecoveryCaseState}
    (htarget : (StepOutcome.answered res.status).target = some target)
    (hleaves : target ≠ .ACTION_PENDING) :
    Handled res workflowId position workflow.caseId recorded ∧
      session.db.nextTransitionNumber workflow.caseId ∉
        session.db.auditNumbers workflow.caseId := by
  rcases htook.moves with ⟨hnone, -⟩ | ⟨found, row, hfound, hcarries, hcases⟩
  · rw [htarget] at hnone
    cases hnone
  · obtain rfl : target = found := Option.some.inj (htarget.symm.trans hfound)
    refine ⟨⟨fun _ _ => h.notRunning htook hends, .inr fun case' hcase' => ?_⟩,
      hcarries.numberFree⟩
    rw [hcases, List.getElem?_modify_eq, hcarries.caseRow] at hcase'
    cases hcase'
    exact hleaves

/-- Where the outcome is recorded, the case is moved or the failure is on record. -/
theorem AnsweredDispatch.handled_of_ok
    (h : AnsweredDispatch env provider workflowId override session workflow case position step
      prepared attempted res) {x : Unit} {recorded : Store}
    (hrecord : recordOutcome env workflowId position step workflow.caseId prepared res attempted =
      .ok (x, recorded)) :
    Handled res workflowId position workflow.caseId recorded ↔
      Covered session.db workflow.caseId step res := by
  have htook := h.took hrecord
  have hpending := h.dispatched.1
  have hfresh := recordOutcome_fresh hrecord
  rw [h.reads.1] at hfresh
  have hcovered : ∀ target, (StepOutcome.answered res.status).target = some target →
      target ≠ .ACTION_PENDING → (StepOutcome.answered res.status).stepStatus ≠ .RUNNING →
      (Handled res workflowId position workflow.caseId recorded ↔
        (∀ row ∈ session.db.executions, row.idempotencyKey ≠ step.idempotencyKey) ∧
          session.db.nextTransitionNumber workflow.caseId ∉
            session.db.auditNumbers workflow.caseId) := by
    intro target htarget hleaves hends
    obtain ⟨hhandled, hfree⟩ := h.handled_of_target htook hends htarget hleaves
    exact iff_of_true hhandled ⟨hfresh, hfree⟩
  have hrunning : (StepOutcome.answered res.status).stepStatus = .RUNNING →
      ¬Handled res workflowId position workflow.caseId recorded := by
    intro hleft hhandled
    obtain ⟨after, hworkflow, hafter, hstatus⟩ := h.recorded_step htook
    exact hhandled.notRunning _ after hworkflow hafter (hstatus.trans hleft)
  unfold Covered
  cases hanswer : res.status with
  | SUBMITTED =>
    rw [hanswer] at hcovered
    exact hcovered .VERIFICATION_PENDING rfl (by decide) (by decide)
  | SUCCEEDED =>
    rw [hanswer] at hcovered
    exact hcovered .VERIFICATION_PENDING rfl (by decide) (by decide)
  | UNKNOWN =>
    rw [hanswer] at hcovered
    exact hcovered .ESCALATED rfl (by decide) (by decide)
  | PENDING =>
    rw [hanswer] at hrunning
    exact iff_of_false (hrunning rfl) id
  | CANCELLED =>
    rw [hanswer] at hrunning
    exact iff_of_false (hrunning rfl) id
  | FAILED =>
    have hends : (StepOutcome.answered res.status).stepStatus ≠ .RUNNING := by
      rw [hanswer]
      decide
    have hrow : recorded.recoveryCases[workflow.caseId]? = some case := by
      rcases htook.moves with ⟨-, hsame⟩ | ⟨target, found, htarget, -⟩
      · rw [hsame, h.caseRow]
      · rw [hanswer] at htarget
        cases htarget
    exact ⟨fun hhandled => (hhandled.definitive hrow hpending).2,
      fun hdefinitive => ⟨fun _ _ => h.notRunning htook hends, .inl ⟨hanswer, hdefinitive⟩⟩⟩

/-- Whatever an adapter answers to a dispatch is handled exactly when it is covered: a failure when
it is definitive, an acceptance, a success or an unknown outcome when the key of the step has no
execution on record and the number of the case's next transition is free in its audit log, and a
pending or a cancelled payment never. -/
theorem outcome_handled_iff
    (h : AnsweredDispatch env provider workflowId override session workflow case position step
      prepared attempted res) :
    Handled res workflowId position workflow.caseId
        (rowsAfter session (executeNextStep env provider workflowId override session)) ↔
      Covered session.db workflow.caseId step res := by
  rw [h.rowsAfter_eq]
  rcases hrecord : recordOutcome env workflowId position step workflow.caseId prepared res attempted
    with fault | ⟨x, recorded⟩
  · exact h.handled_of_error hrecord
  · exact h.handled_of_ok hrecord

end WorkflowExecutionService

/-- A failed payment is handled. -/
theorem outcome_handled_iff_failed :
    ∃ res : ExecutionResult, res.status = .FAILED ∧ Handled res 0 2 0
      (rowsAfter ⟨Sample.dueDb, []⟩
        (executeNextStep Sample.env (Sample.gateway .FAILED) 0 [] ⟨Sample.dueDb, []⟩)) := by
  have hdue : Sample.dispatchesNext Sample.dueDb 0 2 1 = true := by decide +kernel
  obtain ⟨workflow, case, step, prepared, attempted, res, hanswered, hid, hstatus, hdefinitive,
    -⟩ := Sample.dispatchesNext_answered hdue .FAILED
  have hcovered : Covered Sample.dueDb workflow.caseId step res := by
    unfold Covered
    rw [hstatus]
    exact hdefinitive
  have hhandled := (outcome_handled_iff hanswered).mpr hcovered
  rw [hid] at hhandled
  exact ⟨res, hstatus, hhandled⟩

/-- A pending payment leaves its step running and its case to be retried. -/
theorem pending_payment_is_not_handled :
    ∃ workflow case step prepared attempted res,
      AnsweredDispatch Sample.env (Sample.gateway .PENDING) 0 [] ⟨Sample.dueDb, []⟩ workflow case 2
        step prepared attempted res ∧ res.status = .PENDING ∧
      ¬Handled res 0 2 workflow.caseId
        (rowsAfter ⟨Sample.dueDb, []⟩
          (executeNextStep Sample.env (Sample.gateway .PENDING) 0 [] ⟨Sample.dueDb, []⟩)) := by
  have hdue : Sample.dispatchesNext Sample.dueDb 0 2 1 = true := by decide +kernel
  obtain ⟨workflow, case, step, prepared, attempted, res, hanswered, hid, hstatus, -, -⟩ :=
    Sample.dispatchesNext_answered hdue .PENDING
  refine ⟨workflow, case, step, prepared, attempted, res, hanswered, hstatus, fun hhandled => ?_⟩
  have hrow : (rowsAfter ⟨Sample.dueDb, []⟩ (executeNextStep Sample.env (Sample.gateway .PENDING) 0
      [] ⟨Sample.dueDb, []⟩)).recoveryCases[0]?.map RecoveryCase.state = some .ACTION_PENDING := by
    decide +kernel
  obtain ⟨left, hleft, hpending⟩ := Option.map_eq_some_iff.mp hrow
  rw [hid] at hhandled
  have hfailed := (hhandled.definitive hleft hpending).1
  rw [hstatus] at hfailed
  cases hfailed

end RevenueRescue
