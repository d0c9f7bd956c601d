import RevenueRescue.Refinement.Execution

/-!
# Workflows whose steps are taken in order

A workflow is in order when nothing was taken out of turn: before a step that is no longer
pending everything is completed, and only a workflow that failed, waits or is under review has
a step that is neither pending, completed nor running. One step keeps a workflow in order
unless it finds a step still running or a workflow that waits or is under review.
-/

namespace RevenueRescue

open Python

/-- The steps of a workflow have been taken in order. -/
structure InOrder (workflow : RecoveryWorkflow) : Prop where
  sequence : ∀ (p q : ℕ) (earlier later : WorkflowStep), p < q →
    workflow.steps[p]? = some earlier → workflow.steps[q]? = some later →
    later.isPending = false → earlier.status = .COMPLETED
  settled : workflow.status ∉ [WorkflowStatus.FAILED, .REQUIRES_REVIEW, .WAITING] →
    ∀ step ∈ workflow.steps, step.isPending = true ∨ step.status ∈ [.COMPLETED, .RUNNING]
  completed : workflow.status = .COMPLETED → ∀ step ∈ workflow.steps, step.status = .COMPLETED

/-- Every step of the workflow is pending or completed. -/
def RecoveryWorkflow.Settled (workflow : RecoveryWorkflow) : Prop :=
  ∀ step ∈ workflow.steps, step.isPending = true ∨ step.status = .COMPLETED

/-- The steps are numbered, and only the first can be a validation and the third a dispatch. -/
structure WellLaid (workflow : RecoveryWorkflow) : Prop where
  indexed : ∀ (position : ℕ) (step : WorkflowStep), workflow.steps[position]? = some step →
    step.stepIndex = position + 1
  validateAt : ∀ (position : ℕ) (step : WorkflowStep), workflow.steps[position]? = some step →
    step.stepType = .VALIDATE_AUTHORIZATION → position = 0
  dispatchAt : ∀ (position : ℕ) (step : WorkflowStep), workflow.steps[position]? = some step →
    step.stepType = .DISPATCH_PAYMENT_RETRY → position = 2

variable {workflow : RecoveryWorkflow} {position : ℕ} {step after : WorkflowStep}
  {outcome : StepOutcome} {s : Store}

/-! ## One step -/

/-- An outcome never leaves its step pending. -/
theorem StepOutcome.stepStatus_not_pending (outcome : StepOutcome) :
    outcome.stepStatus ≠ .PENDING ∧ outcome.stepStatus ≠ .SCHEDULED := by
  cases outcome with
  | answered status => cases status <;> exact ⟨by decide, by decide⟩
  | _ => exact ⟨nofun, nofun⟩

theorem not_pending_of_outcome (h : after.status = outcome.stepStatus) :
    after.isPending = false := by
  obtain ⟨hpending, hscheduled⟩ := outcome.stepStatus_not_pending
  unfold WorkflowStep.isPending
  rw [h]
  simp [hpending, hscheduled]

/-- An outcome never completes the workflow. -/
theorem StepOutcome.workflowStatus_ne_completed (outcome : StepOutcome) :
    outcome.workflowStatus ≠ .COMPLETED := by
  cases outcome with
  | answered status => cases status <;> decide
  | _ => exact nofun

/-- A workflow that goes on has completed the step or left it running. -/
theorem StepOutcome.stepStatus_of_running (outcome : StepOutcome)
    (h : outcome.workflowStatus ∉ [WorkflowStatus.FAILED, .REQUIRES_REVIEW, .WAITING]) :
    outcome.stepStatus ∈ [WorkflowStepStatus.COMPLETED, .RUNNING] := by
  revert h
  cases outcome with
  | answered status => cases status <;> decide
  | invalid target => exact fun h => absurd List.mem_cons_self h
  | _ => decide

/-- In a settled workflow everything before the next step is completed. -/
theorem RecoveryWorkflow.Settled.completed_before (h : workflow.Settled)
    (hnext : WorkflowExecutionService.nextPending workflow = some (position, step)) {p : ℕ}
    {earlier : WorkflowStep} (hlt : p < position) (hearlier : workflow.steps[p]? = some earlier) :
    earlier.status = .COMPLETED := by
  have hpassed : ¬earlier.isPending = true := Table.find?_first hnext hlt hearlier
  exact (h earlier (List.mem_of_getElem? hearlier)).resolve_left hpassed

/-- A settled workflow without a next step is completed. -/
theorem RecoveryWorkflow.Settled.completed (h : workflow.Settled)
    (hnext : WorkflowExecutionService.nextPending workflow = none) :
    ∀ step ∈ workflow.steps, step.status = .COMPLETED := by
  intro step hstep
  have hpassed : step.isPending = false := Table.find?_none.mp hnext step hstep
  refine (h step hstep).resolve_left ?_
  rw [hpassed]
  exact Bool.false_ne_true

/-- Completing a settled workflow without a next step keeps it in order. -/
theorem RecoveryWorkflow.Settled.inOrder (h : workflow.Settled)
    (hnext : WorkflowExecutionService.nextPending workflow = none) :
    InOrder { workflow with status := .COMPLETED } := by
  have hall := h.completed hnext
  refine ⟨fun p q earlier later _ hearlier _ _ => ?_, fun _ step hstep => ?_, fun _ => hall⟩
  · exact hall earlier (List.mem_of_getElem? hearlier)
  · rw [hall step hstep]
    exact .inr List.mem_cons_self

/-- A step of a settled workflow keeps it in order. -/
theorem InOrder.took (h : InOrder workflow) (hsettled : workflow.Settled)
    (hnext : WorkflowExecutionService.nextPending workflow = some (position, step))
    (hafter : after.status = outcome.stepStatus) :
    InOrder { workflow with
      status := outcome.workflowStatus, steps := workflow.steps.set position after } := by
  obtain ⟨hstep, hpending⟩ := WorkflowExecutionService.nextPending_some hnext
  refine ⟨fun p q earlier later hlt hearlier hlater hdone => ?_, fun hrunning one hone => ?_,
    fun hcompleted => absurd hcompleted outcome.workflowStatus_ne_completed⟩
  · dsimp only at hearlier hlater
    by_cases hq : q = position
    · subst hq
      rw [List.getElem?_set_ne (Nat.ne_of_gt hlt)] at hearlier
      exact hsettled.completed_before hnext hlt hearlier
    rw [List.getElem?_set_ne (Ne.symm hq)] at hlater
    by_cases hp : p = position
    · -- nothing after the next step was taken before it
      subst hp
      have hcompleted : step.status = .COMPLETED :=
        h.sequence p q step later hlt hstep hlater hdone
      unfold WorkflowStep.isPending at hpending
      rw [hcompleted] at hpending
      exact absurd hpending (by decide)
    · rw [List.getElem?_set_ne (Ne.symm hp)] at hearlier
      exact h.sequence p q earlier later hlt hearlier hlater hdone
  · rcases List.mem_or_eq_of_mem_set hone with hold | rfl
    · refine (hsettled one hold).imp_right fun hcompleted => ?_
      rw [hcompleted]
      exact List.mem_cons_self
    · rw [hafter]
      exact .inr (outcome.stepStatus_of_running hrunning)

/-- A step that stays what it is was there before. -/
theorem StepKept.row_before (hstep : workflow.steps[position]? = some step)
    (hkept : StepKept step after) {p : ℕ} {one : WorkflowStep}
    (hone : (workflow.steps.set position after)[p]? = some one) :
    ∃ old, workflow.steps[p]? = some old ∧ one.stepIndex = old.stepIndex ∧
      one.stepType = old.stepType := by
  by_cases hp : p = position
  · subst hp
    have hlt : p < workflow.steps.length := (List.getElem?_eq_some_iff.mp hstep).1
    rw [List.getElem?_set_self hlt, Option.some.injEq] at hone
    subst hone
    exact ⟨step, hstep, hkept.stepIndex, hkept.stepType⟩
  · rw [List.getElem?_set_ne (Ne.symm hp)] at hone
    exact ⟨one, hone, rfl, rfl⟩

/-- A step that stays what it is keeps the workflow well laid. -/
theorem WellLaid.set (h : WellLaid workflow) (hstep : workflow.steps[position]? = some step)
    (hkept : StepKept step after) (status : WorkflowStatus) :
    WellLaid { workflow with status, steps := workflow.steps.set position after } := by
  refine ⟨fun p one hone => ?_, fun p one hone htype => ?_, fun p one hone htype => ?_⟩
  · obtain ⟨old, hold, hindex, -⟩ := hkept.row_before hstep hone
    rw [hindex]
    exact h.indexed p old hold
  · obtain ⟨old, hold, -, hsame⟩ := hkept.row_before hstep hone
    exact h.validateAt p old hold (hsame.symm.trans htype)
  · obtain ⟨old, hold, -, hsame⟩ := hkept.row_before hstep hone
    exact h.dispatchAt p old hold (hsame.symm.trans htype)

/-- Once a dispatch was taken, no dispatch is left. -/
theorem WellLaid.dispatched (h : WellLaid workflow) (hstep : workflow.steps[position]? = some step)
    (htype : step.stepType = .DISPATCH_PAYMENT_RETRY) (hdone : after.isPending = false) :
    ∀ one ∈ workflow.steps.set position after, one.isPending = true →
      one.stepType ≠ .DISPATCH_PAYMENT_RETRY := by
  intro one hone hpending hdispatch
  obtain ⟨p, hp⟩ := List.mem_iff_getElem?.mp hone
  by_cases hposition : p = position
  · subst hposition
    have hlt : p < workflow.steps.length := (List.getElem?_eq_some_iff.mp hstep).1
    rw [List.getElem?_set_self hlt, Option.some.injEq] at hp
    rw [← hp, hdone] at hpending
    cases hpending
  · rw [List.getElem?_set_ne (Ne.symm hposition)] at hp
    exact hposition ((h.dispatchAt p one hp hdispatch).trans
      (h.dispatchAt position step hstep htype).symm)

/-! ## Workflows as they are built -/

/-- The steps that are built are pending and numbered, and a validation comes first. -/
theorem buildSteps_pending {workflowId : UUID} {action : ActionType} {cooldownHours : ℤ}
    (hstep : (WorkflowCreationService.buildSteps workflowId action cooldownHours)[position]? =
      some step) :
    step.status = .PENDING ∧ step.stepIndex = position + 1 ∧
      (step.stepType = .VALIDATE_AUTHORIZATION → position = 0) := by
  cases action with
  | RETRY_PAYMENT =>
    match position with
    | 0 => cases hstep; exact ⟨rfl, rfl, fun _ => rfl⟩
    | 1 | 2 | 3 => cases hstep; exact ⟨rfl, rfl, nofun⟩
    | _ + 4 => cases hstep
  | SEND_REMINDER =>
    match position with
    | 0 => cases hstep; exact ⟨rfl, rfl, fun _ => rfl⟩
    | 1 => cases hstep; exact ⟨rfl, rfl, nofun⟩
    | _ + 2 => cases hstep
  | REQUEST_OPERATOR_REVIEW =>
    match position with
    | 0 => cases hstep; exact ⟨rfl, rfl, nofun⟩
    | _ + 1 => cases hstep
  | STOP => cases hstep
  | NONE => cases hstep

theorem InOrder.newWorkflow (env : Env) (workflowId decisionId : UUID)
    (decision : PolicyDecision) (cooldownHours maxWorkflowHours : ℤ) :
    InOrder (WorkflowCreationService.newWorkflow env workflowId decisionId decision
      cooldownHours maxWorkflowHours) := by
  have hpending : ∀ (position : ℕ) (step : WorkflowStep),
      (WorkflowCreationService.newWorkflow env workflowId decisionId decision cooldownHours
        maxWorkflowHours).steps[position]? = some step → step.isPending = true := by
    intro position step hstep
    have hstatus := (buildSteps_pending hstep).1
    unfold WorkflowStep.isPending
    rw [hstatus]
    rfl
  refine ⟨fun p q earlier later _ _ hlater hdone => ?_, fun _ step hstep => ?_, fun h => ?_⟩
  · rw [hpending q later hlater] at hdone
    cases hdone
  · obtain ⟨position, hposition⟩ := List.mem_iff_getElem?.mp hstep
    exact .inl (hpending position step hposition)
  · cases h

/-- A workflow that stands on its decision is well laid. -/
theorem StandsOn.wellLaid {workflowId : UUID} (h : StandsOn s workflowId workflow) :
    WellLaid workflow := by
  refine ⟨fun p one hone => ?_, fun p one hone htype => ?_,
    fun p one hone htype => (h.dispatch hone htype).1⟩
  · obtain ⟨decision, cooldownHours, -, -, -, hlength, hsteps⟩ := h
    obtain ⟨built, hbuilt, hprogress⟩ := hsteps.row_before hlength hone
    rw [hprogress.stepIndex]
    exact (buildSteps_pending hbuilt).2.1
  · obtain ⟨decision, cooldownHours, -, -, -, hlength, hsteps⟩ := h
    obtain ⟨built, hbuilt, hprogress⟩ := hsteps.row_before hlength hone
    exact (buildSteps_pending hbuilt).2.2 (hprogress.stepType.symm.trans htype)

/-! ## One request -/

/-- An execution request that takes its steps in turn: it does not take a single step of a
workflow that waits or is under review, it finds no step running, and where it goes on after a
dispatch the answer has decided the dispatch. -/
structure InSequence (env : Env) (provider : Provider) (s : Store) (workflowId : UUID)
    (executeAll : Bool) (override : Dict) : Prop where
  resumed : executeAll = false → ∀ workflow, s.workflows[workflowId]? = some workflow →
    workflow.status ∉ [WorkflowStatus.WAITING, .REQUIRES_REVIEW]
  idle : ∀ workflow, s.workflows[workflowId]? = some workflow →
    ∀ step ∈ workflow.steps, step.status ≠ .RUNNING
  decided : executeAll = true → ∀ workflow position step case txn customer,
    Reaches env s workflowId true workflow position step case txn customer →
    ∀ res, provider (WorkflowExecutionService.buildRequest step workflow.caseId case txn customer
      override) = some res → res.status ∉ [ExecutionStatus.PENDING, .CANCELLED]

namespace WorkflowExecutionService

variable {env : Env} {provider : Provider} {workflowId : UUID} {executeAll : Bool}
  {override : Dict} {before : Store} {original : RecoveryWorkflow} {u t : Session}

/-- What holds of the workflow between the steps of a request. -/
structure OnCourse (workflowId : UUID) (executeAll : Bool) (before : Store)
    (original : RecoveryWorkflow) (u : Session) (workflow : RecoveryWorkflow) : Prop where
  workflowRow : u.db.workflows[workflowId]? = some workflow
  others : ∀ id, id ≠ workflowId → u.db.workflows[id]? = before.workflows[id]?
  inOrder : InOrder workflow
  wellLaid : WellLaid workflow
  begun : u = ⟨before, []⟩ ∨ original.status ∉ refusedStatuses executeAll
  idle : executeAll = true → workflow.status ∉ stoppingStatuses →
    ∀ step ∈ workflow.steps, step.status ≠ .RUNNING
  unsent : executeAll = true → workflow.status ∉ stoppingStatuses →
    Ready workflowId before original u workflow ∨
      ∀ step ∈ workflow.steps, step.isPending = true → step.stepType ≠ .DISPATCH_PAYMENT_RETRY

theorem OnCourse.start (hrequest : InSequence env provider before workflowId executeAll override)
    (hrow : before.workflows[workflowId]? = some original) (hinOrder : InOrder original)
    (hlaid : WellLaid original) :
    OnCourse workflowId executeAll before original ⟨before, []⟩ original :=
  ⟨hrow, fun _ _ => rfl, hinOrder, hlaid, .inl rfl, fun _ _ => hrequest.idle original hrow,
    fun _ _ => .inl (.start hrow)⟩

/-- Every step of the workflow is settled when one more is taken. -/
theorem OnCourse.settled (h : OnCourse workflowId executeAll before original u workflow)
    (hrequest : InSequence env provider before workflowId executeAll override)
    (hopen : workflow.status ∉ refusedStatuses executeAll)
    (hsingle : executeAll = false → u = ⟨before, []⟩) : workflow.Settled := by
  have hfound : workflow.status ∉ [WorkflowStatus.FAILED, .REQUIRES_REVIEW, .WAITING] ∧
      ∀ step ∈ workflow.steps, step.status ≠ .RUNNING := by
    cases executeAll with
    | true =>
      refine ⟨?_, h.idle rfl hopen⟩
      revert hopen
      cases workflow.status <;> decide
    | false =>
      obtain rfl := hsingle rfl
      refine ⟨?_, hrequest.idle workflow h.workflowRow⟩
      have hresumed := hrequest.resumed rfl workflow h.workflowRow
      revert hopen hresumed
      cases workflow.status <;> decide
  intro step hstep
  refine (h.inOrder.settled hfound.1 step hstep).imp_right fun hstatus => ?_
  rcases List.mem_cons.mp hstatus with hcompleted | hrunning
  · exact hcompleted
  · exact absurd (List.mem_singleton.mp hrunning) (hfound.2 step hstep)

/-- The original workflow was open when the request got to its steps. -/
theorem OnCourse.original_open (h : OnCourse workflowId executeAll before original u workflow)
    (horiginal : before.workflows[workflowId]? = some original)
    (hopen : workflow.status ∉ refusedStatuses executeAll) :
    original.status ∉ refusedStatuses executeAll := by
  rcases h.begun with rfl | hbegun
  · obtain rfl : workflow = original := Option.some.inj (h.workflowRow.symm.trans horiginal)
    exact hopen
  · exact hbegun

/-- A local step leaves the request ready. -/
theorem Ready.took (h : Ready workflowId before original u workflow)
    (hnext : nextPending workflow = some (position, step)) (hlocal : outcome.isLocal = true)
    (htook : Took env workflowId u.db workflow position step outcome t.db)
    (hsubmissions : outcome.isLocal = true → t.submissions = u.submissions)
    (hafter : after.status = outcome.stepStatus)
    (hrow : t.db.workflows[workflowId]? = some
      { workflow with
        status := outcome.workflowStatus, steps := workflow.steps.set position after }) :
    Ready workflowId before original t
      { workflow with
        status := outcome.workflowStatus, steps := workflow.steps.set position after } := by
  refine ⟨?_, (hsubmissions hlocal).trans h.fresh, hrow, h.caseId, fun p one hone hpending => ?_⟩
  · rw [htook.frame hlocal, h.db]
  · dsimp only at hone
    by_cases hp : p = position
    · subst hp
      have hlt : p < workflow.steps.length :=
        (List.getElem?_eq_some_iff.mp (nextPending_some hnext).1).1
      rw [List.getElem?_set_self hlt, Option.some.injEq] at hone
      rw [← hone, not_pending_of_outcome hafter] at hpending
      cases hpending
    · rw [List.getElem?_set_ne (Ne.symm hp)] at hone
      exact h.pending p one hone hpending

/-- An answer to a request that is still ready comes from the provider, to the request that is
built on the rows before. -/
theorem Ready.reaches (h : Ready workflowId before original u workflow)
    (horiginal : before.workflows[workflowId]? = some original)
    (hopen : original.status ∉ stoppingStatuses)
    (hnext : nextPending workflow = some (position, step))
    (htype : step.stepType = .DISPATCH_PAYMENT_RETRY) {case : RecoveryCase} {txn : Transaction}
    {customer : Customer} (hallowed : Allowed env u.db workflow.caseId case txn customer) :
    Reaches env before workflowId true original position step case txn customer := by
  obtain ⟨hstep, hpending⟩ := nextPending_some hnext
  obtain ⟨⟨result, hreval, hpasses⟩, hcase, htxn, hcustomer⟩ := hallowed
  rw [h.revalidate, h.caseId] at hreval
  rw [h.db] at hcase htxn hcustomer
  rw [h.caseId] at hcase
  exact ⟨horiginal, hopen, h.pending position step hstep hpending, hpending, htype,
    fun h => (by cases h), ⟨result, hreval, hpasses⟩, hcase, htxn, hcustomer⟩

/-- Where the loop goes on after it, an answer decides its step. -/
theorem OnCourse.decided (h : OnCourse workflowId true before original u workflow)
    (hrequest : InSequence env provider before workflowId true override)
    (horiginal : before.workflows[workflowId]? = some original)
    (hopen : workflow.status ∉ stoppingStatuses)
    (hnext : nextPending workflow = some (position, step))
    (hyields : Yields env provider override u workflow.caseId step outcome) :
    outcome.stepStatus ≠ .RUNNING := by
  intro hrunning
  cases hyields with
  | answered htype case txn customer hallowed res executed hanswered =>
    obtain ⟨hstep, hpending⟩ := nextPending_some hnext
    have hready : Ready workflowId before original u workflow := by
      refine (h.unsent rfl hopen).resolve_right fun hnone => ?_
      exact hnone step (List.mem_of_getElem? hstep) hpending htype
    have hreaches := hready.reaches horiginal (h.original_open horiginal hopen) hnext htype hallowed
    rw [hready.caseId] at hanswered
    have hdecided : res.status ∉ [ExecutionStatus.PENDING, .CANCELLED] := by
      cases hanswered with
      | remembered hlookup =>
        rw [hready.fresh] at hlookup
        cases hlookup
      | sent _ hres =>
        exact hrequest.decided rfl original position step case txn customer hreaches res hres
    revert hrunning hdecided
    cases res.status <;> decide
  | _ => cases hrunning

/-- Where the loop goes on, the request is still ready or no dispatch is left. -/
theorem OnCourse.unsent_took (h : OnCourse workflowId true before original u workflow)
    (hopen : workflow.status ∉ stoppingStatuses)
    (hnext : nextPending workflow = some (position, step))
    (hyields : Yields env provider override u workflow.caseId step outcome)
    (htook : Took env workflowId u.db workflow position step outcome t.db)
    (hsubmissions : outcome.isLocal = true → t.submissions = u.submissions)
    (hafter : after.status = outcome.stepStatus)
    (hrow : t.db.workflows[workflowId]? = some
      { workflow with
        status := outcome.workflowStatus, steps := workflow.steps.set position after })
    (hgoes : outcome.workflowStatus ∉ stoppingStatuses) :
    Ready workflowId before original t
        { workflow with
          status := outcome.workflowStatus, steps := workflow.steps.set position after } ∨
      ∀ one ∈ workflow.steps.set position after, one.isPending = true →
        one.stepType ≠ .DISPATCH_PAYMENT_RETRY := by
  obtain ⟨hstep, -⟩ := nextPending_some hnext
  have hdone : after.isPending = false := not_pending_of_outcome hafter
  have hlocal : outcome.isLocal = true →
      Ready workflowId before original t
        { workflow with
          status := outcome.workflowStatus, steps := workflow.steps.set position after } ∨
      ∀ one ∈ workflow.steps.set position after, one.isPending = true →
        one.stepType ≠ .DISPATCH_PAYMENT_RETRY := by
    intro hlocal
    refine (h.unsent rfl hopen).imp
      (fun hready => hready.took hnext hlocal htook hsubmissions hafter hrow) fun hnone => ?_
    intro one hone hpending
    rcases List.mem_or_eq_of_mem_set hone with hold | rfl
    · exact hnone one hold hpending
    · rw [hdone] at hpending
      cases hpending
  cases hyields with
  | answered htype => exact .inr (h.wellLaid.dispatched hstep htype hdone)
  | invalid htype result hreval hrefused =>
    exact absurd (show WorkflowStatus.FAILED ∈ stoppingStatuses by decide) hgoes
  | _ => exact hlocal rfl

/-- A request in sequence keeps its workflow on course. -/
theorem OnCourse.kept (hrequest : InSequence env provider before workflowId executeAll override)
    (horiginal : before.workflows[workflowId]? = some original) :
    KeptBySteps env provider workflowId executeAll override ⟨before, []⟩ fun u =>
      ∃ workflow, OnCourse workflowId executeAll before original u workflow := by
  rintro u workflow t ⟨found, h⟩ hrow hopen hsingle hstepped
  obtain rfl : found = workflow := Option.some.inj (h.workflowRow.symm.trans hrow)
  have hsettled : found.Settled := h.settled hrequest hopen hsingle
  have hbegun := h.original_open horiginal hopen
  have hlt : workflowId < u.db.workflows.length := (List.getElem?_eq_some_iff.mp hrow).1
  cases hstepped with
  | finished hnext =>
    have hstops : WorkflowStatus.COMPLETED ∈ stoppingStatuses := List.mem_cons_self
    have hworkflows : (u.db.setWorkflowStatus workflowId .COMPLETED).workflows =
        u.db.workflows.set workflowId { found with status := .COMPLETED } :=
      Table.modify_eq_set hrow
    refine ⟨{ found with status := .COMPLETED }, ?_, fun id hid => ?_, hsettled.inOrder hnext,
      ⟨h.wellLaid.indexed, h.wellLaid.validateAt, h.wellLaid.dispatchAt⟩, .inr hbegun,
      fun _ hgoes => absurd hstops hgoes, fun _ hgoes => absurd hstops hgoes⟩
    · rw [hworkflows, List.getElem?_set_self hlt]
    · rw [hworkflows, List.getElem?_set_ne (Ne.symm hid)]
      exact h.others id hid
  | ran position step outcome t hnext hyields htook hsubmissions =>
    obtain ⟨after, hworkflows, hafter, hkept⟩ := htook.workflows
    obtain ⟨hstep, hpending⟩ := nextPending_some hnext
    have hrow' : t.db.workflows[workflowId]? = some
        { found with
          status := outcome.workflowStatus, steps := found.steps.set position after } := by
      rw [hworkflows, List.getElem?_set_self hlt]
    have hlaid := h.wellLaid.set hstep hkept outcome.workflowStatus
    refine ⟨_, hrow', fun id hid => ?_, h.inOrder.took hsettled hnext hafter, hlaid, .inr hbegun,
      fun hall hgoes => ?_, fun hall hgoes => ?_⟩
    · rw [hworkflows, List.getElem?_set_ne (Ne.symm hid)]
      exact h.others id hid
    · subst hall
      intro one hone
      rcases List.mem_or_eq_of_mem_set hone with hold | rfl
      · exact h.idle rfl hopen one hold
      · rw [hafter]
        exact h.decided hrequest horiginal hopen hnext hyields
    · subst hall
      exact h.unsent_took hopen hnext hyields htook hsubmissions hafter hrow' hgoes

end WorkflowExecutionService

/-! ## Runs -/

namespace World

/-- An execution request commits the session in which it ended, or nothing. -/
theorem step_execute_db {config : PolicyConfig} {w : World} {env : Env} {workflowId : UUID}
    {executeAll : Bool} {override : Dict} {provider : Provider} :
    (w.step config ⟨env, .execute workflowId executeAll override provider⟩).db = w.db ∨
      ∃ sent session,
        WorkflowExecutionService.execute env provider workflowId executeAll override ⟨w.db, []⟩ =
          (sent, .ok ((), session)) ∧ env.crash = false ∧
        (w.step config ⟨env, .execute workflowId executeAll override provider⟩).db =
          session.db := by
  unfold step executeRequest
  dsimp only
  rcases hrun : WorkflowExecutionService.execute env provider workflowId executeAll override
    ⟨w.db, []⟩ with ⟨sent, fault | ⟨u, session⟩⟩
  · exact .inl rfl
  dsimp only
  cases hcrash : env.crash with
  | true => exact .inl rfl
  | false => exact .inr ⟨sent, session, rfl, rfl, rfl⟩

end World

/-- Every workflow is in order. -/
def WorkflowsInOrder (s : Store) : Prop :=
  ∀ (workflowId : UUID) (workflow : RecoveryWorkflow),
    s.workflows[workflowId]? = some workflow → InOrder workflow

/-- An execution request, if it is one, takes its steps in turn. -/
def Request.InSequence (w : World) (r : Request) : Prop :=
  ∀ workflowId executeAll override provider,
    r.ask = .execute workflowId executeAll override provider →
    RevenueRescue.InSequence r.env provider w.db workflowId executeAll override

/-- A request in sequence leaves every workflow in order. -/
theorem World.step_inOrder {config : PolicyConfig} {w : World} {r : Request}
    (hr : r.InSequence w) (hchain : Chain config w.db) (hw : WorkflowsInOrder w.db) :
    WorkflowsInOrder (w.step config r).db := by
  obtain ⟨env, ask⟩ := r
  cases ask with
  | operation op =>
    rcases World.step_operation_workflows config w env op with
      hsame | ⟨decisionId, cooldownHours, maxWorkflowHours, decision, rfl, -, hstep⟩
    · unfold WorkflowsInOrder
      rw [hsame]
      exact hw
    · intro workflowId workflow hrow
      rw [hstep] at hrow
      rcases Table.getElem?_append_one hrow with hold | ⟨-, rfl⟩
      · exact hw workflowId workflow hold
      · exact .newWorkflow ..
  | execute workflowId executeAll override provider =>
    rcases World.step_execute_db with hsame | ⟨sent, session, hrun, -, hdb⟩
    · rw [hsame]
      exact hw
    have hrequest := hr workflowId executeAll override provider rfl
    rw [hdb]
    obtain ⟨original, horiginal⟩ := WorkflowExecutionService.execute_workflow hrun
    have hstart := WorkflowExecutionService.OnCourse.start hrequest horiginal
      (hw workflowId original horiginal) (hchain.workflows workflowId original horiginal).wellLaid
    obtain ⟨workflow, hcourse⟩ := WorkflowExecutionService.execute_invariant
      (WorkflowExecutionService.OnCourse.kept hrequest horiginal) ⟨original, hstart⟩ hrun
    intro id row hrow
    by_cases hid : id = workflowId
    · subst hid
      obtain rfl : workflow = row := Option.some.inj (hcourse.workflowRow.symm.trans hrow)
      exact hcourse.inOrder
    · rw [hcourse.others id hid] at hrow
      exact hw id row hrow
  | reconcilePending provider limit =>
    unfold WorkflowsInOrder
    rw [World.step_reconcile_workflows]
    exact hw

end RevenueRescue
