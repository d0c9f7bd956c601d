import RevenueRescue.Properties.Retries
import RevenueRescue.Refinement.Sequence

/-!
# The order of a workflow

The next step of a workflow is the first that is pending, whatever became of the steps before
it. Where every execution request finds no step running, takes no single step of a workflow
that waits or is under review, and goes on after a dispatch only when the answer has decided
it, the steps are taken in order, only a finished workflow is completed, and a review stays.

The dispatch leaves its step running when the answer is neither a success nor a failure, and a
single step of a workflow that waits completes it.
-/

namespace RevenueRescue

open Python WorkflowExecutionService

/-- What the order of workflows asks of a request. -/
structure TakesInOrder (config : PolicyConfig) (w : World) (r : Request) : Prop where
  /-- A step is executed only when every step with a smaller index is completed. -/
  steps : ∀ workflowId executeAll override provider,
    r.ask = .execute workflowId executeAll override provider →
    ∀ session ∈ stepCalls r.env provider workflowId executeAll override w.db,
    ∀ workflow position step, session.db.workflows[workflowId]? = some workflow →
      workflow.status ∉ [WorkflowStatus.COMPLETED, .FAILED, .CANCELLED] →
      nextPending workflow = some (position, step) →
      ∀ other ∈ workflow.steps, other.stepIndex < step.stepIndex → other.status = .COMPLETED
  /-- A workflow is completed only when all of its steps are. -/
  completed : ∀ (workflowId : UUID) (workflow : RecoveryWorkflow),
    (w.step config r).db.workflows[workflowId]? = some workflow →
    workflow.status = .COMPLETED → ∀ step ∈ workflow.steps, step.status = .COMPLETED
  /-- A review stays. -/
  reviewed : ∀ (workflowId : UUID) (workflow after : RecoveryWorkflow),
    w.db.workflows[workflowId]? = some workflow →
    (w.step config r).db.workflows[workflowId]? = some after →
    workflow.status = .REQUIRES_REVIEW → after.status = .REQUIRES_REVIEW

variable {config : PolicyConfig} {w : World} {r : Request}

/-- The calls of a request in sequence find everything before their step completed. -/
theorem InSequence.steps {env : Env} {provider : Provider} {workflowId : UUID}
    {executeAll : Bool} {override : Dict}
    (hrequest : InSequence env provider w.db workflowId executeAll override)
    (hchain : Chain config w.db) (hw : WorkflowsInOrder w.db) {session : Session}
    (hsession : session ∈ stepCalls env provider workflowId executeAll override w.db)
    {workflow : RecoveryWorkflow} {position : ℕ} {step : WorkflowStep}
    (hrow : session.db.workflows[workflowId]? = some workflow)
    (hopen : workflow.status ∉ [WorkflowStatus.COMPLETED, .FAILED, .CANCELLED])
    (hnext : nextPending workflow = some (position, step)) :
    ∀ other ∈ workflow.steps, other.stepIndex < step.stepIndex → other.status = .COMPLETED := by
  rcases horiginal : w.db.workflows[workflowId]? with _ | original
  · unfold stepCalls at hsession
    rw [horiginal] at hsession
    cases executeAll with
    | true => cases hsession
    | false =>
      rw [if_neg Bool.false_ne_true, List.mem_singleton] at hsession
      rw [hsession, horiginal] at hrow
      cases hrow
  have hstart := OnCourse.start hrequest horiginal (hw workflowId original horiginal)
    (hchain.workflows workflowId original horiginal).wellLaid
  obtain ⟨⟨found, hcourse⟩, hsingle, hgoes⟩ :=
    stepCalls_invariant (OnCourse.kept hrequest horiginal) ⟨original, hstart⟩ session hsession
  obtain rfl : found = workflow := Option.some.inj (hcourse.workflowRow.symm.trans hrow)
  have hrunning : found.status ∉ refusedStatuses executeAll := by
    cases executeAll with
    | true => exact hgoes rfl found hrow
    | false => exact hopen
  have hsettled : found.Settled := hcourse.settled hrequest hrunning hsingle
  intro other hother hless
  obtain ⟨p, hp⟩ := List.mem_iff_getElem?.mp hother
  rw [hcourse.wellLaid.indexed p other hp,
    hcourse.wellLaid.indexed position step (nextPending_some hnext).1] at hless
  exact hsettled.completed_before hnext (Nat.lt_of_succ_lt_succ hless) hp

/-- A request in sequence leaves a review alone. -/
theorem Request.InSequence.reviewed (hr : r.InSequence w) (hchain : Chain config w.db)
    (hw : WorkflowsInOrder w.db) {workflowId : UUID} {workflow after : RecoveryWorkflow}
    (hrow : w.db.workflows[workflowId]? = some workflow)
    (hafter : (w.step config r).db.workflows[workflowId]? = some after)
    (hreview : workflow.status = .REQUIRES_REVIEW) : after.status = .REQUIRES_REVIEW := by
  have hsame : (w.step config r).db.workflows[workflowId]? = w.db.workflows[workflowId]? →
      after.status = .REQUIRES_REVIEW := by
    intro hsame
    obtain rfl : workflow = after := by
      rw [hsame, hrow] at hafter
      exact Option.some.inj hafter
    exact hreview
  obtain ⟨env, ask⟩ := r
  cases ask with
  | operation op =>
    apply hsame
    rcases World.step_operation_workflows config w env op with
      hkept | ⟨decisionId, cooldownHours, maxWorkflowHours, decision, -, -, hstep⟩
    · rw [hkept]
    · rw [hstep, hrow]
      exact Table.getElem?_append_of_some hrow _
  | execute id executeAll override provider =>
    apply hsame
    rcases World.step_execute_db with hkept | ⟨sent, session, hrun, -, hdb⟩
    · rw [hkept]
    have hrequest := hr id executeAll override provider rfl
    obtain ⟨original, horiginal⟩ := execute_workflow hrun
    have hstart := OnCourse.start hrequest horiginal (hw id original horiginal)
      (hchain.workflows id original horiginal).wellLaid
    obtain ⟨found, hcourse⟩ := execute_invariant (OnCourse.kept hrequest horiginal)
      ⟨original, hstart⟩ hrun
    rw [hdb]
    by_cases hid : workflowId = id
    swap
    · exact hcourse.others workflowId hid
    subst hid
    obtain rfl : original = workflow := Option.some.inj (horiginal.symm.trans hrow)
    cases executeAll with
    | true =>
      have hstops : original.status ∈ stoppingStatuses := by
        rw [hreview]
        decide
      rw [hcourse.begun.resolve_right fun hgoes => hgoes hstops]
    | false =>
      have hresumed := hrequest.resumed rfl original hrow
      rw [hreview] at hresumed
      exact absurd (show WorkflowStatus.REQUIRES_REVIEW ∈ _ by decide) hresumed
  | reconcilePending provider limit =>
    apply hsame
    rw [World.step_reconcile_workflows]

/-- In every run of requests in sequence, each request takes the steps of its workflow in order,
completes only workflows whose steps are all completed, and keeps every review. -/
theorem workflows_taken_in_order (config : PolicyConfig) (requests : List Request)
    (hguard : Run.Guarded (World.step config) (fun w r => r.InSequence w) World.empty requests) :
    ∀ before r later, requests = before ++ r :: later →
      TakesInOrder config (World.empty.run config before) r := by
  rintro before r later rfl
  obtain ⟨hbefore, hr, -⟩ := (Run.guarded_append before (r :: later)).mp hguard
  have hreached : Chain config (World.empty.run config before).db ∧
      WorkflowsInOrder (World.empty.run config before).db := by
    refine Run.guarded_invariant (I := fun w : World => Chain config w.db ∧ WorkflowsInOrder w.db)
      (fun w r hr hw => ?_) before hbefore ⟨.empty config, fun _ _ h => by cases h⟩
    exact ⟨(World.step_writes config w r).chain hw.1, World.step_inOrder hr hw.1 hw.2⟩
  obtain ⟨hchain, hw⟩ := hreached
  refine ⟨fun workflowId executeAll override provider hask session hsession workflow position step
    hrow hopen hnext => ?_, fun workflowId workflow hrow hstatus => ?_,
    fun workflowId workflow after hrow hafter hreview => ?_⟩
  · exact (hr workflowId executeAll override provider hask).steps hchain hw hsession hrow hopen hnext
  · exact (World.step_inOrder hr hchain hw workflowId workflow hrow).completed hstatus
  · exact hr.reviewed hchain hw hrow hafter hreview

namespace Sample

/-- Take one step of a workflow with an adapter that gives one answer. -/
def stepped (workflowId : UUID) (status : ExecutionStatus) : Request :=
  ⟨env, .execute workflowId false [] fun request =>
    some ⟨status, "razorpay", some "pay_2", none, request.amountMinor, "INR", none, none, noon,
      true⟩⟩

/-- The status of a workflow and of its steps. -/
def progress (s : Store) (workflowId : UUID) : Option (WorkflowStatus × List WorkflowStepStatus) :=
  (s.workflows[workflowId]?).map fun workflow =>
    (workflow.status, workflow.steps.map WorkflowStep.status)

/-- A workflow was planned for the approved retry. -/
def plannedWorld : World := World.empty.run .default (authorised ++ [planned])

theorem request_inSequence {w : World} {op : Operation} : (request op).InSequence w := by
  intro _ _ _ _ h
  cases h

end Sample

/-- A workflow whose dispatch fails is taken in order. -/
theorem workflows_taken_in_order_failed :
    TakesInOrder .default Sample.plannedWorld (Sample.executed 0 .FAILED) := by
  have hexecuted : (Sample.executed 0 .FAILED).InSequence Sample.plannedWorld := by
    intro workflowId executeAll override provider h
    cases h
    refine ⟨fun h => (by cases h), fun workflow hrow step hstep => ?_,
      fun _ workflow position step case txn customer _ res hres => ?_⟩
    · have hprogress : Sample.progress Sample.plannedWorld.db 0 =
          some (.PENDING, [.PENDING, .PENDING, .PENDING, .PENDING]) := by decide +kernel
      unfold Sample.progress at hprogress
      rw [hrow, Option.map_some, Option.some.injEq, Prod.mk.injEq] at hprogress
      have hstatus := List.mem_map_of_mem (f := WorkflowStep.status) hstep
      rw [hprogress.2] at hstatus
      intro hrunning
      rw [hrunning] at hstatus
      exact absurd hstatus (by decide)
    · cases hres
      have hdecided : ExecutionStatus.FAILED ∉ [ExecutionStatus.PENDING, .CANCELLED] := by decide
      exact hdecided
  refine workflows_taken_in_order .default (Sample.authorised ++ [Sample.planned,
    Sample.executed 0 .FAILED]) ?_ (Sample.authorised ++ [Sample.planned]) _ [] rfl
  exact ⟨Sample.request_inSequence, Sample.request_inSequence, Sample.request_inSequence,
    Sample.request_inSequence, Sample.request_inSequence, hexecuted, trivial⟩

/-- After an answer that leaves the dispatch running, the same request goes on to the step behind
it, and one step more completes the workflow. -/
theorem pending_answer_breaks_order :
    let paused := Sample.plannedWorld.step .default (Sample.executed 0 .PENDING)
    (stepCalls Sample.env (fun request => some ⟨.PENDING, "razorpay", some "pay_2", none,
        request.amountMinor, "INR", none, none, Sample.noon, true⟩) 0 true []
        Sample.plannedWorld.db).map (fun session => Sample.progress session.db 0) =
      [some (.PENDING, [.PENDING, .PENDING, .PENDING, .PENDING]),
        some (.RUNNING, [.COMPLETED, .PENDING, .PENDING, .PENDING]),
        some (.RUNNING, [.COMPLETED, .COMPLETED, .PENDING, .PENDING]),
        some (.RUNNING, [.COMPLETED, .COMPLETED, .RUNNING, .PENDING])] ∧
      Sample.progress (paused.step .default (Sample.stepped 0 .PENDING)).db 0 =
        some (.COMPLETED, [.COMPLETED, .COMPLETED, .RUNNING, .WAITING]) ∧
      ¬TakesInOrder .default paused (Sample.stepped 0 .PENDING) := by
  intro paused
  have hprogress : Sample.progress (paused.step .default (Sample.stepped 0 .PENDING)).db 0 =
      some (.COMPLETED, [.COMPLETED, .COMPLETED, .RUNNING, .WAITING]) := by decide +kernel
  refine ⟨by decide +kernel, hprogress, fun htakes => ?_⟩
  obtain ⟨workflow, hrow, hstatuses⟩ := Option.map_eq_some_iff.mp hprogress
  obtain ⟨hstatus, hsteps⟩ := Prod.mk.inj hstatuses
  have hcompleted := htakes.completed 0 workflow hrow hstatus
  have hwaiting : WorkflowStepStatus.WAITING ∈ workflow.steps.map WorkflowStep.status := by
    rw [hsteps]
    decide
  obtain ⟨step, hstep, hstatus⟩ := List.mem_map.mp hwaiting
  rw [hcompleted step hstep] at hstatus
  cases hstatus

end RevenueRescue
