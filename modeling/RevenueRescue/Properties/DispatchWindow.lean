import RevenueRescue.Properties.Retries

/-!
# When payments are retried

A workflow is created with a cooldown and an expiry. Neither is read again: the waiting step
completes at once and the executor compares no clock with the expiry. A retry is sent at the
time of whichever execution request gets to the dispatch step, so it falls into the window of
its workflow in every run whose execution requests do.
-/

namespace RevenueRescue

open Python

namespace WorkflowExecutionService

/-- The one call of a dispatch bears the clock of its request. -/
theorem executeDispatchPaymentRetry_sends {P : Submission → Prop} {env : Env} {provider : Provider}
    {workflowId : UUID} {position : ℕ} {step : WorkflowStep} {caseId : UUID} {override : Dict}
    {session : Session} (hP : ∀ sub : Submission, sub.now = env.now → P sub) :
    Req.Follows (Trace.sending P) session
      (executeDispatchPaymentRetry env provider workflowId position step caseId override) := by
  have hone : ∀ prepared u executed,
      ∀ sub ∈ [submissionOf env workflowId position prepared u executed], P sub :=
    fun prepared u executed => List.forall_mem_singleton.mpr (hP _ rfl)
  refine ⟨executeDispatchPaymentRetry_wp (fun _ => List.forall_mem_nil P)
    (fun _ _ => List.forall_mem_nil P) (fun prepared u _ _ => hone prepared u true)
    fun prepared u res executed _ _ => ?_⟩
  unfold Tx.wp
  split
  · exact fun _ => hone prepared u executed
  · exact hone prepared u executed

/-- Only a dispatch step sends. -/
theorem runStep_sends {P : Submission → Prop} {env : Env} {provider : Provider}
    {workflowId : UUID} {position : ℕ} {step : WorkflowStep} {caseId : UUID} {override : Dict}
    {session : Session}
    (hP : step.stepType = .DISPATCH_PAYMENT_RETRY → ∀ sub : Submission, sub.now = env.now → P sub) :
    Req.Follows (Trace.sending P) session
      (runStep env provider workflowId position step caseId override) := by
  unfold runStep
  cases htype : step.stepType with
  | DISPATCH_PAYMENT_RETRY => exact executeDispatchPaymentRetry_sends (hP htype)
  | _ => exact .onPart_sending _ _ _

/-- A single step sends only where the next pending step is the dispatch. -/
theorem executeNextStep_sends {P : Submission → Prop} {env : Env} {provider : Provider}
    {workflowId : UUID} {override : Dict} {session : Session}
    (hP : ∀ workflow position step, session.db.workflows[workflowId]? = some workflow →
      nextPending workflow = some (position, step) → step.stepType = .DISPATCH_PAYMENT_RETRY →
      ∀ sub : Submission, sub.now = env.now → P sub) :
    Req.Follows (Trace.sending P) session
      (executeNextStep env provider workflowId override) := by
  have hthrow : ∀ fault, Req.Follows (Trace.sending P) session
      (throw fault : Exec (Option WorkflowStep)) :=
    fun fault => .of_throw (List.forall_mem_nil P)
  refine .get_bind ?_
  rcases hworkflow : session.db.workflows[workflowId]? with _ | workflow
  · exact hthrow _
  refine .ite (fun _ => hthrow _) fun _ => ?_
  rcases session.db.recoveryCases[workflow.caseId]? with _ | case
  · exact hthrow _
  dsimp only
  rcases hnext : nextPending workflow with _ | ⟨position, step⟩
  · exact .bind (.onPart_sending _ _ _) fun _ _ _ _ _ => .of_pure _
  · dsimp only
    refine .bind (.onPart_sending _ _ _) fun _ _ _ _ _ => ?_
    refine .bind (runStep_sends fun htype => ?_) fun _ _ _ _ _ => .get_bind (.of_pure _)
    exact hP workflow position step hworkflow hnext htype

/-- The loop of a request, by induction on the iterations left. -/
theorem runAvailableSteps_sends {P : Submission → Prop} {env : Env} {provider : Provider}
    {workflowId : UUID} {override : Dict} (hP : ∀ sub : Submission, sub.now = env.now → P sub)
    (iterations : ℕ) {session : Session} :
    Req.Follows (Trace.sending P) session
      (runAvailableSteps env provider workflowId override iterations) := by
  induction iterations generalizing session with
  | zero => exact .of_pure _
  | succ iterations ih =>
    refine .get_bind ?_
    rcases session.db.workflows[workflowId]? with _ | workflow
    · exact .of_throw (List.forall_mem_nil P)
    refine .ite (fun _ => .of_pure _) fun _ => .ite (fun _ => .onPart_sending _ _ _) fun _ => ?_
    refine .bind (executeNextStep_sends fun _ _ _ _ _ _ => hP) fun _ _ _ _ _ => ?_
    exact .ite (fun _ => .of_pure _) fun _ => ih

/-- What an execution request sends, from any rows. -/
theorem execute_sends {P : Submission → Prop} {env : Env} {provider : Provider}
    {workflowId : UUID} {executeAll : Bool} {override : Dict} {session : Session}
    (hP : (executeAll = false → ∃ workflow position step,
        session.db.workflows[workflowId]? = some workflow ∧
        nextPending workflow = some (position, step) ∧
        step.stepType = .DISPATCH_PAYMENT_RETRY) →
      ∀ sub : Submission, sub.now = env.now → P sub) :
    Req.Follows (Trace.sending P) session
      (execute env provider workflowId executeAll override) := by
  refine .ite (fun hall => ?_) fun hall => ?_
  · refine .get_bind ?_
    rcases session.db.workflows[workflowId]? with _ | workflow
    · exact .of_throw (List.forall_mem_nil P)
    · exact runAvailableSteps_sends (hP fun hone => absurd (hall.symm.trans hone) nofun) _
  · refine .bind (executeNextStep_sends ?_) fun _ _ _ _ _ => .of_pure _
    intro workflow position step hworkflow hnext htype
    exact hP fun _ => ⟨workflow, position, step, hworkflow, hnext, htype⟩

end WorkflowExecutionService

/-- The request can get to the dispatch step of the workflow: the step is pending, and it is
the next one unless the request runs the workflow through. -/
def Request.Dispatches (w : World) (r : Request) (workflowId : UUID) : Prop :=
  ∃ executeAll override provider workflow position step,
    r.ask = .execute workflowId executeAll override provider ∧
    w.db.workflows[workflowId]? = some workflow ∧
    workflow.steps[position]? = some step ∧ step.isPending = true ∧
    step.stepType = .DISPATCH_PAYMENT_RETRY ∧
    (executeAll = false →
      WorkflowExecutionService.nextPending workflow = some (position, step))

/-- The clock is not before the opening of a window and not after its close, where a timestamp
without an offset is read as UTC. -/
structure InWindow (opens closes now : Datetime) : Prop where
  opened : opens.instant ≤ now.instant
  unclosed : now.instant ≤ closes.instant

/-- The workflow is stored with this `expires_at`. -/
def Store.Expires (s : Store) (workflowId : UUID) (expiresAt : Datetime) : Prop :=
  ∃ workflow, s.workflows[workflowId]? = some workflow ∧ workflow.expiresAt = some expiresAt

theorem Store.Expires.evolve {s t : Store} (h : Evolved s t) {workflowId : UUID}
    {expiresAt : Datetime} (hs : s.Expires workflowId expiresAt) :
    t.Expires workflowId expiresAt := by
  obtain ⟨workflow, hworkflow, hexpires⟩ := hs
  obtain ⟨after, hafter, hprogress⟩ := h.workflows.getElem? hworkflow
  exact ⟨after, hafter, hprogress.expiresAt.trans hexpires⟩

/-- The calls of a request are those its execution made, whether or not it ended normally. -/
theorem executeRequest_sent (env : Env) (workflowId : UUID) (executeAll : Bool) (override : Dict)
    (provider : Provider) (db : Store) :
    (executeRequest env workflowId executeAll override provider db).1 =
      (WorkflowExecutionService.execute env provider workflowId executeAll override ⟨db, []⟩).1 := by
  unfold executeRequest
  rcases WorkflowExecutionService.execute env provider workflowId executeAll override ⟨db, []⟩
    with ⟨sent, fault | ⟨u, session⟩⟩ <;> rfl

namespace World

/-- A call bears the clock of its request, which could get to the dispatch step. -/
theorem step_sends {config : PolicyConfig} {w : World} {r : Request} {sub : Submission}
    (hsub : sub ∈ (w.step config r).sent) :
    sub ∈ w.sent ∨
      sub.now = r.env.now ∧ r.Dispatches w sub.workflowId ∧ Evolved w.db sub.db := by
  obtain ⟨env, ask⟩ := r
  cases ask with
  | operation op => exact .inl hsub
  | reconcilePending provider limit => exact .inl hsub
  | execute workflowId executeAll override provider =>
    have hexecuted : Executed config workflowId w
        (w.step config ⟨env, .execute workflowId executeAll override provider⟩)
        (executeRequest env workflowId executeAll override provider w.db).1 := step_executed
    rw [hexecuted.calls] at hsub
    refine (List.mem_append.mp hsub).imp id fun hsub => ?_
    have hsanctioned := hexecuted.sanctioned sub hsub
    obtain rfl : sub.workflowId = workflowId := hsanctioned.executes
    have hdue : Due w.db sub.token := hexecuted.spends.spendable _ (List.mem_map_of_mem hsub)
    rw [executeRequest_sent] at hsub
    have hsends : ∀ sent ∈ (WorkflowExecutionService.execute env provider sub.workflowId executeAll
        override ⟨w.db, []⟩).1, sent.now = env.now ∧ (executeAll = false →
          ∃ workflow position step, w.db.workflows[sub.workflowId]? = some workflow ∧
            WorkflowExecutionService.nextPending workflow = some (position, step) ∧
            step.stepType = .DISPATCH_PAYMENT_RETRY) :=
      (WorkflowExecutionService.execute_sends fun hnext sent hnow => ⟨hnow, hnext⟩).sent
    obtain ⟨hnow, hnext⟩ := hsends sub hsub
    refine ⟨hnow, ?_, hsanctioned.writes.evolved⟩
    cases executeAll with
    | true =>
      obtain ⟨workflow, step, hworkflow, hstep, hpending, htype⟩ := hdue
      exact ⟨_, _, _, workflow, sub.position, step, rfl, hworkflow, hstep, hpending, htype, nofun⟩
    | false =>
      obtain ⟨workflow, position, step, hworkflow, hnext, htype⟩ := hnext rfl
      obtain ⟨hstep, hpending⟩ := WorkflowExecutionService.nextPending_some hnext
      exact ⟨_, _, _, workflow, position, step, rfl, hworkflow, hstep, hpending, htype,
        fun _ => hnext⟩

/-- Every call so far was made for a workflow that exists. -/
theorem run_sent_workflow (config : PolicyConfig) (requests : List Request) :
    ∀ sub ∈ (empty.run config requests).sent,
      sub.workflowId < (empty.run config requests).db.workflows.length := by
  refine Run.invariant (I := fun w : World => ∀ sub ∈ w.sent,
    sub.workflowId < w.db.workflows.length) (fun w r hw sub hsub => ?_) requests nofun
  have hkept : w.db.workflows.length ≤ (w.step config r).db.workflows.length :=
    (step_evolved config w r).workflows.length_le
  rcases step_sends hsub with hearlier | ⟨-, hdispatches, -⟩
  · exact (hw sub hearlier).trans_le hkept
  · obtain ⟨_, _, _, workflow, _, _, _, hworkflow, _⟩ := hdispatches
    exact (List.getElem?_eq_some_iff.mp hworkflow).1.trans_le hkept

/-- A workflow that was just created expires so many hours from now. -/
theorem step_createWorkflow_expires {config : PolicyConfig} {w : World} {env : Env}
    {decisionId : UUID} {cooldownHours maxWorkflowHours : ℤ}
    (hcreated : w.db.workflows.length < (w.step config ⟨env, .operation (.createWorkflow decisionId
      cooldownHours maxWorkflowHours)⟩).db.workflows.length) :
    (w.step config ⟨env, .operation (.createWorkflow decisionId cooldownHours
      maxWorkflowHours)⟩).db.Expires w.db.workflows.length
        (env.now.plusHours maxWorkflowHours).naive := by
  rcases step_operation_workflows config w env (.createWorkflow decisionId cooldownHours
    maxWorkflowHours) with hsame | ⟨_, _, _, decision, hop, -, hstep⟩
  · exact absurd hcreated (hsame ▸ lt_irrefl _)
  · cases hop
    rw [hstep]
    exact ⟨_, List.getElem?_concat_length, rfl⟩

end World

/-- The call found the workflow with its `expires_at` and was made within the window. -/
structure Submission.MadeWithin (sub : Submission) (opens expiresAt : Datetime) : Prop where
  expires : sub.db.Expires sub.workflowId expiresAt
  window : InWindow opens expiresAt sub.now

/-- In every run whose execution requests come within the window of a workflow whenever they
can get to its dispatch step, its payment is retried within the window only. -/
theorem dispatches_in_window (config : PolicyConfig) (before later : List Request) (env : Env)
    (decisionId : UUID) (cooldownHours maxWorkflowHours : ℤ) {w v : World}
    (hw : w = World.empty.run config before)
    (hv : v = w.step config ⟨env, .operation (.createWorkflow decisionId cooldownHours
      maxWorkflowHours)⟩)
    (hcreated : w.db.workflows.length < v.db.workflows.length)
    (hguard : Run.Guarded (World.step config)
      (fun u r => r.Dispatches u w.db.workflows.length →
        InWindow (env.now.plusHours cooldownHours) (env.now.plusHours maxWorkflowHours).naive
          r.env.now) v later) :
    ∀ sub ∈ (v.run config later).sent, sub.workflowId = w.db.workflows.length →
      sub.MadeWithin (env.now.plusHours cooldownHours)
        (env.now.plusHours maxWorkflowHours).naive := by
  have hearlier : ∀ sub ∈ w.sent, sub.workflowId < w.db.workflows.length := by
    rw [hw]
    exact World.run_sent_workflow config before
  have hexpires : v.db.Expires w.db.workflows.length (env.now.plusHours maxWorkflowHours).naive := by
    subst hv
    exact World.step_createWorkflow_expires hcreated
  refine (Run.guarded_invariant (I := fun u : World =>
    u.db.Expires w.db.workflows.length (env.now.plusHours maxWorkflowHours).naive ∧
    ∀ sub ∈ u.sent, sub.workflowId = w.db.workflows.length →
      sub.MadeWithin (env.now.plusHours cooldownHours) (env.now.plusHours maxWorkflowHours).naive)
    (fun u r hr hu => ?_) later hguard ⟨hexpires, fun sub hsub hof => ?_⟩).2
  · refine ⟨hu.1.evolve (World.step_evolved config u r), fun sub hsub hof => ?_⟩
    rcases World.step_sends hsub with hsent | ⟨hnow, hdispatches, hevolved⟩
    · exact hu.2 sub hsent hof
    · exact ⟨hof ▸ hu.1.evolve hevolved, hnow ▸ hr (hof ▸ hdispatches)⟩
  · subst hv
    exact absurd (hearlier sub hsub) (hof ▸ lt_irrefl _)

namespace Sample

/-- Run the first workflow through so many hours after noon. -/
def executedAfter (hours : ℤ) : Request :=
  { executed 0 .FAILED with env := { env with now := noon.plusHours hours } }

/-- The workflow with a cooldown of 4 and a limit of 72 hours, run so many hours later. -/
def retriedAfter (hours : ℤ) : World :=
  World.empty.run .default (authorised ++ [planned, executedAfter hours])

end Sample

/-- A retry four hours after the creation keeps to the window. -/
theorem dispatches_in_window_after_cooldown :
    (Sample.retriedAfter 4).sent.length = 1 ∧
      ∀ sub ∈ (Sample.retriedAfter 4).sent, sub.workflowId = 0 →
        sub.MadeWithin (Sample.noon.plusHours 4) (Sample.noon.plusHours 72).naive := by
  have hlength : (World.empty.run .default Sample.authorised).db.workflows.length = 0 := by
    decide +kernel
  have hcreated : (((World.empty.run .default Sample.authorised).step .default
      Sample.planned).db.workflows.length) = 1 := by
    decide +kernel
  have hwithin := dispatches_in_window .default Sample.authorised [Sample.executedAfter 4]
    Sample.env 0 4 72 rfl rfl (by rw [hlength]; exact hcreated ▸ Nat.one_pos)
    ⟨fun _ => ⟨by decide, by decide⟩, trivial⟩
  rw [hlength] at hwithin
  exact ⟨by decide +kernel, hwithin⟩

/-- A retry is sent at the creation of the workflow, and another one after its expiry. -/
theorem retried_outside_window :
    (∃ sub ∈ (Sample.retriedAfter 0).sent, sub.workflowId = 0 ∧
      sub.now.instant < (Sample.noon.plusHours 4).instant) ∧
    ∃ sub ∈ (Sample.retriedAfter 73).sent, sub.workflowId = 0 ∧
      (Sample.noon.plusHours 72).instant < sub.now.instant := by
  have hearly : (Sample.retriedAfter 0).sent.map (fun sub => (sub.workflowId, sub.now)) =
      [(0, Sample.noon.plusHours 0)] := by
    decide +kernel
  have hlate : (Sample.retriedAfter 73).sent.map (fun sub => (sub.workflowId, sub.now)) =
      [(0, Sample.noon.plusHours 73)] := by
    decide +kernel
  obtain ⟨early, hmem, heq⟩ := List.mem_map.mp (hearly ▸ List.mem_singleton_self _)
  obtain ⟨late, hmem', heq'⟩ := List.mem_map.mp (hlate ▸ List.mem_singleton_self _)
  obtain ⟨hid, hnow⟩ := Prod.ext_iff.mp heq
  obtain ⟨hid', hnow'⟩ := Prod.ext_iff.mp heq'
  refine ⟨⟨early, hmem, hid, ?_⟩, late, hmem', hid', ?_⟩
  · rw [show early.now = _ from hnow]
    decide
  · rw [show late.now = _ from hnow']
    decide

end RevenueRescue
