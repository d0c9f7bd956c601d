import RevenueRescue.Refinement.Dispatch
import RevenueRescue.Refinement.Operations

/-!
# Requests as guarded writes

Serving a request changes the database by a sequence of guarded writes and adds gated calls
to the record of what was sent, whether the request commits, raises or dies before its
commit. What follows for whole runs is the comparison `Evolved` of the first and the last
rows.
-/

namespace RevenueRescue

open Python

variable {A : Authority} {s : Store}

/-- The authority to do anything but number the audit log. -/
def Authority.any (config : PolicyConfig) : Authority :=
  ⟨config, False, fun _ => True, fun _ => True, True, fun _ => True, fun _ => True⟩

/-- The authority of an execution request. -/
def Authority.execution (config : PolicyConfig) (workflowId : UUID) : Authority :=
  ⟨config, False, fun _ => False, fun _ => False, False, fun _ => False, fun id => id = workflowId⟩

/-- The authority of a batch reconciliation. -/
def Authority.reconciliation (config : PolicyConfig) (recovers : UUID → Prop) : Authority :=
  ⟨config, False, fun _ => False, recovers, False, fun _ => False, fun _ => False⟩

/-- Every authority is part of the authority to do anything. -/
theorem Writes.any {t : Store} (h : Writes A s t) : Writes (Authority.any A.config) s t := by
  have hle : A.Le (Authority.any A.config) :=
    ⟨rfl, False.elim, fun _ _ => trivial, fun _ _ => trivial, fun _ => trivial,
      fun _ _ => trivial, fun _ _ => trivial⟩
  exact h.mono hle

/-- A method that is committed, rolled back or lost in a crash. -/
theorem commitUnlessCrash_writes {α : Type} {env : Env} {x : Service α} (hx : Keeps A s x) :
    Writes A s (commitUnlessCrash env x s) := by
  unfold commitUnlessCrash
  split
  · exact .refl
  · unfold Tx.commit
    rcases h : x s with fault | ⟨a, t⟩
    · exact .refl
    · exact hx.writes h

namespace PaymentReconciliationService

/-- What each reconciliation of a batch may recover, the batch may. -/
theorem reconcileEach_writes {env : Env} {provider : UUID → StatusProvider}
    {config : PolicyConfig} {recovers : UUID → Prop} (caseIds : List UUID)
    (hrecovers : ∀ t, Writes (.reconciliation config recovers) s t → ∀ caseId ∈ caseIds,
      ∀ case txn providerStatus, Compares (provider caseId) t caseId case txn providerStatus →
        Settles true case txn providerStatus → recovers caseId) :
    Writes (.reconciliation config recovers) s (reconcileEach env provider caseIds s).1 := by
  induction caseIds generalizing s with
  | nil => exact .refl
  | cons caseId rest ih =>
    have hkeeps : Keeps (.reconciliation config recovers) s
        (reconcileCase env (provider caseId) true caseId) :=
      reconcileCase_keeps (hrecovers s .refl caseId (List.mem_cons_self)) False.elim
    unfold reconcileEach
    rcases hrun : reconcileCase env (provider caseId) true caseId s with fault | ⟨report, t⟩
    · exact .refl
    · have ht : Writes (.reconciliation config recovers) s t := hkeeps.writes hrun
      refine ht.trans (ih fun u hu id hid => ?_)
      exact hrecovers u (ht.trans hu) id (List.mem_cons_of_mem _ hid)

end PaymentReconciliationService

namespace World

/-- What one execution request did to the world. -/
structure Executed (config : PolicyConfig) (workflowId : UUID) (w after : World)
    (sent : List Submission) : Prop where
  calls : after.sent = w.sent ++ sent
  sanctioned : ∀ sub ∈ sent, Sanctioned (.execution config workflowId) w.db sub
  spends : Ledger.Spends (Due w.db) (sent.map Submission.token) fun _ => False
  ending : after.db = w.db ∨
    (executionTrace (.execution config workflowId)).done ⟨w.db, []⟩ sent ⟨after.db, []⟩

theorem step_executed {config : PolicyConfig} {w : World} {env : Env} {workflowId : UUID}
    {executeAll : Bool} {override : Dict} {provider : Provider} :
    Executed config workflowId w
      (w.step config ⟨env, .execute workflowId executeAll override provider⟩)
      (executeRequest env workflowId executeAll override provider w.db).1 := by
  have hfollows : Req.Follows (executionTrace (.execution config workflowId)) ⟨w.db, []⟩
      (WorkflowExecutionService.execute env provider workflowId executeAll override) :=
    WorkflowExecutionService.execute_follows (fun _ h => h) (fun h => h) rfl
  unfold step executeRequest
  dsimp only
  rcases hrun : WorkflowExecutionService.execute env provider workflowId executeAll override
    ⟨w.db, []⟩ with ⟨sent, fault | ⟨u, session⟩⟩
  · obtain ⟨hspends, hsanctioned⟩ := hfollows.failed hrun
    exact ⟨rfl, hsanctioned, hspends, .inl rfl⟩
  · have hdone := hfollows.done hrun
    refine ⟨rfl, fun sub hsub => (hdone.2.2.1 sub hsub).1,
      ⟨hdone.2.1.nodup, hdone.2.1.spendable, fun _ h => h.elim⟩, ?_⟩
    dsimp only
    split
    · exact .inl rfl
    · exact .inr hdone

theorem step_execute {config : PolicyConfig} {w : World} {env : Env} {workflowId : UUID}
    {executeAll : Bool} {override : Dict} {provider : Provider} :
    ∃ sent, Executed config workflowId w
      (w.step config ⟨env, .execute workflowId executeAll override provider⟩) sent :=
  ⟨_, step_executed⟩

theorem Executed.writes {config : PolicyConfig} {workflowId : UUID} {w after : World}
    {sent : List Submission} (h : Executed config workflowId w after sent) :
    Writes (.execution config workflowId) w.db after.db := by
  rcases h.ending with hkept | hdone
  · rw [hkept]
  · exact hdone.1

/-- An operation writes within its authority. -/
theorem step_operation_writes (config : PolicyConfig) (w : World) (env : Env) (op : Operation) :
    Writes (op.authority config False w.db) w.db (w.step config ⟨env, .operation op⟩).db :=
  commitUnlessCrash_writes (Operation.service_keeps False.elim False.elim)

/-- A batch reconciliation writes within its authority. -/
theorem step_reconcile_writes (config : PolicyConfig) (w : World) (env : Env)
    (provider : UUID → StatusProvider) (limit : ℕ) :
    Writes (.reconciliation config fun _ => True) w.db
      (w.step config ⟨env, .reconcilePending provider limit⟩).db := by
  have hbatch : Writes (.reconciliation config fun _ => True) w.db
      (PaymentReconciliationService.reconcilePendingCases env provider limit w.db).1 :=
    PaymentReconciliationService.reconcileEach_writes _ fun _ _ _ _ _ _ _ _ _ => trivial
  unfold step
  dsimp only
  split
  · exact .refl
  · exact hbatch

/-- Every request is a sequence of guarded writes. -/
theorem step_writes (config : PolicyConfig) (w : World) (r : Request) :
    Writes (Authority.any config) w.db (w.step config r).db := by
  obtain ⟨env, ask⟩ := r
  cases ask with
  | operation op => exact (step_operation_writes config w env op).any
  | execute workflowId executeAll override provider =>
    obtain ⟨sent, hexecuted⟩ := step_execute
    exact hexecuted.writes.any
  | reconcilePending provider limit => exact (step_reconcile_writes config w env provider limit).any

theorem ignoringResult_commit {α : Type} (x : Service α) (db : Store) :
    (ignoringResult x).commit db = x.commit db := by
  unfold ignoringResult Tx.commit
  rw [Tx.bind_apply]
  rcases x db with fault | ⟨a, t⟩ <;> rfl

/-- Of the operations only `create_workflow_for_decision` writes workflows: it adds one. -/
theorem step_operation_workflows (config : PolicyConfig) (w : World) (env : Env) (op : Operation) :
    (w.step config ⟨env, .operation op⟩).db.workflows = w.db.workflows ∨
      ∃ decisionId cooldownHours maxWorkflowHours decision,
        op = .createWorkflow decisionId cooldownHours maxWorkflowHours ∧
        WorkflowCreationService.Buildable w.db decisionId decision ∧
        w.step config ⟨env, .operation op⟩ = { w with db := { w.db with workflows :=
          w.db.workflows ++ [WorkflowCreationService.newWorkflow env w.db.workflows.length decisionId
            decision cooldownHours maxWorkflowHours] } } := by
  have hwrites := step_operation_writes config w env op
  cases op with
  | createWorkflow decisionId cooldownHours maxWorkflowHours =>
    unfold step commitUnlessCrash
    dsimp only
    split
    · exact .inl rfl
    dsimp only [Operation.service]
    rw [ignoringResult_commit]
    unfold Tx.commit
    rcases hrun : WorkflowCreationService.createWorkflowForDecision env decisionId cooldownHours
      maxWorkflowHours w.db with fault | ⟨workflowId, t⟩
    · exact .inl rfl
    · obtain ⟨decision, hbuildable, rfl⟩ :=
        WorkflowCreationService.createWorkflowForDecision_ok hrun
      exact .inr ⟨decisionId, cooldownHours, maxWorkflowHours, decision, rfl, hbuildable, rfl⟩
  | _ =>
    refine .inl (hwrites.workflows_eq (fun _ h => ?_) fun _ h => h)
    obtain ⟨_, _, h⟩ := h
    cases h

/-- A batch reconciliation writes no workflow. -/
theorem step_reconcile_workflows (config : PolicyConfig) (w : World) (env : Env)
    (provider : UUID → StatusProvider) (limit : ℕ) :
    (w.step config ⟨env, .reconcilePending provider limit⟩).db.workflows = w.db.workflows :=
  (step_reconcile_writes config w env provider limit).workflows_eq (fun _ h => h) fun _ h => h

/-- Only `create_workflow_for_decision` adds workflows, one on its decision. -/
theorem step_workflows {config : PolicyConfig} {w : World} {r : Request} :
    (w.step config r).db.workflows.length = w.db.workflows.length ∨
      ∃ decisionId cooldownHours maxWorkflowHours decision,
        r.ask = .operation (.createWorkflow decisionId cooldownHours maxWorkflowHours) ∧
        WorkflowCreationService.Buildable w.db decisionId decision ∧
        w.step config r = { w with db := { w.db with workflows := w.db.workflows ++
          [WorkflowCreationService.newWorkflow r.env w.db.workflows.length decisionId decision
            cooldownHours maxWorkflowHours] } } := by
  obtain ⟨env, ask⟩ := r
  cases ask with
  | operation op =>
    rcases step_operation_workflows config w env op with
      hsame | ⟨decisionId, cooldownHours, maxWorkflowHours, decision, rfl, hbuildable, hstep⟩
    · exact .inl (congrArg List.length hsame)
    · exact .inr ⟨decisionId, cooldownHours, maxWorkflowHours, decision, rfl, hbuildable, hstep⟩
  | execute workflowId executeAll override provider =>
    obtain ⟨sent, hexecuted⟩ := step_execute
    exact .inl (hexecuted.writes.workflows_length fun _ h => h)
  | reconcilePending provider limit =>
    exact .inl (congrArg List.length (step_reconcile_workflows config w env provider limit))

theorem step_evolved (config : PolicyConfig) (w : World) (r : Request) :
    Evolved w.db (w.step config r).db :=
  (step_writes config w r).evolved

/-- Over every run, no row is lost and rows evolve as their relations allow. -/
theorem run_evolved (config : PolicyConfig) (w : World) (requests : List Request) :
    Evolved w.db (w.run config requests).db :=
  Run.preorder (R := fun v v' : World => Evolved v.db v'.db) (fun v => .refl v.db)
    (fun _ _ _ => Evolved.trans) (step_evolved config) w requests

end World

end RevenueRescue
