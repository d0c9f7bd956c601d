import RevenueRescue.Refinement.Surplus

/-!
# What a retry is grounded on

Behind every approval there is a recommendation for its case, and behind every attempt and every
execution a workflow of its case, which stands on an approval. So a case without a recommendation
has no approval, no workflow, no attempt and no execution.
-/

namespace RevenueRescue

open Python

/-- The attempts and the executions of a case have a workflow of it. -/
structure Worked (s : Store) : Prop where
  attempts : ∀ attempt ∈ s.attempts, ∃ workflow ∈ s.workflows, workflow.caseId = attempt.caseId
  executions : ∀ execution ∈ s.executions,
    ∃ workflow ∈ s.workflows, workflow.caseId = execution.caseId

/-- Approvals, attempts and executions have behind them what they came from. -/
structure Grounded (s : Store) : Prop where
  approvals : ∀ decision ∈ s.policyDecisions, decision.decisionStatus = .APPROVED →
    ∃ recommendation ∈ s.decisions, recommendation.caseId = decision.caseId
  worked : Worked s

theorem Grounded.empty : Grounded Store.empty := by
  refine ⟨fun _ h => ?_, fun _ h => ?_, fun _ h => ?_⟩ <;> cases h

variable {A : Authority} {s t : Store} {caseId : UUID}

/-- Recommendations are not lost. -/
theorem Writes.recommended (h : Writes A s t) {recommendation : AgentDecision}
    (hrow : recommendation ∈ s.decisions) :
    ∃ after ∈ t.decisions, after.caseId = recommendation.caseId := by
  induction h with
  | refl => exact ⟨recommendation, hrow, rfl⟩
  | @tail u v _ hstep ih =>
    obtain ⟨after, hafter, hcase⟩ := ih
    cases hstep with
    | addDecision row => exact ⟨after, List.mem_append_left _ hafter, hcase⟩
    | setDecision id f hf =>
      obtain ⟨i, hi⟩ := List.mem_iff_getElem?.mp hafter
      by_cases hid : id = i
      · subst hid
        refine ⟨f after, List.mem_iff_getElem?.mpr ⟨id, ?_⟩, (hf after).trans hcase⟩
        simp [Store.modifyDecision, hi]
      · refine ⟨after, List.mem_iff_getElem?.mpr ⟨i, ?_⟩, hcase⟩
        simp [Store.modifyDecision, hi, hid]
    | _ => exact ⟨after, hafter, hcase⟩

/-- Without the authority to execute, attempts are only rewritten. -/
theorem Writes.attempts_caseId (hidle : ∀ id, ¬A.executes id) (h : Writes A s t) :
    t.attempts.map RecoveryAttempt.caseId = s.attempts.map RecoveryAttempt.caseId := by
  induction h with
  | refl => rfl
  | tail _ hstep ih =>
    cases hstep with
    | addAttempt row hexecutes =>
      obtain ⟨id, hid⟩ := hexecutes
      exact absurd hid (hidle id)
    | setAttempt id f hf =>
      rw [← ih]
      exact Table.map_modify (fun attempt => (hf attempt).caseId) _ _
    | _ => exact ih

/-- The workflows of a case stay its workflows. -/
theorem Evolved.workflow_caseId (h : Evolved s t)
    (hs : ∃ workflow ∈ s.workflows, workflow.caseId = caseId) :
    ∃ workflow ∈ t.workflows, workflow.caseId = caseId := by
  obtain ⟨workflow, hrow, hcase⟩ := hs
  obtain ⟨id, hid⟩ := List.mem_iff_getElem?.mp hrow
  obtain ⟨after, hafter, hprogress⟩ := h.workflows.getElem? hid
  exact ⟨after, List.mem_of_getElem? hafter, hprogress.caseId.trans hcase⟩

/-- An approving evaluation was asked about a recommendation for its case. -/
theorem PolicyEngineService.Decides.recommended {config : PolicyConfig} {env : Env}
    {request : PolicyEvaluationRequest} {case : RecoveryCase} {recommendation : AgentDecision}
    {results : List RuleCheckResult}
    (h : Decides config env request s case recommendation results)
    (happroved : (aggregateDecision results).1 = .APPROVED) :
    recommendation.caseId = request.caseId := by
  have hhead := List.mem_of_head? (head_ruleResults h.answers)
  exact (EligibilityEvaluator.of_passed (aggregateDecision_approved happroved hhead)).1

/-- Approvals stay grounded in recommendations. -/
theorem World.step_approvals {config : PolicyConfig} {w : World} {r : Request}
    (h : Grounded w.db) :
    ∀ decision ∈ (w.step config r).db.policyDecisions, decision.decisionStatus = .APPROVED →
      ∃ recommendation ∈ (w.step config r).db.decisions,
        recommendation.caseId = decision.caseId := by
  intro decision hdecision happroved
  have hwrites := World.step_writes config w r
  by_cases hold : decision ∈ w.db.policyDecisions
  · obtain ⟨recommendation, hrow, hcase⟩ := h.approvals decision hold happroved
    obtain ⟨after, hafter, hsame⟩ := hwrites.recommended hrow
    exact ⟨after, hafter, hsame.trans hcase⟩
  obtain ⟨id, hid⟩ := List.mem_iff_getElem?.mp hdecision
  obtain ⟨env, request, rfl, -⟩ :=
    World.step_decides (fun hbefore => hold (List.mem_of_getElem? hbefore)) hid
  have hcrash : env.crash = false := by
    refine Bool.eq_false_of_not_eq_true fun hcrash => hold ?_
    have hsame : (w.step config ⟨env, .operation (.evaluate request)⟩).db = w.db := if_pos hcrash
    rw [hsame] at hdecision
    exact hdecision
  have hcommit : (w.step config ⟨env, .operation (.evaluate request)⟩).db =
      (PolicyEngineService.evaluate env config request).commit w.db := by
    refine Eq.trans (if_neg (by rw [hcrash]; exact Bool.false_ne_true)) ?_
    rw [Operation.service, World.ignoringResult_commit]
  by_cases hdecides : ∃ case recommendation results,
      PolicyEngineService.Decides config env request w.db case recommendation results
  · obtain ⟨case, recommendation, results, hdecides⟩ := hdecides
    rw [hcommit, hdecides.commit, PolicyEngineService.persisted_policyDecisions] at hdecision
    have hnew := (List.mem_append.mp hdecision).resolve_left hold
    rw [List.mem_singleton] at hnew
    subst hnew
    obtain ⟨after, hafter, hsame⟩ :=
      hwrites.recommended (List.mem_of_getElem? hdecides.recommendationRow)
    exact ⟨after, hafter, hsame.trans (hdecides.recommended happroved)⟩
  · have hsame : (PolicyEngineService.evaluate env config request).commit w.db = w.db := by
      unfold Tx.commit
      rcases hrun : PolicyEngineService.evaluate env config request w.db with fault | ⟨result, t⟩
      · rfl
      · exact PolicyEngineService.evaluate_same (fun case recommendation results hd =>
          hdecides ⟨case, recommendation, results, hd⟩) hrun
    rw [hcommit, hsame] at hdecision
    exact absurd hdecision hold

/-- Where nothing is executed, attempts and executions stay grounded in workflows. -/
theorem Writes.worked (hidle : ∀ id, ¬A.executes id) (h : Writes A s t) (hs : Worked s) :
    Worked t := by
  have hevolved := h.evolved
  refine ⟨fun attempt hattempt => ?_, fun execution hexecution => ?_⟩
  · have hmem := List.mem_map_of_mem (f := RecoveryAttempt.caseId) hattempt
    rw [h.attempts_caseId hidle] at hmem
    obtain ⟨before, hbefore, hcase⟩ := List.mem_map.mp hmem
    rw [← hcase]
    exact hevolved.workflow_caseId (hs.attempts before hbefore)
  · rw [h.executions_eq hidle] at hexecution
    exact hevolved.workflow_caseId (hs.executions execution hexecution)

/-- The steps of an execution keep attempts and executions grounded in workflows. -/
theorem WorkflowExecutionService.worked_kept {env : Env} {provider : Provider} {workflowId : UUID}
    {executeAll : Bool} {override : Dict} {start : Session} :
    KeptBySteps env provider workflowId executeAll override start fun u => Worked u.db := by
  intro u workflow t h hrow hopen hsingle hstepped
  have hlt : workflowId < u.db.workflows.length := (List.getElem?_eq_some_iff.mp hrow).1
  have hset : ∀ (after : RecoveryWorkflow) {caseId : UUID}, after.caseId = workflow.caseId →
      (∃ row ∈ u.db.workflows, row.caseId = caseId) →
      ∃ row ∈ u.db.workflows.set workflowId after, row.caseId = caseId := by
    rintro after caseId hsame ⟨row, hmem, hcase⟩
    obtain ⟨id, hid⟩ := List.mem_iff_getElem?.mp hmem
    by_cases hother : workflowId = id
    · subst hother
      obtain rfl : row = workflow := Option.some.inj (hid.symm.trans hrow)
      exact ⟨after, List.mem_iff_getElem?.mpr ⟨workflowId, List.getElem?_set_self hlt⟩,
        hsame.trans hcase⟩
    · refine ⟨row, List.mem_iff_getElem?.mpr ⟨id, ?_⟩, hcase⟩
      rw [List.getElem?_set_ne hother]
      exact hid
  have hown : ∃ row ∈ u.db.workflows, row.caseId = workflow.caseId :=
    ⟨workflow, List.mem_of_getElem? hrow, rfl⟩
  cases hstepped with
  | finished hnext =>
    have hworkflows : (u.db.setWorkflowStatus workflowId .COMPLETED).workflows =
        u.db.workflows.set workflowId { workflow with status := .COMPLETED } :=
      Table.modify_eq_set hrow
    refine ⟨fun attempt hattempt => ?_, fun execution hexecution => ?_⟩
    · rw [hworkflows]
      exact hset _ rfl (h.attempts attempt hattempt)
    · rw [hworkflows]
      exact hset _ rfl (h.executions execution hexecution)
  | ran position step outcome t hnext hyields htook hsubmissions =>
    obtain ⟨after, hworkflows, -, -⟩ := htook.workflows
    refine ⟨fun attempt hattempt => ?_, fun execution hexecution => ?_⟩
    · rw [hworkflows]
      rcases htook.retries.attempts attempt hattempt with hcase | ⟨before, hbefore, hcase⟩
      · rw [hcase]
        exact hset _ rfl hown
      · rw [← hcase]
        exact hset _ rfl (h.attempts before hbefore)
    · rw [hworkflows]
      rcases htook.retries.executions execution hexecution with hcase | hbefore
      · rw [hcase]
        exact hset _ rfl hown
      · exact hset _ rfl (h.executions execution hbefore)

/-- Every request keeps what retries are grounded on. -/
theorem World.step_grounded {config : PolicyConfig} {w : World} (r : Request)
    (h : Grounded w.db) : Grounded (w.step config r).db := by
  refine ⟨World.step_approvals h, ?_⟩
  obtain ⟨env, ask⟩ := r
  cases ask with
  | operation op =>
    exact (World.step_operation_writes config w env op).worked (fun _ hid => hid) h.worked
  | execute workflowId executeAll override provider =>
    rcases World.step_execute_db with hsame | ⟨sent, session, hrun, -, hdb⟩
    · rw [hsame]
      exact h.worked
    · rw [hdb]
      exact WorkflowExecutionService.execute_invariant (I := fun u => Worked u.db)
        WorkflowExecutionService.worked_kept h.worked hrun
  | reconcilePending provider limit =>
    exact (World.step_reconcile_writes config w env provider limit).worked (fun _ hid => hid)
      h.worked

/-- Every reachable database is grounded. -/
theorem World.run_grounded (config : PolicyConfig) (requests : List Request) :
    Grounded (World.empty.run config requests).db :=
  Run.invariant (I := fun w : World => Grounded w.db)
    (fun _ r h => World.step_grounded r h) requests .empty

/-- A case without a recommendation has no workflow. -/
theorem Grounded.not_worked {config : PolicyConfig} (h : Grounded s) (hchain : Chain config s)
    (hnone : ∀ recommendation ∈ s.decisions, recommendation.caseId ≠ caseId) :
    ∀ workflow ∈ s.workflows, workflow.caseId ≠ caseId := by
  rintro workflow hworkflow rfl
  obtain ⟨workflowId, hrow⟩ := List.mem_iff_getElem?.mp hworkflow
  obtain ⟨decision, -, hdecision, happroved, hcase, -⟩ := hchain.workflows workflowId workflow hrow
  obtain ⟨recommendation, hrecommendation, hsame⟩ :=
    h.approvals decision (List.mem_of_getElem? hdecision) happroved
  exact hnone recommendation hrecommendation (hsame.trans hcase)

end RevenueRescue
