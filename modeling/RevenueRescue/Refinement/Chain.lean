import RevenueRescue.Refinement.World

/-!
# The chain of authority

In a database that grew from the empty one, every workflow stands on an approved decision
for its own case and still has the steps that were built for the decision's action, and
every approval stands on a transaction below the high-value threshold. Each guarded write
keeps this chain, and only `PolicyEngineService.evaluate` adds decisions to it.
-/

namespace RevenueRescue

open Python

variable {A : Authority} {s : Store}

/-- An approved decision about an exposure below the threshold. -/
def BelowThreshold (config : PolicyConfig) (s : Store) (decision : PolicyDecision) : Prop :=
  ∃ case txn, s.recoveryCases[decision.caseId]? = some case ∧
    s.transactions[case.triggerTransactionId]? = some txn ∧
    config.isHighValue txn.amountMinor txn.currency.code = false

/-- The workflow at a position stands on an approved decision and has the steps built for it. -/
def StandsOn (s : Store) (workflowId : UUID) (workflow : RecoveryWorkflow) : Prop :=
  ∃ decision cooldownHours, s.policyDecisions[workflow.policyDecisionId]? = some decision ∧
    decision.decisionStatus = .APPROVED ∧ decision.caseId = workflow.caseId ∧
    workflow.steps.length = (WorkflowCreationService.buildSteps workflowId decision.proposedAction
      cooldownHours).length ∧
    Table.Evolves StepProgress (WorkflowCreationService.buildSteps workflowId
      decision.proposedAction cooldownHours) workflow.steps

/-- The chain from transactions over decisions to workflows. -/
structure Chain (config : PolicyConfig) (s : Store) : Prop where
  triggers : ∀ case ∈ s.recoveryCases, case.triggerTransactionId < s.transactions.length
  approvals : ∀ decision ∈ s.policyDecisions, decision.decisionStatus = .APPROVED →
    BelowThreshold config s decision
  workflows : ∀ workflowId workflow, s.workflows[workflowId]? = some workflow →
    StandsOn s workflowId workflow

theorem Chain.empty (config : PolicyConfig) : Chain config Store.empty :=
  ⟨by simp [Store.empty], by simp [Store.empty], by simp [Store.empty]⟩

/-- What a decision was based on stays as it was. -/
theorem BelowThreshold.evolve {config : PolicyConfig} {t : Store} (h : Evolved s t)
    {decision : PolicyDecision} (hs : BelowThreshold config s decision) :
    BelowThreshold config t decision := by
  obtain ⟨case, txn, hcase, htxn, hlow⟩ := hs
  obtain ⟨case', hcase', hkept⟩ := h.recoveryCases.getElem? hcase
  obtain ⟨txn', htxn', hstep⟩ := h.transactions.getElem? htxn
  refine ⟨case', txn', hcase', ?_, ?_⟩
  · rw [hkept.triggerTransactionId]
    exact htxn'
  · rw [hstep.amountMinor, hstep.currency]
    exact hlow

/-- A workflow that made progress stands where it stood. -/
theorem StandsOn.evolve {t : Store} (h : Evolved s t) {workflowId : UUID}
    {workflow workflow' : RecoveryWorkflow} (hprogress : WorkflowProgress workflow workflow')
    (hs : StandsOn s workflowId workflow) : StandsOn t workflowId workflow' := by
  obtain ⟨decision, cooldownHours, hdecision, happroved, hcase, hlength, hsteps⟩ := hs
  obtain ⟨decision', hdecision', rfl⟩ := h.policyDecisions.getElem? hdecision
  refine ⟨decision, cooldownHours, ?_, happroved, ?_, ?_, hsteps.trans hprogress.steps⟩
  · rw [hprogress.policyDecisionId]
    exact hdecision'
  · rw [hprogress.caseId]
    exact hcase
  · rw [hprogress.length]
    exact hlength

/-- Rows of a workflow table after a write that adds none. -/
theorem Chain.workflows_of_length {config : PolicyConfig} {t : Store} (h : Evolved s t)
    (hlength : t.workflows.length = s.workflows.length) (hs : Chain config s) (workflowId : UUID)
    (workflow : RecoveryWorkflow) (hworkflow : t.workflows[workflowId]? = some workflow) :
    StandsOn t workflowId workflow := by
  obtain ⟨before, hbefore, hprogress⟩ := h.workflows.row_before hlength hworkflow
  exact (hs.workflows workflowId before hbefore).evolve h hprogress

/-- Every guarded write keeps the chain. -/
theorem Write.chain {t : Store} (h : Write A s t) (hs : Chain A.config s) : Chain A.config t := by
  have hevolved := h.evolved
  have hfewer : s.transactions.length ≤ t.transactions.length := hevolved.transactions.length_le
  have hold : ∀ case ∈ s.recoveryCases, case.triggerTransactionId < t.transactions.length :=
    fun case hcase => Nat.lt_of_lt_of_le (hs.triggers case hcase) hfewer
  have happroved : ∀ decision ∈ s.policyDecisions, decision.decisionStatus = .APPROVED →
      BelowThreshold A.config t decision :=
    fun decision hdecision hstatus => (hs.approvals decision hdecision hstatus).evolve hevolved
  have hstands := fun hlength => Chain.workflows_of_length hevolved hlength hs
  cases h with
  | addCase row hstate htrigger =>
    exact ⟨Table.forall_append_one hold htrigger, happroved, hstands rfl⟩
  | setCase id f hf =>
    refine ⟨Table.forall_modify hold fun case hcase hlt => ?_, happroved, hstands rfl⟩
    rw [(hf case hcase).triggerTransactionId]
    exact hlt
  | addPolicyDecision row hcase happrovable =>
    refine ⟨hold, Table.forall_append_one happroved fun hstatus => ?_, hstands rfl⟩
    obtain ⟨case, hrow, hlow⟩ := happrovable hstatus
    have htrigger := hs.triggers case (List.mem_of_getElem? hrow)
    have htxn := List.getElem?_eq_getElem htrigger
    exact ⟨case, _, hrow, htxn, hlow _ htxn⟩
  | addWorkflow row hcreates hbuilt hkeys =>
    refine ⟨hold, happroved, fun workflowId workflow hworkflow => ?_⟩
    rcases Table.getElem?_append_one hworkflow with hold | ⟨rfl, rfl⟩
    · exact (hs.workflows workflowId workflow hold).evolve hevolved (Std.Refl.refl workflow)
    · obtain ⟨decision, cooldownHours, hdecision, hstatus, hcase, hsteps⟩ := hbuilt
      refine ⟨decision, cooldownHours, hdecision, hstatus, hcase, ?_, ?_⟩
      · rw [hsteps]
      · rw [hsteps]
        exact .refl _
  | setWorkflow id f hexecutes hf =>
    exact ⟨hold, happroved, hstands (by simp [Store.modifyWorkflow])⟩
  | _ => exact ⟨hold, happroved, hstands rfl⟩

theorem Writes.chain {t : Store} (h : Writes A s t) (hs : Chain A.config s) :
    Chain A.config t := by
  induction h with
  | refl => exact hs
  | tail _ hstep ih => exact hstep.chain ih

/-- Every reachable database has the chain of its configuration. -/
theorem World.run_chain (config : PolicyConfig) (requests : List Request) :
    Chain config (World.empty.run config requests).db :=
  Run.invariant (I := fun w : World => Chain config w.db)
    (fun w r hw => (World.step_writes config w r).chain hw) requests (Chain.empty config)

/-! ## Dispatch steps -/

/-- Of the steps built for an action only the third can be a dispatch, for a retry. -/
theorem buildSteps_dispatch {workflowId : UUID} {action : ActionType} {cooldownHours : ℤ}
    {position : ℕ} {step : WorkflowStep}
    (hstep : (WorkflowCreationService.buildSteps workflowId action cooldownHours)[position]? =
      some step)
    (htype : step.stepType = .DISPATCH_PAYMENT_RETRY) :
    action = .RETRY_PAYMENT ∧ position = 2 := by
  cases action with
  | RETRY_PAYMENT =>
    refine ⟨rfl, ?_⟩
    match position with
    | 0 => cases hstep; cases htype
    | 1 => cases hstep; cases htype
    | 2 => rfl
    | 3 => cases hstep; cases htype
    | _ + 4 => cases hstep
  | SEND_REMINDER =>
    match position with
    | 0 => cases hstep; cases htype
    | 1 => cases hstep; cases htype
    | _ + 2 => cases hstep
  | REQUEST_OPERATOR_REVIEW =>
    match position with
    | 0 => cases hstep; cases htype
    | _ + 1 => cases hstep
  | STOP => cases hstep
  | NONE => cases hstep

/-- A workflow with a dispatch step stands on the approval of a payment retry. -/
theorem StandsOn.dispatch {workflowId : UUID} {workflow : RecoveryWorkflow}
    (h : StandsOn s workflowId workflow) {position : ℕ} {step : WorkflowStep}
    (hstep : workflow.steps[position]? = some step)
    (htype : step.stepType = .DISPATCH_PAYMENT_RETRY) :
    position = 2 ∧ ∃ decision, s.policyDecisions[workflow.policyDecisionId]? = some decision ∧
      decision.decisionStatus = .APPROVED ∧ decision.proposedAction = .RETRY_PAYMENT ∧
      decision.caseId = workflow.caseId := by
  obtain ⟨decision, cooldownHours, hdecision, happroved, hcase, hlength, hsteps⟩ := h
  obtain ⟨built, hbuilt, hprogress⟩ := hsteps.row_before hlength hstep
  obtain ⟨haction, hthird⟩ := buildSteps_dispatch hbuilt (hprogress.stepType.symm.trans htype)
  exact ⟨hthird, decision, hdecision, happroved, haction, hcase⟩

/-! ## Where decisions come from -/

/-- A decision that was not there before was within the authority to decide. -/
theorem Writes.decided {t : Store} (h : Writes A s t) {decisionId : UUID}
    {decision : PolicyDecision} (hdecision : t.policyDecisions[decisionId]? = some decision) :
    s.policyDecisions[decisionId]? = some decision ∨ A.decides decision.caseId := by
  induction h with
  | refl => exact .inl hdecision
  | @tail u v _ hstep ih =>
    cases hstep with
    | addPolicyDecision row hcase happrovable =>
      rcases Table.getElem?_append_one hdecision with hold | ⟨-, rfl⟩
      · exact ih hold
      · exact .inr hcase
    | _ => exact ih hdecision

/-- A request that brings a decision into the database is an evaluation of its case. -/
theorem World.step_decides {config : PolicyConfig} {w : World} {r : Request} {decisionId : UUID}
    {decision : PolicyDecision}
    (hnew : w.db.policyDecisions[decisionId]? ≠ some decision)
    (hdecision : (w.step config r).db.policyDecisions[decisionId]? = some decision) :
    ∃ env request, r = ⟨env, .operation (.evaluate request)⟩ ∧
      request.caseId = decision.caseId := by
  obtain ⟨env, ask⟩ := r
  cases ask with
  | operation op =>
    rcases (step_operation_writes config w env op).decided hdecision with hold | ⟨request, rfl, hcase⟩
    · exact absurd hold hnew
    · exact ⟨env, request, rfl, hcase⟩
  | execute workflowId executeAll override provider =>
    obtain ⟨sent, hexecuted⟩ := step_execute
    rcases hexecuted.writes.decided hdecision with hold | hdecides
    · exact absurd hold hnew
    · exact hdecides.elim
  | reconcilePending provider limit =>
    rcases (step_reconcile_writes config w env provider limit).decided hdecision with hold | hdecides
    · exact absurd hold hnew
    · exact hdecides.elim

end RevenueRescue
