import RevenueRescue.Properties.Order
import RevenueRescue.Refinement.Backing

/-!
# Live authority

A case in `ACTION_PENDING` should have an active workflow, or an approval from which no workflow
was made. An approving evaluation brings its approval and a workflow is made active. What breaks
the rule is a transition to `ACTION_PENDING` without an approval, and an execution that ends its
workflow while the case stays: the workflow has run out of steps, its dispatch is refused, or
the adapter answers that the payment failed.
-/

namespace RevenueRescue

open Python

/-- Every case that waits for its action is backed. -/
def AuthorityLives (s : Store) : Prop :=
  ∀ (caseId : UUID) (case : RecoveryCase), s.recoveryCases[caseId]? = some case →
    case.state = .ACTION_PENDING → s.Backs caseId

/-- The operation moves no case to `ACTION_PENDING` that nothing backs; evaluations bring their
approval themselves. -/
def Operation.KeepsAuthority (s : Store) : Operation → Prop
  | .transitionState caseId dto =>
    ∀ case, s.recoveryCases[caseId]? = some case → case.state.isTerminal = false →
      case.state ≠ dto.toState → dto.toState = .ACTION_PENDING → s.Backs caseId
  | .transition caseId toState _ _ =>
    ∀ case, CaseTransitionService.CarriesOut s caseId toState case → toState = .ACTION_PENDING →
      s.Backs caseId
  | _ => True

/-- The request does not leave a case in `ACTION_PENDING` that nothing backs, or it is not
committed. -/
def Request.KeepsAuthority (w : World) (r : Request) : Prop :=
  r.env.crash = false →
    match r.ask with
    | .operation op => op.KeepsAuthority w.db
    | .execute workflowId executeAll override provider =>
      ∀ workflow case, w.db.workflows[workflowId]? = some workflow →
        workflow.status ∉ refusedStatuses executeAll →
        w.db.recoveryCases[workflow.caseId]? = some case → case.state = .ACTION_PENDING →
        ¬w.db.BacksWithout workflowId workflow.caseId →
        WorkflowExecutionService.StaysActive r.env provider w.db executeAll override workflow
    | .reconcilePending _ _ => True

variable {config : PolicyConfig} {env : Env} {s : Store} {caseId : UUID} {case : RecoveryCase}
  {move : CaseMove}

/-- When every rule passes, the decision is an approval. -/
theorem PolicyEngineService.aggregateDecision_of_passed {results : List RuleCheckResult}
    (h : ∀ result ∈ results, result.status = .PASSED) :
    (aggregateDecision results).1 = .APPROVED := by
  have hnone : ∀ status : RuleCheckStatus, status ≠ .PASSED →
      (results.any fun r => r.status == status) = false := by
    intro status hstatus
    refine List.any_eq_false.mpr fun result hresult => ?_
    rw [h result hresult, beq_iff_eq]
    exact hstatus.symm
  unfold aggregateDecision
  rw [hnone .FAILED (by decide), hnone .MISSING_INFO (by decide), hnone .NEEDS_REVIEW (by decide)]
  rfl

/-- An approving evaluation backs its case. -/
theorem PolicyEngineService.Decides.backs {request : PolicyEvaluationRequest}
    {recommendation : AgentDecision} {results : List RuleCheckResult} (hchain : Chain config s)
    (h : Decides config env request s case recommendation results)
    (hpassed : ∀ result ∈ results, result.status = .PASSED) :
    ((evaluate env config request).commit s).Backs request.caseId := by
  rw [h.commit]
  refine .inr ⟨s.policyDecisions.length,
    decision env config request case recommendation results, ?_, rfl,
    aggregateDecision_of_passed hpassed, fun workflow hworkflow => ?_⟩
  · rw [persisted_policyDecisions, List.getElem?_concat_length]
  · rw [persisted_workflows] at hworkflow
    obtain ⟨workflowId, hrow⟩ := List.mem_iff_getElem?.mp hworkflow
    obtain ⟨decision, -, hdecision, -⟩ := hchain.workflows workflowId workflow hrow
    exact Nat.ne_of_lt (List.getElem?_eq_some_iff.mp hdecision).1

/-- No operation takes away what backs a case. -/
theorem World.step_operation_backs {w : World} {op : Operation} (h : w.db.Backs caseId) :
    (w.step config ⟨env, .operation op⟩).db.Backs caseId := by
  have hevolved := World.step_evolved config w ⟨env, .operation op⟩
  rcases World.step_operation_workflows config w env op with
    hsame | ⟨decisionId, cooldownHours, maxWorkflowHours, decision, rfl, hbuildable, hstep⟩
  · exact h.of_same hsame hevolved
  rw [hstep]
  rcases h with ⟨workflowId, workflow, hrow, hactive⟩ | ⟨id, row, hrow, hcase, happroved, hunused⟩
  · exact .inl ⟨workflowId, workflow, Table.getElem?_append_of_some hrow _, hactive⟩
  by_cases hid : id = decisionId
  · subst hid
    refine .inl ⟨w.db.workflows.length, _, List.getElem?_concat_length, ?_, List.mem_cons_self⟩
    obtain rfl : row = decision := Option.some.inj (hrow.symm.trans hbuildable.1)
    exact hcase
  · refine .inr ⟨id, row, hrow, hcase, happroved, fun workflow hworkflow => ?_⟩
    rcases List.mem_append.mp hworkflow with hold | hnew
    · exact hunused workflow hold
    · rw [List.mem_singleton.mp hnew]
      exact Ne.symm hid

/-- An operation that moves a case to `ACTION_PENDING` leaves it backed. -/
theorem Operation.Moves.backs {w : World} {op : Operation} (hchain : Chain config w.db)
    (hcrash : env.crash = false) (h : op.Moves config env w.db caseId case move)
    (hop : op.KeepsAuthority w.db) (hcase : w.db.recoveryCases[caseId]? = some case)
    (hpending : move.toState = .ACTION_PENDING) :
    (w.step config ⟨env, .operation op⟩).db.Backs caseId := by
  cases op with
  | processEvent event =>
    obtain ⟨-, rfl⟩ := h
    cases hpending
  | ingestEvent event payloadHash signatureVerified =>
    obtain ⟨-, -, -, rfl⟩ := h
    cases hpending
  | transitionState id dto =>
    obtain ⟨rfl, hopen, hdiffers, rfl⟩ := h
    exact World.step_operation_backs (hop case hcase hopen hdiffers hpending)
  | generateRecommendation pipeline id =>
    obtain ⟨-, -, -, -, rfl⟩ := h
    cases hpending
  | evaluate request =>
    obtain ⟨rfl, -, recommendation, results, hdecides, hfollows⟩ := h
    rw [hpending] at hfollows
    cases hfollows with
    | approved hpassed hstate =>
      have hcommit : (w.step config ⟨env, .operation (.evaluate request)⟩).db =
          ((Operation.evaluate request).service config env).commit w.db :=
        if_neg (by rw [hcrash]; exact Bool.false_ne_true)
      rw [hcommit, Operation.service, World.ignoringResult_commit]
      exact hdecides.backs hchain hpassed
  | transition id toState reasonCode actorType =>
    obtain ⟨rfl, hcarries, rfl⟩ := h
    exact World.step_operation_backs (hop case hcarries hpending)
  | reconcileCase provider autoResolve id =>
    obtain ⟨rfl, txn, providerStatus, -, ⟨toState, hrequested, -, rfl⟩ | ⟨-, -, rfl⟩⟩ := h
    · unfold PaymentReconciliationService.requestedTransition at hrequested
      split_ifs at hrequested <;> cases hrequested <;> cases hpending
    · cases hpending
  | _ => exact h.elim

/-- A request that keeps authority leaves every case that waits for its action backed. -/
theorem World.step_authorityLives {w : World} {r : Request} (hchain : Chain config w.db)
    (hr : r.KeepsAuthority w) (h : AuthorityLives w.db) :
    AuthorityLives (w.step config r).db := by
  intro caseId after hafter hpending
  have hmoved := World.step_casesMoved hchain r
  rcases hcase : w.db.recoveryCases[caseId]? with _ | case
  · obtain ⟨hstate, -⟩ := hmoved.opened caseId after hafter hcase
    rw [hpending] at hstate
    cases hstate
  obtain ⟨row, hrow, hkept⟩ := hmoved.rows caseId case hcase
  obtain rfl : row = after := Option.some.inj (hrow.symm.trans hafter)
  obtain ⟨env, ask⟩ := r
  cases ask with
  | operation op =>
    rcases hkept with ⟨hsame, -⟩ | ⟨move, ⟨hcrash, hmove⟩, hrewrites⟩
    · exact World.step_operation_backs (h caseId case hcase (hsame.symm.trans hpending))
    · exact Operation.Moves.backs hchain hcrash hmove (hr hcrash) hcase
        (hrewrites.1.symm.trans hpending)
  | execute workflowId executeAll override provider =>
    have hbefore : case.state = .ACTION_PENDING := by
      rcases hkept with ⟨hsame, -⟩ | ⟨move, ⟨-, hmove⟩, hrewrites⟩
      · exact hsame.symm.trans hpending
      · have htarget := hmove.target
        rw [← hrewrites.1, hpending] at htarget
        exact absurd htarget (by decide)
    have hbacks := h caseId case hcase hbefore
    rcases World.step_execute_db with hsame | ⟨sent, session, hrun, hcrash, hdb⟩
    · rw [hsame]
      exact hbacks
    · rw [hdb] at hafter ⊢
      exact WorkflowExecutionService.execute_backs
        (fun workflow hworkflow => (hchain.workflows workflowId workflow hworkflow).wellLaid) hrun
        (hr hcrash) hcase hbefore hafter hpending hbacks
  | reconcilePending provider limit =>
    have hbefore : case.state = .ACTION_PENDING := by
      rcases hkept with ⟨hsame, -⟩ | ⟨move, ⟨-, hmove⟩, hrewrites⟩
      · exact hsame.symm.trans hpending
      · obtain ⟨-, hverifying, -, hcarries, -⟩ := hmove
        have hallowed := hcarries.allowed
        rw [← hrewrites.1, hpending, hverifying] at hallowed
        exact absurd hallowed (by decide)
    exact (h caseId case hcase hbefore).of_same (World.step_reconcile_workflows ..)
      (World.step_evolved config w _)

/-- In every run whose requests keep authority, every case in `ACTION_PENDING` has an active
workflow or an approval from which no workflow was made. -/
theorem pending_action_is_backed (config : PolicyConfig) (requests : List Request)
    (hguard : Run.Guarded (World.step config) (fun w r => r.KeepsAuthority w) World.empty
      requests) :
    AuthorityLives (World.empty.run config requests).db := by
  have hreached : Chain config (World.empty.run config requests).db ∧
      AuthorityLives (World.empty.run config requests).db := by
    refine Run.guarded_invariant (I := fun w : World => Chain config w.db ∧ AuthorityLives w.db)
      (fun w r hr hw => ?_) requests hguard ⟨.empty config, fun _ _ h => by cases h⟩
    exact ⟨(World.step_writes config w r).chain hw.1, World.step_authorityLives hw.1 hr hw.2⟩
  exact hreached.2

/-- The first step of the workflow leaves it running. -/
theorem pending_action_is_backed_validated :
    AuthorityLives (World.empty.run .default
      (Sample.authorised ++ [Sample.planned, Sample.stepped 0 .FAILED])).db := by
  refine pending_action_is_backed .default _ ⟨fun _ => trivial, fun _ => trivial, fun _ => trivial,
    fun _ => trivial, fun _ => trivial, fun _ => ?_, trivial⟩
  intro workflow case hrow _ _ _ _
  have hfirst : (Sample.plannedWorld.db.workflows[0]?).map (fun workflow =>
      (WorkflowExecutionService.nextPending workflow).map fun next => next.2.stepType) =
        some (some .VALIDATE_AUTHORIZATION) := by decide +kernel
  change Sample.plannedWorld.db.workflows[0]? = some workflow at hrow
  rw [hrow, Option.map_some, Option.some.injEq, Option.map_eq_some_iff] at hfirst
  obtain ⟨next, hnext, hvalidation⟩ := hfirst
  refine .inr ⟨fun h => (by cases h), fun _ hnone => ?_, fun position step _ _ htype hfound => ?_⟩
  · rw [hnext] at hnone
    cases hnone
  · rw [hnext, Option.some.injEq] at hfound
    have hsame := hfound rfl
    subst hsame
    cases hvalidation.symm.trans htype

/-- A failed dispatch ends the workflow and leaves the case where it waits for its action. -/
theorem failed_dispatch_strands_case :
    let w := World.empty.run .default
      (Sample.authorised ++ [Sample.planned, Sample.executed 0 .FAILED])
    w.db.recoveryCases.map RecoveryCase.state = [.ACTION_PENDING] ∧
      w.db.workflows.map (fun workflow => (workflow.policyDecisionId, workflow.status)) =
        [(0, .FAILED)] ∧ w.db.policyDecisions.length = 1 ∧ ¬AuthorityLives w.db := by
  intro w
  have hcases : w.db.recoveryCases.map RecoveryCase.state = [.ACTION_PENDING] := by
    decide +kernel
  have hworkflows : w.db.workflows.map (fun workflow =>
      (workflow.policyDecisionId, workflow.status)) = [(0, .FAILED)] := by decide +kernel
  have hdecisions : w.db.policyDecisions.length = 1 := by decide +kernel
  have honly : ∀ workflow ∈ w.db.workflows,
      (workflow.policyDecisionId, workflow.status) = (0, WorkflowStatus.FAILED) := by
    intro workflow hworkflow
    have hmem := List.mem_map_of_mem
      (f := fun workflow : RecoveryWorkflow => (workflow.policyDecisionId, workflow.status)) hworkflow
    rw [hworkflows] at hmem
    exact List.mem_singleton.mp hmem
  refine ⟨hcases, hworkflows, hdecisions, fun hlives => ?_⟩
  have hstate : (w.db.recoveryCases.map RecoveryCase.state)[0]? = some .ACTION_PENDING := by
    rw [hcases]
    rfl
  rw [List.getElem?_map, Option.map_eq_some_iff] at hstate
  obtain ⟨case, hcase, hpending⟩ := hstate
  rcases hlives 0 case hcase hpending with ⟨id, workflow, hrow, -, hactive⟩ |
    ⟨decisionId, decision, hdecision, -, -, hunused⟩
  · rw [(Prod.mk.inj (honly workflow (List.mem_of_getElem? hrow))).2] at hactive
    exact absurd hactive (by decide)
  · have hlt := (List.getElem?_eq_some_iff.mp hdecision).1
    rw [hdecisions] at hlt
    obtain ⟨workflow, hworkflow, -⟩ : ∃ workflow ∈ w.db.workflows,
        (workflow.policyDecisionId, workflow.status) = (0, WorkflowStatus.FAILED) := by
      rw [← List.mem_map, hworkflows]
      exact List.mem_cons_self
    refine hunused workflow hworkflow ?_
    rw [(Prod.mk.inj (honly workflow hworkflow)).1]
    exact (Nat.lt_one_iff.mp hlt).symm

end RevenueRescue
