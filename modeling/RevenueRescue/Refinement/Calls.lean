import RevenueRescue.Refinement.Commit

/-!
# The account of the calls

Where no request is broken off after a call, the rows account for every call that was made:
its step was due and is spent, its workflow has an execution, and its case has an attempt for
each of its calls. The account is an invariant of the requests that keep it.
-/

namespace RevenueRescue

open Python

variable {A : Authority} {s : Store}

/-- No call of the request is broken off. -/
def Request.Commits (w : World) (r : Request) : Prop :=
  ∀ workflowId executeAll override provider,
    r.ask = .execute workflowId executeAll override provider →
    DispatchCommits r.env provider w.db workflowId executeAll override

/-- The decision on which the workflow of a submission was built. -/
def Submission.decisionId (sub : Submission) : Option UUID :=
  (sub.db.workflows[sub.workflowId]?).map RecoveryWorkflow.policyDecisionId

/-- The workflow and the dispatch step that a submission came from, among later rows. -/
structure CameFrom (s : Store) (sub : Submission) (workflow : RecoveryWorkflow)
    (step : WorkflowStep) : Prop where
  workflowRow : s.workflows[sub.workflowId]? = some workflow
  decisionId : sub.decisionId = some workflow.policyDecisionId
  caseId : workflow.caseId = sub.request.caseId
  stepRow : workflow.steps[sub.position]? = some step
  stepType : step.stepType = .DISPATCH_PAYMENT_RETRY
  idempotencyKey : step.idempotencyKey = sub.request.idempotencyKey

/-- The step of a submission was due in the rows before the request. -/
theorem Sanctioned.cameFrom {sub : Submission} (h : Sanctioned A s sub)
    (hdue : Due s sub.token) : ∃ workflow step, CameFrom s sub workflow step := by
  obtain ⟨workflow, step, hworkflow, hstep, -, htype⟩ := hdue
  obtain ⟨placedWorkflow, placedStep, hplaced⟩ := h.placed
  obtain ⟨after, hafter, hprogress⟩ := h.writes.evolved.workflows.getElem? hworkflow
  obtain rfl : after = placedWorkflow := Option.some.inj (hafter.symm.trans hplaced.workflowRow)
  obtain ⟨afterStep, hafterStep, hstepProgress⟩ := hprogress.steps.getElem? hstep
  obtain rfl : afterStep = placedStep := Option.some.inj (hafterStep.symm.trans hplaced.stepRow)
  refine ⟨workflow, step, hworkflow, ?_, ?_, hstep, htype, ?_⟩
  · rw [Submission.decisionId, hplaced.workflowRow, Option.map_some, hprogress.policyDecisionId]
  · rw [← hprogress.caseId]
    exact hplaced.caseId
  · rw [← hstepProgress.idempotencyKey]
    exact hplaced.idempotencyKey

theorem CameFrom.evolve {t : Store} (h : Evolved s t) {sub : Submission}
    {workflow : RecoveryWorkflow} {step : WorkflowStep} (hs : CameFrom s sub workflow step) :
    ∃ workflow' step', CameFrom t sub workflow' step' := by
  obtain ⟨workflow', hworkflow', hprogress⟩ := h.workflows.getElem? hs.workflowRow
  obtain ⟨step', hstep', hstepProgress⟩ := hprogress.steps.getElem? hs.stepRow
  refine ⟨workflow', step', hworkflow', ?_, ?_, hstep', ?_, ?_⟩
  · rw [hprogress.policyDecisionId]
    exact hs.decisionId
  · rw [hprogress.caseId]
    exact hs.caseId
  · rw [hstepProgress.stepType]
    exact hs.stepType
  · rw [hstepProgress.idempotencyKey]
    exact hs.idempotencyKey

/-- The rows account for every call that was made. -/
structure Accounted (config : PolicyConfig) (w : World) : Prop where
  keys : KeysSound w.db
  chain : Chain config w.db
  ledger : Ledger.Sound (w.sent.map Submission.token) (Due w.db)
  origin : ∀ sub ∈ w.sent, ∃ workflow step, CameFrom w.db sub workflow step
  recorded : ∀ sub ∈ w.sent, Recorded w.db sub
  attempts : ∀ caseId,
    (submissionsFor caseId w.sent).length ≤ (w.db.attemptsOf caseId).length

theorem Accounted.empty (config : PolicyConfig) : Accounted config World.empty :=
  ⟨.empty, .empty config, .empty _, by simp [World.empty], by simp [World.empty],
    fun _ => Nat.zero_le _⟩

/-- A spent step belongs to a workflow that exists. -/
theorem Accounted.lt_length {config : PolicyConfig} {w : World} (h : Accounted config w)
    {token : UUID × ℕ} (htoken : token ∈ w.sent.map Submission.token) :
    token.1 < w.db.workflows.length := by
  obtain ⟨sub, hsub, rfl⟩ := List.mem_map.mp htoken
  obtain ⟨workflow, step, hfrom⟩ := h.origin sub hsub
  exact (List.getElem?_eq_some_iff.mp hfrom.workflowRow).1

/-- Writes without calls keep the account. -/
theorem Accounted.write {w : World} {t : Store} (h : Accounted A.config w)
    (hw : Writes A w.db t) : Accounted A.config { w with db := t } := by
  refine ⟨hw.keysSound h.keys, hw.chain h.chain, ?_, fun sub hsub => ?_, fun sub hsub => ?_,
    fun caseId => ?_⟩
  · refine h.ledger.mint fun token hdue => ?_
    rcases hw.due_or_new hdue with hold | hnew
    · exact .inl hold
    · exact .inr fun htoken => Nat.not_le_of_lt (h.lt_length htoken) hnew
  · obtain ⟨workflow, step, hfrom⟩ := h.origin sub hsub
    exact hfrom.evolve hw.evolved
  · obtain ⟨row, hrow, hworkflow⟩ := h.recorded sub hsub
    exact ⟨row, hw.executions_mem hrow, hworkflow⟩
  · exact (h.attempts caseId).trans (hw.attemptsOf_le caseId)

/-- A request that commits with its calls keeps the account. -/
theorem Accounted.execute {w : World} {t : Store} {sent : List Submission}
    (h : Accounted A.config w) (hdone : (executionTrace A).done ⟨w.db, []⟩ sent ⟨t, []⟩) :
    Accounted A.config ⟨t, w.sent ++ sent⟩ := by
  obtain ⟨hw, hspends, hsent, hcount⟩ := hdone
  refine ⟨hw.keysSound h.keys, hw.chain h.chain, ?_, fun sub hsub => ?_, fun sub hsub => ?_,
    fun caseId => ?_⟩
  · rw [List.map_append]
    exact h.ledger.spend hspends
  · rcases List.mem_append.mp hsub with hold | hnew
    · obtain ⟨workflow, step, hfrom⟩ := h.origin sub hold
      exact hfrom.evolve hw.evolved
    · have hdue := hspends.spendable sub.token (List.mem_map_of_mem hnew)
      obtain ⟨workflow, step, hfrom⟩ := (hsent sub hnew).1.cameFrom hdue
      exact hfrom.evolve hw.evolved
  · rcases List.mem_append.mp hsub with hold | hnew
    · obtain ⟨row, hrow, hworkflow⟩ := h.recorded sub hold
      exact ⟨row, hw.executions_mem hrow, hworkflow⟩
    · exact (hsent sub hnew).2
  · have hold := h.attempts caseId
    have hnew := hcount caseId
    simp only [submissionsFor, List.filter_append, List.length_append] at hold hnew ⊢
    omega

namespace World

/-- What a request whose calls are not broken off adds to the account. -/
theorem step_calls {config : PolicyConfig} {w : World} {r : Request} (hr : r.Commits w)
    (h : Accounted config w) :
    (w.step config r).sent = w.sent ∨
      ∃ workflowId executeAll override provider sent,
        r.ask = .execute workflowId executeAll override provider ∧
        w.step config r = ⟨(w.step config r).db, w.sent ++ sent⟩ ∧
        (executionTrace (.execution config workflowId)).done ⟨w.db, []⟩ sent
          ⟨(w.step config r).db, []⟩ ∧
        ∃ workflow position step case txn customer,
          Reaches r.env w.db workflowId executeAll workflow position step case txn customer := by
  obtain ⟨env, ask⟩ := r
  cases ask with
  | operation op => exact .inl rfl
  | reconcilePending provider limit => exact .inl rfl
  | execute workflowId executeAll override provider =>
    have hcommits : DispatchCommits env provider w.db workflowId executeAll override :=
      hr workflowId executeAll override provider rfl
    obtain ⟨sent, hexecuted, hsilent | ⟨hdone, hreaches⟩⟩ := step_commits h.keys h.chain hcommits
    · left
      rw [hexecuted.calls, hsilent, List.append_nil]
    · right
      refine ⟨workflowId, executeAll, override, provider, sent, rfl, ?_, hdone, hreaches⟩
      rw [← hexecuted.calls]

/-- A request whose calls are not broken off keeps the account. -/
theorem step_accounted {config : PolicyConfig} {w : World} {r : Request} (hr : r.Commits w)
    (h : Accounted config w) : Accounted config (w.step config r) := by
  rcases step_calls hr h with hsilent | ⟨workflowId, _, _, _, sent, -, hstep, hdone, -⟩
  · have hkept : Accounted config { w with db := (w.step config r).db } :=
      h.write (step_writes config w r)
    rw [← hsilent] at hkept
    exact hkept
  · rw [hstep]
    exact Accounted.execute (A := .execution config workflowId) h hdone

theorem run_accounted {config : PolicyConfig} {requests : List Request}
    (hguard : Run.Guarded (World.step config) (fun w r => r.Commits w) World.empty requests) :
    Accounted config (World.empty.run config requests) :=
  Run.guarded_invariant (fun _ _ hr h => step_accounted hr h) requests hguard (.empty config)

end World

end RevenueRescue
