import RevenueRescue.Properties.History
import RevenueRescue.Refinement.Calls

/-!
# How often a payment is retried

Where no request is broken off after a call, a workflow step reaches the provider once. A
decision leads to one call where no workflow is built on it again once it was used, and a
case sees no more calls than its quota where the policy is asked again before each of them.

None of the three is checked by the code: a failed call leaves the case ready for another
workflow on the same decision, a request that raises after its call loses every trace of it,
and the revalidation has a ceiling of its own, above the quota of the policy.
-/

namespace RevenueRescue

open Python

namespace Sample

def consented : Request :=
  request (.createCustomerConsent 0 .RECURRING_BILLING .GRANTED none none "checkout_agreement")

/-- The pipeline recommends another payment. -/
def recommended : Request :=
  request (.generateRecommendation
    (fun _ _ _ _ => some ⟨.RETRY_PAYMENT, "RETRY_LATER", "insufficient_funds", 9 / 10, []⟩) 0)

def approved : Request := request (.evaluate ⟨0, 0, none, .SYSTEM, none, none⟩)

def planned : Request := request (.createWorkflow 0 4 72)

/-- Run a whole workflow with an adapter that gives one answer. -/
def executed (workflowId : UUID) (status : ExecutionStatus) : Request :=
  ⟨env, .execute workflowId true [] fun request =>
    some ⟨status, "razorpay", some "pay_2", none, request.amountMinor, "INR", none, none, noon,
      true⟩⟩

/-- From the failure to the approval of a retry. -/
def authorised : List Request := [failure, consented, recommended, approved]

theorem request_commits {w : World} {op : Operation} : (request op).Commits w := by
  intro _ _ _ _ h
  cases h

/-- A failed call moves no case, so nothing breaks its request off. -/
theorem executed_commits {w : World} {workflowId : UUID} :
    (executed workflowId .FAILED).Commits w := by
  intro _ _ _ _ h
  cases h
  intro workflow position step case txn customer _
  refine ⟨rfl, by simp, fun res hres hmoves => ?_⟩
  cases hres
  have hstays : ExecutionStatus.FAILED ∉ [ExecutionStatus.SUBMITTED, .SUCCEEDED, .UNKNOWN] := by decide
  exact absurd hmoves hstays

end Sample

/-! ## One execution for each step -/

/-- The executions of submissions under a key. -/
def executionsUnder (key : String) (sent : List Submission) : List Submission :=
  sent.filter fun sub => sub.executed && sub.request.idempotencyKey == key

/-- Where no request is broken off after a call, the provider executes at most one submission
for each idempotency key. -/
theorem keys_execute_once (config : PolicyConfig) (requests : List Request)
    (hguard : Run.Guarded (World.step config) (fun w r => r.Commits w) World.empty requests)
    (key : String) :
    (executionsUnder key (World.empty.run config requests).sent).length ≤ 1 := by
  have haccount : Accounted config (World.empty.run config requests) := World.run_accounted hguard
  refine Ledger.length_filter_le_one haccount.ledger.nodup fun sub hsub other hother hkey hkey' => ?_
  simp only [Bool.and_eq_true, beq_iff_eq] at hkey hkey'
  obtain ⟨workflow, step, hfrom⟩ := haccount.origin sub hsub
  obtain ⟨workflow', step', hfrom'⟩ := haccount.origin other hother
  have hsame : step.idempotencyKey = step'.idempotencyKey := by
    rw [hfrom.idempotencyKey, hfrom'.idempotencyKey, hkey.2, hkey'.2]
  obtain ⟨hid, hposition⟩ := haccount.keys.token_eq hfrom.workflowRow hfrom.stepRow
    hfrom'.workflowRow hfrom'.stepRow hsame
  exact Prod.ext hid hposition

/-- A failed call is on record, so the next request does not repeat it. -/
theorem keys_execute_once_failed :
    (executionsUnder "step:00000000-0000-0000-0000-000000000000:3:dispatch" (World.empty.run
      .default (Sample.authorised ++ [Sample.planned, Sample.executed 0 .FAILED,
        Sample.executed 0 .FAILED])).sent).length ≤ 1 := by
  refine keys_execute_once .default _ ?_ _
  exact ⟨Sample.request_commits, Sample.request_commits, Sample.request_commits,
    Sample.request_commits, Sample.request_commits, Sample.executed_commits,
    Sample.executed_commits, trivial⟩

/-- A call whose transition meets a taken audit number is repeated by the next request. -/
theorem key_executes_twice :
    (executionsUnder "step:00000000-0000-0000-0000-000000000000:3:dispatch" (World.empty.run
      .default (Sample.authorised ++ [Sample.planned, Sample.executed 0 .SUBMITTED,
        Sample.executed 0 .SUBMITTED])).sent).length = 2 := by
  decide +kernel

/-! ## One call for each decision -/

/-- The submissions on a decision. -/
def submissionsOn (decisionId : UUID) (sent : List Submission) : List Submission :=
  sent.filter fun sub => sub.decisionId == some decisionId

/-- No workflow on the decision has an execution on record or a dispatch step still to come. -/
def Unused (s : Store) (decisionId : UUID) : Prop :=
  ∀ workflowId workflow, s.workflows[workflowId]? = some workflow →
    workflow.policyDecisionId = decisionId →
    (∀ row ∈ s.executions, row.workflowId ≠ workflowId) ∧ ∀ position, ¬Due s (workflowId, position)

/-- A workflow is only built on a decision that is unused. -/
def Request.UsesDecisionsOnce (w : World) (r : Request) : Prop :=
  ∀ decisionId cooldownHours maxWorkflowHours decision,
    r.ask = .operation (.createWorkflow decisionId cooldownHours maxWorkflowHours) →
    WorkflowCreationService.Buildable w.db decisionId decision → Unused w.db decisionId

/-- A dispatch step on the decision was spent or is still to come. -/
def Claims (w : World) (decisionId : UUID) (token : UUID × ℕ) : Prop :=
  (token ∈ w.sent.map Submission.token ∨ Due w.db token) ∧
    ∃ workflow, w.db.workflows[token.1]? = some workflow ∧ workflow.policyDecisionId = decisionId

/-- Each decision has one dispatch step at most. -/
def ClaimedOnce (w : World) : Prop :=
  ∀ decisionId token other, Claims w decisionId token → Claims w decisionId other → token = other

/-- Requests that build no workflow add no claim. -/
theorem Claims.of_step {config : PolicyConfig} {w : World} {r : Request} (hr : r.Commits w)
    (h : Accounted config w)
    (hlength : (w.step config r).db.workflows.length = w.db.workflows.length) {decisionId : UUID}
    {token : UUID × ℕ} (hclaims : Claims (w.step config r) decisionId token) :
    Claims w decisionId token := by
  obtain ⟨hspent, workflow', hworkflow', hdecision⟩ := hclaims
  have hevolved : Evolved w.db (w.step config r).db := World.step_evolved config w r
  obtain ⟨workflow, hworkflow, hprogress⟩ := hevolved.workflows.row_before hlength hworkflow'
  have hlt : token.1 < w.db.workflows.length := (List.getElem?_eq_some_iff.mp hworkflow).1
  have hdue : Due (w.step config r).db token → Due w.db token := fun hdue =>
    ((World.step_writes config w r).due_or_new hdue).resolve_right (Nat.not_le_of_lt hlt)
  refine ⟨?_, workflow, hworkflow, hprogress.policyDecisionId.symm.trans hdecision⟩
  rcases hspent with hsent | hlater
  swap
  · exact .inr (hdue hlater)
  rcases World.step_calls hr h with hsilent | ⟨_, _, _, _, sent, -, hstep, hdone, -⟩
  · rw [hsilent] at hsent
    exact .inl hsent
  · rw [hstep, List.map_append] at hsent
    rcases List.mem_append.mp hsent with hold | hnew
    · exact .inl hold
    · exact .inr (hdone.2.1.spendable token hnew)

/-- A workflow that is built adds the claims of its own steps. -/
theorem Claims.of_build {config : PolicyConfig} {w : World} {row : RecoveryWorkflow}
    (h : Accounted config w) {decisionId : UUID} {token : UUID × ℕ}
    (hclaims : Claims { w with db := { w.db with workflows := w.db.workflows ++ [row] } }
      decisionId token) :
    Claims w decisionId token ∨ token.1 = w.db.workflows.length ∧
      row.policyDecisionId = decisionId ∧
      Due { w.db with workflows := w.db.workflows ++ [row] } token := by
  obtain ⟨hspent, workflow, hworkflow, hdecision⟩ := hclaims
  rcases Table.getElem?_append_one hworkflow with hold | ⟨hlast, rfl⟩
  · refine .inl ⟨hspent.imp_right fun hdue => ?_, workflow, hold, hdecision⟩
    obtain ⟨workflow', step, hworkflow', hstep, hpending, htype⟩ := hdue
    obtain rfl : workflow' = workflow := Option.some.inj (hworkflow'.symm.trans hworkflow)
    exact ⟨workflow', step, hold, hstep, hpending, htype⟩
  · refine .inr ⟨hlast, hdecision, hspent.resolve_left fun hsent => ?_⟩
    exact Nat.ne_of_lt (h.lt_length hsent) hlast

/-- There is no claim on an unused decision. -/
theorem Unused.not_claims {config : PolicyConfig} {w : World} (h : Accounted config w)
    {decisionId : UUID} (hunused : Unused w.db decisionId) (token : UUID × ℕ) :
    ¬Claims w decisionId token := by
  rintro ⟨hspent, workflow, hworkflow, hdecision⟩
  obtain ⟨hunexecuted, hnotDue⟩ := hunused token.1 workflow hworkflow hdecision
  rcases hspent with hsent | hdue
  · obtain ⟨sub, hsub, rfl⟩ := List.mem_map.mp hsent
    obtain ⟨row, hrow, hid⟩ := h.recorded sub hsub
    exact hunexecuted row hrow hid
  · exact hnotDue token.2 hdue

theorem World.step_claimedOnce {config : PolicyConfig} {w : World} {r : Request}
    (hr : r.Commits w) (honce : r.UsesDecisionsOnce w) (h : Accounted config w)
    (hw : ClaimedOnce w) : ClaimedOnce (w.step config r) := by
  intro decisionId token other htoken hother
  have hchain : Chain config (w.step config r).db := (World.step_accounted hr h).chain
  have hthird : ∀ token, Due (w.step config r).db token → token.2 = 2 := by
    rintro token ⟨workflow, step, hworkflow, hstep, -, htype⟩
    exact ((hchain.workflows token.1 workflow hworkflow).dispatch hstep htype).1
  rcases World.step_workflows with hlength | ⟨built, _, _, decision, hask, hbuildable, hstep⟩
  · exact hw decisionId token other (htoken.of_step hr h hlength) (hother.of_step hr h hlength)
  have hunused : Unused w.db built := honce built _ _ decision hask hbuildable
  rw [hstep] at htoken hother hthird
  rcases Claims.of_build h htoken with hold | ⟨hid, hdecision, hdue⟩
  · rcases Claims.of_build h hother with hold' | ⟨-, hdecision, -⟩
    · exact hw decisionId token other hold hold'
    · rw [← hdecision] at hold
      exact absurd hold (hunused.not_claims h token)
  · rcases Claims.of_build h hother with hold | ⟨hid', -, hdue'⟩
    · rw [← hdecision] at hold
      exact absurd hold (hunused.not_claims h other)
    · exact Prod.ext (hid.trans hid'.symm) ((hthird token hdue).trans (hthird other hdue').symm)

/-- Where no request is broken off after a call and no workflow is built on a used decision, a
decision leads to at most one call. -/
theorem decisions_call_once (config : PolicyConfig) (requests : List Request)
    (hguard : Run.Guarded (World.step config) (fun w r => r.Commits w ∧ r.UsesDecisionsOnce w)
      World.empty requests) (decisionId : UUID) :
    (submissionsOn decisionId (World.empty.run config requests).sent).length ≤ 1 := by
  have hinvariant : Accounted config (World.empty.run config requests) ∧
      ClaimedOnce (World.empty.run config requests) := by
    refine Run.guarded_invariant (I := fun w : World => Accounted config w ∧ ClaimedOnce w)
      (fun w r hr hw => ?_) requests hguard ⟨.empty config, ?_⟩
    · exact ⟨World.step_accounted hr.1 hw.1, World.step_claimedOnce hr.1 hr.2 hw.1 hw.2⟩
    · rintro _ token _ ⟨-, workflow, hworkflow, -⟩
      cases hworkflow
  obtain ⟨haccount, honce⟩ := hinvariant
  have hclaims : ∀ sub ∈ (World.empty.run config requests).sent,
      (sub.decisionId == some decisionId) = true →
      Claims (World.empty.run config requests) decisionId sub.token := by
    intro sub hsub hdecision
    obtain ⟨workflow, step, hfrom⟩ := haccount.origin sub hsub
    refine ⟨.inl (List.mem_map_of_mem hsub), workflow, hfrom.workflowRow, ?_⟩
    rw [beq_iff_eq, hfrom.decisionId, Option.some.injEq] at hdecision
    exact hdecision
  refine Ledger.length_filter_le_one haccount.ledger.nodup fun sub hsub other hother hon hon' => ?_
  exact honce decisionId _ _ (hclaims sub hsub hon) (hclaims other hother hon')

/-- The first workflow on the approval, whose only call fails. -/
theorem decisions_call_once_failed :
    (submissionsOn 0 (World.empty.run .default (Sample.authorised ++
      [Sample.planned, Sample.executed 0 .FAILED])).sent).length ≤ 1 := by
  have hplanned : Sample.planned.UsesDecisionsOnce (World.empty.run .default Sample.authorised) := by
    intro decisionId _ _ _ _ _ workflowId workflow hworkflow
    have hnone : (World.empty.run .default Sample.authorised).db.workflows.length = 0 := by
      decide +kernel
    rw [List.length_eq_zero_iff.mp hnone] at hworkflow
    cases hworkflow
  have hother : ∀ (w : World) (r : Request), (∀ decisionId cooldownHours maxWorkflowHours,
      r.ask ≠ .operation (.createWorkflow decisionId cooldownHours maxWorkflowHours)) →
      r.UsesDecisionsOnce w :=
    fun _ _ hnot _ _ _ _ hask _ => absurd hask (hnot _ _ _)
  refine decisions_call_once .default _ ?_ 0
  refine ⟨⟨Sample.request_commits, hother _ _ ?_⟩, ⟨Sample.request_commits, hother _ _ ?_⟩,
    ⟨Sample.request_commits, hother _ _ ?_⟩, ⟨Sample.request_commits, hother _ _ ?_⟩,
    ⟨Sample.request_commits, hplanned⟩, ⟨Sample.executed_commits, hother _ _ ?_⟩, trivial⟩ <;>
    simp [Sample.failure, Sample.consented, Sample.recommended, Sample.approved, Sample.executed,
      Sample.request]

/-- A failed call leaves the case ready, so the same decision starts a second workflow. -/
theorem decision_calls_twice :
    let w := World.empty.run .default (Sample.authorised ++ [Sample.planned,
      Sample.executed 0 .FAILED, Sample.planned, Sample.executed 1 .FAILED])
    w.db.policyDecisions[0]?.map PolicyDecision.decisionStatus = some .APPROVED ∧
      (submissionsOn 0 w.sent).length = 2 := by
  decide +kernel

/-! ## The quota of a case -/

/-- A dispatch step is only reached while the policy would allow another retry. -/
def Request.WithinQuota (config : PolicyConfig) (w : World) (r : Request) : Prop :=
  ∀ workflowId executeAll override provider,
    r.ask = .execute workflowId executeAll override provider →
    ∀ workflow position step case txn customer,
      Reaches r.env w.db workflowId executeAll workflow position step case txn customer →
      config.canRetry (w.db.attemptsOf workflow.caseId).length = true

/-- The calls of one request are for the case of its workflow, and there is at most one. -/
theorem Accounted.calls_of_request {config : PolicyConfig} {w : World} {t : Store}
    (h : Accounted config w) {workflowId : UUID} {workflow : RecoveryWorkflow}
    {sent : List Submission} (hworkflow : w.db.workflows[workflowId]? = some workflow)
    (hdone : (executionTrace (.execution config workflowId)).done ⟨w.db, []⟩ sent ⟨t, []⟩) :
    (∀ sub ∈ sent, sub.request.caseId = workflow.caseId) ∧
      ∀ caseId, (submissionsFor caseId sent).length ≤ 1 := by
  obtain ⟨-, hspends, hsent, -⟩ := hdone
  have hfrom : ∀ sub ∈ sent, sub.token = (workflowId, 2) ∧
      sub.request.caseId = workflow.caseId := by
    intro sub hsub
    obtain ⟨hsanctioned, -⟩ := hsent sub hsub
    have hid : sub.workflowId = workflowId := hsanctioned.executes
    obtain ⟨workflow', step, hcame⟩ :=
      hsanctioned.cameFrom (hspends.spendable sub.token (List.mem_map_of_mem hsub))
    have hrow := hcame.workflowRow
    rw [hid, hworkflow, Option.some.injEq] at hrow
    subst hrow
    have hthird : sub.position = 2 :=
      ((h.chain.workflows workflowId workflow hworkflow).dispatch hcame.stepRow hcame.stepType).1
    exact ⟨Prod.ext hid hthird, hcame.caseId.symm⟩
  refine ⟨fun sub hsub => (hfrom sub hsub).2, fun caseId => ?_⟩
  refine Ledger.length_filter_le_one hspends.nodup fun sub hsub other hother _ _ => ?_
  rw [(hfrom sub hsub).1, (hfrom other hother).1]

/-- A request within the quota keeps every case within it. -/
theorem World.step_withinQuota {config : PolicyConfig} {w : World} {r : Request}
    (hr : r.Commits w) (hquota : r.WithinQuota config w) (h : Accounted config w)
    (hw : ∀ caseId, (submissionsFor caseId w.sent).length ≤ config.maxRetryAttempts)
    (caseId : UUID) :
    (submissionsFor caseId (w.step config r).sent).length ≤ config.maxRetryAttempts := by
  rcases World.step_calls hr h with
    hsilent | ⟨workflowId, executeAll, override, provider, sent, hask, hstep, hdone, hreaches⟩
  · rw [hsilent]
    exact hw caseId
  obtain ⟨workflow, position, step, case, txn, customer, hreach⟩ := hreaches
  have hbelow : (w.db.attemptsOf workflow.caseId).length < config.maxRetryAttempts :=
    of_decide_eq_true (hquota _ _ _ _ hask _ _ _ _ _ _ hreach)
  obtain ⟨hcase, hone⟩ := h.calls_of_request hreach.workflowRow hdone
  have hsplit : (submissionsFor caseId (w.step config r).sent).length =
      (submissionsFor caseId w.sent).length + (submissionsFor caseId sent).length := by
    rw [hstep]
    simp [submissionsFor]
  rw [hsplit]
  by_cases hsame : workflow.caseId = caseId
  · subst hsame
    have hcounted := h.attempts workflow.caseId
    have hnew := hone workflow.caseId
    omega
  · have hnone : submissionsFor caseId sent = [] := by
      refine List.filter_eq_nil_iff.mpr fun sub hsub => ?_
      simp [hcase sub hsub, hsame]
    rw [hnone]
    exact hw caseId

/-- Where no request is broken off after a call and a dispatch is only reached within the quota,
a case sees at most so many calls as the policy allows retries. -/
theorem cases_stay_within_quota (config : PolicyConfig) (requests : List Request)
    (hguard : Run.Guarded (World.step config) (fun w r => r.Commits w ∧ r.WithinQuota config w)
      World.empty requests) (caseId : UUID) :
    (submissionsFor caseId (World.empty.run config requests).sent).length ≤
      config.maxRetryAttempts := by
  have hinvariant : Accounted config (World.empty.run config requests) ∧
      ∀ caseId, (submissionsFor caseId (World.empty.run config requests).sent).length ≤
        config.maxRetryAttempts := by
    refine Run.guarded_invariant (I := fun w : World => Accounted config w ∧
      ∀ caseId, (submissionsFor caseId w.sent).length ≤ config.maxRetryAttempts)
      (fun w r hr hw => ?_) requests hguard ⟨.empty config, fun _ => Nat.zero_le _⟩
    exact ⟨World.step_accounted hr.1 hw.1, World.step_withinQuota hr.1 hr.2 hw.1 hw.2⟩
  exact hinvariant.2 caseId

/-- One failed call is within the quota of three. -/
theorem cases_stay_within_quota_failed :
    (submissionsFor 0 (World.empty.run .default (Sample.authorised ++
      [Sample.planned, Sample.executed 0 .FAILED])).sent).length ≤ 3 := by
  have hexecuted : (Sample.executed 0 .FAILED).WithinQuota .default
      (World.empty.run .default (Sample.authorised ++ [Sample.planned])) := by
    intro _ _ _ _ _ workflow _ _ _ _ _ _
    have hnone : (World.empty.run .default
        (Sample.authorised ++ [Sample.planned])).db.attempts.length = 0 := by
      decide +kernel
    unfold Store.attemptsOf
    rw [List.length_eq_zero_iff.mp hnone, List.filter_nil]
    decide
  have hother : ∀ (w : World) (op : Operation), (Sample.request op).WithinQuota .default w := by
    intro _ _ _ _ _ _ h
    cases h
  refine cases_stay_within_quota .default _ ?_ 0
  exact ⟨⟨Sample.request_commits, hother _ _⟩, ⟨Sample.request_commits, hother _ _⟩,
    ⟨Sample.request_commits, hother _ _⟩, ⟨Sample.request_commits, hother _ _⟩,
    ⟨Sample.request_commits, hother _ _⟩, ⟨Sample.executed_commits, hexecuted⟩, trivial⟩

/-- Four failed calls for one case, each in a workflow of its own on the one decision. -/
theorem case_exceeds_quota :
    (submissionsFor 0 (World.empty.run .default (Sample.authorised ++ [Sample.planned,
      Sample.executed 0 .FAILED, Sample.planned, Sample.executed 1 .FAILED, Sample.planned,
      Sample.executed 2 .FAILED, Sample.planned, Sample.executed 3 .FAILED])).sent).length = 4 ∧
      PolicyConfig.default.maxRetryAttempts = 3 := by
  decide +kernel

end RevenueRescue
