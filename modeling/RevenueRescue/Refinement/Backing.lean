import RevenueRescue.Refinement.RequestMoves

/-!
# What backs a pending action

A case that waits for its action is backed by an active workflow or by an approval from which no
workflow was made. Approvals are never taken back and a workflow keeps its approval, so backing
is only lost where an execution ends a workflow: it runs out of steps, its dispatch is refused,
or the adapter answers that the payment failed. Every other end moves the case on.
-/

namespace RevenueRescue

open Python

/-- The statuses of `find_active_by_case`. -/
def activeStatuses : List WorkflowStatus :=
  [.PENDING, .SCHEDULED, .RUNNING, .WAITING]

/-- An approval of an action for the case from which no workflow was made. -/
def Store.HasUnusedApproval (s : Store) (caseId : UUID) : Prop :=
  ∃ (decisionId : UUID) (decision : PolicyDecision),
    s.policyDecisions[decisionId]? = some decision ∧ decision.caseId = caseId ∧
      decision.decisionStatus = .APPROVED ∧
      ∀ workflow ∈ s.workflows, workflow.policyDecisionId ≠ decisionId

/-- The case has an active workflow or an approval from which no workflow was made. -/
def Store.Backs (s : Store) (caseId : UUID) : Prop :=
  (∃ (workflowId : UUID) (workflow : RecoveryWorkflow), s.workflows[workflowId]? = some workflow ∧
    workflow.caseId = caseId ∧ workflow.status ∈ activeStatuses) ∨ s.HasUnusedApproval caseId

/-- The case has another active workflow, or an approval from which no workflow was made. -/
def Store.BacksWithout (s : Store) (workflowId caseId : UUID) : Prop :=
  (∃ (other : UUID) (workflow : RecoveryWorkflow), other ≠ workflowId ∧
    s.workflows[other]? = some workflow ∧ workflow.caseId = caseId ∧
      workflow.status ∈ activeStatuses) ∨ s.HasUnusedApproval caseId

variable {s t : Store} {caseId workflowId : UUID} {workflow original : RecoveryWorkflow}

/-- An unused approval stays one while no workflow is made from it. -/
theorem Store.HasUnusedApproval.of_rows (h : s.HasUnusedApproval caseId)
    (hdecisions : ∀ (decisionId : UUID) (decision : PolicyDecision),
      s.policyDecisions[decisionId]? = some decision →
        t.policyDecisions[decisionId]? = some decision)
    (hworkflows : ∀ after ∈ t.workflows, ∃ before ∈ s.workflows,
      after.policyDecisionId = before.policyDecisionId) : t.HasUnusedApproval caseId := by
  obtain ⟨decisionId, decision, hrow, hcase, happroved, hunused⟩ := h
  refine ⟨decisionId, decision, hdecisions decisionId decision hrow, hcase, happroved,
    fun after hafter => ?_⟩
  obtain ⟨before, hbefore, hsame⟩ := hworkflows after hafter
  rw [hsame]
  exact hunused before hbefore

/-- What backs a case stays as long as the workflows do. -/
theorem Store.Backs.of_same (h : s.Backs caseId) (hworkflows : t.workflows = s.workflows)
    (hevolved : Evolved s t) : t.Backs caseId := by
  refine h.imp (fun ⟨id, row, hrow, hactive⟩ => ⟨id, row, hworkflows ▸ hrow, hactive⟩)
    fun hunused => hunused.of_rows (fun id row hrow => ?_) fun after hafter => ?_
  · obtain ⟨after, hafter, rfl⟩ := hevolved.policyDecisions.getElem? hrow
    exact hafter
  · rw [hworkflows] at hafter
    exact ⟨after, hafter, rfl⟩

theorem Store.BacksWithout.backs (h : s.BacksWithout workflowId caseId) : s.Backs caseId :=
  h.imp_left fun ⟨other, row, _, hrow⟩ => ⟨other, row, hrow⟩

/-- A case is backed by this workflow or without it. -/
theorem Store.Backs.active_or_without (h : s.Backs caseId)
    (hrow : s.workflows[workflowId]? = some workflow) :
    (workflow.caseId = caseId ∧ workflow.status ∈ activeStatuses) ∨
      s.BacksWithout workflowId caseId := by
  rcases h with ⟨id, row, hid, hactive⟩ | hunused
  · by_cases hsame : id = workflowId
    · subst hsame
      obtain rfl : row = workflow := Option.some.inj (hid.symm.trans hrow)
      exact .inl hactive
    · exact .inr (.inl ⟨id, row, hsame, hid, hactive⟩)
  · exact .inr (.inr hunused)

namespace WorkflowExecutionService

/-- An execution on these rows comes to a step that waits, or takes just one, and the dispatch on
the way is neither refused nor answered by a failure. -/
structure Passes (env : Env) (provider : Provider) (s : Store) (executeAll : Bool) (override : Dict)
    (workflow : RecoveryWorkflow) : Prop where
  awaits : executeAll = true →
    ∃ step ∈ workflow.steps, step.isPending = true ∧ step.stepType = .AWAIT_VERIFICATION
  takes : executeAll = false → nextPending workflow ≠ none
  dispatches : ∀ position step, workflow.steps[position]? = some step → step.isPending = true →
    step.stepType = .DISPATCH_PAYMENT_RETRY →
    (executeAll = false → nextPending workflow = some (position, step)) →
    ∀ result, WorkflowRevalidationService.revalidateForExecution env s workflow.caseId
      .RETRY_PAYMENT = .ok result →
    (∃ case txn customer, Allowed env s workflow.caseId case txn customer) ∧
    ∀ case txn customer, Allowed env s workflow.caseId case txn customer →
      ∀ res, provider (buildRequest step workflow.caseId case txn customer override) = some res →
        res.status ≠ .FAILED

/-- An execution on these rows leaves its workflow active, or moves its case on because the
validation that is next does not pass. -/
def StaysActive (env : Env) (provider : Provider) (s : Store) (executeAll : Bool) (override : Dict)
    (workflow : RecoveryWorkflow) : Prop :=
  (∃ position step, nextPending workflow = some (position, step) ∧
    step.stepType = .VALIDATE_AUTHORIZATION ∧
    ∀ result, WorkflowRevalidationService.revalidateForExecution env s workflow.caseId
      step.actionType = .ok result → result.allowed = false) ∨
  Passes env provider s executeAll override workflow

/-- What holds of the workflow on its way to the step that waits. -/
structure Carrying (env : Env) (provider : Provider) (override : Dict) (workflowId : UUID)
    (executeAll : Bool) (before : Store) (original : RecoveryWorkflow) (u : Session)
    (workflow : RecoveryWorkflow) : Prop where
  passes : Passes env provider before executeAll override original
  awaits : executeAll = true →
    ∃ step ∈ workflow.steps, step.isPending = true ∧ step.stepType = .AWAIT_VERIFICATION
  ready : Ready workflowId before original u workflow ∨
    ∀ step ∈ workflow.steps, step.isPending = true → step.stepType ≠ .DISPATCH_PAYMENT_RETRY

/-- What holds between the steps while the case still waits for its action. -/
structure Attended (env : Env) (provider : Provider) (override : Dict) (workflowId : UUID)
    (executeAll : Bool) (before : Store) (original : RecoveryWorkflow) (u : Session)
    (workflow : RecoveryWorkflow) : Prop where
  begun : u = ⟨before, []⟩ ∨ original.status ∉ refusedStatuses executeAll
  active : workflow.status ∈ activeStatuses
  goesOn : executeAll = true → workflow.status ∉ stoppingStatuses → u = ⟨before, []⟩ ∨
    Carrying env provider override workflowId executeAll before original u workflow

variable {env : Env} {provider : Provider} {executeAll : Bool} {override : Dict} {before : Store}
  {u : Session} {position : ℕ} {step after : WorkflowStep} {outcome : StepOutcome}

/-- No step moves a case to where it waits for an action. -/
theorem Yields.target_ne (h : Yields env provider override u caseId step outcome) :
    outcome.target ≠ some .ACTION_PENDING := by
  cases h with
  | invalid htype result hreval hrefused =>
    change some (refusalTarget result) ≠ some .ACTION_PENDING
    unfold refusalTarget
    cases isIn "UNKNOWN" result.reasonCode <;> decide
  | answered htype case txn customer hallowed res executed hanswered =>
    cases res.status <;> decide
  | _ => exact nofun

/-- Where the first step does not move the case, the way is free. -/
theorem StaysActive.passes (h : StaysActive env provider before executeAll override original)
    (hnext : nextPending original = some (position, step))
    (hyields : Yields env provider override ⟨before, []⟩ original.caseId step outcome)
    (hstays : outcome.target = none) : Passes env provider before executeAll override original := by
  refine h.resolve_left ?_
  rintro ⟨p, one, hone, hvalidation, hrefused⟩
  obtain ⟨rfl, rfl⟩ := Prod.mk.inj (Option.some.inj (hone.symm.trans hnext))
  cases hyields with
  | validated htype result hreval hallowed =>
    rw [hrefused result hreval] at hallowed
    cases hallowed
  | invalid => cases hstays
  | carried htype =>
    rw [hvalidation] at htype
    exact absurd htype (by decide)
  | waiting htype => cases hvalidation.symm.trans htype
  | refused htype => cases hvalidation.symm.trans htype
  | answered htype => cases hvalidation.symm.trans htype

/-- A step that does not move the case is taken on the way. -/
theorem Attended.carrying
    (h : Attended env provider override workflowId executeAll before original u workflow)
    (hrow : u.db.workflows[workflowId]? = some workflow)
    (horiginal : before.workflows[workflowId]? = some original)
    (hstart : StaysActive env provider before executeAll override original)
    (hopen : workflow.status ∉ refusedStatuses executeAll)
    (hsingle : executeAll = false → u = ⟨before, []⟩)
    (hnext : nextPending workflow = some (position, step))
    (hyields : Yields env provider override u workflow.caseId step outcome)
    (hstays : outcome.target = none) :
    Carrying env provider override workflowId executeAll before original u workflow := by
  have hfirst : u = ⟨before, []⟩ →
      Carrying env provider override workflowId executeAll before original u workflow := by
    rintro rfl
    obtain rfl : workflow = original := Option.some.inj (hrow.symm.trans horiginal)
    have hpasses := hstart.passes hnext hyields hstays
    exact ⟨hpasses, hpasses.awaits, .inl (.start hrow)⟩
  cases executeAll with
  | true => exact (h.goesOn rfl hopen).elim hfirst id
  | false => exact hfirst (hsingle rfl)

/-- Whether a retry is let through is read off the rows before the request. -/
theorem Ready.allowed_iff (h : Ready workflowId before original u workflow) {case : RecoveryCase}
    {txn : Transaction} {customer : Customer} :
    Allowed env u.db caseId case txn customer ↔ Allowed env before caseId case txn customer := by
  rw [h.db]
  exact ⟨fun ⟨hreval, hcase, htxn, hcustomer⟩ => ⟨hreval, hcase, htxn, hcustomer⟩,
    fun ⟨hreval, hcase, htxn, hcustomer⟩ => ⟨hreval, hcase, htxn, hcustomer⟩⟩

/-- A dispatch on the way is allowed, and the adapter does not answer it by a failure. -/
theorem Carrying.dispatched
    (h : Carrying env provider override workflowId executeAll before original u workflow)
    (horiginal : before.workflows[workflowId]? = some original)
    (hsingle : executeAll = false → u = ⟨before, []⟩)
    (hnext : nextPending workflow = some (position, step))
    (htype : step.stepType = .DISPATCH_PAYMENT_RETRY)
    (hanswers : ∃ result, WorkflowRevalidationService.revalidateForExecution env u.db
      workflow.caseId .RETRY_PAYMENT = .ok result) :
    u.submissions = [] ∧ (∃ case txn customer, Allowed env u.db workflow.caseId case txn customer) ∧
      ∀ case txn customer, Allowed env u.db workflow.caseId case txn customer →
        ∀ res, provider (buildRequest step workflow.caseId case txn customer override) = some res →
          res.status ≠ .FAILED := by
  obtain ⟨hstep, hpending⟩ := nextPending_some hnext
  have hready : Ready workflowId before original u workflow :=
    h.ready.resolve_right fun hnone => hnone step (List.mem_of_getElem? hstep) hpending htype
  have hfirst : executeAll = false → nextPending original = some (position, step) := by
    intro hall
    obtain rfl := hsingle hall
    obtain rfl : workflow = original :=
      Option.some.inj (hready.workflowRow.symm.trans horiginal)
    exact hnext
  obtain ⟨result, hanswers⟩ := hanswers
  rw [hready.revalidate, hready.caseId] at hanswers
  obtain ⟨⟨case, txn, customer, hallowed⟩, hanswered⟩ :=
    h.passes.dispatches position step (hready.pending position step hstep hpending) hpending htype
      hfirst result hanswers
  rw [hready.caseId]
  refine ⟨hready.fresh, ⟨case, txn, customer, hready.allowed_iff.mpr hallowed⟩, ?_⟩
  intro case txn customer hallowed
  exact hanswered case txn customer (hready.allowed_iff.mp hallowed)

/-- Behind the step that was taken, a step that waits is still pending. -/
theorem awaits_set (hnext : nextPending workflow = some (position, step))
    (htype : step.stepType ≠ .AWAIT_VERIFICATION)
    (h : ∃ one ∈ workflow.steps, one.isPending = true ∧ one.stepType = .AWAIT_VERIFICATION) :
    ∃ one ∈ workflow.steps.set position after,
      one.isPending = true ∧ one.stepType = .AWAIT_VERIFICATION := by
  obtain ⟨one, hone, hpending, hawaits⟩ := h
  obtain ⟨p, hp⟩ := List.mem_iff_getElem?.mp hone
  refine ⟨one, List.mem_iff_getElem?.mpr ⟨p, ?_⟩, hpending, hawaits⟩
  rw [List.getElem?_set_ne]
  · exact hp
  · rintro rfl
    obtain rfl : step = one := Option.some.inj ((nextPending_some hnext).1.symm.trans hp)
    exact htype hawaits

/-- A step that leaves the case and goes on stays on the way. -/
theorem Carrying.took {t : Session}
    (h : Carrying env provider override workflowId executeAll before original u workflow)
    (hlaid : WellLaid workflow) (hnext : nextPending workflow = some (position, step))
    (hyields : Yields env provider override u workflow.caseId step outcome)
    (htook : Took env workflowId u.db workflow position step outcome t.db)
    (hsubmissions : outcome.isLocal = true → t.submissions = u.submissions)
    (hafter : after.status = outcome.stepStatus)
    (hrow : t.db.workflows[workflowId]? = some
      { workflow with
        status := outcome.workflowStatus, steps := workflow.steps.set position after })
    (hgoes : outcome.workflowStatus ∉ stoppingStatuses) :
    Carrying env provider override workflowId executeAll before original t
      { workflow with
        status := outcome.workflowStatus, steps := workflow.steps.set position after } := by
  have hwaits : step.stepType ≠ .AWAIT_VERIFICATION := by
    intro htype
    cases hyields with
    | waiting _ => exact absurd (show WorkflowStatus.WAITING ∈ stoppingStatuses by decide) hgoes
    | carried hother => exact absurd (htype ▸ hother) (by decide)
    | validated hother => cases htype.symm.trans hother
    | invalid hother => cases htype.symm.trans hother
    | refused hother => cases htype.symm.trans hother
    | answered hother => cases htype.symm.trans hother
  have hdone : after.isPending = false := not_pending_of_outcome hafter
  refine ⟨h.passes, fun hall => awaits_set hnext hwaits (h.awaits hall), ?_⟩
  cases hlocal : outcome.isLocal with
  | true =>
    refine h.ready.imp (fun hready => hready.took hnext hlocal htook hsubmissions hafter hrow)
      fun hnone one hone hpending => ?_
    rcases List.mem_or_eq_of_mem_set hone with hold | rfl
    · exact hnone one hold hpending
    · rw [hdone] at hpending
      cases hpending
  | false =>
    cases hyields with
    | answered htype =>
      exact .inr (hlaid.dispatched (nextPending_some hnext).1 htype hdone)
    | invalid htype =>
      exact absurd (show WorkflowStatus.FAILED ∈ stoppingStatuses by decide) hgoes
    | _ => cases hlocal

/-- On the way no step ends the workflow. -/
theorem Carrying.active
    (h : Carrying env provider override workflowId executeAll before original u workflow)
    (horiginal : before.workflows[workflowId]? = some original)
    (hsingle : executeAll = false → u = ⟨before, []⟩)
    (hnext : nextPending workflow = some (position, step))
    (hyields : Yields env provider override u workflow.caseId step outcome)
    (hstays : outcome.target = none) : outcome.workflowStatus ∈ activeStatuses := by
  cases hyields with
  | validated => decide
  | invalid => cases hstays
  | carried => decide
  | waiting => decide
  | refused htype hanswers hrefused =>
    exact absurd (h.dispatched horiginal hsingle hnext htype hanswers).2.1 hrefused
  | answered htype case txn customer hallowed res executed hanswered =>
    obtain ⟨result, hreval, -⟩ := hallowed.revalidated
    obtain ⟨hfresh, -, hfails⟩ := h.dispatched horiginal hsingle hnext htype ⟨result, hreval⟩
    have hnotfailed : res.status ≠ .FAILED := by
      cases hanswered with
      | remembered hlookup =>
        rw [hfresh] at hlookup
        cases hlookup
      | sent _ hres => exact hfails case txn customer hallowed res hres
    revert hstays hnotfailed
    cases res.status <;> decide

/-- On the way there is a step to take. -/
theorem Attended.takes
    (h : Attended env provider override workflowId executeAll before original u workflow)
    (hrow : u.db.workflows[workflowId]? = some workflow)
    (horiginal : before.workflows[workflowId]? = some original)
    (hstart : StaysActive env provider before executeAll override original)
    (hopen : workflow.status ∉ refusedStatuses executeAll)
    (hsingle : executeAll = false → u = ⟨before, []⟩) : nextPending workflow ≠ none := by
  intro hnone
  have hawaits : ¬∃ step ∈ workflow.steps,
      step.isPending = true ∧ step.stepType = .AWAIT_VERIFICATION := by
    rintro ⟨step, hstep, hpending, -⟩
    have hpassed : step.isPending = false := Table.find?_none.mp hnone step hstep
    rw [hpassed] at hpending
    cases hpending
  have hfirst : u ≠ ⟨before, []⟩ := by
    rintro rfl
    obtain rfl : workflow = original := Option.some.inj (hrow.symm.trans horiginal)
    rcases hstart with ⟨position, step, hnext, -⟩ | hpasses
    · rw [hnone] at hnext
      cases hnext
    · cases executeAll with
      | true => exact hawaits (hpasses.awaits rfl)
      | false => exact hpasses.takes rfl hnone
  cases executeAll with
  | true => exact hawaits (((h.goesOn rfl hopen).resolve_left hfirst).awaits rfl)
  | false => exact hfirst (hsingle rfl)

/-- The request keeps its workflow attended for as long as the case is left where it is. -/
theorem Attended.kept {case : RecoveryCase}
    (horiginal : before.workflows[workflowId]? = some original)
    (hcase : before.recoveryCases[original.caseId]? = some case)
    (hpending : case.state = .ACTION_PENDING)
    (hstart : original.status ∉ refusedStatuses executeAll →
      StaysActive env provider before executeAll override original) :
    KeptBySteps env provider workflowId executeAll override ⟨before, []⟩ fun u =>
      ∃ workflow, Driving env workflowId executeAll before original u workflow ∧
        (SameCases before u.db →
          Attended env provider override workflowId executeAll before original u workflow) := by
  rintro u workflow t ⟨found, hdriving, hattended⟩ hrow hopen hsingle hstepped
  obtain rfl : found = workflow := Option.some.inj (hdriving.workflowRow.symm.trans hrow)
  obtain ⟨after, hafter⟩ :=
    Driving.kept horiginal u found t ⟨found, hdriving⟩ hrow hopen hsingle hstepped
  refine ⟨after, hafter, fun hsame => ?_⟩
  have horiginally : u = ⟨before, []⟩ ∨ original.status ∉ refusedStatuses executeAll →
      original.status ∉ refusedStatuses executeAll := by
    rintro (rfl | hbegun)
    · obtain rfl : found = original := Option.some.inj (hrow.symm.trans horiginal)
      exact hopen
    · exact hbegun
  cases hstepped with
  | finished hnext =>
    have h := hattended hsame
    exact absurd hnext (h.takes hrow horiginal (hstart (horiginally h.begun)) hopen hsingle)
  | ran position step outcome t hnext hyields htook hsubmissions =>
    have hleft : outcome.target = none ∧ SameCases u.db t.db := by
      refine htook.moves.resolve_right ?_
      rintro ⟨target, row, htarget, hcarries, hcases⟩
      have hmoved : t.db.recoveryCases[found.caseId]? =
          some (CaseTransitionService.applyTransition env target row) := by
        rw [hcases, List.getElem?_modify_eq, hcarries.caseRow]
        rfl
      rw [hsame, hdriving.caseId, hcase, Option.some.injEq] at hmoved
      rw [hmoved] at hpending
      have hpending : target = .ACTION_PENDING := hpending
      rw [hpending] at htarget
      exact hyields.target_ne htarget
    obtain ⟨hstays, hcases⟩ := hleft
    have h := hattended (hcases.symm.trans hsame)
    have hopened := horiginally h.begun
    have hcarrying := h.carrying hrow horiginal (hstart hopened) hopen hsingle hnext hyields hstays
    obtain ⟨taken, hworkflows, htaken, -⟩ := htook.workflows
    have hlt : workflowId < u.db.workflows.length := (List.getElem?_eq_some_iff.mp hrow).1
    have hrow' : t.db.workflows[workflowId]? = some
        { found with
          status := outcome.workflowStatus, steps := found.steps.set position taken } := by
      rw [hworkflows, List.getElem?_set_self hlt]
    obtain rfl := Option.some.inj (hafter.workflowRow.symm.trans hrow')
    exact ⟨.inr hopened, hcarrying.active horiginal hsingle hnext hyields hstays,
      fun hall hgoes => .inr (hcarrying.took hdriving.wellLaid hnext hyields htook hsubmissions
        htaken hrow' hgoes)⟩

/-! ## The whole request -/

/-- What a request leaves of the tables besides its workflow. -/
structure Besides (workflowId : UUID) (before : Store) (original : RecoveryWorkflow) (u : Session)
    (workflow : RecoveryWorkflow) : Prop where
  workflowRow : u.db.workflows[workflowId]? = some workflow
  others : ∀ id, id ≠ workflowId → u.db.workflows[id]? = before.workflows[id]?
  policyDecisionId : workflow.policyDecisionId = original.policyDecisionId
  policyDecisions : u.db.policyDecisions = before.policyDecisions

theorem Besides.kept :
    KeptBySteps env provider workflowId executeAll override ⟨before, []⟩ fun u =>
      ∃ workflow, Besides workflowId before original u workflow := by
  rintro u workflow t ⟨found, h⟩ hrow - - hstepped
  obtain rfl : found = workflow := Option.some.inj (h.workflowRow.symm.trans hrow)
  have hlt : workflowId < u.db.workflows.length := (List.getElem?_eq_some_iff.mp hrow).1
  have hset : ∀ (after : RecoveryWorkflow), after.policyDecisionId = found.policyDecisionId →
      t.db.workflows = u.db.workflows.set workflowId after →
      t.db.policyDecisions = u.db.policyDecisions →
      ∃ workflow, Besides workflowId before original t workflow := by
    intro after hsame hworkflows hdecisions
    refine ⟨after, ?_, fun id hid => ?_, hsame.trans h.policyDecisionId,
      hdecisions.trans h.policyDecisions⟩
    · rw [hworkflows, List.getElem?_set_self hlt]
    · rw [hworkflows, List.getElem?_set_ne (Ne.symm hid)]
      exact h.others id hid
  cases hstepped with
  | finished hnext =>
    exact hset { found with status := .COMPLETED } rfl (Table.modify_eq_set hrow) rfl
  | ran position step outcome t hnext hyields htook hsubmissions =>
    obtain ⟨after, hworkflows, -, -⟩ := htook.workflows
    exact hset
      { found with
        status := outcome.workflowStatus, steps := found.steps.set position after }
      rfl hworkflows htook.policyDecisions

/-- What backs a case without the workflow goes on backing it. -/
theorem Besides.backsWithout (h : Besides workflowId before original u workflow)
    (horiginal : before.workflows[workflowId]? = some original)
    (hbacks : before.BacksWithout workflowId caseId) : u.db.BacksWithout workflowId caseId := by
  refine hbacks.imp (fun ⟨other, row, hne, hrow, hactive⟩ =>
    ⟨other, row, hne, (h.others other hne).trans hrow, hactive⟩) fun hunused => ?_
  refine hunused.of_rows (fun id row hrow => ?_) fun after hafter => ?_
  · rw [h.policyDecisions]
    exact hrow
  · obtain ⟨id, hid⟩ := List.mem_iff_getElem?.mp hafter
    by_cases hsame : id = workflowId
    · subst hsame
      obtain rfl : workflow = after := Option.some.inj (h.workflowRow.symm.trans hid)
      exact ⟨original, List.mem_of_getElem? horiginal, h.policyDecisionId⟩
    · rw [h.others id hsame] at hid
      exact ⟨after, List.mem_of_getElem? hid, rfl⟩

/-- A case that still waits for its action after an execution was backed before it, and is backed
after it unless the execution has ended its workflow. -/
theorem execute_backs {sent : List Submission} {x : Unit} {t : Session} {case : RecoveryCase}
    (hlaid : ∀ workflow, before.workflows[workflowId]? = some workflow → WellLaid workflow)
    (h : execute env provider workflowId executeAll override ⟨before, []⟩ = (sent, .ok (x, t)))
    (hstart : ∀ original case, before.workflows[workflowId]? = some original →
      original.status ∉ refusedStatuses executeAll →
      before.recoveryCases[original.caseId]? = some case → case.state = .ACTION_PENDING →
      ¬before.BacksWithout workflowId original.caseId →
      StaysActive env provider before executeAll override original)
    (hcase : before.recoveryCases[caseId]? = some case) (hpending : case.state = .ACTION_PENDING)
    {after : RecoveryCase} (hafter : t.db.recoveryCases[caseId]? = some after)
    (hstays : after.state = .ACTION_PENDING) (hbacks : before.Backs caseId) :
    t.db.Backs caseId := by
  obtain ⟨original, horiginal⟩ := execute_workflow h
  have hbeside : Besides workflowId before original ⟨before, []⟩ original :=
    ⟨horiginal, fun _ _ => rfl, rfl, rfl⟩
  obtain ⟨workflow, hbesides⟩ := execute_invariant Besides.kept ⟨original, hbeside⟩ h
  by_cases hwithout : before.BacksWithout workflowId caseId
  · exact (hbesides.backsWithout horiginal hwithout).backs
  obtain ⟨rfl, hactive⟩ := (hbacks.active_or_without horiginal).resolve_right hwithout
  have hattended : Attended env provider override workflowId executeAll before original
      ⟨before, []⟩ original := ⟨.inl rfl, hactive, fun _ _ => .inl rfl⟩
  obtain ⟨found, hdriving, hkept⟩ := execute_invariant
    (Attended.kept horiginal hcase hpending fun hopen =>
      hstart original case horiginal hopen hcase hpending hwithout)
    ⟨original, .start horiginal (hlaid original horiginal), fun _ => hattended⟩ h
  have hsame : SameCases before t.db := hdriving.moved.not_moved hafter hstays
  exact .inl ⟨workflowId, found, hdriving.workflowRow, hdriving.caseId, (hkept hsame).active⟩

end WorkflowExecutionService

end RevenueRescue
