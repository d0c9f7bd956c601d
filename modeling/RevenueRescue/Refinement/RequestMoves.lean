import RevenueRescue.Refinement.CaseMoves
import RevenueRescue.Refinement.Sequence

/-!
# Moves of a request

An execution request moves at most one case, that of its workflow, and at most once: a refused
validation stops or escalates it and ends the request, and after the answer to a dispatch no
other dispatch is cleared. A batch moves only cases that wait for their verification, each as
the rows before the batch have it. So the moves of every request are read off the rows before.
-/

namespace RevenueRescue

open Python

namespace WorkflowExecutionService

/-- The first step of the request is a validation that is refused, and the case is stopped. -/
structure StopsCase (env : Env) (s : Store) (workflowId : UUID) (executeAll : Bool)
    (workflow : RecoveryWorkflow) (case : RecoveryCase) : Prop where
  workflowRow : s.workflows[workflowId]? = some workflow
  running : workflow.status ∉ refusedStatuses executeAll
  refused : ∃ position step result, nextPending workflow = some (position, step) ∧
    step.stepType = .VALIDATE_AUTHORIZATION ∧
    WorkflowRevalidationService.revalidateForExecution env s workflow.caseId step.actionType =
      .ok result ∧ result.allowed = false ∧ isIn "UNKNOWN" result.reasonCode = false
  carries : CaseTransitionService.CarriesOut s workflow.caseId .STOPPED case

/-- The moves of an execution request. -/
def Moves (env : Env) (s : Store) (workflowId : UUID) (executeAll : Bool) (caseId : UUID)
    (case : RecoveryCase) (move : CaseMove) : Prop :=
  ∃ workflow, s.workflows[workflowId]? = some workflow ∧ workflow.caseId = caseId ∧
    move.toState ∈ CaseTransitionService.ALLOWED_TRANSITIONS case.state ∧ move.closes = false ∧
    (move.toState = .STOPPED ∧ StopsCase env s workflowId executeAll workflow case ∨
      move.toState ∈ [RecoveryCaseState.ESCALATED, .VERIFICATION_PENDING])

variable {env : Env} {provider : Provider} {workflowId : UUID} {executeAll : Bool}
  {override : Dict} {before : Store} {original : RecoveryWorkflow} {u t : Session}

/-- An execution has three targets. -/
theorem Moves.target {s : Store} {caseId : UUID} {case : RecoveryCase} {move : CaseMove}
    (h : Moves env s workflowId executeAll caseId case move) :
    move.toState ∈ [RecoveryCaseState.STOPPED, .ESCALATED, .VERIFICATION_PENDING] := by
  obtain ⟨-, -, -, -, -, ⟨hstopped, -⟩ | hother⟩ := h
  · rw [hstopped]
    exact List.mem_cons_self
  · exact List.mem_cons_of_mem _ hother

/-- The cases are as they were, or the one of the workflow made its move. -/
def MovedOnce (env : Env) (before : Store) (workflowId : UUID) (executeAll : Bool)
    (caseId : UUID) (s : Store) : Prop :=
  SameCases before s ∨ ∃ case toState, before.recoveryCases[caseId]? = some case ∧
    Moves env before workflowId executeAll caseId case ⟨toState, false⟩ ∧
    s.recoveryCases =
      before.recoveryCases.modify caseId (CaseTransitionService.applyTransition env toState)

/-- What holds after the first step of a request. -/
structure Driving (env : Env) (workflowId : UUID) (executeAll : Bool) (before : Store)
    (original : RecoveryWorkflow) (u : Session) (workflow : RecoveryWorkflow) : Prop where
  workflowRow : u.db.workflows[workflowId]? = some workflow
  caseId : workflow.caseId = original.caseId
  wellLaid : WellLaid workflow
  validated : u = ⟨before, []⟩ ∨ ∀ step ∈ workflow.steps, step.isPending = true →
    step.stepType ≠ .VALIDATE_AUTHORIZATION
  moved : MovedOnce env before workflowId executeAll original.caseId u.db

theorem Driving.start (hrow : before.workflows[workflowId]? = some original)
    (hlaid : WellLaid original) :
    Driving env workflowId executeAll before original ⟨before, []⟩ original :=
  ⟨hrow, rfl, hlaid, .inl rfl, .inl rfl⟩

/-- After a step was taken no validation is pending. -/
theorem WellLaid.validated {workflow : RecoveryWorkflow} {position : ℕ}
    {step after : WorkflowStep} (h : WellLaid workflow)
    (hnext : nextPending workflow = some (position, step)) (hdone : after.isPending = false) :
    ∀ one ∈ workflow.steps.set position after, one.isPending = true →
      one.stepType ≠ .VALIDATE_AUTHORIZATION := by
  intro one hone hpending htype
  obtain ⟨p, hp⟩ := List.mem_iff_getElem?.mp hone
  have hlt : position < workflow.steps.length :=
    (List.getElem?_eq_some_iff.mp (nextPending_some hnext).1).1
  by_cases hposition : p = position
  · subst hposition
    rw [List.getElem?_set_self hlt, Option.some.injEq] at hp
    rw [← hp, hdone] at hpending
    cases hpending
  · rw [List.getElem?_set_ne (Ne.symm hposition)] at hp
    obtain rfl : p = 0 := h.validateAt p one hp htype
    have hfirst : 0 < position := Nat.pos_of_ne_zero (Ne.symm hposition)
    exact Table.find?_first hnext hfirst hp hpending

/-- A case that was moved by an execution is not ready for another retry. -/
theorem MovedOnce.not_moved {caseId : UUID} {case : RecoveryCase} {s : Store}
    (h : MovedOnce env before workflowId executeAll caseId s)
    (hcase : s.recoveryCases[caseId]? = some case) (hpending : case.state = .ACTION_PENDING) :
    SameCases before s := by
  refine h.resolve_right ?_
  rintro ⟨was, toState, hwas, hmoves, hcases⟩
  rw [hcases, List.getElem?_modify_eq, hwas, Option.map_eq_map, Option.map_some,
    Option.some.injEq] at hcase
  rw [← hcase] at hpending
  have hstays : toState = .ACTION_PENDING := hpending
  subst hstays
  exact absurd hmoves.target (by decide)

/-- What a step moves, the request moves. -/
theorem Driving.moved_took {workflow : RecoveryWorkflow} {position : ℕ} {step : WorkflowStep}
    {outcome : StepOutcome} (h : Driving env workflowId executeAll before original u workflow)
    (horiginal : before.workflows[workflowId]? = some original)
    (hopen : workflow.status ∉ refusedStatuses executeAll)
    (hnext : nextPending workflow = some (position, step))
    (hyields : Yields env provider override u workflow.caseId step outcome)
    (htook : Took env workflowId u.db workflow position step outcome t.db) :
    MovedOnce env before workflowId executeAll original.caseId t.db := by
  rcases htook.moves with ⟨-, hcases⟩ | ⟨toState, case, htarget, hcarries, hcases⟩
  · rcases h.moved with hsame | ⟨was, toState, hwas, hmoves, hmoved⟩
    · exact .inl (hcases.trans hsame)
    · exact .inr ⟨was, toState, hwas, hmoves, hcases.trans hmoved⟩
  rw [h.caseId] at hcarries hcases
  cases hyields with
  | invalid htype result hreval hrefused =>
    -- only the first step of the request can be a validation
    have hstart : u = ⟨before, []⟩ := by
      refine h.validated.resolve_right fun hnone => ?_
      obtain ⟨hstep, hpending⟩ := nextPending_some hnext
      exact hnone step (List.mem_of_getElem? hstep) hpending htype
    subst hstart
    obtain rfl : workflow = original := Option.some.inj (h.workflowRow.symm.trans horiginal)
    refine .inr ⟨case, toState, hcarries.caseRow, ⟨workflow, horiginal, rfl, hcarries.allowed, rfl,
      ?_⟩, hcases⟩
    cases htarget
    unfold refusalTarget at hcarries ⊢
    cases hunknown : isIn "UNKNOWN" result.reasonCode with
    | true => exact .inr List.mem_cons_self
    | false =>
      rw [hunknown] at hcarries
      exact .inl ⟨rfl, horiginal, hopen, ⟨position, step, result, hnext, htype, hreval, hrefused,
        hunknown⟩, hcarries⟩
  | answered htype found txn customer hallowed res executed hanswered =>
    obtain ⟨⟨result, hreval, hpasses⟩, hcase, -, -⟩ := hallowed
    obtain ⟨cleared, hcleared⟩ :=
      WorkflowRevalidationService.revalidateForExecution_allowed hreval hpasses
    rw [h.caseId] at hcleared
    have hsame : SameCases before u.db :=
      h.moved.not_moved hcleared.caseRow hcleared.actionPending
    rw [hsame] at hcases
    have hwas : before.recoveryCases[original.caseId]? = some case := by
      rw [← hsame]
      exact hcarries.caseRow
    refine .inr ⟨case, toState, hwas, ⟨original, horiginal, rfl, hcarries.allowed, rfl,
      .inr ?_⟩, hcases⟩
    revert htarget
    cases res.status <;> intro htarget <;> cases htarget <;> decide
  | validated _ _ _ _ => cases htarget
  | carried _ => cases htarget
  | waiting _ => cases htarget
  | refused _ _ _ => cases htarget

/-- A request drives its workflow and moves its case at most once. -/
theorem Driving.kept (horiginal : before.workflows[workflowId]? = some original) :
    KeptBySteps env provider workflowId executeAll override ⟨before, []⟩ fun u =>
      ∃ workflow, Driving env workflowId executeAll before original u workflow := by
  rintro u workflow t ⟨found, h⟩ hrow hopen hsingle hstepped
  obtain rfl : found = workflow := Option.some.inj (h.workflowRow.symm.trans hrow)
  have hlt : workflowId < u.db.workflows.length := (List.getElem?_eq_some_iff.mp hrow).1
  cases hstepped with
  | finished hnext =>
    have hworkflows : (u.db.setWorkflowStatus workflowId .COMPLETED).workflows =
        u.db.workflows.set workflowId { found with status := .COMPLETED } :=
      Table.modify_eq_set hrow
    refine ⟨{ found with status := .COMPLETED }, ?_, h.caseId,
      ⟨h.wellLaid.indexed, h.wellLaid.validateAt, h.wellLaid.dispatchAt⟩,
      .inr fun step hstep hpending => ?_, h.moved⟩
    · rw [hworkflows, List.getElem?_set_self hlt]
    · have hpassed : step.isPending = false := Table.find?_none.mp hnext step hstep
      rw [hpassed] at hpending
      cases hpending
  | ran position step outcome t hnext hyields htook hsubmissions =>
    obtain ⟨after, hworkflows, hafter, hkept⟩ := htook.workflows
    refine ⟨{ found with
      status := outcome.workflowStatus, steps := found.steps.set position after }, ?_, h.caseId,
      h.wellLaid.set (nextPending_some hnext).1 hkept outcome.workflowStatus,
      .inr (WellLaid.validated h.wellLaid hnext (not_pending_of_outcome hafter)),
      h.moved_took horiginal hopen hnext hyields htook⟩
    rw [hworkflows, List.getElem?_set_self hlt]

/-- The cases after an execution request that ends normally. -/
theorem execute_casesMoved {sent : List Submission} {x : Unit}
    (hlaid : ∀ workflow, before.workflows[workflowId]? = some workflow → WellLaid workflow)
    (h : execute env provider workflowId executeAll override ⟨before, []⟩ = (sent, .ok (x, t))) :
    CasesMoved env.now (fun id case move => Moves env before workflowId executeAll id case move)
      before t.db := by
  obtain ⟨original, horiginal⟩ := execute_workflow h
  obtain ⟨workflow, hdriving⟩ := execute_invariant (Driving.kept horiginal)
    ⟨original, .start horiginal (hlaid original horiginal)⟩ h
  rcases hdriving.moved with hsame | ⟨case, toState, hcase, hmoves, hcases⟩
  · exact .of_same hsame
  · refine .of_move ⟨toState, false⟩ hcase hcases hmoves ⟨rfl, ?_⟩
    have hopen : toState ≠ .CLOSED := by
      rintro rfl
      exact absurd hmoves.target (by decide)
    exact if_neg hopen

end WorkflowExecutionService

/-! ## Batches -/

namespace PaymentReconciliationService

variable {env : Env} {provider : StatusProvider} {autoResolve : Bool} {caseId : UUID}
  {case : RecoveryCase} {txn : Transaction} {providerStatus : ExecutionStatus} {s t u : Store}

/-- The references under which the provider knows the transactions stay. -/
abbrev SameReferences : List Transaction → List Transaction → Prop :=
  Table.Evolves fun before after => after.externalTransactionId = before.externalTransactionId

instance : Std.Refl fun before after : Transaction =>
    after.externalTransactionId = before.externalTransactionId :=
  ⟨fun _ => rfl⟩

instance : IsTrans Transaction fun before after =>
    after.externalTransactionId = before.externalTransactionId :=
  ⟨fun _ _ _ h h' => h'.trans h⟩

/-- What the reconciliation of one case leaves to the others: their logs, and what the provider
is asked about. -/
structure Aside (caseId : UUID) (s t : Store) : Prop where
  transitions : ∀ other, other ≠ caseId → t.transitionsOf other = s.transitionsOf other
  audits : ∀ other, other ≠ caseId → t.auditsOf other = s.auditsOf other
  executions : t.executions = s.executions
  references : SameReferences s.transactions t.transactions

instance : Std.Refl (Aside caseId) := ⟨fun _ => ⟨fun _ _ => rfl, fun _ _ => rfl, rfl, .refl _⟩⟩

instance : IsTrans Store (Aside caseId) where
  trans _ _ _ h h' :=
    { transitions := fun other hne => (h'.transitions other hne).trans (h.transitions other hne)
      audits := fun other hne => (h'.audits other hne).trans (h.audits other hne)
      executions := h'.executions.trans h.executions
      references := h.references.trans h'.references }

theorem insertAudit_aside {row : AuditEvent} (hrow : row.caseId = caseId) :
    Tx.Respects (Aside caseId) s (insertAudit row) := by
  refine .of_ok fun _ _ h => ?_
  rw [insertAudit_ok h]
  refine ⟨fun _ _ => rfl, fun other hne => ?_, rfl, .refl _⟩
  simp [Store.auditsOf, hrow, hne.symm]

theorem insertTransition_aside {row : CaseStateTransition} (hrow : row.caseId = caseId) :
    Tx.Respects (Aside caseId) s (insertTransition row) := by
  refine .of_ok fun _ _ h => ?_
  rw [insertTransition_ok h]
  refine ⟨fun other hne => ?_, fun _ _ => rfl, rfl, .refl _⟩
  simp [Store.transitionsOf, hrow, hne.symm]

theorem Aside.modifyCase (f : RecoveryCase → RecoveryCase) :
    Aside caseId s (s.modifyCase caseId f) :=
  ⟨fun _ _ => rfl, fun _ _ => rfl, rfl, .refl _⟩

theorem Aside.setStatus (txId : UUID) (status : TransactionStatus) :
    Aside caseId s (s.modifyTransaction txId fun t => { t with status }) :=
  ⟨fun _ _ => rfl, fun _ _ => rfl, rfl, .modify _ _ _ fun _ _ => rfl⟩

theorem transition_aside (toState : RecoveryCaseState) (reasonCode : String)
    (actorType : ActorType) :
    Tx.Respects (Aside caseId) s
      (CaseTransitionService.transition env caseId toState reasonCode actorType) := by
  refine .get_bind ?_
  rcases s.recoveryCases[caseId]? with _ | case
  · exact .of_throw
  refine .ite (fun _ => ?_) fun _ => .of_throw
  refine .modify_bind (.modifyCase _) (.bind (insertTransition_aside rfl) fun _ _ _ _ => ?_)
  exact .bind (insertAudit_aside rfl) fun _ _ _ _ => .of_pure _

theorem compareAndResolve_aside :
    Tx.Respects (Aside caseId) s
      (compareAndResolve env autoResolve caseId case txn providerStatus) := by
  unfold compareAndResolve
  refine .ite (fun _ => ?_) fun _ => .ite (fun _ => ?_) fun _ => .ite (fun _ => ?_) fun _ =>
    .of_pure _
  · refine .ite (fun _ => .bind ?_ fun _ _ _ _ => .of_pure _) fun _ => .of_pure _
    refine .modify_bind (.setStatus _ _) (.ite (fun _ => .ite (fun _ => ?_) fun _ => ?_) fun _ =>
      .of_pure _)
    · exact .bind (transition_aside ..) fun _ _ _ _ => .of_pure _
    · exact .of_modify (.modifyCase _)
  · refine .ite (fun _ => .bind ?_ fun _ _ _ _ => .of_pure _) fun _ => .of_pure _
    refine .modify_bind (.setStatus _ _) (.ite (fun _ => ?_) fun _ => .of_pure _)
    exact .bind (transition_aside ..) fun _ _ _ _ => .of_pure _
  · refine .ite (fun _ => ?_) fun _ => .of_pure _
    exact .bind (transition_aside ..) fun _ _ _ _ => .of_pure _

theorem reconcileCase_aside :
    Tx.Respects (Aside caseId) s (reconcileCase env provider autoResolve caseId) := by
  refine .get_bind ?_
  rcases s.recoveryCases[caseId]? with _ | case
  · exact .of_throw
  dsimp only
  rcases s.transactions[case.triggerTransactionId]? with _ | txn
  · exact .of_throw
  dsimp only
  rcases providerStatusOf provider (providerReference s caseId txn) with fault | providerStatus
  · exact .of_throw
  refine .bind compareAndResolve_aside fun _ _ _ _ => ?_
  exact .bind (.get_bind (insertAudit_aside rfl)) fun _ _ _ _ => .get_bind (.of_pure _)

/-- What a batch has left of a case whose turn is still to come. -/
structure Untouched (caseId : UUID) (s u : Store) : Prop where
  caseRow : u.recoveryCases[caseId]? = s.recoveryCases[caseId]?
  transitions : u.transitionsOf caseId = s.transitionsOf caseId
  audits : u.auditsOf caseId = s.auditsOf caseId
  executions : u.executions = s.executions
  references : SameReferences s.transactions u.transactions
  unresolved : Table.Evolves (fun before after => Unresolved after → Unresolved before)
    s.transactions u.transactions

theorem Untouched.refl (caseId : UUID) (s : Store) : Untouched caseId s s :=
  ⟨rfl, rfl, rfl, rfl, .refl _, .refl _⟩

/-- The reconciliation of another case leaves it untouched. -/
theorem Untouched.of_other {other : UUID} (h : Untouched caseId s u) (hne : caseId ≠ other)
    (htouches : Touches other u t) (haside : Aside other u t) : Untouched caseId s t :=
  ⟨(htouches.others caseId hne).trans h.caseRow,
    (haside.transitions caseId hne).trans h.transitions,
    (haside.audits caseId hne).trans h.audits, haside.executions.trans h.executions,
    h.references.trans haside.references, h.unresolved.trans htouches.unresolved⟩

/-- A payment that the provider confirms for the case in its turn, it would have confirmed on the
rows before. -/
theorem Untouched.compares (h : Untouched caseId s u)
    (htrigger : case.triggerTransactionId < s.transactions.length)
    (hcompares : Compares provider u caseId case txn providerStatus) :
    ∃ was, Compares provider s caseId case was providerStatus ∧
      (Unresolved txn → Unresolved was) := by
  obtain ⟨hcase, htxn, hanswer⟩ := hcompares
  have hbefore := List.getElem?_eq_getElem htrigger
  obtain ⟨after, hafter, hreference⟩ := h.references.getElem? hbefore
  obtain ⟨after', hafter', hwas⟩ := h.unresolved.getElem? hbefore
  obtain rfl : txn = after := Option.some.inj (htxn.symm.trans hafter)
  obtain rfl : txn = after' := Option.some.inj (htxn.symm.trans hafter')
  refine ⟨_, ⟨h.caseRow ▸ hcase, hbefore, ?_⟩, hwas⟩
  rw [← hanswer]
  simp only [providerReference, Store.executionsOf, h.executions, hreference]

/-- A transition that is carried out in the turn of the case was so on the rows before. -/
theorem Untouched.carriesOut (h : Untouched caseId s u) {toState : RecoveryCaseState}
    (hcarries : CaseTransitionService.CarriesOut u caseId toState case) :
    CaseTransitionService.CarriesOut s caseId toState case := by
  obtain ⟨hcase, hallowed, hfree⟩ := hcarries
  refine ⟨h.caseRow ▸ hcase, hallowed, ?_⟩
  unfold Store.nextTransitionNumber Store.transitionNumbers Store.auditNumbers at hfree ⊢
  rw [h.transitions, h.audits] at hfree
  exact hfree

/-- The moves of a batch: a case that waits for its verification is moved through the table, and
it is recovered when the provider confirms a payment that is unresolved here. -/
def BatchMoves (provider : UUID → StatusProvider) (limit : ℕ) (s : Store) (caseId : UUID)
    (case : RecoveryCase) (move : CaseMove) : Prop :=
  caseId ∈ pendingCases s limit ∧ case.state = .VERIFICATION_PENDING ∧ move.closes = false ∧
    CaseTransitionService.CarriesOut s caseId move.toState case ∧
    (move.toState = .RECOVERED →
      ∃ txn, Compares (provider caseId) s caseId case txn .SUCCEEDED ∧ Unresolved txn)

/-- Only a payment that the provider confirms leads to a recovery. -/
theorem requestedTransition_recovered
    (h : requestedTransition autoResolve case txn providerStatus = some .RECOVERED) :
    Unresolved txn ∧ providerStatus = .SUCCEEDED := by
  unfold requestedTransition at h
  split_ifs at h with _ hsucceeded
  · exact hsucceeded
  all_goals cases h

/-- What a case was before its turn tells how the batch moves it. -/
theorem Untouched.batchMoves {provider : UUID → StatusProvider} {limit : ℕ} {move : CaseMove}
    (h : Untouched caseId s u)
    (hselected : caseId ∈ pendingCases s limit)
    (htriggers : ∀ case ∈ s.recoveryCases, case.triggerTransactionId < s.transactions.length)
    (hcase : s.recoveryCases[caseId]? = some case)
    (hmoves : Moves (provider caseId) true u caseId case move) :
    BatchMoves provider limit s caseId case move := by
  obtain ⟨waiting, hwaiting, hstate⟩ := mem_pendingCases hselected
  obtain rfl : waiting = case := Option.some.inj (hwaiting.symm.trans hcase)
  obtain ⟨txn, providerStatus, hcompares, ⟨toState, hrequested, hcarries, rfl⟩ |
    ⟨-, hverifying, -⟩⟩ := hmoves
  · refine ⟨hselected, hstate, rfl, h.carriesOut hcarries, fun hrecovered => ?_⟩
    obtain rfl : toState = .RECOVERED := hrecovered
    obtain ⟨hopen, rfl⟩ := requestedTransition_recovered hrequested
    obtain ⟨was, hwas, hunresolved⟩ :=
      h.compares (htriggers waiting (List.mem_of_getElem? hcase)) hcompares
    exact ⟨was, hwas, hunresolved hopen⟩
  · exact absurd hstate hverifying

/-- The cases after a batch, by the rule for batches. -/
theorem reconcilePendingCases_casesMoved {provider : UUID → StatusProvider} {limit : ℕ}
    (htriggers : ∀ case ∈ s.recoveryCases, case.triggerTransactionId < s.transactions.length) :
    CasesMoved env.now (BatchMoves provider limit s) s
      (reconcilePendingCases env provider limit s).1 := by
  let Reached : List UUID → Store → Prop := fun rest u =>
    rest.Nodup ∧ (∀ id ∈ rest, id ∈ pendingCases s limit) ∧ (∀ id ∈ rest, Untouched id s u) ∧
      CasesMoved env.now (BatchMoves provider limit s) s u
  refine reconcileEach_rule (P := Reached) (fun _ _ h => h.2.2.2) ?_ _
    ⟨pendingCases_nodup s limit, fun _ h => h, fun id _ => .refl id s, .of_same rfl⟩
  rintro id rest u report v ⟨hnodup, hselected, huntouched, hmoved⟩ hrun
  obtain ⟨hnew, hrest⟩ := List.nodup_cons.mp hnodup
  have hturn : Untouched id s u := huntouched id List.mem_cons_self
  have htouches : Touches id u v := (reconcileCase_touches env (provider id) true).related hrun
  have haside : Aside id u v := reconcileCase_aside.related hrun
  obtain ⟨case, txn, providerStatus, hcompares, hresolution⟩ := reconcileCase_resolution hrun
  have hone : CasesMoved env.now (fun id case move => Moves (provider id) true u id case move) u v :=
    hresolution.casesMoved hcompares fun _ hmove => hmove
  refine ⟨hrest, fun other hother => hselected other (List.mem_cons_of_mem _ hother),
    fun other hother => ?_, fun other row hrow => ?_, fun other after hafter hnone => ?_⟩
  · refine (huntouched other (List.mem_cons_of_mem _ hother)).of_other ?_ htouches haside
    rintro rfl
    exact hnew hother
  · by_cases hid : other = id
    · subst hid
      obtain ⟨after, hafter, hkept | ⟨move, hmove, hrewrites⟩⟩ :=
        hone.rows other row (hturn.caseRow ▸ hrow)
      · exact ⟨after, hafter, .inl hkept⟩
      · exact ⟨after, hafter, .inr ⟨move, hturn.batchMoves (hselected other List.mem_cons_self)
          htriggers hrow hmove, hrewrites⟩⟩
    · rw [htouches.others other hid]
      exact hmoved.rows other row hrow
  · by_cases hid : other = id
    · subst hid
      rw [← hturn.caseRow, hcompares.1] at hnone
      cases hnone
    · rw [htouches.others other hid] at hafter
      exact hmoved.opened other after hafter hnone

end PaymentReconciliationService

/-! ## Requests -/

/-- The move that a request makes with a case. -/
def Request.Moves (config : PolicyConfig) (w : World) (r : Request) (caseId : UUID)
    (case : RecoveryCase) (move : CaseMove) : Prop :=
  r.env.crash = false ∧
    match r.ask with
    | .operation op => op.Moves config r.env w.db caseId case move
    | .execute workflowId executeAll _ _ =>
      WorkflowExecutionService.Moves r.env w.db workflowId executeAll caseId case move
    | .reconcilePending provider limit =>
      PaymentReconciliationService.BatchMoves provider limit w.db caseId case move

/-- Every request leaves a case as it is or makes its move with it. -/
theorem World.step_casesMoved {config : PolicyConfig} {w : World} (hchain : Chain config w.db)
    (r : Request) :
    CasesMoved r.env.now (r.Moves config w) w.db (w.step config r).db := by
  obtain ⟨env, ask⟩ := r
  cases hcrash : env.crash with
  | true =>
    have hsame : (w.step config ⟨env, ask⟩).db = w.db := by
      cases ask with
      | operation op => exact if_pos hcrash
      | execute workflowId executeAll override provider =>
        rcases World.step_execute_db with hsame | ⟨sent, session, hrun, halive, -⟩
        · exact hsame
        · rw [hcrash] at halive
          cases halive
      | reconcilePending provider limit => exact if_pos hcrash
    exact .of_same (congrArg Store.recoveryCases hsame)
  | false =>
    cases ask with
    | operation op =>
      have hcommit : (w.step config ⟨env, .operation op⟩).db =
          (op.service config env).commit w.db :=
        if_neg (by rw [hcrash]; exact Bool.false_ne_true)
      rw [hcommit]
      exact (op.casesMoved config env w.db).mono fun _ _ _ hmove => ⟨hcrash, hmove⟩
    | execute workflowId executeAll override provider =>
      rcases World.step_execute_db with hsame | ⟨sent, session, hrun, -, hdb⟩
      · exact .of_same (congrArg Store.recoveryCases hsame)
      · rw [hdb]
        refine (WorkflowExecutionService.execute_casesMoved (fun workflow hrow => ?_) hrun).mono
          fun _ _ _ hmove => ⟨hcrash, hmove⟩
        exact (hchain.workflows workflowId workflow hrow).wellLaid
    | reconcilePending provider limit =>
      have hbatch : (w.step config ⟨env, .reconcilePending provider limit⟩).db =
          (PaymentReconciliationService.reconcilePendingCases env provider limit w.db).1 :=
        if_neg (by rw [hcrash]; exact Bool.false_ne_true)
      rw [hbatch]
      exact (PaymentReconciliationService.reconcilePendingCases_casesMoved hchain.triggers).mono
        fun _ _ _ hmove => ⟨hcrash, hmove⟩

end RevenueRescue
