import Mathlib.Logic.Relation
import RevenueRescue.Workflows.Creation
import RevenueRescue.Workflows.Execution
import RevenueRescue.Policy.Service

/-!
# Guarded writes

What the operations are for, seen from the database: a committed operation is a sequence of
single-row writes, and each write is subject to a guard. Rows of a transaction keep their
money and, once succeeded, their status; the state of a case only makes moves the system
allows; an approved decision is below the high-value threshold; a workflow is built on an
approved decision for its own case.

An `Authority` says which of the guarded writes an operation may make. The services are
shown to stay within their authority elsewhere; here it is defined what that buys.
-/

namespace RevenueRescue

open Python

/-- A move of `case.state` that some service makes: anywhere from a state that is not terminal,
out of `RECOVERED` and `STOPPED` by closing, and from `STOPPED` to `RECOVERED` when the money
arrives after all. -/
def MayMove (a b : RecoveryCaseState) : Prop :=
  a.isTerminal = false ∨ (a = .RECOVERED ∧ b = .CLOSED) ∨
    (a = .STOPPED ∧ (b = .CLOSED ∨ b = .RECOVERED))

instance (a b : RecoveryCaseState) : Decidable (MayMove a b) := by
  unfold MayMove; infer_instance

/-- What no write changes of a case, and how its state may change. -/
structure CaseKept (before after : RecoveryCase) : Prop where
  customerId : after.customerId = before.customerId
  triggerTransactionId : after.triggerTransactionId = before.triggerTransactionId
  caseKey : after.caseKey = before.caseKey
  state : after.state = before.state ∨ MayMove before.state after.state

/-- The number of failures that the metadata of a case record. -/
def RecoveryCase.failureCount (case : RecoveryCase) : Option Json :=
  case.metadataJson.lookup "failure_count"

/-- What a write may do to a case; `recovers` is the permission to move it to `RECOVERED`, and
`counts` the one to rewrite its number of failures. -/
structure CaseStep (recovers counts : Prop) (before after : RecoveryCase) : Prop
    extends CaseKept before after where
  recovered : after.state = .RECOVERED → before.state = .RECOVERED ∨ recovers
  counted : counts ∨ after.failureCount = before.failureCount

/-- What a write may do to a transaction. -/
structure TransactionStep (before after : Transaction) : Prop where
  customerId : after.customerId = before.customerId
  provider : after.provider = before.provider
  externalTransactionId : after.externalTransactionId = before.externalTransactionId
  amountMinor : after.amountMinor = before.amountMinor
  currency : after.currency = before.currency
  status : before.status = .SUCCEEDED → after.status = .SUCCEEDED

/-- A step that `execute_next_step` can still pick up. -/
def WorkflowStep.isPending (step : WorkflowStep) : Bool :=
  step.status == .PENDING || step.status == .SCHEDULED

/-- What a write may do to a workflow step: it never becomes pending again. -/
structure StepProgress (before after : WorkflowStep) : Prop where
  stepIndex : after.stepIndex = before.stepIndex
  stepType : after.stepType = before.stepType
  idempotencyKey : after.idempotencyKey = before.idempotencyKey
  actionType : after.actionType = before.actionType
  pending : after.isPending = true → before.isPending = true

/-- What a write may do to a workflow. -/
structure WorkflowProgress (before after : RecoveryWorkflow) : Prop where
  caseId : after.caseId = before.caseId
  policyDecisionId : after.policyDecisionId = before.policyDecisionId
  expiresAt : after.expiresAt = before.expiresAt
  length : after.steps.length = before.steps.length
  steps : Table.Evolves StepProgress before.steps after.steps

/-- What a write may do to an attempt. -/
structure AttemptStep (before after : RecoveryAttempt) : Prop where
  caseId : after.caseId = before.caseId
  sequenceNumber : after.sequenceNumber = before.sequenceNumber
  idempotencyKey : after.idempotencyKey = before.idempotencyKey

/-- What a write may do to a receipt: which event it is for and what it said stay. -/
structure ReceiptStep (before after : ProviderWebhookEvent) : Prop where
  provider : after.provider = before.provider
  externalEventId : after.externalEventId = before.externalEventId
  payloadHash : after.payloadHash = before.payloadHash

/-- What an operation may write beyond what every operation may. -/
structure Authority where
  config : PolicyConfig
  /-- Audit records continue the numbering of the case's log. -/
  numbered : Prop
  /-- The cases for which a policy decision may be recorded. -/
  decides : UUID → Prop
  /-- The cases that may be moved to `RECOVERED`. -/
  recovers : UUID → Prop
  /-- The numbers of failures of the cases may be rewritten. -/
  counts : Prop
  /-- The decisions on which a workflow may be built. -/
  creates : UUID → Prop
  /-- The workflows that may make progress, and to whose executions rows may be added. -/
  executes : UUID → Prop

/-- An approval is only recorded for an exposure below the high-value threshold. -/
def Approvable (config : PolicyConfig) (s : Store) (row : PolicyDecision) : Prop :=
  row.decisionStatus = .APPROVED →
    ∃ case, s.recoveryCases[row.caseId]? = some case ∧
      ∀ txn, s.transactions[case.triggerTransactionId]? = some txn →
        config.isHighValue txn.amountMinor txn.currency.code = false

/-- A workflow is built from an approved decision for its case and nothing else. -/
def BuiltOn (s : Store) (row : RecoveryWorkflow) : Prop :=
  ∃ decision cooldownHours, s.policyDecisions[row.policyDecisionId]? = some decision ∧
    decision.decisionStatus = .APPROVED ∧ decision.caseId = row.caseId ∧
    row.steps = WorkflowCreationService.buildSteps s.workflows.length decision.proposedAction
      cooldownHours

/-- The keys of a new workflow's steps are new and distinct. -/
def FreshKeys (s : Store) (row : RecoveryWorkflow) : Prop :=
  (row.steps.map WorkflowStep.idempotencyKey).Nodup ∧
    ∀ step ∈ row.steps, step.idempotencyKey ∉ s.stepKeys

/-- An execution belongs to a step that is no longer pending. -/
def Underway (s : Store) (row : RecoveryExecution) : Prop :=
  ∃ (workflow : RecoveryWorkflow) (position : ℕ) (step : WorkflowStep),
    s.workflows[row.workflowId]? = some workflow ∧ workflow.steps[position]? = some step ∧
    step.isPending = false ∧ step.idempotencyKey = row.idempotencyKey

/-- What the provider knows a transaction by. -/
def Transaction.reference (txn : Transaction) : String × String :=
  (txn.provider, txn.externalTransactionId)

/-- The references of all transactions. -/
def Store.references (s : Store) : List (String × String) :=
  s.transactions.map Transaction.reference

/-- One write within an authority. -/
inductive Write (A : Authority) : Store → Store → Prop
  | addCustomer (s : Store) (row : Customer) :
    Write A s { s with customers := s.customers ++ [row] }
  | setCustomer (s : Store) (id : UUID) (f : Customer → Customer) : Write A s (s.modifyCustomer id f)
  | addConsent (s : Store) (row : CustomerConsent) :
    Write A s { s with consents := s.consents ++ [row] }
  | setConsent (s : Store) (id : UUID) (f : CustomerConsent → CustomerConsent) :
    Write A s (s.modifyConsent id f)
  | addTransaction (s : Store) (row : Transaction) (hfree : row.reference ∉ s.references) :
    Write A s { s with transactions := s.transactions ++ [row] }
  | setTransaction (s : Store) (id : UUID) (f : Transaction → Transaction)
      (h : ∀ t, s.transactions[id]? = some t → TransactionStep t (f t)) :
    Write A s (s.modifyTransaction id f)
  | addCase (s : Store) (row : RecoveryCase) (hstate : row.state = .DETECTED)
      (htrigger : row.triggerTransactionId < s.transactions.length) :
    Write A s { s with recoveryCases := s.recoveryCases ++ [row] }
  | setCase (s : Store) (id : UUID) (f : RecoveryCase → RecoveryCase)
      (h : ∀ c, s.recoveryCases[id]? = some c → CaseStep (A.recovers id) A.counts c (f c)) :
    Write A s (s.modifyCase id f)
  | addAttempt (s : Store) (row : RecoveryAttempt) (hexecutes : ∃ id, A.executes id) :
    Write A s { s with attempts := s.attempts ++ [row] }
  | setAttempt (s : Store) (id : UUID) (f : RecoveryAttempt → RecoveryAttempt)
      (h : ∀ a, AttemptStep a (f a)) : Write A s (s.modifyAttempt id f)
  | addDecision (s : Store) (row : AgentDecision) :
    Write A s { s with decisions := s.decisions ++ [row] }
  | setDecision (s : Store) (id : UUID) (f : AgentDecision → AgentDecision)
      (h : ∀ d, (f d).caseId = d.caseId) : Write A s (s.modifyDecision id f)
  | addPolicyDecision (s : Store) (row : PolicyDecision) (hcase : A.decides row.caseId)
      (happrovable : Approvable A.config s row) :
    Write A s { s with policyDecisions := s.policyDecisions ++ [row] }
  | addAudit (s : Store) (row : AuditEvent)
      (h : A.numbered → row.sequenceNumber = s.nextAuditNumber row.caseId) :
    Write A s { s with auditEvents := s.auditEvents ++ [row] }
  | addTransition (s : Store) (row : CaseStateTransition)
      (hcase : row.caseId < s.recoveryCases.length) :
    Write A s { s with transitions := s.transitions ++ [row] }
  | addWebhookEvent (s : Store) (row : ProviderWebhookEvent) :
    Write A s { s with webhookEvents := s.webhookEvents ++ [row] }
  | setWebhookEvent (s : Store) (id : UUID) (f : ProviderWebhookEvent → ProviderWebhookEvent)
      (h : ∀ e, ReceiptStep e (f e)) : Write A s (s.modifyWebhookEvent id f)
  | addWorkflow (s : Store) (row : RecoveryWorkflow) (hcreates : A.creates row.policyDecisionId)
      (hbuilt : BuiltOn s row) (hkeys : FreshKeys s row) :
    Write A s { s with workflows := s.workflows ++ [row] }
  | setWorkflow (s : Store) (id : UUID) (f : RecoveryWorkflow → RecoveryWorkflow)
      (hexecutes : A.executes id) (h : ∀ w, WorkflowProgress w (f w)) :
    Write A s (s.modifyWorkflow id f)
  | addExecution (s : Store) (row : RecoveryExecution) (hexecutes : A.executes row.workflowId)
      (hunderway : Underway s row) :
    Write A s { s with executions := s.executions ++ [row] }

/-- A sequence of writes within an authority. -/
abbrev Writes (A : Authority) : Store → Store → Prop := Relation.ReflTransGen (Write A)

/-- One authority permits what another one does. -/
structure Authority.Le (A B : Authority) : Prop where
  config : A.config = B.config
  numbered : B.numbered → A.numbered
  decides : ∀ id, A.decides id → B.decides id
  recovers : ∀ id, A.recovers id → B.recovers id
  counts : A.counts → B.counts
  creates : ∀ id, A.creates id → B.creates id
  executes : ∀ id, A.executes id → B.executes id

theorem Write.mono {A B : Authority} (hle : A.Le B) {s t : Store} (h : Write A s t) :
    Write B s t := by
  cases h with
  | addCustomer row => exact .addCustomer s row
  | setCustomer id f => exact .setCustomer s id f
  | addConsent row => exact .addConsent s row
  | setConsent id f => exact .setConsent s id f
  | addTransaction row hfree => exact .addTransaction s row hfree
  | setTransaction id f h => exact .setTransaction s id f h
  | addCase row hstate htrigger => exact .addCase s row hstate htrigger
  | setCase id f h =>
    refine .setCase s id f fun c hc => ?_
    exact { h c hc with
      recovered := fun hr => ((h c hc).recovered hr).imp_right (hle.recovers id)
      counted := (h c hc).counted.imp_left hle.counts }
  | addAttempt row hexecutes => exact .addAttempt s row (hexecutes.imp hle.executes)
  | setAttempt id f h => exact .setAttempt s id f h
  | addDecision row => exact .addDecision s row
  | setDecision id f h => exact .setDecision s id f h
  | addPolicyDecision row hcase happrovable =>
    exact .addPolicyDecision s row (hle.decides _ hcase) (hle.config ▸ happrovable)
  | addAudit row h => exact .addAudit s row fun hn => h (hle.numbered hn)
  | addTransition row hcase => exact .addTransition s row hcase
  | addWebhookEvent row => exact .addWebhookEvent s row
  | setWebhookEvent id f h => exact .setWebhookEvent s id f h
  | addWorkflow row hcreates hbuilt hkeys =>
    exact .addWorkflow s row (hle.creates _ hcreates) hbuilt hkeys
  | setWorkflow id f hexecutes h => exact .setWorkflow s id f (hle.executes _ hexecutes) h
  | addExecution row hexecutes hunderway =>
    exact .addExecution s row (hle.executes _ hexecutes) hunderway

theorem Writes.mono {A B : Authority} (hle : A.Le B) {s t : Store} (h : Writes A s t) :
    Writes B s t :=
  Relation.ReflTransGen.mono (fun _ _ => Write.mono hle) _ _ h

/-! ## What any sequence of writes keeps -/

instance : Std.Refl CaseKept := ⟨fun _ => ⟨rfl, rfl, rfl, .inl rfl⟩⟩

/-- From a terminal state a case only moves to terminal states, and `CLOSED` is final. -/
theorem MayMove.trans {a b c : RecoveryCaseState} (hab : MayMove a b) (hbc : MayMove b c) :
    MayMove a c := by
  rcases hab with ha | ⟨ha, rfl⟩ | ⟨ha, rfl | rfl⟩
  · exact .inl ha
  · exact absurd hbc (by cases c <;> decide)
  · exact absurd hbc (by cases c <;> decide)
  · rcases hbc with hb | ⟨-, rfl⟩ | ⟨hb, -⟩
    · exact absurd hb (by decide)
    · exact .inr (.inr ⟨ha, .inl rfl⟩)
    · exact absurd hb (by decide)

instance : IsTrans RecoveryCase CaseKept where
  trans _ _ _ hab hbc :=
    { customerId := hbc.customerId.trans hab.customerId
      triggerTransactionId := hbc.triggerTransactionId.trans hab.triggerTransactionId
      caseKey := hbc.caseKey.trans hab.caseKey
      state := by
        rcases hab.state with h | h
        · exact h ▸ hbc.state
        · rcases hbc.state with h' | h'
          · exact .inr (h' ▸ h)
          · exact .inr (h.trans h') }

instance : Std.Refl TransactionStep := ⟨fun _ => ⟨rfl, rfl, rfl, rfl, rfl, fun h => h⟩⟩

instance : IsTrans Transaction TransactionStep where
  trans _ _ _ hab hbc :=
    { customerId := hbc.customerId.trans hab.customerId
      provider := hbc.provider.trans hab.provider
      externalTransactionId := hbc.externalTransactionId.trans hab.externalTransactionId
      amountMinor := hbc.amountMinor.trans hab.amountMinor
      currency := hbc.currency.trans hab.currency
      status := fun h => hbc.status (hab.status h) }

instance : Std.Refl StepProgress := ⟨fun _ => ⟨rfl, rfl, rfl, rfl, fun h => h⟩⟩

instance : IsTrans WorkflowStep StepProgress where
  trans _ _ _ hab hbc :=
    { stepIndex := hbc.stepIndex.trans hab.stepIndex
      stepType := hbc.stepType.trans hab.stepType
      idempotencyKey := hbc.idempotencyKey.trans hab.idempotencyKey
      actionType := hbc.actionType.trans hab.actionType
      pending := fun h => hab.pending (hbc.pending h) }

instance : Std.Refl WorkflowProgress := ⟨fun w => ⟨rfl, rfl, rfl, rfl, .refl w.steps⟩⟩

instance : IsTrans RecoveryWorkflow WorkflowProgress where
  trans _ _ _ hab hbc :=
    { caseId := hbc.caseId.trans hab.caseId
      policyDecisionId := hbc.policyDecisionId.trans hab.policyDecisionId
      expiresAt := hbc.expiresAt.trans hab.expiresAt
      length := hbc.length.trans hab.length
      steps := hab.steps.trans hbc.steps }

/-- A step of a workflow that made progress was there before. -/
theorem WorkflowProgress.step_before {before after : RecoveryWorkflow}
    (h : WorkflowProgress before after) {position : ℕ} {step' : WorkflowStep}
    (hstep' : after.steps[position]? = some step') :
    ∃ step, before.steps[position]? = some step ∧ StepProgress step step' :=
  h.steps.row_before h.length hstep'

instance : Std.Refl AttemptStep := ⟨fun _ => ⟨rfl, rfl, rfl⟩⟩

instance : IsTrans RecoveryAttempt AttemptStep where
  trans _ _ _ hab hbc :=
    { caseId := hbc.caseId.trans hab.caseId
      sequenceNumber := hbc.sequenceNumber.trans hab.sequenceNumber
      idempotencyKey := hbc.idempotencyKey.trans hab.idempotencyKey }

instance : Std.Refl ReceiptStep := ⟨fun _ => ⟨rfl, rfl, rfl⟩⟩

instance : IsTrans ProviderWebhookEvent ReceiptStep where
  trans _ _ _ hab hbc :=
    { provider := hbc.provider.trans hab.provider
      externalEventId := hbc.externalEventId.trans hab.externalEventId
      payloadHash := hbc.payloadHash.trans hab.payloadHash }

/-- No row is lost, and the rows that authority rests on evolve as their relations allow. -/
structure Evolved (s t : Store) : Prop where
  transactions : Table.Evolves TransactionStep s.transactions t.transactions
  recoveryCases : Table.Evolves CaseKept s.recoveryCases t.recoveryCases
  policyDecisions : Table.Evolves Eq s.policyDecisions t.policyDecisions
  workflows : Table.Evolves WorkflowProgress s.workflows t.workflows
  attempts : Table.Evolves AttemptStep s.attempts t.attempts
  webhookEvents : Table.Evolves ReceiptStep s.webhookEvents t.webhookEvents

theorem Evolved.refl (s : Store) : Evolved s s :=
  ⟨.refl _, .refl _, .refl _, .refl _, .refl _, .refl _⟩

theorem Evolved.trans {s t u : Store} (h : Evolved s t) (h' : Evolved t u) : Evolved s u :=
  ⟨h.transactions.trans h'.transactions, h.recoveryCases.trans h'.recoveryCases,
    h.policyDecisions.trans h'.policyDecisions, h.workflows.trans h'.workflows,
    h.attempts.trans h'.attempts, h.webhookEvents.trans h'.webhookEvents⟩

theorem Write.evolved {A : Authority} {s t : Store} (h : Write A s t) : Evolved s t := by
  cases h with
  | addTransaction row => exact { Evolved.refl s with transactions := .append _ _ }
  | setTransaction id f h => exact { Evolved.refl s with transactions := .modify _ id f h }
  | addCase row => exact { Evolved.refl s with recoveryCases := .append _ _ }
  | setCase id f h =>
    exact { Evolved.refl s with recoveryCases := .modify _ id f fun c hc => (h c hc).toCaseKept }
  | addAttempt row => exact { Evolved.refl s with attempts := .append _ _ }
  | setAttempt id f h => exact { Evolved.refl s with attempts := .modify _ id f fun a _ => h a }
  | addPolicyDecision row => exact { Evolved.refl s with policyDecisions := .append _ _ }
  | addWebhookEvent row => exact { Evolved.refl s with webhookEvents := .append _ _ }
  | setWebhookEvent id f h =>
    exact { Evolved.refl s with webhookEvents := .modify _ id f fun e _ => h e }
  | addWorkflow row => exact { Evolved.refl s with workflows := .append _ _ }
  | setWorkflow id f _ h => exact { Evolved.refl s with workflows := .modify _ id f fun w _ => h w }
  | _ => exact { Evolved.refl s with }

theorem Writes.evolved {A : Authority} {s t : Store} (h : Writes A s t) : Evolved s t := by
  induction h with
  | refl => exact Evolved.refl s
  | tail _ hstep ih => exact ih.trans hstep.evolved

/-! ## What the guards keep -/

/-- The audit log of every case is numbered `1, 2, …` in the order of writing. -/
def AuditLogsDense (s : Store) : Prop := ∀ caseId, Numbering.Dense (s.auditNumbers caseId)

theorem Write.auditLogsDense {A : Authority} (hn : A.numbered) {s t : Store} (h : Write A s t)
    (hs : AuditLogsDense s) : AuditLogsDense t := by
  cases h with
  | addAudit row hrow =>
    intro caseId
    have hnumbers : Store.auditNumbers { s with auditEvents := s.auditEvents ++ [row] } caseId =
        s.auditNumbers caseId ++ if row.caseId = caseId then [row.sequenceNumber] else [] := by
      by_cases hcase : row.caseId = caseId <;>
        simp [Store.auditNumbers, Store.auditsOf, List.filter_append, hcase]
    rw [hnumbers]
    by_cases hcase : row.caseId = caseId
    · rw [if_pos hcase, hrow hn, hcase]
      exact (hs caseId).append_next
    · rw [if_neg hcase, List.append_nil]
      exact hs caseId
  | _ => exact hs

theorem Writes.auditLogsDense {A : Authority} (hn : A.numbered) {s t : Store} (h : Writes A s t)
    (hs : AuditLogsDense s) : AuditLogsDense t := by
  induction h with
  | refl => exact hs
  | tail _ hstep ih => exact hstep.auditLogsDense hn ih

/-- No two transactions share a reference. -/
theorem Writes.references_nodup {A : Authority} {s t : Store} (h : Writes A s t)
    (hs : s.references.Nodup) : t.references.Nodup := by
  induction h with
  | refl => exact hs
  | @tail u v _ hstep ih =>
    cases hstep with
    | addTransaction row hfree =>
      unfold Store.references
      rw [List.map_append, List.map_singleton]
      exact List.nodup_append.mpr ⟨ih, List.nodup_singleton _, fun a ha b hb hab => by
        rw [List.mem_singleton.mp hb] at hab
        exact hfree (hab ▸ ha)⟩
    | setTransaction id f hf =>
      have hcolumn : (u.transactions.modify id f).map Transaction.reference = u.references :=
        Table.map_modify_row fun txn hrow =>
          Prod.ext (hf txn hrow).provider (hf txn hrow).externalTransactionId
      unfold Store.references Store.modifyTransaction
      rw [hcolumn]
      exact ih
    | _ => exact ih

/-- The entries of the transition log are about cases that exist. -/
def TransitionsKnown (s : Store) : Prop :=
  ∀ entry ∈ s.transitions, entry.caseId < s.recoveryCases.length

/-- The log of a case that is yet to be opened is empty. -/
theorem TransitionsKnown.transitionNumbers_eq_nil {s : Store} (h : TransitionsKnown s) :
    s.transitionNumbers s.recoveryCases.length = [] := by
  unfold Store.transitionNumbers Store.transitionsOf
  rw [List.map_eq_nil_iff, List.filter_eq_nil_iff]
  intro entry hentry hcase
  exact Nat.ne_of_lt (h entry hentry) (beq_iff_eq.mp hcase)

theorem Writes.transitionsKnown {A : Authority} {s t : Store} (h : Writes A s t)
    (hs : TransitionsKnown s) : TransitionsKnown t := by
  induction h with
  | refl => exact hs
  | @tail u v _ hstep ih =>
    cases hstep with
    | addCase row _ _ =>
      intro entry hentry
      dsimp only
      rw [List.length_append]
      exact Nat.lt_add_right _ (ih entry hentry)
    | setCase id f _ =>
      intro entry hentry
      unfold Store.modifyCase
      rw [List.length_modify]
      exact ih entry hentry
    | addTransition row hcase =>
      intro entry hentry
      rcases List.mem_append.mp hentry with hold | hnew
      · exact ih entry hold
      · rw [List.mem_singleton.mp hnew]
        exact hcase
    | _ => exact ih

/-- Without the authority to execute no execution is recorded. -/
theorem Writes.executions_eq {A : Authority} (hidle : ∀ id, ¬A.executes id) {s t : Store}
    (h : Writes A s t) : t.executions = s.executions := by
  induction h with
  | refl => rfl
  | tail _ hstep ih =>
    cases hstep with
    | addExecution row hexecutes => exact absurd hexecutes (hidle _)
    | _ => exact ih

end RevenueRescue
