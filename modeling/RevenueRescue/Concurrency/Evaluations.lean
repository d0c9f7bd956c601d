import RevenueRescue.Base.ReadCommitted
import RevenueRescue.Refinement.Evaluations

/-!
# Policy evaluations as sequences of statements

`PolicyEngineService.evaluate`, statement by statement. The sessions are made with
`autoflush=False`: all queries come first, each of them on what is committed by then, and the
writes are sent together at the end. The index of the idempotency key is not unique, so of the
writes only the entries of the two logs can violate a constraint.

Alone on the database, the statements do what the service method does.
-/

namespace RevenueRescue

open ReadCommitted PolicyEngineService

/-- What a statement of an evaluation locks: a row, or a number in a log. -/
inductive EvaluationLock where
  | recoveryCase (id : UUID)
  | decision (id : UUID)
  | policyDecision (id : UUID)
  | transitionNumber (caseId : UUID) (sequenceNumber : ℕ)
  | auditNumber (caseId : UUID) (sequenceNumber : ℕ)
  deriving DecidableEq, Repr

/-- The queries whose place among the commits matters. -/
inductive EvaluationQuery where
  | idempotencyKey
  | auditNumber
  deriving DecidableEq, Repr

/-- A statement of an evaluation that writes. -/
abbrev EvaluationWrite : Type := Update Store Fault EvaluationLock

/-- The statements of an evaluation. -/
abbrev EvaluationStatements (α : Type) : Type :=
  Program Store Fault EvaluationLock EvaluationQuery α

namespace EvaluationWrite

/-- The check of a unique constraint. -/
def unique (taken : Bool) (constraint : Constraint) : Option Fault :=
  if taken then some (.integrityError constraint) else none

def updateCase (id : UUID) (f : RecoveryCase → RecoveryCase) : EvaluationWrite where
  lock := .recoveryCase id
  violation _ := none
  apply s := s.modifyCase id f

def updateDecision (id : UUID) (f : AgentDecision → AgentDecision) : EvaluationWrite where
  lock := .decision id
  violation _ := none
  apply s := s.modifyDecision id f

def insertPolicyDecision (id : UUID) (row : PolicyDecision) : EvaluationWrite where
  lock := .policyDecision id
  violation _ := none
  apply s := { s with policyDecisions := s.policyDecisions ++ [row] }

def insertTransition (row : CaseStateTransition) : EvaluationWrite where
  lock := .transitionNumber row.caseId row.sequenceNumber
  violation s := unique ((s.transitionNumbers row.caseId).contains row.sequenceNumber)
    .uq_transition_case_sequence
  apply s := { s with transitions := s.transitions ++ [row] }

def insertAudit (row : AuditEvent) : EvaluationWrite where
  lock := .auditNumber row.caseId row.sequenceNumber
  violation s := unique ((s.auditNumbers row.caseId).contains row.sequenceNumber)
    .uq_audit_case_sequence
  apply s := { s with auditEvents := s.auditEvents ++ [row] }

@[simp] theorem unique_eq_none {taken : Bool} {constraint : Constraint} :
    unique taken constraint = none ↔ taken = false := by
  cases taken <;> simp [unique]

end EvaluationWrite

namespace EvaluationStatements

/-! ## The writes -/

/-- A decision that was reached, with the rows it was reached on and the number of the transition
that it asks for, if it moves the case. -/
structure Draft where
  env : Env
  drawn : UUID
  request : PolicyEvaluationRequest
  case : RecoveryCase
  recommendation : AgentDecision
  decision : PolicyDecision
  transitionNumber : Option ℕ

namespace Draft

/-- The state of the case after the decision. -/
def toState (d : Draft) : RecoveryCaseState :=
  stateAfter d.decision.decisionStatus d.case d.decision.reasonsJson

/-- The columns that the policy's transition sets, on the row that is there by then. -/
def setMoved (d : Draft) (row : RecoveryCase) : RecoveryCase :=
  { PolicyEngineService.applyTransition d.env d.toState row with version := d.case.version + 1 }

/-- The entry of the transition log. -/
def transitionRow (d : Draft) (sequenceNumber : ℕ) : CaseStateTransition :=
  { caseId := d.request.caseId, fromState := some d.case.state, toState := d.toState
    reasonCode := d.decision.reasonsJson.headD "POLICY_EVALUATION"
    actorType := d.request.actorType, occurredAt := d.env.now.naive, sequenceNumber }

/-- The record of the audit log. -/
def auditRow (d : Draft) (sequenceNumber : ℕ) : AuditEvent :=
  { caseId := d.request.caseId, eventType := "POLICY_EVALUATION_COMPLETED"
    fromState := some d.case.state, toState := some d.toState, actorType := d.request.actorType
    eventTime := d.env.now.naive, sequenceNumber }

/-- The writes before the audit record. The verdict on the recommendation is sent only when it
changes the row that was loaded. -/
def decisionWrites (d : Draft) : List EvaluationWrite :=
  let status := d.decision.decisionStatus
  let moved := (d.transitionNumber.map fun _ =>
    EvaluationWrite.updateCase d.request.caseId d.setMoved).toList
  let verdict :=
    if mapPolicyToValidationStatus status = d.recommendation.validationStatus then []
    else [EvaluationWrite.updateDecision d.request.recommendationId (validated status)]
  let logged := (d.transitionNumber.map fun n =>
    EvaluationWrite.insertTransition (d.transitionRow n)).toList
  moved ++ verdict ++ [EvaluationWrite.insertPolicyDecision d.drawn d.decision] ++ logged

/-- All writes, with the number of the audit record. -/
def writes (d : Draft) (auditNumber : ℕ) : List EvaluationWrite :=
  d.decisionWrites ++ [EvaluationWrite.insertAudit (d.auditRow auditNumber)]

end Draft

/-! ## The statements -/

/-- A query that may be asked at any time. -/
def read {α : Type} (found : Store → α) : EvaluationStatements α :=
  .query (fun _ => none) fun s => .done (found s)

/-- The query for the audit number, and the writes with it. -/
def record (d : Draft) (result : PolicyEvaluationResult) :
    EvaluationStatements PolicyEvaluationResult :=
  .query (fun _ => some .auditNumber) fun s =>
    .flushAll (d.writes (s.nextAuditNumber d.request.caseId)) result

/-- The decision, and the query for the transition number if it moves the case. -/
def conclude (env : Env) (config : PolicyConfig) (drawn : UUID) (request : PolicyEvaluationRequest)
    (case : RecoveryCase) (recommendation : AgentDecision) (results : List RuleCheckResult) :
    EvaluationStatements PolicyEvaluationResult := do
  let decision := PolicyEngineService.decision env config request case recommendation results
  let result := newResult env decision results
  if stateAfter decision.decisionStatus case decision.reasonsJson = case.state then
    record ⟨env, drawn, request, case, recommendation, decision, none⟩ result
  else do
    let transitionNumber ← read (·.nextTransitionNumber request.caseId)
    record ⟨env, drawn, request, case, recommendation, decision, some transitionNumber⟩ result

/-- The rows that the rules read, each table as its query found it. -/
def rowsRead (transactions attempts customers consents : Store) : Store :=
  { transactions with
    attempts := attempts.attempts, customers := customers.customers, consents := consents.consents }

/-- The evaluation of a stored case and recommendation. -/
def evaluateLoaded (env : Env) (config : PolicyConfig) (drawn : UUID)
    (request : PolicyEvaluationRequest) (case : RecoveryCase) (recommendation : AgentDecision) :
    EvaluationStatements PolicyEvaluationResult := do
  let transactions ← read id
  let attempts ← read id
  let customers ← read id
  let consents ← read id
  match ruleResults env config (rowsRead transactions attempts customers consents) request case
      recommendation (request.proposedAction.getD recommendation.actionType) with
  | .error fault => .fail fault
  | .ok results => conclude env config drawn request case recommendation results

/-- The evaluation of a request that repeats no decision. -/
def evaluateNew (env : Env) (config : PolicyConfig) (drawn : UUID)
    (request : PolicyEvaluationRequest) : EvaluationStatements PolicyEvaluationResult := do
  let case ← read (·.recoveryCases[request.caseId]?)
  let recommendation ← read (·.decisions[request.recommendationId]?)
  match case, recommendation with
  | none, _ => pure (buildSyntheticResult env config request true)
  | some _, none => pure (buildSyntheticResult env config request false)
  | some case, some recommendation =>
    evaluateLoaded env config drawn request case recommendation

/-- The answer from a stored decision. -/
def replay (stored : PolicyDecision) : EvaluationStatements PolicyEvaluationResult :=
  match toEvaluationResult stored with
  | .error fault => .fail fault
  | .ok result => .done result

/-- `PolicyEngineService.evaluate`; `drawn` is the `uuid4` of the decision. -/
def evaluate (env : Env) (config : PolicyConfig) (drawn : UUID)
    (request : PolicyEvaluationRequest) : EvaluationStatements PolicyEvaluationResult :=
  if Python.truthy request.idempotencyKey then
    .query (fun _ => some .idempotencyKey) fun s =>
      match replayed s request with
      | some stored => replay stored
      | none => evaluateNew env config drawn request
  else evaluateNew env config drawn request

/-! ## Alone on the database -/

variable {env : Env} {config : PolicyConfig} {drawn : UUID} {request : PolicyEvaluationRequest}
  {s : Store} {case : RecoveryCase} {recommendation : AgentDecision} {d : Draft}

/-- What a program does alone: its answer and the rows it leaves. -/
def outcome {α : Type} (p : EvaluationStatements α) (s : Store) : Except Fault (α × Store) :=
  (p.run s []).map fun r => (r.1, view s r.2)

theorem outcome_read_bind {α β : Type} (found : Store → α) (k : α → EvaluationStatements β)
    (s : Store) : outcome (read found >>= k) s = outcome (k (found s)) s :=
  rfl

namespace Draft

/-- On the row that the session has loaded, the columns are set as the service sets them. -/
theorem modifyCase_setMoved (hcase : s.recoveryCases[d.request.caseId]? = some d.case) :
    s.recoveryCases.modify d.request.caseId d.setMoved =
      s.recoveryCases.modify d.request.caseId (applyTransition d.env d.toState) := by
  rw [Table.modify_eq_set hcase, Table.modify_eq_set hcase]
  rfl

/-- A verdict that changes nothing need not be sent. -/
theorem modifyDecision_validated {status : PolicyDecisionStatus}
    (hrow : s.decisions[d.request.recommendationId]? = some d.recommendation)
    (hsame : mapPolicyToValidationStatus status = d.recommendation.validationStatus) :
    s.decisions.modify d.request.recommendationId (validated status) = s.decisions := by
  have hvalidated : validated status d.recommendation = d.recommendation := by
    unfold validated
    rw [hsame]
  rw [Table.modify_eq_set hrow, hvalidated]
  obtain ⟨hlt, hget⟩ := List.getElem?_eq_some_iff.mp hrow
  rw [← hget]
  exact List.set_getElem_self hlt

/-- The rows that the writes before the audit record leave. -/
theorem view_decisionWrites (hcase : s.recoveryCases[d.request.caseId]? = some d.case)
    (hrow : s.decisions[d.request.recommendationId]? = some d.recommendation) :
    view s d.decisionWrites =
      match d.transitionNumber with
      | none => decided s d.request d.decision
      | some n =>
        { decided s d.request d.decision with
          recoveryCases := s.recoveryCases.modify d.request.caseId (applyTransition d.env d.toState)
          transitions := s.transitions ++ [d.transitionRow n] } := by
  rw [← modifyCase_setMoved hcase]
  unfold decisionWrites decided
  dsimp only
  split_ifs with hsame
  · rw [modifyDecision_validated hrow hsame]
    rcases d.transitionNumber with _ | n <;> rfl
  · rcases d.transitionNumber with _ | n <;> rfl

/-- A transition and an audit record that continue their logs violate no constraint. -/
theorem unviolated_writes
    (hnext : ∀ n, d.transitionNumber = some n → n = s.nextTransitionNumber d.request.caseId) :
    Unviolated s (d.writes (s.nextAuditNumber d.request.caseId)) := by
  have hfree : ∀ (numbers : List ℕ) (constraint : Constraint),
      EvaluationWrite.unique (numbers.contains (Numbering.next numbers)) constraint = none := by
    intro numbers constraint
    rw [EvaluationWrite.unique_eq_none, List.contains_eq_mem, decide_eq_false_iff_not]
    exact Numbering.next_not_mem numbers
  have haudit := hfree (s.auditNumbers d.request.caseId) .uq_audit_case_sequence
  have htransition := hfree (s.transitionNumbers d.request.caseId) .uq_transition_case_sequence
  unfold writes decisionWrites
  dsimp only
  rcases hnumber : d.transitionNumber with _ | n
  · split_ifs
    · exact ⟨rfl, haudit, trivial⟩
    · exact ⟨rfl, rfl, haudit, trivial⟩
  · obtain rfl := hnext n hnumber
    split_ifs
    · exact ⟨rfl, rfl, htransition, haudit, trivial⟩
    · exact ⟨rfl, rfl, rfl, htransition, haudit, trivial⟩

end Draft

/-- Alone, a record with the next numbers leaves its writes. -/
theorem outcome_record {result : PolicyEvaluationResult}
    (hnext : ∀ n, d.transitionNumber = some n → n = s.nextTransitionNumber d.request.caseId) :
    outcome (record d result) s =
      .ok (result, view s (d.writes (s.nextAuditNumber d.request.caseId))) := by
  have hfree : Unviolated (view s ([] : List EvaluationWrite))
      (d.writes (s.nextAuditNumber d.request.caseId)) := Draft.unviolated_writes hnext
  have hrun : outcome (record d result) s =
      ((Program.flushAll (d.writes (s.nextAuditNumber d.request.caseId)) result :
        EvaluationStatements PolicyEvaluationResult).run s []).map fun r => (r.1, view s r.2) :=
    rfl
  rw [hrun, Program.run_flushAll hfree]
  rfl

/-- Alone, a decision on the loaded rows leaves what the service commits. -/
theorem outcome_conclude {results : List RuleCheckResult}
    (hcase : s.recoveryCases[request.caseId]? = some case)
    (hrow : s.decisions[request.recommendationId]? = some recommendation) :
    outcome (conclude env config drawn request case recommendation results) s =
      .ok (newResult env
          (PolicyEngineService.decision env config request case recommendation results) results,
        persisted env s request case
          (PolicyEngineService.decision env config request case recommendation results)) := by
  unfold conclude persisted
  dsimp only
  split_ifs with hstays hmoves
  · exact absurd hstays hmoves
  · rw [outcome_record (by rintro n ⟨⟩)]
    unfold Draft.writes
    rw [view_snoc, Draft.view_decisionWrites hcase hrow]
    rfl
  · rw [outcome_read_bind, outcome_record (by rintro n ⟨⟩; rfl)]
    unfold Draft.writes
    rw [view_snoc, Draft.view_decisionWrites hcase hrow]
    rfl

/-- Alone, an evaluation that repeats no decision does what the service method does. -/
theorem outcome_evaluateNew (hnew : replayed s request = none) :
    outcome (evaluateNew env config drawn request) s =
      PolicyEngineService.evaluate env config request s := by
  unfold evaluateNew PolicyEngineService.evaluate
  rw [outcome_read_bind, outcome_read_bind, Tx.get_bind_apply, hnew]
  dsimp only
  rcases hcase : s.recoveryCases[request.caseId]? with _ | case
  · rfl
  rcases hrow : s.decisions[request.recommendationId]? with _ | recommendation
  · rfl
  dsimp only
  unfold evaluateLoaded
  rw [outcome_read_bind, outcome_read_bind, outcome_read_bind, outcome_read_bind]
  have hrows : rowsRead (id s) (id s) (id s) (id s) = s := rfl
  rw [hrows]
  rcases hresults : ruleResults env config s request case recommendation
    (request.proposedAction.getD recommendation.actionType) with fault | results
  · rfl
  · refine (outcome_conclude hcase hrow).trans ((Tx.bind_apply ..).trans ?_).symm
    rw [persist_apply]
    rfl

/-- Alone, the statements of an evaluation do what the service method does. -/
theorem outcome_evaluate (env : Env) (config : PolicyConfig) (drawn : UUID)
    (request : PolicyEvaluationRequest) (s : Store) :
    outcome (evaluate env config drawn request) s =
      PolicyEngineService.evaluate env config request s := by
  have hquery : ∀ next : Store → EvaluationStatements PolicyEvaluationResult,
      outcome (.query (fun _ => some .idempotencyKey) next) s = outcome (next s) s :=
    fun _ => rfl
  unfold evaluate
  rcases hreplay : replayed s request with _ | stored
  · split_ifs
    · rw [hquery, hreplay]
      exact outcome_evaluateNew hreplay
    · exact outcome_evaluateNew hreplay
  · have hkey : Python.truthy request.idempotencyKey = true := by
      by_contra hkey
      unfold replayed at hreplay
      rw [if_neg hkey] at hreplay
      cases hreplay
    rw [if_pos hkey, hquery, hreplay]
    unfold PolicyEngineService.evaluate replay
    rw [Tx.get_bind_apply, hreplay]
    dsimp only
    rcases toEvaluationResult stored with fault | result <;> rfl

end EvaluationStatements

end RevenueRescue
