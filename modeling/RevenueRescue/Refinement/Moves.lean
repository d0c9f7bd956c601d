import RevenueRescue.Refinement.Effects

/-!
# Moves of the transition service

A transition that ends normally was allowed by the table and found its number free in the audit
log of the case, and it wrote the case, one entry in each of the two logs, and nothing else.
-/

namespace RevenueRescue

open Python

namespace CaseTransitionService

variable {env : Env} {s : Store} {caseId : UUID} {case : RecoveryCase}
  {toState : RecoveryCaseState} {reasonCode : String} {actorType : ActorType}

/-- A transition of the case to the state is carried out on these rows. -/
structure CarriesOut (s : Store) (caseId : UUID) (toState : RecoveryCaseState)
    (case : RecoveryCase) : Prop where
  caseRow : s.recoveryCases[caseId]? = some case
  allowed : toState ∈ ALLOWED_TRANSITIONS case.state
  numberFree : s.nextTransitionNumber caseId ∉ s.auditNumbers caseId

/-- Only the cases and the two logs matter to it. -/
theorem CarriesOut.congr {t : Store} (h : CarriesOut t caseId toState case)
    (hcases : t.recoveryCases = s.recoveryCases) (htransitions : t.transitions = s.transitions)
    (haudits : t.auditEvents = s.auditEvents) : CarriesOut s caseId toState case := by
  obtain ⟨hrow, hallowed, hfree⟩ := h
  refine ⟨hcases ▸ hrow, hallowed, ?_⟩
  unfold Store.nextTransitionNumber Store.transitionNumbers Store.transitionsOf
    Store.auditNumbers Store.auditsOf at hfree ⊢
  rw [htransitions, haudits] at hfree
  exact hfree

/-- The entry in the transition log. -/
def transitionEntry (env : Env) (s : Store) (caseId : UUID) (case : RecoveryCase)
    (toState : RecoveryCaseState) (reasonCode : String) (actorType : ActorType) :
    CaseStateTransition :=
  { caseId, fromState := some case.state, toState, reasonCode, actorType
    occurredAt := env.now.naive, sequenceNumber := s.nextTransitionNumber caseId }

/-- The record in the audit log, under the number of the entry. -/
def transitionRecord (env : Env) (s : Store) (caseId : UUID) (case : RecoveryCase)
    (toState : RecoveryCaseState) (actorType : ActorType) : AuditEvent :=
  { caseId, eventType := "case." ++ toState.value, fromState := some case.state
    toState := some toState, actorType, eventTime := env.now.naive
    sequenceNumber := s.nextTransitionNumber caseId }

/-- The rows after a transition. -/
def transitioned (env : Env) (s : Store) (caseId : UUID) (case : RecoveryCase)
    (toState : RecoveryCaseState) (reasonCode : String) (actorType : ActorType) : Store :=
  { s.modifyCase caseId (applyTransition env toState) with
    transitions :=
      s.transitions ++ [transitionEntry env s caseId case toState reasonCode actorType]
    auditEvents := s.auditEvents ++ [transitionRecord env s caseId case toState actorType] }

/-- What a transition that ends normally found and wrote. -/
theorem of_transition {result : TransitionResult} {t : Store}
    (h : transition env caseId toState reasonCode actorType s = .ok (result, t)) :
    ∃ case, CarriesOut s caseId toState case ∧
      t = transitioned env s caseId case toState reasonCode actorType := by
  unfold transition at h
  rw [Tx.get_bind_apply] at h
  rcases hcase : s.recoveryCases[caseId]? with _ | case
  · rw [hcase] at h
    cases h
  rw [hcase] at h
  dsimp only at h
  by_cases hallowed : toState ∈ ALLOWED_TRANSITIONS case.state
  swap
  · rw [if_neg hallowed] at h
    cases h
  rw [if_pos hallowed, Tx.modify_bind_apply] at h
  obtain ⟨_, u, hentry, h⟩ := Tx.bind_eq_ok.mp h
  obtain ⟨_, v, hrecord, h⟩ := Tx.bind_eq_ok.mp h
  rw [insertTransition_ok hentry, insertAudit_apply] at hrecord
  split at hrecord
  · cases hrecord
  next hfree =>
    cases hrecord
    cases h
    exact ⟨case, ⟨hcase, hallowed, fun hmem => hfree (List.contains_iff_mem.mpr hmem)⟩, rfl⟩

end CaseTransitionService

end RevenueRescue
