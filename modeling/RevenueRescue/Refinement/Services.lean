import RevenueRescue.Cases.Service
import RevenueRescue.Domain.Accounts
import RevenueRescue.Refinement.Writes

/-!
# Methods that stay within an authority

Every service method, started on any rows, either ends after a sequence of guarded writes
within an authority or raises; and where the authority includes the numbering of the audit
log, the fault is never a collision of audit numbers.

`Keeps` has one rule for each way of composing a method. The rules are followed here for the
inserts, the accounts and the case services.
-/

namespace RevenueRescue

open Python

/-- Not a fault of the audit numbering, for an operation that is held to it. -/
def Unaborted (A : Authority) (fault : Fault) : Prop :=
  A.numbered → fault ≠ .integrityError .uq_audit_case_sequence

/-- A check that raises names a defect of its subject, never a violated constraint. -/
abbrev NamesDefect {α : Type} (x : Except Fault α) : Prop :=
  x.Raises fun fault => ∀ constraint, fault ≠ .integrityError constraint

theorem NamesDefect.unaborted {α : Type} {x : Except Fault α} (hx : NamesDefect x) {A : Authority}
    {fault : Fault} (h : x = .error fault) : Unaborted A fault :=
  fun _ => hx.of_eq fault h _

/-- From `s` on, the method makes writes within `A` or raises for another reason than the
numbering of the audit log. -/
structure Keeps {α : Type} (A : Authority) (s : Store) (x : Service α) : Prop where
  wp : x.wp (fun _ t => Writes A s t) (Unaborted A) s

namespace Keeps

variable {A : Authority} {s : Store} {α β : Type}

theorem of_pure (a : α) : Keeps A s (pure a) := ⟨Relation.ReflTransGen.refl⟩

theorem of_throw {fault : Fault} (h : Unaborted A fault) : Keeps A s (throw fault : Service α) :=
  ⟨h⟩

/-- What a method that ends normally has written. -/
theorem writes {x : Service α} {a : α} {t : Store} (hx : Keeps A s x) (h : x s = .ok (a, t)) :
    Writes A s t := by
  have hwp := hx.wp
  unfold Tx.wp at hwp
  rwa [h] at hwp

/-- Why a method that raises did so. -/
theorem unaborted {x : Service α} {fault : Fault} (hx : Keeps A s x)
    (h : x s = .error fault) : Unaborted A fault := by
  have hwp := hx.wp
  unfold Tx.wp at hwp
  rwa [h] at hwp

/-- The rule for a sequence: the second part starts from the rows the first part left. -/
theorem bind {x : Service α} {f : α → Service β} (hx : Keeps A s x)
    (hf : ∀ a t, x s = .ok (a, t) → Writes A s t → Keeps A t (f a)) : Keeps A s (x >>= f) := by
  constructor
  rw [Tx.wp_bind]
  unfold Tx.wp
  rcases h : x s with fault | ⟨a, t⟩
  · exact hx.unaborted h
  · have hw : Writes A s t := hx.writes h
    exact Tx.wp_mono (hf a t h hw).wp (fun _ _ hu => hw.trans hu) fun _ he => he

/-- A method that amounts to another one after some writes. -/
theorem of_apply {x y : Service α} {t : Store} (h : x s = y t) (hw : Writes A s t)
    (hy : Keeps A t y) : Keeps A s x := by
  constructor
  unfold Tx.wp
  rw [h]
  exact Tx.wp_mono hy.wp (fun _ _ hu => hw.trans hu) fun _ he => he

theorem get_bind {f : Store → Service β} (hf : Keeps A s (f s)) : Keeps A s (get >>= f) := ⟨hf.wp⟩

theorem throw_bind {fault : Fault} {f : α → Service β} (h : Unaborted A fault) :
    Keeps A s ((throw fault : Service α) >>= f) := ⟨h⟩

theorem of_modify {f : Store → Store} (h : Write A s (f s)) : Keeps A s (modify f) :=
  ⟨Relation.ReflTransGen.single h⟩

theorem of_set {t : Store} (h : Write A s t) : Keeps A s (set t) :=
  ⟨Relation.ReflTransGen.single h⟩

/-- The rule for a write that is followed by more. -/
theorem modify_bind {f : Store → Store} {g : Unit → Service β} (h : Write A s (f s))
    (hg : Keeps A (f s) (g ())) : Keeps A s (modify f >>= g) := by
  refine bind (of_modify h) fun a t ht _ => ?_
  cases ht
  exact hg

theorem set_bind {t : Store} {g : Unit → Service β} (h : Write A s t)
    (hg : Keeps A t (g ())) : Keeps A s (set t >>= g) := by
  refine bind (of_set h) fun a u hu _ => ?_
  cases hu
  exact hg

theorem ite {c : Prop} [Decidable c] {x y : Service α} (hx : c → Keeps A s x)
    (hy : ¬c → Keeps A s y) : Keeps A s (if c then x else y) := by
  by_cases hc : c
  · rw [if_pos hc]
    exact hx hc
  · rw [if_neg hc]
    exact hy hc

/-- A handler starts from the rows of the savepoint. -/
theorem of_tryCatch {x : Service α} {handler : Fault → Service α} (hx : Keeps A s x)
    (hh : ∀ fault, Unaborted A fault → Keeps A s (handler fault)) :
    Keeps A s (tryCatch x handler) := by
  constructor
  rw [Tx.wp_tryCatch]
  exact Tx.wp_mono hx.wp (fun _ _ hw => hw) fun fault hfault => (hh fault hfault).wp

/-- The check of a unique constraint, followed by more. -/
theorem requireFree_bind {taken : Bool} {constraint : Constraint} {g : Unit → Service β}
    (hfree : A.numbered → constraint = .uq_audit_case_sequence → taken = false)
    (hg : taken = false → Keeps A s (g ())) : Keeps A s (requireFree taken constraint >>= g) := by
  unfold requireFree
  cases taken with
  | false => exact ⟨(hg rfl).wp⟩
  | true =>
    apply throw_bind
    intro hn heq
    injection heq with hconstraint
    exact absurd (hfree hn hconstraint) (by decide)

end Keeps

variable {A : Authority} {s : Store}

/-! ## Inserts -/

theorem insertCustomer_keeps (row : Customer) : Keeps A s (insertCustomer row) := by
  refine .get_bind (.requireFree_bind (fun _ h => by cases h) fun _ => ?_)
  exact .set_bind (.addCustomer s row) (.of_pure _)

theorem insertConsent_keeps (row : CustomerConsent) : Keeps A s (insertConsent row) := by
  refine .get_bind (.requireFree_bind (fun _ h => by cases h) fun _ => ?_)
  exact .set_bind (.addConsent s row) (.of_pure _)

theorem insertTransaction_keeps (row : Transaction) : Keeps A s (insertTransaction row) := by
  refine .get_bind (.requireFree_bind (fun _ h => by cases h) fun hfree => ?_)
  refine .set_bind (.addTransaction s row fun htaken => ?_) (.of_pure _)
  obtain ⟨txn, htxn, hsame⟩ := List.mem_map.mp htaken
  have hprovider : txn.provider = row.provider := congrArg Prod.fst hsame
  have hexternal : txn.externalTransactionId = row.externalTransactionId := congrArg Prod.snd hsame
  refine List.any_eq_false.mp hfree txn htxn ?_
  rw [hprovider, hexternal, beq_self_eq_true, beq_self_eq_true]
  rfl

theorem insertCase_keeps {row : RecoveryCase} (hstate : row.state = .DETECTED)
    (htrigger : row.triggerTransactionId < s.transactions.length) :
    Keeps A s (insertCase row) := by
  refine .get_bind (.requireFree_bind (fun _ h => by cases h) fun _ => ?_)
  exact .set_bind (.addCase s row hstate htrigger) (.of_pure _)

theorem insertAttempt_keeps (row : RecoveryAttempt) (hexecutes : ∃ id, A.executes id) :
    Keeps A s (insertAttempt row) := by
  refine .get_bind (.requireFree_bind (fun _ h => by cases h) fun _ => ?_)
  refine .requireFree_bind (fun _ h => by cases h) fun _ => ?_
  exact .set_bind (.addAttempt s row hexecutes) (.of_pure _)

/-- A new attempt is the last one, and nothing else changes. -/
theorem insertAttempt_ok {row : RecoveryAttempt} {t : Store} {id : UUID}
    (h : insertAttempt row s = .ok (id, t)) :
    id = s.attempts.length ∧ t = { s with attempts := s.attempts ++ [row] } := by
  rw [insertAttempt_apply] at h
  split at h
  · cases h
  split at h
  · cases h
  · cases h
    exact ⟨rfl, rfl⟩

theorem insertDecision_keeps (row : AgentDecision) : Keeps A s (insertDecision row) :=
  .get_bind (.set_bind (.addDecision s row) (.of_pure _))

theorem insertPolicyDecision_keeps {row : PolicyDecision} (hcase : A.decides row.caseId)
    (happrovable : Approvable A.config s row) : Keeps A s (insertPolicyDecision row) :=
  .get_bind (.set_bind (.addPolicyDecision s row hcase happrovable) (.of_pure _))

theorem insertAudit_keeps {row : AuditEvent}
    (h : A.numbered → row.sequenceNumber = s.nextAuditNumber row.caseId) :
    Keeps A s (insertAudit row) := by
  refine .get_bind (.requireFree_bind (fun hn _ => ?_) fun _ => .of_set (.addAudit s row h))
  rw [h hn, List.contains_eq_mem, decide_eq_false_iff_not]
  exact Numbering.next_not_mem (s.auditNumbers row.caseId)

/-- A new audit record changes nothing else. -/
theorem insertAudit_ok {row : AuditEvent} {t : Store} {u : Unit}
    (h : insertAudit row s = .ok (u, t)) :
    t = { s with auditEvents := s.auditEvents ++ [row] } := by
  rw [insertAudit_apply] at h
  split at h
  · cases h
  · cases h
    rfl

theorem insertTransition_keeps {row : CaseStateTransition}
    (hcase : row.caseId < s.recoveryCases.length) : Keeps A s (insertTransition row) := by
  refine .get_bind (.requireFree_bind (fun _ h => by cases h) fun _ => ?_)
  exact .of_set (.addTransition s row hcase)

/-- Rewriting cases loses none of them. -/
theorem lt_modifyCase {caseId id : UUID} {case : RecoveryCase}
    (h : s.recoveryCases[caseId]? = some case) (f : RecoveryCase → RecoveryCase) :
    caseId < (s.modifyCase id f).recoveryCases.length := by
  unfold Store.modifyCase
  rw [List.length_modify]
  exact (List.getElem?_eq_some_iff.mp h).1

/-- An entry in the transition log leaves the numbering of the audit log as it was. -/
theorem nextAuditNumber_of_insertTransition {row : CaseStateTransition} {t : Store} {u : Unit}
    (h : insertTransition row s = .ok (u, t)) (caseId : UUID) :
    t.nextAuditNumber caseId = s.nextAuditNumber caseId := by
  rw [insertTransition_apply] at h
  split at h
  · cases h
  · cases h
    rfl

theorem insertWorkflow_keeps {row : RecoveryWorkflow} (hcreates : A.creates row.policyDecisionId)
    (hbuilt : BuiltOn s row) : Keeps A s (insertWorkflow row) := by
  refine .get_bind (.requireFree_bind (fun _ h => by cases h) fun hfree => ?_)
  have hkeys : FreshKeys s row := by
    simp only [Bool.or_eq_false_iff, Bool.not_eq_false', decide_eq_true_eq, List.any_eq_false,
      List.mem_map, List.contains_eq_mem] at hfree
    exact ⟨hfree.1, fun step hstep => hfree.2 _ ⟨step, hstep, rfl⟩⟩
  exact .set_bind (.addWorkflow s row hcreates hbuilt hkeys) (.of_pure _)

theorem insertExecution_keeps {row : RecoveryExecution} (hexecutes : A.executes row.workflowId)
    (hunderway : Underway s row) : Keeps A s (insertExecution row) := by
  refine .get_bind (.requireFree_bind (fun _ h => by cases h) fun _ => ?_)
  exact .set_bind (.addExecution s row hexecutes hunderway) (.of_pure _)

/-- A record numbered from rows that show the whole log of the case never collides. -/
theorem recordSeeing_keeps {seen : Store} {env : Env} {caseId : UUID} {eventType : String}
    {actorType : ActorType} {fromState toState : Option RecoveryCaseState}
    (h : A.numbered → seen.nextAuditNumber caseId = s.nextAuditNumber caseId) :
    Keeps A s
      (AuditEventRepository.recordSeeing seen env caseId eventType actorType fromState toState) :=
  insertAudit_keeps h

theorem record_keeps (env : Env) (caseId : UUID) (eventType : String) (actorType : ActorType)
    (fromState toState : Option RecoveryCaseState) :
    Keeps A s (AuditEventRepository.record env caseId eventType actorType fromState toState) :=
  .get_bind (recordSeeing_keeps fun _ => rfl)

/-! ## Accounts -/

theorem CustomerService.createCustomer_keeps (row : Customer) :
    Keeps A s (CustomerService.createCustomer row) := by
  refine .get_bind (.ite (fun _ => .throw_bind fun _ h => by cases h) fun _ => ?_)
  exact insertCustomer_keeps row

theorem CustomerService.updateCustomer_keeps (customerId : UUID)
    (dto : CustomerService.CustomerUpdateDTO) :
    Keeps A s (CustomerService.updateCustomer customerId dto) := by
  refine .get_bind (.ite (fun _ => .throw_bind fun _ h => by cases h) fun _ => ?_)
  exact .of_set (.setCustomer s customerId _)

theorem createCustomerConsent_keeps (env : Env) (customerId : UUID) (consentType : ConsentType)
    (status : ConsentStatus) (merchantId : Option String) (expiresAt : Option Datetime)
    (source : String) :
    Keeps A s (createCustomerConsent env customerId consentType status merchantId expiresAt
      source) :=
  .get_bind (insertConsent_keeps _)

theorem revokeCustomerConsent_keeps (env : Env) (consentId : UUID) :
    Keeps A s (revokeCustomerConsent env consentId) := by
  refine .get_bind (.ite (fun _ => .throw_bind fun _ h => by cases h) fun _ => ?_)
  exact .of_set (.setConsent s consentId _)

theorem TransactionService.recordTransaction_keeps (env : Env)
    (dto : TransactionService.TransactionCreateDTO) :
    Keeps A s (TransactionService.recordTransaction env dto) := by
  refine .get_bind (.ite (fun _ => .throw_bind fun _ h => by cases h) fun _ => ?_)
  refine .ite (fun _ => .throw_bind fun _ h => by cases h) fun _ => ?_
  exact insertTransaction_keeps _

/-! ## Case services -/

theorem lt_of_isNone_ne_true {α : Type} {rows : List α} {i : ℕ} (h : ¬rows[i]?.isNone = true) :
    i < rows.length := by
  by_contra hlt
  exact h (by simp [List.getElem?_eq_none (Nat.le_of_not_lt hlt)])

namespace RecoveryCaseService

theorem createCase_keeps (env : Env) (uuid4 : UUID) (dto : RecoveryCaseCreateDTO) :
    Keeps A s (createCase env uuid4 dto) := by
  refine .get_bind (.ite (fun _ => .throw_bind fun _ h => by cases h) fun _ => ?_)
  refine .ite (fun _ => .throw_bind fun _ h => by cases h) fun htransaction => ?_
  refine .ite (fun _ => .throw_bind fun _ h => by cases h) fun _ => ?_
  refine .ite (fun _ => .throw_bind fun _ h => by cases h) fun _ => ?_
  refine .bind (insertCase_keeps rfl (lt_of_isNone_ne_true htransaction)) fun caseId t _ _ => ?_
  exact .bind (record_keeps ..) fun _ _ _ _ => .of_pure _

theorem transitionState_keeps {env : Env} {caseId : UUID} {transition : CaseStateTransitionDTO}
    (hrecovers : ∀ case, s.recoveryCases[caseId]? = some case → case.state.isTerminal = false →
      transition.toState = .RECOVERED → A.recovers caseId) :
    Keeps A s (transitionState env caseId transition) := by
  refine .get_bind ?_
  rcases hcase : s.recoveryCases[caseId]? with _ | case
  · exact .of_throw fun _ h => by cases h
  refine .ite (fun _ => .of_throw fun _ h => by cases h) fun hopen => ?_
  have hstep : ∀ c, s.recoveryCases[caseId]? = some c →
      CaseStep (A.recovers caseId) A.counts c (applyTransition env transition.toState c) := by
    intro c hc
    rw [hcase, Option.some.injEq] at hc
    subst hc
    have hlive : case.state.isTerminal = false := by
      cases hterm : case.state.isTerminal with
      | false => rfl
      | true => exact absurd (.inl hterm) hopen
    exact ⟨⟨rfl, rfl, rfl, .inr (.inl hlive)⟩, fun h => .inr (hrecovers case hcase hlive h),
      .inr rfl⟩
  refine .modify_bind (.setCase s caseId _ hstep) ?_
  exact .bind (insertTransition_keeps (lt_modifyCase hcase _)) fun _ _ _ _ => record_keeps ..

/-- An update without metadata leaves those of the case as they are. -/
theorem applyUpdate_counted {env : Env} {dto : RecoveryCaseUpdateDTO}
    (hcounts : dto.metadata.isSome = true → A.counts) (case : RecoveryCase) :
    A.counts ∨ (applyUpdate env dto case).failureCount = case.failureCount := by
  rcases hmetadata : dto.metadata with _ | metadata
  · right
    unfold RecoveryCase.failureCount applyUpdate
    rw [hmetadata]
    rfl
  · rw [hmetadata] at hcounts
    exact .inl (hcounts rfl)

theorem updateCase_keeps (env : Env) (caseId : UUID) {dto : RecoveryCaseUpdateDTO}
    (actorId : Option String) (hcounts : dto.metadata.isSome = true → A.counts) :
    Keeps A s (updateCase env caseId dto actorId) := by
  refine .get_bind ?_
  rcases s.recoveryCases[caseId]? with _ | case
  · exact .of_throw fun _ h => by cases h
  refine .ite (fun _ => .of_throw fun _ h => by cases h) fun _ => ?_
  refine .ite (fun _ => ?_) fun _ => .of_pure _
  have hstep : ∀ c, s.recoveryCases[caseId]? = some c →
      CaseStep (A.recovers caseId) A.counts c (applyUpdate env dto c) :=
    fun c _ => ⟨⟨rfl, rfl, rfl, .inl rfl⟩, .inl, applyUpdate_counted hcounts c⟩
  exact .modify_bind (.setCase s caseId _ hstep) (record_keeps ..)

end RecoveryCaseService

namespace CaseTransitionService

/-- Where the table allows the move, the next number of both logs is the same. -/
def CountersAgree (s : Store) (caseId : UUID) (toState : RecoveryCaseState) : Prop :=
  ∀ case, s.recoveryCases[caseId]? = some case → toState ∈ ALLOWED_TRANSITIONS case.state →
    s.nextTransitionNumber caseId = s.nextAuditNumber caseId

/-- The table allows no move that leaves the terminal states. -/
theorem mayMove_of_mem_ALLOWED_TRANSITIONS {a b : RecoveryCaseState}
    (h : b ∈ ALLOWED_TRANSITIONS a) : MayMove a b := by
  revert h
  cases a <;> cases b <;> decide

theorem transition_keeps {env : Env} {caseId : UUID} {toState : RecoveryCaseState}
    {reasonCode : String} {actorType : ActorType}
    (hrecovers : ∀ case, s.recoveryCases[caseId]? = some case →
      toState ∈ ALLOWED_TRANSITIONS case.state → toState = .RECOVERED → A.recovers caseId)
    (hnumbered : A.numbered → CountersAgree s caseId toState) :
    Keeps A s (transition env caseId toState reasonCode actorType) := by
  refine .get_bind ?_
  rcases hcase : s.recoveryCases[caseId]? with _ | case
  · exact .of_throw fun _ h => by cases h
  refine .ite (fun hallowed => ?_) fun _ => .of_throw fun _ h => by cases h
  have hstep : ∀ c, s.recoveryCases[caseId]? = some c →
      CaseStep (A.recovers caseId) A.counts c (applyTransition env toState c) := by
    intro c hc
    rw [hcase, Option.some.injEq] at hc
    subst hc
    exact ⟨⟨rfl, rfl, rfl, .inr (mayMove_of_mem_ALLOWED_TRANSITIONS hallowed)⟩,
      fun h => .inr (hrecovers case hcase hallowed h), .inr rfl⟩
  refine .modify_bind (.setCase s caseId _ hstep) ?_
  refine .bind (insertTransition_keeps (lt_modifyCase hcase _)) fun _ t ht _ => ?_
  refine .bind (insertAudit_keeps fun hn => ?_) fun _ _ _ _ => .of_pure _
  rw [nextAuditNumber_of_insertTransition ht]
  exact hnumbered hn case hcase hallowed

/-- An allowed transition succeeds when its number is not taken in the audit log. -/
theorem transition_ok (env : Env) {caseId : UUID} {toState : RecoveryCaseState}
    (reasonCode : String) (actorType : ActorType) {case : RecoveryCase}
    (hcase : s.recoveryCases[caseId]? = some case)
    (hallowed : toState ∈ ALLOWED_TRANSITIONS case.state)
    (hfree : s.nextTransitionNumber caseId ∉ s.auditNumbers caseId) :
    ∃ result t, transition env caseId toState reasonCode actorType s = .ok (result, t) := by
  let moved : Store := s.modifyCase caseId (applyTransition env toState)
  let entry : CaseStateTransition :=
    { caseId, fromState := some case.state, toState, reasonCode, actorType
      occurredAt := env.now.naive, sequenceNumber := s.nextTransitionNumber caseId }
  have hentry : insertTransition entry moved =
      .ok ((), { moved with transitions := moved.transitions ++ [entry] }) := by
    rw [insertTransition_apply, if_neg]
    rw [List.contains_iff_mem]
    exact Numbering.next_not_mem (s.transitionNumbers caseId)
  let logged : Store := { moved with transitions := moved.transitions ++ [entry] }
  let record : AuditEvent :=
    { caseId, eventType := "case." ++ toState.value, fromState := some case.state
      toState := some toState, actorType, eventTime := env.now.naive
      sequenceNumber := s.nextTransitionNumber caseId }
  have hrecord : insertAudit record logged =
      .ok ((), { logged with auditEvents := logged.auditEvents ++ [record] }) := by
    rw [insertAudit_apply, if_neg]
    rw [List.contains_iff_mem]
    exact hfree
  refine ⟨⟨caseId, case.state, toState, s.nextTransitionNumber caseId, reasonCode⟩,
    { logged with auditEvents := logged.auditEvents ++ [record] }, ?_⟩
  unfold transition
  rw [Tx.get_bind_apply, hcase]
  dsimp only
  rw [if_pos hallowed, Tx.modify_bind_apply, Tx.bind_apply, hentry]
  dsimp only
  rw [Tx.bind_apply, hrecord]
  rfl

end CaseTransitionService

namespace RiskCaseService

theorem detectAndCreateCase_keeps (env : Env) (transactionId : UUID) :
    Keeps A s (detectAndCreateCase env transactionId) := by
  refine .get_bind ?_
  rcases hrow : s.transactions[transactionId]? with _ | transaction
  · exact .of_throw fun _ h => by cases h
  refine .ite (fun _ => ?_) fun _ => .of_pure _
  rcases s.caseByKey (caseKey transaction) with _ | ⟨existingId, existing⟩
  · have htrigger : transactionId < s.transactions.length :=
      (List.getElem?_eq_some_iff.mp hrow).1
    exact .bind (insertCase_keeps rfl htrigger) fun _ _ _ _ => .of_pure _
  · exact .of_pure _

end RiskCaseService

end RevenueRescue
