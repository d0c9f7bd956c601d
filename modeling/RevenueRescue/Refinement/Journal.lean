import Mathlib.Logic.Relation
import RevenueRescue.Refinement.Dispatch
import RevenueRescue.Refinement.Effects
import RevenueRescue.Refinement.Operations

/-!
# The transition log of a case

What a service does to the cases and to the transition log comes in strokes: a stroke moves
one case and enters the move in its log, under the next number, together with the new
version and the time of the change, or it leaves both alone. What a list of strokes adds to
the log of a case can then be replayed from the state the case was in.

The services are followed to their strokes here, all but the reconciliation of a case that
is not waiting for its verification, which moves the case without an entry.
-/

namespace RevenueRescue

open Python

/-- The fields of a case that a change of its state rewrites. -/
def RecoveryCase.progress (case : RecoveryCase) : RecoveryCaseState × ℕ × Datetime :=
  (case.state, case.version, case.lastStateChangedAt)

/-- The change of state that a transition records; the record of an opening has none. -/
def CaseStateTransition.change (entry : CaseStateTransition) :
    Option (RecoveryCaseState × RecoveryCaseState) :=
  entry.fromState.map fun source => (source, entry.toState)

namespace Store

/-- The progress of every case. -/
def progress (s : Store) : List (RecoveryCaseState × ℕ × Datetime) :=
  s.recoveryCases.map RecoveryCase.progress

/-- The changes of state that the log of a case records. -/
def changesOf (s : Store) (caseId : UUID) : List (RecoveryCaseState × RecoveryCaseState) :=
  (s.transitionsOf caseId).filterMap CaseStateTransition.change

theorem progress_getElem? (s : Store) (caseId : UUID) :
    s.progress[caseId]? = (s.recoveryCases[caseId]?).map RecoveryCase.progress :=
  List.getElem?_map

/-- The log of a case after one more entry in the table. -/
theorem transitionsOf_append {s t : Store} {entry : CaseStateTransition}
    (h : t.transitions = s.transitions ++ [entry]) (caseId : UUID) :
    t.transitionsOf caseId =
      s.transitionsOf caseId ++ if entry.caseId = caseId then [entry] else [] := by
  unfold transitionsOf
  rw [h, List.filter_append]
  by_cases hcase : entry.caseId = caseId <;> simp [hcase]

end Store

/-- One stroke of a service at a time. -/
inductive Stroke (now : Datetime) (s t : Store) : Prop
  | quiet (hcases : t.progress = s.progress) (hlog : t.transitions = s.transitions)
  | moved (source : RecoveryCaseState) (version : ℕ) (since : Datetime)
      (entry : CaseStateTransition)
      (hcase : s.progress[entry.caseId]? = some (source, version, since))
      (hcases : t.progress = s.progress.set entry.caseId (entry.toState, version + 1, now.naive))
      (hlog : t.transitions = s.transitions ++ [entry]) (hsource : entry.fromState = some source)
      (hchange : entry.toState ≠ source)
      (hnumber : entry.sequenceNumber = s.nextTransitionNumber entry.caseId)

/-- What a service does to the cases and their logs, stroke by stroke. -/
abbrev Strokes (now : Datetime) : Store → Store → Prop := Relation.ReflTransGen (Stroke now)

/-- What a request did to a case and to its log. -/
structure Journaled (now : Datetime) (s t : Store) (caseId : UUID) (before after : RecoveryCase)
    (entries : List CaseStateTransition) : Prop where
  appended : t.transitionsOf caseId = s.transitionsOf caseId ++ entries
  changes : ∀ entry ∈ entries, ∃ source, entry.fromState = some source ∧ entry.toState ≠ source
  replayed : Replay.replay before.state (entries.filterMap CaseStateTransition.change) =
    some after.state
  numbered : entries.map CaseStateTransition.sequenceNumber =
    List.range' (s.nextTransitionNumber caseId) entries.length
  version : entries ≠ [] → after.version = before.version + entries.length
  time : entries ≠ [] → after.lastStateChangedAt = now.naive

variable {now : Datetime} {s t u : Store} {caseId : UUID} {before after : RecoveryCase}

theorem nextTransitionNumber_of_transitionsOf {entries : List CaseStateTransition}
    (happended : t.transitionsOf caseId = s.transitionsOf caseId ++ entries)
    (hnumbered : entries.map CaseStateTransition.sequenceNumber =
      List.range' (s.nextTransitionNumber caseId) entries.length) :
    t.nextTransitionNumber caseId = s.nextTransitionNumber caseId + entries.length := by
  have hnext : ∀ (n : ℕ) (numbers : List ℕ),
      Numbering.next (numbers ++ List.range' (Numbering.next numbers) n) =
        Numbering.next numbers + n := by
    intro n
    induction n with
    | zero => simp
    | succ n ih =>
      intro numbers
      have hone := Numbering.next_append_next numbers
      have hrest := ih (numbers ++ [Numbering.next numbers])
      rw [hone, List.append_assoc, List.singleton_append] at hrest
      rw [List.range'_succ, hrest]
      omega
  unfold Store.nextTransitionNumber Store.transitionNumbers at hnumbered ⊢
  rw [happended, List.map_append, hnumbered, hnext]

/-- What one stroke does to a case. -/
theorem Stroke.journaled (h : Stroke now s t) (hcase : s.recoveryCases[caseId]? = some before) :
    ∃ after entries, t.recoveryCases[caseId]? = some after ∧
      Journaled now s t caseId before after entries ∧
      (entries = [] → after.progress.2 = before.progress.2) := by
  have hbefore : s.progress[caseId]? = some before.progress := by
    rw [Store.progress_getElem?, hcase, Option.map_some]
  -- a stroke on another case, or none
  have hstill : t.progress[caseId]? = some before.progress →
      t.transitionsOf caseId = s.transitionsOf caseId →
      ∃ after entries, t.recoveryCases[caseId]? = some after ∧
        Journaled now s t caseId before after entries ∧
        (entries = [] → after.progress.2 = before.progress.2) := by
    intro hprogress hlog
    rw [Store.progress_getElem?, Option.map_eq_some_iff] at hprogress
    obtain ⟨after, hafter, hsame⟩ := hprogress
    simp only [RecoveryCase.progress, Prod.mk.injEq] at hsame
    refine ⟨after, [], hafter, ⟨?_, ?_, ?_, rfl, ?_, ?_⟩, fun _ => Prod.ext hsame.2.1 hsame.2.2⟩
    · rw [hlog, List.append_nil]
    · simp
    · rw [List.filterMap_nil, Replay.replay_nil, hsame.1]
    · exact fun hne => absurd rfl hne
    · exact fun hne => absurd rfl hne
  cases h with
  | quiet hcases hlog =>
    apply hstill
    · rw [hcases, hbefore]
    · unfold Store.transitionsOf
      rw [hlog]
  | moved source version since entry hrow hcases hlog hsource hchange hnumber =>
    have happended := Store.transitionsOf_append hlog caseId
    by_cases hid : entry.caseId = caseId
    · rw [if_pos hid] at happended
      subst hid
      rw [hbefore, Option.some.injEq] at hrow
      simp only [RecoveryCase.progress, Prod.mk.injEq] at hrow
      have hprogress : t.progress[entry.caseId]? =
          some (entry.toState, version + 1, now.naive) := by
        rw [hcases, List.getElem?_set_self (List.getElem?_eq_some_iff.mp hbefore).1]
      rw [Store.progress_getElem?, Option.map_eq_some_iff] at hprogress
      obtain ⟨after, hafter, hsame⟩ := hprogress
      simp only [RecoveryCase.progress, Prod.mk.injEq] at hsame
      refine ⟨after, [entry], hafter, ⟨happended, ?_, ?_, ?_, fun _ => ?_, fun _ => hsame.2.2⟩, ?_⟩
      · intro other hother
        rw [List.mem_singleton.mp hother]
        exact ⟨source, hsource, hchange⟩
      · simp [CaseStateTransition.change, hsource, Replay.replay, hrow.1, hsame.1]
      · rw [List.map_singleton, hnumber]
        rfl
      · rw [hsame.2.1, hrow.2.1, List.length_singleton]
      · exact fun hnil => absurd hnil (by simp)
    · rw [if_neg hid, List.append_nil] at happended
      apply hstill _ happended
      rw [hcases, List.getElem?_set_ne hid, hbefore]

theorem Journaled.version_eq {entries : List CaseStateTransition}
    (h : Journaled now s t caseId before after entries)
    (hkept : entries = [] → after.progress.2 = before.progress.2) :
    after.version = before.version + entries.length := by
  by_cases hnil : entries = []
  · have hsame : after.version = before.version := congrArg Prod.fst (hkept hnil)
    rw [hsame, hnil, List.length_nil, Nat.add_zero]
  · exact h.version hnil

/-- What a list of strokes does to a case: the entries of all of them, in order. -/
theorem Strokes.journaled (h : Strokes now s t) (hcase : s.recoveryCases[caseId]? = some before) :
    ∃ after entries, t.recoveryCases[caseId]? = some after ∧
      Journaled now s t caseId before after entries ∧
      (entries = [] → after.progress.2 = before.progress.2) := by
  induction h with
  | refl =>
    refine ⟨before, [], hcase, ⟨by simp, by simp, rfl, rfl, ?_, ?_⟩, fun _ => rfl⟩
    · exact fun hne => absurd rfl hne
    · exact fun hne => absurd rfl hne
  | @tail u t _ hstroke ih =>
    obtain ⟨middle, entries, hmiddle, hfirst, hkept⟩ := ih
    obtain ⟨after, later, hafter, hsecond, hkept'⟩ := hstroke.journaled hmiddle
    have hnext := nextTransitionNumber_of_transitionsOf hfirst.appended hfirst.numbered
    have hversion : after.version = before.version + (entries ++ later).length := by
      have hone := hfirst.version_eq hkept
      have htwo := hsecond.version_eq hkept'
      rw [List.length_append]
      omega
    refine ⟨after, entries ++ later, hafter, ⟨?_, ?_, ?_, ?_, fun _ => hversion, ?_⟩, ?_⟩
    · rw [hsecond.appended, hfirst.appended, List.append_assoc]
    · intro entry hentry
      rcases List.mem_append.mp hentry with hold | hnew
      · exact hfirst.changes entry hold
      · exact hsecond.changes entry hnew
    · rw [List.filterMap_append, Replay.replay_append, hfirst.replayed, Option.bind_some]
      exact hsecond.replayed
    · rw [List.map_append, hfirst.numbered, hsecond.numbered, hnext, List.length_append,
        List.range'_append_1]
    · intro hne
      by_cases hlater : later = []
      · have htime : after.lastStateChangedAt = middle.lastStateChangedAt :=
          congrArg Prod.snd (hkept' hlater)
        rw [htime]
        apply hfirst.time
        intro hnil
        rw [hnil, hlater] at hne
        exact hne rfl
      · exact hsecond.time hlater
    · intro hnil
      obtain ⟨hentries, hlater⟩ := List.append_eq_nil_iff.mp hnil
      exact (hkept' hlater).trans (hkept hentries)

/-! ## Strokes of single writes -/

theorem Strokes.of_same (hcases : t.recoveryCases = s.recoveryCases)
    (hlog : t.transitions = s.transitions) : Strokes now s t := by
  refine .single (.quiet ?_ hlog)
  unfold Store.progress
  rw [hcases]

/-- Rewriting what no change of state rewrites. -/
theorem Strokes.modifyCase (s : Store) (caseId : UUID) {f : RecoveryCase → RecoveryCase}
    (hf : ∀ case, (f case).progress = case.progress) : Strokes now s (s.modifyCase caseId f) :=
  .single (.quiet (Table.map_modify hf s.recoveryCases caseId) rfl)

/-- A case that is moved together with the entry in its log. -/
theorem Strokes.moved (case : RecoveryCase) (entry : CaseStateTransition)
    (f : RecoveryCase → RecoveryCase) (hcase : s.recoveryCases[entry.caseId]? = some case)
    (hf : (f case).progress = (entry.toState, case.version + 1, now.naive))
    (hsource : entry.fromState = some case.state) (hchange : entry.toState ≠ case.state)
    (hnumber : entry.sequenceNumber = s.nextTransitionNumber entry.caseId) :
    Strokes now s { s.modifyCase entry.caseId f with transitions := s.transitions ++ [entry] } := by
  refine .single (.moved case.state case.version case.lastStateChangedAt entry ?_ ?_ rfl hsource
    hchange hnumber)
  · rw [Store.progress_getElem?, hcase]
    rfl
  · unfold Store.progress Store.modifyCase
    apply List.ext_getElem?
    intro i
    dsimp only
    rw [List.getElem?_map, List.getElem?_modify, List.getElem?_set, List.length_map,
      List.getElem?_map]
    by_cases hi : entry.caseId = i
    · subst hi
      have hlt := (List.getElem?_eq_some_iff.mp hcase).1
      rw [if_pos rfl, hcase, if_pos hlt, ← hf]
      simp
    · simp [hi]

/-- The methods that move cases in strokes. -/
abbrev LogsMoves {α : Type} (now : Datetime) (s : Store) (x : Service α) : Prop :=
  Tx.Respects (Strokes now) s x

/-- The methods that leave the cases and their log alone. -/
theorem LogsMoves.of_same {α : Type} {x : Service α}
    (h : ∀ a t, x s = .ok (a, t) → t.recoveryCases = s.recoveryCases ∧
      t.transitions = s.transitions) : LogsMoves now s x :=
  .of_ok fun a t hx => .of_same (h a t hx).1 (h a t hx).2

/-- The check of a unique constraint that is followed by one write. -/
theorem requireFree_set_same {α : Type} {taken : Bool} {constraint : Constraint} {a : α}
    (hcases : t.recoveryCases = s.recoveryCases) (hlog : t.transitions = s.transitions) :
    LogsMoves now s (do
      requireFree taken constraint
      set t
      return a) := by
  refine .of_same fun b u h => ?_
  rw [requireFree_bind_apply] at h
  split at h
  · cases h
  · cases h
    exact ⟨hcases, hlog⟩

theorem insertAudit_logsMoves (row : AuditEvent) : LogsMoves now s (insertAudit row) := by
  refine .of_same fun _ _ h => ?_
  rw [insertAudit_ok h]
  exact ⟨rfl, rfl⟩

theorem record_logsMoves (env : Env) (caseId : UUID) (eventType : String) (actorType : ActorType)
    (fromState toState : Option RecoveryCaseState) :
    LogsMoves now s
      (AuditEventRepository.record env caseId eventType actorType fromState toState) :=
  .get_bind (insertAudit_logsMoves _)

/-! ## Accounts and workflows -/

theorem createCustomer_logsMoves (row : Customer) :
    LogsMoves now s (CustomerService.createCustomer row) := by
  refine .get_bind (.ite (fun _ => .throw_bind) fun _ => ?_)
  exact .get_bind (requireFree_set_same rfl rfl)

theorem updateCustomer_logsMoves (customerId : UUID) (dto : CustomerService.CustomerUpdateDTO) :
    LogsMoves now s (CustomerService.updateCustomer customerId dto) := by
  refine .get_bind (.ite (fun _ => .throw_bind) fun _ => ?_)
  exact .of_set (.of_same rfl rfl)

theorem createCustomerConsent_logsMoves (env : Env) (customerId : UUID)
    (consentType : ConsentType) (status : ConsentStatus) (merchantId : Option String)
    (expiresAt : Option Datetime) (source : String) :
    LogsMoves now s
      (createCustomerConsent env customerId consentType status merchantId expiresAt source) :=
  .get_bind (.get_bind (requireFree_set_same rfl rfl))

theorem revokeCustomerConsent_logsMoves (env : Env) (consentId : UUID) :
    LogsMoves now s (revokeCustomerConsent env consentId) := by
  refine .get_bind (.ite (fun _ => .throw_bind) fun _ => ?_)
  exact .of_set (.of_same rfl rfl)

theorem recordTransaction_logsMoves (env : Env) (dto : TransactionService.TransactionCreateDTO) :
    LogsMoves now s (TransactionService.recordTransaction env dto) := by
  refine .get_bind (.ite (fun _ => .throw_bind) fun _ => .ite (fun _ => .throw_bind) fun _ => ?_)
  exact .get_bind (requireFree_set_same rfl rfl)

theorem createWorkflowForDecision_logsMoves (env : Env) (decisionId : UUID)
    (cooldownHours maxWorkflowHours : ℤ) :
    LogsMoves now s (WorkflowCreationService.createWorkflowForDecision env decisionId
      cooldownHours maxWorkflowHours) := by
  refine .of_same fun _ _ h => ?_
  obtain ⟨_, _, rfl⟩ := WorkflowCreationService.createWorkflowForDecision_ok h
  exact ⟨rfl, rfl⟩

/-! ## Services that move cases -/

/-- A case that is rewritten before its entry is made. -/
theorem LogsMoves.move {α : Type} (case : RecoveryCase) (entry : CaseStateTransition)
    (f : RecoveryCase → RecoveryCase) {g : Unit → Service α}
    (hcase : s.recoveryCases[entry.caseId]? = some case)
    (hf : (f case).progress = (entry.toState, case.version + 1, now.naive))
    (hsource : entry.fromState = some case.state) (hchange : entry.toState ≠ case.state)
    (hnumber : entry.sequenceNumber = s.nextTransitionNumber entry.caseId)
    (hg : ∀ t, LogsMoves now t (g ())) :
    LogsMoves now s (do
      modify fun s => s.modifyCase entry.caseId f
      insertTransition entry >>= g) := by
  refine .of_ok fun a u h => ?_
  rw [Tx.modify_bind_apply] at h
  obtain ⟨_, t, ht, hu⟩ := Tx.bind_eq_ok.mp h
  rw [insertTransition_ok ht] at hu
  exact (Strokes.moved case entry f hcase hf hsource hchange hnumber).trans ((hg _).related hu)

theorem RecoveryCaseService.transitionState_logsMoves {env : Env} {caseId : UUID}
    {transition : CaseStateTransitionDTO} :
    LogsMoves env.now s (transitionState env caseId transition) := by
  refine .get_bind ?_
  rcases hcase : s.recoveryCases[caseId]? with _ | case
  · exact .of_throw
  refine .ite (fun _ => .of_throw) fun hopen => ?_
  let entry : CaseStateTransition :=
    { caseId, fromState := some case.state, toState := transition.toState
      reasonCode := transition.reasonCode, actorType := transition.actorType
      occurredAt := env.now.naive, sequenceNumber := s.nextTransitionNumber caseId }
  refine LogsMoves.move case entry _ hcase rfl rfl ?_ rfl fun _ => record_logsMoves ..
  exact fun hsame => hopen (.inr hsame.symm)

namespace CaseTransitionService

/-- No state may be followed by itself. -/
theorem ne_of_mem_ALLOWED_TRANSITIONS {a b : RecoveryCaseState} (h : b ∈ ALLOWED_TRANSITIONS a) :
    b ≠ a := by
  revert h
  cases a <;> cases b <;> decide

theorem transition_logsMoves {env : Env} {caseId : UUID} {toState : RecoveryCaseState}
    {reasonCode : String} {actorType : ActorType} :
    LogsMoves env.now s (transition env caseId toState reasonCode actorType) := by
  refine .get_bind ?_
  rcases hcase : s.recoveryCases[caseId]? with _ | case
  · exact .of_throw
  refine .ite (fun hallowed => ?_) fun _ => .of_throw
  let entry : CaseStateTransition :=
    { caseId, fromState := some case.state, toState, reasonCode, actorType
      occurredAt := env.now.naive, sequenceNumber := s.nextTransitionNumber caseId }
  have hchange : entry.toState ≠ case.state := ne_of_mem_ALLOWED_TRANSITIONS hallowed
  refine LogsMoves.move case entry _ hcase rfl rfl hchange rfl fun t => ?_
  exact .bind (insertAudit_logsMoves _) fun _ _ _ _ => .of_pure _

end CaseTransitionService

namespace IntelligenceOrchestrator

theorem advance_logsMoves {env : Env} {before : Store} {caseId : UUID} {case : RecoveryCase}
    (hcase : s.recoveryCases[caseId]? = some case) (hdetected : case.state = .DETECTED) :
    LogsMoves env.now s (advance env before caseId case) := by
  let entry : CaseStateTransition :=
    { caseId, fromState := some case.state, toState := .AWAITING_DECISION
      reasonCode := "AI_RECOMMENDATION_FORMULATED", actorType := .SYSTEM
      occurredAt := env.now.naive, sequenceNumber := s.nextTransitionNumber caseId }
  have hchange : RecoveryCaseState.AWAITING_DECISION ≠ case.state := by
    rw [hdetected]
    decide
  have hmoved : Strokes env.now s { s.modifyCase caseId (applyAdvance env) with
      transitions := s.transitions ++ [entry] } := .moved case entry _ hcase rfl rfl hchange rfl
  refine .of_ok fun a u h => ?_
  unfold advance at h
  rw [Tx.modify_bind_apply, Tx.get_bind_apply] at h
  obtain ⟨_, t, ht, hu⟩ := Tx.bind_eq_ok.mp h
  have hlogged : t = { s.modifyCase caseId (applyAdvance env) with
      transitions := s.transitions ++ [entry] } := insertTransition_ok ht
  rw [← hlogged] at hmoved
  exact hmoved.trans ((insertAudit_logsMoves _).related hu)

theorem generateRecommendation_logsMoves {env : Env} {pipeline : Pipeline} {caseId : UUID} :
    LogsMoves env.now s (generateRecommendation env pipeline caseId) := by
  refine .get_bind ?_
  rcases hcase : s.recoveryCases[caseId]? with _ | case
  · exact .of_throw
  dsimp only
  rcases pipeline case s.transactions[case.triggerTransactionId]?
    s.customers[case.customerId]? (s.attemptsOf caseId).length with _ | recommendation
  · exact .of_throw
  have hfinish : ∀ (t : Store) (decisionId : UUID), LogsMoves env.now t (do
      modify fun s => s.modifyCase caseId fun c =>
        { c with
          metadataJson :=
            Dict.set c.metadataJson "latest_recommendation" (.obj recommendation.auditPayload) }
      return decisionId : Service UUID) :=
    fun t _ => .modify_bind (.modifyCase t caseId fun _ => rfl) (.of_pure _)
  refine .bind ?_ fun decisionId t ht _ => .bind (record_logsMoves ..) fun _ u hu _ => ?_
  · exact .get_bind (LogsMoves.of_same fun _ _ h => by cases h; exact ⟨rfl, rfl⟩)
  refine .ite (fun hdetected => ?_) fun _ => hfinish u decisionId
  have hcase' : u.recoveryCases[caseId]? = some case := by
    rw [insertAudit_ok hu]
    cases ht
    exact hcase
  exact .bind (advance_logsMoves hcase' hdetected) fun _ v _ _ => hfinish v decisionId

end IntelligenceOrchestrator

namespace PolicyEngineService

theorem synchronizeCase_logsMoves {env : Env} {request : PolicyEvaluationRequest}
    {case : RecoveryCase} {reasons : List String} {toState : RecoveryCaseState}
    (hcase : s.recoveryCases[request.caseId]? = some case) (hchange : toState ≠ case.state) :
    LogsMoves env.now s (synchronizeCase env request case reasons toState) := by
  let entry : CaseStateTransition :=
    { caseId := request.caseId, fromState := some case.state, toState
      reasonCode := reasons.headD "POLICY_EVALUATION", actorType := request.actorType
      occurredAt := env.now.naive, sequenceNumber := s.nextTransitionNumber request.caseId }
  refine .of_ok fun a u h => ?_
  unfold synchronizeCase at h
  rw [Tx.modify_bind_apply, Tx.get_bind_apply] at h
  rw [insertTransition_ok h]
  exact Strokes.moved case entry (applyTransition env toState) hcase rfl rfl hchange rfl

theorem evaluate_logsMoves {env : Env} {config : PolicyConfig} {request : PolicyEvaluationRequest} :
    LogsMoves env.now s (evaluate env config request) := by
  refine .get_bind ?_
  rcases replayed s request with _ | record
  case some =>
    dsimp only
    rcases toEvaluationResult record with fault | result
    · exact .of_throw
    · exact .of_pure _
  dsimp only
  rcases hcase : s.recoveryCases[request.caseId]? with _ | case
  · exact .of_pure _
  rcases s.decisions[request.recommendationId]? with _ | recommendation
  · exact .of_pure _
  dsimp only
  rcases ruleResults env config s request case recommendation
    (request.proposedAction.getD recommendation.actionType) with fault | results
  · exact .of_throw
  refine .bind ?_ fun _ _ _ _ => .of_pure _
  refine .bind ?_ fun _ t ht _ => ?_
  · exact .get_bind (LogsMoves.of_same fun _ _ h => by cases h; exact ⟨rfl, rfl⟩)
  refine .modify_bind (.of_same rfl rfl) (.ite (fun hmoves => ?_) fun _ => record_logsMoves ..)
  have hcase' : t.recoveryCases[request.caseId]? = some case := by
    cases ht
    exact hcase
  exact .bind (synchronizeCase_logsMoves hcase' hmoves) fun _ _ _ _ => record_logsMoves ..

end PolicyEngineService

/-! ## Reconciliation -/

namespace PaymentReconciliationService

/-- A reconciliation that settles a case finds it waiting for its verification. -/
def SettlesVerified (provider : StatusProvider) (autoResolve : Bool) (s : Store)
    (caseId : UUID) : Prop :=
  ∀ case txn providerStatus, Compares provider s caseId case txn providerStatus →
    Settles autoResolve case txn providerStatus → case.state = .VERIFICATION_PENDING

theorem resolveToSucceeded_logsMoves {env : Env} {caseId : UUID} {case : RecoveryCase}
    (hverified : case.state ∉ [RecoveryCaseState.RECOVERED, .CLOSED] →
      case.state = .VERIFICATION_PENDING) :
    LogsMoves env.now s (resolveToSucceeded env caseId case) := by
  refine .modify_bind (.of_same rfl rfl) (.ite (fun hopen => ?_) fun _ => .of_pure _)
  rw [if_pos (hverified hopen)]
  exact .bind CaseTransitionService.transition_logsMoves fun _ _ _ _ => .of_pure _

theorem resolveToFailed_logsMoves {env : Env} {caseId : UUID} {case : RecoveryCase} :
    LogsMoves env.now s (resolveToFailed env caseId case) := by
  refine .modify_bind (.of_same rfl rfl) (.ite (fun _ => ?_) fun _ => .of_pure _)
  exact .bind CaseTransitionService.transition_logsMoves fun _ _ _ _ => .of_pure _

theorem compareAndResolve_logsMoves {env : Env} {autoResolve : Bool} {caseId : UUID}
    {case : RecoveryCase} {txn : Transaction} {providerStatus : ExecutionStatus}
    (hverified : Settles autoResolve case txn providerStatus → case.state = .VERIFICATION_PENDING) :
    LogsMoves env.now s (compareAndResolve env autoResolve caseId case txn providerStatus) := by
  unfold compareAndResolve
  refine .ite (fun hsucceeded => ?_) fun _ => .ite (fun _ => ?_) fun _ =>
    .ite (fun _ => ?_) fun _ => .of_pure _
  · refine .ite (fun hauto => ?_) fun _ => .of_pure _
    refine .bind (resolveToSucceeded_logsMoves fun hopen => ?_) fun _ _ _ _ => .of_pure _
    exact hverified ⟨hauto, hsucceeded.1, hsucceeded.2, hopen⟩
  · refine .ite (fun _ => ?_) fun _ => .of_pure _
    exact .bind resolveToFailed_logsMoves fun _ _ _ _ => .of_pure _
  · refine .ite (fun _ => ?_) fun _ => .of_pure _
    exact .bind CaseTransitionService.transition_logsMoves fun _ _ _ _ => .of_pure _

theorem reconcileCase_logsMoves {env : Env} {provider : StatusProvider} {autoResolve : Bool}
    {caseId : UUID} (hverified : SettlesVerified provider autoResolve s caseId) :
    LogsMoves env.now s (reconcileCase env provider autoResolve caseId) := by
  refine .get_bind ?_
  rcases hcase : s.recoveryCases[caseId]? with _ | case
  · exact .of_throw
  dsimp only
  rcases htxn : s.transactions[case.triggerTransactionId]? with _ | txn
  · exact .of_throw
  dsimp only
  rcases hanswer : providerStatusOf provider (providerReference s caseId txn)
    with fault | providerStatus
  · exact .of_throw
  refine .bind (compareAndResolve_logsMoves (hverified _ _ _ ⟨hcase, htxn, hanswer⟩)) fun _ _ _ _ => ?_
  refine .bind (.get_bind (insertAudit_logsMoves _)) fun _ _ _ _ => .get_bind (.of_pure _)

end PaymentReconciliationService

/-! ## Execution requests -/

namespace WorkflowExecutionService

/-- The cases and their log move in strokes; what was sent does not matter here. -/
def logTrace (now : Datetime) : Trace Session Submission where
  done s _ t := Strokes now s.db t.db
  failed _ _ := True
  refl _ := .refl
  trans h h' := Relation.ReflTransGen.trans h h'
  fail _ _ := trivial

variable {env : Env} {session : Session}

theorem onDb_logs {α : Type} {x : Service α} (hx : LogsMoves now session.db x) :
    Req.Follows (logTrace now) session (onDb x) := by
  constructor
  unfold onDb
  rw [Req.wp_onPart]
  exact hx.wp

/-- Rewriting a workflow leaves the cases alone. -/
theorem modify_logsMoves {f : Store → Store} (hcases : (f s).recoveryCases = s.recoveryCases)
    (hlog : (f s).transitions = s.transitions) : LogsMoves now s (modify f) :=
  .of_modify (.of_same hcases hlog)

theorem executeValidateAuthorization_logsMoves {workflowId : UUID} {position : ℕ}
    {step : WorkflowStep} {caseId : UUID} :
    LogsMoves env.now s (executeValidateAuthorization env workflowId position step caseId) := by
  refine .get_bind ?_
  rcases WorkflowRevalidationService.revalidateForExecution env s caseId step.actionType
    with fault | reval
  · exact .of_throw
  refine .ite (fun _ => modify_logsMoves rfl rfl) fun _ => ?_
  refine .modify_bind (.of_same rfl rfl) (.modify_bind (.of_same rfl rfl) ?_)
  exact .bind CaseTransitionService.transition_logsMoves fun _ _ _ _ => .of_pure _

theorem startStep_logsMoves (workflowId : UUID) (position : ℕ) :
    LogsMoves now s (startStep workflowId position) :=
  .modify_bind (.of_same rfl rfl) (modify_logsMoves rfl rfl)

theorem executeAwaitVerification_logsMoves (workflowId : UUID) (position : ℕ) :
    LogsMoves now s (executeAwaitVerification workflowId position) :=
  .modify_bind (.of_same rfl rfl) (modify_logsMoves rfl rfl)

theorem prepareDispatch_logsMoves {workflowId : UUID} {position : ℕ} {step : WorkflowStep}
    {caseId : UUID} {override : Dict} :
    LogsMoves now s (prepareDispatch env workflowId position step caseId override) := by
  refine LogsMoves.of_same fun prepared t h => ?_
  rcases prepareDispatch_ok h with ⟨-, message, executedAt, rfl⟩ | ⟨_, _, _, _, -, hdispatched⟩
  · exact ⟨rfl, rfl⟩
  · rw [hdispatched.after]
    exact ⟨rfl, rfl⟩

theorem followingMove_logsMoves {caseId : UUID} {status : ExecutionStatus} {priorAttempts : ℕ}
    (u : Store) : LogsMoves env.now u
      (match transitionAfter status priorAttempts with
      | some (target, reasonCode) => do
        let _ ← CaseTransitionService.transition env caseId target reasonCode .SYSTEM
      | none => pure () : Service Unit) := by
  rcases transitionAfter status priorAttempts with _ | ⟨target, reasonCode⟩
  · exact .of_pure _
  · exact .bind CaseTransitionService.transition_logsMoves fun _ _ _ _ => .of_pure _

theorem recordOutcome_logsMoves {workflowId : UUID} {position : ℕ} {step : WorkflowStep}
    {caseId : UUID} {prepared : PreparedRetry} {res : ExecutionResult} :
    LogsMoves env.now s (recordOutcome env workflowId position step caseId prepared res) := by
  refine .bind (.get_bind (requireFree_set_same rfl rfl)) fun _ t _ _ => ?_
  refine .modify_bind (.of_same rfl rfl) (.modify_bind (.of_same rfl rfl) ?_)
  rcases workflowStatusAfter res.status with _ | status
  · exact followingMove_logsMoves _
  · exact .modify_bind (.of_same rfl rfl) (followingMove_logsMoves _)

theorem executeDispatchPaymentRetry_logs {provider : Provider} {workflowId : UUID} {position : ℕ}
    {step : WorkflowStep} {caseId : UUID} {override : Dict} :
    Req.Follows (logTrace env.now) session
      (executeDispatchPaymentRetry env provider workflowId position step caseId override) := by
  constructor
  refine executeDispatchPaymentRetry_wp (fun _ => trivial) (fun u hrefused => ?_)
    (fun _ _ _ _ => trivial) fun prepared u res executed hprepare _ => ?_
  · exact prepareDispatch_logsMoves.related hrefused
  · have hu : Strokes env.now session.db u := prepareDispatch_logsMoves.related hprepare
    exact Tx.wp_mono recordOutcome_logsMoves.wp (fun _ v hv _ => hu.trans hv) fun _ _ => trivial

theorem runStep_logs {provider : Provider} {workflowId : UUID} {position : ℕ} {step : WorkflowStep}
    {caseId : UUID} {override : Dict} :
    Req.Follows (logTrace env.now) session
      (runStep env provider workflowId position step caseId override) := by
  unfold runStep
  cases step.stepType with
  | VALIDATE_AUTHORIZATION => exact onDb_logs executeValidateAuthorization_logsMoves
  | WAIT_COOLDOWN => exact onDb_logs (modify_logsMoves rfl rfl)
  | DISPATCH_PAYMENT_RETRY => exact executeDispatchPaymentRetry_logs
  | AWAIT_VERIFICATION => exact onDb_logs (executeAwaitVerification_logsMoves ..)
  | DISPATCH_COMMUNICATION => exact onDb_logs (modify_logsMoves rfl rfl)
  | CREATE_SUPPORT_TASK => exact onDb_logs (modify_logsMoves rfl rfl)

theorem executeNextStep_logs {provider : Provider} {workflowId : UUID} {override : Dict} :
    Req.Follows (logTrace env.now) session
      (executeNextStep env provider workflowId override) := by
  refine .get_bind ?_
  rcases session.db.workflows[workflowId]? with _ | workflow
  · exact .of_throw trivial
  refine .ite (fun _ => .of_throw trivial) fun _ => ?_
  rcases session.db.recoveryCases[workflow.caseId]? with _ | case
  · exact .of_throw trivial
  dsimp only
  rcases nextPending workflow with _ | ⟨position, step⟩
  · exact .bind (onDb_logs (modify_logsMoves rfl rfl)) fun _ _ _ _ _ => .of_pure _
  · refine .bind (onDb_logs (startStep_logsMoves ..)) fun _ _ _ _ _ => ?_
    exact .bind runStep_logs fun _ _ _ _ _ => .get_bind (.of_pure _)

theorem runAvailableSteps_logs {provider : Provider} {workflowId : UUID} {override : Dict}
    (iterations : ℕ) {session : Session} :
    Req.Follows (logTrace env.now) session
      (runAvailableSteps env provider workflowId override iterations) := by
  induction iterations generalizing session with
  | zero => exact .of_pure _
  | succ iterations ih =>
    refine .get_bind ?_
    rcases session.db.workflows[workflowId]? with _ | workflow
    · exact .of_throw trivial
    refine .ite (fun _ => .of_pure _) fun _ => .ite (fun _ => ?_) fun _ => ?_
    · exact onDb_logs (modify_logsMoves rfl rfl)
    · refine .bind executeNextStep_logs fun _ _ _ _ _ => ?_
      exact .ite (fun _ => .of_pure _) fun _ => ih

theorem execute_logs {provider : Provider} {workflowId : UUID} {executeAll : Bool}
    {override : Dict} :
    Req.Follows (logTrace env.now) session
      (execute env provider workflowId executeAll override) := by
  refine .ite (fun _ => ?_) fun _ => ?_
  · refine .get_bind ?_
    rcases session.db.workflows[workflowId]? with _ | workflow
    · exact .of_throw trivial
    · exact runAvailableSteps_logs _
  · exact .bind executeNextStep_logs fun _ _ _ _ _ => .of_pure _

end WorkflowExecutionService

end RevenueRescue
