import RevenueRescue.Refinement.RequestMoves

/-!
# The surplus of audit records

Whatever moves a case also writes an audit record about it, and a recommendation writes one more
record than it moves the case. So the audit log of a case is never behind its transition log,
and from the first recommendation on it is ahead for good. A transition of the table writes the
number of its entry into the audit log; it is carried out only where the two logs stand at the
same number, hence never on a case with a recommendation.
-/

namespace RevenueRescue

open Python

/-- The audit logs are dense and not behind the transition logs; a recommendation puts the log of
its case ahead. -/
structure AuditsAhead (s : Store) : Prop where
  dense : AuditLogsDense s
  covered : ∀ caseId, s.nextTransitionNumber caseId ≤ s.nextAuditNumber caseId
  recommended : ∀ decision ∈ s.decisions,
    s.nextTransitionNumber decision.caseId < s.nextAuditNumber decision.caseId

/-- The order on stores in which what is known of the logs is not lost. -/
abbrev KeepsAhead (s t : Store) : Prop := AuditsAhead s → AuditsAhead t

instance : Std.Refl KeepsAhead := ⟨fun _ h => h⟩

instance : IsTrans Store KeepsAhead := ⟨fun _ _ _ h h' => h' ∘ h⟩

variable {env : Env} {s t : Store} {caseId : UUID} {case : RecoveryCase}

theorem AuditsAhead.empty : AuditsAhead Store.empty :=
  ⟨fun _ => Numbering.dense_nil, fun _ => Nat.le_refl _, fun _ h => by cases h⟩

theorem nextTransitionNumber_of_same (h : t.transitions = s.transitions) (id : UUID) :
    t.nextTransitionNumber id = s.nextTransitionNumber id := by
  unfold Store.nextTransitionNumber Store.transitionNumbers Store.transitionsOf
  rw [h]

/-- Recommendations are only rewritten, and the logs are the same. -/
theorem KeepsAhead.of_same (htransitions : t.transitions = s.transitions)
    (haudits : t.auditEvents = s.auditEvents)
    (hdecisions : t.decisions.map AgentDecision.caseId = s.decisions.map AgentDecision.caseId) :
    KeepsAhead s t := by
  intro h
  have hnumbers : ∀ id, t.auditNumbers id = s.auditNumbers id := fun id => by
    unfold Store.auditNumbers Store.auditsOf
    rw [haudits]
  have hnext : ∀ id, t.nextAuditNumber id = s.nextAuditNumber id := fun id => by
    unfold Store.nextAuditNumber
    rw [hnumbers]
  have hnext' := nextTransitionNumber_of_same htransitions
  refine ⟨fun id => ?_, fun id => ?_, fun decision hdecision => ?_⟩
  · rw [hnumbers]
    exact h.dense id
  · rw [hnext, hnext']
    exact h.covered id
  · have hmem := List.mem_map_of_mem (f := AgentDecision.caseId) hdecision
    rw [hdecisions] at hmem
    obtain ⟨before, hbefore, hcase⟩ := List.mem_map.mp hmem
    rw [hnext, hnext', ← hcase]
    exact h.recommended before hbefore

/-! ## The next numbers after one more row -/

theorem auditNumbers_append {row : AuditEvent} (h : t.auditEvents = s.auditEvents ++ [row])
    (id : UUID) :
    t.auditNumbers id =
      s.auditNumbers id ++ if row.caseId = id then [row.sequenceNumber] else [] := by
  unfold Store.auditNumbers Store.auditsOf
  rw [h]
  by_cases hcase : row.caseId = id <;> simp [List.filter_append, hcase]

theorem transitionNumbers_append {row : CaseStateTransition}
    (h : t.transitions = s.transitions ++ [row]) (id : UUID) :
    t.transitionNumbers id =
      s.transitionNumbers id ++ if row.caseId = id then [row.sequenceNumber] else [] := by
  unfold Store.transitionNumbers Store.transitionsOf
  rw [h]
  by_cases hcase : row.caseId = id <;> simp [List.filter_append, hcase]

/-- One more record that continues the audit log of its case, while the transition log goes up by
at most one number; a recommendation that is new does not come with a transition. -/
theorem KeepsAhead.of_next {row : AuditEvent}
    (hnumber : row.sequenceNumber = s.nextAuditNumber row.caseId)
    (haudits : t.auditEvents = s.auditEvents ++ [row])
    (hothers : ∀ id, row.caseId ≠ id → t.nextTransitionNumber id = s.nextTransitionNumber id)
    (hown : t.nextTransitionNumber row.caseId ≤ s.nextTransitionNumber row.caseId + 1)
    (hdecisions : ∀ decision ∈ t.decisions,
      (decision.caseId = row.caseId ∧
        t.nextTransitionNumber row.caseId = s.nextTransitionNumber row.caseId) ∨
        ∃ before ∈ s.decisions, before.caseId = decision.caseId) :
    KeepsAhead s t := by
  intro h
  have hnumbers := auditNumbers_append haudits
  have hnext : t.nextAuditNumber row.caseId = s.nextAuditNumber row.caseId + 1 := by
    unfold Store.nextAuditNumber
    rw [hnumbers, if_pos rfl, hnumber]
    exact Numbering.next_append_next _
  have hnext' : ∀ id, row.caseId ≠ id → t.nextAuditNumber id = s.nextAuditNumber id := by
    intro id hne
    unfold Store.nextAuditNumber
    rw [hnumbers, if_neg hne, List.append_nil]
  have hcovered := h.covered row.caseId
  refine ⟨fun id => ?_, fun id => ?_, fun decision hdecision => ?_⟩
  · rw [hnumbers]
    by_cases hid : row.caseId = id
    · rw [if_pos hid, hnumber, hid]
      exact (h.dense id).append_next
    · rw [if_neg hid, List.append_nil]
      exact h.dense id
  · by_cases hid : row.caseId = id
    · subst hid
      omega
    · rw [hnext' id hid, hothers id hid]
      exact h.covered id
  · rcases hdecisions decision hdecision with ⟨hid, hsame⟩ | ⟨before, hbefore, hcase⟩
    · rw [hid]
      omega
    · have hbefore := h.recommended before hbefore
      rw [hcase] at hbefore
      by_cases hid : row.caseId = decision.caseId
      · rw [← hid] at hbefore ⊢
        omega
      · rw [hnext' _ hid, hothers _ hid]
        exact hbefore

/-- A record without a transition, and perhaps with a recommendation. -/
theorem KeepsAhead.of_record {row : AuditEvent}
    (hnumber : row.sequenceNumber = s.nextAuditNumber row.caseId)
    (haudits : t.auditEvents = s.auditEvents ++ [row]) (htransitions : t.transitions = s.transitions)
    (hdecisions : ∀ decision ∈ t.decisions,
      decision.caseId = row.caseId ∨ ∃ before ∈ s.decisions, before.caseId = decision.caseId) :
    KeepsAhead s t := by
  have hsame := nextTransitionNumber_of_same htransitions
  refine .of_next hnumber haudits (fun id _ => hsame id) ?_ fun decision hdecision => ?_
  · rw [hsame]
    exact Nat.le_succ _
  · exact (hdecisions decision hdecision).imp_left fun hid => ⟨hid, hsame _⟩

/-- A record with a transition that has at most the next number of its log. -/
theorem KeepsAhead.of_entry {entry : CaseStateTransition} {row : AuditEvent}
    (hnumber : row.sequenceNumber = s.nextAuditNumber row.caseId)
    (haudits : t.auditEvents = s.auditEvents ++ [row]) (hcase : entry.caseId = row.caseId)
    (hentry : entry.sequenceNumber ≤ s.nextTransitionNumber row.caseId)
    (htransitions : t.transitions = s.transitions ++ [entry])
    (hdecisions : ∀ decision ∈ t.decisions,
      ∃ before ∈ s.decisions, before.caseId = decision.caseId) : KeepsAhead s t := by
  have hnumbers := transitionNumbers_append htransitions
  refine .of_next hnumber haudits (fun id hne => ?_) ?_ fun decision hdecision =>
    .inr (hdecisions decision hdecision)
  · unfold Store.nextTransitionNumber
    rw [hnumbers, if_neg (by rw [hcase]; exact hne), List.append_nil]
  · unfold Store.nextTransitionNumber at hentry ⊢
    rw [hnumbers, if_pos hcase, Numbering.next_append]
    exact max_le (Nat.le_succ _) (Nat.succ_le_succ hentry)

/-- Where a transition of the table is carried out, both logs stand at the same number. -/
theorem AuditsAhead.carriesOut (h : AuditsAhead s) {toState : RecoveryCaseState}
    (hcarries : CaseTransitionService.CarriesOut s caseId toState case) :
    s.nextTransitionNumber caseId = s.nextAuditNumber caseId := by
  have hcovered := h.covered caseId
  have hdense : s.auditNumbers caseId = List.range' 1 (s.auditNumbers caseId).length :=
    h.dense caseId
  have hnext : s.nextAuditNumber caseId = (s.auditNumbers caseId).length + 1 :=
    (h.dense caseId).next_eq
  have hfirst : 1 ≤ s.nextTransitionNumber caseId := Nat.le_add_left 1 _
  have hfree := hcarries.numberFree
  rw [hdense, List.mem_range'_1] at hfree
  omega

/-- So the case has no recommendation. -/
theorem AuditsAhead.not_recommended (h : AuditsAhead s) {toState : RecoveryCaseState}
    (hcarries : CaseTransitionService.CarriesOut s caseId toState case) :
    ∀ decision ∈ s.decisions, decision.caseId ≠ caseId := by
  rintro decision hdecision rfl
  have hahead := h.recommended decision hdecision
  rw [h.carriesOut hcarries] at hahead
  exact Nat.lt_irrefl _ hahead

/-! ## Events -/

namespace EventToCaseEngine

theorem provisioned_keepsAhead (s : Store) (event : CanonicalEventDTO) :
    KeepsAhead s (provisioned s event) := by
  refine .of_same ?_ ?_ ?_ <;>
  · unfold provisioned withTransaction withCustomer
    split <;> split <;> rfl

theorem Delivered.keepsAhead {event : CanonicalEventDTO} (h : Delivered env event s t) :
    KeepsAhead s t := by
  have hprovisioned := provisioned_keepsAhead s event
  have hold : ∀ decision ∈ (provisioned s event).decisions,
      ∃ before ∈ (provisioned s event).decisions, before.caseId = decision.caseId :=
    fun decision h => ⟨decision, h, rfl⟩
  cases h with
  | ignored _ => exact fun h => h
  | unmatched _ _ => exact hprovisioned
  | settled _ _ _ => exact hprovisioned
  | resolved _ _ _ =>
    intro hs
    exact KeepsAhead.of_entry rfl rfl rfl (Nat.le_refl _) rfl hold (hprovisioned hs)
  | updated _ _ _ _ _ _ =>
    intro hs
    exact KeepsAhead.of_record rfl rfl rfl (fun decision h => .inr (hold decision h))
      (hprovisioned hs)
  | uncounted _ _ _ => exact fun h => h
  | opened _ _ _ _ =>
    intro hs
    exact KeepsAhead.of_entry rfl rfl rfl (Nat.le_add_left 1 _) rfl hold (hprovisioned hs)
  | unclassified _ _ _ => exact fun h => h
  | refused _ _ _ => exact fun h => h

end EventToCaseEngine

theorem EventService.ingestCanonicalEvent_keepsAhead (event : CanonicalEventDTO)
    (payloadHash : String) (signatureVerified : Bool) :
    KeepsAhead s ((ingestCanonicalEvent env event payloadHash signatureVerified).commit s) := by
  rcases ingestCanonicalEvent_commit env event payloadHash signatureVerified s with
    hsame | ⟨-, -, outcome, u, hrun, hcommit⟩
  · rw [hsame]
    exact fun h => h
  have hdelivered := EventToCaseEngine.delivered_of_ok hrun
  rw [hcommit]
  have hreceived : KeepsAhead s (received s event payloadHash signatureVerified) :=
    .of_same rfl rfl rfl
  have hprocessed : KeepsAhead u (processed u s.webhookEvents.length) := .of_same rfl rfl rfl
  exact hprocessed ∘ hdelivered.keepsAhead ∘ hreceived

/-! ## Recommendations and decisions -/

/-- A recommendation writes one record more than it moves its case. -/
theorem IntelligenceOrchestrator.recommended_keepsAhead (r : Recommendation) :
    KeepsAhead s (recommended env s caseId case r) := by
  have hstored : KeepsAhead s (stored env s caseId case r) := by
    refine .of_record rfl rfl rfl ?_
    exact Table.forall_append_one (fun decision h => .inr ⟨decision, h, rfl⟩) (.inl rfl)
  by_cases hdetected : case.state = .DETECTED
  · rw [recommended_detected hdetected]
    have hadvanced : KeepsAhead (stored env s caseId case r)
        (advanced env (stored env s caseId case r) caseId case) :=
      .of_entry rfl rfl rfl (Nat.le_refl _) rfl fun decision h => ⟨decision, h, rfl⟩
    have hsnapshot : KeepsAhead (advanced env (stored env s caseId case r) caseId case)
        ((advanced env (stored env s caseId case r) caseId case).modifyCase caseId (snapshot r)) :=
      .of_same rfl rfl rfl
    exact hsnapshot ∘ hadvanced ∘ hstored
  · rw [recommended_open hdetected]
    have hsnapshot : KeepsAhead (stored env s caseId case r)
        ((stored env s caseId case r).modifyCase caseId (snapshot r)) := .of_same rfl rfl rfl
    exact hsnapshot ∘ hstored

theorem PolicyEngineService.persisted_keepsAhead (request : PolicyEvaluationRequest)
    (decision : PolicyDecision) : KeepsAhead s (persisted env s request case decision) := by
  have hold : ∀ row ∈ (decided s request decision).decisions,
      ∃ before ∈ s.decisions, before.caseId = row.caseId := by
    refine Table.forall_modify (fun row h => ⟨row, h, rfl⟩) fun row hrow _ => ?_
    exact ⟨row, List.mem_of_getElem? hrow, rfl⟩
  unfold persisted
  dsimp only
  split
  · exact .of_entry rfl rfl rfl (Nat.le_refl _) rfl hold
  · exact .of_record rfl rfl rfl fun row h => .inr (hold row h)

/-! ## Transitions and reconciliations -/

/-- A transition that is carried out continues both logs. -/
theorem CaseTransitionService.transitioned_keepsAhead {toState : RecoveryCaseState}
    {reasonCode : String} {actorType : ActorType} (hcarries : CarriesOut s caseId toState case)
    (htransitions : t.transitions =
      s.transitions ++ [transitionEntry env s caseId case toState reasonCode actorType])
    (haudits : t.auditEvents =
      s.auditEvents ++ [transitionRecord env s caseId case toState actorType])
    (hdecisions : t.decisions = s.decisions) : KeepsAhead s t := by
  intro h
  refine KeepsAhead.of_entry ?_ haudits rfl (Nat.le_refl _) htransitions (fun decision hrow => ?_) h
  · exact h.carriesOut hcarries
  · exact ⟨decision, hdecisions ▸ hrow, rfl⟩

theorem CaseTransitionService.transition_keepsAhead (toState : RecoveryCaseState)
    (reasonCode : String) (actorType : ActorType) :
    Tx.Respects KeepsAhead s (transition env caseId toState reasonCode actorType) := by
  refine .of_ok fun _ t h => ?_
  obtain ⟨case, hcarries, rfl⟩ := of_transition h
  exact transitioned_keepsAhead hcarries rfl rfl rfl

namespace PaymentReconciliationService

variable {provider : StatusProvider} {autoResolve : Bool} {txn : Transaction}
  {providerStatus : ExecutionStatus}

/-- In a dense log the length tells the next number. -/
theorem recordReconciled_keepsAhead : Tx.Respects KeepsAhead s (recordReconciled env caseId) := by
  refine .get_bind (.of_ok fun _ t hrun h => ?_)
  have hlength : (s.auditsOf caseId).length + 1 = s.nextAuditNumber caseId := by
    have hnext : s.nextAuditNumber caseId = (s.auditNumbers caseId).length + 1 :=
      (h.dense caseId).next_eq
    rw [hnext]
    unfold Store.auditNumbers
    rw [List.length_map]
  rw [insertAudit_ok hrun]
  exact KeepsAhead.of_record hlength rfl rfl (fun decision hrow => .inr ⟨decision, hrow, rfl⟩) h

theorem compareAndResolve_keepsAhead :
    Tx.Respects KeepsAhead s
      (compareAndResolve env autoResolve caseId case txn providerStatus) := by
  have hcases : ∀ (u : Store) f, KeepsAhead u (u.modifyCase caseId f) := fun _ _ =>
    .of_same rfl rfl rfl
  have hstatus : ∀ (u : Store) id f, KeepsAhead u (u.modifyTransaction id f) := fun _ _ _ =>
    .of_same rfl rfl rfl
  unfold compareAndResolve
  refine .ite (fun _ => ?_) fun _ => .ite (fun _ => ?_) fun _ => .ite (fun _ => ?_) fun _ =>
    .of_pure _
  · refine .ite (fun _ => .bind ?_ fun _ _ _ _ => .of_pure _) fun _ => .of_pure _
    refine .modify_bind (hstatus _ _ _) (.ite (fun _ => .ite (fun _ => ?_) fun _ => ?_) fun _ =>
      .of_pure _)
    · exact .bind (CaseTransitionService.transition_keepsAhead ..) fun _ _ _ _ => .of_pure _
    · exact .of_modify (hcases _ _)
  · refine .ite (fun _ => .bind ?_ fun _ _ _ _ => .of_pure _) fun _ => .of_pure _
    refine .modify_bind (hstatus _ _ _) (.ite (fun _ => ?_) fun _ => .of_pure _)
    exact .bind (CaseTransitionService.transition_keepsAhead ..) fun _ _ _ _ => .of_pure _
  · refine .ite (fun _ => ?_) fun _ => .of_pure _
    exact .bind (CaseTransitionService.transition_keepsAhead ..) fun _ _ _ _ => .of_pure _

theorem reconcileCase_keepsAhead :
    Tx.Respects KeepsAhead s (reconcileCase env provider autoResolve caseId) := by
  refine .get_bind ?_
  rcases s.recoveryCases[caseId]? with _ | case
  · exact .of_throw
  dsimp only
  rcases s.transactions[case.triggerTransactionId]? with _ | txn
  · exact .of_throw
  dsimp only
  rcases providerStatusOf provider (providerReference s caseId txn) with fault | providerStatus
  · exact .of_throw
  refine .bind compareAndResolve_keepsAhead fun _ _ _ _ => ?_
  exact .bind recordReconciled_keepsAhead fun _ _ _ _ => .get_bind (.of_pure _)

end PaymentReconciliationService

/-! ## Runs -/

/-- Every operation keeps the audit logs ahead. -/
theorem Operation.keepsAhead (config : PolicyConfig) (env : Env) (s : Store) (op : Operation) :
    KeepsAhead s ((op.service config env).commit s) := by
  cases op with
  | processEvent event =>
    rw [Operation.service, World.ignoringResult_commit]
    exact (EventToCaseEngine.delivered env event s).keepsAhead
  | ingestEvent event payloadHash signatureVerified =>
    rw [Operation.service, World.ignoringResult_commit]
    exact EventService.ingestCanonicalEvent_keepsAhead event payloadHash signatureVerified
  | createCase uuid4 dto =>
    rw [Operation.service, World.ignoringResult_commit]
    refine Tx.Respects.commit (.of_ok fun _ t h => ?_)
    obtain ⟨-, -, -, -, rfl⟩ := RecoveryCaseService.createCase_ok h
    exact .of_record rfl rfl rfl fun decision h => .inr ⟨decision, h, rfl⟩
  | transitionState caseId dto =>
    refine Tx.Respects.commit (.of_ok fun _ t h => ?_)
    obtain ⟨case, -, -, -, rfl⟩ := RecoveryCaseService.of_transitionState h
    exact .of_entry rfl rfl rfl (Nat.le_refl _) rfl fun decision h => ⟨decision, h, rfl⟩
  | updateCase caseId dto actorId =>
    refine Tx.Respects.commit (.of_ok fun _ t h => ?_)
    rcases RecoveryCaseService.updateCase_ok h with rfl | ⟨case, actorType, -, -, rfl⟩
    · exact fun h => h
    · exact .of_record rfl rfl rfl fun decision h => .inr ⟨decision, h, rfl⟩
  | detectAndCreateCase transactionId =>
    rw [Operation.service, World.ignoringResult_commit]
    refine Tx.Respects.commit (.of_ok fun _ t h => ?_)
    rcases RiskCaseService.detectAndCreateCase_ok h with
      rfl | ⟨_, row, -, -, -, -, -, -, -, -, rfl⟩
    · exact fun h => h
    · exact .of_same rfl rfl rfl
  | generateRecommendation pipeline caseId =>
    rw [Operation.service, World.ignoringResult_commit]
    refine Tx.Respects.commit (.of_ok fun _ t h => ?_)
    obtain ⟨case, r, -, -, -, -, rfl⟩ := IntelligenceOrchestrator.of_generateRecommendation h
    exact IntelligenceOrchestrator.recommended_keepsAhead r
  | evaluate request =>
    rw [Operation.service, World.ignoringResult_commit]
    refine Tx.Respects.commit (.of_ok fun _ t h => ?_)
    by_cases hdecides : ∃ case recommendation results,
        PolicyEngineService.Decides config env request s case recommendation results
    · obtain ⟨case, recommendation, results, hdecides⟩ := hdecides
      rw [hdecides.evaluate_apply] at h
      cases h
      exact PolicyEngineService.persisted_keepsAhead request _
    · rw [PolicyEngineService.evaluate_same (fun case recommendation results hd =>
        hdecides ⟨case, recommendation, results, hd⟩) h]
      exact fun h => h
  | transition caseId toState reasonCode actorType =>
    rw [Operation.service, World.ignoringResult_commit]
    exact Tx.Respects.commit (CaseTransitionService.transition_keepsAhead ..)
  | reconcileCase provider autoResolve caseId =>
    rw [Operation.service, World.ignoringResult_commit]
    exact Tx.Respects.commit PaymentReconciliationService.reconcileCase_keepsAhead
  | _ =>
    refine Operation.respects (fun _ => .of_same rfl rfl rfl) (fun _ => .of_same rfl rfl rfl)
      (fun _ => .of_same rfl rfl rfl) (fun _ => .of_same rfl rfl rfl) ?_
    exact trivial

/-- The steps of an execution keep the audit logs ahead. -/
theorem WorkflowExecutionService.keepsAhead_kept {provider : Provider} {workflowId : UUID}
    {executeAll : Bool} {override : Dict} {start : Session} :
    KeptBySteps env provider workflowId executeAll override start fun u => AuditsAhead u.db := by
  intro u workflow t h hrow hopen hsingle hstepped
  cases hstepped with
  | finished hnext =>
    have hsame : KeepsAhead u.db (u.db.setWorkflowStatus workflowId .COMPLETED) :=
      .of_same rfl rfl rfl
    exact hsame h
  | ran position step outcome t hnext hyields htook hsubmissions =>
    have hdecisions := htook.retries.decisions
    rcases htook.logs with ⟨htransitions, haudits⟩ |
      ⟨case, toState, reasonCode, actorType, hcarries, htransitions, haudits⟩
    · exact KeepsAhead.of_same htransitions haudits (by rw [hdecisions]) h
    · exact CaseTransitionService.transitioned_keepsAhead hcarries htransitions haudits hdecisions h

/-- Every request keeps the audit logs ahead. -/
theorem World.step_auditsAhead {config : PolicyConfig} {w : World} (r : Request)
    (h : AuditsAhead w.db) : AuditsAhead (w.step config r).db := by
  obtain ⟨env, ask⟩ := r
  cases ask with
  | operation op =>
    cases hcrash : env.crash with
    | true =>
      have hsame : (w.step config ⟨env, .operation op⟩).db = w.db := if_pos hcrash
      rw [hsame]
      exact h
    | false =>
      have hcommit : (w.step config ⟨env, .operation op⟩).db =
          (op.service config env).commit w.db :=
        if_neg (by rw [hcrash]; exact Bool.false_ne_true)
      rw [hcommit]
      exact op.keepsAhead config env w.db h
  | execute workflowId executeAll override provider =>
    rcases World.step_execute_db with hsame | ⟨sent, session, hrun, -, hdb⟩
    · rw [hsame]
      exact h
    · rw [hdb]
      exact WorkflowExecutionService.execute_invariant
        (I := fun u => AuditsAhead u.db) WorkflowExecutionService.keepsAhead_kept h hrun
  | reconcilePending provider limit =>
    cases hcrash : env.crash with
    | true =>
      have hsame : (w.step config ⟨env, .reconcilePending provider limit⟩).db = w.db :=
        if_pos hcrash
      rw [hsame]
      exact h
    | false =>
      have hbatch : (w.step config ⟨env, .reconcilePending provider limit⟩).db =
          (PaymentReconciliationService.reconcilePendingCases env provider limit w.db).1 :=
        if_neg (by rw [hcrash]; exact Bool.false_ne_true)
      rw [hbatch]
      refine PaymentReconciliationService.reconcileEach_rule (P := fun _ u => AuditsAhead u)
        (I := AuditsAhead) (fun _ _ h => h) ?_ _ h
      intro caseId rest u report v hu hrun
      exact PaymentReconciliationService.reconcileCase_keepsAhead.related hrun hu

/-- In every reachable database the audit logs are dense and not behind the transition logs. -/
theorem World.run_auditsAhead (config : PolicyConfig) (requests : List Request) :
    AuditsAhead (World.empty.run config requests).db :=
  Run.invariant (I := fun w : World => AuditsAhead w.db)
    (fun _ r h => World.step_auditsAhead r h) requests .empty

end RevenueRescue
