import RevenueRescue.Refinement.Surplus

/-!
# What recommendations advise

A recommendation is stored by a generation, with the action and the confidence that the pipeline
answered about the rows of the moment. Nothing rewrites them: an evaluation only notes whether the
recommendation was validated. So what a stored recommendation advises goes back to one answer.
-/

namespace RevenueRescue

open Python

/-- A recommendation without the note of its validation. -/
def AgentDecision.advice (decision : AgentDecision) : AgentDecision :=
  { decision with validationStatus := .NOT_VALIDATED }

/-- What the stored recommendations advise. -/
def Store.advice (s : Store) : List AgentDecision := s.decisions.map AgentDecision.advice

/-- The preorder on stores in which no advice is new or lost. -/
abbrev SameAdvice (s t : Store) : Prop := t.advice = s.advice

instance : Std.Refl SameAdvice := ⟨fun _ => rfl⟩

instance : IsTrans Store SameAdvice := ⟨fun _ _ _ h h' => Eq.trans h' h⟩

variable {env : Env} {s t : Store} {caseId : UUID} {case : RecoveryCase}

theorem SameAdvice.of_same (h : t.decisions = s.decisions) : SameAdvice s t :=
  congrArg (List.map AgentDecision.advice) h

/-! ## Events and evaluations -/

theorem EventToCaseEngine.Delivered.sameAdvice {event : CanonicalEventDTO}
    (h : Delivered env event s t) : SameAdvice s t := by
  have hprovisioned : (provisioned s event).decisions = s.decisions := by
    unfold provisioned withTransaction withCustomer
    split <;> split <;> rfl
  refine .of_same ?_
  cases h with
  | ignored _ => rfl
  | uncounted _ _ _ => rfl
  | unclassified _ _ _ => rfl
  | refused _ _ _ => rfl
  | _ => exact hprovisioned

theorem EventService.ingestCanonicalEvent_sameAdvice (event : CanonicalEventDTO)
    (payloadHash : String) (signatureVerified : Bool) :
    SameAdvice s ((ingestCanonicalEvent env event payloadHash signatureVerified).commit s) := by
  rcases ingestCanonicalEvent_commit env event payloadHash signatureVerified s with
    hsame | ⟨-, -, outcome, u, hrun, hcommit⟩
  · exact congrArg Store.advice hsame
  · have hdelivered := (EventToCaseEngine.delivered_of_ok hrun).sameAdvice
    rw [hcommit]
    exact hdelivered

/-- A decision notes on its recommendation whether it was validated. -/
theorem PolicyEngineService.persisted_sameAdvice (request : PolicyEvaluationRequest)
    (decision : PolicyDecision) : SameAdvice s (persisted env s request case decision) := by
  have hdecided : SameAdvice s (decided s request decision) :=
    Table.map_modify (f := validated decision.decisionStatus) (fun _ => rfl) _ _
  unfold persisted
  dsimp only
  split
  · exact hdecided
  · exact hdecided

/-! ## Reconciliations -/

section Reconciliation

variable {R : Store → Store → Prop} [Std.Refl R] [IsTrans Store R]
  {provider : StatusProvider} {autoResolve : Bool}

theorem CaseTransitionService.transition_respects {toState : RecoveryCaseState}
    {reasonCode : String} {actorType : ActorType}
    (hcases : ∀ (u : Store) recoveryCases, R u { u with recoveryCases })
    (htransitions : ∀ (u : Store) transitions, R u { u with transitions })
    (haudits : ∀ (u : Store) auditEvents, R u { u with auditEvents }) :
    Tx.Respects R s (transition env caseId toState reasonCode actorType) := by
  refine .get_bind ?_
  rcases s.recoveryCases[caseId]? with _ | case
  · exact .of_throw
  refine .ite (fun _ => ?_) fun _ => .of_throw
  refine .modify_bind (hcases _ _) (.bind (.of_ok fun _ u h => ?_) fun _ _ _ _ => ?_)
  · rw [insertTransition_ok h]
    exact htransitions _ _
  · refine .bind (.of_ok fun _ v h => ?_) fun _ _ _ _ => .of_pure _
    rw [insertAudit_ok h]
    exact haudits _ _

/-- Reconciliations write to the cases, their logs and the transactions, so a preorder that does not
see these tables is respected. -/
theorem PaymentReconciliationService.reconcileCase_respects
    (hcases : ∀ (u : Store) recoveryCases, R u { u with recoveryCases })
    (htransitions : ∀ (u : Store) transitions, R u { u with transitions })
    (haudits : ∀ (u : Store) auditEvents, R u { u with auditEvents })
    (htransactions : ∀ (u : Store) transactions, R u { u with transactions }) :
    Tx.Respects R s (reconcileCase env provider autoResolve caseId) := by
  have htransition {u : Store} {toState : RecoveryCaseState} {reasonCode : String} :
      Tx.Respects R u
        (CaseTransitionService.transition env caseId toState reasonCode .SYSTEM) :=
    CaseTransitionService.transition_respects hcases htransitions haudits
  have hcompare {case : RecoveryCase} {txn : Transaction} {providerStatus : ExecutionStatus} :
      Tx.Respects R s (compareAndResolve env autoResolve caseId case txn providerStatus) := by
    unfold compareAndResolve
    refine .ite (fun _ => ?_) fun _ => .ite (fun _ => ?_) fun _ => .ite (fun _ => ?_) fun _ =>
      .of_pure _
    · refine .ite (fun _ => .bind ?_ fun _ _ _ _ => .of_pure _) fun _ => .of_pure _
      refine .modify_bind (htransactions _ _) (.ite (fun _ => .ite (fun _ => ?_) fun _ => ?_)
        fun _ => .of_pure _)
      · exact .bind htransition fun _ _ _ _ => .of_pure _
      · exact .of_modify (hcases _ _)
    · refine .ite (fun _ => .bind ?_ fun _ _ _ _ => .of_pure _) fun _ => .of_pure _
      refine .modify_bind (htransactions _ _) (.ite (fun _ => ?_) fun _ => .of_pure _)
      exact .bind htransition fun _ _ _ _ => .of_pure _
    · refine .ite (fun _ => ?_) fun _ => .of_pure _
      exact .bind htransition fun _ _ _ _ => .of_pure _
  refine .get_bind ?_
  rcases s.recoveryCases[caseId]? with _ | case
  · exact .of_throw
  dsimp only
  rcases s.transactions[case.triggerTransactionId]? with _ | txn
  · exact .of_throw
  dsimp only
  rcases providerStatusOf provider (providerReference s caseId txn) with fault | providerStatus
  · exact .of_throw
  refine .bind hcompare fun _ _ _ _ => .bind (.get_bind (.of_ok fun _ v h => ?_)) fun _ _ _ _ =>
    .get_bind (.of_pure _)
  rw [insertAudit_ok h]
  exact haudits _ _

theorem PaymentReconciliationService.reconcileCase_sameAdvice :
    Tx.Respects SameAdvice s (reconcileCase env provider autoResolve caseId) :=
  reconcileCase_respects (fun _ _ => rfl) (fun _ _ => rfl) (fun _ _ => rfl) fun _ _ => rfl

end Reconciliation

/-! ## Requests -/

/-- A generation about a stored case whose answer is stored. -/
structure Generates (s : Store) (pipeline : Pipeline) (caseId : UUID) (case : RecoveryCase)
    (r : Recommendation) : Prop where
  caseRow : s.recoveryCases[caseId]? = some case
  answers : pipeline case s.transactions[case.triggerTransactionId]? s.customers[case.customerId]?
    (s.attemptsOf caseId).length = some r

theorem IntelligenceOrchestrator.recommended_advice (r : Recommendation) :
    (recommended env s caseId case r).advice = s.advice ++ [newDecision s caseId r] := by
  have hstored : (stored env s caseId case r).advice = s.advice ++ [newDecision s caseId r] :=
    List.map_append
  by_cases hdetected : case.state = .DETECTED
  · rw [recommended_detected hdetected]
    exact hstored
  · rw [recommended_open hdetected]
    exact hstored

/-- Every operation leaves what recommendations advise as it was; a generation adds one answer. -/
theorem Operation.service_advice (config : PolicyConfig) (env : Env) (s : Store) (op : Operation) :
    SameAdvice s ((op.service config env).commit s) ∨
      ∃ pipeline caseId case r, op = .generateRecommendation pipeline caseId ∧
        Generates s pipeline caseId case r ∧
        ((op.service config env).commit s).advice =
          s.advice ++ [IntelligenceOrchestrator.newDecision s caseId r] := by
  cases op with
  | generateRecommendation pipeline caseId =>
    rw [Operation.service, World.ignoringResult_commit]
    unfold Tx.commit
    rcases hrun : IntelligenceOrchestrator.generateRecommendation env pipeline caseId s with
      fault | ⟨decisionId, t⟩
    · exact .inl rfl
    · obtain ⟨case, r, hcase, hanswer, -, -, rfl⟩ :=
        IntelligenceOrchestrator.of_generateRecommendation hrun
      exact .inr ⟨pipeline, caseId, case, r, rfl, ⟨hcase, hanswer⟩,
        IntelligenceOrchestrator.recommended_advice r⟩
  | processEvent event =>
    rw [Operation.service, World.ignoringResult_commit]
    exact .inl (EventToCaseEngine.delivered env event s).sameAdvice
  | ingestEvent event payloadHash signatureVerified =>
    rw [Operation.service, World.ignoringResult_commit]
    exact .inl (EventService.ingestCanonicalEvent_sameAdvice event payloadHash signatureVerified)
  | createCase uuid4 dto =>
    rw [Operation.service, World.ignoringResult_commit]
    refine .inl (Tx.Respects.commit (.of_ok fun _ t h => ?_))
    obtain ⟨-, -, -, -, rfl⟩ := RecoveryCaseService.createCase_ok h
    rfl
  | transitionState caseId dto =>
    refine .inl (Tx.Respects.commit (.of_ok fun _ t h => ?_))
    obtain ⟨case, -, -, -, rfl⟩ := RecoveryCaseService.of_transitionState h
    rfl
  | updateCase caseId dto actorId =>
    refine .inl (Tx.Respects.commit (.of_ok fun _ t h => ?_))
    rcases RecoveryCaseService.updateCase_ok h with rfl | ⟨case, actorType, -, -, rfl⟩
    · rfl
    · rfl
  | detectAndCreateCase transactionId =>
    rw [Operation.service, World.ignoringResult_commit]
    refine .inl (Tx.Respects.commit (.of_ok fun _ t h => ?_))
    rcases RiskCaseService.detectAndCreateCase_ok h with
      rfl | ⟨_, row, -, -, -, -, -, -, -, -, rfl⟩
    · rfl
    · rfl
  | evaluate request =>
    rw [Operation.service, World.ignoringResult_commit]
    refine .inl (Tx.Respects.commit (.of_ok fun _ t h => ?_))
    by_cases hdecides : ∃ case recommendation results,
        PolicyEngineService.Decides config env request s case recommendation results
    · obtain ⟨case, recommendation, results, hdecides⟩ := hdecides
      rw [hdecides.evaluate_apply] at h
      cases h
      exact PolicyEngineService.persisted_sameAdvice request _
    · rw [PolicyEngineService.evaluate_same (fun case recommendation results hd =>
        hdecides ⟨case, recommendation, results, hd⟩) h]
  | transition caseId toState reasonCode actorType =>
    rw [Operation.service, World.ignoringResult_commit]
    exact .inl (Tx.Respects.commit (CaseTransitionService.transition_respects (fun _ _ => rfl)
      (fun _ _ => rfl) fun _ _ => rfl))
  | reconcileCase provider autoResolve caseId =>
    rw [Operation.service, World.ignoringResult_commit]
    exact .inl (Tx.Respects.commit PaymentReconciliationService.reconcileCase_sameAdvice)
  | _ =>
    refine .inl (Operation.respects (fun _ => rfl) (fun _ => rfl) (fun _ => rfl) (fun _ => rfl) ?_)
    exact trivial

/-- The steps of an execution leave what recommendations advise as it was. -/
theorem WorkflowExecutionService.sameAdvice_kept {provider : Provider} {workflowId : UUID}
    {executeAll : Bool} {override : Dict} {start : Session} :
    KeptBySteps env provider workflowId executeAll override start fun u => SameAdvice s u.db := by
  intro u workflow t h hrow hopen hsingle hstepped
  cases hstepped with
  | finished hnext => exact h
  | ran position step outcome t hnext hyields htook hsubmissions =>
    exact (SameAdvice.of_same htook.retries.decisions).trans h

/-- Every request leaves what recommendations advise as it was; a generation adds one answer. -/
theorem World.step_advice (config : PolicyConfig) (w : World) (r : Request) :
    SameAdvice w.db (w.step config r).db ∨
      ∃ pipeline caseId case answer, r.ask = .operation (.generateRecommendation pipeline caseId) ∧
        Generates w.db pipeline caseId case answer ∧
        (w.step config r).db.advice =
          w.db.advice ++ [IntelligenceOrchestrator.newDecision w.db caseId answer] := by
  obtain ⟨env, ask⟩ := r
  cases ask with
  | operation op =>
    cases hcrash : env.crash with
    | true =>
      have hsame : (w.step config ⟨env, .operation op⟩).db = w.db := if_pos hcrash
      rw [hsame]
      exact .inl rfl
    | false =>
      have hcommit : (w.step config ⟨env, .operation op⟩).db =
          (op.service config env).commit w.db :=
        if_neg (by rw [hcrash]; exact Bool.false_ne_true)
      rw [hcommit]
      refine (op.service_advice config env w.db).imp_right ?_
      rintro ⟨pipeline, caseId, case, answer, rfl, hgenerates, hadvice⟩
      exact ⟨pipeline, caseId, case, answer, rfl, hgenerates, hadvice⟩
  | execute workflowId executeAll override provider =>
    rcases World.step_execute_db with hsame | ⟨sent, session, hrun, -, hdb⟩
    · rw [hsame]
      exact .inl rfl
    · rw [hdb]
      exact .inl (WorkflowExecutionService.execute_invariant
        (I := fun u => SameAdvice w.db u.db) WorkflowExecutionService.sameAdvice_kept rfl hrun)
  | reconcilePending provider limit =>
    refine .inl ?_
    cases hcrash : env.crash with
    | true =>
      have hsame : (w.step config ⟨env, .reconcilePending provider limit⟩).db = w.db :=
        if_pos hcrash
      rw [hsame]
    | false =>
      have hbatch : (w.step config ⟨env, .reconcilePending provider limit⟩).db =
          (PaymentReconciliationService.reconcilePendingCases env provider limit w.db).1 :=
        if_neg (by rw [hcrash]; exact Bool.false_ne_true)
      rw [hbatch]
      refine PaymentReconciliationService.reconcileEach_rule (P := fun _ u => SameAdvice w.db u)
        (I := SameAdvice w.db) (fun _ _ h => h) ?_ _ rfl
      intro caseId rest u report v hu hrun
      exact (PaymentReconciliationService.reconcileCase_sameAdvice.related hrun).trans hu

end RevenueRescue
