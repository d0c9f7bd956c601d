import RevenueRescue.Cases.Recommendation
import RevenueRescue.Refinement.Effects

/-!
# What a recommendation does to the rows

`generate_recommendation` adds a decision and an audit record, advances a detected case and
takes a snapshot of the recommendation into the case. Its two audit records are numbered by
two queries. In a session that flushes before a query the second sees the first record; in
one that does not, both get the same number and the constraint on the audit log refuses them.
-/

namespace RevenueRescue

open Python

namespace IntelligenceOrchestrator

variable {env : Env} {pipeline : Pipeline} {s : Store} {caseId : UUID} {case : RecoveryCase}

/-- The version of the latest decision on the case, and `0` when there is none. -/
def latestVersion (s : Store) (caseId : UUID) : ℕ :=
  ((s.latestDecision caseId).map AgentDecision.decisionVersion).getD 0

theorem newDecision_decisionVersion (s : Store) (caseId : UUID) (r : Recommendation) :
    (newDecision s caseId r).decisionVersion = latestVersion s caseId + 1 := by
  unfold newDecision latestVersion
  rcases s.latestDecision caseId with _ | decision <;> rfl

/-- The rows with the decision and its audit record. -/
def stored (env : Env) (s : Store) (caseId : UUID) (case : RecoveryCase) (r : Recommendation) :
    Store :=
  { s with
    decisions := s.decisions ++ [newDecision s caseId r]
    auditEvents := s.auditEvents ++
      [nextAudit s env caseId "RECOMMENDATION_GENERATED" .SYSTEM (some case.state)
        (some case.state)] }

/-- The entry in the transition log of an advance. -/
def advanceEntry (env : Env) (s : Store) (caseId : UUID) (case : RecoveryCase) :
    CaseStateTransition :=
  { caseId, fromState := some case.state, toState := .AWAITING_DECISION
    reasonCode := "AI_RECOMMENDATION_FORMULATED", actorType := .SYSTEM
    occurredAt := env.now.naive, sequenceNumber := s.nextTransitionNumber caseId }

/-- The rows after the advance of a detected case. -/
def advanced (env : Env) (s : Store) (caseId : UUID) (case : RecoveryCase) : Store :=
  { s.modifyCase caseId (applyAdvance env) with
    transitions := s.transitions ++ [advanceEntry env s caseId case]
    auditEvents := s.auditEvents ++
      [nextAudit s env caseId "STATE_TRANSITION" .SYSTEM (some case.state)
        (some .AWAITING_DECISION)] }

/-- The case with the snapshot of the recommendation. -/
def snapshot (r : Recommendation) (case : RecoveryCase) : RecoveryCase :=
  { case with
    metadataJson := Dict.set case.metadataJson "latest_recommendation" (.obj r.auditPayload) }

/-- The rows that a recommendation commits. -/
def recommended (env : Env) (s : Store) (caseId : UUID) (case : RecoveryCase)
    (r : Recommendation) : Store :=
  let saved := stored env s caseId case r
  (if case.state = .DETECTED then advanced env saved caseId case else saved).modifyCase caseId
    (snapshot r)

theorem recommended_detected {r : Recommendation} (h : case.state = .DETECTED) :
    recommended env s caseId case r =
      (advanced env (stored env s caseId case r) caseId case).modifyCase caseId (snapshot r) := by
  simp only [recommended, if_pos h]

theorem recommended_open {r : Recommendation} (h : case.state ≠ .DETECTED) :
    recommended env s caseId case r =
      (stored env s caseId case r).modifyCase caseId (snapshot r) := by
  simp only [recommended, if_neg h]

/-- The advance numbers its audit record from the rows that the session has flushed. -/
theorem advance_apply (env : Env) (before s : Store) (caseId : UUID) (case : RecoveryCase) :
    advance env before caseId case s =
      AuditEventRepository.recordSeeing
        (if env.autoflush then s.modifyCase caseId (applyAdvance env) else before) env caseId
        "STATE_TRANSITION" .SYSTEM (some case.state) (some .AWAITING_DECISION)
        { s.modifyCase caseId (applyAdvance env) with
          transitions := s.transitions ++ [advanceEntry env s caseId case] } := by
  have hentry : insertTransition (advanceEntry env s caseId case)
      (s.modifyCase caseId (applyAdvance env)) =
        .ok ((), { s.modifyCase caseId (applyAdvance env) with
          transitions := s.transitions ++ [advanceEntry env s caseId case] }) :=
    insertTransition_next rfl
  have hadvance : advance env before caseId case s = (insertTransition
      (advanceEntry env s caseId case) >>= fun _ => AuditEventRepository.recordSeeing
        (if env.autoflush then s.modifyCase caseId (applyAdvance env) else before) env caseId
        "STATE_TRANSITION" .SYSTEM (some case.state) (some .AWAITING_DECISION))
      (s.modifyCase caseId (applyAdvance env)) := rfl
  rw [hadvance, Tx.bind_apply, hentry]

/-- A session that flushes before it numbers the record always advances the case. -/
theorem advance_flushed (before s : Store) (caseId : UUID) (case : RecoveryCase)
    (hflush : env.autoflush = true) :
    advance env before caseId case s = .ok ((), advanced env s caseId case) := by
  rw [advance_apply, if_pos hflush]
  exact record_apply env caseId _ _ _ _ { s.modifyCase caseId (applyAdvance env) with
    transitions := s.transitions ++ [advanceEntry env s caseId case] }

/-- A session that does not is refused when the number it reads was taken since. -/
theorem advance_unflushed {before : Store} (case : RecoveryCase) (hflush : env.autoflush = false)
    (htaken : before.nextAuditNumber caseId ∈ s.auditNumbers caseId) :
    advance env before caseId case s = .error (.integrityError .uq_audit_case_sequence) := by
  rw [advance_apply, if_neg (by rw [hflush]; decide)]
  unfold AuditEventRepository.recordSeeing
  rw [insertAudit_apply]
  exact if_pos (List.contains_iff_mem.mpr htaken)

/-- The number of the first audit record is taken for a query that does not see it. -/
theorem auditNumbers_stored (r : Recommendation) :
    (stored env s caseId case r).auditNumbers caseId =
      s.auditNumbers caseId ++ [s.nextAuditNumber caseId] := by
  simp [stored, Store.auditNumbers, Store.auditsOf, nextAudit]

/-- The rows a recommendation commits, and the refusal of a detected case by a session that
does not flush. -/
theorem generateRecommendation_apply {r : Recommendation}
    (hcase : s.recoveryCases[caseId]? = some case)
    (hanswer : pipeline case s.transactions[case.triggerTransactionId]?
      s.customers[case.customerId]? (s.attemptsOf caseId).length = some r) :
    generateRecommendation env pipeline caseId s =
      if case.state = .DETECTED ∧ env.autoflush = false then
        .error (.integrityError .uq_audit_case_sequence)
      else .ok (s.decisions.length, recommended env s caseId case r) := by
  have hgenerate : generateRecommendation env pipeline caseId s = (do
      AuditEventRepository.record env caseId "RECOMMENDATION_GENERATED" .SYSTEM
        (some case.state) (some case.state)
      if case.state = .DETECTED then advance env s caseId case
      modify fun s => s.modifyCase caseId (snapshot r)
      return s.decisions.length : Service UUID)
        { s with decisions := s.decisions ++ [newDecision s caseId r] } := by
    unfold generateRecommendation
    rw [Tx.get_bind_apply, hcase]
    dsimp only
    rw [hanswer]
    rfl
  rw [hgenerate, Tx.bind_apply, record_apply]
  change (do
    if case.state = .DETECTED then advance env s caseId case
    modify fun s => s.modifyCase caseId (snapshot r)
    return s.decisions.length : Service UUID) (stored env s caseId case r) = _
  by_cases hdetected : case.state = .DETECTED
  · rcases hflush : env.autoflush with _ | _
    · have htaken : s.nextAuditNumber caseId ∈ (stored env s caseId case r).auditNumbers caseId := by
        rw [auditNumbers_stored]
        exact List.mem_append_right _ List.mem_cons_self
      rw [if_pos hdetected, if_pos ⟨hdetected, rfl⟩, Tx.bind_apply,
        advance_unflushed case hflush htaken]
    · have hkept : ¬(case.state = .DETECTED ∧ true = false) := fun h => by cases h.2
      rw [recommended_detected hdetected, if_pos hdetected, if_neg hkept, Tx.bind_apply,
        advance_flushed s _ caseId case hflush]
      rfl
  · have hkept : ¬(case.state = .DETECTED ∧ env.autoflush = false) := fun h => hdetected h.1
    rw [recommended_open hdetected, if_neg hkept, if_neg hdetected]
    rfl

/-- A recommendation that was made was made about a stored case by a pipeline that answered. -/
theorem of_generateRecommendation {decisionId : UUID} {t : Store}
    (h : generateRecommendation env pipeline caseId s = .ok (decisionId, t)) :
    ∃ case r, s.recoveryCases[caseId]? = some case ∧
      pipeline case s.transactions[case.triggerTransactionId]? s.customers[case.customerId]?
        (s.attemptsOf caseId).length = some r ∧
      (case.state = .DETECTED → env.autoflush = true) ∧ decisionId = s.decisions.length ∧
      t = recommended env s caseId case r := by
  rcases hcase : s.recoveryCases[caseId]? with _ | case
  · unfold generateRecommendation at h
    rw [Tx.get_bind_apply, hcase] at h
    cases h
  rcases hanswer : pipeline case s.transactions[case.triggerTransactionId]?
    s.customers[case.customerId]? (s.attemptsOf caseId).length with _ | r
  · unfold generateRecommendation at h
    rw [Tx.get_bind_apply, hcase] at h
    dsimp only at h
    rw [hanswer] at h
    cases h
  rw [generateRecommendation_apply hcase hanswer] at h
  by_cases hrefused : case.state = .DETECTED ∧ env.autoflush = false
  · rw [if_pos hrefused] at h
    cases h
  · rw [if_neg hrefused] at h
    cases h
    refine ⟨case, r, rfl, hanswer, fun hdetected => ?_, rfl, rfl⟩
    exact Bool.eq_true_of_not_eq_false fun hflush => hrefused ⟨hdetected, hflush⟩

/-- The new decision is the last one. -/
theorem recommended_decisions (r : Recommendation) :
    (recommended env s caseId case r).decisions = s.decisions ++ [newDecision s caseId r] := by
  by_cases h : case.state = .DETECTED
  · rw [recommended_detected h]
    rfl
  · rw [recommended_open h]
    rfl

/-- The case counts one version more when it was advanced. -/
theorem recommended_case {r : Recommendation} (hcase : s.recoveryCases[caseId]? = some case) :
    ∃ after, (recommended env s caseId case r).recoveryCases[caseId]? = some after ∧
      after.version = case.version + if case.state = .DETECTED then 1 else 0 := by
  by_cases h : case.state = .DETECTED
  · rw [recommended_detected h, if_pos h]
    refine ⟨snapshot r (applyAdvance env case), ?_, rfl⟩
    simp [Store.modifyCase, advanced, stored, hcase]
  · rw [recommended_open h, if_neg h]
    refine ⟨snapshot r case, ?_, rfl⟩
    simp [Store.modifyCase, stored, hcase]

end IntelligenceOrchestrator

end RevenueRescue
