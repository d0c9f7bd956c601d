import RevenueRescue.Properties.Retries
import RevenueRescue.Refinement.Evaluations
import RevenueRescue.Refinement.Recommendations

/-!
# Recommendations and their use

A recommendation about a detected case writes two audit records, and a session of
`SessionLocal`, which does not flush before a query, gives both of them one number. A new
recommendation is stale at once when the case has gone through more versions than decisions:
the rule compares two counters that other operations advance on their own.
-/

namespace RevenueRescue

open Python IntelligenceOrchestrator

/-! ## Commits -/

/-- The session that `SessionLocal` makes, which queries without flushing first. -/
def SessionLocal (env : Env) : Env := { env with autoflush := false }

/-- The recommendation is committed, and its two audit records have different numbers. -/
def CommitsDistinctly (env : Env) (pipeline : Pipeline) (s : Store) (caseId : UUID) : Prop :=
  ∃ decisionId t generated moved,
    generateRecommendation env pipeline caseId s = .ok (decisionId, t) ∧
    t.auditEvents = s.auditEvents ++ [generated, moved] ∧
    generated.eventType = "RECOMMENDATION_GENERATED" ∧ moved.eventType = "STATE_TRANSITION" ∧
    generated.sequenceNumber ≠ moved.sequenceNumber

/-- Which sessions commit a recommendation about a detected case. -/
theorem commitsDistinctly_iff {env : Env} {pipeline : Pipeline} {s : Store} {caseId : UUID}
    {case : RecoveryCase} (hcase : s.recoveryCases[caseId]? = some case)
    (hdetected : case.state = .DETECTED) :
    CommitsDistinctly env pipeline s caseId ↔ env.autoflush = true ∧
      (pipeline case s.transactions[case.triggerTransactionId]? s.customers[case.customerId]?
        (s.attemptsOf caseId).length).isSome := by
  constructor
  · rintro ⟨decisionId, t, -, -, hrun, -⟩
    obtain ⟨case', r, hcase', hanswer, hflush, -, -⟩ := of_generateRecommendation hrun
    obtain rfl : case = case' := Option.some.inj (hcase.symm.trans hcase')
    exact ⟨hflush hdetected, hanswer ▸ rfl⟩
  · rintro ⟨hflush, hanswers⟩
    obtain ⟨r, hanswer⟩ := Option.isSome_iff_exists.mp hanswers
    have hkept : ¬(case.state = .DETECTED ∧ env.autoflush = false) := fun h => by
      rw [hflush] at h
      cases h.2
    have hrun : generateRecommendation env pipeline caseId s =
        .ok (s.decisions.length, recommended env s caseId case r) :=
      (generateRecommendation_apply hcase hanswer).trans (if_neg hkept)
    rw [recommended_detected hdetected] at hrun
    refine ⟨_, _, _, _, hrun, List.append_assoc .., rfl, rfl, ?_⟩
    change s.nextAuditNumber caseId ≠
      Numbering.next ((stored env s caseId case r).auditNumbers caseId)
    rw [auditNumbers_stored]
    unfold Store.nextAuditNumber
    rw [Numbering.next_append_next]
    exact Nat.ne_of_lt (Nat.lt_succ_self _)

/-- A session of `SessionLocal` never commits a recommendation about a detected case. -/
theorem recommendation_never_commits (env : Env) (pipeline : Pipeline) (s : Store)
    (caseId : UUID) {case : RecoveryCase} (hcase : s.recoveryCases[caseId]? = some case)
    (hdetected : case.state = .DETECTED) :
    ¬CommitsDistinctly (SessionLocal env) pipeline s caseId := by
  rw [commitsDistinctly_iff hcase hdetected]
  rintro ⟨hflush, -⟩
  cases hflush

namespace Sample

/-- A pipeline that recommends another payment. -/
def retrying : Pipeline :=
  fun _ _ _ _ => some ⟨.RETRY_PAYMENT, "RETRY_LATER", "insufficient_funds", 9 / 10, []⟩

end Sample

/-- The case that a failure opened is refused its first recommendation. -/
theorem recommendation_never_commits_failure :
    ¬CommitsDistinctly (SessionLocal Sample.env) Sample.retrying
      (Sample.world .FAILED .DETECTED).db 0 :=
  recommendation_never_commits Sample.env Sample.retrying (Sample.world .FAILED .DETECTED).db 0
    (show (Sample.world .FAILED .DETECTED).db.recoveryCases[0]? = some (Sample.case .DETECTED)
      from rfl) rfl

/-- Right after its first failure, from the empty database on, the two records collide. -/
theorem first_recommendation_aborts :
    ((World.empty.run .default [Sample.failure]).db.recoveryCases[0]?).map RecoveryCase.state =
        some .DETECTED ∧
      (generateRecommendation (SessionLocal Sample.env) Sample.retrying 0).fault
        (World.empty.run .default [Sample.failure]).db =
          some (.integrityError .uq_audit_case_sequence) ∧
      ¬CommitsDistinctly (SessionLocal Sample.env) Sample.retrying
        (World.empty.run .default [Sample.failure]).db 0 := by
  have hfault : (generateRecommendation (SessionLocal Sample.env) Sample.retrying 0).fault
      (World.empty.run .default [Sample.failure]).db =
        some (.integrityError .uq_audit_case_sequence) := by decide +kernel
  refine ⟨by decide +kernel, hfault, ?_⟩
  rintro ⟨_, _, _, _, hrun, -⟩
  unfold Tx.fault at hfault
  rw [hrun] at hfault
  cases hfault

/-! ## Staleness -/

/-- The eligibility rule, whose answer comes first, finds the recommendation outdated. -/
def AnswersStale (result : PolicyEvaluationResult) : Prop :=
  result.ruleResults.head?.map RuleCheckResult.reasonCode = some "RECOMMENDATION_STALE"

/-- An unvalidated recommendation for the case is stale just when its version lags behind. -/
theorem EligibilityEvaluator.stale_iff {caseId : UUID} {case : RecoveryCase}
    {recommendation : AgentDecision} (hown : recommendation.caseId = caseId)
    (hstatus : recommendation.validationStatus = .NOT_VALIDATED) :
    (evaluate caseId case recommendation (some case.customerId)
        (some case.triggerTransactionId)).reasonCode = "RECOMMENDATION_STALE" ↔
      recommendation.decisionVersion + 2 < case.version := by
  have hlags : ((recommendation.decisionVersion : ℤ) < (case.version : ℤ) - 2) ↔
      recommendation.decisionVersion + 2 < case.version := by omega
  have hcustomer : ¬(some case.customerId).any (· ≠ case.customerId) = true := by simp
  have htransaction :
      ¬(some case.triggerTransactionId).any (· ≠ case.triggerTransactionId) = true := by simp
  have hforce : recommendation.validationStatus ∉
      [DecisionValidationStatus.INVALID, .REJECTED_BY_POLICY] := by
    rw [hstatus]
    decide
  unfold evaluate
  rw [if_neg hcustomer, if_neg htransaction, if_neg (not_not.mpr hown), if_neg hforce]
  by_cases h : (recommendation.decisionVersion : ℤ) < (case.version : ℤ) - 2
  · rw [if_pos h]
    exact ⟨fun _ => hlags.mp h, fun _ => rfl⟩
  · rw [if_neg h]
    refine ⟨fun hreason => ?_, fun hlag => absurd (hlags.mpr hlag) h⟩
    -- every later answer gives another reason
    revert hreason
    repeat' split
    all_goals simp [answer]

/-- A recommendation that was just made is usable exactly when the versions of the case, with
the advance of a detected one, exceed those of its earlier decisions by three at most. -/
theorem fresh_recommendation_usable_iff {config : PolicyConfig} {env env' : Env}
    {pipeline : Pipeline} {caseId decisionId : UUID} {s t u v : Store} {case : RecoveryCase}
    {request : PolicyEvaluationRequest} {result : PolicyEvaluationResult}
    (hcase : s.recoveryCases[caseId]? = some case)
    (hgenerated : generateRecommendation env pipeline caseId s = .ok (decisionId, t))
    (hquiet : u.recoveryCases[caseId]? = t.recoveryCases[caseId]? ∧
      u.decisions[decisionId]? = t.decisions[decisionId]?)
    (hrequest : request.caseId = caseId ∧ request.recommendationId = decisionId)
    (hnew : PolicyEngineService.replayed u request = none)
    (hevaluated : PolicyEngineService.evaluate env' config request u = .ok (result, v)) :
    ¬AnswersStale result ↔
      case.version + (if case.state = .DETECTED then 1 else 0) ≤ latestVersion s caseId + 3 := by
  obtain ⟨case', r, hcase', -, -, rfl, rfl⟩ := of_generateRecommendation hgenerated
  obtain rfl : case = case' := Option.some.inj (hcase.symm.trans hcase')
  obtain ⟨rfl, hrecommendationId⟩ := hrequest
  obtain ⟨after, hafter, hversion⟩ : ∃ after,
      (recommended env s request.caseId case r).recoveryCases[request.caseId]? = some after ∧
        after.version = case.version + if case.state = .DETECTED then 1 else 0 :=
    recommended_case hcase
  have hdecision : u.decisions[request.recommendationId]? =
      some (newDecision s request.caseId r) := by
    rw [hrecommendationId, hquiet.2, recommended_decisions]
    exact List.getElem?_concat_length
  have hrules := PolicyEngineService.ruleResults_of_evaluate hnew (hquiet.1.trans hafter)
    hdecision hevaluated
  have hhead := PolicyEngineService.head_ruleResults hrules
  have hown : (newDecision s request.caseId r).caseId = request.caseId := rfl
  have hstatus : (newDecision s request.caseId r).validationStatus = .NOT_VALIDATED := rfl
  unfold AnswersStale
  rw [hhead, Option.map_some, Option.some.injEq, EligibilityEvaluator.stale_iff hown hstatus,
    newDecision_decisionVersion, hversion, Nat.not_lt]

namespace Sample

/-- An operator moves the case on before anything is recommended. -/
def awaiting : Request := request (.transitionState 0 ⟨.AWAITING_DECISION, "MANUAL", .OPERATOR⟩)

/-- An operator sets the priority. -/
def prioritised (priority : ℤ) : Request := request (.updateCase 0 ⟨some priority, none⟩ none)

/-- A case that was moved and edited before anything was recommended for it. -/
def edited : List Request := [failure, awaiting, prioritised 90, prioritised 91]

/-- The rows after the first case got a recommendation. -/
def recommendedDb (history : List Request) : Store :=
  (generateRecommendation env retrying 0).commit (World.empty.run .default history).db

/-- The evaluation of the first recommendation for the first case. -/
def evaluation : Service PolicyEvaluationResult :=
  PolicyEngineService.evaluate env .default ⟨0, 0, none, .SYSTEM, none, none⟩

end Sample

/-- The first recommendation after a failure is usable. -/
theorem fresh_recommendation_usable_iff_failure :
    ∃ result v, Sample.evaluation (Sample.recommendedDb [Sample.failure]) = .ok (result, v) ∧
      ¬AnswersStale result := by
  obtain ⟨decisionId, hgenerated⟩ :=
    Tx.ok_of_isSome (x := generateRecommendation Sample.env Sample.retrying 0)
      (s := (World.empty.run .default [Sample.failure]).db) (by decide +kernel)
  obtain ⟨result, hevaluated⟩ :=
    Tx.ok_of_isSome (x := Sample.evaluation) (s := Sample.recommendedDb [Sample.failure])
      (by decide +kernel)
  obtain ⟨case, r, hcase, -, -, hid, -⟩ := of_generateRecommendation hgenerated
  have hfirst : decisionId = 0 := hid.trans (by decide +kernel)
  have hversion : ((World.empty.run .default [Sample.failure]).db.recoveryCases[0]?).map
      RecoveryCase.version = some 1 := by decide +kernel
  rw [hcase, Option.map_some, Option.some.injEq] at hversion
  refine ⟨result, _, hevaluated, ?_⟩
  refine (fresh_recommendation_usable_iff hcase hgenerated ⟨rfl, rfl⟩ ⟨rfl, hfirst.symm⟩
    (by decide +kernel) hevaluated).mpr ?_
  rw [hversion]
  split <;> omega

/-- After two edits of the priority the first recommendation is stale when it is made. -/
theorem fresh_recommendation_is_stale :
    ((Sample.recommendedDb Sample.edited).recoveryCases[0]?).map RecoveryCase.state =
        some .AWAITING_DECISION ∧
      ∃ result v, Sample.evaluation (Sample.recommendedDb Sample.edited) = .ok (result, v) ∧
        AnswersStale result := by
  refine ⟨by decide +kernel, ?_⟩
  have hanswer : ((Sample.evaluation (Sample.recommendedDb Sample.edited)).map fun r =>
      r.1.ruleResults.head?.map RuleCheckResult.reasonCode).toOption =
        some (some "RECOMMENDATION_STALE") := by
    decide +kernel
  rcases hrun : Sample.evaluation (Sample.recommendedDb Sample.edited) with
    fault | ⟨result, v⟩
  · rw [hrun] at hanswer
    cases hanswer
  · rw [hrun] at hanswer
    exact ⟨result, v, rfl, Option.some.inj hanswer⟩

end RevenueRescue
