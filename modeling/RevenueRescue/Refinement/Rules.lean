import RevenueRescue.Policy.Service

/-!
# What a passed rule says

Each rule of the policy engine is a cascade of checks that ends in `PASSED`, so an answer that
passed says that none of the checks applied. There is one lemma for each rule, and the
decision is an approval only when all of them passed.
-/

namespace RevenueRescue

open Python

/-- A check that would not have passed did not apply. -/
theorem RuleCheckResult.of_ite {c : Prop} [Decidable c] {refused rest : RuleCheckResult}
    (hrefused : refused.status ≠ .PASSED)
    (h : (if c then refused else rest).status = .PASSED) : ¬c ∧ rest.status = .PASSED := by
  by_cases hc : c
  · rw [if_pos hc] at h
    exact absurd h hrefused
  · rw [if_neg hc] at h
    exact ⟨hc, h⟩

/-- The same for a cascade that may raise. -/
theorem RuleCheckResult.of_ite_ok {c : Prop} [Decidable c] {refused result : RuleCheckResult}
    {rest : Except Fault RuleCheckResult} (hpassed : result.status = .PASSED)
    (hrefused : refused.status ≠ .PASSED) (h : (if c then .ok refused else rest) = .ok result) :
    ¬c ∧ rest = .ok result := by
  by_cases hc : c
  · rw [if_pos hc] at h
    cases h
    exact absurd hpassed hrefused
  · rw [if_neg hc] at h
    exact ⟨hc, h⟩

open RuleCheckResult

/-- A case that is eligible is actionable, and the recommendation is its own and in force. -/
theorem EligibilityEvaluator.of_passed {caseId : UUID} {case : RecoveryCase}
    {recommendation : AgentDecision} {customerId expectedTransactionId : Option UUID}
    (h : (evaluate caseId case recommendation customerId expectedTransactionId).status = .PASSED) :
    recommendation.caseId = caseId ∧
      recommendation.validationStatus ∉ [DecisionValidationStatus.INVALID, .REJECTED_BY_POLICY] ∧
      case.state ∈ [RecoveryCaseState.AWAITING_DECISION, .RETRY_ELIGIBLE, .DETECTED] := by
  unfold evaluate at h
  obtain ⟨-, h⟩ := of_ite (fun h => by cases h) h
  obtain ⟨-, h⟩ := of_ite (fun h => by cases h) h
  obtain ⟨hown, h⟩ := of_ite (fun h => by cases h) h
  obtain ⟨hforce, h⟩ := of_ite (fun h => by cases h) h
  obtain ⟨-, h⟩ := of_ite (fun h => by cases h) h
  obtain ⟨-, h⟩ := of_ite (fun h => by cases h) h
  obtain ⟨-, h⟩ := of_ite (fun h => by cases h) h
  obtain ⟨-, h⟩ := of_ite (fun h => by cases h) h
  obtain ⟨-, h⟩ := of_ite (fun h => by cases h) h
  obtain ⟨hactionable, -⟩ := of_ite (fun h => by cases h) h
  exact ⟨not_ne_iff.mp hown, hforce, not_not.mp hactionable⟩

namespace ConsentValidator

/-- A record that the rule accepts is valid. -/
theorem isValid_of_judge {requiredType : ConsentType} {now : Datetime} {candidate : CustomerConsent}
    (h : (judge requiredType now candidate).status = .PASSED) :
    CustomerConsentRecord.isValid candidate now = true := by
  unfold judge at h
  obtain ⟨hrevoked, h⟩ := of_ite (fun h => by cases h) h
  obtain ⟨hexpired, h⟩ := of_ite (fun h => by cases h) h
  obtain ⟨hgranted, -⟩ := of_ite (fun h => by cases h) h
  unfold CustomerConsentRecord.isValid
  dsimp only
  rw [if_neg hgranted, if_neg, if_neg hexpired]
  intro hany
  rcases hat : candidate.revokedAt with _ | revokedAt
  · rw [hat] at hany
    cases hany
  · rw [hat] at hany hrevoked
    exact hrevoked ⟨.inr rfl, of_decide_eq_true hany⟩

/-- The records of a customer that the rule may use: of one type, and for the merchant. -/
def usable (customerId : UUID) (requiredType : ConsentType) (merchantId : Json)
    (consents : List CustomerConsent) : List CustomerConsent :=
  ((consents.filter fun c => c.customerId == customerId).filter
    fun c => c.consentType == requiredType).filter (forMerchant merchantId)

/-- Where the rule passes, it judged the usable record that was granted last. -/
theorem judge_of_passed {actionType : ActionType} {customerId : UUID}
    {consents : List CustomerConsent} {merchantId : Json} {communicationChannel : Option String}
    {now : Datetime} {result : RuleCheckResult} (hpassed : result.status = .PASSED)
    (h : evaluate actionType customerId consents merchantId communicationChannel now = .ok result)
    {requiredType : ConsentType}
    (hrequired : determineRequiredConsent actionType communicationChannel = some requiredType) :
    mixedOffsets ((usable customerId requiredType merchantId consents).map
        CustomerConsent.grantedAt) = false ∧
      ∃ latest, (sortedByGrant (usable customerId requiredType merchantId consents)).head? =
          some latest ∧ (judge requiredType now latest).status = .PASSED := by
  unfold evaluate at h
  rw [hrequired] at h
  dsimp only at h
  obtain ⟨-, h⟩ := of_ite_ok hpassed (fun h => by cases h) h
  obtain ⟨-, h⟩ := of_ite_ok hpassed (fun h => by cases h) h
  obtain ⟨-, h⟩ := of_ite_ok hpassed (fun h => by cases h) h
  split at h
  · cases h
  next hmixed =>
    split at h
    · cases h
      cases hpassed
    next latest rest hsorted =>
      cases h
      refine ⟨Bool.eq_false_of_not_eq_true hmixed, latest, ?_, hpassed⟩
      unfold usable
      rw [hsorted, List.head?_cons]

/-- The consent that an action requires is among the records of the customer, and it is valid. -/
theorem of_passed {actionType : ActionType} {customerId : UUID} {consents : List CustomerConsent}
    {merchantId : Json} {communicationChannel : Option String} {now : Datetime}
    {result : RuleCheckResult} (hpassed : result.status = .PASSED)
    (h : evaluate actionType customerId consents merchantId communicationChannel now = .ok result)
    {requiredType : ConsentType}
    (hrequired : determineRequiredConsent actionType communicationChannel = some requiredType) :
    ∃ consent ∈ consents, consent.customerId = customerId ∧ consent.consentType = requiredType ∧
      forMerchant merchantId consent = true ∧
      CustomerConsentRecord.isValid consent now = true := by
  obtain ⟨-, latest, hlatest, hjudged⟩ := judge_of_passed hpassed h hrequired
  have hmem := List.mem_of_head? hlatest
  unfold sortedByGrant usable at hmem
  simp only [List.mem_insertionSort, List.mem_filter, beq_iff_eq] at hmem
  obtain ⟨⟨⟨hin, hcustomer⟩, htype⟩, hmerchant⟩ := hmem
  exact ⟨latest, hin, hcustomer, htype, hmerchant, isValid_of_judge hjudged⟩

end ConsentValidator

namespace RetryLimitEvaluator

theorem assumeUtc_instant (t : Datetime) : t.assumeUtc.instant = t.instant := by
  unfold Datetime.assumeUtc
  rcases hoffset : t.utcoffset with _ | offset
  · simp [Datetime.instant, hoffset]
  · rfl

theorem isCooldownElapsed_congr {config : PolicyConfig} {now first second : Datetime}
    (h : first.instant = second.instant) :
    config.isCooldownElapsed first now = config.isCooldownElapsed second now := by
  unfold PolicyConfig.isCooldownElapsed
  rw [assumeUtc_instant first, assumeUtc_instant second, h]

/-- Whatever is older has cooled down too. -/
theorem isCooldownElapsed_mono {config : PolicyConfig} {now time last : Datetime}
    (hle : time.instant ≤ last.instant) (h : config.isCooldownElapsed last now = true) :
    config.isCooldownElapsed time now = true := by
  unfold PolicyConfig.isCooldownElapsed at h ⊢
  rw [decide_eq_true_eq, assumeUtc_instant, assumeUtc_instant] at h ⊢
  omega

/-- No attempt has a timestamp after the latest one, as long as no missing timestamp can be taken
for a later one. -/
theorem le_latestTime {attempts : List RecoveryAttempt} {latest : Option Datetime}
    (h : latestTime attempts = .ok latest) {attempt : RecoveryAttempt} (hattempt : attempt ∈ attempts)
    {time : Datetime} (htime : timestamp attempt = some time)
    (hdated : (∀ a ∈ attempts, timestamp a ≠ none) ∨ Datetime.minUtc.instant < time.instant) :
    ∃ last, latest = some last ∧ time.instant ≤ last.instant := by
  unfold latestTime at h
  split at h
  · cases h
  cases h
  rcases hmax : attempts.argmax (fun a => (sortKey a).instant) with _ | best
  · rw [List.argmax_eq_none] at hmax
    rw [hmax] at hattempt
    exact absurd hattempt List.not_mem_nil
  · have hle : (sortKey attempt).instant ≤ (sortKey best).instant :=
      List.le_of_mem_argmax (f := fun a => (sortKey a).instant) hattempt hmax
    unfold sortKey at hle
    rw [htime, Option.getD_some] at hle
    rcases hlast : timestamp best with _ | last
    · rw [hlast, Option.getD_none] at hle
      rcases hdated with hall | hlater
      · exact absurd hlast (hall best (List.argmax_mem hmax))
      · omega
    · rw [hlast, Option.getD_some] at hle
      exact ⟨last, hlast, hle⟩

/-- What the rule found before it permitted a retry. -/
structure Permits (attempts : List RecoveryAttempt) (config : PolicyConfig) (now : Datetime)
    (proposedIdempotencyKey failureCategory : Option String) : Prop where
  retryable : ∀ category, failureCategory = some category →
    lower (strip category) ∉ NON_RETRYABLE_CATEGORIES
  unused : ∀ key, proposedIdempotencyKey = some key → key ≠ "" →
    ∀ a ∈ attempts, a.idempotencyKey ≠ key
  settled : ∀ a ∈ attempts, a.status ≠ .SUCCEEDED ∧ a.status ≠ .STARTED ∧ a.status ≠ .UNCERTAIN
  budget : (consumed attempts).length < config.maxRetryAttempts
  cooled : ∀ latest, latestTime (consumed attempts) = .ok (some latest) →
    config.isCooldownElapsed latest now = true
  comparable : ∃ latest, latestTime (consumed attempts) = .ok latest

theorem permits_of_passed {attempts : List RecoveryAttempt} {config : PolicyConfig} {now : Datetime}
    {proposedIdempotencyKey failureCategory : Option String} {result : RuleCheckResult}
    (hpassed : result.status = .PASSED)
    (h : evaluate .RETRY_PAYMENT attempts config now proposedIdempotencyKey failureCategory =
      .ok result) : Permits attempts config now proposedIdempotencyKey failureCategory := by
  unfold evaluate at h
  dsimp only at h
  rw [if_neg (not_not.mpr rfl)] at h
  obtain ⟨hretryable, h⟩ := of_ite_ok hpassed (fun h => by cases h) h
  obtain ⟨hunused, h⟩ := of_ite_ok hpassed (fun h => by cases h) h
  obtain ⟨hsucceeded, h⟩ := of_ite_ok hpassed (fun h => by cases h) h
  obtain ⟨hstarted, h⟩ := of_ite_ok hpassed (fun h => by cases h) h
  obtain ⟨huncertain, h⟩ := of_ite_ok hpassed (fun h => by cases h) h
  obtain ⟨hbudget, h⟩ := of_ite_ok hpassed (fun h => by cases h) h
  obtain ⟨latest, hlatest, h⟩ := Except.bind_eq_ok.mp h
  have hstatus : ∀ {status : RecoveryAttemptStatus},
      ¬(attempts.any fun a => a.status == status) = true → ∀ a ∈ attempts, a.status ≠ status := by
    intro status hnone a ha hsame
    exact hnone (List.any_eq_true.mpr ⟨a, ha, beq_iff_eq.mpr hsame⟩)
  refine
    { retryable := fun category hcategory hin => ?_
      unused := fun key hkey hnonempty a ha hsame => ?_
      settled := fun a ha => ⟨hstatus hsucceeded a ha, hstatus hstarted a ha, hstatus huncertain a ha⟩
      budget := ?_
      cooled := fun last hlast => ?_
      comparable := ⟨latest, hlatest⟩ }
  · rw [hcategory, Option.any_some, List.contains_iff_mem] at hretryable
    exact hretryable hin
  · apply hunused
    rw [hkey, Bool.and_eq_true, List.any_eq_true]
    refine ⟨?_, a, ha, by rw [hsame, beq_self_eq_true]⟩
    unfold truthy
    rw [Option.any_some, decide_eq_true_eq]
    exact hnonempty
  · rw [Bool.not_eq_true, Bool.not_eq_false'] at hbudget
    exact of_decide_eq_true hbudget
  · rw [hlast, Except.ok.injEq] at hlatest
    rw [← hlatest] at h
    dsimp only at h
    split at h
    next helapsed => exact helapsed
    · cases h
      cases hpassed

/-- After a permitted retry every attempt has cooled down whose timestamp counts as one. -/
theorem Permits.elapsed {attempts : List RecoveryAttempt} {config : PolicyConfig} {now : Datetime}
    {proposedIdempotencyKey failureCategory : Option String}
    (h : Permits attempts config now proposedIdempotencyKey failureCategory) {a : RecoveryAttempt}
    (ha : a ∈ consumed attempts) {time : Datetime} (htime : timestamp a = some time)
    (hdated : (∀ a ∈ consumed attempts, timestamp a ≠ none) ∨
      Datetime.minUtc.instant < time.instant) :
    config.isCooldownElapsed time now = true := by
  obtain ⟨latest, hlatest⟩ := h.comparable
  obtain ⟨last, hlast, hle⟩ := le_latestTime hlatest ha htime hdated
  rw [hlast] at hlatest
  exact isCooldownElapsed_mono hle (h.cooled last hlatest)

end RetryLimitEvaluator

namespace EscalationEvaluator

/-- What the escalation rule lets through without an operator. -/
theorem of_passed {amountMinor : ℕ} {currency : String} {config : PolicyConfig}
    {aiConfidence : Option ℚ} {failureCategory : Option String} {exhausted uncertain : Bool}
    (h : (evaluate amountMinor currency config aiConfidence failureCategory exhausted
      uncertain).status = .PASSED) :
    lower (strip (failureCategory.getD "")) ∉ FRAUD_CATEGORIES ∧
      lower (strip (failureCategory.getD "")) ∉ ["", "unknown", "unknown_failure"] ∧
      config.isHighValue amountMinor currency = false ∧ uncertain = false ∧
      ∃ confidence, aiConfidence = some confidence ∧ minConfidenceThreshold ≤ confidence := by
  unfold evaluate at h
  obtain ⟨hfraud, h⟩ := of_ite (fun h => by cases h) h
  obtain ⟨hvalue, h⟩ := of_ite (fun h => by cases h) h
  obtain ⟨-, h⟩ := of_ite (fun h => by cases h) h
  obtain ⟨huncertain, h⟩ := of_ite (fun h => by cases h) h
  obtain ⟨hunknown, h⟩ := of_ite (fun h => by cases h) h
  refine ⟨hfraud, ?_, Bool.eq_false_of_not_eq_true hvalue, Bool.eq_false_of_not_eq_true huncertain,
    ?_⟩
  · rw [List.mem_cons]
    exact hunknown
  · rcases aiConfidence with _ | confidence
    · cases h
    · obtain ⟨hconfident, -⟩ := of_ite (fun h => by cases h) h
      exact ⟨confidence, rfl, Rat.not_lt.mp hconfident⟩

end EscalationEvaluator

namespace PolicyEngineService

/-- An approval is given only when every rule passed. -/
theorem aggregateDecision_approved {results : List RuleCheckResult}
    (h : (aggregateDecision results).1 = .APPROVED) {result : RuleCheckResult}
    (hmem : result ∈ results) : result.status = .PASSED := by
  unfold aggregateDecision at h
  split at h
  · cases h
  next hfailed =>
    split at h
    · cases h
    next hmissing =>
      split at h
      · cases h
      next hreview =>
        rcases hstatus : result.status with _ | _ | _ | _
        · rfl
        · exact absurd (List.any_eq_true.mpr ⟨result, hmem, by rw [hstatus]; rfl⟩) hfailed
        · exact absurd (List.any_eq_true.mpr ⟨result, hmem, by rw [hstatus]; rfl⟩) hreview
        · exact absurd (List.any_eq_true.mpr ⟨result, hmem, by rw [hstatus]; rfl⟩) hmissing

/-- A rule failed with a reason after which the case is stopped. -/
def FailsTerminally (results : List RuleCheckResult) : Prop :=
  ∃ result ∈ results, result.status = .FAILED ∧ result.reasonCode ∈ terminalReasons

/-- The move that follows the answers of the rules, and what they were. -/
inductive Follows (results : List RuleCheckResult) (state : RecoveryCaseState) :
    RecoveryCaseState → Prop
  | approved (hpassed : ∀ result ∈ results, result.status = .PASSED)
      (hstate : state ∈ [RecoveryCaseState.AWAITING_DECISION, .RETRY_ELIGIBLE, .DETECTED]) :
    Follows results state .ACTION_PENDING
  | escalated (hstate : state ∉ [RecoveryCaseState.RECOVERED, .CLOSED, .STOPPED, .ESCALATED]) :
    Follows results state .ESCALATED
  | stopped (hfails : FailsTerminally results)
      (hstate : state ∉ [RecoveryCaseState.RECOVERED, .CLOSED, .STOPPED]) :
    Follows results state .STOPPED

/-- The reasons of a rejection are those of the rules that failed. -/
theorem aggregateDecision_rejected {results : List RuleCheckResult}
    (h : (aggregateDecision results).1 = .REJECTED) :
    (aggregateDecision results).2 = reasonsOf .FAILED results := by
  unfold aggregateDecision at h ⊢
  split at h
  next hfailed => rw [if_pos hfailed]
  next => split_ifs at h

/-- A move of the transition function follows the answers of the rules. -/
theorem follows_of_determineFsmTransition {results : List RuleCheckResult}
    {state toState : RecoveryCaseState}
    (h : determineFsmTransition (aggregateDecision results).1 state
      (aggregateDecision results).2 = some toState) : Follows results state toState := by
  unfold determineFsmTransition at h
  rcases hstatus : (aggregateDecision results).1 with _ | _ | _ | _
  · rw [hstatus] at h
    dsimp only at h
    split at h
    next hstate =>
      cases h
      exact .approved (fun _ hmem => aggregateDecision_approved hstatus hmem) hstate
    next => cases h
  · rw [hstatus] at h
    dsimp only at h
    split at h
    next hrejected =>
      cases h
      obtain ⟨hreason, hstate⟩ := hrejected
      rw [aggregateDecision_rejected hstatus, List.any_eq_true] at hreason
      obtain ⟨reason, hmem, hterminal⟩ := hreason
      obtain ⟨result, hresult, rfl⟩ := List.mem_map.mp hmem
      obtain ⟨hin, hfailed⟩ := List.mem_filter.mp hresult
      exact .stopped ⟨result, hin, beq_iff_eq.mp hfailed, List.contains_iff_mem.mp hterminal⟩ hstate
    next => cases h
  · rw [hstatus] at h
    dsimp only at h
    split at h
    next hstate =>
      cases h
      exact .escalated hstate
    next => cases h
  · rw [hstatus] at h
    cases h

end PolicyEngineService

end RevenueRescue
