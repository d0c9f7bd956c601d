import RevenueRescue.Cases.Normalizer

/-!
# Triage of raw and normalised failure codes

The normaliser, the prioritiser and the risk classifier each keep their own table of failure
codes, and the last two group a raw code with the category it is normalised to. The groups
are closed under the normaliser's table but for one code: `card_declined` becomes
`generic_decline`, which neither of the two knows.
-/

namespace RevenueRescue

open Python

namespace EventNormalizer

variable {raw : Option String}

/-- Cleaning twice changes nothing. -/
theorem cleanCode_cleanCode (raw : Option String) : cleanCode (some (cleanCode raw)) = cleanCode raw := by
  unfold cleanCode
  rw [Option.getD_some, strip_lower, strip_strip, lower_lower]

/-- The category a cleaned code stands for, which is the code itself outside the table. -/
def categoryOf (cleaned : String) : String :=
  match FAILURE_CODE_MAPPING.lookup cleaned with
  | some category => category.value
  | none => cleaned

/-- A code is missing, or it is normalised to the category of its cleaned form. -/
theorem normalizeFailureCode_cases (raw : Option String) :
    (cleanCode raw = "" ∧ normalizeFailureCode (.ofOption raw) = .ok FailureCategory.UNKNOWN.value) ∨
      normalizeFailureCode (.ofOption raw) = .ok (categoryOf (cleanCode raw)) := by
  rcases raw with _ | code
  · exact .inl ⟨by decide, rfl⟩
  · by_cases hempty : code = ""
    · subst hempty
      exact .inl ⟨by decide, rfl⟩
    · refine .inr ?_
      have htruthy : (Json.str code).truthy = true := decide_eq_true hempty
      have hclean : cleanCode (some code) = lower (strip code) := rfl
      rcases hfound : FAILURE_CODE_MAPPING.lookup (lower (strip code)) with _ | category <;>
        simp only [normalizeFailureCode, categoryOf, Json.ofOption, hclean, htruthy, hfound,
          if_true]

/-- Every category of the table is clean text. -/
theorem cleanCode_categoryOf (raw : Option String) :
    cleanCode (some (categoryOf (cleanCode raw))) = categoryOf (cleanCode raw) := by
  unfold categoryOf
  rcases h : FAILURE_CODE_MAPPING.lookup (cleanCode raw) with _ | category
  · exact cleanCode_cleanCode raw
  · dsimp only
    cases category <;> decide

end EventNormalizer

open EventNormalizer

/-- Both scores weigh two cleaned codes alike. -/
def SameWeight (first second : String) : Prop :=
  (CasePrioritizer.failure first).score = (CasePrioritizer.failure second).score ∧
    (CaseRiskClassifier.failure first).score = (CaseRiskClassifier.failure second).score ∧
    CaseRiskClassifier.isFraud first = CaseRiskClassifier.isFraud second

instance (first second : String) : Decidable (SameWeight first second) :=
  inferInstanceAs (Decidable (_ ∧ _ ∧ _))

/-- The groups of both are closed under the table of the normaliser, except for one code. -/
theorem sameWeight_categoryOf {cleaned : String} (h : cleaned ≠ "card_declined") :
    SameWeight (categoryOf cleaned) cleaned := by
  unfold categoryOf
  rcases hentry : FAILURE_CODE_MAPPING.lookup cleaned with _ | category
  · exact ⟨rfl, rfl, rfl⟩
  · have hclosed : ∀ entry ∈ FAILURE_CODE_MAPPING, entry.1 ≠ "card_declined" →
        SameWeight entry.2.value entry.1 := by decide
    obtain ⟨before, after, hmapping, -⟩ := List.lookup_eq_some_iff.mp hentry
    exact hclosed (cleaned, category) (hmapping ▸ List.mem_append_cons_self) h

/-- What an event is triaged by, besides its failure code. -/
structure TriageInput where
  amountMinor : ℤ
  currency : String
  eventType : String
  customerTier : Json
  openedAt : Option Datetime
  asOf : Datetime

namespace TriageInput

variable (input : TriageInput)

/-- The priority of a failure code. -/
def priority (failureCode : Option String) : ℤ :=
  (CasePrioritizer.calculatePriority input.amountMinor input.currency failureCode input.eventType
    input.openedAt input.asOf).priority

/-- The risk tier of a failure code, or the exception that a tier of the wrong type raises. -/
def riskTier (failureCode : Option String) : Except Fault RiskTier :=
  (CaseRiskClassifier.classifyRisk input.amountMinor input.currency failureCode input.eventType
    input.customerTier).map RiskClassificationResult.riskTier

/-- Both answers on a raw code are those on its normalised form. -/
def Preserved (raw : Option String) : Prop :=
  ∃ code, normalizeFailureCode (.ofOption raw) = .ok code ∧
    input.priority (some code) = input.priority raw ∧ input.riskTier (some code) = input.riskTier raw

/-- The part of the priority score that the failure code has no part in. -/
def otherScore : ℤ :=
  (CasePrioritizer.exposure input.amountMinor input.currency).score +
    (CasePrioritizer.age input.openedAt input.asOf).score

theorem priority_eq (failureCode : Option String) :
    input.priority failureCode = max 1 (min 1000 (100 + input.otherScore +
      (CasePrioritizer.failure (cleanCode failureCode)).score)) := by
  unfold priority CasePrioritizer.calculatePriority otherScore CasePrioritizer.BASE_PRIORITY
  simp only [List.map_cons, List.map_nil, List.sum_cons, List.sum_nil]
  congr 2
  omega

/-- Neither end of the range is reached. -/
theorem otherScore_bounds : -70 ≤ input.otherScore ∧ input.otherScore ≤ 15 := by
  have hexposure : -50 ≤ (CasePrioritizer.exposure input.amountMinor input.currency).score ∧
      (CasePrioritizer.exposure input.amountMinor input.currency).score ≤ 15 := by
    unfold CasePrioritizer.exposure Adjustment.none
    dsimp only
    split_ifs <;> dsimp only <;> decide
  have hage : -20 ≤ (CasePrioritizer.age input.openedAt input.asOf).score ∧
      (CasePrioritizer.age input.openedAt input.asOf).score ≤ 0 := by
    unfold CasePrioritizer.age Adjustment.none
    rcases input.openedAt with _ | caseTime
    · dsimp only
      decide
    · dsimp only
      split_ifs <;> dsimp only <;> decide
  unfold otherScore
  omega

theorem priority_congr {first second : Option String}
    (h : SameWeight (cleanCode first) (cleanCode second)) :
    input.priority first = input.priority second := by
  rw [priority_eq, priority_eq, h.1]

/-- The tier of a score. -/
def tierOf (riskScore : ℤ) (fraud : Bool) : RiskTier :=
  if riskScore ≥ 50 ∨ fraud then .HIGH else if riskScore ≥ 25 then .MEDIUM else .LOW

theorem riskTier_eq (failureCode : Option String) :
    input.riskTier failureCode =
      (CaseRiskClassifier.tier input.customerTier).map fun segment =>
        tierOf ([(CaseRiskClassifier.exposure input.amountMinor input.currency).score,
          (CaseRiskClassifier.churn (upper (strip input.eventType))).score,
          (CaseRiskClassifier.failure (cleanCode failureCode)).score, segment.score].sum)
          (CaseRiskClassifier.isFraud (cleanCode failureCode)) := by
  unfold riskTier CaseRiskClassifier.classifyRisk
  rcases CaseRiskClassifier.tier input.customerTier with fault | segment
  · rfl
  · rfl

theorem riskTier_congr {first second : Option String}
    (h : SameWeight (cleanCode first) (cleanCode second)) :
    input.riskTier first = input.riskTier second := by
  rw [riskTier_eq, riskTier_eq, h.2.1, h.2.2]

/-- Normalising a code changes neither its priority nor its risk tier, unless the code is
`card_declined`: then the priority always changes. -/
theorem triage_preserved_iff (raw : Option String) :
    input.Preserved raw ↔ cleanCode raw ≠ "card_declined" := by
  constructor
  · rintro ⟨code, hcode, hpriority, -⟩ hdeclined
    have hcategory : code = "generic_decline" := by
      rcases normalizeFailureCode_cases raw with ⟨hempty, -⟩ | hnormal
      · rw [hempty] at hdeclined
        exact absurd hdeclined (by decide)
      · rw [hcode, hdeclined] at hnormal
        exact Except.ok.inj hnormal
    have hweight : (CasePrioritizer.failure (cleanCode (some "generic_decline"))).score = 0 := by
      decide
    have hraw : (CasePrioritizer.failure "card_declined").score = 10 := by decide
    have := input.otherScore_bounds
    rw [priority_eq, priority_eq, hdeclined, hcategory, hweight, hraw] at hpriority
    omega
  · intro hne
    have hsame : ∃ code, normalizeFailureCode (.ofOption raw) = .ok code ∧
        SameWeight (cleanCode (some code)) (cleanCode raw) := by
      rcases normalizeFailureCode_cases raw with ⟨hempty, hcode⟩ | hcode
      · refine ⟨_, hcode, ?_⟩
        rw [hempty]
        decide
      · refine ⟨_, hcode, ?_⟩
        rw [cleanCode_categoryOf]
        exact sameWeight_categoryOf hne
    obtain ⟨code, hcode, hweight⟩ := hsame
    exact ⟨code, hcode, input.priority_congr hweight, input.riskTier_congr hweight⟩

/-- A declined card of 250 dollars. -/
def declined : TriageInput :=
  { amountMinor := 25000, currency := "USD", eventType := "PAYMENT_FAILED", customerTier := .null
    openedAt := none, asOf := ⟨0, some 0⟩ }

/-- Its priority goes from 100 to 90 and its risk from medium to low. -/
theorem triage_of_declined_changes :
    declined.priority (some "card_declined") = 100 ∧
      declined.priority (some "generic_decline") = 90 ∧
      declined.riskTier (some "card_declined") = .ok .MEDIUM ∧
      declined.riskTier (some "generic_decline") = .ok .LOW ∧
      ¬ declined.Preserved (some "card_declined") := by
  refine ⟨by decide +kernel, by decide +kernel, by decide +kernel, by decide +kernel, ?_⟩
  rintro ⟨code, hcode, hpriority, -⟩
  have hcategory : code = "generic_decline" :=
    Except.ok.inj (hcode.symm.trans (by decide +kernel))
  subst hcategory
  exact absurd hpriority (by decide +kernel)

end TriageInput

end RevenueRescue
