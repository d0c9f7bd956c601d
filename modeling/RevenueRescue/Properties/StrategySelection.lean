import RevenueRescue.Base.Transaction
import RevenueRescue.Cases.Strategy

/-!
# The selected strategy

The selection is an optimisation over the six strategies of the catalogue. The winner is permitted
and no eligible candidate has a higher expected value; a risk in the high band leaves only the two
strategies that charge nobody. What a candidate may recover lies between nothing and the amount,
because rounding to digits and to whole units passes no integer on the way.

An amount of 28 digits or less can always be estimated.
-/

namespace RevenueRescue

open Python StrategySelector

/-- The guardrails let the strategy through: a retry needs a failure that can be retried, a risk
that is not high and an attempt left. -/
def PermittedFor (failure : FailureAnalysisResult) (risk : RiskAssessmentResult)
    (priorAttempts : ℤ) (strategy : RecoveryStrategy) : Prop :=
  strategy = .RETRY_LATER →
    failure.retryable = true ∧ risk.band ≠ "high" ∧ priorAttempts < 4

/-- In the high band only the strategies that charge nobody are eligible. -/
def EligibleFor (risk : RiskAssessmentResult) (strategy : RecoveryStrategy) : Prop :=
  risk.band = "high" → strategy = .MANUAL_REVIEW ∨ strategy = .NO_ACTION

/-- What the estimate of a strategy says about money. -/
structure Estimates (amountMinor : ℤ) (spec : StrategyDefinition)
    (c : StrategyCandidateEstimate) : Prop where
  strategy : c.strategy = spec.strategy
  action : c.actionType = spec.actionType
  cost : c.costMinor = spec.estimatedCostMinor
  net : c.expectedValueMinor = c.recoveryValueMinor - spec.estimatedCostMinor
  gross_nonneg : 0 ≤ c.recoveryValueMinor
  gross_le : c.recoveryValueMinor ≤ amountMinor

/-- The best of the candidates was selected. -/
structure Selected (request : SelectionRequest) (failure : FailureAnalysisResult)
    (risk : RiskAssessmentResult) (result : StrategySelectionResult) : Prop where
  estimates : List.Forall₂ (Estimates request.amountMinor) StrategyCatalog.allStrategies
    result.candidates
  permitted : ∀ c ∈ result.candidates,
    c.permitted = true ↔ PermittedFor failure risk request.priorAttempts c.strategy
  winner : ∃ winner ∈ result.candidates, winner.permitted = true ∧
    EligibleFor risk winner.strategy ∧ result.selectedStrategy = winner.strategy ∧
    result.actionType = winner.actionType ∧
    result.expectedValueMinor = winner.expectedValueMinor ∧
    ∀ c ∈ result.candidates, c.permitted = true → EligibleFor risk c.strategy →
      c.expectedValueMinor ≤ winner.expectedValueMinor

namespace StrategySelector

theorem guardrails_iff (failure : FailureAnalysisResult) (risk : RiskAssessmentResult)
    (priorAttempts : ℤ) (strategy : RecoveryStrategy) :
    (guardrails failure risk priorAttempts strategy).1 = true ↔
      PermittedFor failure risk priorAttempts strategy := by
  cases strategy <;> simp [guardrails, PermittedFor, and_assoc]

/-! ## The estimates -/

theorem truncate_intCast (n : ℤ) : truncate (n : ℚ) = n := by
  unfold truncate
  split_ifs
  · exact Rat.floor_intCast n
  · rw [← Int.cast_neg, Rat.floor_intCast, neg_neg]

/-- The product is between nothing and the amount, whether or not it can be written down. -/
theorem round_mul_bounds {amountMinor : ℤ} {probability : ℚ} (hamount : 0 ≤ amountMinor)
    (hlow : 0 ≤ probability) (hhigh : probability ≤ 1) (hsmall : amountMinor < 10 ^ Decimal.precision) :
    0 ≤ Decimal.roundHalfUp (Decimal.mul amountMinor probability) ∧
      Decimal.roundHalfUp (Decimal.mul amountMinor probability) ≤ amountMinor := by
  obtain ⟨amount, rfl⟩ := Int.eq_ofNat_of_zero_le hamount
  have hcast : (0 : ℚ) ≤ ((amount : ℤ) : ℚ) := Int.cast_nonneg hamount
  have hpos : 0 ≤ ((amount : ℤ) : ℚ) * probability := mul_nonneg hcast hlow
  have hle : ((amount : ℤ) : ℚ) * probability ≤ (amount : ℚ) := by
    rw [Int.cast_natCast] at hcast ⊢
    exact mul_le_of_le_one_right hcast hhigh
  have hround := Decimal.round_nonneg hpos
  have hbound := Decimal.round_le hpos hle (by exact_mod_cast hsmall)
  refine ⟨Decimal.roundHalfUp_nonneg hround, Decimal.roundHalfUp_le hround ?_⟩
  rw [Int.cast_natCast]
  exact hbound

/-- The gross recovery that is returned lies between nothing and the amount. -/
theorem grossRecovery_bounds {amountMinor gross : ℤ} {probability : ℚ}
    (hamount : 0 ≤ amountMinor) (hlow : 0 ≤ probability) (hhigh : probability ≤ 1)
    (h : grossRecovery amountMinor probability = .ok gross) : 0 ≤ gross ∧ gross ≤ amountMinor := by
  unfold grossRecovery at h
  rcases hquantize : Decimal.quantize Decimal.roundHalfUp 0 (Decimal.mul amountMinor probability)
    with fault | value
  · rw [hquantize] at h
    cases h
  obtain ⟨hdigits, hvalue⟩ := Decimal.of_quantize_eq_ok hquantize
  rw [pow_zero, mul_one] at hdigits hvalue
  rw [div_one] at hvalue
  rw [hquantize, hvalue, Except.map, truncate_intCast, Except.ok.injEq] at h
  rw [← h]
  rcases lt_or_ge amountMinor (10 ^ Decimal.precision) with hsmall | hlarge
  · exact round_mul_bounds hamount hlow hhigh hsmall
  · have hpos : 0 ≤ Decimal.roundHalfUp (Decimal.mul amountMinor probability) :=
      Decimal.roundHalfUp_nonneg (Decimal.round_nonneg
        (mul_nonneg (Int.cast_nonneg hamount) hlow))
    refine ⟨hpos, le_trans ?_ hlarge⟩
    rw [← Int.natAbs_of_nonneg hpos]
    exact_mod_cast hdigits.le

/-- An amount within the precision has a gross recovery. -/
theorem grossRecovery_isOk {amountMinor : ℤ} {probability : ℚ} (hamount : 0 ≤ amountMinor)
    (hlow : 0 ≤ probability) (hhigh : probability ≤ 1)
    (hsmall : amountMinor < 10 ^ Decimal.precision) :
    ∃ gross, grossRecovery amountMinor probability = .ok gross := by
  obtain ⟨hpos, hle⟩ := round_mul_bounds hamount hlow hhigh hsmall
  have hdigits : (Decimal.roundHalfUp (Decimal.mul amountMinor probability * 10 ^ 0)).natAbs <
      10 ^ Decimal.precision := by
    rw [pow_zero, mul_one]
    zify
    rw [abs_of_nonneg hpos]
    exact hle.trans_lt hsmall
  unfold grossRecovery
  rw [Decimal.quantize_eq_ok hdigits]
  exact ⟨_, rfl⟩

variable {request : SelectionRequest} {failure : FailureAnalysisResult} {risk : RiskAssessmentResult}

/-- A candidate that is returned says what the catalogue and the guardrails say. -/
theorem of_candidate {spec : StrategyDefinition} {probability : ℚ} {c : StrategyCandidateEstimate}
    (hamount : 0 ≤ request.amountMinor) (hlow : 0 ≤ probability) (hhigh : probability ≤ 1)
    (h : candidate failure risk request.amountMinor request.priorAttempts spec probability =
      .ok c) :
    Estimates request.amountMinor spec c ∧ c.probability = probability ∧
      (c.permitted = true ↔ PermittedFor failure risk request.priorAttempts c.strategy) := by
  unfold candidate at h
  rcases hgross : grossRecovery request.amountMinor probability with fault | gross
  · rw [hgross] at h
    cases h
  obtain ⟨hpos, hle⟩ := grossRecovery_bounds hamount hlow hhigh hgross
  rw [hgross, Except.ok.injEq] at h
  rw [← h]
  exact ⟨⟨rfl, rfl, rfl, rfl, hpos, hle⟩, rfl, guardrails_iff failure risk _ spec.strategy⟩

/-- The candidates are the estimates of the catalogue. -/
theorem of_candidates {estimator : RecoveryEstimator} {cs : List StrategyCandidateEstimate}
    (hamount : 0 ≤ request.amountMinor)
    (hestimator : ∀ call r, 0 ≤ estimator call r ∧ estimator call r ≤ 1)
    (h : candidates estimator request failure risk = .ok cs) :
    List.Forall₂ (fun spec c => Estimates request.amountMinor spec c ∧ c.probability ≤ 1 ∧
      (c.permitted = true ↔ PermittedFor failure risk request.priorAttempts c.strategy))
      StrategyCatalog.allStrategies cs := by
  unfold candidates at h
  rw [Except.mapM_eq_ok] at h
  rw [← List.zipIdx_map_fst 0 StrategyCatalog.allStrategies, List.forall₂_map_left_iff]
  refine h.imp fun entry c hc => ?_
  obtain ⟨hlow, hhigh⟩ := hestimator entry.2 _
  obtain ⟨hestimates, hprobability, hpermitted⟩ := of_candidate hamount hlow hhigh hc
  exact ⟨hestimates, hprobability ▸ hhigh, hpermitted⟩

/-- Every run through strategies ends normally. -/
theorem mapM_candidate_isOk {estimator : RecoveryEstimator} (failure : FailureAnalysisResult)
    (risk : RiskAssessmentResult) (hamount : 0 ≤ request.amountMinor)
    (hsmall : request.amountMinor < 10 ^ Decimal.precision)
    (hestimator : ∀ call r, 0 ≤ estimator call r ∧ estimator call r ≤ 1)
    (specs : List (StrategyDefinition × ℕ)) : ∃ cs, specs.mapM (fun (spec, call) =>
      candidate failure risk request.amountMinor request.priorAttempts spec (estimator call
        { actionType := spec.actionType
          failureCategory := failure.failureCategory
          isRetryable := failure.retryable
          amountMinor := request.amountMinor
          priorAttempts := request.priorAttempts
          customerSuccessRate := request.customerSuccessRate
          alternateMethodAvailable := request.alternateMethodAvailable
          riskScore := risk.score })) = .ok cs := by
  induction specs with
  | nil => exact ⟨[], rfl⟩
  | cons entry rest ih =>
    obtain ⟨cs, hcs⟩ := ih
    obtain ⟨hlow, hhigh⟩ := hestimator entry.2 _
    obtain ⟨gross, hgross⟩ := grossRecovery_isOk hamount hlow hhigh hsmall
    rw [List.mapM_cons, hcs]
    dsimp only
    unfold candidate
    rw [hgross]
    exact ⟨_, rfl⟩

/-- With an amount within the precision all candidates are returned. -/
theorem candidates_isOk {estimator : RecoveryEstimator} (failure : FailureAnalysisResult)
    (risk : RiskAssessmentResult) (hamount : 0 ≤ request.amountMinor)
    (hsmall : request.amountMinor < 10 ^ Decimal.precision)
    (hestimator : ∀ call r, 0 ≤ estimator call r ∧ estimator call r ≤ 1) :
    ∃ cs, candidates estimator request failure risk = .ok cs :=
  mapM_candidate_isOk failure risk hamount hsmall hestimator _

/-! ## The winner -/

variable {cs : List StrategyCandidateEstimate}

/-- Beside a permitted candidate that takes no action, the eligible ones are those that the band
allows. -/
theorem mem_eligible {idle c : StrategyCandidateEstimate} (hidle : idle ∈ cs)
    (hpermitted : idle.permitted = true) (hstop : idle.strategy = .NO_ACTION) :
    c ∈ eligible risk cs ↔ c ∈ cs ∧ c.permitted = true ∧ EligibleFor risk c.strategy := by
  have hstops : idle ∈ (cs.filter StrategyCandidateEstimate.permitted).filter fun c =>
      [RecoveryStrategy.MANUAL_REVIEW, .NO_ACTION].contains c.strategy := by
    rw [List.mem_filter, List.mem_filter, hstop]
    exact ⟨⟨hidle, hpermitted⟩, rfl⟩
  unfold eligible EligibleFor
  dsimp only
  by_cases hhigh : risk.band = "high"
  · rw [if_pos ⟨hhigh, List.ne_nil_of_mem hstops⟩, List.mem_filter, List.mem_filter, and_assoc]
    simp [hhigh]
  · rw [if_neg fun h => hhigh h.1, List.mem_filter]
    simp [hhigh]

/-- Eligible candidates stay when they are sorted. -/
theorem sorted_ne_nil {idle : StrategyCandidateEstimate} (hidle : idle ∈ eligible risk cs) :
    ((eligible risk cs).insertionSort fun a b => b.expectedValueMinor ≤ a.expectedValueMinor) ≠
      [] :=
  List.ne_nil_of_mem ((List.mem_insertionSort _).mpr hidle)

/-- The winner is eligible, and no eligible candidate has a higher expected value. -/
theorem winner_eq_some {idle w : StrategyCandidateEstimate} (hidle : idle ∈ eligible risk cs)
    (h : winner risk cs = some w) :
    w ∈ eligible risk cs ∧ ∀ c ∈ eligible risk cs, c.expectedValueMinor ≤ w.expectedValueMinor := by
  have hlatest : Table.Latest StrategyCandidateEstimate.expectedValueMinor (eligible risk cs) w := by
    rw [← Table.head?_insertionSort]
    unfold winner at h
    dsimp only at h
    split at h
    next first rest hsorted =>
      rw [hsorted, List.head?_cons]
      exact h
    next hsorted => exact absurd hsorted (sorted_ne_nil hidle)
  exact ⟨hlatest.mem, hlatest.le⟩

/-- There is a winner. -/
theorem winner_isSome {idle : StrategyCandidateEstimate} (hidle : idle ∈ eligible risk cs) :
    ∃ w, winner risk cs = some w := by
  unfold winner
  dsimp only
  split
  next first rest hsorted => exact ⟨first, rfl⟩
  next hsorted => exact absurd hsorted (sorted_ne_nil hidle)

/-! ## The selection -/

/-- For an open case a selection is the answer for the winner among the candidates. -/
theorem selectStrategy_eq_ok {estimator : RecoveryEstimator} {result : StrategySelectionResult}
    (hfailure : (request.failure <|> request.failureResult) = some failure)
    (hrisk : (request.risk <|> request.riskResult) = some risk)
    (hopen : request.isCaseTerminal = false ∧ request.isTerminalCase = false) :
    selectStrategy estimator request = .ok result ↔
      ∃ cs w, candidates estimator request failure risk = .ok cs ∧ winner risk cs = some w ∧
        selectionResult failure risk cs w = .ok result := by
  unfold selectStrategy
  rw [hfailure, hrisk]
  dsimp only
  rw [hopen.1, hopen.2, Bool.or_false, if_neg Bool.false_ne_true]
  rcases candidates estimator request failure risk with fault | cs
  · simp
  · dsimp only
    rcases hw : winner risk cs with _ | w
    · simp [hw]
    · simp [hw]

/-- The candidates of the catalogue have an eligible one, which takes no action. -/
theorem exists_eligible (h : List.Forall₂ (fun spec c => Estimates request.amountMinor spec c ∧
      c.probability ≤ 1 ∧
      (c.permitted = true ↔ PermittedFor failure risk request.priorAttempts c.strategy))
      StrategyCatalog.allStrategies cs) :
    ∃ idle ∈ eligible risk cs, ∀ c, c ∈ eligible risk cs ↔
      c ∈ cs ∧ c.permitted = true ∧ EligibleFor risk c.strategy := by
  have hlast : (⟨.NO_ACTION, .STOP, 0⟩ : StrategyDefinition) ∈ StrategyCatalog.allStrategies := by
    decide
  obtain ⟨idle, hidle, hestimates, -, hpermitted⟩ := h.exists_of_mem_left hlast
  have hstop : idle.strategy = .NO_ACTION := hestimates.strategy
  have hallowed : idle.permitted = true := by
    rw [hpermitted]
    intro hretry
    rw [hstop] at hretry
    cases hretry
  refine ⟨idle, ?_, fun c => mem_eligible hidle hallowed hstop⟩
  exact (mem_eligible hidle hallowed hstop).mpr ⟨hidle, hallowed, fun _ => .inr hstop⟩

/-- A confidence of four places is within the precision. -/
theorem confidence_isOk {confidence probability : ℚ} (hlow : -(10 ^ 24) + 1 / 10000 ≤ confidence)
    (hhigh : probability ≤ 1) : ∃ value,
      Decimal.quantize roundHalfEven 4 (min confidence (max probability (1 / 2))) = .ok value := by
  have hupper : min confidence (max probability (1 / 2)) ≤ 1 :=
    (min_le_right _ _).trans (max_le hhigh (by norm_num))
  have hlower : -(10 ^ 24) + 1 / 10000 ≤ min confidence (max probability (1 / 2)) :=
    le_min hlow (le_max_of_le_right (by norm_num))
  have habove : roundHalfEven (min confidence (max probability (1 / 2)) * 10 ^ 4) ≤ 10 ^ 4 := by
    apply Decimal.roundHalfEven_le
    push_cast
    linarith
  have hbelow : -(10 ^ 28) + 1 ≤ roundHalfEven (min confidence (max probability (1 / 2)) * 10 ^ 4) := by
    apply Decimal.le_roundHalfEven
    push_cast
    linarith
  refine ⟨_, Decimal.quantize_eq_ok ?_⟩
  unfold Decimal.precision
  omega

end StrategySelector

/-- On a case that is open the best of the eligible strategies is selected, and never a retry that
the guardrails exclude; an amount and a confidence within the precision always have a selection. -/
theorem selection_is_optimal {estimator : RecoveryEstimator} {request : SelectionRequest}
    {failure : FailureAnalysisResult} {risk : RiskAssessmentResult}
    (hfailure : (request.failure <|> request.failureResult) = some failure)
    (hrisk : (request.risk <|> request.riskResult) = some risk)
    (hopen : request.isCaseTerminal = false ∧ request.isTerminalCase = false)
    (hamount : 0 ≤ request.amountMinor)
    (hestimator : ∀ call r, 0 ≤ estimator call r ∧ estimator call r ≤ 1) :
    (∀ result, selectStrategy estimator request = .ok result →
      Selected request failure risk result ∧
        (failure.retryable = false ∨ risk.band = "high" ∨ 4 ≤ request.priorAttempts →
          result.selectedStrategy ≠ .RETRY_LATER)) ∧
    (request.amountMinor < 10 ^ 28 → -(10 ^ 24) + 1 / 10000 ≤ failure.confidence →
      ∃ result, selectStrategy estimator request = .ok result) := by
  constructor
  · intro result h
    obtain ⟨cs, w, hcandidates, hw, h⟩ := (selectStrategy_eq_ok hfailure hrisk hopen).mp h
    have hcs := of_candidates hamount hestimator hcandidates
    obtain ⟨idle, hidle, hmem⟩ := exists_eligible hcs
    obtain ⟨hin, hbest⟩ := winner_eq_some hidle hw
    obtain ⟨hw_in, hw_permitted, hw_eligible⟩ := (hmem w).mp hin
    unfold selectionResult at h
    dsimp only at h
    split at h
    · cases h
    cases h
    have hpermitted : ∀ c ∈ cs,
        c.permitted = true ↔ PermittedFor failure risk request.priorAttempts c.strategy := by
      intro c hc
      obtain ⟨-, -, -, -, hiff⟩ := hcs.exists_of_mem_right hc
      exact hiff
    refine ⟨⟨hcs.imp fun _ _ h => h.1, hpermitted, w, hw_in, hw_permitted, hw_eligible, rfl, rfl,
      rfl, fun c hc hallowed heligible => hbest c ((hmem c).mpr ⟨hc, hallowed, heligible⟩)⟩, ?_⟩
    intro hexcluded hretry
    obtain ⟨hretryable, hband, hattempts⟩ := (hpermitted w hw_in).mp hw_permitted hretry
    rcases hexcluded with hnot | hhigh | hmany
    · rw [hnot] at hretryable
      cases hretryable
    · exact hband hhigh
    · omega
  · intro hsmall hconfidence
    obtain ⟨cs, hcandidates⟩ := candidates_isOk failure risk hamount hsmall hestimator
    have hcs := of_candidates hamount hestimator hcandidates
    obtain ⟨idle, hidle, hmem⟩ := exists_eligible hcs
    obtain ⟨w, hw⟩ := winner_isSome hidle
    obtain ⟨hin, -⟩ := winner_eq_some hidle hw
    obtain ⟨-, -, -, hprobability, -⟩ := hcs.exists_of_mem_right ((hmem w).mp hin).1
    obtain ⟨value, hvalue⟩ := confidence_isOk hconfidence hprobability
    have hresult : ∃ result, selectionResult failure risk cs w = .ok result := by
      unfold selectionResult
      dsimp only
      rw [hvalue]
      exact ⟨_, rfl⟩
    obtain ⟨result, hresult⟩ := hresult
    exact ⟨result, (selectStrategy_eq_ok hfailure hrisk hopen).mpr ⟨cs, w, hcandidates, hw, hresult⟩⟩

namespace Sample

/-- A failure that can be retried. -/
def shortOfFunds : FailureAnalysisResult :=
  ⟨"insufficient_funds", true, 9 / 10, "The account is short of funds."⟩

/-- A low risk. -/
def lowRisk : RiskAssessmentResult := { score := 10, band := "low" }

/-- A selection for an amount. -/
def selection (amountMinor : ℤ) : SelectionRequest :=
  { amountMinor, failure := some shortOfFunds, risk := some lowRisk }

end Sample

/-- For fifty rupees with an even chance there is a selection, and it is optimal. -/
theorem selection_is_optimal_even :
    ∃ result, selectStrategy (fun _ _ => 1 / 2) (Sample.selection 5000) = .ok result ∧
      Selected (Sample.selection 5000) Sample.shortOfFunds Sample.lowRisk result := by
  have hestimator : ∀ (call : ℕ) (r : EstimateRequest),
      0 ≤ (fun (_ : ℕ) (_ : EstimateRequest) => (1 / 2 : ℚ)) call r ∧
        (fun (_ : ℕ) (_ : EstimateRequest) => (1 / 2 : ℚ)) call r ≤ 1 :=
    fun _ _ => ⟨by norm_num, by norm_num⟩
  have hfailure : ((Sample.selection 5000).failure <|> (Sample.selection 5000).failureResult) =
      some Sample.shortOfFunds := rfl
  have hrisk : ((Sample.selection 5000).risk <|> (Sample.selection 5000).riskResult) =
      some Sample.lowRisk := rfl
  obtain ⟨hsound, htotal⟩ :=
    selection_is_optimal hfailure hrisk ⟨rfl, rfl⟩ (by decide) hestimator
  obtain ⟨result, hresult⟩ := htotal (by decide) (by norm_num [Sample.shortOfFunds])
  exact ⟨result, hresult, (hsound result hresult).1⟩

/-- An amount of 29 digits, or a confidence of 25 before the point, is beyond the precision. -/
theorem large_amount_has_no_selection :
    selectStrategy (fun _ _ => 1) (Sample.selection (10 ^ 28)) =
        .error (.decimal .invalidOperation) ∧
      selectStrategy (fun _ _ => 1)
        { Sample.selection 5000 with
          failure := some { Sample.shortOfFunds with confidence := -(10 ^ 24) } } =
        .error (.decimal .invalidOperation) := by
  decide +kernel

end RevenueRescue
