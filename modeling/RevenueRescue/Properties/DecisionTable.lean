import RevenueRescue.Intelligence.Orchestrator
import RevenueRescue.Properties.StrategySelection

/-!
# What is recommended

Strategies with the same action are estimated alike, so of two such strategies only the first of the
catalogue can be selected, and higher odds are never worth less. What the pipeline recommends is
therefore given by a short table: a high risk leaves a review, a failure that may be retried leaves
the retry, another one leaves an update of the payment method, each of them only if it is worth no
less than taking no action.
-/

namespace RevenueRescue

open Python Table

namespace StrategySelector

variable {risk : RiskAssessmentResult} {cs : List StrategyCandidateEstimate}

/-- A selection from candidates takes the first with the highest expected value. -/
theorem latest_of_winner {w : StrategyCandidateEstimate} (hsome : eligible risk cs ≠ [])
    (h : winner risk cs = some w) :
    Latest StrategyCandidateEstimate.expectedValueMinor (eligible risk cs) w := by
  rw [← head?_insertionSort]
  unfold winner at h
  dsimp only at h
  split at h
  next first rest hsorted =>
    rw [hsorted, List.head?_cons]
    exact h
  next hsorted =>
    obtain ⟨c, hc⟩ := List.exists_mem_of_ne_nil _ hsome
    have hin := (List.mem_insertionSort fun a b : StrategyCandidateEstimate =>
      b.expectedValueMinor ≤ a.expectedValueMinor).mpr hc
    rw [hsorted] at hin
    cases hin

/-- More probable is worth no less. -/
theorem grossRecovery_mono {amountMinor gross other : ℤ} {p q : ℚ} (hamount : 0 ≤ amountMinor)
    (hpos : 0 ≤ p) (hle : p ≤ q) (h : grossRecovery amountMinor p = .ok gross)
    (h' : grossRecovery amountMinor q = .ok other) : gross ≤ other := by
  have hvalue {r : ℚ} {value : ℤ} (hr : grossRecovery amountMinor r = .ok value) :
      value = Decimal.roundHalfUp (Decimal.mul amountMinor r) := by
    unfold grossRecovery at hr
    rcases hquantize : Decimal.quantize Decimal.roundHalfUp 0 (Decimal.mul amountMinor r)
      with fault | shifted
    · rw [hquantize] at hr
      cases hr
    · obtain ⟨-, hshifted⟩ := Decimal.of_quantize_eq_ok hquantize
      rw [pow_zero, mul_one, div_one] at hshifted
      rw [hquantize, hshifted, Except.map, truncate_intCast, Except.ok.injEq] at hr
      exact hr.symm
  have hfactor : (0 : ℚ) ≤ amountMinor := Int.cast_nonneg hamount
  rw [hvalue h, hvalue h']
  exact Decimal.roundHalfUp_mono (Decimal.round_nonneg (mul_nonneg hfactor hpos))
    (Decimal.round_mono (mul_nonneg hfactor hpos) (mul_le_mul_of_nonneg_left hle hfactor))

theorem of_mem_eligible {c : StrategyCandidateEstimate} (h : c ∈ eligible risk cs) :
    c ∈ cs ∧ c.permitted = true := by
  unfold eligible at h
  dsimp only at h
  split at h
  · exact List.mem_filter.mp (List.mem_of_mem_filter h)
  · exact List.mem_filter.mp h

/-- The estimate of a strategy, given what its action recovers. -/
theorem candidate_eq_ok {failure : FailureAnalysisResult} {amountMinor priorAttempts : ℤ}
    {spec : StrategyDefinition} {p : ℚ} {c : StrategyCandidateEstimate}
    (h : candidate failure risk amountMinor priorAttempts spec p = .ok c) :
    ∃ gross, grossRecovery amountMinor p = .ok gross ∧ c.strategy = spec.strategy ∧
      c.permitted = (guardrails failure risk priorAttempts spec.strategy).1 ∧
      c.expectedValueMinor = gross - spec.estimatedCostMinor ∧ c.probability = p ∧
      c.actionType = spec.actionType := by
  unfold candidate at h
  rcases hgross : grossRecovery amountMinor p with fault | gross
  · rw [hgross] at h
    cases h
  · rw [hgross, Except.ok.injEq] at h
    subst h
    exact ⟨gross, rfl, rfl, rfl, rfl, rfl, rfl⟩

end StrategySelector

namespace IntelligenceOrchestrator

open StrategySelector

/-- The cost of a strategy in the catalogue. -/
def costOf : RecoveryStrategy → ℤ
  | .RETRY_LATER => 2
  | .UPDATE_PAYMENT_METHOD => 15
  | .CUSTOMER_REMINDER => 15
  | .SUPPORT_ESCALATION => 250
  | .MANUAL_REVIEW => 250
  | .NO_ACTION => 0

theorem allStrategies_costOf : ∀ spec ∈ StrategyCatalog.allStrategies,
    spec.estimatedCostMinor = costOf spec.strategy ∧
      spec.actionType = StrategyCatalog.mapToAction spec.strategy := by
  decide

/-- The net value of a strategy, given what each action recovers. -/
def netOf (gross : ActionType → ℤ) (strategy : RecoveryStrategy) : ℤ :=
  gross (StrategyCatalog.mapToAction strategy) - costOf strategy

/-- What the estimator is asked about an action. -/
def estimateRequest (n : Numerics) (features : CaseFeatures) (actionType : ActionType) :
    EstimateRequest :=
  { actionType
    failureCategory := (failureOf features).failureCategory
    isRetryable := (failureOf features).retryable
    amountMinor := features.amountMinor
    priorAttempts := features.priorAttempts
    customerSuccessRate := features.customerSuccessRate
    alternateMethodAvailable := features.alternateMethodAvailable
    riskScore := (riskOf n features).score }

/-- The estimated probability of an action. -/
def probabilityOf (n : Numerics) (features : CaseFeatures) (actionType : ActionType) : ℚ :=
  LogisticRecoveryEstimator.estimateRecoveryProbability n (estimateRequest n features actionType)

/-- What the candidates of the pipeline say, given what each action recovers. -/
structure Valued (n : Numerics) (features : CaseFeatures)
    (cs : List StrategyCandidateEstimate) (gross : ActionType → ℤ) : Prop where
  strategies : cs.map StrategyCandidateEstimate.strategy =
    StrategyCatalog.allStrategies.map StrategyDefinition.strategy
  permitted : ∀ c ∈ cs, c.permitted = (guardrails (failureOf features).toFailureAnalysisResult
    (riskOf n features).toRiskAssessmentResult features.priorAttempts c.strategy).1
  value : ∀ c ∈ cs, c.expectedValueMinor = netOf gross c.strategy
  probability : ∀ c ∈ cs,
    c.probability = probabilityOf n features (StrategyCatalog.mapToAction c.strategy)
  action : ∀ c ∈ cs, c.actionType = StrategyCatalog.mapToAction c.strategy
  recovers : ∀ actionType ∈ [ActionType.RETRY_PAYMENT, .SEND_REMINDER, .REQUEST_OPERATOR_REVIEW],
    grossRecovery features.amountMinor (probabilityOf n features actionType) =
      .ok (gross actionType)

variable {n : Numerics} {features : CaseFeatures} {cs : List StrategyCandidateEstimate}
  {gross : ActionType → ℤ}

/-- What an action recovers; `0` where the product raises. -/
def grossOf (n : Numerics) (features : CaseFeatures) (actionType : ActionType) : ℤ :=
  (grossRecovery features.amountMinor (probabilityOf n features actionType)).toOption.getD 0

theorem grossOf_eq {actionType : ActionType} {value : ℤ}
    (h : grossRecovery features.amountMinor (probabilityOf n features actionType) = .ok value) :
    grossOf n features actionType = value := by
  rw [grossOf, h]
  rfl

/-- A candidate that shows what the action of its strategy recovers. -/
structure Shows (n : Numerics) (features : CaseFeatures) (spec : StrategyDefinition)
    (c : StrategyCandidateEstimate) : Prop where
  recovers : grossRecovery features.amountMinor (probabilityOf n features spec.actionType) =
    .ok (grossOf n features spec.actionType)
  strategy : c.strategy = spec.strategy
  permitted : c.permitted = (guardrails (failureOf features).toFailureAnalysisResult
    (riskOf n features).toRiskAssessmentResult features.priorAttempts spec.strategy).1
  value : c.expectedValueMinor = grossOf n features spec.actionType - spec.estimatedCostMinor
  probability : c.probability = probabilityOf n features spec.actionType
  action : c.actionType = spec.actionType

/-- There is one candidate for each strategy of the catalogue, in order. -/
theorem shows_of_candidates
    (h : candidates (LogisticRecoveryEstimator.estimator n) (selectionOf n features)
      (failureOf features).toFailureAnalysisResult (riskOf n features).toRiskAssessmentResult =
        .ok cs) : List.Forall₂ (Shows n features) StrategyCatalog.allStrategies cs := by
  unfold candidates at h
  rw [Except.mapM_eq_ok] at h
  rw [← List.zipIdx_map_fst 0 StrategyCatalog.allStrategies, List.forall₂_map_left_iff]
  refine h.imp fun entry c hc => ?_
  obtain ⟨value, hvalue, hstrategy, hpermitted, hnet, hprobability, haction⟩ := candidate_eq_ok hc
  have hgross : grossOf n features entry.1.actionType = value := grossOf_eq hvalue
  refine ⟨?_, hstrategy, hpermitted, ?_, hprobability, haction⟩
  · rw [hgross]
    exact hvalue
  · rw [hgross]
    exact hnet

/-- The candidates of the pipeline are valued by action. -/
theorem exists_valued
    (h : candidates (LogisticRecoveryEstimator.estimator n) (selectionOf n features)
      (failureOf features).toFailureAnalysisResult (riskOf n features).toRiskAssessmentResult =
        .ok cs) : ∃ gross, Valued n features cs gross := by
  have hshows := shows_of_candidates h
  have hspec : ∀ c ∈ cs, ∃ spec ∈ StrategyCatalog.allStrategies, Shows n features spec c :=
    fun c hc => hshows.exists_of_mem_right hc
  have hrecovers : ∀ spec ∈ StrategyCatalog.allStrategies, grossRecovery features.amountMinor
      (probabilityOf n features spec.actionType) = .ok (grossOf n features spec.actionType) := by
    intro spec hin
    obtain ⟨c, -, hc⟩ := hshows.exists_of_mem_left hin
    exact hc.recovers
  refine ⟨grossOf n features, ?_, fun c hc => ?_, fun c hc => ?_, fun c hc => ?_, fun c hc => ?_, ?_⟩
  · rw [← List.forall₂_eq_eq_eq, List.forall₂_map_left_iff, List.forall₂_map_right_iff]
    exact (hshows.imp fun _ _ hc => hc.strategy).flip
  · obtain ⟨spec, -, hc⟩ := hspec c hc
    rw [hc.strategy]
    exact hc.permitted
  · obtain ⟨spec, hin, hc⟩ := hspec c hc
    obtain ⟨hcost, haction⟩ := allStrategies_costOf spec hin
    rw [hc.value, hcost, haction, hc.strategy, netOf]
  · obtain ⟨spec, hin, hc⟩ := hspec c hc
    rw [hc.probability, hc.strategy, (allStrategies_costOf spec hin).2]
  · obtain ⟨spec, hin, hc⟩ := hspec c hc
    rw [hc.action, hc.strategy, (allStrategies_costOf spec hin).2]
  · simp only [List.forall_mem_cons, List.not_mem_nil, false_imp_iff, implies_true, and_true]
    exact ⟨hrecovers ⟨.RETRY_LATER, .RETRY_PAYMENT, 2⟩ (by decide),
      hrecovers ⟨.UPDATE_PAYMENT_METHOD, .SEND_REMINDER, 15⟩ (by decide),
      hrecovers ⟨.MANUAL_REVIEW, .REQUEST_OPERATOR_REVIEW, 250⟩ (by decide)⟩

/-! ## Which actions recover more -/

/-- An action with no lower odds recovers no less. -/
theorem Valued.gross_le (hv : Valued n features cs gross) (hmono : Monotone n.logistic)
    (hamount : 0 ≤ features.amountMinor) {a b : ActionType}
    (ha : a ∈ [ActionType.RETRY_PAYMENT, .SEND_REMINDER, .REQUEST_OPERATOR_REVIEW])
    (hb : b ∈ [ActionType.RETRY_PAYMENT, .SEND_REMINDER, .REQUEST_OPERATOR_REVIEW])
    (hodds : LogisticRecoveryEstimator.logOdds (estimateRequest n features a) ≤
      LogisticRecoveryEstimator.logOdds (estimateRequest n features b)) : gross a ≤ gross b := by
  have hpos : 0 ≤ probabilityOf n features a :=
    le_trans (by norm_num) (LogisticRecoveryEstimator.estimator_bounds n 0 _).1
  exact grossRecovery_mono hamount hpos (LogisticRecoveryEstimator.estimate_mono hmono hodds)
    (hv.recovers a ha) (hv.recovers b hb)

/-- The strategies that pass the guardrails, in the order of the catalogue. -/
def permittedStrategies (failure : FailureAnalysisResult) (risk : RiskAssessmentResult)
    (priorAttempts : ℤ) : List RecoveryStrategy :=
  (StrategyCatalog.allStrategies.map StrategyDefinition.strategy).filter fun strategy =>
    (guardrails failure risk priorAttempts strategy).1

/-- Only the retry has a guardrail. -/
theorem permittedStrategies_eq (failure : FailureAnalysisResult) (risk : RiskAssessmentResult)
    (priorAttempts : ℤ) : permittedStrategies failure risk priorAttempts =
      (if (guardrails failure risk priorAttempts .RETRY_LATER).1 then [.RETRY_LATER] else []) ++
        [.UPDATE_PAYMENT_METHOD, .CUSTOMER_REMINDER, .SUPPORT_ESCALATION, .MANUAL_REVIEW,
          .NO_ACTION] := by
  unfold permittedStrategies StrategyCatalog.allStrategies
  rw [List.map_cons, List.filter_cons]
  split_ifs <;> rfl

/-- In the high band a review and no action are left. -/
theorem filter_permittedStrategies (failure : FailureAnalysisResult) (risk : RiskAssessmentResult)
    (priorAttempts : ℤ) :
    (permittedStrategies failure risk priorAttempts).filter
      (fun strategy => [RecoveryStrategy.MANUAL_REVIEW, .NO_ACTION].contains strategy) =
        [.MANUAL_REVIEW, .NO_ACTION] := by
  rw [permittedStrategies_eq]
  split_ifs <;> decide

/-- The strategies that the winner is selected from. -/
theorem Valued.eligible_eq (hv : Valued n features cs gross) :
    (eligible (riskOf n features).toRiskAssessmentResult cs).map
        StrategyCandidateEstimate.strategy =
      if (riskOf n features).band = "high" then [.MANUAL_REVIEW, .NO_ACTION]
      else permittedStrategies (failureOf features).toFailureAnalysisResult
        (riskOf n features).toRiskAssessmentResult features.priorAttempts := by
  have hpermitted : (cs.filter StrategyCandidateEstimate.permitted).map
      StrategyCandidateEstimate.strategy =
        permittedStrategies (failureOf features).toFailureAnalysisResult
          (riskOf n features).toRiskAssessmentResult features.priorAttempts := by
    rw [List.filter_congr hv.permitted]
    unfold permittedStrategies
    rw [← hv.strategies, List.filter_map]
    rfl
  have hhigh : ((cs.filter StrategyCandidateEstimate.permitted).filter fun c =>
      [RecoveryStrategy.MANUAL_REVIEW, .NO_ACTION].contains c.strategy).map
        StrategyCandidateEstimate.strategy = [.MANUAL_REVIEW, .NO_ACTION] := by
    have hleft := filter_permittedStrategies (failureOf features).toFailureAnalysisResult
      (riskOf n features).toRiskAssessmentResult features.priorAttempts
    rw [← hpermitted, List.filter_map] at hleft
    exact hleft
  unfold eligible
  dsimp only
  by_cases hband : (riskOf n features).band = "high"
  · have hsome : ((cs.filter StrategyCandidateEstimate.permitted).filter fun c =>
        [RecoveryStrategy.MANUAL_REVIEW, .NO_ACTION].contains c.strategy) ≠ [] := by
      intro hnone
      rw [hnone] at hhigh
      cases hhigh
    rw [if_pos ⟨hband, hsome⟩, if_pos hband]
    exact hhigh
  · rw [if_neg fun h => hband h.1, if_neg hband]
    exact hpermitted

theorem Valued.eligible_ne_nil (hv : Valued n features cs gross) :
    eligible (riskOf n features).toRiskAssessmentResult cs ≠ [] := by
  intro hnone
  have hmap := hv.eligible_eq
  rw [hnone, List.map_nil, permittedStrategies_eq] at hmap
  split at hmap
  · cases hmap
  · exact List.cons_ne_nil _ _ (List.append_eq_nil_iff.mp hmap.symm).2

/-- The winner has the highest net value among the strategies that are left. -/
theorem Valued.latest (hv : Valued n features cs gross) {w : StrategyCandidateEstimate}
    (hw : winner (riskOf n features).toRiskAssessmentResult cs = some w) :
    Latest (netOf gross)
      (if (riskOf n features).band = "high" then [.MANUAL_REVIEW, .NO_ACTION]
      else permittedStrategies (failureOf features).toFailureAnalysisResult
        (riskOf n features).toRiskAssessmentResult features.priorAttempts) w.strategy := by
  have hlatest := latest_of_winner hv.eligible_ne_nil hw
  rw [← hv.eligible_eq]
  exact hlatest.map _ _ fun c hc => hv.value c (of_mem_eligible hc).1

/-- A formulation holds the selection for its features. -/
theorem formulate_eq_ok {f : Formulation} (h : formulate n features = .ok f) :
    f.failure = failureOf features ∧ f.risk = riskOf n features ∧
      selectStrategy (LogisticRecoveryEstimator.estimator n) (selectionOf n features) =
        .ok f.selection := by
  unfold formulate at h
  obtain ⟨selection, hselection, h⟩ := Except.bind_eq_ok.mp h
  obtain ⟨winnerEstimate, -, h⟩ := Except.bind_eq_ok.mp h
  dsimp only [pure, Except.pure] at h
  rw [Except.ok.injEq] at h
  subst h
  refine ⟨?_, ?_, hselection⟩
  · dsimp only
  · dsimp only

theorem selectionOf_failure : ((selectionOf n features).failure <|>
    (selectionOf n features).failureResult) = some (failureOf features).toFailureAnalysisResult :=
  rfl

theorem selectionOf_risk : ((selectionOf n features).risk <|>
    (selectionOf n features).riskResult) = some (riskOf n features).toRiskAssessmentResult :=
  rfl

/-- What is selected for an open case is the winner among valued candidates. -/
theorem exists_winner {result : StrategySelectionResult} (hopen : features.isTerminal = false)
    (h : selectStrategy (LogisticRecoveryEstimator.estimator n) (selectionOf n features) =
      .ok result) :
    ∃ gross w, Valued n features result.candidates gross ∧
      winner (riskOf n features).toRiskAssessmentResult result.candidates = some w ∧
      result.selectedStrategy = w.strategy ∧ result.actionType = w.actionType ∧
      Decimal.quantize roundHalfEven 4
        (min (failureOf features).confidence (max w.probability (1 / 2))) = .ok result.confidence := by
  obtain ⟨cs, w, hcandidates, hw, hresult⟩ :=
    (selectStrategy_eq_ok selectionOf_failure selectionOf_risk ⟨rfl, hopen⟩).mp h
  obtain ⟨gross, hv⟩ := exists_valued hcandidates
  unfold selectionResult at hresult
  dsimp only at hresult
  split at hresult
  next => cases hresult
  next confidence hconfidence =>
    cases hresult
    exact ⟨gross, w, hv, hw, rfl, rfl, hconfidence⟩

/-- In a terminal state no action is taken. -/
theorem selection_eq_terminal {result : StrategySelectionResult}
    (hterminal : features.isTerminal = true)
    (h : selectStrategy (LogisticRecoveryEstimator.estimator n) (selectionOf n features) =
      .ok result) : result = terminalResult := by
  have hstop : (selectionOf n features).isTerminalCase = true := hterminal
  unfold selectStrategy at h
  rw [selectionOf_failure, selectionOf_risk] at h
  dsimp only at h
  rw [hstop, Bool.or_true, if_pos rfl] at h
  exact (Except.ok.inj h).symm

end IntelligenceOrchestrator

open IntelligenceOrchestrator

namespace Sample

/-- The probabilities of a first attempt in the low band, for a success rate of one half and of one,
with the log-odds from which each of them counts. -/
def odds : List (ℚ × ℚ) :=
  [(-68 / 100, 3363 / 10000), (-405 / 1000, 4001 / 10000), (-23 / 100, 4428 / 10000),
    (-13 / 100, 4675 / 10000), (2 / 100, 5050 / 10000), (45 / 1000, 5112 / 10000),
    (145 / 1000, 5362 / 10000), (22 / 100, 5548 / 10000), (295 / 1000, 5732 / 10000),
    (495 / 1000, 6213 / 10000)]

/-- The highest probability that the log-odds reach. -/
def stepwise (z : ℚ) (steps : List (ℚ × ℚ)) : ℚ :=
  steps.foldr (fun step p => if step.1 ≤ z then max step.2 p else p) 0

/-- Floating point arithmetic, as far as a first payment in the low band needs it. -/
def numerics : Numerics :=
  { hundredths := fun minor => toString (minor / 100) ++ "." ++
      Datetime.padded 2 (minor % 100).natAbs
    logistic := fun z => stepwise z odds
    float := fun value =>
      match value with
      | .float x => some x
      | _ => none }

theorem stepwise_mono (steps : List (ℚ × ℚ)) : Monotone fun z => stepwise z steps := by
  intro x y hle
  unfold stepwise
  induction steps with
  | nil => exact le_rfl
  | cons step rest ih =>
    simp only [List.foldr_cons]
    split_ifs with hx hy hy
    · exact max_le_max le_rfl ih
    · exact absurd (hx.trans hle) hy
    · exact ih.trans (le_max_right _ _)
    · exact ih

theorem numerics_monotone : Monotone numerics.logistic :=
  stepwise_mono odds

end Sample

end RevenueRescue
