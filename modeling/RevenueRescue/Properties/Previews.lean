import RevenueRescue.Intelligence.Legacy
import RevenueRescue.Properties.DecisionTable

/-!
# What a preview recommends

The baseline ranks its four actions by expected value. The coefficients leave few of them to choose
from: a retry beats a review, and a reminder to a customer with another method does too. What is left
are the contenders, and the recommended action is the first of them that is worth most.

A comparison of scenarios adds up the same values, whatever their order in each ranking.
-/

namespace RevenueRescue

open Python Table StrategySelector

namespace Legacy

variable {n : Numerics} {request : AnalysisRequest} {failure : FailureClassification}
  {risk : RiskAssessment}

/-! ## Values -/

/-- What an action recovers; `0` where the product raises. -/
def grossOf (n : Numerics) (request : AnalysisRequest) (failure : FailureClassification)
    (risk : RiskAssessment) (action : Action) : ℤ :=
  (grossRecovery request.amountMinor (predict n request failure risk action)).toOption.getD 0

/-- The net value of an action. -/
def netOf (gross : Action → ℤ) (action : Action) : ℤ := gross action - costsMinor action

/-- An estimate that shows what its action recovers. -/
structure Shows (n : Numerics) (request : AnalysisRequest) (failure : FailureClassification)
    (risk : RiskAssessment) (row : ActionEstimate) : Prop where
  recovers : grossRecovery request.amountMinor (predict n request failure risk row.action) =
    .ok (grossOf n request failure risk row.action)
  probability : row.probability = predict n request failure risk row.action
  recovery : row.recoveryValueMinor = grossOf n request failure risk row.action
  expected : row.expectedValueMinor = netOf (grossOf n request failure risk) row.action

theorem estimate_eq_ok {action : Action} {row : ActionEstimate}
    (h : estimate n request failure risk action = .ok row) :
    row.action = action ∧ Shows n request failure risk row := by
  unfold estimate at h
  dsimp only at h
  rcases hgross : grossRecovery request.amountMinor (predict n request failure risk action)
    with fault | value
  · rw [hgross] at h
    cases h
  · rw [hgross, Except.ok.injEq] at h
    subst h
    have hvalue : grossOf n request failure risk action = value := by
      rw [grossOf, hgross]
      rfl
    refine ⟨rfl, ?_, rfl, ?_, ?_⟩
    · rw [hvalue]
      exact hgross
    · exact hvalue.symm
    · rw [netOf, hvalue]

/-- There is one estimate for each action, in order. -/
theorem estimates_eq_ok {rows : List ActionEstimate}
    (h : estimates n request failure risk = .ok rows) :
    rows.map ActionEstimate.action = ACTIONS ∧ ∀ row ∈ rows, Shows n request failure risk row := by
  have hrows := (Except.mapM_eq_ok.mp h).imp fun _ _ hrow => estimate_eq_ok hrow
  constructor
  · rw [← List.forall₂_eq_eq_eq, List.forall₂_map_left_iff]
    exact (hrows.imp fun _ _ hrow => hrow.1).flip
  · intro row hrow
    obtain ⟨action, -, -, hshows⟩ := hrows.exists_of_mem_right hrow
    exact hshows

theorem recovers_of_estimates {rows : List ActionEstimate}
    (h : estimates n request failure risk = .ok rows) (action : Action) :
    grossRecovery request.amountMinor (predict n request failure risk action) =
      .ok (grossOf n request failure risk action) := by
  obtain ⟨hactions, hshows⟩ := estimates_eq_ok h
  have hin : action ∈ rows.map ActionEstimate.action := by
    rw [hactions]
    cases action <;> decide
  obtain ⟨row, hrow, rfl⟩ := List.mem_map.mp hin
  exact (hshows row hrow).recovers

theorem predict_bounds (n : Numerics) (request : AnalysisRequest) (failure : FailureClassification)
    (risk : RiskAssessment) (action : Action) : 1 / 100 ≤ predict n request failure risk action ∧
      predict n request failure risk action ≤ 99 / 100 :=
  ⟨le_max_left _ _, max_le (by norm_num) (min_le_left _ _)⟩

/-- An action with no lower odds recovers no less. -/
theorem gross_le {rows : List ActionEstimate} (h : estimates n request failure risk = .ok rows)
    (hmono : Monotone n.logistic) (hamount : 0 ≤ request.amountMinor) {a b : Action}
    (hodds : logOdds request failure risk a ≤ logOdds request failure risk b) :
    grossOf n request failure risk a ≤ grossOf n request failure risk b := by
  have hpos : 0 ≤ predict n request failure risk a :=
    le_trans (by norm_num) (predict_bounds n request failure risk a).1
  have hless : predict n request failure risk a ≤ predict n request failure risk b :=
    max_le_max le_rfl (min_le_min le_rfl (hmono hodds))
  exact grossRecovery_mono hamount hpos hless (recovers_of_estimates h a) (recovers_of_estimates h b)

/-! ## Contenders -/

/-- The actions that a recommendation can be. -/
def contenders (request : AnalysisRequest) (failure : FailureClassification)
    (risk : RiskAssessment) : List Action :=
  if risk.band = "high" then [.requestOperatorReview, .stop]
  else if failure.retryable then
    if request.alternateMethodAvailable then [.retryPayment, .sendReminder, .stop]
    else [.retryPayment, .stop]
  else if request.alternateMethodAvailable then [.sendReminder, .stop]
  else [.sendReminder, .requestOperatorReview, .stop]

/-- Of two actions the one with no lower odds and the lower cost is worth more. -/
theorem net_lt {rows : List ActionEstimate} (h : estimates n request failure risk = .ok rows)
    (hmono : Monotone n.logistic) (hamount : 0 ≤ request.amountMinor) {a b : Action}
    (hodds : logOdds request failure risk a ≤ logOdds request failure risk b)
    (hcost : costsMinor b < costsMinor a) :
    netOf (grossOf n request failure risk) a < netOf (grossOf n request failure risk) b := by
  have hless := gross_le h hmono hamount hodds
  unfold netOf
  omega

/-- A retry that is permitted has the odds of a review at least, and those of a reminder that offers
no other method. -/
theorem logOdds_retry (request : AnalysisRequest) (risk : RiskAssessment)
    (hretryable : failure.retryable = true) :
    logOdds request failure risk .requestOperatorReview ≤
        logOdds request failure risk .retryPayment ∧
      (request.alternateMethodAvailable = false →
        logOdds request failure risk .sendReminder ≤
          logOdds request failure risk .retryPayment) := by
  refine ⟨?_, fun hmethod => ?_⟩
  · simp only [logOdds, hretryable, reduceCtorEq, and_false, and_true, if_true, if_false]
    linarith
  · simp only [logOdds, hretryable, hmethod, reduceCtorEq, Bool.false_eq_true, and_false, and_true,
      if_true, if_false]
    linarith

/-- A reminder that offers another method has the odds of a review at least. -/
theorem logOdds_reminder (hmethod : request.alternateMethodAvailable = true) :
    logOdds request failure risk .requestOperatorReview ≤
      logOdds request failure risk .sendReminder := by
  simp only [logOdds, hmethod, reduceCtorEq, and_false, and_self, if_true, if_false]
  linarith

/-- The permitted actions, in order. -/
theorem permitted_actions (failure : FailureClassification) (risk : RiskAssessment) :
    ACTIONS.filter (isPermitted failure risk) =
      if risk.band = "high" then [.requestOperatorReview, .stop]
      else if failure.retryable then ACTIONS
      else [.sendReminder, .requestOperatorReview, .stop] := by
  split_ifs with hhigh hretryable
  · simp [ACTIONS, isPermitted, isCautious, hhigh]
  · simp [ACTIONS, isPermitted, hhigh, hretryable]
  · simp [ACTIONS, isPermitted, hhigh, hretryable]

/-- The first permitted action that is worth most is a contender. -/
theorem latest_contenders {rows : List ActionEstimate}
    (h : estimates n request failure risk = .ok rows) (hmono : Monotone n.logistic)
    (hamount : 0 ≤ request.amountMinor) {action : Action}
    (hlatest : Latest (netOf (grossOf n request failure risk))
      (ACTIONS.filter (isPermitted failure risk)) action) :
    Latest (netOf (grossOf n request failure risk)) (contenders request failure risk) action := by
  rw [permitted_actions] at hlatest
  unfold contenders
  split_ifs at hlatest ⊢ with hhigh hretryable hmethod hmethod
  · exact hlatest
  · have hreview : action ≠ .requestOperatorReview :=
      hlatest.ne (c := .retryPayment) (by decide)
        (net_lt h hmono hamount (logOdds_retry request risk hretryable).1 (by decide))
    exact hlatest.filter (p := (· ≠ .requestOperatorReview)) (decide_eq_true hreview)
  · obtain ⟨hodds, hreminding⟩ := logOdds_retry request risk hretryable
    have hreview : action ≠ .requestOperatorReview :=
      hlatest.ne (c := .retryPayment) (by decide) (net_lt h hmono hamount hodds (by decide))
    have hreminder : action ≠ .sendReminder :=
      hlatest.ne (c := .retryPayment) (by decide)
        (net_lt h hmono hamount (hreminding (Bool.eq_false_iff.mpr hmethod)) (by decide))
    exact hlatest.filter (p := fun b => b ≠ .requestOperatorReview ∧ b ≠ .sendReminder)
      (decide_eq_true ⟨hreview, hreminder⟩)
  · have hreview : action ≠ .requestOperatorReview :=
      hlatest.ne (c := .sendReminder) (by decide)
        (net_lt h hmono hamount (logOdds_reminder hmethod) (by decide))
    exact hlatest.filter (p := (· ≠ .requestOperatorReview)) (decide_eq_true hreview)
  · exact hlatest

/-! ## Analyses -/

instance isTrans_ranking :
    IsTrans ActionEstimate fun a b => b.expectedValueMinor ≤ a.expectedValueMinor :=
  ⟨fun _ _ _ h h' => h'.trans h⟩

instance total_ranking :
    Std.Total fun a b : ActionEstimate => b.expectedValueMinor ≤ a.expectedValueMinor :=
  ⟨fun _ _ => le_total _ _⟩

/-- A ranking has a winner, the first permitted estimate with the highest expected value. -/
theorem exists_winner (failure : FailureClassification) (risk : RiskAssessment)
    {rows : List ActionEstimate} (hactions : rows.map ActionEstimate.action = ACTIONS) : ∃ winner,
    (((rows.insertionSort fun a b => b.expectedValueMinor ≤ a.expectedValueMinor).filter
        fun row => isPermitted failure risk row.action).head? <|>
      (rows.insertionSort fun a b => b.expectedValueMinor ≤ a.expectedValueMinor).find?
        fun row => row.action == .stop) = some winner ∧
    Latest ActionEstimate.expectedValueMinor
      (rows.filter fun row => isPermitted failure risk row.action) winner := by
  -- stopping is always permitted
  have hstop : Action.stop ∈ (rows.filter fun row => isPermitted failure risk row.action).map
      ActionEstimate.action := by
    have hpermitted : isPermitted failure risk .stop = true := by simp [isPermitted, isCautious]
    have hin : Action.stop ∈ rows.map ActionEstimate.action := by
      rw [hactions]
      decide
    obtain ⟨row, hrow, haction⟩ := List.mem_map.mp hin
    exact List.mem_map.mpr ⟨row, List.mem_filter.mpr ⟨hrow, by rw [haction, hpermitted]⟩, haction⟩
  rw [filter_insertionSort]
  rcases hhead : ((rows.filter fun row => isPermitted failure risk row.action).insertionSort
    fun a b => b.expectedValueMinor ≤ a.expectedValueMinor).head? with _ | first
  · rw [List.head?_eq_none_iff, ← List.length_eq_zero_iff, List.length_insertionSort,
      List.length_eq_zero_iff] at hhead
    rw [hhead] at hstop
    cases hstop
  · refine ⟨first, ?_, head?_insertionSort.mp hhead⟩
    rw [hhead]
    rfl

theorem classifyFailure_confidence (code message : Option String) :
    55 / 100 ≤ (classifyFailure code message).confidence ∧
      (classifyFailure code message).confidence ≤ 9 / 10 := by
  unfold classifyFailure
  dsimp only
  split
  · norm_num
  · norm_num

theorem assess_high_iff : (assess failure request).band = "high" ↔
    71 ≤ (assess failure request).score := by
  unfold assess
  dsimp only
  split_ifs with h <;> simp [h]

/-- What an analysis consists of. -/
theorem analyzeRecovery_eq_ok {analysis : DecisionAnalysis}
    (h : analyzeRecovery n request = .ok analysis) :
    ∃ rows winner, estimates n request analysis.classification analysis.risk = .ok rows ∧
      analysis.classification = classifyFailure request.failureCode request.failureMessage ∧
      analysis.risk = assess analysis.classification request ∧
      analysis.estimates =
        rows.insertionSort (fun a b => b.expectedValueMinor ≤ a.expectedValueMinor) ∧
      Latest ActionEstimate.expectedValueMinor
        (rows.filter fun row => isPermitted analysis.classification analysis.risk row.action) winner ∧
      analysis.recommendedAction = winner.action ∧
      Decimal.quantize roundHalfEven 4 (min analysis.classification.confidence
        (max winner.probability (1 / 2))) = .ok analysis.confidence := by
  unfold analyzeRecovery rank at h
  dsimp only at h
  generalize hclass : classifyFailure request.failureCode request.failureMessage = failure at h
  generalize hrisk : assess failure request = risk at h
  rcases hrows : estimates n request failure risk with fault | rows
  · rw [hrows] at h
    cases h
  obtain ⟨winner, hwinner, hlatest⟩ :=
    exists_winner failure risk (estimates_eq_ok hrows).1
  rw [hrows, Except.map] at h
  dsimp only at h
  rw [hwinner] at h
  dsimp only [conclude] at h
  split at h
  · cases h
  · rename_i confidence hconfidence
    cases h
    exact ⟨rows, winner, hrows, rfl, hrisk.symm, rfl, hlatest, rfl, hconfidence⟩

/-- The estimates of an analysis show all actions. -/
theorem analysis_shows {analysis : DecisionAnalysis}
    (h : analyzeRecovery n request = .ok analysis) :
    (analysis.estimates.map ActionEstimate.action).Perm ACTIONS ∧
      ∀ row ∈ analysis.estimates, Shows n request analysis.classification analysis.risk row := by
  obtain ⟨rows, winner, hrows, -, -, hsorted, -⟩ := analyzeRecovery_eq_ok h
  obtain ⟨hactions, hshows⟩ := estimates_eq_ok hrows
  have hperm : analysis.estimates.Perm rows := by
    rw [hsorted]
    exact List.perm_insertionSort _ rows
  refine ⟨?_, fun row hrow => hshows row (hperm.mem_iff.mp hrow)⟩
  rw [← hactions]
  exact hperm.map _

/-- A confidence lies between one half and the confidence of the classification. -/
theorem confidence_bounds {confidence probability result : ℚ} (hlow : 1 / 2 ≤ confidence)
    (hhigh : confidence ≤ 9 / 10)
    (h : Decimal.quantize roundHalfEven 4 (min confidence (max probability (1 / 2))) = .ok result) :
    1 / 2 ≤ result ∧ result ≤ 9 / 10 := by
  have hlower : ((5000 : ℤ) : ℚ) ≤ min confidence (max probability (1 / 2)) * 10 ^ 4 := by
    have hmin : 1 / 2 ≤ min confidence (max probability (1 / 2)) :=
      le_min hlow (le_max_right _ _)
    push_cast
    linarith
  have hupper : min confidence (max probability (1 / 2)) * 10 ^ 4 ≤ ((9000 : ℤ) : ℚ) := by
    have hmin : min confidence (max probability (1 / 2)) ≤ 9 / 10 := (min_le_left _ _).trans hhigh
    push_cast
    linarith
  have habove : (5000 : ℚ) ≤ roundHalfEven (min confidence (max probability (1 / 2)) * 10 ^ 4) := by
    exact_mod_cast Decimal.le_roundHalfEven hlower
  have hbelow : (roundHalfEven (min confidence (max probability (1 / 2)) * 10 ^ 4) : ℚ) ≤ 9000 := by
    exact_mod_cast Decimal.roundHalfEven_le hupper
  rw [(Decimal.of_quantize_eq_ok h).2]
  constructor
  · linarith
  · linarith

/-- The baseline recommends the first contender that is worth most. All four actions are shown, the
most valuable first, and none is said to recover more than the amount. -/
theorem recommended_of_contenders {analysis : DecisionAnalysis} (hmono : Monotone n.logistic)
    (hamount : 0 ≤ request.amountMinor) (h : analyzeRecovery n request = .ok analysis) :
    (∃ gross : Action → ℤ, (∀ action, 0 ≤ gross action ∧ gross action ≤ request.amountMinor) ∧
      (∀ row ∈ analysis.estimates, row.recoveryValueMinor = gross row.action ∧
        row.expectedValueMinor = netOf gross row.action) ∧
      Latest (netOf gross) (contenders request analysis.classification analysis.risk)
        analysis.recommendedAction) ∧
    (analysis.estimates.map ActionEstimate.action).Perm ACTIONS ∧
    analysis.estimates.Pairwise (fun a b => b.expectedValueMinor ≤ a.expectedValueMinor) ∧
    (analysis.risk.band = "high" ↔ 71 ≤ analysis.risk.score) ∧
    1 / 2 ≤ analysis.confidence ∧ analysis.confidence ≤ 9 / 10 := by
  obtain ⟨rows, winner, hrows, hclass, hrisk, hsorted, hlatest, hwinner, hconfidence⟩ :=
    analyzeRecovery_eq_ok h
  obtain ⟨hperm, hshows⟩ := analysis_shows h
  refine ⟨⟨grossOf n request analysis.classification analysis.risk, fun action => ?_,
    fun row hrow => ⟨(hshows row hrow).recovery, (hshows row hrow).expected⟩, ?_⟩, hperm, ?_, ?_, ?_⟩
  · obtain ⟨hlow, hhigh⟩ := predict_bounds n request analysis.classification analysis.risk
      action
    exact grossRecovery_bounds hamount (by linarith) (by linarith)
      (recovers_of_estimates hrows action)
  · obtain ⟨hactions, hestimates⟩ := estimates_eq_ok hrows
    have hmapped := hlatest.map ActionEstimate.action
      (netOf (grossOf n request analysis.classification analysis.risk))
      fun row hrow => (hestimates row (List.mem_of_mem_filter hrow)).expected
    have hfilter : (rows.filter fun row => isPermitted analysis.classification analysis.risk
        row.action).map ActionEstimate.action =
          ACTIONS.filter (isPermitted analysis.classification analysis.risk) := by
      rw [← hactions, List.filter_map]
      rfl
    rw [hfilter] at hmapped
    rw [hwinner]
    exact latest_contenders hrows hmono hamount hmapped
  · rw [hsorted]
    exact List.pairwise_insertionSort _ rows
  · rw [hrisk]
    exact assess_high_iff
  · rw [hclass] at hconfidence
    obtain ⟨hlow, hhigh⟩ := classifyFailure_confidence request.failureCode request.failureMessage
    exact confidence_bounds (by linarith) hhigh hconfidence

/-! ## Comparisons -/

/-- The value that an analysis expects of an action. -/
def expectedOf (analysis : DecisionAnalysis) (action : Action) : ℤ :=
  ((analysis.estimates.find? fun row => row.action == action).map
    ActionEstimate.expectedValueMinor).getD 0

/-- The estimates of an action among rows. -/
def rowsOf (rows : List ActionEstimate) (action : Action) : List ActionEstimate :=
  rows.filter fun row => row.action == action

theorem rowsOf_cons (row : ActionEstimate) (rest : List ActionEstimate) (action : Action) :
    rowsOf (row :: rest) action =
      if row.action = action then row :: rowsOf rest action else rowsOf rest action := by
  rw [rowsOf, List.filter_cons, ← rowsOf]
  simp only [beq_iff_eq]

/-- The inner loop adds up the values of an action and counts them. -/
theorem foldl_add (rows : List ActionEstimate) (found : Tally) (action : Action) :
    (rows.foldl Tally.add found).totals action =
        found.totals action + ((rowsOf rows action).map ActionEstimate.expectedValueMinor).sum ∧
      (rows.foldl Tally.add found).counts action =
        found.counts action + (rowsOf rows action).length := by
  induction rows generalizing found with
  | nil => exact ⟨(add_zero _).symm, rfl⟩
  | cons row rest ih =>
    obtain ⟨htotals, hcounts⟩ := ih (found.add row)
    rw [List.foldl_cons, htotals, hcounts, rowsOf_cons, Tally.add]
    by_cases hsame : row.action = action
    · subst hsame
      simp only [if_true, Function.update_self, List.map_cons, List.sum_cons, List.length_cons]
      omega
    · simp only [if_neg hsame, Function.update_of_ne (Ne.symm hsame), and_self]

/-- An analysis has one estimate of each action. -/
theorem rowsOf_analysis {analysis : DecisionAnalysis}
    (h : (analysis.estimates.map ActionEstimate.action).Perm ACTIONS) (action : Action) :
    (rowsOf analysis.estimates action).length = 1 ∧
      ((rowsOf analysis.estimates action).map ActionEstimate.expectedValueMinor).sum =
        expectedOf analysis action := by
  have hcount : (rowsOf analysis.estimates action).length = 1 := by
    have hperm := h.count_eq action
    rw [List.count_eq_countP, List.countP_map, List.countP_eq_length_filter] at hperm
    refine hperm.trans ?_
    cases action <;> decide
  refine ⟨hcount, ?_⟩
  obtain ⟨row, hrow⟩ := List.length_eq_one_iff.mp hcount
  unfold expectedOf
  rw [← List.head?_filter, ← rowsOf, hrow]
  simp

/-- The outer loop adds up over the analyses. -/
theorem tally_analyses {analyses : List DecisionAnalysis}
    (h : ∀ analysis ∈ analyses, (analysis.estimates.map ActionEstimate.action).Perm ACTIONS)
    (action : Action) :
    (tally analyses).totals action = (analyses.map fun analysis => expectedOf analysis action).sum ∧
      (tally analyses).counts action = analyses.length := by
  unfold tally
  induction analyses using List.reverseRecOn with
  | nil => exact ⟨rfl, rfl⟩
  | append_singleton before analysis ih =>
    obtain ⟨htotals, hcounts⟩ := ih fun other hother => h other (List.mem_append_left _ hother)
    obtain ⟨hone, hsum⟩ :=
      rowsOf_analysis (h analysis (List.mem_append_right _ (List.mem_singleton_self _))) action
    rw [List.foldl_append, List.foldl_cons, List.foldl_nil]
    obtain ⟨hlast, hlastCount⟩ := foldl_add analysis.estimates
      (before.foldl (fun found analysis => analysis.estimates.foldl Tally.add found)
        ⟨fun _ => 0, fun _ => 0⟩) action
    rw [hlast, hlastCount, htotals, hcounts, hone, hsum, List.map_append, List.sum_append,
      List.map_singleton, List.sum_singleton, List.length_append, List.length_singleton]
    exact ⟨rfl, rfl⟩

/-- The products of an amount within the precision do not raise. -/
theorem estimate_isOk (n : Numerics) {request : AnalysisRequest} (failure : FailureClassification)
    (risk : RiskAssessment) (action : Action) (hamount : 0 ≤ request.amountMinor)
    (hsmall : request.amountMinor < 10 ^ Decimal.precision) :
    ∃ row, estimate n request failure risk action = .ok row := by
  obtain ⟨hlow, hhigh⟩ := predict_bounds n request failure risk action
  obtain ⟨gross, hgross⟩ := grossRecovery_isOk hamount (by linarith) (by linarith) hsmall
  unfold estimate
  dsimp only
  rw [hgross]
  exact ⟨_, rfl⟩

/-- An amount within the precision can be analysed. -/
theorem analyzeRecovery_isOk (n : Numerics) {request : AnalysisRequest}
    (hamount : 0 ≤ request.amountMinor) (hsmall : request.amountMinor < 10 ^ Decimal.precision) :
    ∃ analysis, analyzeRecovery n request = .ok analysis := by
  unfold analyzeRecovery rank
  dsimp only
  generalize hclass : classifyFailure request.failureCode request.failureMessage = failure
  generalize assess failure request = risk
  obtain ⟨rows, hrows⟩ := List.exists_forall₂ fun action (_ : action ∈ ACTIONS) =>
    estimate_isOk n failure risk action hamount hsmall
  have hestimates : estimates n request failure risk = .ok rows := Except.mapM_eq_ok.mpr hrows
  obtain ⟨hactions, hshows⟩ := estimates_eq_ok hestimates
  obtain ⟨winner, hwinner, hlatest⟩ := exists_winner failure risk hactions
  have hbound : winner.probability ≤ 1 := by
    rw [(hshows winner (List.mem_of_mem_filter hlatest.mem)).probability]
    exact (predict_bounds n request failure risk winner.action).2.trans (by norm_num)
  obtain ⟨hconfidence, -⟩ := classifyFailure_confidence request.failureCode request.failureMessage
  rw [hclass] at hconfidence
  obtain ⟨confidence, hquantize⟩ := confidence_isOk (show -(10 ^ 24) + 1 / 10000 ≤
    failure.confidence by linarith) hbound
  rw [hestimates, Except.map]
  dsimp only
  rw [hwinner]
  dsimp only [conclude]
  rw [hquantize]
  exact ⟨_, rfl⟩

/-- What is expected of an action is within the amount, less the cost of the action. -/
theorem expectedOf_bounds {analysis : DecisionAnalysis} (hamount : 0 ≤ request.amountMinor)
    (h : analyzeRecovery n request = .ok analysis) (action : Action) :
    -costsMinor action ≤ expectedOf analysis action ∧
      expectedOf analysis action ≤ request.amountMinor - costsMinor action := by
  obtain ⟨hperm, hshows⟩ := analysis_shows h
  obtain ⟨row, hrow⟩ := List.length_eq_one_iff.mp (rowsOf_analysis hperm action).1
  have hin : row ∈ rowsOf analysis.estimates action := by
    rw [hrow]
    exact List.mem_singleton_self row
  obtain ⟨hmem, haction⟩ := List.mem_filter.mp hin
  obtain rfl : row.action = action := beq_iff_eq.mp haction
  obtain ⟨hlow, hhigh⟩ := predict_bounds n request analysis.classification analysis.risk
    row.action
  obtain ⟨hpos, hle⟩ := grossRecovery_bounds hamount (by linarith) (by linarith)
    (hshows row hmem).recovers
  have hvalue : expectedOf analysis row.action = row.expectedValueMinor := by
    rw [expectedOf, ← List.head?_filter, ← rowsOf, hrow]
    rfl
  rw [hvalue, (hshows row hmem).expected, netOf]
  omega

/-- Values between two bounds add up to a value between the sums of the bounds. -/
theorem sum_expected_bounds {payloads : List AnalysisRequest} {analyses : List DecisionAnalysis}
    (h : List.Forall₂ (fun payload analysis => analyzeRecovery n payload = .ok analysis) payloads
      analyses) (hamounts : ∀ payload ∈ payloads, 0 ≤ payload.amountMinor) (action : Action) :
    -(payloads.length * costsMinor action) ≤
        (analyses.map fun analysis => expectedOf analysis action).sum ∧
      (analyses.map fun analysis => expectedOf analysis action).sum ≤
        (payloads.map AnalysisRequest.amountMinor).sum - payloads.length * costsMinor action := by
  induction h with
  | nil => simp
  | @cons payload analysis rest others hfirst _ ih =>
    obtain ⟨hlow, hhigh⟩ := ih fun other hother => hamounts other (List.mem_cons_of_mem _ hother)
    obtain ⟨hfirstLow, hfirstHigh⟩ :=
      expectedOf_bounds (hamounts payload List.mem_cons_self) hfirst action
    rw [List.map_cons, List.map_cons, List.sum_cons, List.sum_cons, List.length_cons]
    push_cast
    constructor
    · linarith
    · linarith

/-- Every batch of up to a thousand scenarios within the precision can be compared. For each action
the answer adds up what the scenarios' own previews expect of it, and counts them all; it never
promises more than the amounts. -/
theorem comparison_adds_up {payloads : List AnalysisRequest} (hlength : payloads.length ≤ 1000)
    (hamounts : ∀ payload ∈ payloads,
      0 ≤ payload.amountMinor ∧ payload.amountMinor < 10 ^ Decimal.precision) :
    ∃ answer analyses, strategyComparison n payloads = .ok answer ∧
      List.Forall₂ (fun payload analysis => analyzeRecovery n payload = .ok analysis) payloads
        analyses ∧
      answer.scenarioCount = payloads.length ∧ answer.strategies.map Prod.fst = ACTIONS ∧
      ∀ entry ∈ answer.strategies, entry.2.scenarioCount = payloads.length ∧
        entry.2.totalExpectedValueMinor =
          (analyses.map fun analysis => expectedOf analysis entry.1).sum ∧
        -(payloads.length * costsMinor entry.1) ≤ entry.2.totalExpectedValueMinor ∧
        entry.2.totalExpectedValueMinor ≤
          (payloads.map AnalysisRequest.amountMinor).sum - payloads.length * costsMinor entry.1 := by
  obtain ⟨analyses, hanalyses⟩ := List.exists_forall₂ fun payload hpayload =>
    analyzeRecovery_isOk n (hamounts payload hpayload).1 (hamounts payload hpayload).2
  have hshows : ∀ analysis ∈ analyses,
      (analysis.estimates.map ActionEstimate.action).Perm ACTIONS := by
    intro analysis hanalysis
    obtain ⟨payload, -, hpayload⟩ := hanalyses.exists_of_mem_right hanalysis
    exact (analysis_shows hpayload).1
  have hcount := hanalyses.length_eq
  have hanswer : strategyComparison n payloads =
      .ok { scenarioCount := analyses.length, strategies := compareStrategies analyses } := by
    unfold strategyComparison
    rw [if_neg (Nat.not_lt.mpr hlength), Except.mapM_eq_ok.mpr hanalyses]
  refine ⟨_, analyses, hanswer, hanalyses, hcount.symm, ?_, fun entry hentry => ?_⟩
  · rw [compareStrategies, List.map_map]
    exact List.map_id' _
  · obtain ⟨action, -, rfl⟩ := List.mem_map.mp hentry
    obtain ⟨htotal, hcounted⟩ := tally_analyses hshows action
    refine ⟨hcounted.trans hcount.symm, htotal, ?_⟩
    dsimp only
    rw [htotal]
    exact sum_expected_bounds hanalyses (fun payload hpayload => (hamounts payload hpayload).1) action

end Legacy

namespace Sample

/-- A first payment of two hundred with an expired card, of a customer without another method. -/
def expiredPreview : Legacy.AnalysisRequest :=
  { amountMinor := 20000
    failureCode := some "expired_card"
    failureMessage := none
    priorAttempts := 0
    alternateMethodAvailable := false }

theorem analyzeRecovery_expired :
    ((Legacy.analyzeRecovery numerics expiredPreview).toOption.map fun analysis =>
      analysis.recommendedAction) = some .requestOperatorReview := by
  decide +kernel

end Sample

namespace Legacy

/-- A review beats a reminder for a customer without another method. -/
theorem recommended_of_contenders_expired : ∃ analysis,
    analyzeRecovery Sample.numerics Sample.expiredPreview = .ok analysis ∧
      analysis.recommendedAction = .requestOperatorReview ∧ ∃ gross : Action → ℤ,
        Latest (netOf gross)
          (contenders Sample.expiredPreview analysis.classification analysis.risk)
          analysis.recommendedAction := by
  have hrun := Sample.analyzeRecovery_expired
  rcases h : analyzeRecovery Sample.numerics Sample.expiredPreview with fault | analysis
  · rw [h] at hrun
    cases hrun
  · rw [h] at hrun
    obtain ⟨⟨gross, -, -, hlatest⟩, -⟩ :=
      recommended_of_contenders Sample.numerics_monotone (by decide) h
    exact ⟨analysis, rfl, Option.some.inj hrun, gross, hlatest⟩

/-- Two previews of the same failure are compared. -/
theorem comparison_adds_up_twice : ∃ answer analyses,
    strategyComparison Sample.numerics [Sample.expiredPreview, Sample.expiredPreview] = .ok answer ∧
      List.Forall₂ (fun payload analysis => analyzeRecovery Sample.numerics payload = .ok analysis)
        [Sample.expiredPreview, Sample.expiredPreview] analyses ∧
      answer.scenarioCount = 2 := by
  obtain ⟨answer, analyses, hanswer, hanalyses, hcount, -⟩ := comparison_adds_up
    (n := Sample.numerics)
    (by decide : [Sample.expiredPreview, Sample.expiredPreview].length ≤ 1000) (by decide)
  exact ⟨answer, analyses, hanswer, hanalyses, hcount⟩

end Legacy

end RevenueRescue
