import RevenueRescue.Base.Transaction
import RevenueRescue.Evaluation.Baselines
import RevenueRescue.Evaluation.Metrics

/-!
# The evaluation against its ground truth

The engine counts a scenario as recovered when the policy lets the proposed action through and the
provider answers with a success: which action that was plays no part. The baselines credit only
the expected action. The two agree exactly when every counted scenario proposed the expected action,
and the figure stays below the upper bound exactly when the recoverable scenarios that the engine
misses do not add up to a negative amount.
-/

namespace RevenueRescue

open Python

/-- The policy allows an action that passes every one of its checks. -/
theorem Safety.SafetyPolicy.evaluate_outcome_eq_allow_iff (policy : Safety.SafetyPolicy)
    (context : Safety.PolicyContext) :
    (policy.evaluate context).outcome = .ALLOW ↔
      context.caseState ∉ Safety.TERMINAL_STATES ∧ context.transactionStatus ≠ .SUCCEEDED ∧
        context.action ∈ policy.config.allowedActions ∧
        (context.action = .RETRY_PAYMENT → context.caseState ∈ Safety.ACTIONABLE_STATES ∧
          context.retryAttemptCount < policy.config.maxRetryAttempts ∧
          context.hasUncertainAttempt = false ∧ truthy context.idempotencyKey = true) ∧
        ¬(truthy context.idempotencyKey = true ∧
          context.idempotencyKey.any context.priorIdempotencyKeys.contains = true) := by
  simp only [Safety.SafetyPolicy.evaluate, Safety.SafetyPolicy.reject, Safety.SafetyPolicy.stop,
    Safety.SafetyPolicy.escalate]
  split_ifs with hterminal hsucceeded hforbidden hstate hlimit huncertain hkey hduplicate
  · exact iff_of_false nofun fun h => h.1 hterminal
  · exact iff_of_false nofun fun h => h.2.1 hsucceeded
  · exact iff_of_false nofun fun h => hstate.2 (h.2.2.2.1 hstate.1).1
  · exact iff_of_false nofun fun h => Int.not_lt.mpr hlimit.2 (h.2.2.2.1 hlimit.1).2.1
  · exact iff_of_false nofun fun h =>
      Bool.false_ne_true ((h.2.2.2.1 huncertain.1).2.2.1.symm.trans huncertain.2)
  · exact iff_of_false nofun fun h =>
      Bool.false_ne_true (hkey.2.symm.trans (h.2.2.2.1 hkey.1).2.2.2)
  · exact iff_of_false nofun fun h => h.2.2.2.2 hduplicate
  · refine iff_of_true rfl ⟨hterminal, hsucceeded, hforbidden, fun haction => ?_, hduplicate⟩
    simp only [haction, true_and, not_not, Bool.not_eq_true, Int.not_le, Bool.not_eq_false]
      at hstate hlimit huncertain hkey
    exact ⟨hstate, hlimit, huncertain, hkey⟩
  · exact iff_of_false nofun fun h => hforbidden h.2.2.1

namespace Evaluation

/-- What the policy lets through: a permitted action under a new key and, for a retry, fewer
attempts than the limit and none of them uncertain. -/
def permitted (config : Safety.PolicyConfig) (scenario : EvaluationScenario) : Bool :=
  scenario.proposedAction ∈ config.allowedActions && !scenario.duplicateIdempotency &&
    (scenario.proposedAction != .RETRY_PAYMENT ||
      scenario.priorAttemptCount < config.maxRetryAttempts && !scenario.hasUncertainAttempt)

/-- The scenarios that the engine counts as recovered. -/
def counted (config : Safety.PolicyConfig) (scenario : EvaluationScenario) : Bool :=
  scenario.outcome == .RECOVERABLE && (scenario.providerResult == .SUCCEEDED &&
    permitted config scenario)

/-- The key of a scenario is not empty, and it was used before when the scenario says so. -/
theorem policyContext_key (scenario : EvaluationScenario) :
    truthy (BatchEvaluationEngine.policyContext scenario).idempotencyKey = true ∧
      (BatchEvaluationEngine.policyContext scenario).idempotencyKey.any
          (BatchEvaluationEngine.policyContext scenario).priorIdempotencyKeys.contains =
        scenario.duplicateIdempotency := by
  have hkey : scenario.scenarioId ++ ":attempt:1" ≠ "" := by
    intro hempty
    have hlength := congrArg String.length hempty
    rw [String.length_append] at hlength
    exact absurd hlength (by simp)
  simp only [BatchEvaluationEngine.policyContext, truthy, Option.any_some]
  cases scenario.duplicateIdempotency with
  | false => simp [hkey]
  | true => simp [hkey]

/-- The policy allows the proposed action of a scenario when it lets it through. -/
theorem evaluate_policyContext_iff (policy : Safety.SafetyPolicy) (scenario : EvaluationScenario) :
    (policy.evaluate (BatchEvaluationEngine.policyContext scenario)).outcome = .ALLOW ↔
      permitted policy.config scenario = true := by
  obtain ⟨hkeyed, hused⟩ := policyContext_key scenario
  have hopen : RecoveryCaseState.RETRY_ELIGIBLE ∉ Safety.TERMINAL_STATES := by decide
  have hactionable : RecoveryCaseState.RETRY_ELIGIBLE ∈ Safety.ACTIONABLE_STATES := by decide
  rw [Safety.SafetyPolicy.evaluate_outcome_eq_allow_iff, hkeyed, hused]
  simp only [BatchEvaluationEngine.policyContext, hopen, hactionable, permitted,
    not_false_eq_true, true_and, and_true, ne_eq, reduceCtorEq, Bool.and_eq_true, Bool.or_eq_true,
    decide_eq_true_eq, bne_iff_ne, Bool.not_eq_true', Bool.not_eq_true]
  tauto

/-! ## The results of a run -/

variable {engine : BatchEvaluationEngine} {now : Datetime} {scenarios : List EvaluationScenario}
  {results : List SimulationResult}

/-- A result carries the amount and the outcome of its scenario, and is recovered when the scenario
is counted. -/
structure Reports (config : Safety.PolicyConfig) (scenario : EvaluationScenario)
    (result : SimulationResult) : Prop where
  recovered : result.recovered = counted config scenario
  amountMinor : result.amountMinor = scenario.amountMinor
  outcome : result.outcome = scenario.outcome

/-- Any answer that the provider's result is taken for leaves the scenario unrecovered. -/
theorem reports_of_classified {scenario : EvaluationScenario} {result : SimulationResult}
    {decision : Safety.PolicyDecision} {providerResult : Option SimulatedProviderResult}
    {kind : FailureKind}
    {classified : Except Fault FailureClassification}
    (hcounted : counted engine.policy.config scenario = false)
    (h : (classified.map fun classification =>
      BatchEvaluationEngine.result scenario decision providerResult false (some kind)
        (some classification.disposition)) = .ok result) :
    Reports engine.policy.config scenario result := by
  cases classified with
  | error fault => exact nomatch h
  | ok classification =>
    obtain rfl := Except.ok.inj h
    exact ⟨hcounted.symm, rfl, rfl⟩

theorem runOne_reports {scenario : EvaluationScenario} {result : SimulationResult}
    (h : engine.runOne now scenario = .ok result) :
    Reports engine.policy.config scenario result := by
  have hpolicy := evaluate_policyContext_iff engine.policy scenario
  simp only [BatchEvaluationEngine.runOne] at h
  split_ifs at h with hallow hrecovered
  · obtain rfl := Except.ok.inj h
    have hcounted : counted engine.policy.config scenario = true := by
      simp only [counted, hpolicy.mp hallow, hrecovered, beq_self_eq_true, Bool.and_true]
    exact ⟨hcounted.symm, rfl, rfl⟩
  · have hcounted : counted engine.policy.config scenario = false := by
      rw [Bool.eq_false_iff]
      intro hcounted
      simp only [counted, Bool.and_eq_true, beq_iff_eq] at hcounted
      exact hrecovered ⟨hcounted.2.1, hcounted.1⟩
    cases hresult : scenario.providerResult with
    | SUCCEEDED =>
      rw [hresult] at h
      obtain rfl := Except.ok.inj h
      exact ⟨hcounted.symm, rfl, rfl⟩
    | TIMEOUT =>
      rw [hresult] at h
      exact reports_of_classified hcounted h
    | FAILED =>
      rw [hresult] at h
      exact reports_of_classified hcounted h
    | UNKNOWN =>
      rw [hresult] at h
      exact reports_of_classified hcounted h
  · obtain rfl := Except.ok.inj h
    have hcounted : counted engine.policy.config scenario = false := by
      simp only [counted, Bool.eq_false_iff.mpr fun h => hallow (hpolicy.mpr h), Bool.and_false]
    exact ⟨hcounted.symm, rfl, rfl⟩

/-- The result of each scenario, in the order of the batch. -/
theorem run_reports {seed : ℤ} {run : EvaluationRun} (h : engine.run now scenarios seed = .ok run) :
    List.Forall₂ (Reports engine.policy.config) scenarios run.results := by
  obtain ⟨results, hresults, hrun⟩ := Except.bind_eq_ok.mp h
  obtain rfl := Except.ok.inj hrun
  exact (Except.mapM_eq_ok.mp hresults).imp fun _ _ hone => runOne_reports hone

/-- The amounts of the scenarios that satisfy a condition. -/
def revenue (p : EvaluationScenario → Bool) (scenarios : List EvaluationScenario) : ℤ :=
  ((scenarios.filter p).map EvaluationScenario.amountMinor).sum

/-- The recovered revenue of a run is that of the scenarios that it counts. -/
theorem sum_recoveredRows {config : Safety.PolicyConfig}
    (h : List.Forall₂ (Reports config) scenarios results) :
    ((recoveredRows results).map SimulationResult.amountMinor).sum =
      revenue (counted config) scenarios := by
  unfold recoveredRows revenue
  induction h with
  | nil => rfl
  | @cons scenario result _ _ hone _ ih =>
    cases hcounted : counted config scenario with
    | true =>
      have hrisk : (result.outcome != .ALREADY_SUCCEEDED) = true := by
        simp only [counted, Bool.and_eq_true, beq_iff_eq] at hcounted
        rw [hone.outcome, hcounted.1]
        rfl
      rw [List.filter_cons, if_pos hrisk, List.filter_cons_of_pos (hone.recovered.trans hcounted),
        List.filter_cons_of_pos hcounted, List.map_cons, List.map_cons, List.sum_cons,
        List.sum_cons, ih, hone.amountMinor]
    | false =>
      have hlost : ¬result.recovered = true := by
        rw [hone.recovered, hcounted]
        exact Bool.false_ne_true
      rw [List.filter_cons_of_neg (a := scenario) (by rw [hcounted]; exact Bool.false_ne_true),
        List.filter_cons]
      split
      · rw [List.filter_cons_of_neg hlost, ih]
      · exact ih

/-! ## The comparison -/

/-- A scenario that can be recovered. -/
def recoverable (scenario : EvaluationScenario) : Bool := scenario.outcome == .RECOVERABLE

/-- A scenario that can be recovered and is not counted. -/
def missed (config : Safety.PolicyConfig) (scenario : EvaluationScenario) : Bool :=
  recoverable scenario && !counted config scenario

theorem recoverable_of_counted {config : Safety.PolicyConfig} {scenario : EvaluationScenario}
    (h : counted config scenario = true) : recoverable scenario = true := by
  unfold counted at h
  exact (Bool.and_eq_true_iff.mp h).1

/-- The upper bound is the revenue of everything that can be recovered. -/
theorem baseline_oracle (scenarios : List EvaluationScenario) :
    (baseline "oracle_upper_bound" EvaluationScenario.expectedAction
      scenarios).recoveredRevenueMinor = revenue recoverable scenarios := by
  have hcondition : ∀ row : EvaluationScenario,
      (wouldRecover row row.expectedAction && row.outcome != .ALREADY_SUCCEEDED) =
        recoverable row := by
    intro row
    unfold wouldRecover recoverable
    cases row.outcome <;> simp
  unfold baseline atRisk revenue
  dsimp only
  rw [List.filter_filter]
  simp only [hcondition]

/-- A baseline with the name of the upper bound is the upper bound. -/
theorem recoveredRevenueMinor_of_oracle {metric : BaselineMetric}
    (hmetric : metric ∈ compareBaselines scenarios)
    (hstrategy : metric.strategy = "oracle_upper_bound") :
    metric.recoveredRevenueMinor = revenue recoverable scenarios := by
  simp only [compareBaselines, List.mem_cons, List.not_mem_nil, or_false] at hmetric
  rcases hmetric with rfl | rfl | rfl | rfl
  · simp only [baseline, String.reduceEq] at hstrategy
  · simp only [baseline, String.reduceEq] at hstrategy
  · simp only [baseline, String.reduceEq] at hstrategy
  · exact baseline_oracle scenarios

/-- What can be recovered is counted or missed. -/
theorem revenue_recoverable (config : Safety.PolicyConfig) (scenarios : List EvaluationScenario) :
    revenue recoverable scenarios =
      revenue (counted config) scenarios + revenue (missed config) scenarios := by
  have hsplit := List.sum_map_filter_add_sum_map_filter_not
    (fun row => counted config row = true) EvaluationScenario.amountMinor
    (scenarios.filter recoverable)
  rw [List.filter_filter, List.filter_filter] at hsplit
  unfold revenue
  rw [← hsplit]
  congr 3
  · apply List.filter_congr
    intro row _
    cases hcounted : counted config row with
    | true =>
      rw [recoverable_of_counted hcounted]
      rfl
    | false => rfl
  · apply List.filter_congr
    intro row _
    unfold missed
    cases recoverable row <;> cases counted config row <;> rfl

/-- Each counted scenario is one that the ground truth says its proposed action recovers, and the
revenue stays below the upper bound. -/
def Honest (scenarios : List EvaluationScenario) (run : EvaluationRun)
    (metrics : EvaluationMetrics) : Prop :=
  List.Forall₂ (fun scenario result =>
      result.recovered = true → wouldRecover scenario scenario.proposedAction = true)
    scenarios run.results ∧
    ∀ metric ∈ compareBaselines scenarios, metric.strategy = "oracle_upper_bound" →
      metrics.recoveredRevenueMinor ≤ metric.recoveredRevenueMinor

/-- Each scenario that the provider and the policy let succeed proposed the expected action, and
the recoverable ones among the others do not add up to a negative amount. -/
def Agrees (config : Safety.PolicyConfig) (scenarios : List EvaluationScenario) : Prop :=
  (∀ scenario ∈ scenarios, counted config scenario = true →
      scenario.expectedAction = scenario.proposedAction) ∧
    0 ≤ revenue (missed config) scenarios

theorem forall₂_wouldRecover_iff {config : Safety.PolicyConfig}
    (h : List.Forall₂ (Reports config) scenarios results) :
    List.Forall₂ (fun scenario result =>
        result.recovered = true → wouldRecover scenario scenario.proposedAction = true)
      scenarios results ↔
      ∀ scenario ∈ scenarios, counted config scenario = true →
        scenario.expectedAction = scenario.proposedAction := by
  induction h with
  | nil => exact iff_of_true .nil (List.forall_mem_nil _)
  | @cons scenario result _ _ hone _ ih =>
    rw [List.forall₂_cons, ih, List.forall_mem_cons, hone.recovered]
    refine and_congr_left fun _ => ?_
    constructor
    · intro htruth hcounted
      have hwould := htruth hcounted
      simp only [wouldRecover, Bool.and_eq_true, beq_iff_eq] at hwould
      exact hwould.2
    · intro hexpected hcounted
      have houtcome := hcounted
      simp only [counted, Bool.and_eq_true, beq_iff_eq] at houtcome
      simp only [wouldRecover, houtcome.1, hexpected hcounted, beq_self_eq_true, Bool.and_self]

/-- A run agrees with the ground truth exactly when its scenarios do. -/
theorem honest_iff {seed : ℤ} {run : EvaluationRun} {metrics : EvaluationMetrics}
    (hrun : engine.run now scenarios seed = .ok run) (hmetrics : evaluate run = .ok metrics) :
    Honest scenarios run metrics ↔ Agrees engine.policy.config scenarios := by
  have hreports := run_reports hrun
  have hrevenue : metrics.recoveredRevenueMinor = revenue (counted engine.policy.config) scenarios :=
    (calculateMetrics_recoveredRevenueMinor hmetrics).trans (sum_recoveredRows hreports)
  have hbound : (∀ metric ∈ compareBaselines scenarios, metric.strategy = "oracle_upper_bound" →
      metrics.recoveredRevenueMinor ≤ metric.recoveredRevenueMinor) ↔
      0 ≤ revenue (missed engine.policy.config) scenarios := by
    have hsplit := revenue_recoverable engine.policy.config scenarios
    constructor
    · intro hall
      have hle := hall (baseline "oracle_upper_bound" EvaluationScenario.expectedAction scenarios)
        (.tail _ (.tail _ (.tail _ (.head _)))) rfl
      rw [baseline_oracle, hrevenue] at hle
      omega
    · intro hmissed metric hmetric hstrategy
      rw [recoveredRevenueMinor_of_oracle hmetric hstrategy, hrevenue]
      omega
  unfold Honest Agrees
  exact and_congr (forall₂_wouldRecover_iff hreports) hbound

/-! ## The default batch -/

/-- The fourth scenario of the default batch, which proposes the expected retry. -/
def retried : EvaluationScenario :=
  { scenarioId := "eval-0042-0003", amountMinor := 2125, currency := "INR"
    outcome := .RECOVERABLE, proposedAction := .RETRY_PAYMENT }

/-- The fifth scenario of the default batch, which proposes a review where a retry is expected. -/
def reviewed : EvaluationScenario :=
  { scenarioId := "eval-0042-0004", amountMinor := 2262, currency := "INR"
    outcome := .RECOVERABLE, proposedAction := .REQUEST_OPERATOR_REVIEW }

example : scenarioAt 42 3 = some retried ∧ scenarioAt 42 4 = some reviewed := by decide +kernel

/-- The result of a scenario that the policy lets through and the provider lets succeed. -/
def success (scenario : EvaluationScenario) (retryAllowed : Bool) : SimulationResult :=
  BatchEvaluationEngine.result scenario
    { outcome := .ALLOW, reason := .ALLOWED, policyVersion := "phase6.v1", retryAllowed }
    (some .SUCCEEDED) true none none

/-- The metrics of a batch with one recovered scenario. -/
def recoveredOne (amountMinor : ℤ) (actionAccuracy : ℚ) : EvaluationMetrics :=
  { scenarioCount := 1, atRiskCount := 1, recoveredCount := 1
    totalAtRiskRevenueMinor := amountMinor, recoveredRevenueMinor := amountMinor
    revenueRecoveryRate := 1, caseRecoveryRate := 1, actionAccuracy, safetyRate := 1
    failureCount := 0, escalationCount := 0, verificationCount := 0, stoppedCount := 0
    rejectedCount := 0, outcomeCounts := [("recoverable", 1)] }

/-- The engine runs the retry, and its metrics follow. -/
theorem run_retried :
    ({} : BatchEvaluationEngine).run ⟨0, some 0⟩ [retried] 42 =
        .ok ⟨42, "phase8.v1", [success retried true]⟩ ∧
      evaluate ⟨42, "phase8.v1", [success retried true]⟩ = .ok (recoveredOne 2125 1) := by
  decide +kernel

/-- The engine and the ground truth agree on the retry. -/
theorem honest_iff_retried :
    Honest [retried] ⟨42, "phase8.v1", [success retried true]⟩ (recoveredOne 2125 1) ↔
      Agrees {} [retried] :=
  honest_iff run_retried.1 run_retried.2

/-- The engine counts the review as a recovery, and the ground truth denies it. -/
theorem review_counts_as_recovery :
    ({} : BatchEvaluationEngine).run ⟨0, some 0⟩ [reviewed] 42 =
        .ok ⟨42, "phase8.v1", [success reviewed false]⟩ ∧
      evaluate ⟨42, "phase8.v1", [success reviewed false]⟩ = .ok (recoveredOne 2262 0) ∧
      (success reviewed false).recovered = true ∧
      wouldRecover reviewed .REQUEST_OPERATOR_REVIEW = false ∧
      ¬Honest [reviewed] ⟨42, "phase8.v1", [success reviewed false]⟩ (recoveredOne 2262 0) := by
  refine ⟨by decide +kernel, by decide +kernel, rfl, by decide, fun hhonest => ?_⟩
  have hwould := (List.forall₂_cons.mp hhonest.1).1 rfl
  exact absurd hwould (by decide)

end Evaluation

end RevenueRescue
