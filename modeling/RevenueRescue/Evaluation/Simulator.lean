import RevenueRescue.Policy.Resilience
import RevenueRescue.Policy.Safety

/-!
# The evaluation engine

`BatchEvaluationEngine` runs synthetic scenarios through the safety policy. A scenario carries its
own ground truth: what the provider answers, whether the payment can be recovered at all, and the
action that would have been right.
-/

namespace RevenueRescue

open Python

namespace Evaluation

inductive ScenarioOutcome where
  | RECOVERABLE | PERMANENT_FAILURE | UNCERTAIN | ALREADY_SUCCEEDED
  deriving DecidableEq, Repr

def ScenarioOutcome.value : ScenarioOutcome → String
  | .RECOVERABLE => "recoverable"
  | .PERMANENT_FAILURE => "permanent_failure"
  | .UNCERTAIN => "uncertain"
  | .ALREADY_SUCCEEDED => "already_succeeded"

inductive SimulatedProviderResult where
  | SUCCEEDED | FAILED | TIMEOUT | UNKNOWN
  deriving DecidableEq, Repr

structure EvaluationScenario where
  scenarioId : String
  amountMinor : ℤ
  currency : String
  outcome : ScenarioOutcome
  proposedAction : ActionType
  priorAttemptCount : ℤ := 0
  providerResult : SimulatedProviderResult := .SUCCEEDED
  expectedAction : ActionType := .RETRY_PAYMENT
  hasUncertainAttempt : Bool := false
  duplicateIdempotency : Bool := false
  deriving DecidableEq, Repr

structure SimulationResult where
  scenarioId : String
  amountMinor : ℤ
  currency : String
  outcome : ScenarioOutcome
  proposedAction : ActionType
  expectedAction : ActionType
  policyDecision : Safety.PolicyDecision
  providerResult : Option SimulatedProviderResult
  recovered : Bool
  failureKind : Option FailureKind
  disposition : Option RecoveryDisposition
  wasActionCorrect : Bool
  wasSafe : Bool
  deriving DecidableEq, Repr

structure EvaluationRun where
  seed : ℤ
  ruleVersion : String
  results : List SimulationResult
  deriving DecidableEq, Repr

/-! ## Scenarios -/

/-- `f"{n:04d}"`; the sign takes one of the four places. -/
def fourDigits (n : ℤ) : String :=
  if n < 0 then "-" ++ Datetime.padded 3 (-n) else Datetime.padded 4 n

/-- The kinds of scenarios that a batch goes through. -/
def templates : List (ScenarioOutcome × ActionType × SimulatedProviderResult × ActionType) :=
  [(.RECOVERABLE, .RETRY_PAYMENT, .SUCCEEDED, .RETRY_PAYMENT),
    (.RECOVERABLE, .REQUEST_OPERATOR_REVIEW, .SUCCEEDED, .RETRY_PAYMENT),
    (.PERMANENT_FAILURE, .RETRY_PAYMENT, .FAILED, .REQUEST_OPERATOR_REVIEW),
    (.UNCERTAIN, .RETRY_PAYMENT, .UNKNOWN, .REQUEST_OPERATOR_REVIEW),
    (.ALREADY_SUCCEEDED, .RETRY_PAYMENT, .SUCCEEDED, .STOP)]

/-- The scenario at an index of a batch. -/
def scenarioAt (seed : ℤ) (index : ℕ) : Option EvaluationScenario :=
  templates[((index + seed) % templates.length).toNat]?.map
    fun (outcome, proposed, providerResult, expected) =>
      { scenarioId := "eval-" ++ fourDigits seed ++ "-" ++ fourDigits index
        amountMinor := 1000 + (index * 137 + seed * 17) % 9000
        currency := "INR"
        outcome
        proposedAction := proposed
        priorAttemptCount := 0
        providerResult
        expectedAction := expected
        hasUncertainAttempt := false
        duplicateIdempotency := index % 11 == 0 }

/-- `build_scenarios`. -/
def buildScenarios (seed count : ℤ) : Except Fault (List EvaluationScenario) :=
  if count < 1 then .error (.valueError "count must be positive")
  else .ok ((List.range count.toNat).filterMap (scenarioAt seed))

/-! ## The run -/

structure BatchEvaluationEngine where
  policy : Safety.SafetyPolicy := ⟨{}⟩
  resilience : ResiliencePolicy := {}
  ruleVersion : String := "phase8.v1"

namespace BatchEvaluationEngine

variable (engine : BatchEvaluationEngine)

/-- What the policy is asked about a scenario. -/
def policyContext (scenario : EvaluationScenario) : Safety.PolicyContext :=
  let idempotencyKey := scenario.scenarioId ++ ":attempt:1"
  { caseState := .RETRY_ELIGIBLE
    transactionStatus := .FAILED
    action := scenario.proposedAction
    retryAttemptCount := scenario.priorAttemptCount
    priorIdempotencyKeys := if scenario.duplicateIdempotency then [idempotencyKey] else []
    idempotencyKey := some idempotencyKey
    hasUncertainAttempt := scenario.hasUncertainAttempt }

/-- The disposition of an action that the policy turned away. -/
def refusedDisposition : Safety.PolicyOutcome → Option RecoveryDisposition
  | .STOP => some .STOP
  | .ESCALATE => some .ESCALATE
  | .REJECT => some .STOP
  | .ALLOW => none

/-- The result of a scenario that ended this way. -/
def result (scenario : EvaluationScenario) (policyDecision : Safety.PolicyDecision)
    (providerResult : Option SimulatedProviderResult) (recovered : Bool)
    (failureKind : Option FailureKind) (disposition : Option RecoveryDisposition) :
    SimulationResult :=
  { scenarioId := scenario.scenarioId
    amountMinor := scenario.amountMinor
    currency := scenario.currency
    outcome := scenario.outcome
    proposedAction := scenario.proposedAction
    expectedAction := scenario.expectedAction
    policyDecision
    providerResult
    recovered
    failureKind
    disposition
    wasActionCorrect := scenario.proposedAction == scenario.expectedAction
    wasSafe := policyDecision.outcome ∈
      [Safety.PolicyOutcome.ALLOW, .STOP, .ESCALATE, .REJECT] }

/-- `BatchEvaluationEngine._run_one`. -/
def runOne (now : Datetime) (scenario : EvaluationScenario) : Except Fault SimulationResult :=
  let policyDecision := engine.policy.evaluate (policyContext scenario)
  let ended := result scenario policyDecision
  if policyDecision.outcome = .ALLOW then
    let providerResult := scenario.providerResult
    let failed := fun (failureKind : FailureKind) (attemptNumber : ℤ) =>
      (engine.resilience.classify failureKind attemptNumber now).map fun classification =>
        ended (some providerResult) false (some failureKind) (some classification.disposition)
    if providerResult = .SUCCEEDED ∧ scenario.outcome = .RECOVERABLE then
      .ok (ended (some providerResult) true none none)
    else
      match providerResult with
      | .TIMEOUT => failed .TIMEOUT 1
      | .FAILED => failed .PERMANENT_API 2
      | .UNKNOWN => failed .UNCERTAIN_OUTCOME 1
      | .SUCCEEDED => .ok (ended (some providerResult) false none none)
  else .ok (ended none false none (refusedDisposition policyDecision.outcome))

/-- `BatchEvaluationEngine.run`. -/
def run (now : Datetime) (scenarios : List EvaluationScenario) (seed : ℤ) :
    Except Fault EvaluationRun := do
  let results ← scenarios.mapM (engine.runOne now)
  return { seed, ruleVersion := engine.ruleVersion, results }

end BatchEvaluationEngine

end Evaluation

end RevenueRescue
