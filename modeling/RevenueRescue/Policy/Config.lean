import RevenueRescue.Domain.Models

/-!
# Policy configuration

`PolicyConfig`: the retry budget, the cooldown and the currency-aware threshold from which
on an exposure needs a human operator.
-/

namespace RevenueRescue

open Python

structure PolicyConfig where
  maxRetryAttempts : ℕ := 3
  maxTotalAttempts : ℕ := 4
  retryCooldownHours : ℤ := 4
  highValueEscalationThresholdMinor : ℕ := 100000
  policyVersion : String := "policy-v1.0"
  currencyThresholdsMinor : List (String × ℕ) :=
    [("INR", 100000), ("USD", 100000), ("EUR", 100000), ("GBP", 100000), ("JPY", 150000),
      ("AUD", 100000), ("CAD", 100000), ("SGD", 100000)]
  deriving DecidableEq, Repr

namespace PolicyConfig

/-- The configuration a service gets when none is passed to its constructor. -/
def default : PolicyConfig := {}

/-- `PolicyConfig.get_high_value_threshold`. -/
def getHighValueThreshold (config : PolicyConfig) (currency : String) : ℕ :=
  (config.currencyThresholdsMinor.lookup (strip (upper currency))).getD
    config.highValueEscalationThresholdMinor

/-- `PolicyConfig.is_high_value`. -/
def isHighValue (config : PolicyConfig) (amountMinor : ℕ) (currency : String) : Bool :=
  decide (config.getHighValueThreshold currency ≤ amountMinor)

/-- `PolicyConfig.can_retry`. -/
def canRetry (config : PolicyConfig) (priorRetryCount : ℕ) : Bool :=
  decide (priorRetryCount < config.maxRetryAttempts)

/-- `PolicyConfig.is_cooldown_elapsed`; a naive timestamp is read as UTC. -/
def isCooldownElapsed (config : PolicyConfig) (lastAttemptAt currentTime : Datetime) : Bool :=
  decide (config.retryCooldownHours * Datetime.hour ≤
    currentTime.assumeUtc.instant - lastAttemptAt.assumeUtc.instant)

example : default.getHighValueThreshold " jpy " = 150000 := by decide

end PolicyConfig

end RevenueRescue
