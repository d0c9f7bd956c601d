import Mathlib.Algebra.Group.Int.Defs
import RevenueRescue.Domain.Models

/-!
# Failure classification

`ResiliencePolicy.classify` answers one failure: the provider may be asked again after a delay
that doubles with each attempt, an uncertain outcome has to be verified first, and everything else
goes to an operator or is dropped. The policy repeats no call by itself.
-/

namespace Python.Datetime

/-- The microseconds in one second. -/
def second : ℤ := 1000000

/-- The wall clock of `datetime.min`. -/
def minWall : ℤ := -62135596800 * second

/-- The wall clock of `datetime.max`. -/
def maxWall : ℤ := 253402300800 * second - 1

theorem assumeUtc_wall (t : Datetime) : t.assumeUtc.wall = t.wall := by
  unfold assumeUtc
  split
  · rfl
  · rfl

end Python.Datetime

namespace RevenueRescue

open Python

inductive FailureKind where
  | TIMEOUT | TRANSIENT_API | PERMANENT_API | INVALID_AGENT_OUTPUT | UNCERTAIN_OUTCOME
  | DUPLICATE_REQUEST | UNKNOWN
  deriving DecidableEq, Repr

inductive RecoveryDisposition where
  | RETRY | VERIFY | ESCALATE | STOP
  deriving DecidableEq, Repr

structure RetrySchedule where
  attemptNumber : ℤ
  nextAttemptAt : Datetime
  delaySeconds : ℤ
  maxAttempts : ℤ
  deriving DecidableEq, Repr

structure FailureClassification where
  kind : FailureKind
  disposition : RecoveryDisposition
  safeMessage : String
  retryable : Bool
  schedule : Option RetrySchedule := none
  deriving DecidableEq, Repr

/-- `t + timedelta(seconds=seconds)`, which may not leave the years 1 to 9999. -/
def addSeconds (t : Datetime) (seconds : ℤ) : Except Fault Datetime :=
  if Datetime.minWall ≤ t.wall + seconds * Datetime.second ∧
      t.wall + seconds * Datetime.second ≤ Datetime.maxWall then
    .ok { t with wall := t.wall + seconds * Datetime.second }
  else .error .overflowError

/-- A policy that its constructor accepted. -/
structure ResiliencePolicy where
  maxAttempts : ℤ := 2
  baseDelaySeconds : ℤ := 30
  maxDelaySeconds : ℤ := 3600
  positive : 1 ≤ maxAttempts := by decide

namespace ResiliencePolicy

/-- `ResiliencePolicy.__init__`. -/
def init (maxAttempts baseDelaySeconds maxDelaySeconds : ℤ) : Except Fault ResiliencePolicy :=
  if h : maxAttempts < 1 then .error (.valueError "max_attempts must be positive")
  else .ok ⟨maxAttempts, baseDelaySeconds, maxDelaySeconds, Int.not_lt.mp h⟩

variable (policy : ResiliencePolicy)

/-- A classification that schedules nothing. -/
def refuse (kind : FailureKind) (disposition : RecoveryDisposition) (safeMessage : String) :
    FailureClassification :=
  { kind, disposition, safeMessage, retryable := false }

/-- The delay before the attempt after this one. -/
def delay (attemptNumber : ℤ) : ℤ :=
  min (policy.baseDelaySeconds * 2 ^ (max (attemptNumber - 1) 0).toNat) policy.maxDelaySeconds

/-- `ResiliencePolicy.classify`. -/
def classify (kind : FailureKind) (attemptNumber : ℤ) (now : Datetime) :
    Except Fault FailureClassification :=
  let evaluatedAt := now.assumeUtc
  if kind = .UNCERTAIN_OUTCOME then
    .ok (refuse kind .VERIFY
      "Provider outcome is uncertain; verification is required before another action.")
  else if kind = .INVALID_AGENT_OUTPUT then
    .ok (refuse kind .ESCALATE "Agent output failed validation and was not executed.")
  else if kind = .PERMANENT_API then
    .ok (refuse kind .ESCALATE "Provider rejected the request permanently.")
  else if kind = .DUPLICATE_REQUEST then
    .ok (refuse kind .STOP "Duplicate request was suppressed by idempotency protection.")
  else if attemptNumber ≥ policy.maxAttempts then
    .ok (refuse kind .ESCALATE "Retry limit reached; operator review is required.")
  else if kind ∈ [.TIMEOUT, .TRANSIENT_API, .UNKNOWN] then
    (addSeconds evaluatedAt (policy.delay attemptNumber)).map fun nextAttemptAt =>
      { kind
        disposition := .RETRY
        safeMessage := "Transient failure recorded; retry may be scheduled."
        retryable := true
        schedule := some
          { attemptNumber := attemptNumber + 1
            nextAttemptAt
            delaySeconds := policy.delay attemptNumber
            maxAttempts := policy.maxAttempts } }
  else .ok (refuse kind .ESCALATE "Failure requires operator review.")

/-- What the policy can answer: no retry, a retry with its schedule, or the exception for a
schedule beyond the calendar. -/
inductive Answers (kind : FailureKind) (attemptNumber : ℤ) (now : Datetime) :
    Except Fault FailureClassification → Prop
  | refused {classification : FailureClassification} (hkind : classification.kind = kind)
    (hdisposition : classification.disposition ≠ .RETRY)
    (hschedule : classification.schedule = none) :
    Answers kind attemptNumber now (.ok classification)
  | retried {classification : FailureClassification} {schedule : RetrySchedule}
    (hkind : classification.kind = kind) (hcertain : kind ≠ .UNCERTAIN_OUTCOME)
    (hattempt : attemptNumber < policy.maxAttempts)
    (hdisposition : classification.disposition = .RETRY)
    (hschedule : classification.schedule = some schedule)
    (hnext : schedule.attemptNumber = attemptNumber + 1)
    (hdelay : schedule.delaySeconds = policy.delay attemptNumber) :
    Answers kind attemptNumber now (.ok classification)
  | raised (hrange : ¬(Datetime.minWall ≤ now.wall + policy.delay attemptNumber * Datetime.second ∧
      now.wall + policy.delay attemptNumber * Datetime.second ≤ Datetime.maxWall)) :
    Answers kind attemptNumber now (.error .overflowError)

theorem classify_answers (kind : FailureKind) (attemptNumber : ℤ) (now : Datetime) :
    policy.Answers kind attemptNumber now (policy.classify kind attemptNumber now) := by
  simp only [classify]
  split_ifs with huncertain hinvalid hpermanent hduplicate hlimit htransient
  · exact .refused rfl nofun rfl
  · exact .refused rfl nofun rfl
  · exact .refused rfl nofun rfl
  · exact .refused rfl nofun rfl
  · exact .refused rfl nofun rfl
  · unfold addSeconds
    rw [Datetime.assumeUtc_wall]
    split_ifs with hrange
    · exact .retried rfl huncertain (Int.not_le.mp hlimit) rfl rfl rfl rfl
    · exact .raised hrange
  · exact .refused rfl nofun rfl

end ResiliencePolicy

end RevenueRescue
