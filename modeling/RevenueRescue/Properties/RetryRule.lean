import RevenueRescue.Properties.History
import RevenueRescue.Refinement.Rules

/-!
# The retry rule and the order of attempts

The retry rule reads the attempts of a case as a list and looks at the latest one only. What it
permits holds of every attempt, and its answer does not depend on the order, because equally
late attempts have cooled down or not together.

A missing timestamp is read as `datetime.min`, so both need that an attempt without timestamp
cannot be taken for one that has it.
-/

namespace RevenueRescue

open Python

namespace RetryLimitEvaluator

/-- The status and the reason of an answer. -/
def outcome (result : RuleCheckResult) : RuleCheckStatus × String :=
  (result.status, result.reasonCode)

@[simp] theorem outcome_answer (status : RuleCheckStatus) (reasonCode message : String)
    (details : Dict) : outcome (answer status reasonCode message details) = (status, reasonCode) :=
  rfl

/-- Beside a consumed retry without timestamp, those that have one have it after
`datetime.min`. -/
def Dated (attempts : List RecoveryAttempt) : Prop :=
  (∀ a ∈ consumed attempts, timestamp a ≠ none) ∨
    ∀ a ∈ consumed attempts, ∀ time, timestamp a = some time →
      Datetime.minUtc.instant < time.instant

/-! ## Rearranged attempts -/

variable {attempts others : List RecoveryAttempt}

theorem perm_any (hperm : attempts.Perm others) (p : RecoveryAttempt → Bool) :
    attempts.any p = others.any p := by
  rw [Bool.eq_iff_iff, List.any_eq_true, List.any_eq_true]
  exact exists_congr fun a => and_congr_left' hperm.mem_iff

theorem perm_consumed (hperm : attempts.Perm others) : (consumed attempts).Perm (consumed others) :=
  hperm.filter _

theorem perm_mixedOffsets {times others : List Datetime} (hperm : times.Perm others) :
    ConsentValidator.mixedOffsets times = ConsentValidator.mixedOffsets others := by
  unfold ConsentValidator.mixedOffsets
  congr 1
  · rw [Bool.eq_iff_iff, List.any_eq_true, List.any_eq_true]
    exact exists_congr fun t => and_congr_left' hperm.mem_iff
  · rw [Bool.eq_iff_iff, List.any_eq_true, List.any_eq_true]
    exact exists_congr fun t => and_congr_left' hperm.mem_iff

/-- Whichever of several attempts comes first, the largest key is the same. -/
theorem perm_argmax (hperm : attempts.Perm others) {best other : RecoveryAttempt}
    (hbest : attempts.argmax (fun a => (sortKey a).instant) = some best)
    (hother : others.argmax (fun a => (sortKey a).instant) = some other) :
    (sortKey best).instant = (sortKey other).instant := by
  apply le_antisymm
  · exact List.le_of_mem_argmax (f := fun a => (sortKey a).instant)
      (hperm.mem_iff.mp (List.argmax_mem hbest)) hother
  · exact List.le_of_mem_argmax (f := fun a => (sortKey a).instant)
      (hperm.mem_iff.mpr (List.argmax_mem hother)) hbest

/-- The latest timestamp is the same point in time, or there is none. -/
theorem perm_latestTime (hperm : attempts.Perm others)
    (hdated : (∀ a ∈ attempts, timestamp a ≠ none) ∨
      ∀ a ∈ attempts, ∀ time, timestamp a = some time → Datetime.minUtc.instant < time.instant) :
    (latestTime attempts).map (Option.map Datetime.instant) =
      (latestTime others).map (Option.map Datetime.instant) := by
  unfold latestTime
  rw [perm_mixedOffsets (hperm.map sortKey)]
  split
  · rfl
  rcases hbest : attempts.argmax (fun a => (sortKey a).instant) with _ | best
  · rw [List.argmax_eq_none] at hbest
    rw [hbest] at hperm
    rw [← hperm.nil_eq]
    rfl
  rcases hother : others.argmax (fun a => (sortKey a).instant) with _ | other
  · rw [List.argmax_eq_none] at hother
    rw [hother] at hperm
    rw [hperm.eq_nil] at hbest
    cases hbest
  have hin : best ∈ attempts := List.argmax_mem hbest
  have hinOther : other ∈ attempts := hperm.mem_iff.mpr (List.argmax_mem hother)
  have hsame := perm_argmax hperm hbest hother
  unfold sortKey at hsame
  change Except.ok ((timestamp best).map Datetime.instant) =
    Except.ok ((timestamp other).map Datetime.instant)
  congr 1
  rcases htime : timestamp best with _ | time <;> rcases htimeOther : timestamp other with _ | timeOther
  · rfl
  · -- a missing timestamp ties with a present one only at the smallest time
    rw [htime, htimeOther] at hsame
    rcases hdated with hall | hlater
    · exact absurd htime (hall best hin)
    · exact absurd hsame (hlater other hinOther timeOther htimeOther).ne
  · rw [htime, htimeOther] at hsame
    rcases hdated with hall | hlater
    · exact absurd htimeOther (hall other hinOther)
    · exact absurd hsame.symm (hlater best hin time htime).ne
  · rw [htime, htimeOther] at hsame
    exact congrArg some hsame

/-! ## The answer -/

variable {config : PolicyConfig} {now : Datetime}

/-- The answer of the last check depends on the point in time of the latest timestamp. -/
theorem outcome_latest_congr {first second : Except Fault (Option Datetime)}
    (h : first.map (Option.map Datetime.instant) = second.map (Option.map Datetime.instant))
    {permitted : RuleCheckResult} {cooling : Datetime → RuleCheckResult}
    (hcooling : ∀ t u, outcome (cooling t) = outcome (cooling u)) :
    (first >>= fun latest => match latest with
        | some time => if config.isCooldownElapsed time now then pure permitted
          else pure (cooling time)
        | none => pure permitted).map outcome =
      (second >>= fun latest => match latest with
        | some time => if config.isCooldownElapsed time now then pure permitted
          else pure (cooling time)
        | none => pure permitted).map outcome := by
  rcases first with fault | latest <;> rcases second with fault' | latest'
  · cases h
    rfl
  · cases h
  · cases h
  rw [Except.map, Except.map, Except.ok.injEq] at h
  change Except.map outcome (match latest with
      | some time => if config.isCooldownElapsed time now then pure permitted
        else pure (cooling time)
      | none => pure permitted) =
    Except.map outcome (match latest' with
      | some time => if config.isCooldownElapsed time now then pure permitted
        else pure (cooling time)
      | none => pure permitted)
  rcases latest with _ | time <;> rcases latest' with _ | time'
  · rfl
  · cases h
  · cases h
  · rw [Option.map_some, Option.map_some, Option.some.injEq] at h
    dsimp only
    rw [isCooldownElapsed_congr h]
    split
    · rfl
    · exact congrArg Except.ok (hcooling time time')

/-- Status and reason of the answer do not depend on the order of the attempts. -/
theorem outcome_perm (hperm : attempts.Perm others) (hdated : Dated attempts)
    (proposedIdempotencyKey failureCategory : Option String) :
    (evaluate .RETRY_PAYMENT attempts config now proposedIdempotencyKey failureCategory).map
        outcome =
      (evaluate .RETRY_PAYMENT others config now proposedIdempotencyKey failureCategory).map
        outcome := by
  have hconsumed := perm_consumed hperm
  unfold evaluate
  dsimp only
  rw [if_neg (not_not.mpr rfl), if_neg (not_not.mpr rfl), perm_any hperm, perm_any hperm,
    perm_any hperm, perm_any hperm, hconsumed.length_eq]
  split_ifs
  · rfl
  · rfl
  · rfl
  · rfl
  · rfl
  · rfl
  · refine outcome_latest_congr (perm_latestTime hconsumed hdated) fun t u => ?_
    rw [outcome_answer, outcome_answer]

/-- What the rule permits holds of every attempt, and the answer does not depend on their order. -/
theorem permits_in_any_order (hdated : Dated attempts) (config : PolicyConfig) (now : Datetime)
    (proposedIdempotencyKey failureCategory : Option String) :
    (∀ result, evaluate .RETRY_PAYMENT attempts config now proposedIdempotencyKey
        failureCategory = .ok result → result.status = .PASSED →
      (∀ a ∈ attempts, a.status ≠ .SUCCEEDED ∧ a.status ≠ .STARTED ∧ a.status ≠ .UNCERTAIN) ∧
      (consumed attempts).length < config.maxRetryAttempts ∧
      (∀ a ∈ consumed attempts, ∀ time, timestamp a = some time →
        config.retryCooldownHours * Datetime.hour ≤ now.instant - time.instant) ∧
      (∀ key, proposedIdempotencyKey = some key → key ≠ "" →
        ∀ a ∈ attempts, a.idempotencyKey ≠ key) ∧
      ∀ category, failureCategory = some category →
        lower (strip category) ∉ NON_RETRYABLE_CATEGORIES) ∧
    ∀ others, attempts.Perm others →
      (evaluate .RETRY_PAYMENT others config now proposedIdempotencyKey failureCategory).map
          outcome =
        (evaluate .RETRY_PAYMENT attempts config now proposedIdempotencyKey failureCategory).map
          outcome := by
  constructor
  · intro result h hpassed
    have hpermits := permits_of_passed hpassed h
    refine ⟨hpermits.settled, hpermits.budget, fun a ha time htime => ?_, hpermits.unused,
      hpermits.retryable⟩
    have helapsed := hpermits.elapsed ha htime
      (hdated.imp_right fun hlater => hlater a ha time htime)
    unfold PolicyConfig.isCooldownElapsed at helapsed
    rw [decide_eq_true_eq, assumeUtc_instant, assumeUtc_instant] at helapsed
    exact helapsed
  · intro others hperm
    exact (outcome_perm hperm hdated proposedIdempotencyKey failureCategory).symm

end RetryLimitEvaluator

namespace Sample

/-- A failed retry that has no timestamp. -/
def undated : RecoveryAttempt :=
  { id := 1, caseId := 0, sequenceNumber := 1, status := .FAILED, actionType := .RETRY_PAYMENT
    startedAt := none, finishedAt := none, outcome := none, providerReference := none
    idempotencyKey := "retry-1" }

/-- A failed retry at the smallest time there is, under the empty key. -/
def earliest : RecoveryAttempt :=
  { undated with id := 2, sequenceNumber := 2, finishedAt := some .minUtc, idempotencyKey := "" }

end Sample

/-- One hour after the second attempt the order decides, and an empty key may be used again. -/
theorem undated_attempt_hides_cooldown :
    (RetryLimitEvaluator.evaluate .RETRY_PAYMENT [Sample.undated, Sample.earliest] .default
        (Datetime.minUtc.plusHours 1) none none).map RetryLimitEvaluator.outcome =
          .ok (.PASSED, "RETRY_LIMIT_OK") ∧
      (RetryLimitEvaluator.evaluate .RETRY_PAYMENT [Sample.earliest, Sample.undated] .default
        (Datetime.minUtc.plusHours 1) none none).map RetryLimitEvaluator.outcome =
          .ok (.FAILED, "RETRY_COOLDOWN_ACTIVE") ∧
      (RetryLimitEvaluator.evaluate .RETRY_PAYMENT [Sample.earliest] .default
        (Datetime.minUtc.plusHours 4) (some "") none).map RetryLimitEvaluator.outcome =
          .ok (.PASSED, "RETRY_LIMIT_OK") := by
  decide +kernel

/-- Five hours after a failed retry another is permitted. -/
theorem permits_in_any_order_noon :
    ∃ result, RetryLimitEvaluator.evaluate .RETRY_PAYMENT
        [{ Sample.undated with finishedAt := some Sample.noon }] .default
        (Sample.noon.plusHours 5) (some "retry-2") (some "insufficient_funds") = .ok result ∧
      result.status = .PASSED ∧
      ∀ a ∈ RetryLimitEvaluator.consumed [{ Sample.undated with finishedAt := some Sample.noon }],
        ∀ time, RetryLimitEvaluator.timestamp a = some time →
          4 * Datetime.hour ≤ (Sample.noon.plusHours 5).instant - time.instant := by
  have hdated : RetryLimitEvaluator.Dated
      [{ Sample.undated with finishedAt := some Sample.noon }] := by
    refine .inl fun a ha => ?_
    rw [RetryLimitEvaluator.consumed, List.mem_filter, List.mem_singleton] at ha
    rw [ha.1]
    exact Option.some_ne_none _
  obtain ⟨hsound, -⟩ := RetryLimitEvaluator.permits_in_any_order hdated .default
    (Sample.noon.plusHours 5) (some "retry-2") (some "insufficient_funds")
  have hpassed : (RetryLimitEvaluator.evaluate .RETRY_PAYMENT
      [{ Sample.undated with finishedAt := some Sample.noon }] .default
      (Sample.noon.plusHours 5) (some "retry-2") (some "insufficient_funds")).map
        RetryLimitEvaluator.outcome = .ok (.PASSED, "RETRY_LIMIT_OK") := by
    decide +kernel
  rcases hresult : RetryLimitEvaluator.evaluate .RETRY_PAYMENT
    [{ Sample.undated with finishedAt := some Sample.noon }] .default
    (Sample.noon.plusHours 5) (some "retry-2") (some "insufficient_funds") with fault | result
  · rw [hresult] at hpassed
    cases hpassed
  rw [hresult, Except.map, Except.ok.injEq, RetryLimitEvaluator.outcome, Prod.mk.injEq] at hpassed
  exact ⟨result, rfl, hpassed.1, (hsound result hresult hpassed.1).2.2.1⟩

end RevenueRescue
