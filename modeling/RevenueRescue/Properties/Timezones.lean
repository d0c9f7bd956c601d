import RevenueRescue.Properties.ConsentRule
import RevenueRescue.Properties.Retries
import RevenueRescue.Properties.RetryRule
import RevenueRescue.Refinement.Rules

/-!
# Naive and aware timestamps

The database gives timestamps back without their offset, and a caller may pass others that have
one. The rules read a naive timestamp as UTC in most of their comparisons. Where they do not,
they raise: the revalidation before an action compares a naive expiry with the clock, the consent
rule sorts and the retry rule takes the maximum of timestamps as they are. The retry rule also
repeats the latest timestamp in its answer.
-/

namespace RevenueRescue

open Python

/-- The record with its timestamps read as UTC. -/
def CustomerConsentRecord.aware (record : CustomerConsentRecord) : CustomerConsentRecord :=
  { record with
    grantedAt := record.grantedAt.map .assumeUtc
    revokedAt := record.revokedAt.map .assumeUtc
    expiresAt := record.expiresAt.map .assumeUtc }

/-- The row with its timestamps read as UTC. -/
def CustomerConsent.aware (row : CustomerConsent) : CustomerConsent :=
  { row with
    grantedAt := row.grantedAt.assumeUtc
    revokedAt := row.revokedAt.map .assumeUtc
    expiresAt := row.expiresAt.map .assumeUtc }

/-- The attempt with its timestamps read as UTC. -/
def RecoveryAttempt.aware (attempt : RecoveryAttempt) : RecoveryAttempt :=
  { attempt with
    startedAt := attempt.startedAt.map .assumeUtc
    finishedAt := attempt.finishedAt.map .assumeUtc }

/-- The rows with the timestamps of consents and attempts read as UTC. -/
def Store.aware (s : Store) : Store :=
  { s with consents := s.consents.map .aware, attempts := s.attempts.map .aware }

/-- Two computations return, and the same. -/
def Agree {R : Type} (first second : Except Fault R) : Prop :=
  ∃ result, first = .ok result ∧ second = .ok result

theorem Agree.of_ok {R : Type} {first second : Except Fault R} {result : R}
    (hfirst : first = .ok result) (hsecond : second = .ok result) : Agree first second :=
  ⟨result, hfirst, hsecond⟩

theorem assumeUtc_assumeUtc (t : Datetime) : t.assumeUtc.assumeUtc = t.assumeUtc := by
  unfold Datetime.assumeUtc
  rcases hoffset : t.utcoffset with _ | offset
  · rfl
  · dsimp only
    rw [hoffset]

theorem assumeUtc_of_isSome {t : Datetime} (h : t.utcoffset.isSome = true) : t.assumeUtc = t := by
  unfold Datetime.assumeUtc
  rcases hoffset : t.utcoffset with _ | offset
  · rw [hoffset] at h
    cases h
  · rfl

theorem isSome_assumeUtc (t : Datetime) : t.assumeUtc.utcoffset.isSome = true := by
  unfold Datetime.assumeUtc
  rcases hoffset : t.utcoffset with _ | offset
  · rfl
  · dsimp only
    rw [hoffset]
    rfl

/-- A naive timestamp and the aware one are not printed the same. -/
theorem isoformat_assumeUtc_ne {t : Datetime} (h : t.utcoffset = none) :
    t.assumeUtc.isoformat ≠ t.isoformat := by
  have hprinted : t.assumeUtc.isoformat = t.isoformat ++ "+00:00" := by
    obtain ⟨wall, offset⟩ := t
    dsimp only at h
    subst h
    unfold Datetime.isoformat Datetime.assumeUtc
    dsimp only [Datetime.civilDate]
    rw [String.append_empty]
    rfl
  intro hsame
  rw [hsame] at hprinted
  have hlong := congrArg String.length hprinted
  rw [String.length_append] at hlong
  have hshort : ("+00:00" : String).length = 6 := rfl
  omega

/-- Timestamps that are not mixed all have an offset, or none has. -/
theorem mixedOffsets_eq_false_iff {times : List Datetime} :
    ConsentValidator.mixedOffsets times = false ↔
      (∀ t ∈ times, t.utcoffset.isSome = true) ∨ ∀ t ∈ times, t.utcoffset = none := by
  unfold ConsentValidator.mixedOffsets
  rw [Bool.and_eq_false_iff, List.any_eq_false, List.any_eq_false, or_comm]
  simp [Option.isSome_iff_ne_none]

/-! ## The consent rule -/

namespace ConsentValidator

theorem grantKey_aware (record : CustomerConsentRecord) :
    grantKey record.aware = (grantKey record).assumeUtc := by
  unfold grantKey CustomerConsentRecord.aware
  rcases record.grantedAt with _ | granted
  · rfl
  · rfl

theorem ensureUtc_assumeUtc (t : Datetime) : ensureUtc t.assumeUtc = ensureUtc t := by
  unfold ensureUtc
  rw [RetryLimitEvaluator.assumeUtc_instant]

/-- The verdict on a record does not depend on the offsets it leaves out. -/
theorem judgeRecord_aware (requiredType : ConsentType) (now : Datetime)
    (record : CustomerConsentRecord) :
    judgeRecord requiredType now record.aware = judgeRecord requiredType now record := by
  have hrevocation : ∀ granted : Datetime, (record.revokedAt.map .assumeUtc).getD granted.assumeUtc =
      (record.revokedAt.getD granted).assumeUtc := by
    intro granted
    rcases record.revokedAt with _ | revokedAt <;> rfl
  unfold judgeRecord CustomerConsentRecord.aware
  rcases record.grantedAt with _ | granted
  · rfl
  simp only [Option.map_some, hrevocation, assumeUtc_assumeUtc, ensureUtc_assumeUtc,
    Option.isSome_map, Option.any_map, Option.map_map, Function.comp_def]

variable {actionType : ActionType} {customerId : String} {consents : List CustomerConsentRecord}
  {merchantId : Json} {communicationChannel : Option String} {now : Datetime}

theorem filter_aware {p : CustomerConsentRecord → Bool} (hp : ∀ c, p c.aware = p c)
    (records : List CustomerConsentRecord) :
    (records.map CustomerConsentRecord.aware).filter p = (records.filter p).map .aware := by
  rw [List.filter_map]
  exact congrArg _ (List.filter_congr fun c _ => hp c)

theorem usableRecords_aware (requiredType : ConsentType) :
    usableRecords customerId requiredType merchantId (consents.map .aware) =
      (usableRecords customerId requiredType merchantId consents).map .aware := by
  unfold usableRecords
  rw [filter_aware fun _ => rfl, filter_aware fun _ => rfl, filter_aware fun _ => rfl]

theorem recordsByGrant_aware (candidates : List CustomerConsentRecord) :
    recordsByGrant (candidates.map .aware) = (recordsByGrant candidates).map .aware := by
  unfold recordsByGrant
  refine (List.map_insertionSort _ _ _ _ fun a _ b _ => ?_).symm
  rw [grantKey_aware, grantKey_aware, RetryLimitEvaluator.assumeUtc_instant,
    RetryLimitEvaluator.assumeUtc_instant]

/-- Aware keys are never mixed. -/
theorem mixedOffsets_aware (candidates : List CustomerConsentRecord) :
    mixedOffsets ((candidates.map .aware).map grantKey) = false := by
  rw [mixedOffsets_eq_false_iff]
  refine .inl fun t ht => ?_
  rw [List.map_map, List.mem_map] at ht
  obtain ⟨record, -, rfl⟩ := ht
  rw [Function.comp_apply, grantKey_aware]
  exact isSome_assumeUtc _

/-- On the aware records the rule answers as on the others, unless it raises on these. -/
theorem evaluateRecords_aware
    (h : ∀ requiredType, determineRequiredConsent actionType communicationChannel =
        some requiredType →
      mixedOffsets ((usableRecords customerId requiredType merchantId consents).map grantKey) =
        false) :
    Agree (evaluateRecords actionType customerId consents merchantId communicationChannel now)
      (evaluateRecords actionType customerId (consents.map .aware) merchantId communicationChannel
        now) := by
  unfold evaluateRecords
  rcases hrequired : determineRequiredConsent actionType communicationChannel with _ | requiredType
  · exact .of_ok rfl rfl
  dsimp only
  rw [usableRecords_aware, recordsByGrant_aware, mixedOffsets_aware, h requiredType hrequired,
    filter_aware fun _ => rfl, filter_aware fun _ => rfl, List.isEmpty_map, List.isEmpty_map,
    List.isEmpty_map, List.isEmpty_map]
  simp only [Bool.false_eq_true, if_false]
  split_ifs
  · exact .of_ok rfl rfl
  · exact .of_ok rfl rfl
  · exact .of_ok rfl rfl
  · rcases recordsByGrant _ with _ | ⟨latest, rest⟩
    · exact .of_ok rfl rfl
    · exact .of_ok rfl (congrArg Except.ok (judgeRecord_aware requiredType now latest))

/-- The consent rule handles the timestamps exactly when those it sorts are not mixed. -/
theorem evaluateRecords_agree_iff :
    Agree (evaluateRecords actionType customerId consents merchantId communicationChannel now)
        (evaluateRecords actionType customerId (consents.map .aware) merchantId
          communicationChannel now) ↔
      ∀ requiredType, determineRequiredConsent actionType communicationChannel =
          some requiredType →
        mixedOffsets ((usableRecords customerId requiredType merchantId consents).map grantKey) =
          false := by
  refine ⟨?_, evaluateRecords_aware⟩
  rintro ⟨result, hresult, -⟩ requiredType hrequired
  by_contra hmixed
  rw [Bool.not_eq_false] at hmixed
  have hnonempty : usableRecords customerId requiredType merchantId consents ≠ [] := by
    intro hnil
    rw [hnil] at hmixed
    cases hmixed
  obtain ⟨record, hrecord⟩ := List.exists_mem_of_ne_nil _ hnonempty
  have hofType := (List.mem_filter.mp hrecord).1
  have hmatching := (List.mem_filter.mp hofType).1
  unfold evaluateRecords at hresult
  rw [hrequired] at hresult
  dsimp only at hresult
  rw [if_neg fun h => List.ne_nil_of_mem hmatching
      (List.isEmpty_iff.mp (Bool.and_eq_true_iff.mp h).1),
    if_neg fun h => List.ne_nil_of_mem hofType (List.isEmpty_iff.mp h),
    if_neg fun h => hnonempty (List.isEmpty_iff.mp h), if_pos hmixed] at hresult
  cases hresult

end ConsentValidator

/-! ## The retry rule -/

namespace RetryLimitEvaluator

/-- The rule gets to the check of the cooldown. -/
def reachesCooldown (actionType : ActionType) (attempts : List RecoveryAttempt)
    (config : PolicyConfig) (proposedIdempotencyKey failureCategory : Option String) : Bool :=
  actionType == .RETRY_PAYMENT &&
    !(failureCategory.any fun c => NON_RETRYABLE_CATEGORIES.contains (lower (strip c))) &&
    !(truthy proposedIdempotencyKey &&
      attempts.any fun a => proposedIdempotencyKey == some a.idempotencyKey) &&
    !(attempts.any fun a => a.status == .SUCCEEDED) &&
    !(attempts.any fun a => a.status == .STARTED) &&
    !(attempts.any fun a => a.status == .UNCERTAIN) &&
    config.canRetry (consumed attempts).length

/-- Every timestamp that is compared has an offset, or none has and the cooldown is over, so that
no timestamp is repeated in the answer. -/
def Comparable (prior : List RecoveryAttempt) (config : PolicyConfig) (now : Datetime) : Prop :=
  (∀ a ∈ prior, ∀ time, timestamp a = some time → time.utcoffset.isSome = true) ∨
    ∀ a ∈ prior, ∃ time, timestamp a = some time ∧ time.utcoffset = none ∧
      config.isCooldownElapsed time now = true

variable {attempts : List RecoveryAttempt} {config : PolicyConfig} {now : Datetime}

theorem timestamp_aware (attempt : RecoveryAttempt) :
    timestamp attempt.aware = (timestamp attempt).map .assumeUtc := by
  unfold timestamp RecoveryAttempt.aware
  rcases attempt.finishedAt with _ | time
  · rfl
  · rfl

theorem sortKey_aware (attempt : RecoveryAttempt) :
    sortKey attempt.aware = (sortKey attempt).assumeUtc := by
  unfold sortKey
  rw [timestamp_aware]
  rcases timestamp attempt with _ | time
  · rfl
  · rfl

theorem consumed_aware : consumed (attempts.map .aware) = (consumed attempts).map .aware := by
  unfold consumed
  rw [List.filter_map]
  rfl

theorem any_aware (p : RecoveryAttempt → Bool) (hp : ∀ a, p a.aware = p a) :
    (attempts.map RecoveryAttempt.aware).any p = attempts.any p := by
  rw [List.any_map]
  congr 1
  funext a
  exact hp a

theorem idOf_withStatus_aware (status : RecoveryAttemptStatus) :
    idOf (withStatus status (attempts.map .aware)) = idOf (withStatus status attempts) := by
  unfold idOf withStatus
  rw [List.find?_map, Option.map_map]
  rfl

theorem argmax_aware (attempts : List RecoveryAttempt) :
    (attempts.map RecoveryAttempt.aware).argmax (fun a => (sortKey a).instant) =
      (attempts.argmax fun a => (sortKey a).instant).map .aware := by
  induction attempts with
  | nil => rfl
  | cons first rest ih =>
    rw [List.map_cons, List.argmax_cons, List.argmax_cons, ih]
    rcases rest.argmax fun a => (sortKey a).instant with _ | best
    · rfl
    · dsimp only [Option.map_some]
      rw [sortKey_aware, sortKey_aware, assumeUtc_instant, assumeUtc_instant]
      split_ifs <;> rfl

/-- On aware attempts the latest timestamp is found. -/
theorem latestTime_aware (attempts : List RecoveryAttempt) :
    latestTime (attempts.map .aware) =
      .ok (((attempts.argmax fun a => (sortKey a).instant).bind timestamp).map .assumeUtc) := by
  have haware : ConsentValidator.mixedOffsets ((attempts.map RecoveryAttempt.aware).map sortKey) =
      false := by
    rw [mixedOffsets_eq_false_iff]
    refine .inl fun t ht => ?_
    rw [List.map_map, List.mem_map] at ht
    obtain ⟨a, -, rfl⟩ := ht
    rw [Function.comp_apply, sortKey_aware]
    exact isSome_assumeUtc _
  unfold latestTime
  rw [haware, if_neg Bool.false_ne_true, argmax_aware]
  rcases attempts.argmax fun a => (sortKey a).instant with _ | best
  · rfl
  · exact congrArg Except.ok (timestamp_aware best)

/-- The answer of the last check, given the latest timestamp. -/
def cooldownAnswer (config : PolicyConfig) (now : Datetime) (prior : List RecoveryAttempt) :
    Option Datetime → RuleCheckResult
  | some latest =>
    if config.isCooldownElapsed latest now then
      answer .PASSED "RETRY_LIMIT_OK"
        ("Retry permitted. " ++ toString prior.length ++ " of " ++
          toString config.maxRetryAttempts ++ " retries used.")
        [("prior_retry_count", .int prior.length),
          ("max_retry_attempts", .int config.maxRetryAttempts)]
    else
      answer .FAILED "RETRY_COOLDOWN_ACTIVE"
        ("Cooldown active; minimum " ++ toString config.retryCooldownHours ++
          " hours required between retries.")
        [("latest_attempt_at", .str latest.isoformat),
          ("retry_cooldown_hours", .int config.retryCooldownHours)]
  | none =>
    answer .PASSED "RETRY_LIMIT_OK"
      ("Retry permitted. " ++ toString prior.length ++ " of " ++
        toString config.maxRetryAttempts ++ " retries used.")
      [("prior_retry_count", .int prior.length),
        ("max_retry_attempts", .int config.maxRetryAttempts)]

/-- The last check on a latest timestamp that was looked for. -/
theorem bind_cooldownAnswer {prior : List RecoveryAttempt}
    (found : Except Fault (Option Datetime)) :
    (found >>= fun found => match found with
      | some latest =>
        if config.isCooldownElapsed latest now then
          pure (cooldownAnswer config now prior none)
        else
          pure (answer .FAILED "RETRY_COOLDOWN_ACTIVE"
            ("Cooldown active; minimum " ++ toString config.retryCooldownHours ++
              " hours required between retries.")
            [("latest_attempt_at", .str latest.isoformat),
              ("retry_cooldown_hours", .int config.retryCooldownHours)])
      | none => pure (cooldownAnswer config now prior none)) =
      found.map (cooldownAnswer config now prior) := by
  rcases found with fault | _ | latest
  · rfl
  · rfl
  · exact (apply_ite Except.ok _ _ _).symm

variable {actionType : ActionType} {proposedIdempotencyKey failureCategory : Option String}

/-- The cascade on two lists ends in one answer, or in the check of the cooldown on each. -/
inductive Ends (reaches : Bool) (first second last lastSecond : Except Fault RuleCheckResult) : Prop
  | early (h : reaches = false) (hagree : Agree first second)
  | late (h : reaches = true) (hfirst : first = last) (hsecond : second = lastSecond)

theorem Ends.of_ite {reaches : Bool} {c : Prop} [Decidable c] {result : RuleCheckResult}
    {first second last lastSecond : Except Fault RuleCheckResult} (hc : c → reaches = false)
    (h : ¬c → Ends reaches first second last lastSecond) :
    Ends reaches (if c then .ok result else first) (if c then .ok result else second) last
      lastSecond := by
  by_cases hcond : c
  · rw [if_pos hcond, if_pos hcond]
    exact .early (hc hcond) (.of_ok rfl rfl)
  · rw [if_neg hcond, if_neg hcond]
    exact h hcond

/-- Before the check of the cooldown no timestamp is read. -/
theorem evaluate_ends :
    Ends (reachesCooldown actionType attempts config proposedIdempotencyKey failureCategory)
      (evaluate actionType attempts config now proposedIdempotencyKey failureCategory)
      (evaluate actionType (attempts.map .aware) config now proposedIdempotencyKey failureCategory)
      ((latestTime (consumed attempts)).map (cooldownAnswer config now (consumed attempts)))
      ((latestTime ((consumed attempts).map .aware)).map
        (cooldownAnswer config now (consumed attempts))) := by
  have hkey : (attempts.map RecoveryAttempt.aware).any
        (fun a => proposedIdempotencyKey == some a.idempotencyKey) =
      attempts.any fun a => proposedIdempotencyKey == some a.idempotencyKey :=
    any_aware _ fun _ => rfl
  have hstatus : ∀ status : RecoveryAttemptStatus,
      (attempts.map RecoveryAttempt.aware).any (fun a => a.status == status) =
        attempts.any fun a => a.status == status :=
    fun status => any_aware _ fun _ => rfl
  unfold evaluate
  dsimp only
  rw [hkey, hstatus, hstatus, hstatus, idOf_withStatus_aware, idOf_withStatus_aware,
    idOf_withStatus_aware, consumed_aware, List.length_map]
  refine .of_ite (fun h => ?_) fun haction => .of_ite (fun h => ?_) fun hretryable =>
    .of_ite (fun h => ?_) fun hunused => .of_ite (fun h => ?_) fun hsucceeded =>
    .of_ite (fun h => ?_) fun hstarted => .of_ite (fun h => ?_) fun huncertain =>
    .of_ite (fun h => ?_) fun hbudget => .late ?_ ?_ ?_
  · simp [reachesCooldown, h]
  · simp only [reachesCooldown, h, Bool.not_true, Bool.and_false, Bool.false_and]
  · simp only [reachesCooldown, h, Bool.not_true, Bool.and_false, Bool.false_and]
  · simp only [reachesCooldown, h, Bool.not_true, Bool.and_false, Bool.false_and]
  · simp only [reachesCooldown, h, Bool.not_true, Bool.and_false, Bool.false_and]
  · simp only [reachesCooldown, h, Bool.not_true, Bool.and_false, Bool.false_and]
  · rw [Bool.not_eq_true'] at h
    rw [reachesCooldown, h, Bool.and_false]
  · rw [Bool.not_eq_true] at hretryable hunused hsucceeded hstarted huncertain hbudget
    rw [Bool.not_eq_false'] at hbudget
    rw [reachesCooldown, not_ne_iff.mp haction, hretryable, hunused, hsucceeded, hstarted,
      huncertain, hbudget]
    rfl
  · exact bind_cooldownAnswer _
  · exact bind_cooldownAnswer _

/-- The keys of the maximum are not mixed when the timestamps are alike. -/
theorem Comparable.unmixed {prior : List RecoveryAttempt} (h : Comparable prior config now) :
    ConsentValidator.mixedOffsets (prior.map sortKey) = false := by
  rw [mixedOffsets_eq_false_iff, List.forall_mem_map, List.forall_mem_map]
  refine h.imp (fun haware a ha => ?_) fun hnaive a ha => ?_
  · unfold sortKey
    rcases htime : timestamp a with _ | time
    · rfl
    · exact haware a ha time htime
  · obtain ⟨time, htime, hoffset, -⟩ := hnaive a ha
    unfold sortKey
    rw [htime]
    exact hoffset

/-- An answer that does not repeat a naive timestamp is the one for the aware timestamp. -/
theorem cooldownAnswer_assumeUtc {prior : List RecoveryAttempt} {time : Datetime}
    (h : time.utcoffset.isSome = true ∨ config.isCooldownElapsed time now = true) :
    cooldownAnswer config now prior (some time.assumeUtc) =
      cooldownAnswer config now prior (some time) := by
  rcases h with haware | helapsed
  · rw [assumeUtc_of_isSome haware]
  · have hsame : config.isCooldownElapsed time.assumeUtc now = config.isCooldownElapsed time now :=
      isCooldownElapsed_congr (assumeUtc_instant time)
    rw [cooldownAnswer, cooldownAnswer, hsame, if_pos helapsed, if_pos helapsed]

/-- While the cooldown runs the answer repeats the timestamp. -/
theorem details_cooldownAnswer {prior : List RecoveryAttempt} {time : Datetime}
    (h : ¬config.isCooldownElapsed time now = true) :
    (cooldownAnswer config now prior (some time)).details =
      [("latest_attempt_at", .str time.isoformat),
        ("retry_cooldown_hours", .int config.retryCooldownHours)] := by
  rw [cooldownAnswer, if_neg h]
  rfl

/-- An attempt whose key is naive has a timestamp, and this is naive. -/
theorem timestamp_of_naive {a : RecoveryAttempt} (h : (sortKey a).utcoffset = none) :
    ∃ time, timestamp a = some time ∧ time.utcoffset = none := by
  unfold sortKey at h
  rcases htime : timestamp a with _ | time
  · rw [htime] at h
    cases h
  · rw [htime] at h
    exact ⟨time, rfl, h⟩

/-- A naive timestamp that makes no difference to the answer is not repeated there. -/
theorem isCooldownElapsed_of_same {prior : List RecoveryAttempt} {time : Datetime}
    (hoffset : time.utcoffset = none)
    (hsame : cooldownAnswer config now prior (some time) =
      cooldownAnswer config now prior (some time.assumeUtc)) :
    config.isCooldownElapsed time now = true := by
  by_contra hcooling
  have hcoolingUtc : ¬config.isCooldownElapsed time.assumeUtc now = true := by
    rw [isCooldownElapsed_congr (assumeUtc_instant time)]
    exact hcooling
  have hdetails := congrArg RuleCheckResult.details hsame
  rw [details_cooldownAnswer hcooling, details_cooldownAnswer hcoolingUtc, List.cons.injEq,
    Prod.mk.injEq, Json.str.injEq] at hdetails
  exact isoformat_assumeUtc_ne hoffset hdetails.1.2.symm

/-- Timestamps on which the last check answers alike are comparable. -/
theorem Comparable.of_agree {prior : List RecoveryAttempt}
    (h : Agree ((latestTime prior).map (cooldownAnswer config now prior))
      ((latestTime (prior.map .aware)).map (cooldownAnswer config now prior))) :
    Comparable prior config now := by
  rw [latestTime_aware] at h
  obtain ⟨result, hfirst, hsecond⟩ := h
  unfold latestTime at hfirst
  rcases hmixed : ConsentValidator.mixedOffsets (prior.map sortKey) with _ | _
  swap
  · rw [hmixed, if_pos rfl] at hfirst
    cases hfirst
  rw [hmixed, if_neg Bool.false_ne_true] at hfirst
  rw [mixedOffsets_eq_false_iff, List.forall_mem_map, List.forall_mem_map] at hmixed
  refine hmixed.imp (fun haware a ha time htime => ?_) fun hnaive a ha => ?_
  · have hkey := haware a ha
    unfold sortKey at hkey
    rw [htime] at hkey
    exact hkey
  · rcases hmax : prior.argmax (fun a => (sortKey a).instant) with _ | best
    · rw [List.argmax_eq_none] at hmax
      rw [hmax] at ha
      exact absurd ha List.not_mem_nil
    obtain ⟨latest, hlatest, hoffset⟩ := timestamp_of_naive (hnaive best (List.argmax_mem hmax))
    obtain ⟨time, htime, htimeOffset⟩ := timestamp_of_naive (hnaive a ha)
    rw [hmax, Option.bind_some, hlatest] at hfirst hsecond
    have helapsed : config.isCooldownElapsed latest now = true :=
      isCooldownElapsed_of_same hoffset (Except.ok.inj (hfirst.trans hsecond.symm))
    have hle : (sortKey a).instant ≤ (sortKey best).instant :=
      List.le_of_mem_argmax (f := fun a => (sortKey a).instant) ha hmax
    unfold sortKey at hle
    rw [htime, hlatest] at hle
    exact ⟨time, htime, htimeOffset, isCooldownElapsed_mono hle helapsed⟩

/-- On comparable timestamps the last check answers alike. -/
theorem Comparable.agree {prior : List RecoveryAttempt} (h : Comparable prior config now) :
    Agree ((latestTime prior).map (cooldownAnswer config now prior))
      ((latestTime (prior.map .aware)).map (cooldownAnswer config now prior)) := by
  rw [latestTime_aware]
  unfold latestTime
  rw [h.unmixed, if_neg Bool.false_ne_true]
  rcases hmax : prior.argmax (fun a => (sortKey a).instant) with _ | best
  · exact .of_ok rfl rfl
  rw [Option.bind_some]
  rcases htime : timestamp best with _ | time
  · exact .of_ok rfl rfl
  refine .of_ok rfl (congrArg Except.ok (cooldownAnswer_assumeUtc ?_))
  refine h.imp (fun haware => haware best (List.argmax_mem hmax) time htime) ?_
  intro hnaive
  obtain ⟨found, hfound, -, helapsed⟩ := hnaive best (List.argmax_mem hmax)
  rw [htime, Option.some.injEq] at hfound
  rw [hfound]
  exact helapsed

/-- The last check handles the timestamps exactly when they are comparable. -/
theorem cooldown_agree_iff (prior : List RecoveryAttempt) :
    Agree ((latestTime prior).map (cooldownAnswer config now prior))
        ((latestTime (prior.map .aware)).map (cooldownAnswer config now prior)) ↔
      Comparable prior config now :=
  ⟨.of_agree, Comparable.agree⟩

/-- The retry rule handles the timestamps exactly when it does not get to the cooldown, or those
that it compares are alike. -/
theorem evaluate_agree_iff :
    Agree (evaluate actionType attempts config now proposedIdempotencyKey failureCategory)
        (evaluate actionType (attempts.map .aware) config now proposedIdempotencyKey
          failureCategory) ↔
      (reachesCooldown actionType attempts config proposedIdempotencyKey failureCategory = true →
        Comparable (consumed attempts) config now) := by
  rcases evaluate_ends with ⟨hreaches, hagree⟩ | ⟨hreaches, hfirst, hsecond⟩
  · rw [hreaches]
    exact ⟨fun _ h => absurd h Bool.false_ne_true, fun _ => hagree⟩
  · rw [hfirst, hsecond, cooldown_agree_iff, hreaches]
    exact ⟨fun h _ => h, fun h => h rfl⟩

end RetryLimitEvaluator

/-! ## The revalidation -/

namespace WorkflowRevalidationService

variable {env : Env} {s : Store} {caseId : UUID}

/-- The revalidation gets to the expiry of the consent that it found, and this is naive. -/
def ComparesNaiveExpiry (s : Store) (caseId : UUID) (actionType : ActionType) : Prop :=
  actionType = .RETRY_PAYMENT ∧
    ∃ case, s.recoveryCases[caseId]? = some case ∧ case.state = .ACTION_PENDING ∧
      (s.transactions[case.triggerTransactionId]?).any (·.status == .SUCCEEDED) = false ∧
      unknownExecution s caseId = none ∧ (s.attemptsOf caseId).length < maxRetryAttempts ∧
      ∃ consent, recurringConsent s case.customerId = some consent ∧
        ∃ expiresAt, consent.expiresAt = some expiresAt ∧ expiresAt.utcoffset = none

theorem length_attemptsOf_aware : (s.aware.attemptsOf caseId).length =
    (s.attemptsOf caseId).length := by
  unfold Store.attemptsOf Store.aware
  rw [List.filter_map, List.length_map]
  rfl

theorem recurringConsent_aware (customerId : UUID) :
    recurringConsent s.aware customerId = (recurringConsent s customerId).map .aware := by
  unfold recurringConsent Store.aware
  rw [List.find?_map]
  rfl

theorem communicationConsent_aware (customerId : UUID) :
    communicationConsent s.aware customerId = (communicationConsent s customerId).map .aware := by
  unfold communicationConsent Store.aware
  rw [List.find?_map]
  rfl

/-- The checks for a retry compare the expiry with an aware clock. -/
theorem revalidateRetry_agree_iff (hclock : env.now.utcoffset.isSome = true) (case : RecoveryCase) :
    Agree (revalidateRetry env s caseId case) (revalidateRetry env s.aware caseId case) ↔
      ¬((s.attemptsOf caseId).length < maxRetryAttempts ∧
        ∃ consent, recurringConsent s case.customerId = some consent ∧
          ∃ expiresAt, consent.expiresAt = some expiresAt ∧ expiresAt.utcoffset = none) := by
  unfold revalidateRetry
  dsimp only
  rw [length_attemptsOf_aware, recurringConsent_aware]
  by_cases hlimit : maxRetryAttempts ≤ (s.attemptsOf caseId).length
  · rw [if_pos hlimit, if_pos hlimit]
    exact ⟨fun _ h => absurd h.1 (Nat.not_lt.mpr hlimit), fun _ => .of_ok rfl rfl⟩
  rw [if_neg hlimit, if_neg hlimit]
  rcases hconsent : recurringConsent s case.customerId with _ | consent
  · refine ⟨fun _ h => ?_, fun _ => .of_ok rfl rfl⟩
    obtain ⟨-, consent, hfound, -⟩ := h
    cases hfound
  dsimp only [Option.map_some]
  have hrevoked : consent.aware.revokedAt.isSome = consent.revokedAt.isSome :=
    Option.isSome_map
  have hexpires : consent.aware.expiresAt = consent.expiresAt.map .assumeUtc := rfl
  rw [hrevoked, hexpires]
  rcases hexpiry : consent.expiresAt with _ | expiresAt
  · refine ⟨fun _ h => ?_, fun _ => ?_⟩
    · obtain ⟨-, found, hfound, expiresAt, hat, -⟩ := h
      rw [← Option.some.inj hfound, hexpiry] at hat
      cases hat
    · dsimp only [Option.map_none]
      split <;> exact .of_ok rfl rfl
  dsimp only [Option.map_some]
  rcases hoffset : expiresAt.utcoffset with _ | offset
  · -- a naive expiry cannot be compared
    have hraises : expiresAt.lt? env.now = none := by
      unfold Datetime.lt?
      rw [hoffset, hclock]
      exact if_neg Bool.false_ne_true
    rw [hraises]
    constructor
    · rintro ⟨result, hresult, -⟩
      cases hresult
    · exact fun h => absurd ⟨Nat.not_le.mp hlimit, consent, rfl, expiresAt, hexpiry, hoffset⟩ h
  · have haware : expiresAt.utcoffset.isSome = true := by
      rw [hoffset]
      rfl
    have hcompared : expiresAt.lt? env.now =
        some (decide (expiresAt.instant < env.now.instant)) := by
      unfold Datetime.lt?
      rw [haware, hclock, if_pos rfl]
    rw [assumeUtc_of_isSome haware, hcompared]
    refine ⟨fun _ h => ?_, fun _ => ?_⟩
    · obtain ⟨-, found, hfound, time, hat, hnaive⟩ := h
      rw [← Option.some.inj hfound, hexpiry] at hat
      rw [← Option.some.inj hat, hoffset] at hnaive
      cases hnaive
    · split
      next h => cases h
      next => exact .of_ok rfl rfl
      next => split <;> exact .of_ok rfl rfl

/-- The revalidation handles the timestamps exactly when it does not get to a naive expiry. -/
theorem revalidate_agree_iff (hclock : env.now.utcoffset.isSome = true) (actionType : ActionType) :
    Agree (revalidateForExecution env s caseId actionType)
        (revalidateForExecution env s.aware caseId actionType) ↔
      ¬ComparesNaiveExpiry s caseId actionType := by
  unfold revalidateForExecution ComparesNaiveExpiry
  have hcases : s.aware.recoveryCases[caseId]? = s.recoveryCases[caseId]? := rfl
  rw [hcases]
  rcases hcase : s.recoveryCases[caseId]? with _ | case
  · refine ⟨fun _ h => ?_, fun _ => .of_ok rfl rfl⟩
    obtain ⟨-, case, hfound, -⟩ := h
    cases hfound
  have hfound : ∀ {P : RecoveryCase → Prop}, (∃ found, some case = some found ∧ P found) ↔ P case :=
    fun {P} => by simp
  rw [hfound]
  dsimp only
  have htransactions : s.aware.transactions = s.transactions := rfl
  have hexecutions : unknownExecution s.aware caseId = unknownExecution s caseId := rfl
  rw [htransactions, hexecutions]
  by_cases hstate : case.state = .ACTION_PENDING
  swap
  · rw [if_pos hstate, if_pos hstate]
    exact ⟨fun _ h => hstate h.2.1, fun _ => .of_ok rfl rfl⟩
  rw [if_neg (not_not.mpr hstate), if_neg (not_not.mpr hstate)]
  by_cases hpaid : (s.transactions[case.triggerTransactionId]?).any (·.status == .SUCCEEDED) = true
  · rw [if_pos hpaid, if_pos hpaid, hpaid]
    exact ⟨fun _ h => absurd h.2.2.1 (Bool.false_ne_true ∘ Eq.symm), fun _ => .of_ok rfl rfl⟩
  rw [if_neg hpaid, if_neg hpaid, Bool.eq_false_of_not_eq_true hpaid]
  rcases hunknown : unknownExecution s caseId with _ | ⟨executionId, execution⟩
  swap
  · refine ⟨fun _ h => ?_, fun _ => .of_ok rfl rfl⟩
    cases h.2.2.2.1
  dsimp only
  cases actionType with
  | RETRY_PAYMENT =>
    dsimp only
    rw [revalidateRetry_agree_iff hclock]
    simp only [hstate, true_and]
  | SEND_REMINDER =>
    refine ⟨fun _ h => absurd h.1 (by decide), fun _ => ?_⟩
    dsimp only
    unfold revalidateReminder
    rw [communicationConsent_aware, Option.isNone_map]
    split <;> exact .of_ok rfl rfl
  | _ => exact ⟨fun _ h => absurd h.1 (by decide), fun _ => .of_ok rfl rfl⟩

end WorkflowRevalidationService

/-! ## The three services -/

/-- With an aware clock each of the three services returns what it returns on aware timestamps
exactly when it does not compare a naive timestamp with an aware one, and repeats none. -/
theorem timezones_are_handled_iff {env : Env} (hclock : env.now.utcoffset.isSome = true) :
    (∀ s caseId actionType,
      Agree (WorkflowRevalidationService.revalidateForExecution env s caseId actionType)
          (WorkflowRevalidationService.revalidateForExecution env s.aware caseId actionType) ↔
        ¬WorkflowRevalidationService.ComparesNaiveExpiry s caseId actionType) ∧
    (∀ actionType customerId consents merchantId communicationChannel now,
      Agree (ConsentValidator.evaluateRecords actionType customerId consents merchantId
            communicationChannel now)
          (ConsentValidator.evaluateRecords actionType customerId (consents.map .aware) merchantId
            communicationChannel now) ↔
        ∀ requiredType, ConsentValidator.determineRequiredConsent actionType
            communicationChannel = some requiredType →
          ConsentValidator.mixedOffsets ((ConsentValidator.usableRecords customerId requiredType
            merchantId consents).map ConsentValidator.grantKey) = false) ∧
    ∀ actionType attempts config now proposedIdempotencyKey failureCategory,
      Agree (RetryLimitEvaluator.evaluate actionType attempts config now proposedIdempotencyKey
            failureCategory)
          (RetryLimitEvaluator.evaluate actionType (attempts.map .aware) config now
            proposedIdempotencyKey failureCategory) ↔
        (RetryLimitEvaluator.reachesCooldown actionType attempts config proposedIdempotencyKey
            failureCategory = true →
          RetryLimitEvaluator.Comparable (RetryLimitEvaluator.consumed attempts) config now) :=
  ⟨fun _ _ actionType => WorkflowRevalidationService.revalidate_agree_iff hclock actionType,
    fun _ _ _ _ _ _ => ConsentValidator.evaluateRecords_agree_iff,
    fun _ _ _ _ _ _ => RetryLimitEvaluator.evaluate_agree_iff⟩

namespace Sample

/-- A consent for one day. -/
def expiring : Request :=
  request (.createCustomerConsent 0 .RECURRING_BILLING .GRANTED none (some (noon.plusHours 24))
    "checkout_agreement")

/-- A retry was approved on that consent. -/
def expiringDb : Store := (World.empty.run .default [failure, expiring, recommended, approved]).db

/-- A failed retry with the naive timestamp of a stored row. -/
def storedAttempt : RecoveryAttempt := { undated with finishedAt := some noon.naive }

end Sample

/-- Without an expiry of the stored consent the revalidation of an approved retry returns. -/
theorem timezones_are_handled_iff_authorised :
    Agree (WorkflowRevalidationService.revalidateForExecution Sample.env
        (World.empty.run .default Sample.authorised).db 0 .RETRY_PAYMENT)
      (WorkflowRevalidationService.revalidateForExecution Sample.env
        (World.empty.run .default Sample.authorised).db.aware 0 .RETRY_PAYMENT) := by
  have hclock : Sample.env.now.utcoffset.isSome = true := rfl
  obtain ⟨hrevalidation, -⟩ := timezones_are_handled_iff hclock
  rw [hrevalidation]
  rintro ⟨-, case, hcase, -, -, -, -, consent, hconsent, expiresAt, hexpires, -⟩
  have hcustomer : ((World.empty.run .default Sample.authorised).db.recoveryCases[0]?).map
      RecoveryCase.customerId = some 0 := by decide +kernel
  rw [hcase, Option.map_some, Option.some.injEq] at hcustomer
  have hopen : (WorkflowRevalidationService.recurringConsent
      (World.empty.run .default Sample.authorised).db 0).map CustomerConsent.expiresAt =
        some none := by decide +kernel
  rw [hcustomer] at hconsent
  rw [hconsent, Option.map_some, hexpires] at hopen
  cases hopen

/-- A stored expiry breaks the revalidation off, and mixed timestamps break both rules off. -/
theorem naive_timestamps_raise :
    WorkflowRevalidationService.revalidateForExecution Sample.env Sample.expiringDb 0
        .RETRY_PAYMENT = .error .typeError ∧
      (WorkflowRevalidationService.revalidateForExecution Sample.env Sample.expiringDb.aware 0
        .RETRY_PAYMENT).map RevalidationResult.allowed = .ok true ∧
      (ConsentValidator.evaluateRecords .RETRY_PAYMENT "cust_1"
        [Sample.grantedRecord, { Sample.grantedRecord with grantedAt := some Sample.noon.naive }]
        .null none Sample.noon).map RuleCheckResult.status = .error .typeError ∧
      (RetryLimitEvaluator.evaluate .RETRY_PAYMENT [Sample.storedAttempt, Sample.undated] .default
        (Sample.noon.plusHours 5) none none).map RuleCheckResult.status = .error .typeError := by
  decide +kernel

end RevenueRescue
