import RevenueRescue.Policy.Resilience

/-!
# Bounded backoff

Failures are classified one after another, each at the attempt number that the schedule before it
gave. Each schedule raises the number by one and none is given from the limit on, so the number
bounds the retries that are left, and the delay is a function of the number that never decreases.
-/

namespace RevenueRescue

open Python

namespace ResiliencePolicy

variable (policy : ResiliencePolicy)

/-- The answers to failures at the attempt numbers of the schedules, up to the first answer that
schedules nothing, and the exception that ended the run early. -/
def follow : ℤ → List (FailureKind × Datetime) → List FailureClassification × Option Fault
  | _, [] => ([], none)
  | attemptNumber, (kind, now) :: failures =>
    match policy.classify kind attemptNumber now with
    | .error fault => ([], some fault)
    | .ok classification =>
      match classification.schedule with
      | none => ([classification], none)
      | some schedule =>
        (classification :: (follow schedule.attemptNumber failures).1,
          (follow schedule.attemptNumber failures).2)

/-- The delays of the schedules. -/
def delays (answers : List FailureClassification) : List ℤ :=
  answers.filterMap fun c => c.schedule.map RetrySchedule.delaySeconds

/-- The answers that allow a retry. -/
def retries (answers : List FailureClassification) : List FailureClassification :=
  answers.filter fun c => c.disposition == .RETRY

/-- A retry at this time could fall after the last day of the calendar, or the time is before the
first. -/
def LeavesCalendar (now : Datetime) : Prop :=
  now.wall < Datetime.minWall ∨
    Datetime.maxWall < now.wall + policy.maxDelaySeconds * Datetime.second

/-- What holds of a run of answers from an attempt number on. -/
structure Bounded (attemptNumber : ℤ) (failures : List (FailureKind × Datetime))
    (run : List FailureClassification × Option Fault) : Prop where
  kinds : run.1.map FailureClassification.kind <+: failures.map Prod.fst
  sorted : (delays run.1).Pairwise (· ≤ ·)
  lower : ∀ d ∈ delays run.1, policy.delay attemptNumber ≤ d
  capped : ∀ d ∈ delays run.1, d ≤ policy.maxDelaySeconds
  retries_le : (retries run.1).length ≤ (policy.maxAttempts - attemptNumber).toNat
  uncertain : ∀ c ∈ run.1, c.kind = .UNCERTAIN_OUTCOME → c.disposition ≠ .RETRY
  ends : (policy.maxAttempts - attemptNumber).toNat < failures.length →
    (∃ c ∈ run.1, c.disposition ≠ .RETRY) ∨ run.2 = some .overflowError
  raises : ∀ fault, run.2 = some fault →
    fault = .overflowError ∧ ∃ failure ∈ failures, policy.LeavesCalendar failure.2

variable {policy}

theorem delay_le_max (attemptNumber : ℤ) : policy.delay attemptNumber ≤ policy.maxDelaySeconds :=
  min_le_right _ _

/-- The delays never decrease. -/
theorem delay_mono (hbase : 0 ≤ policy.baseDelaySeconds) {attemptNumber later : ℤ}
    (hle : attemptNumber ≤ later) : policy.delay attemptNumber ≤ policy.delay later := by
  have hexponent : (max (attemptNumber - 1) 0).toNat ≤ (max (later - 1) 0).toNat := by omega
  have hpower : (2 : ℤ) ^ (max (attemptNumber - 1) 0).toNat ≤ 2 ^ (max (later - 1) 0).toNat := by
    exact_mod_cast Nat.pow_le_pow_right (by decide : 0 < 2) hexponent
  have hproduct := Int.mul_le_mul_of_nonneg_left hpower hbase
  unfold delay
  omega

theorem delay_nonneg (hbase : 0 ≤ policy.baseDelaySeconds) (hmax : 0 ≤ policy.maxDelaySeconds)
    (attemptNumber : ℤ) : 0 ≤ policy.delay attemptNumber := by
  have hpower : (0 : ℤ) ≤ 2 ^ (max (attemptNumber - 1) 0).toNat := by
    exact_mod_cast Nat.zero_le _
  have hproduct := Int.mul_nonneg hbase hpower
  unfold delay
  omega

/-- A schedule that leaves the calendar does so by its delay. -/
theorem leavesCalendar_of_not (hbase : 0 ≤ policy.baseDelaySeconds)
    (hmax : 0 ≤ policy.maxDelaySeconds) {attemptNumber : ℤ} {now : Datetime}
    (h : ¬(Datetime.minWall ≤ now.wall + policy.delay attemptNumber * Datetime.second ∧
      now.wall + policy.delay attemptNumber * Datetime.second ≤ Datetime.maxWall)) :
    policy.LeavesCalendar now := by
  have hnonneg := delay_nonneg hbase hmax attemptNumber
  have hle : policy.delay attemptNumber ≤ policy.maxDelaySeconds := delay_le_max attemptNumber
  unfold LeavesCalendar
  unfold Datetime.second at *
  omega

/-- A run without failures. -/
theorem bounded_nil (attemptNumber : ℤ) : policy.Bounded attemptNumber [] ([], none) :=
  ⟨List.prefix_rfl, .nil, List.forall_mem_nil _, List.forall_mem_nil _, Nat.zero_le _,
    List.forall_mem_nil _, fun hlong => absurd hlong (Nat.not_lt_zero _), nofun⟩

/-- A run that the exception ends at once. -/
theorem bounded_raised {attemptNumber : ℤ} {kind : FailureKind} {now : Datetime}
    (hleaves : policy.LeavesCalendar now) (failures : List (FailureKind × Datetime)) :
    policy.Bounded attemptNumber ((kind, now) :: failures) ([], some .overflowError) where
  kinds := List.nil_prefix
  sorted := .nil
  lower := List.forall_mem_nil _
  capped := List.forall_mem_nil _
  retries_le := Nat.zero_le _
  uncertain := List.forall_mem_nil _
  ends := fun _ => .inr rfl
  raises := fun _ hfault =>
    ⟨(Option.some.inj hfault).symm, (kind, now), List.mem_cons_self, hleaves⟩

/-- A run that ends with its first answer. -/
theorem bounded_refused {attemptNumber : ℤ} {kind : FailureKind} {now : Datetime}
    {classification : FailureClassification} (hkind : classification.kind = kind)
    (hdisposition : classification.disposition ≠ .RETRY) (hschedule : classification.schedule = none)
    (failures : List (FailureKind × Datetime)) :
    policy.Bounded attemptNumber ((kind, now) :: failures) ([classification], none) := by
  have hdelays : delays [classification] = [] := by
    simp only [delays, List.filterMap_cons, hschedule, Option.map_none, List.filterMap_nil]
  have hretries : retries [classification] = [] := by
    rw [retries, List.filter_cons_of_neg (by simpa using hdisposition), List.filter_nil]
  refine ⟨⟨failures.map Prod.fst, by rw [← hkind]; rfl⟩, ?_, ?_, ?_, ?_, ?_, ?_, nofun⟩
  · rw [hdelays]
    exact .nil
  · rw [hdelays]
    nofun
  · rw [hdelays]
    nofun
  · rw [hretries]
    exact Nat.zero_le _
  · intro c hc _
    rwa [List.mem_singleton.mp hc]
  · exact fun _ => .inl ⟨classification, List.mem_singleton_self _, hdisposition⟩

/-- A retry before a run that follows its schedule. -/
theorem Bounded.cons (hbase : 0 ≤ policy.baseDelaySeconds) {attemptNumber : ℤ} {kind : FailureKind}
    {now : Datetime} {classification : FailureClassification} {schedule : RetrySchedule}
    (hkind : classification.kind = kind) (hcertain : kind ≠ .UNCERTAIN_OUTCOME)
    (hattempt : attemptNumber < policy.maxAttempts) (hdisposition : classification.disposition = .RETRY)
    (hschedule : classification.schedule = some schedule)
    (hdelay : schedule.delaySeconds = policy.delay attemptNumber)
    {failures : List (FailureKind × Datetime)}
    {run : List FailureClassification × Option Fault}
    (h : policy.Bounded (attemptNumber + 1) failures run) :
    policy.Bounded attemptNumber ((kind, now) :: failures) (classification :: run.1, run.2) := by
  have hdelays : delays (classification :: run.1) = policy.delay attemptNumber :: delays run.1 := by
    simp only [delays, List.filterMap_cons, hschedule, Option.map_some, hdelay]
  have hretries : retries (classification :: run.1) = classification :: retries run.1 := by
    rw [retries, List.filter_cons_of_pos (by simpa using hdisposition), retries]
  have hlower : ∀ d ∈ delays run.1, policy.delay attemptNumber ≤ d := fun d hd =>
    Int.le_trans (delay_mono hbase (by omega)) (h.lower d hd)
  refine ⟨?_, ?_, ?_, ?_, ?_, ?_, ?_, ?_⟩
  · rw [List.map_cons, List.map_cons, hkind]
    exact List.cons_prefix_cons.mpr ⟨rfl, h.kinds⟩
  · rw [hdelays]
    exact List.pairwise_cons.mpr ⟨hlower, h.sorted⟩
  · rw [hdelays]
    exact List.forall_mem_cons.mpr ⟨Int.le_refl _, hlower⟩
  · rw [hdelays]
    exact List.forall_mem_cons.mpr ⟨delay_le_max attemptNumber, h.capped⟩
  · have hrest := h.retries_le
    rw [hretries, List.length_cons]
    omega
  · refine List.forall_mem_cons.mpr ⟨fun huncertain => ?_, h.uncertain⟩
    exact absurd (hkind.symm.trans huncertain) hcertain
  · intro hlong
    rw [List.length_cons] at hlong
    obtain ⟨c, hc, hother⟩ | hraised := h.ends (by omega)
    · exact .inl ⟨c, List.mem_cons_of_mem _ hc, hother⟩
    · exact .inr hraised
  · intro fault hfault
    obtain ⟨hoverflow, failure, hmem, hleaves⟩ := h.raises fault hfault
    exact ⟨hoverflow, failure, List.mem_cons_of_mem _ hmem, hleaves⟩

/-- Every run is bounded, from any attempt number on. -/
theorem follow_bounded_from (hbase : 0 ≤ policy.baseDelaySeconds)
    (hmax : 0 ≤ policy.maxDelaySeconds) (failures : List (FailureKind × Datetime))
    (attemptNumber : ℤ) :
    policy.Bounded attemptNumber failures (policy.follow attemptNumber failures) := by
  induction failures generalizing attemptNumber with
  | nil => exact bounded_nil attemptNumber
  | cons failure failures ih =>
    obtain ⟨kind, now⟩ := failure
    have hanswers := policy.classify_answers kind attemptNumber now
    rw [follow]
    generalize policy.classify kind attemptNumber now = answer at hanswers
    cases hanswers with
    | refused hkind hdisposition hschedule =>
      dsimp only
      rw [hschedule]
      exact bounded_refused hkind hdisposition hschedule failures
    | retried hkind hcertain hattempt hdisposition hschedule hnext hdelay =>
      dsimp only
      rw [hschedule]
      dsimp only
      rw [hnext]
      exact (ih (attemptNumber + 1)).cons hbase hkind hcertain hattempt hdisposition hschedule
        hdelay
    | raised hrange =>
      exact bounded_raised (leavesCalendar_of_not hbase hmax hrange) failures

/-- Following the schedules from the first attempt on, the delays never decrease or exceed the
maximum, fewer retries are scheduled than there are attempts, and an uncertain outcome is never
retried. -/
theorem follow_bounded (policy : ResiliencePolicy) (hbase : 0 ≤ policy.baseDelaySeconds)
    (hmax : 0 ≤ policy.maxDelaySeconds) (failures : List (FailureKind × Datetime)) :
    policy.Bounded 1 failures (policy.follow 1 failures) :=
  follow_bounded_from hbase hmax failures 1

/-- The default policy, on two timeouts. -/
theorem follow_bounded_default :
    ({} : ResiliencePolicy).Bounded 1 [(.TIMEOUT, ⟨0, some 0⟩), (.TIMEOUT, ⟨0, some 0⟩)]
      (({} : ResiliencePolicy).follow 1 [(.TIMEOUT, ⟨0, some 0⟩), (.TIMEOUT, ⟨0, some 0⟩)]) :=
  follow_bounded {} (by decide) (by decide) _

/-- One retry in thirty seconds, then an operator. -/
example :
    (({} : ResiliencePolicy).follow 1 [(.TIMEOUT, ⟨0, some 0⟩), (.TIMEOUT, ⟨0, some 0⟩)]).1.map
        (fun c => (c.disposition, c.schedule.map RetrySchedule.delaySeconds)) =
      [(.RETRY, some 30), (.ESCALATE, none)] := by
  decide

end ResiliencePolicy

end RevenueRescue
