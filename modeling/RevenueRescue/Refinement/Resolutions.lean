import RevenueRescue.Refinement.Moves
import RevenueRescue.Refinement.Operations

/-!
# Resolutions of a reconciliation

A comparison with the answer of the provider settles the transaction, asks for one transition at
most, and reports what differs. All of this is a function of the case, the transaction and the
answer; only the transition can raise.
-/

namespace RevenueRescue

open Python

namespace PaymentReconciliationService

variable {env : Env} {autoResolve : Bool} {caseId : UUID} {case : RecoveryCase} {txn : Transaction}
  {providerStatus : ExecutionStatus} {s t : Store}

/-! ## What a comparison chooses -/

/-- A transaction whose payment a success of the provider would settle. -/
def Unresolved (txn : Transaction) : Prop :=
  txn.status ∈ [TransactionStatus.FAILED, .PENDING]

instance (txn : Transaction) : Decidable (Unresolved txn) := by
  unfold Unresolved; infer_instance

/-- What differs between the transaction and the answer of the provider. -/
def differences (txn : Transaction) (providerStatus : ExecutionStatus) : List String :=
  if Unresolved txn ∧ providerStatus = .SUCCEEDED then ["INTERNAL_UNRESOLVED_PROVIDER_SUCCEEDED"]
  else if txn.status = .PENDING ∧ providerStatus = .FAILED then
    ["INTERNAL_PENDING_PROVIDER_FAILED"]
  else if providerStatus = .UNKNOWN then ["PROVIDER_STATUS_UNKNOWN"]
  else []

/-- The status that a resolution gives the transaction, if it gives one. -/
def settledStatus (autoResolve : Bool) (status : TransactionStatus)
    (providerStatus : ExecutionStatus) : Option TransactionStatus :=
  if autoResolve then
    if status ∈ [TransactionStatus.FAILED, .PENDING] ∧ providerStatus = .SUCCEEDED then
      some .SUCCEEDED
    else if status = .PENDING ∧ providerStatus = .FAILED then some .FAILED
    else none
  else none

/-- The resolution that is reported. -/
def reportedAction (autoResolve : Bool) (case : RecoveryCase) (txn : Transaction)
    (providerStatus : ExecutionStatus) : Option String :=
  if autoResolve then
    if txn.status ∈ [TransactionStatus.FAILED, .PENDING] ∧ providerStatus = .SUCCEEDED then
      some "RESOLVED_TO_SUCCEEDED"
    else if txn.status = .PENDING ∧ providerStatus = .FAILED then some "RESOLVED_TO_FAILED"
    else if providerStatus = .UNKNOWN ∧ case.state ∉ [RecoveryCaseState.ESCALATED, .CLOSED] then
      some "ESCALATED_FOR_MANUAL_REVIEW"
    else none
  else none

/-- The reason that is given for the transition to a state. -/
def requestedReason : RecoveryCaseState → String
  | .RECOVERED => "reconciled_provider_success"
  | .RETRY_ELIGIBLE => "reconciled_provider_failure"
  | _ => "reconciliation_outcome_unknown"

/-- The rows with the new status of the transaction. -/
def settledRows (autoResolve : Bool) (s : Store) (case : RecoveryCase) (txn : Transaction)
    (providerStatus : ExecutionStatus) : Store :=
  match settledStatus autoResolve txn.status providerStatus with
  | some status => s.modifyTransaction case.triggerTransactionId fun t => { t with status }
  | none => s

/-- The assignment of `RECOVERED` that no transition stands for. -/
def assignRecovered (env : Env) (case : RecoveryCase) : RecoveryCase :=
  { case with state := .RECOVERED, closedAt := some env.now.naive }

instance : Decidable (Settles autoResolve case txn providerStatus) := by
  unfold Settles; infer_instance

/-- The rows after the resolution. -/
def resolvedRows (env : Env) (autoResolve : Bool) (s : Store) (caseId : UUID)
    (case : RecoveryCase) (txn : Transaction) (providerStatus : ExecutionStatus) : Store :=
  let settled := settledRows autoResolve s case txn providerStatus
  match requestedTransition autoResolve case txn providerStatus with
  | some toState =>
    CaseTransitionService.transitioned env settled caseId case toState (requestedReason toState)
      .SYSTEM
  | none =>
    if Settles autoResolve case txn providerStatus then
      settled.modifyCase caseId (assignRecovered env)
    else settled

/-! ## What it does -/

/-- A transition whose result is dropped, with an answer behind it. -/
theorem transition_then {α : Type} (x : Service CaseTransitionService.TransitionResult) (a : α) :
    (do
      let _ ← (do let _ ← x; pure () : Service Unit)
      pure a : Service α) = (do let _ ← x; pure a) := by
  funext s
  rw [Tx.bind_apply, Tx.bind_apply, Tx.bind_apply]
  rcases x s with fault | ⟨result, t⟩
  · rfl
  · rfl

/-- A comparison asks for one transition after it has settled the transaction, or for none. -/
theorem compareAndResolve_apply (env : Env) (autoResolve : Bool) (s : Store) (caseId : UUID)
    (case : RecoveryCase) (txn : Transaction) (providerStatus : ExecutionStatus) :
    compareAndResolve env autoResolve caseId case txn providerStatus s =
      match requestedTransition autoResolve case txn providerStatus with
      | some toState =>
        (do
          let _ ← CaseTransitionService.transition env caseId toState (requestedReason toState)
            .SYSTEM
          pure (differences txn providerStatus,
            reportedAction autoResolve case txn providerStatus) :
          Service (List String × Option String))
          (settledRows autoResolve s case txn providerStatus)
      | none =>
        .ok ((differences txn providerStatus,
            reportedAction autoResolve case txn providerStatus),
          resolvedRows env autoResolve s caseId case txn providerStatus) := by
  unfold compareAndResolve resolvedRows requestedTransition settledRows settledStatus
    reportedAction differences Settles Unresolved
  cases autoResolve with
  | false =>
    by_cases hsucceeded : txn.status ∈ [TransactionStatus.FAILED, .PENDING] ∧
      providerStatus = .SUCCEEDED
    · simp only [if_pos hsucceeded, Bool.false_eq_true, if_false, false_and]
      rfl
    by_cases hfailed : txn.status = .PENDING ∧ providerStatus = .FAILED
    · simp only [if_neg hsucceeded, if_pos hfailed, Bool.false_eq_true, if_false, false_and]
      rfl
    by_cases hunknown : providerStatus = .UNKNOWN
    · simp only [if_neg hsucceeded, if_neg hfailed, if_pos hunknown, Bool.false_eq_true, if_false,
        false_and]
      rfl
    · simp only [if_neg hsucceeded, if_neg hfailed, if_neg hunknown, Bool.false_eq_true, if_false,
        false_and]
      rfl
  | true =>
    have hunsettled : ¬(txn.status ∈ [TransactionStatus.FAILED, .PENDING] ∧
        providerStatus = .SUCCEEDED) → ¬(txn.status ∈ [TransactionStatus.FAILED, .PENDING] ∧
          providerStatus = .SUCCEEDED ∧ case.state ∉ [RecoveryCaseState.RECOVERED, .CLOSED]) :=
      fun hnot h => hnot ⟨h.1, h.2.1⟩
    by_cases hsucceeded : txn.status ∈ [TransactionStatus.FAILED, .PENDING] ∧
      providerStatus = .SUCCEEDED
    · simp only [if_pos hsucceeded, if_true, true_and]
      unfold resolveToSucceeded
      by_cases hverifying : case.state = .VERIFICATION_PENDING
      · have hopen : case.state ∉ [RecoveryCaseState.RECOVERED, .CLOSED] := by
          rw [hverifying]
          decide
        simp only [if_pos hverifying, if_pos hopen]
        exact congrFun (transition_then _ _) _
      by_cases hopen : case.state ∉ [RecoveryCaseState.RECOVERED, .CLOSED]
      · have hsettles := And.intro hsucceeded.1 (And.intro hsucceeded.2 hopen)
        simp only [if_neg hverifying, if_pos hopen, if_pos hsettles]
        rfl
      · have hclosed : ¬(txn.status ∈ [TransactionStatus.FAILED, .PENDING] ∧
            providerStatus = .SUCCEEDED ∧
              case.state ∉ [RecoveryCaseState.RECOVERED, .CLOSED]) := fun h => hopen h.2.2
        simp only [if_neg hverifying, if_neg hopen, if_neg hclosed]
        rfl
    by_cases hfailed : txn.status = .PENDING ∧ providerStatus = .FAILED
    · simp only [if_neg hsucceeded, if_pos hfailed, if_true, true_and]
      unfold resolveToFailed
      by_cases hverifying : case.state = .VERIFICATION_PENDING
      · simp only [if_pos hverifying]
        exact congrFun (transition_then _ _) _
      · simp only [if_neg hverifying, if_neg (hunsettled hsucceeded)]
        rfl
    by_cases hunknown : providerStatus = .UNKNOWN ∧
      case.state ∉ [RecoveryCaseState.ESCALATED, .CLOSED]
    · simp only [if_neg hsucceeded, if_neg hfailed, if_pos hunknown, if_pos hunknown.1,
        if_pos hunknown.2, if_true, true_and]
      rfl
    · simp only [if_neg hsucceeded, if_neg hfailed, if_neg hunknown,
        if_neg (hunsettled hsucceeded), if_true, true_and]
      by_cases hanswer : providerStatus = .UNKNOWN
      · have hclosed : ¬case.state ∉ [RecoveryCaseState.ESCALATED, .CLOSED] :=
          fun h => hunknown ⟨hanswer, h⟩
        simp only [if_pos hanswer, if_neg hclosed]
        rfl
      · simp only [if_neg hanswer]
        rfl

/-- Settling the transaction leaves the rest of the rows. -/
theorem settledRows_auditEvents :
    (settledRows autoResolve s case txn providerStatus).auditEvents = s.auditEvents := by
  unfold settledRows
  cases settledStatus autoResolve txn.status providerStatus <;> rfl

theorem settledRows_transitions :
    (settledRows autoResolve s case txn providerStatus).transitions = s.transitions := by
  unfold settledRows
  cases settledStatus autoResolve txn.status providerStatus <;> rfl

theorem settledRows_recoveryCases :
    (settledRows autoResolve s case txn providerStatus).recoveryCases = s.recoveryCases := by
  unfold settledRows
  cases settledStatus autoResolve txn.status providerStatus <;> rfl

/-- The transaction has no part in the transition. -/
theorem settledRows_carriesOut {toState : RecoveryCaseState} {found : RecoveryCase} :
    CaseTransitionService.CarriesOut (settledRows autoResolve s case txn providerStatus) caseId
        toState found ↔ CaseTransitionService.CarriesOut s caseId toState found := by
  unfold settledRows
  cases settledStatus autoResolve txn.status providerStatus with
  | none => exact Iff.rfl
  | some status =>
    exact ⟨fun h => ⟨h.caseRow, h.allowed, h.numberFree⟩,
      fun h => ⟨h.caseRow, h.allowed, h.numberFree⟩⟩

/-- A comparison ends normally exactly when the transition it asks for is carried out. -/
theorem compareAndResolve_eq_ok (hcase : s.recoveryCases[caseId]? = some case)
    {result : List String × Option String} :
    compareAndResolve env autoResolve caseId case txn providerStatus s = .ok (result, t) ↔
      (∀ toState, requestedTransition autoResolve case txn providerStatus = some toState →
        CaseTransitionService.CarriesOut s caseId toState case) ∧
      result = (differences txn providerStatus,
        reportedAction autoResolve case txn providerStatus) ∧
      t = resolvedRows env autoResolve s caseId case txn providerStatus := by
  rw [compareAndResolve_apply]
  rcases hrequested : requestedTransition autoResolve case txn providerStatus with _ | toState
  · dsimp only
    constructor
    · intro h
      cases h
      exact ⟨fun _ hnone => (by cases hnone), rfl, rfl⟩
    · rintro ⟨-, rfl, rfl⟩
      rfl
  · dsimp only
    constructor
    · intro h
      obtain ⟨_, u, hmove, h⟩ := Tx.bind_eq_ok.mp h
      cases h
      obtain ⟨found, hcarries, rfl⟩ := CaseTransitionService.of_transition hmove
      have hcarries := settledRows_carriesOut.mp hcarries
      obtain rfl : case = found := Option.some.inj (hcase.symm.trans hcarries.caseRow)
      refine ⟨fun other hother => ?_, rfl, ?_⟩
      · obtain rfl : toState = other := Option.some.inj hother
        exact hcarries
      · unfold resolvedRows
        rw [hrequested]
    · rintro ⟨hcarries, rfl, rfl⟩
      have hsettled : CaseTransitionService.CarriesOut
          (settledRows autoResolve s case txn providerStatus) caseId toState case :=
        settledRows_carriesOut.mpr (hcarries toState rfl)
      obtain ⟨moved, u, hmove⟩ := CaseTransitionService.transition_ok env (requestedReason toState)
        .SYSTEM hsettled.caseRow hsettled.allowed hsettled.numberFree
      obtain ⟨found, hfound, rfl⟩ := CaseTransitionService.of_transition hmove
      obtain rfl : case = found := Option.some.inj (hsettled.caseRow.symm.trans hfound.caseRow)
      refine Tx.bind_eq_ok.mpr ⟨moved, _, hmove, ?_⟩
      unfold resolvedRows
      rw [hrequested]
      rfl

end PaymentReconciliationService

end RevenueRescue
