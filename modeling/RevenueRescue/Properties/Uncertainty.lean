import RevenueRescue.Properties.History
import RevenueRescue.Refinement.Reconciliation

/-!
# Unknown outcomes and reconciliation

An execution whose outcome is unknown has to be reconciled with the payment that it
submitted. `reconcile_case` asks about that payment when the most recent execution knows its
reference, and otherwise about the original payment of the transaction. An unknown outcome
is therefore masked in two ways: the answer for the original payment is taken for it, or the
answer agrees with the transaction although the outcome was unknown.
-/

namespace RevenueRescue

open Python

namespace PaymentReconciliationService

variable {s t : Store} {caseId : UUID} {provider : StatusProvider}

/-- The reference of the payment that the most recent execution of the case submitted. -/
def submittedPayment (s : Store) (caseId : UUID) : Option String :=
  (s.executionsOf caseId).head?.bind fun latest =>
    if truthy latest.externalReference then latest.externalReference else none

/-- A report that is no match and that rests on the status of the submitted payment. -/
structure Unmasked (provider : StatusProvider) (s : Store) (caseId : UUID)
    (report : ReconciliationReport) : Prop where
  unmatched : report.status ≠ .MATCHED
  reference : report.providerRef = submittedPayment s caseId
  answer : providerStatusOf provider (submittedPayment s caseId) = .ok report.providerStatus

/-- Receipts that mention the reference report both a success and a failure. -/
def ConflictingReceipts (s : Store) (ref : String) : Prop :=
  ∃ success ∈ s.webhookEvents, ∃ failure ∈ s.webhookEvents,
    success.eventType = "PAYMENT_SUCCEEDED" ∧ failure.eventType = "PAYMENT_FAILED" ∧
    like success.externalEventId ("%" ++ ref ++ "%") = true ∧
    like failure.externalEventId ("%" ++ ref ++ "%") = true

/-- The most recent execution knows its payment, and its receipts or the answer about it leave
something to report; or there is no payment to ask about at all. -/
def Traceable (provider : StatusProvider) (s : Store) (caseId : UUID) : Prop :=
  ∀ case txn, s.recoveryCases[caseId]? = some case →
    s.transactions[case.triggerTransactionId]? = some txn →
    match submittedPayment s caseId with
    | some ref => ConflictingReceipts s ref ∨ ∀ answer, provider ref = some answer →
        (Unresolved txn ∧ answer.status = .SUCCEEDED) ∨
          (txn.status = .PENDING ∧ answer.status = .FAILED) ∨ answer.status = .UNKNOWN
    | none => txn.externalTransactionId = "" ∨ startsWith txn.externalTransactionId "tx_" = true

/-- Two receipts of different types are two receipts. -/
theorem conflictingWebhooks_iff {ref : String} :
    conflictingWebhooks s (some ref) = true ↔ ConflictingReceipts s ref := by
  unfold conflictingWebhooks ConflictingReceipts
  simp only [Option.getD_some, Bool.and_eq_true, decide_eq_true_eq, List.any_eq_true,
    List.mem_filter, beq_iff_eq]
  constructor
  · rintro ⟨⟨-, success, ⟨hsuccess, hlike⟩, htype⟩, failure, ⟨hfailure, hlike'⟩, htype'⟩
    exact ⟨success, hsuccess, failure, hfailure, htype, htype', hlike, hlike'⟩
  · rintro ⟨success, hsuccess, failure, hfailure, htype, htype', hlike, hlike'⟩
    refine ⟨⟨?_, success, ⟨hsuccess, hlike⟩, htype⟩, failure, ⟨hfailure, hlike'⟩, htype'⟩
    have hmem : success ∈ s.webhookEvents.filter fun e =>
        like e.externalEventId ("%" ++ ref ++ "%") := List.mem_filter.mpr ⟨hsuccess, hlike⟩
    have hmem' : failure ∈ s.webhookEvents.filter fun e =>
        like e.externalEventId ("%" ++ ref ++ "%") := List.mem_filter.mpr ⟨hfailure, hlike'⟩
    have hne : success ≠ failure := by
      rintro rfl
      rw [htype] at htype'
      exact absurd htype' (by decide)
    exact Table.one_lt_length hmem hmem' hne

/-- The reference is that of the submitted payment, if it is known. -/
theorem providerReference_of_submitted {ref : String} (txn : Transaction)
    (h : submittedPayment s caseId = some ref) : providerReference s caseId txn = some ref := by
  unfold submittedPayment at h
  unfold providerReference
  rcases hlatest : (s.executionsOf caseId).head? with _ | latest
  · rw [hlatest] at h
    cases h
  rw [hlatest, Option.bind_some] at h
  dsimp only
  by_cases hknown : truthy latest.externalReference = true
  · rw [if_pos hknown] at h ⊢
    exact h
  · rw [if_neg hknown] at h
    cases h

/-- Otherwise it is that of the transaction, unless the engine made it up. -/
theorem providerReference_of_unsubmitted {txn : Transaction}
    (h : submittedPayment s caseId = none) :
    providerReference s caseId txn = none ↔
      txn.externalTransactionId = "" ∨ startsWith txn.externalTransactionId "tx_" = true := by
  have hreference : providerReference s caseId txn =
      if txn.externalTransactionId ≠ "" ∧ ¬startsWith txn.externalTransactionId "tx_" then
        some txn.externalTransactionId
      else none := by
    unfold submittedPayment at h
    unfold providerReference
    rcases hlatest : (s.executionsOf caseId).head? with _ | latest
    · rfl
    rw [hlatest, Option.bind_some] at h
    dsimp only
    by_cases hknown : truthy latest.externalReference = true
    · rw [if_pos hknown] at h
      rw [h] at hknown
      cases hknown
    · rw [if_neg hknown]
  rw [hreference, ite_eq_right_iff]
  constructor
  · intro hnone
    by_contra hboth
    rw [not_or] at hboth
    cases hnone hboth
  · rintro hmade ⟨hnonempty, hreal⟩
    exact hmade.elim (absurd · hnonempty) (absurd · hreal)

/-- A reconciliation of a case, with an unknown outcome or without one, reports no match and rests
on the status of the submitted payment, exactly when that payment can be traced. -/
theorem outcome_unmasked_iff {env : Env} {autoResolve : Bool} {report : ReconciliationReport}
    (hrun : reconcileCase env provider autoResolve caseId s = .ok (report, t)) :
    Unmasked provider s caseId report ↔ Traceable provider s caseId := by
  obtain ⟨case, txn, ⟨hcase, htxn, hstatus⟩, href, hmatched⟩ := reconcileCase_ok hrun
  have hrows : ∀ p : Transaction → Prop, (∀ case' txn', s.recoveryCases[caseId]? = some case' →
      s.transactions[case'.triggerTransactionId]? = some txn' → p txn') ↔ p txn := by
    intro p
    refine ⟨fun h => h case txn hcase htxn, fun h case' txn' hcase' htxn' => ?_⟩
    obtain rfl := Option.some.inj (hcase.symm.trans hcase')
    obtain rfl := Option.some.inj (htxn.symm.trans htxn')
    exact h
  unfold Traceable
  rw [hrows]
  rcases hsubmitted : submittedPayment s caseId with _ | ref
  · -- the execution knows no payment, so none may be asked about
    dsimp only
    rw [← providerReference_of_unsubmitted hsubmitted, ← href]
    constructor
    · intro h
      rw [h.reference, hsubmitted]
    · intro hnone
      refine ⟨fun hmatch => ?_, ?_, ?_⟩
      · have hsome := (hmatched.mp hmatch).1
        rw [hnone] at hsome
        cases hsome
      · rw [hnone, hsubmitted]
      · rw [hsubmitted, ← hnone, href]
        exact hstatus
  · -- the answer is about the submitted payment, so only the match is in question
    have hreference := providerReference_of_submitted txn hsubmitted
    rw [hreference] at href hstatus
    rw [href] at hmatched
    obtain ⟨answer, hanswer, hsame⟩ : ∃ answer, provider ref = some answer ∧
        answer.status = report.providerStatus := by
      unfold providerStatusOf at hstatus
      dsimp only at hstatus
      rcases hanswer : provider ref with _ | answer
      · rw [hanswer] at hstatus
        cases hstatus
      · rw [hanswer] at hstatus
        exact ⟨answer, rfl, Except.ok.inj hstatus⟩
    have hunmasked : Unmasked provider s caseId report ↔ report.status ≠ .MATCHED := by
      refine ⟨fun h => h.unmatched, fun h => ⟨h, ?_, ?_⟩⟩
      · rw [href, hsubmitted]
      · rw [hsubmitted]
        exact hstatus
    rw [hunmasked, Ne, hmatched, ← hsame]
    dsimp only
    rw [← conflictingWebhooks_iff]
    constructor
    · intro hnot
      by_cases hconflict : conflictingWebhooks s (some ref) = true
      · exact .inl hconflict
      refine .inr fun answer' hanswer' => ?_
      obtain rfl := Option.some.inj (hanswer.symm.trans hanswer')
      refine differences_ne_nil.mp fun hnone => hnot ?_
      exact ⟨rfl, Bool.eq_false_of_not_eq_true hconflict, hnone⟩
    · rintro (hconflict | hdiffers) ⟨-, hnoconflict, hnone⟩
      · rw [hconflict] at hnoconflict
        cases hnoconflict
      · exact differences_ne_nil.mpr (hdiffers answer hanswer) hnone

end PaymentReconciliationService

namespace Sample

/-- An execution that ended without an answer of the provider. -/
def timedOut (externalReference : Option String) : RecoveryExecution :=
  { workflowId := 0, stepIndex := 2, caseId := 0, provider := "razorpay", externalReference
    status := .UNKNOWN, amountMinor := 5000, currency := "INR"
    idempotencyKey := "wf-key", errorCode := some "GATEWAY_TIMEOUT", executedAt := noon }

/-- An escalated case whose execution timed out. -/
def uncertain (externalReference : Option String) : Store :=
  { Store.empty with
    transactions := [transaction .FAILED], recoveryCases := [case .ESCALATED]
    executions := [timedOut externalReference] }

/-- The provider that gives one answer to every query. -/
def answering (status : ExecutionStatus) : StatusProvider :=
  fun _ => some ⟨status, "razorpay", none, none, 5000, "INR", none, none, noon, true⟩

end Sample

open PaymentReconciliationService

/-- An execution that knows its payment, about which the provider knows nothing either. -/
theorem outcome_unmasked_iff_unknown :
    ∃ report t, reconcileCase Sample.env (Sample.answering .UNKNOWN) true 0
        (Sample.uncertain (some "pay_2")) = .ok (report, t) ∧
      Unmasked (Sample.answering .UNKNOWN) (Sample.uncertain (some "pay_2")) 0 report := by
  have hruns : ∃ result, reconcileCase Sample.env (Sample.answering .UNKNOWN) true 0
      (Sample.uncertain (some "pay_2")) = .ok result := ⟨_, rfl⟩
  obtain ⟨⟨report, t⟩, hrun⟩ := hruns
  refine ⟨report, t, hrun, (outcome_unmasked_iff hrun).mpr fun case txn _ _ => ?_⟩
  exact .inr fun answer hanswer => .inr (.inr (by cases hanswer; rfl))

/-- The execution timed out without a reference, and the provider answers for the original
payment that it failed: the reconciliation reports a match. -/
theorem timeout_masked_by_original_payment :
    ((Sample.uncertain none).executionsOf 0).map RecoveryExecution.status = [.UNKNOWN] ∧
      submittedPayment (Sample.uncertain none) 0 = none ∧
      ((reconcileCase Sample.env (Sample.answering .FAILED) true 0
        (Sample.uncertain none)).map fun result => (result.1.status, result.1.providerRef)).toOption =
          some (.MATCHED, some "pay_1") := by
  decide +kernel

end RevenueRescue
