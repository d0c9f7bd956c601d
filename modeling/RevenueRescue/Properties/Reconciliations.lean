import RevenueRescue.Properties.Uncertainty
import RevenueRescue.Refinement.Reports

/-!
# Reconciliations

A reconciliation that got an answer returns its report exactly where the transition it asks for is
carried out and its audit record finds a free number. The table has no way from `RECOVERED` or
`STOPPED` to `ESCALATED`, and the record is counted while the transition takes the number of
another log, so neither is a matter of course.

The report is a match where no branch compares the two statuses, whether they agree or not. What a
reconciliation has resolved once it leaves alone from then on. The receipts that its pattern selects
need not be those of its own payment.
-/

namespace RevenueRescue

open Python

variable {env : Env} {provider : StatusProvider} {autoResolve : Bool} {caseId : UUID}
  {case : RecoveryCase} {txn : Transaction} {providerStatus : ExecutionStatus} {s t u : Store}
  {report : ReconciliationReport}

namespace PaymentReconciliationService

/-- The rows and the answer are compared in one way only. -/
theorem Compares.unique {case' : RecoveryCase} {txn' : Transaction}
    {providerStatus' : ExecutionStatus}
    (h : Compares provider s caseId case txn providerStatus)
    (h' : Compares provider s caseId case' txn' providerStatus') :
    case = case' ∧ txn = txn' ∧ providerStatus = providerStatus' := by
  obtain ⟨hcase, htxn, hanswer⟩ := h
  obtain ⟨hcase', htxn', hanswer'⟩ := h'
  obtain rfl : case = case' := Option.some.inj (hcase.symm.trans hcase')
  obtain rfl : txn = txn' := Option.some.inj (htxn.symm.trans htxn')
  exact ⟨rfl, rfl, Except.ok.inj (hanswer.symm.trans hanswer')⟩

/-! ## Totality -/

/-- The records of reconciliations. -/
def reconciliations (s : Store) : List AuditEvent :=
  s.auditEvents.filter fun a => a.eventType == "PAYMENT_RECONCILED"

/-- The call returns a report and commits one record of a reconciliation, of the case. -/
def ReportsOnce (env : Env) (provider : StatusProvider) (autoResolve : Bool) (caseId : UUID)
    (s : Store) : Prop :=
  ∃ report t record, reconcileCase env provider autoResolve caseId s = .ok (report, t) ∧
    record.caseId = caseId ∧ reconciliations t = reconciliations s ++ [record]

/-- The record of a transition is not one of a reconciliation. -/
theorem transitionRecord_eventType {toState : RecoveryCaseState} :
    ((CaseTransitionService.transitionRecord env s caseId case toState .SYSTEM).eventType ==
      "PAYMENT_RECONCILED") = false := by
  unfold CaseTransitionService.transitionRecord
  cases toState <;> rfl

/-- What a reconciliation commits holds one record more. -/
theorem reconciliations_reconciledRows :
    reconciliations (reconciledRows env autoResolve s caseId case txn providerStatus) =
      reconciliations s ++ [reconciledRecord env caseId
        (resolvedRows env autoResolve s caseId case txn providerStatus)] := by
  have hresolved : reconciliations (resolvedRows env autoResolve s caseId case txn
      providerStatus) = reconciliations s := by
    unfold reconciliations
    rcases hrequested : requestedTransition autoResolve case txn providerStatus with _ | toState
    · rw [resolvedRows_auditEvents_none hrequested]
    · rw [resolvedRows_auditEvents_some hrequested, List.filter_append]
      have hother : [CaseTransitionService.transitionRecord env s caseId case toState
          .SYSTEM].filter (fun a => a.eventType == "PAYMENT_RECONCILED") = [] := by
        refine List.filter_eq_nil_iff.mpr fun a ha => ?_
        rw [List.mem_singleton.mp ha, transitionRecord_eventType]
        exact Bool.false_ne_true
      rw [hother, List.append_nil]
  rw [← hresolved]
  unfold reconciliations reconciledRows
  dsimp only
  rw [List.filter_append]
  rfl

/-- For a case with its transaction and an answer of the provider, the reconciliation returns and
records itself once exactly when the table allows the transition that the answer asks for and the
numbers of its records are free. -/
theorem reconciliation_reports_iff
    (hcompares : Compares provider s caseId case txn providerStatus) :
    ReportsOnce env provider autoResolve caseId s ↔
      Reconcilable autoResolve s caseId case txn providerStatus := by
  constructor
  · rintro ⟨report, t, -, hrun, -, -⟩
    obtain ⟨case', txn', providerStatus', hcompares', hreconcilable, -, -⟩ :=
      reconcileCase_eq_ok.mp hrun
    obtain ⟨rfl, rfl, rfl⟩ := hcompares.unique hcompares'
    exact hreconcilable
  · intro hreconcilable
    exact ⟨_, _, _, reconcileCase_eq_ok.mpr ⟨case, txn, providerStatus, hcompares, hreconcilable,
      rfl, rfl⟩, rfl, reconciliations_reconciledRows⟩

end PaymentReconciliationService

open PaymentReconciliationService

namespace Sample

/-- The payment went through after it had failed. -/
def recoveredDb : Store := (World.empty.run .default [failure, success]).db

/-- A provider with one answer to every query answers about a payment that has a reference. -/
theorem answering_compares {s : Store} {case : RecoveryCase} {txn : Transaction} {ref : String}
    (hcase : s.recoveryCases[0]? = some case)
    (htxn : s.transactions[case.triggerTransactionId]? = some txn)
    (href : providerReference s 0 txn = some ref) (status : ExecutionStatus) :
    Compares (answering status) s 0 case txn status := by
  refine ⟨hcase, htxn, ?_⟩
  rw [href]
  rfl

theorem waiting_compares (status : ExecutionStatus) :
    Compares (answering status) (world .PENDING .VERIFICATION_PENDING).db 0
      (Sample.case .VERIFICATION_PENDING) (transaction .PENDING) status := by
  have href : providerReference (world .PENDING .VERIFICATION_PENDING).db 0
      (transaction .PENDING) = some "pay_1" := by decide +kernel
  exact answering_compares rfl rfl href status

end Sample

/-- A case without logs is settled and recorded. -/
theorem reconciliation_reports_iff_settled :
    ReportsOnce Sample.env (Sample.answering .SUCCEEDED) true 0
      (Sample.world .PENDING .VERIFICATION_PENDING).db := by
  refine (reconciliation_reports_iff (Sample.waiting_compares .SUCCEEDED)).mpr ⟨?_, ?_⟩
  · intro toState hrequested
    obtain rfl : RecoveryCaseState.RECOVERED = toState := Option.some.inj hrequested
    exact ⟨rfl, by decide, by decide⟩
  · have hnumber : 2 ∉ [1] := by decide
    exact hnumber

/-- The status query about a recovered case times out, and the reconciliation raises. -/
theorem recovered_case_is_not_reported :
    ∃ case txn, Compares (Sample.answering .UNKNOWN) Sample.recoveredDb 0 case txn .UNKNOWN ∧
      case.state = .RECOVERED ∧
      ¬ReportsOnce Sample.env (Sample.answering .UNKNOWN) true 0 Sample.recoveredDb := by
  have hstate : (Sample.recoveredDb.recoveryCases[0]?).map (fun c => (c.state,
      c.triggerTransactionId)) = some (.RECOVERED, 0) := by decide +kernel
  have href : (Sample.recoveredDb.transactions[0]?).map (providerReference Sample.recoveredDb 0) =
      some (some "pay_1") := by decide +kernel
  obtain ⟨case, hcase, hstate⟩ := Option.map_eq_some_iff.mp hstate
  obtain ⟨txn, htxn, href⟩ := Option.map_eq_some_iff.mp href
  obtain ⟨hrecovered, htrigger⟩ := Prod.mk.inj hstate
  rw [← htrigger] at htxn
  refine ⟨case, txn, Sample.answering_compares hcase htxn href .UNKNOWN, hrecovered, ?_⟩
  rintro ⟨report, t, -, hrun, -, -⟩
  have hraises : (reconcileCase Sample.env (Sample.answering .UNKNOWN) true 0
      Sample.recoveredDb).toOption.isSome = false := by decide +kernel
  rw [hrun] at hraises
  cases hraises

/-! ## Matches -/

namespace PaymentReconciliationService

/-- What a status says about the payment. -/
inductive PaymentOutcome where
  | succeeded | failed | inFlight
  deriving DecidableEq, Repr

/-- The outcome that the status of a transaction stands for. -/
def internalOutcome : TransactionStatus → Option PaymentOutcome
  | .SUCCEEDED => some .succeeded
  | .FAILED => some .failed
  | .CREATED | .AUTHORIZED | .PENDING => some .inFlight
  | .CANCELLED | .REFUNDED | .UNKNOWN => none

/-- The outcome that the provider reports. -/
def providerOutcome : ExecutionStatus → Option PaymentOutcome
  | .SUCCEEDED => some .succeeded
  | .FAILED => some .failed
  | .SUBMITTED | .PENDING => some .inFlight
  | .UNKNOWN | .CANCELLED => none

/-- Both succeeded, both failed or both are still in flight. -/
def SameOutcome (status : TransactionStatus) (providerStatus : ExecutionStatus) : Prop :=
  (internalOutcome status).isSome = true ∧ internalOutcome status = providerOutcome providerStatus

instance (status : TransactionStatus) (providerStatus : ExecutionStatus) :
    Decidable (SameOutcome status providerStatus) := by
  unfold SameOutcome; infer_instance

/-- The internal statuses that an answer is judged rightly against: a branch of the comparison
names the pair, or the two agree. -/
def judgedAgainst : ExecutionStatus → List TransactionStatus
  | .UNKNOWN =>
    [.CREATED, .AUTHORIZED, .SUCCEEDED, .FAILED, .PENDING, .CANCELLED, .REFUNDED, .UNKNOWN]
  | .SUCCEEDED => [.SUCCEEDED, .FAILED, .PENDING]
  | .FAILED => [.FAILED, .PENDING]
  | .SUBMITTED | .PENDING => [.CREATED, .AUTHORIZED, .PENDING]
  | .CANCELLED => []

/-- A pair is judged rightly where a branch finds a difference or there is none to find. -/
theorem mem_judgedAgainst :
    txn.status ∈ judgedAgainst providerStatus ↔
      differences txn providerStatus ≠ [] ∨ SameOutcome txn.status providerStatus := by
  rw [differences_ne_nil]
  unfold Unresolved
  cases txn.status <;> cases providerStatus <;> decide

/-- Nothing is settled where nothing differs. -/
theorem settledStatus_of_differences (h : differences txn providerStatus = []) :
    settledStatus autoResolve txn.status providerStatus = none := by
  have hnone : ¬((Unresolved txn ∧ providerStatus = .SUCCEEDED) ∨
      (txn.status = .PENDING ∧ providerStatus = .FAILED) ∨ providerStatus = .UNKNOWN) :=
    fun hdiffers => differences_ne_nil.mpr hdiffers h
  rw [not_or, not_or] at hnone
  obtain ⟨hsucceeded, hfailed, -⟩ := hnone
  unfold settledStatus
  cases autoResolve with
  | false => rfl
  | true => exact (if_neg hsucceeded).trans (if_neg hfailed)

/-- A report of a match says that both sides tell the same outcome exactly when the receipts
conflict, so that there is no match, or the answer is judged rightly against the status of the
transaction. -/
theorem match_sound_iff (hcompares : Compares provider s caseId case txn providerStatus)
    (hrun : reconcileCase env provider autoResolve caseId s = .ok (report, t)) :
    (report.status = .MATCHED → SameOutcome report.internalStatus report.providerStatus) ↔
      conflictingWebhooks s (providerReference s caseId txn) = true ∨
        txn.status ∈ judgedAgainst providerStatus := by
  obtain ⟨case', txn', providerStatus', hcompares', -, rfl, -⟩ := reconcileCase_eq_ok.mp hrun
  obtain ⟨rfl, rfl, rfl⟩ := hcompares.unique hcompares'
  have hmatched : (reportOf autoResolve s caseId case txn providerStatus).status = .MATCHED ↔
      (providerReference s caseId txn).isNone = false ∧
        conflictingWebhooks s (providerReference s caseId txn) = false ∧
          differences txn providerStatus = [] := by
    refine classify_eq_matched.trans ?_
    unfold discrepanciesOf
    rw [List.append_eq_nil_iff, List.append_eq_nil_iff, and_assoc]
    cases (providerReference s caseId txn).isNone <;>
      cases conflictingWebhooks s (providerReference s caseId txn) <;> simp
  have hinternal (hnone : differences txn providerStatus = []) :
      (reportOf autoResolve s caseId case txn providerStatus).internalStatus = txn.status := by
    unfold reportOf settledTransaction
    rw [settledStatus_of_differences hnone]
    rfl
  rw [hmatched, mem_judgedAgainst]
  constructor
  · intro hsound
    by_cases hconflict : conflictingWebhooks s (providerReference s caseId txn) = true
    · exact .inl hconflict
    by_cases hnone : differences txn providerStatus = []
    · have href : (providerReference s caseId txn).isNone = false := by
        rcases href : providerReference s caseId txn with _ | ref
        · -- without a reference the answer is `UNKNOWN`, which is a difference
          obtain ⟨-, -, hanswer⟩ := hcompares
          rw [href] at hanswer
          refine absurd hnone (differences_ne_nil.mpr (.inr (.inr ?_)))
          exact (Except.ok.inj hanswer).symm
        · rfl
      have hsame := hsound ⟨href, Bool.eq_false_of_not_eq_true hconflict, hnone⟩
      rw [hinternal hnone] at hsame
      exact .inr (.inr hsame)
    · exact .inr (.inl hnone)
  · rintro hjudged ⟨-, hnoconflict, hnone⟩
    rw [hinternal hnone]
    rcases hjudged with hconflict | hdiffers | hsame
    · rw [hnoconflict] at hconflict
      cases hconflict
    · exact absurd hnone hdiffers
    · exact hsame

end PaymentReconciliationService

/-- A failed payment that the provider reports as failed is a sound match. -/
theorem match_sound_iff_failed :
    ∃ report t, reconcileCase Sample.env (Sample.answering .FAILED) true 0
        (Sample.world .FAILED .VERIFICATION_PENDING).db = .ok (report, t) ∧
      (report.status = .MATCHED → SameOutcome report.internalStatus report.providerStatus) := by
  have href : providerReference (Sample.world .FAILED .VERIFICATION_PENDING).db 0
      (Sample.transaction .FAILED) = some "pay_1" := by decide +kernel
  have hcompares := Sample.answering_compares (s := (Sample.world .FAILED .VERIFICATION_PENDING).db)
    rfl rfl href .FAILED
  have hruns : ∃ result, reconcileCase Sample.env (Sample.answering .FAILED) true 0
      (Sample.world .FAILED .VERIFICATION_PENDING).db = .ok result := ⟨_, rfl⟩
  obtain ⟨⟨report, t⟩, hrun⟩ := hruns
  refine ⟨report, t, hrun, (match_sound_iff hcompares hrun).mpr (.inr ?_)⟩
  exact List.mem_cons_self

/-- The payment succeeded here, the provider reports that it failed, and the report is a match. -/
theorem failure_matches_success :
    ((reconcileCase Sample.env (Sample.answering .FAILED) true 0
      (Sample.world .SUCCEEDED .RECOVERED).db).map fun result =>
        (result.1.status, result.1.internalStatus, result.1.providerStatus)).toOption =
          some (.MATCHED, .SUCCEEDED, .FAILED) ∧
      ¬SameOutcome .SUCCEEDED .FAILED := by
  decide +kernel

/-! ## Repetition -/

namespace PaymentReconciliationService

/-- A settled transaction has nothing left to settle. -/
theorem settledStatus_settledTransaction :
    settledStatus true (settledTransaction true txn providerStatus).status providerStatus =
      none := by
  unfold settledTransaction
  cases txn.status <;> cases providerStatus <;> rfl

/-- A case is moved where there is something to settle, or for want of an answer. -/
theorem requestedTransition_eq_none
    (hsettled : settledStatus true txn.status providerStatus = none)
    (hunknown : providerStatus = .UNKNOWN → case.state ∈ [RecoveryCaseState.ESCALATED, .CLOSED]) :
    requestedTransition true case txn providerStatus = none := by
  unfold settledStatus at hsettled
  rw [if_pos rfl] at hsettled
  split_ifs at hsettled with hsucceeded hfailed
  unfold requestedTransition
  rw [if_pos rfl, if_neg hsucceeded, if_neg hfailed]
  exact if_neg fun h => h.2 (hunknown h.1)

theorem not_settles (hsettled : settledStatus true txn.status providerStatus = none) :
    ¬Settles true case txn providerStatus := by
  rintro ⟨-, hunresolved, hsucceeded, -⟩
  unfold settledStatus at hsettled
  rw [if_pos rfl, if_pos ⟨hunresolved, hsucceeded⟩] at hsettled
  cases hsettled

/-- A case whose payment is unknown ends escalated, if it was not closed. -/
theorem resolvedCase_unknown :
    (resolvedCase env true case txn .UNKNOWN).state ∈
      [RecoveryCaseState.ESCALATED, .CLOSED] := by
  unfold resolvedCase
  by_cases hclosed : case.state ∈ [RecoveryCaseState.ESCALATED, .CLOSED]
  · have hsettled : settledStatus true txn.status .UNKNOWN = none := by
      cases txn.status <;> rfl
    rw [requestedTransition_eq_none hsettled fun _ => hclosed]
    dsimp only
    rw [if_neg (not_settles hsettled)]
    exact hclosed
  · have hrequested : requestedTransition true case txn .UNKNOWN = some .ESCALATED := by
      unfold requestedTransition
      rw [if_pos rfl, if_neg (fun h => by cases h.2), if_neg (fun h => by cases h.2),
        if_pos ⟨rfl, hclosed⟩]
    rw [hrequested]
    exact List.mem_cons_self

/-- What the answer resolves is resolved once. -/
theorem resolvedRows_eq_self
    (hsettled : autoResolve = true → settledStatus true txn.status providerStatus = none)
    (hunknown : autoResolve = true → providerStatus = .UNKNOWN →
      case.state ∈ [RecoveryCaseState.ESCALATED, .CLOSED]) :
    resolvedRows env autoResolve s caseId case txn providerStatus = s := by
  cases autoResolve with
  | false =>
    have hnone : ¬Settles false case txn providerStatus := fun h => by cases h.1
    unfold resolvedRows requestedTransition
    rw [if_neg Bool.false_ne_true]
    exact if_neg hnone
  | true =>
    have hstays : settledRows true s case txn providerStatus = s := by
      unfold settledRows
      rw [hsettled rfl]
    unfold resolvedRows
    rw [requestedTransition_eq_none (hsettled rfl) (hunknown rfl), hstays]
    exact if_neg (not_settles (hsettled rfl))

/-- A second reconciliation with the same answer, which resolves nothing that the first one was
not asked to resolve, leaves everything but the audit log as it is. -/
theorem second_reconciliation_changes_nothing {env' : Env} {provider' : StatusProvider}
    {autoResolve' : Bool} {report' : ReconciliationReport}
    (hfirst : reconcileCase env provider autoResolve caseId s = .ok (report, t))
    (hsecond : reconcileCase env' provider' autoResolve' caseId t = .ok (report', u))
    (hanswer : report'.providerStatus = report.providerStatus)
    (hresolve : autoResolve' = true → autoResolve = true) :
    u = { t with auditEvents := u.auditEvents } := by
  obtain ⟨case, txn, providerStatus, ⟨hcase, htxn, -⟩, -, rfl, ht⟩ :=
    reconcileCase_eq_ok.mp hfirst
  obtain ⟨case', txn', providerStatus', ⟨hcase', htxn', -⟩, -, rfl, hu⟩ :=
    reconcileCase_eq_ok.mp hsecond
  obtain rfl : providerStatus' = providerStatus := hanswer
  have hmoved : t.recoveryCases[caseId]? =
      some (resolvedCase env autoResolve case txn providerStatus') := by
    rw [ht]
    exact resolvedRows_case hcase
  obtain rfl : resolvedCase env autoResolve case txn providerStatus' = case' :=
    Option.some.inj (hmoved.symm.trans hcase')
  have hafter : t.transactions[case.triggerTransactionId]? =
      some (settledTransaction autoResolve txn providerStatus') := by
    rw [ht]
    exact resolvedRows_transaction htxn
  rw [resolvedCase_trigger] at htxn'
  obtain rfl : settledTransaction autoResolve txn providerStatus' = txn' :=
    Option.some.inj (hafter.symm.trans htxn')
  have hsame : resolvedRows env' autoResolve' t caseId
      (resolvedCase env autoResolve case txn providerStatus')
      (settledTransaction autoResolve txn providerStatus') providerStatus' = t := by
    apply resolvedRows_eq_self
    · intro hauto
      rw [hresolve hauto]
      exact settledStatus_settledTransaction
    · rintro hauto rfl
      rw [hresolve hauto]
      exact resolvedCase_unknown
  rw [hu]
  unfold reconciledRows
  rw [hsame]

end PaymentReconciliationService

/-- A settled payment is settled once. -/
theorem second_reconciliation_changes_nothing_settled :
    ∃ report t report' u, reconcileCase Sample.env (Sample.answering .SUCCEEDED) true 0
        (Sample.world .PENDING .VERIFICATION_PENDING).db = .ok (report, t) ∧
      reconcileCase Sample.env (Sample.answering .SUCCEEDED) true 0 t = .ok (report', u) ∧
      u = { t with auditEvents := u.auditEvents } := by
  have hfirst : ∃ result, reconcileCase Sample.env (Sample.answering .SUCCEEDED) true 0
      (Sample.world .PENDING .VERIFICATION_PENDING).db = .ok result ∧
        result.1.providerStatus = .SUCCEEDED ∧
        ∃ result', reconcileCase Sample.env (Sample.answering .SUCCEEDED) true 0 result.2 =
          .ok result' ∧ result'.1.providerStatus = .SUCCEEDED :=
    ⟨_, rfl, rfl, _, rfl, rfl⟩
  obtain ⟨⟨report, t⟩, hfirst, hanswer, ⟨report', u⟩, hsecond, hanswer'⟩ := hfirst
  exact ⟨report, t, report', u, hfirst, hsecond,
    second_reconciliation_changes_nothing hfirst hsecond (hanswer'.trans hanswer.symm) id⟩

/-! ## Receipts of other payments -/

namespace PaymentReconciliationService

/-- A receipt of the payment: the identifier of its event contains the reference. Without a
reference every receipt is one of another payment. -/
def ownReceipt (ref : Option String) (e : ProviderWebhookEvent) : Bool :=
  ref.any fun ref => isIn ref e.externalEventId

/-- Receipts as the table holds them, one for each event of a provider. -/
def OnePerEvent (receipts : List ProviderWebhookEvent) : Prop :=
  receipts.Pairwise fun e e' =>
    (e.provider, e.externalEventId) ≠ (e'.provider, e'.externalEventId)

/-- What a reconciliation concludes: the discrepancies, the resolution and the status. -/
def verdict (env : Env) (provider : StatusProvider) (autoResolve : Bool) (caseId : UUID)
    (s : Store) : Except Fault (List String × Option String × ReconciliationStatus) :=
  (reconcileCase env provider autoResolve caseId s).map fun result =>
    (result.1.discrepancies, result.1.resolutionAction, result.1.status)

/-- Whatever receipts of other payments the rows hold, the conclusion is the same. -/
def IgnoresOtherPayments (env : Env) (provider : StatusProvider) (autoResolve : Bool)
    (caseId : UUID) (ref : Option String) (s : Store) : Prop :=
  ∀ receipts receipts', OnePerEvent receipts → OnePerEvent receipts' →
    receipts.filter (ownReceipt ref) = receipts'.filter (ownReceipt ref) →
    verdict env provider autoResolve caseId { s with webhookEvents := receipts } =
      verdict env provider autoResolve caseId { s with webhookEvents := receipts' }

/-- The conclusion about a case whose reconciliation returns. -/
theorem verdict_eq (hcompares : Compares provider s caseId case txn providerStatus)
    (hreconcilable : Reconcilable autoResolve s caseId case txn providerStatus)
    (receipts : List ProviderWebhookEvent) :
    verdict env provider autoResolve caseId { s with webhookEvents := receipts } =
      .ok (discrepanciesOf { s with webhookEvents := receipts } caseId txn providerStatus,
        reportedAction autoResolve case txn providerStatus,
        classify (discrepanciesOf { s with webhookEvents := receipts } caseId txn providerStatus)
          (reportedAction autoResolve case txn providerStatus)) := by
  have hcompares' : Compares provider { s with webhookEvents := receipts } caseId case txn
    providerStatus := hcompares
  have hreconcilable' : Reconcilable autoResolve { s with webhookEvents := receipts } caseId case
    txn providerStatus := ⟨fun toState h =>
      ⟨(hreconcilable.transition toState h).caseRow, (hreconcilable.transition toState h).allowed,
        (hreconcilable.transition toState h).numberFree⟩, hreconcilable.numberFree⟩
  unfold verdict
  rw [reconcileCase_eq_ok.mpr ⟨case, txn, providerStatus, hcompares', hreconcilable', rfl, rfl⟩]
  rfl

/-- The conflict is among the discrepancies where the receipts conflict. -/
theorem mem_discrepanciesOf :
    "CONFLICTING_WEBHOOK_EVENT_HISTORY" ∈ discrepanciesOf s caseId txn providerStatus ↔
      conflictingWebhooks s (providerReference s caseId txn) = true := by
  have hdifferences : "CONFLICTING_WEBHOOK_EVENT_HISTORY" ∉ differences txn providerStatus := by
    unfold differences
    split_ifs <;> decide
  unfold discrepanciesOf
  rw [List.mem_append, List.mem_append, or_iff_left hdifferences]
  cases (providerReference s caseId txn).isNone <;>
    cases conflictingWebhooks s (providerReference s caseId txn) <;> decide

/-- A success and a failure that two providers report under one identifier. -/
def strayReceipts (externalEventId : String) : List ProviderWebhookEvent :=
  [("razorpay", "PAYMENT_SUCCEEDED"), ("stripe", "PAYMENT_FAILED")].map fun (provider, eventType) =>
    { provider, externalEventId, eventType, payloadHash := "", signatureVerified := true
      processed := true, payloadSafe := [], ingestionStatus := "PROCESSED" }

theorem strayReceipts_onePerEvent (externalEventId : String) :
    OnePerEvent (strayReceipts externalEventId) := by
  have hproviders : "razorpay" ≠ "stripe" := by decide
  exact List.pairwise_pair.mpr fun hsame => hproviders (Prod.mk.inj hsame).1

theorem strayReceipts_event {externalEventId : String} {e : ProviderWebhookEvent}
    (h : e ∈ strayReceipts externalEventId) : e.externalEventId = externalEventId := by
  obtain ⟨_, -, rfl⟩ := List.mem_map.mp h
  rfl

/-- The two conflict if the pattern selects their identifier. -/
theorem conflictingWebhooks_stray {ref : Option String} {externalEventId : String}
    (h : like externalEventId ("%" ++ ref.getD "" ++ "%") = true) :
    conflictingWebhooks { s with webhookEvents := strayReceipts externalEventId } ref = true := by
  have hselected : (strayReceipts externalEventId).filter (fun e =>
      like e.externalEventId ("%" ++ ref.getD "" ++ "%")) = strayReceipts externalEventId :=
    List.filter_eq_self.mpr fun e he => by rw [strayReceipts_event he, h]
  unfold conflictingWebhooks
  dsimp only
  rw [hselected]
  rfl

/-- If the conclusion ignores other payments, the pattern selects none of their receipts. -/
theorem own_of_like (hcompares : Compares provider s caseId case txn providerStatus)
    (hreconcilable : Reconcilable autoResolve s caseId case txn providerStatus)
    (hignores : IgnoresOtherPayments env provider autoResolve caseId
      (providerReference s caseId txn) s)
    (externalEventId : String)
    (hlike : like externalEventId
      ("%" ++ (providerReference s caseId txn).getD "" ++ "%") = true) :
    (providerReference s caseId txn).any (fun ref => isIn ref externalEventId) = true := by
  by_contra hforeign
  have hnone : (strayReceipts externalEventId).filter
      (ownReceipt (providerReference s caseId txn)) = [] := by
    refine List.filter_eq_nil_iff.mpr fun e he => ?_
    unfold ownReceipt
    rw [strayReceipts_event he]
    exact hforeign
  have hsame := hignores [] _ List.Pairwise.nil (strayReceipts_onePerEvent _) hnone.symm
  rw [verdict_eq hcompares hreconcilable, verdict_eq hcompares hreconcilable] at hsame
  have hdiscrepancies := (Prod.mk.inj (Except.ok.inj hsame)).1
  have hconflict : "CONFLICTING_WEBHOOK_EVENT_HISTORY" ∈
      discrepanciesOf { s with webhookEvents := [] } caseId txn providerStatus := by
    rw [hdiscrepancies]
    exact mem_discrepanciesOf.mpr (conflictingWebhooks_stray hlike)
  cases mem_discrepanciesOf.mp hconflict

/-- The conclusion about a case whose reconciliation returns rests on the receipts of its own
payment alone exactly when there is a reference and the pattern takes all of it literally: it has
neither a wildcard nor a letter, whose case the match ignores. -/
theorem ignores_other_payments_iff
    (hcompares : Compares provider s caseId case txn providerStatus)
    (hrun : reconcileCase env provider autoResolve caseId s = .ok (report, t)) :
    IgnoresOtherPayments env provider autoResolve caseId (providerReference s caseId txn) s ↔
      ∃ ref, providerReference s caseId txn = some ref ∧
        ∀ c ∈ ref.toList, isLiteral c = true := by
  obtain ⟨case', txn', providerStatus', hcompares', hreconcilable, -, -⟩ :=
    reconcileCase_eq_ok.mp hrun
  obtain ⟨rfl, rfl, rfl⟩ := hcompares.unique hcompares'
  constructor
  · intro hignores
    rcases href : providerReference s caseId txn with _ | ref
    · have hown := own_of_like hcompares hreconcilable hignores "" (by rw [href]; rfl)
      rw [href] at hown
      cases hown
    · refine ⟨ref, rfl, like_within_eq_isIn_iff.mp fun externalEventId => ?_⟩
      rw [Bool.eq_iff_iff]
      refine ⟨fun hlike => ?_, like_within_of_isIn⟩
      have hown := own_of_like hcompares hreconcilable hignores externalEventId
        (by rw [href]; exact hlike)
      rw [href] at hown
      exact hown
  · rintro ⟨ref, href, hliteral⟩ receipts receipts' - - hown
    have hselects : (fun e : ProviderWebhookEvent => like e.externalEventId ("%" ++ ref ++ "%")) =
        ownReceipt (some ref) := by
      funext e
      exact like_within_eq_isIn_iff.mpr hliteral e.externalEventId
    have hconflict : conflictingWebhooks { s with webhookEvents := receipts } (some ref) =
        conflictingWebhooks { s with webhookEvents := receipts' } (some ref) := by
      rw [href] at hown
      unfold conflictingWebhooks
      dsimp only [Option.getD_some]
      rw [hselects, hown]
    have hdiscrepancies :
        discrepanciesOf { s with webhookEvents := receipts } caseId txn providerStatus =
          discrepanciesOf { s with webhookEvents := receipts' } caseId txn providerStatus := by
      have href' : ∀ webhookEvents, providerReference { s with webhookEvents } caseId txn =
        some ref := fun _ => href
      unfold discrepanciesOf
      rw [href', href', hconflict]
    rw [verdict_eq hcompares hreconcilable, verdict_eq hcompares hreconcilable, hdiscrepancies]

end PaymentReconciliationService

namespace Sample

/-- A payment whose reference is a number. -/
def numbered : Transaction := { transaction .FAILED with externalTransactionId := "4711" }

def numberedDb : Store :=
  { (world .FAILED .VERIFICATION_PENDING).db with transactions := [numbered] }

end Sample

/-- A payment that is known by a number is told from the others. -/
theorem ignores_other_payments_iff_number :
    IgnoresOtherPayments Sample.env (Sample.answering .FAILED) true 0 (some "4711")
      Sample.numberedDb := by
  have href : providerReference Sample.numberedDb 0 Sample.numbered = some "4711" := by
    decide +kernel
  have hcompares := Sample.answering_compares (s := Sample.numberedDb) rfl rfl href .FAILED
  have hruns : ∃ result, reconcileCase Sample.env (Sample.answering .FAILED) true 0
      Sample.numberedDb = .ok result := ⟨_, rfl⟩
  obtain ⟨⟨report, t⟩, hrun⟩ := hruns
  have hliteral : ∀ c ∈ "4711".toList, isLiteral c = true := List.all_eq_true.mp (by decide)
  have hignores := (ignores_other_payments_iff hcompares hrun).mpr ⟨"4711", href, hliteral⟩
  rwa [href] at hignores

/-- Two events of another payment match the pattern of `pay_1`, and the match becomes a conflict. -/
theorem stray_receipts_conflict :
    ((verdict Sample.env (Sample.answering .FAILED) true 0
        (Sample.world .FAILED .VERIFICATION_PENDING).db).toOption = some ([], none, .MATCHED) ∧
      (verdict Sample.env (Sample.answering .FAILED) true 0
        { (Sample.world .FAILED .VERIFICATION_PENDING).db with
          webhookEvents := strayReceipts "evt_PAY51" }).toOption =
        some (["CONFLICTING_WEBHOOK_EVENT_HISTORY"], none, .DISCREPANCY_DETECTED)) ∧
      isIn "pay_1" "evt_PAY51" = false := by
  decide +kernel

end RevenueRescue
