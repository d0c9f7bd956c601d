import RevenueRescue.Refinement.RequestMoves

/-!
# What a reconciliation reports and commits

A reconciliation that got an answer either raises at one of its two inserts or it ends with rows
and a report that are functions of the rows before it and of the answer. The answer and the status
of the transaction choose the new status, the transition that is asked for and the resolution that
is reported; the receipts only decide whether a conflict is reported.
-/

namespace RevenueRescue

open Python

namespace PaymentReconciliationService

variable {env : Env} {provider : StatusProvider} {autoResolve : Bool} {caseId : UUID}
  {case : RecoveryCase} {txn : Transaction} {providerStatus : ExecutionStatus} {s t u : Store}
  {report : ReconciliationReport}

/-! ## What is asked of the two logs -/

/-- The rows let the resolution and the record of the reconciliation through: the table allows the
transition that is asked for, and the numbers of both records are free. -/
structure Reconcilable (autoResolve : Bool) (s : Store) (caseId : UUID) (case : RecoveryCase)
    (txn : Transaction) (providerStatus : ExecutionStatus) : Prop where
  transition : ∀ toState, requestedTransition autoResolve case txn providerStatus = some toState →
    CaseTransitionService.CarriesOut s caseId toState case
  numberFree : match requestedTransition autoResolve case txn providerStatus with
    | some _ => (s.auditsOf caseId).length + 2 ∉
        s.nextTransitionNumber caseId :: s.auditNumbers caseId
    | none => (s.auditsOf caseId).length + 1 ∉ s.auditNumbers caseId

/-- The record of the reconciliation. -/
def reconciledRecord (env : Env) (caseId : UUID) (u : Store) : AuditEvent :=
  { caseId, eventType := "PAYMENT_RECONCILED"
    fromState := (u.recoveryCases[caseId]?).map RecoveryCase.state
    toState := (u.recoveryCases[caseId]?).map RecoveryCase.state
    actorType := .SYSTEM, eventTime := env.now.naive
    sequenceNumber := (u.auditsOf caseId).length + 1 }

theorem recordReconciled_apply (env : Env) (caseId : UUID) (u : Store) :
    recordReconciled env caseId u =
      if (u.auditNumbers caseId).contains ((u.auditsOf caseId).length + 1) then
        .error (.integrityError .uq_audit_case_sequence)
      else .ok ((), { u with auditEvents := u.auditEvents ++ [reconciledRecord env caseId u] }) :=
  insertAudit_apply (reconciledRecord env caseId u) u

/-- A resolution without a transition writes no record. -/
theorem resolvedRows_auditEvents_none
    (hnone : requestedTransition autoResolve case txn providerStatus = none) :
    (resolvedRows env autoResolve s caseId case txn providerStatus).auditEvents =
      s.auditEvents := by
  unfold resolvedRows
  rw [hnone]
  dsimp only
  split
  · exact settledRows_auditEvents
  · exact settledRows_auditEvents

/-- A transition writes one record, under the number of the transition. -/
theorem resolvedRows_auditEvents_some {toState : RecoveryCaseState}
    (hsome : requestedTransition autoResolve case txn providerStatus = some toState) :
    (resolvedRows env autoResolve s caseId case txn providerStatus).auditEvents =
      s.auditEvents ++
        [CaseTransitionService.transitionRecord env s caseId case toState .SYSTEM] := by
  have hnumber : (settledRows autoResolve s case txn providerStatus).nextTransitionNumber caseId =
      s.nextTransitionNumber caseId := by
    unfold Store.nextTransitionNumber Store.transitionNumbers Store.transitionsOf
    rw [settledRows_transitions]
  unfold resolvedRows
  rw [hsome]
  simp only [CaseTransitionService.transitioned, CaseTransitionService.transitionRecord,
    settledRows_auditEvents, hnumber]

/-- The record of the reconciliation finds its number free. -/
theorem resolvedRows_numberFree :
    ((resolvedRows env autoResolve s caseId case txn providerStatus).auditsOf caseId).length + 1 ∉
        (resolvedRows env autoResolve s caseId case txn providerStatus).auditNumbers caseId ↔
      match requestedTransition autoResolve case txn providerStatus with
      | some _ => (s.auditsOf caseId).length + 2 ∉
          s.nextTransitionNumber caseId :: s.auditNumbers caseId
      | none => (s.auditsOf caseId).length + 1 ∉ s.auditNumbers caseId := by
  unfold Store.auditNumbers Store.auditsOf
  rcases hrequested : requestedTransition autoResolve case txn providerStatus with _ | toState
  · rw [resolvedRows_auditEvents_none hrequested]
  · rw [resolvedRows_auditEvents_some hrequested, List.filter_append]
    have hown : [CaseTransitionService.transitionRecord env s caseId case toState
        .SYSTEM].filter (fun a => a.caseId == caseId) =
          [CaseTransitionService.transitionRecord env s caseId case toState .SYSTEM] :=
      List.filter_eq_self.mpr fun a ha => by
        rw [List.mem_singleton.mp ha]
        exact beq_self_eq_true caseId
    rw [hown, List.length_append, List.map_append, List.mem_append]
    simp only [List.length_singleton, List.map_singleton, List.mem_cons, List.not_mem_nil, or_false,
      CaseTransitionService.transitionRecord, Nat.add_assoc, Nat.reduceAdd]
    exact not_congr or_comm

/-! ## Reports -/

/-- The transaction with the status that the resolution gives it. -/
def settledTransaction (autoResolve : Bool) (txn : Transaction)
    (providerStatus : ExecutionStatus) : Transaction :=
  { txn with status := (settledStatus autoResolve txn.status providerStatus).getD txn.status }

/-- Every discrepancy that is found. -/
def discrepanciesOf (s : Store) (caseId : UUID) (txn : Transaction)
    (providerStatus : ExecutionStatus) : List String :=
  (if (providerReference s caseId txn).isNone then ["MISSING_PROVIDER_PAYMENT_REFERENCE"] else []) ++
    (if conflictingWebhooks s (providerReference s caseId txn) then
      ["CONFLICTING_WEBHOOK_EVENT_HISTORY"] else []) ++ differences txn providerStatus

/-- The report about a case and an answer. -/
def reportOf (autoResolve : Bool) (s : Store) (caseId : UUID) (case : RecoveryCase)
    (txn : Transaction) (providerStatus : ExecutionStatus) : ReconciliationReport :=
  { caseId
    transactionId := case.triggerTransactionId
    internalStatus := (settledTransaction autoResolve txn providerStatus).status
    providerStatus
    status := classify (discrepanciesOf s caseId txn providerStatus)
      (reportedAction autoResolve case txn providerStatus)
    discrepancies := discrepanciesOf s caseId txn providerStatus
    resolutionAction := reportedAction autoResolve case txn providerStatus
    providerRef := providerReference s caseId txn
    executionsCount := (s.executionsOf caseId).length }

/-- The rows that a reconciliation commits. -/
def reconciledRows (env : Env) (autoResolve : Bool) (s : Store) (caseId : UUID)
    (case : RecoveryCase) (txn : Transaction) (providerStatus : ExecutionStatus) : Store :=
  let resolved := resolvedRows env autoResolve s caseId case txn providerStatus
  { resolved with auditEvents := resolved.auditEvents ++ [reconciledRecord env caseId resolved] }

/-- A resolution touches no transaction but that of the case. -/
theorem resolvedRows_transactions :
    (resolvedRows env autoResolve s caseId case txn providerStatus).transactions =
      match settledStatus autoResolve txn.status providerStatus with
      | some status => s.transactions.modify case.triggerTransactionId fun t => { t with status }
      | none => s.transactions := by
  have hsettled : (resolvedRows env autoResolve s caseId case txn providerStatus).transactions =
      (settledRows autoResolve s case txn providerStatus).transactions := by
    unfold resolvedRows
    cases requestedTransition autoResolve case txn providerStatus with
    | some toState => rfl
    | none =>
      dsimp only
      split <;> rfl
  rw [hsettled]
  unfold settledRows
  cases settledStatus autoResolve txn.status providerStatus <;> rfl

theorem resolvedRows_transaction (htxn : s.transactions[case.triggerTransactionId]? = some txn) :
    (resolvedRows env autoResolve s caseId case txn providerStatus).transactions[
      case.triggerTransactionId]? = some (settledTransaction autoResolve txn providerStatus) := by
  rw [resolvedRows_transactions]
  unfold settledTransaction
  cases settledStatus autoResolve txn.status providerStatus with
  | none => exact htxn
  | some status =>
    dsimp only
    rw [List.getElem?_modify_eq, htxn]
    rfl

/-- The case after the resolution. -/
def resolvedCase (env : Env) (autoResolve : Bool) (case : RecoveryCase) (txn : Transaction)
    (providerStatus : ExecutionStatus) : RecoveryCase :=
  match requestedTransition autoResolve case txn providerStatus with
  | some toState => CaseTransitionService.applyTransition env toState case
  | none =>
    if Settles autoResolve case txn providerStatus then assignRecovered env case else case

theorem resolvedRows_case (hcase : s.recoveryCases[caseId]? = some case) :
    (resolvedRows env autoResolve s caseId case txn providerStatus).recoveryCases[caseId]? =
      some (resolvedCase env autoResolve case txn providerStatus) := by
  unfold resolvedRows resolvedCase
  cases requestedTransition autoResolve case txn providerStatus with
  | some toState =>
    dsimp only [CaseTransitionService.transitioned, Store.modifyCase]
    rw [List.getElem?_modify_eq, settledRows_recoveryCases, hcase]
    rfl
  | none =>
    dsimp only
    split_ifs
    · dsimp only [Store.modifyCase]
      rw [List.getElem?_modify_eq, settledRows_recoveryCases, hcase]
      rfl
    · rw [settledRows_recoveryCases, hcase]

theorem resolvedCase_trigger :
    (resolvedCase env autoResolve case txn providerStatus).triggerTransactionId =
      case.triggerTransactionId := by
  unfold resolvedCase
  split
  · rfl
  · split_ifs <;> rfl

/-- The outcome of a reconciliation as a function of the rows and the answer. -/
theorem reconcileCase_eq_ok :
    reconcileCase env provider autoResolve caseId s = .ok (report, t) ↔
      ∃ case txn providerStatus, Compares provider s caseId case txn providerStatus ∧
        Reconcilable autoResolve s caseId case txn providerStatus ∧
        report = reportOf autoResolve s caseId case txn providerStatus ∧
        t = reconciledRows env autoResolve s caseId case txn providerStatus := by
  unfold reconcileCase
  rw [Tx.get_bind_apply]
  constructor
  · intro h
    rcases hcase : s.recoveryCases[caseId]? with _ | case
    · rw [hcase] at h
      cases h
    rw [hcase] at h
    dsimp only at h
    rcases htxn : s.transactions[case.triggerTransactionId]? with _ | txn
    · rw [htxn] at h
      cases h
    rw [htxn] at h
    dsimp only at h
    rcases hanswer : providerStatusOf provider (providerReference s caseId txn)
      with fault | providerStatus
    · rw [hanswer] at h
      cases h
    rw [hanswer] at h
    obtain ⟨⟨found, action⟩, u, hcompare, h⟩ := Tx.bind_eq_ok.mp h
    obtain ⟨hcarries, hresult, rfl⟩ := (compareAndResolve_eq_ok hcase).mp hcompare
    cases hresult
    obtain ⟨_, v, hrecord, h⟩ := Tx.bind_eq_ok.mp h
    rw [recordReconciled_apply] at hrecord
    split at hrecord
    · cases hrecord
    next hfree =>
      cases hrecord
      rw [Tx.get_bind_apply] at h
      cases h
      have hnumber := resolvedRows_numberFree.mp fun hmem => hfree (List.contains_iff_mem.mpr hmem)
      refine ⟨case, txn, providerStatus, ⟨hcase, htxn, hanswer⟩, ⟨hcarries, hnumber⟩, ?_, rfl⟩
      unfold reportOf
      rw [resolvedRows_transaction htxn]
      rfl
  · rintro ⟨case, txn, providerStatus, ⟨hcase, htxn, hanswer⟩, ⟨hcarries, hnumber⟩, rfl, rfl⟩
    have hcompare : compareAndResolve env autoResolve caseId case txn providerStatus s =
        .ok ((differences txn providerStatus, reportedAction autoResolve case txn providerStatus),
          resolvedRows env autoResolve s caseId case txn providerStatus) :=
      (compareAndResolve_eq_ok hcase).mpr ⟨hcarries, rfl, rfl⟩
    have hrecord : recordReconciled env caseId
        (resolvedRows env autoResolve s caseId case txn providerStatus) =
          .ok ((), reconciledRows env autoResolve s caseId case txn providerStatus) := by
      rw [recordReconciled_apply]
      exact if_neg fun hmem =>
        resolvedRows_numberFree.mpr hnumber (List.contains_iff_mem.mp hmem)
    have hafter : (reconciledRows env autoResolve s caseId case txn providerStatus).transactions[
        case.triggerTransactionId]? = some (settledTransaction autoResolve txn providerStatus) :=
      resolvedRows_transaction htxn
    rw [hcase]
    dsimp only
    rw [htxn]
    dsimp only
    rw [hanswer]
    refine Tx.bind_eq_ok.mpr ⟨_, _, hcompare, Tx.bind_eq_ok.mpr ⟨(), _, hrecord, ?_⟩⟩
    rw [Tx.get_bind_apply, hafter]
    rfl

end PaymentReconciliationService

end RevenueRescue
