import Mathlib.Data.List.Sigma
import RevenueRescue.Refinement.Journal
import RevenueRescue.Refinement.Resolutions

/-!
# What a reconciliation touches and reports

A reconciliation moves no case but its own, and no transaction becomes unresolved by it. So a
batch finds each of its cases as it selected them, and the evidence that the provider gives
for a case can be read off the rows before the batch. Its report is classified by the
discrepancies it found, which depend on the rows before it and on the answer alone.
-/

namespace RevenueRescue

open Python

variable {s t : Store} {caseId : UUID}

namespace PaymentReconciliationService

/-- Only one case is touched, and an unresolved transaction was unresolved before. -/
structure Touches (caseId : UUID) (s t : Store) : Prop where
  others : ∀ other, other ≠ caseId → t.recoveryCases[other]? = s.recoveryCases[other]?
  unresolved : Table.Evolves (fun before after => Unresolved after → Unresolved before)
    s.transactions t.transactions

instance : Std.Refl fun before after : Transaction => Unresolved after → Unresolved before :=
  ⟨fun _ h => h⟩

instance : IsTrans Transaction fun before after => Unresolved after → Unresolved before :=
  ⟨fun _ _ _ h h' hc => h (h' hc)⟩

instance : Std.Refl (Touches caseId) := ⟨fun _ => ⟨fun _ _ => rfl, .refl _⟩⟩

instance : IsTrans Store (Touches caseId) where
  trans _ _ _ h h' :=
    { others := fun other hne => (h'.others other hne).trans (h.others other hne)
      unresolved := h.unresolved.trans h'.unresolved }

theorem Touches.of_same (hcases : t.recoveryCases = s.recoveryCases)
    (htransactions : t.transactions = s.transactions) : Touches caseId s t := by
  refine ⟨fun _ _ => by rw [hcases], ?_⟩
  rw [htransactions]
  exact .refl _

theorem Touches.modifyCase (f : RecoveryCase → RecoveryCase) :
    Touches caseId s (s.modifyCase caseId f) := by
  refine ⟨fun other hne => ?_, .refl _⟩
  simp [Store.modifyCase, hne.symm]

theorem insertAudit_touches (row : AuditEvent) :
    Tx.Respects (Touches caseId) s (insertAudit row) := by
  refine .of_ok fun _ _ h => ?_
  rw [insertAudit_ok h]
  exact .of_same rfl rfl

theorem transition_touches (env : Env) (toState : RecoveryCaseState) (reasonCode : String)
    (actorType : ActorType) :
    Tx.Respects (Touches caseId) s
      (CaseTransitionService.transition env caseId toState reasonCode actorType) := by
  refine .get_bind ?_
  rcases s.recoveryCases[caseId]? with _ | case
  · exact .of_throw
  refine .ite (fun _ => ?_) fun _ => .of_throw
  refine .modify_bind (.modifyCase _) (.bind ?_ fun _ _ _ _ => ?_)
  · refine .of_ok fun _ _ h => ?_
    rw [insertTransition_ok h]
    exact .of_same rfl rfl
  · exact .bind (insertAudit_touches _) fun _ _ _ _ => .of_pure _

theorem resolveToSucceeded_touches (env : Env) (case : RecoveryCase) :
    Tx.Respects (Touches caseId) s (resolveToSucceeded env caseId case) := by
  have hsettled : Touches caseId s (s.modifyTransaction case.triggerTransactionId fun t =>
      { t with status := .SUCCEEDED }) :=
    ⟨fun _ _ => rfl, .modify _ _ _ fun _ _ h => by simp [Unresolved] at h⟩
  refine .modify_bind hsettled (.ite (fun _ => .ite (fun _ => ?_) fun _ => ?_) fun _ => .of_pure _)
  · exact .bind (transition_touches ..) fun _ _ _ _ => .of_pure _
  · exact .of_modify (.modifyCase _)

theorem resolveToFailed_touches {env : Env} {case : RecoveryCase} {txn : Transaction}
    (htxn : s.transactions[case.triggerTransactionId]? = some txn) (hpending : txn.status = .PENDING) :
    Tx.Respects (Touches caseId) s (resolveToFailed env caseId case) := by
  have hfailed : Touches caseId s (s.modifyTransaction case.triggerTransactionId fun t =>
      { t with status := .FAILED }) := by
    refine ⟨fun _ _ => rfl, .modify _ _ _ fun row hrow _ => ?_⟩
    obtain rfl : txn = row := Option.some.inj (htxn.symm.trans hrow)
    simp [Unresolved, hpending]
  refine .modify_bind hfailed (.ite (fun _ => ?_) fun _ => .of_pure _)
  exact .bind (transition_touches ..) fun _ _ _ _ => .of_pure _

theorem compareAndResolve_touches {env : Env} {autoResolve : Bool} {case : RecoveryCase}
    {txn : Transaction} {providerStatus : ExecutionStatus}
    (htxn : s.transactions[case.triggerTransactionId]? = some txn) :
    Tx.Respects (Touches caseId) s
      (compareAndResolve env autoResolve caseId case txn providerStatus) := by
  unfold compareAndResolve
  refine .ite (fun _ => ?_) fun _ => .ite (fun hfailed => ?_) fun _ =>
    .ite (fun _ => ?_) fun _ => .of_pure _
  · refine .ite (fun _ => ?_) fun _ => .of_pure _
    exact .bind (resolveToSucceeded_touches ..) fun _ _ _ _ => .of_pure _
  · refine .ite (fun _ => ?_) fun _ => .of_pure _
    exact .bind (resolveToFailed_touches htxn hfailed.1) fun _ _ _ _ => .of_pure _
  · refine .ite (fun _ => ?_) fun _ => .of_pure _
    exact .bind (transition_touches ..) fun _ _ _ _ => .of_pure _

theorem reconcileCase_touches (env : Env) (provider : StatusProvider) (autoResolve : Bool) :
    Tx.Respects (Touches caseId) s (reconcileCase env provider autoResolve caseId) := by
  refine .get_bind ?_
  rcases hcase : s.recoveryCases[caseId]? with _ | case
  · exact .of_throw
  dsimp only
  rcases htxn : s.transactions[case.triggerTransactionId]? with _ | txn
  · exact .of_throw
  dsimp only
  rcases providerStatusOf provider (providerReference s caseId txn) with fault | providerStatus
  · exact .of_throw
  refine .bind (compareAndResolve_touches htxn) fun _ _ _ _ => ?_
  exact .bind (.get_bind (insertAudit_touches _)) fun _ _ _ _ => .get_bind (.of_pure _)

/-! ## Reports -/

theorem differences_ne_nil {txn : Transaction} {providerStatus : ExecutionStatus} :
    differences txn providerStatus ≠ [] ↔ (Unresolved txn ∧ providerStatus = .SUCCEEDED) ∨
      (txn.status = .PENDING ∧ providerStatus = .FAILED) ∨ providerStatus = .UNKNOWN := by
  unfold differences
  split_ifs with hsucceeded hfailed hunknown
  · exact iff_of_true (List.cons_ne_nil _ _) (.inl hsucceeded)
  · exact iff_of_true (List.cons_ne_nil _ _) (.inr (.inl hfailed))
  · exact iff_of_true (List.cons_ne_nil _ _) (.inr (.inr hunknown))
  · refine iff_of_false (fun h => h rfl) ?_
    rintro (h | h | h)
    · exact hsucceeded h
    · exact hfailed h
    · exact hunknown h

/-- Whether a difference is resolved or not, it is found. -/
theorem compareAndResolve_found {env : Env} {autoResolve : Bool} {case : RecoveryCase}
    {txn : Transaction} {providerStatus : ExecutionStatus} {found : List String}
    {resolutionAction : Option String}
    (h : compareAndResolve env autoResolve caseId case txn providerStatus s =
      .ok ((found, resolutionAction), t)) : found = differences txn providerStatus := by
  rw [compareAndResolve_apply] at h
  rcases hrequested : requestedTransition autoResolve case txn providerStatus with _ | toState
  · rw [hrequested] at h
    cases h
    rfl
  · rw [hrequested] at h
    obtain ⟨_, u, -, h⟩ := Tx.bind_eq_ok.mp h
    cases h
    rfl

theorem classify_eq_matched {discrepancies : List String} {resolutionAction : Option String} :
    classify discrepancies resolutionAction = .MATCHED ↔ discrepancies = [] := by
  unfold classify
  rcases discrepancies with _ | ⟨first, rest⟩
  · exact iff_of_true rfl rfl
  · refine iff_of_false ?_ (List.cons_ne_nil _ _)
    rw [List.isEmpty_cons, if_neg Bool.false_ne_true]
    rcases resolutionAction with _ | action
    · exact fun h => by cases h
    · dsimp only
      split_ifs <;> exact fun h => by cases h

/-- A finished reconciliation asked about the reference it reports, and it reports a match when
there is a reference, no conflict among its receipts and no difference. -/
theorem reconcileCase_ok {env : Env} {provider : StatusProvider} {autoResolve : Bool}
    {report : ReconciliationReport}
    (h : reconcileCase env provider autoResolve caseId s = .ok (report, t)) :
    ∃ case txn, Compares provider s caseId case txn report.providerStatus ∧
      report.providerRef = providerReference s caseId txn ∧
      (report.status = .MATCHED ↔ report.providerRef.isSome = true ∧
        conflictingWebhooks s report.providerRef = false ∧
        differences txn report.providerStatus = []) := by
  unfold reconcileCase at h
  rw [Tx.get_bind_apply] at h
  rcases hcase : s.recoveryCases[caseId]? with _ | case
  · rw [hcase] at h
    cases h
  rw [hcase] at h
  dsimp only at h
  rcases htxn : s.transactions[case.triggerTransactionId]? with _ | txn
  · rw [htxn] at h
    cases h
  rw [htxn] at h
  dsimp only at h
  rcases hanswer : providerStatusOf provider (providerReference s caseId txn)
    with fault | providerStatus
  · rw [hanswer] at h
    cases h
  rw [hanswer] at h
  obtain ⟨⟨found, resolutionAction⟩, u, hcompare, h⟩ := Tx.bind_eq_ok.mp h
  obtain rfl := compareAndResolve_found hcompare
  obtain ⟨_, v, -, h⟩ := Tx.bind_eq_ok.mp h
  rw [Tx.get_bind_apply] at h
  cases h
  refine ⟨case, txn, ⟨hcase, htxn, hanswer⟩, rfl, classify_eq_matched.trans ?_⟩
  dsimp only
  rw [List.append_eq_nil_iff, List.append_eq_nil_iff, and_assoc]
  rcases providerReference s caseId txn with _ | ref
  · simp
  · simp

/-! ## Batches -/

/-- The rule for a batch: what holds before a reconciliation, together with the cases still to
come, holds after it with one case less. -/
theorem reconcileEach_rule {env : Env} {provider : UUID → StatusProvider}
    {P : List UUID → Store → Prop} {I : Store → Prop} (hstop : ∀ rest u, P rest u → I u)
    (hstep : ∀ caseId rest u report v, P (caseId :: rest) u →
      reconcileCase env (provider caseId) true caseId u = .ok (report, v) → P rest v)
    (caseIds : List UUID) {s : Store} (hs : P caseIds s) :
    I (reconcileEach env provider caseIds s).1 := by
  induction caseIds generalizing s with
  | nil => exact hstop [] s hs
  | cons caseId rest ih =>
    unfold reconcileEach
    rcases hrun : reconcileCase env (provider caseId) true caseId s with fault | ⟨report, t⟩
    · exact hstop _ s hs
    · exact ih (hstep caseId rest s report t hs hrun)

/-- A batch selects cases that wait for their verification. -/
theorem mem_pendingCases {limit : ℕ} (h : caseId ∈ pendingCases s limit) :
    ∃ case, s.recoveryCases[caseId]? = some case ∧ case.state = .VERIFICATION_PENDING := by
  obtain ⟨⟨case, id⟩, hentry, rfl⟩ := List.mem_map.mp h
  have hsorted := List.mem_of_mem_take hentry
  rw [List.mem_insertionSort, List.mem_filter, List.mem_zipIdx_iff_getElem?, beq_iff_eq] at hsorted
  exact ⟨case, hsorted.1, hsorted.2⟩

/-- A batch selects no case twice. -/
theorem pendingCases_nodup (s : Store) (limit : ℕ) : (pendingCases s limit).Nodup := by
  have hall : (s.recoveryCases.zipIdx.map Prod.snd).Nodup := List.nodup_zipIdx_map_snd _
  have hfiltered : ((s.recoveryCases.zipIdx.filter fun entry =>
      entry.1.state == .VERIFICATION_PENDING).map Prod.snd).Nodup :=
    hall.sublist (List.filter_sublist.map _)
  have hsorted : (((s.recoveryCases.zipIdx.filter fun entry =>
      entry.1.state == .VERIFICATION_PENDING).insertionSort fun a b =>
        a.1.lastStateChangedAt.wall ≤ b.1.lastStateChangedAt.wall).map Prod.snd).Nodup :=
    ((List.perm_insertionSort _ _).map _).nodup_iff.mpr hfiltered
  exact hsorted.sublist ((List.take_sublist _ _).map _)

end PaymentReconciliationService

end RevenueRescue
