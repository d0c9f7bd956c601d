import RevenueRescue.Refinement.Reports

/-!
# The cases of a batch in their turn

A batch reconciles its cases one after the other. What a case finds in its turn differs from the
rows before the batch in one thing only: the status of its transaction, where an earlier case of the
same transaction has settled it. So the rows at each turn can be told from the rows before the batch
and the answers of the provider, and a batch ends normally when each of its cases, in its turn,
would.
-/

namespace RevenueRescue

open Python

namespace PaymentReconciliationService

variable {env : Env} {provider : UUID → StatusProvider} {caseId : UUID} {case : RecoveryCase}
  {txn : Transaction} {providerStatus : ExecutionStatus} {s t u v : Store}
  {report : ReconciliationReport} {reports : List ReconciliationReport}

/-! ## The rows of one case -/

/-- A case, its transaction and its logs are the same. -/
structure SameCase (caseId : UUID) (s t : Store) : Prop where
  caseRow : t.recoveryCases[caseId]? = s.recoveryCases[caseId]?
  transaction : ∀ case, s.recoveryCases[caseId]? = some case →
    t.transactions[case.triggerTransactionId]? = s.transactions[case.triggerTransactionId]?
  transitions : t.transitionsOf caseId = s.transitionsOf caseId
  audits : t.auditsOf caseId = s.auditsOf caseId

/-- The rows agree on everything that a reconciliation of the case reads. -/
structure Agrees (caseId : UUID) (s t : Store) : Prop extends SameCase caseId s t where
  executions : t.executions = s.executions
  webhookEvents : t.webhookEvents = s.webhookEvents

theorem Agrees.refl (caseId : UUID) (s : Store) : Agrees caseId s s :=
  ⟨⟨rfl, fun _ _ => rfl, rfl, rfl⟩, rfl, rfl⟩

theorem SameCase.trans (h : SameCase caseId s t) (h' : SameCase caseId t u) :
    SameCase caseId s u :=
  { caseRow := h'.caseRow.trans h.caseRow
    transaction := fun case hcase =>
      (h'.transaction case (h.caseRow.trans hcase)).trans (h.transaction case hcase)
    transitions := h'.transitions.trans h.transitions
    audits := h'.audits.trans h.audits }

theorem SameCase.symm (h : SameCase caseId s t) : SameCase caseId t s :=
  { caseRow := h.caseRow.symm
    transaction := fun case hcase => (h.transaction case (h.caseRow.symm.trans hcase)).symm
    transitions := h.transitions.symm
    audits := h.audits.symm }

theorem Agrees.trans (h : Agrees caseId s t) (h' : Agrees caseId t u) : Agrees caseId s u :=
  ⟨h.toSameCase.trans h'.toSameCase, h'.executions.trans h.executions,
    h'.webhookEvents.trans h.webhookEvents⟩

theorem Agrees.symm (h : Agrees caseId s t) : Agrees caseId t s :=
  ⟨h.toSameCase.symm, h.executions.symm, h.webhookEvents.symm⟩

theorem Agrees.reference_eq (h : Agrees caseId s t) :
    providerReference t caseId txn = providerReference s caseId txn := by
  unfold providerReference Store.executionsOf
  rw [h.executions]

theorem Agrees.compares (h : Agrees caseId s t) {answers : StatusProvider}
    (hcompares : Compares answers s caseId case txn providerStatus) :
    Compares answers t caseId case txn providerStatus := by
  obtain ⟨hcase, htxn, hanswer⟩ := hcompares
  refine ⟨h.caseRow.trans hcase, (h.transaction case hcase).trans htxn, ?_⟩
  rw [h.reference_eq]
  exact hanswer

theorem SameCase.nextTransitionNumber (h : SameCase caseId s t) :
    t.nextTransitionNumber caseId = s.nextTransitionNumber caseId := by
  unfold Store.nextTransitionNumber Store.transitionNumbers
  rw [h.transitions]

theorem SameCase.auditNumbers (h : SameCase caseId s t) :
    t.auditNumbers caseId = s.auditNumbers caseId := by
  unfold Store.auditNumbers
  rw [h.audits]

theorem SameCase.reconcilable (h : SameCase caseId s t) {autoResolve : Bool}
    (hreconcilable : Reconcilable autoResolve s caseId case txn providerStatus) :
    Reconcilable autoResolve t caseId case txn providerStatus := by
  constructor
  · intro toState hrequested
    obtain ⟨hcase, hallowed, hfree⟩ := hreconcilable.transition toState hrequested
    refine ⟨h.caseRow.trans hcase, hallowed, ?_⟩
    rw [h.nextTransitionNumber, h.auditNumbers]
    exact hfree
  · rw [h.nextTransitionNumber, h.auditNumbers, h.audits]
    exact hreconcilable.numberFree

theorem Agrees.report_eq (h : Agrees caseId s t) (autoResolve : Bool) (case : RecoveryCase)
    (txn : Transaction) (providerStatus : ExecutionStatus) :
    reportOf autoResolve t caseId case txn providerStatus =
      reportOf autoResolve s caseId case txn providerStatus := by
  unfold reportOf discrepanciesOf conflictingWebhooks
  rw [h.reference_eq, h.webhookEvents]
  unfold Store.executionsOf
  rw [h.executions]

/-! ## What one reconciliation writes -/

/-- The entry that a resolution adds to the transition log. -/
theorem resolvedRows_transitionsOf (autoResolve : Bool) :
    (resolvedRows env autoResolve s caseId case txn providerStatus).transitionsOf caseId =
      s.transitionsOf caseId ++
        (requestedTransition autoResolve case txn providerStatus).toList.map fun toState =>
          CaseTransitionService.transitionEntry env s caseId case toState
            (requestedReason toState) .SYSTEM := by
  unfold resolvedRows
  cases requestedTransition autoResolve case txn providerStatus with
  | none =>
    have hsame : (settledRows autoResolve s case txn providerStatus).transitionsOf caseId =
        s.transitionsOf caseId := by
      unfold Store.transitionsOf
      rw [settledRows_transitions]
    rw [Option.toList_none, List.map_nil, List.append_nil, ← hsame]
    dsimp only
    split_ifs <;> rfl
  | some toState =>
    have hnumber : (settledRows autoResolve s case txn providerStatus).nextTransitionNumber caseId =
        s.nextTransitionNumber caseId := by
      unfold Store.nextTransitionNumber Store.transitionNumbers Store.transitionsOf
      rw [settledRows_transitions]
    have hentry : CaseTransitionService.transitionEntry env
        (settledRows autoResolve s case txn providerStatus) caseId case toState
          (requestedReason toState) .SYSTEM =
        CaseTransitionService.transitionEntry env s caseId case toState
          (requestedReason toState) .SYSTEM := by
      unfold CaseTransitionService.transitionEntry
      rw [hnumber]
    dsimp only [CaseTransitionService.transitioned, Store.transitionsOf]
    rw [settledRows_transitions, hentry, List.filter_append]
    congr 1
    exact List.filter_eq_self.mpr fun row hrow => by
      rw [List.mem_singleton.mp hrow]
      exact beq_self_eq_true caseId

/-- The records that a resolution adds to the audit log. -/
theorem resolvedRows_auditsOf (autoResolve : Bool) :
    (resolvedRows env autoResolve s caseId case txn providerStatus).auditsOf caseId =
      s.auditsOf caseId ++
        (requestedTransition autoResolve case txn providerStatus).toList.map fun toState =>
          CaseTransitionService.transitionRecord env s caseId case toState .SYSTEM := by
  unfold Store.auditsOf
  rcases hrequested : requestedTransition autoResolve case txn providerStatus with _ | toState
  · rw [resolvedRows_auditEvents_none hrequested, Option.toList_none, List.map_nil,
      List.append_nil]
  · rw [resolvedRows_auditEvents_some hrequested, List.filter_append]
    congr 1
    exact List.filter_eq_self.mpr fun row hrow => by
      rw [List.mem_singleton.mp hrow]
      exact beq_self_eq_true caseId

theorem reconciledRows_auditsOf (autoResolve : Bool) :
    (reconciledRows env autoResolve s caseId case txn providerStatus).auditsOf caseId =
      (resolvedRows env autoResolve s caseId case txn providerStatus).auditsOf caseId ++
        [reconciledRecord env caseId
          (resolvedRows env autoResolve s caseId case txn providerStatus)] := by
  unfold reconciledRows Store.auditsOf
  dsimp only
  rw [List.filter_append]
  congr 1
  exact List.filter_eq_self.mpr fun row hrow => by
    rw [List.mem_singleton.mp hrow]
    exact beq_self_eq_true caseId

/-- On rows that agree, a reconciliation leaves the same case. -/
theorem Agrees.reconciled (h : Agrees caseId s t) (autoResolve : Bool)
    {answers : StatusProvider} (hcompares : Compares answers s caseId case txn providerStatus) :
    SameCase caseId (reconciledRows env autoResolve s caseId case txn providerStatus)
      (reconciledRows env autoResolve t caseId case txn providerStatus) := by
  obtain ⟨hcase, htxn, -⟩ := hcompares
  have hcase' := h.caseRow.trans hcase
  have hresolved : (resolvedRows env autoResolve t caseId case txn
      providerStatus).auditsOf caseId =
        (resolvedRows env autoResolve s caseId case txn providerStatus).auditsOf caseId := by
    rw [resolvedRows_auditsOf, resolvedRows_auditsOf, h.audits]
    unfold CaseTransitionService.transitionRecord
    rw [h.nextTransitionNumber]
  constructor
  · exact (resolvedRows_case hcase').trans (resolvedRows_case hcase).symm
  · intro moved hmoved
    have hresolution : (reconciledRows env autoResolve s caseId case txn
        providerStatus).recoveryCases[caseId]? =
          some (resolvedCase env autoResolve case txn providerStatus) := resolvedRows_case hcase
    obtain rfl := Option.some.inj (hresolution.symm.trans hmoved)
    rw [resolvedCase_trigger]
    exact (resolvedRows_transaction ((h.transaction case hcase).trans htxn)).trans
      (resolvedRows_transaction htxn).symm
  · refine (resolvedRows_transitionsOf (s := t) autoResolve).trans
      (Eq.trans ?_ (resolvedRows_transitionsOf (s := s) autoResolve).symm)
    unfold CaseTransitionService.transitionEntry
    rw [h.transitions, h.nextTransitionNumber]
  · rw [reconciledRows_auditsOf, reconciledRows_auditsOf, hresolved]
    unfold reconciledRecord
    rw [hresolved, resolvedRows_case hcase, resolvedRows_case hcase']

/-- Another case keeps its row and its logs. -/
structure KeepsCase (caseId : UUID) (s t : Store) : Prop where
  caseRow : t.recoveryCases[caseId]? = s.recoveryCases[caseId]?
  transitions : t.transitionsOf caseId = s.transitionsOf caseId
  audits : t.auditsOf caseId = s.auditsOf caseId

theorem KeepsCase.of_other {answers : StatusProvider} {autoResolve : Bool} {other : UUID}
    (hne : caseId ≠ other)
    (hrun : reconcileCase env answers autoResolve other s = .ok (report, t)) :
    KeepsCase caseId s t := by
  have htouches : Touches other s t := (reconcileCase_touches env answers autoResolve).related hrun
  have haside : Aside other s t := reconcileCase_aside.related hrun
  exact ⟨htouches.others caseId hne, haside.transitions caseId hne, haside.audits caseId hne⟩

/-! ## Transactions in the course of a batch -/

/-- The reconciliation of the case meets this transaction, and the answer settles it. -/
def Rewrites (provider : UUID → StatusProvider) (s : Store) (caseId txId : UUID) : Prop :=
  ∃ case txn providerStatus, Compares (provider caseId) s caseId case txn providerStatus ∧
    case.triggerTransactionId = txId ∧ settledStatus true txn.status providerStatus ≠ none

/-- The rows with the transaction of the case as its reconciliation leaves it. -/
def settle (provider : UUID → StatusProvider) (s : Store) (caseId : UUID) : Store :=
  match s.recoveryCases[caseId]? with
  | some case =>
    match s.transactions[case.triggerTransactionId]? with
    | some txn =>
      match providerStatusOf (provider caseId) (providerReference s caseId txn) with
      | .ok providerStatus => settledRows true s case txn providerStatus
      | .error _ => s
    | none => s
  | none => s

/-- The rows with the transactions as the cases leave them in their turn. -/
def settledBy (provider : UUID → StatusProvider) (s : Store) (caseIds : List UUID) : Store :=
  Run.after (settle provider) s caseIds

theorem settle_of_compares
    (h : Compares (provider caseId) s caseId case txn providerStatus) :
    settle provider s caseId = settledRows true s case txn providerStatus := by
  obtain ⟨hcase, htxn, hanswer⟩ := h
  unfold settle
  rw [hcase]
  dsimp only
  rw [htxn]
  dsimp only
  rw [hanswer]

/-- A case without an answer settles nothing. -/
theorem settle_cases (provider : UUID → StatusProvider) (s : Store) (caseId : UUID) :
    settle provider s caseId = s ∨ ∃ case txn providerStatus,
      Compares (provider caseId) s caseId case txn providerStatus := by
  unfold settle
  rcases hcase : s.recoveryCases[caseId]? with _ | case
  · exact .inl rfl
  dsimp only
  rcases htxn : s.transactions[case.triggerTransactionId]? with _ | txn
  · exact .inl rfl
  dsimp only
  rcases hanswer : providerStatusOf (provider caseId) (providerReference s caseId txn)
    with fault | providerStatus
  · exact .inl rfl
  · exact .inr ⟨case, txn, providerStatus, hcase, htxn, hanswer⟩

/-- How far a payment is decided. -/
def rank : TransactionStatus → ℕ
  | .PENDING => 0
  | .FAILED => 1
  | _ => 2

/-- Settling decides more. -/
theorem rank_lt_of_settledStatus {status settled : TransactionStatus}
    (h : settledStatus true status providerStatus = some settled) : rank status < rank settled := by
  unfold settledStatus at h
  rw [if_pos rfl] at h
  split_ifs at h with hsucceeded hfailed
  · obtain rfl := Option.some.inj h
    rcases List.mem_cons.mp hsucceeded.1 with rfl | hpending
    · decide
    · rw [List.mem_singleton.mp hpending]
      decide
  · obtain rfl := Option.some.inj h
    rw [hfailed.1]
    decide

/-- The status alone changes, and only to a more decided one. -/
def MoreDecided (before after : Transaction) : Prop :=
  after = { before with status := after.status } ∧
    (after.status = before.status ∨ rank before.status < rank after.status)

instance : Std.Refl MoreDecided := ⟨fun _ => ⟨rfl, .inl rfl⟩⟩

instance : IsTrans Transaction MoreDecided where
  trans a b c h h' := by
    obtain ⟨hb, hstatus⟩ := h
    obtain ⟨hc, hstatus'⟩ := h'
    refine ⟨?_, ?_⟩
    · rw [hc, hb]
    · rcases hstatus with hsame | hlt
      · rw [← hsame]
        exact hstatus'
      · rcases hstatus' with hsame' | hlt'
        · rw [hsame']
          exact .inr hlt
        · exact .inr (hlt.trans hlt')

theorem MoreDecided.rank_le {before after : Transaction} (h : MoreDecided before after) :
    rank before.status ≤ rank after.status := by
  rcases h.2 with hsame | hlt
  · rw [hsame]
  · exact hlt.le

/-- A transaction that is not more decided than before is as before. -/
theorem MoreDecided.eq_of_rank_le {before after : Transaction} (h : MoreDecided before after)
    (hrank : rank after.status ≤ rank before.status) : after = before := by
  rcases h.2 with hsame | hlt
  · rw [h.1, hsame]
  · omega

/-- One case decides its transaction or leaves it. -/
theorem settle_evolves (provider : UUID → StatusProvider) (s : Store) (caseId : UUID) :
    Table.Evolves MoreDecided s.transactions (settle provider s caseId).transactions := by
  rcases settle_cases provider s caseId with hsame | ⟨case, txn, providerStatus, hcompares⟩
  · rw [hsame]
    exact .refl _
  rw [settle_of_compares hcompares]
  unfold settledRows
  rcases hsettled : settledStatus true txn.status providerStatus with _ | status
  · exact .refl _
  · refine .modify _ _ _ fun row hrow => ⟨rfl, .inr ?_⟩
    obtain rfl : txn = row := Option.some.inj (hcompares.2.1.symm.trans hrow)
    exact rank_lt_of_settledStatus hsettled

theorem settledBy_evolves (provider : UUID → StatusProvider) (s : Store)
    (caseIds later : List UUID) :
    Table.Evolves MoreDecided (settledBy provider s caseIds).transactions
      (settledBy provider s (caseIds ++ later)).transactions := by
  unfold settledBy
  rw [Run.after_append]
  exact Run.preorder
    (R := fun s t : Store => Table.Evolves MoreDecided s.transactions t.transactions)
    (fun _ => .refl _) (fun _ _ _ h h' => Table.Evolves.trans h h')
    (fun s c => settle_evolves provider s c) _ _

/-- The transaction of a case that gets an answer, as the case leaves it. -/
theorem settle_transaction (h : Compares (provider caseId) s caseId case txn providerStatus) :
    (settle provider s caseId).transactions[case.triggerTransactionId]? =
      some (settledTransaction true txn providerStatus) := by
  rw [settle_of_compares h]
  unfold settledRows settledTransaction
  rcases settledStatus true txn.status providerStatus with _ | status
  · exact h.2.1
  · dsimp only [Store.modifyTransaction]
    rw [List.getElem?_modify_eq, h.2.1]
    rfl

/-- A case that settles its transaction leaves it more decided. -/
theorem Rewrites.settles {txId : UUID} (h : Rewrites provider s caseId txId) :
    ∃ before after, s.transactions[txId]? = some before ∧
      (settle provider s caseId).transactions[txId]? = some after ∧
      rank before.status < rank after.status := by
  obtain ⟨case, txn, providerStatus, hcompares, rfl, hsettles⟩ := h
  obtain ⟨status, hsettled⟩ := Option.ne_none_iff_exists'.mp hsettles
  refine ⟨txn, settledTransaction true txn providerStatus, hcompares.2.1,
    settle_transaction hcompares, ?_⟩
  unfold settledTransaction
  rw [hsettled]
  exact rank_lt_of_settledStatus hsettled

/-- Only a case that settles it changes a transaction. -/
theorem rewrites_of_ne {txId : UUID}
    (h : (settle provider s caseId).transactions[txId]? ≠ s.transactions[txId]?) :
    Rewrites provider s caseId txId := by
  rcases settle_cases provider s caseId with hsame | ⟨case, txn, providerStatus, hcompares⟩
  · rw [hsame] at h
    exact absurd rfl h
  rw [settle_of_compares hcompares] at h
  unfold settledRows at h
  rcases hsettled : settledStatus true txn.status providerStatus with _ | status
  · rw [hsettled] at h
    exact absurd rfl h
  rw [hsettled] at h
  refine ⟨case, txn, providerStatus, hcompares, ?_, by rw [hsettled]; exact Option.some_ne_none _⟩
  by_contra hne
  exact h (List.getElem?_modify_ne _ _ hne)

/-- Where no case in its turn settles it, a transaction stays as it is. -/
theorem settledBy_unchanged {txId : UUID} {caseIds later : List UUID}
    (h : ∀ before c after, later = before ++ c :: after →
      ¬Rewrites provider (settledBy provider s (caseIds ++ before)) c txId) :
    (settledBy provider s (caseIds ++ later)).transactions[txId]? =
      (settledBy provider s caseIds).transactions[txId]? := by
  by_contra hchanged
  unfold settledBy at hchanged
  rw [Run.after_append] at hchanged
  obtain ⟨before, c, after, hlater, hsame, hstep⟩ := Run.exists_step
    (P := fun u : Store =>
      u.transactions[txId]? ≠ (settledBy provider s caseIds).transactions[txId]?)
    later (fun hne => hne rfl) hchanged
  refine h before c after hlater (rewrites_of_ne ?_)
  unfold settledBy at hsame hstep ⊢
  rw [Run.after_append]
  exact fun hequal => hstep (hequal.trans (not_not.mp hsame))

/-- Nothing but transactions differs. -/
theorem settledBy_rows (provider : UUID → StatusProvider) (s : Store) (caseIds : List UUID) :
    settledBy provider s caseIds =
      { s with transactions := (settledBy provider s caseIds).transactions } := by
  refine Run.invariant (I := fun u : Store => u = { s with transactions := u.transactions })
    (fun u caseId hu => ?_) caseIds rfl
  rcases settle_cases provider u caseId with hsame | ⟨case, txn, providerStatus, hcompares⟩
  · rw [hsame]
    exact hu
  rw [settle_of_compares hcompares]
  unfold settledRows
  rcases settledStatus true txn.status providerStatus with _ | status
  · exact hu
  · dsimp only [Store.modifyTransaction]
    rw [hu]

/-! ## Turns -/

/-- The case has its transaction and gets an answer, and its reconciliation is let through. -/
def Reportable (answers : StatusProvider) (s : Store) (caseId : UUID) : Prop :=
  ∃ case txn providerStatus, Compares answers s caseId case txn providerStatus ∧
    Reconcilable true s caseId case txn providerStatus

theorem Agrees.reportable {answers : StatusProvider} (h : Agrees caseId s t)
    (hreportable : Reportable answers s caseId) : Reportable answers t caseId := by
  obtain ⟨case, txn, providerStatus, hcompares, hreconcilable⟩ := hreportable
  exact ⟨case, txn, providerStatus, h.compares hcompares, h.reconcilable hreconcilable⟩

/-- The rows after the turns of some cases: they have settled their transactions, and the other
cases still wait as before. -/
structure AfterTurns (provider : UUID → StatusProvider) (s : Store) (caseIds : List UUID)
    (u : Store) : Prop where
  transactions : u.transactions = (settledBy provider s caseIds).transactions
  waiting : ∀ c, c ∉ caseIds → Agrees c (settledBy provider s caseIds) u

theorem AfterTurns.start (provider : UUID → StatusProvider) (s : Store) :
    AfterTurns provider s [] s :=
  ⟨rfl, fun c _ => .refl c s⟩

/-- Rows with the same transactions, whose other tables show the case the same. -/
theorem Agrees.of_keeps (hcase : KeepsCase caseId s t)
    (htransactions : t.transactions = s.transactions) (hexecutions : t.executions = s.executions)
    (hwebhooks : t.webhookEvents = s.webhookEvents) :
    Agrees caseId s t :=
  ⟨⟨hcase.caseRow, fun _ _ => by rw [htransactions], hcase.transitions, hcase.audits⟩,
    hexecutions, hwebhooks⟩

theorem KeepsCase.trans (h : KeepsCase caseId s t) (h' : KeepsCase caseId t u) :
    KeepsCase caseId s u :=
  ⟨h'.caseRow.trans h.caseRow, h'.transitions.trans h.transitions, h'.audits.trans h.audits⟩

theorem reconciledRows_webhookEvents (autoResolve : Bool) :
    (reconciledRows env autoResolve s caseId case txn providerStatus).webhookEvents =
      s.webhookEvents := by
  have hsettled : (settledRows autoResolve s case txn providerStatus).webhookEvents =
      s.webhookEvents := by
    unfold settledRows
    cases settledStatus autoResolve txn.status providerStatus <;> rfl
  rw [← hsettled]
  unfold reconciledRows resolvedRows
  cases requestedTransition autoResolve case txn providerStatus with
  | some toState => rfl
  | none =>
    dsimp only
    split_ifs <;> rfl

/-- A turn adds the case to those that have settled their transactions. -/
theorem AfterTurns.step {caseIds : List UUID} (h : AfterTurns provider s caseIds u)
    (hnew : caseId ∉ caseIds)
    (hrun : reconcileCase env (provider caseId) true caseId u = .ok (report, t)) :
    AfterTurns provider s (caseIds ++ [caseId]) t := by
  obtain ⟨case, txn, providerStatus, hcompares, -, -, ht⟩ := reconcileCase_eq_ok.mp hrun
  have haside : Aside caseId u t := reconcileCase_aside.related hrun
  have hnext : settledBy provider s (caseIds ++ [caseId]) =
      settledRows true (settledBy provider s caseIds) case txn providerStatus := by
    unfold settledBy
    rw [Run.after_snoc]
    exact settle_of_compares ((h.waiting caseId hnew).symm.compares hcompares)
  have htransactions : t.transactions =
      (settledBy provider s (caseIds ++ [caseId])).transactions := by
    rw [hnext, ht]
    refine resolvedRows_transactions.trans ?_
    unfold settledRows Store.modifyTransaction
    rw [h.transactions]
    cases settledStatus true txn.status providerStatus <;> rfl
  refine ⟨htransactions, fun c hc => ?_⟩
  rw [List.mem_append, List.mem_singleton, not_or] at hc
  have hwaits := h.waiting c hc.1
  have hsettled : KeepsCase c (settledBy provider s (caseIds ++ [caseId]))
      (settledBy provider s caseIds) := by
    rw [settledBy_rows provider s (caseIds ++ [caseId]), settledBy_rows provider s caseIds]
    exact ⟨rfl, rfl, rfl⟩
  have hkeeps : KeepsCase c (settledBy provider s caseIds) t :=
    KeepsCase.trans ⟨hwaits.caseRow, hwaits.transitions, hwaits.audits⟩
      (.of_other hc.2 hrun)
  refine .of_keeps (hsettled.trans hkeeps) htransactions ?_ ?_
  · rw [haside.executions, hwaits.executions, settledBy_rows provider s (caseIds ++ [caseId]),
      settledBy_rows provider s caseIds]
  · rw [ht, reconciledRows_webhookEvents, hwaits.webhookEvents,
      settledBy_rows provider s (caseIds ++ [caseId]), settledBy_rows provider s caseIds]

/-- A batch leaves a case that it does not select. -/
theorem reconcileEach_keeps {caseIds : List UUID} (h : caseId ∉ caseIds) :
    KeepsCase caseId s (reconcileEach env provider caseIds s).1 := by
  refine reconcileEach_rule (P := fun ids u => caseId ∉ ids ∧ KeepsCase caseId s u)
    (fun _ _ hu => hu.2) (fun c rest u report v hu hrun => ?_) caseIds ⟨h, rfl, rfl, rfl⟩
  rw [List.mem_cons, not_or] at hu
  exact ⟨hu.1.2, hu.2.trans (.of_other hu.1.1 hrun)⟩

/-- What the turn of a case in a batch that ended normally contributed: its report, and its row and
logs as they are at the end. -/
structure Turn (env : Env) (provider : UUID → StatusProvider) (s : Store) (before : List UUID)
    (caseId : UUID) (v : Store) (reports : List ReconciliationReport) (case : RecoveryCase)
    (txn : Transaction) (providerStatus : ExecutionStatus) : Prop where
  compares : Compares (provider caseId) (settledBy provider s before) caseId case txn
    providerStatus
  reconcilable : Reconcilable true (settledBy provider s before) caseId case txn providerStatus
  reported : reportOf true (settledBy provider s before) caseId case txn providerStatus ∈ reports
  kept : KeepsCase caseId
    (reconciledRows env true (settledBy provider s before) caseId case txn providerStatus) v

/-- In a batch that ends normally every case had its turn, with one report. -/
theorem reconcileEach_turns {before caseIds : List UUID} (hnodup : (before ++ caseIds).Nodup)
    (hu : AfterTurns provider s before u)
    (hrun : reconcileEach env provider caseIds u = (v, .ok reports)) :
    reports.map ReconciliationReport.caseId = caseIds ∧
      AfterTurns provider s (before ++ caseIds) v ∧
      ∀ earlier c later, caseIds = earlier ++ c :: later →
        ∃ case txn providerStatus,
          Turn env provider s (before ++ earlier) c v reports case txn providerStatus := by
  induction caseIds generalizing before u reports with
  | nil =>
    cases hrun
    rw [List.append_nil]
    refine ⟨rfl, hu, fun earlier c later h => ?_⟩
    cases earlier <;> cases h
  | cons c rest ih =>
    unfold reconcileEach at hrun
    rcases hturn : reconcileCase env (provider c) true c u with fault | ⟨report, t⟩
    · rw [hturn] at hrun
      cases hrun
    rw [hturn] at hrun
    dsimp only at hrun
    rcases hlater : reconcileEach env provider rest t with ⟨v', fault | others⟩
    · rw [hlater] at hrun
      cases hrun
    rw [hlater] at hrun
    cases hrun
    have hnew : c ∉ before := fun hmem =>
      List.disjoint_of_nodup_append hnodup hmem List.mem_cons_self
    have hrest : c ∉ rest := (List.nodup_cons.mp (List.nodup_append.mp hnodup).2.1).1
    have hnodup' : (before ++ [c] ++ rest).Nodup := by
      rwa [List.append_assoc, List.singleton_append]
    obtain ⟨hids, hafter, hturns⟩ := ih hnodup' (hu.step hnew hturn) hlater
    obtain ⟨case, txn, providerStatus, hcompares, hreconcilable, hreport, ht⟩ :=
      reconcileCase_eq_ok.mp hturn
    have hagrees := hu.waiting c hnew
    have hcompares' := hagrees.symm.compares hcompares
    refine ⟨?_, ?_, fun earlier d later h => ?_⟩
    · rw [List.map_cons, hids, hreport]
      rfl
    · rwa [List.append_assoc, List.singleton_append] at hafter
    · cases earlier with
      | nil =>
        cases h
        refine ⟨case, txn, providerStatus, ?_⟩
        rw [List.append_nil]
        refine ⟨hcompares', hagrees.symm.reconcilable hreconcilable, ?_, ?_⟩
        · rw [hreport, hagrees.report_eq]
          exact List.mem_cons_self
        · have hsame : SameCase c (reconciledRows env true (settledBy provider s before) c case txn
              providerStatus) (reconciledRows env true u c case txn providerStatus) :=
            hagrees.reconciled true hcompares'
          have hkept : KeepsCase c t v' := by
            have hkeeps : KeepsCase c t (reconcileEach env provider rest t).1 :=
              reconcileEach_keeps hrest
            rwa [hlater] at hkeeps
          rw [← ht] at hsame
          exact KeepsCase.trans ⟨hsame.caseRow, hsame.transitions, hsame.audits⟩ hkept
      | cons first earlier =>
        rw [List.cons_append, List.cons.injEq] at h
        obtain ⟨rfl, h⟩ := h
        obtain ⟨case', txn', providerStatus', hturn'⟩ := hturns earlier d later h
        rw [List.append_assoc, List.singleton_append] at hturn'
        exact ⟨case', txn', providerStatus', hturn'.compares, hturn'.reconcilable,
          List.mem_cons_of_mem _ hturn'.reported, hturn'.kept⟩

/-- A batch ends normally when every case is reconciled in its turn. -/
theorem reconcileEach_ok {before caseIds : List UUID} (hnodup : (before ++ caseIds).Nodup)
    (hu : AfterTurns provider s before u)
    (h : ∀ earlier c later, caseIds = earlier ++ c :: later →
      Reportable (provider c) (settledBy provider s (before ++ earlier)) c) :
    ∃ reports v, reconcileEach env provider caseIds u = (v, .ok reports) := by
  induction caseIds generalizing before u with
  | nil => exact ⟨[], u, rfl⟩
  | cons c rest ih =>
    have hnew : c ∉ before := fun hmem =>
      List.disjoint_of_nodup_append hnodup hmem List.mem_cons_self
    have hfirst := h [] c rest rfl
    rw [List.append_nil] at hfirst
    obtain ⟨case, txn, providerStatus, hcompares, hreconcilable⟩ :=
      (hu.waiting c hnew).reportable hfirst
    obtain ⟨report, t, hturn⟩ : ∃ report t, reconcileCase env (provider c) true c u =
        .ok (report, t) :=
      ⟨_, _, reconcileCase_eq_ok.mpr
        ⟨case, txn, providerStatus, hcompares, hreconcilable, rfl, rfl⟩⟩
    have hnodup' : (before ++ [c] ++ rest).Nodup := by
      rwa [List.append_assoc, List.singleton_append]
    obtain ⟨others, v, hlater⟩ := ih hnodup' (hu.step hnew hturn) fun earlier d later hrest => by
      rw [List.append_assoc, List.singleton_append]
      exact h (c :: earlier) d later (by rw [hrest]; rfl)
    refine ⟨report :: others, v, ?_⟩
    unfold reconcileEach
    rw [hturn]
    dsimp only
    rw [hlater]
    rfl

end PaymentReconciliationService

end RevenueRescue
