import RevenueRescue.Properties.Reconciliations
import RevenueRescue.Refinement.Batches

/-!
# The isolation of the cases of a batch

A batch shares one loop, so the first case whose reconciliation raises ends it for all. Two cases
may also share their transaction, and what one of them settles the other one finds settled. Apart
from these two, every case is reconciled as if it were alone.
-/

namespace RevenueRescue

open Python

namespace PaymentReconciliationService

variable {env : Env} {provider : UUID → StatusProvider} {limit : ℕ} {caseId : UUID}
  {case : RecoveryCase} {txn : Transaction} {providerStatus : ExecutionStatus} {s t u v : Store}
  {reports : List ReconciliationReport}

/-- Every selected case whose own reconciliation would return gets from the batch the report that
it gets alone, and its state is left the same. -/
def Isolated (env : Env) (provider : UUID → StatusProvider) (limit : ℕ) (s : Store) : Prop :=
  ∀ c ∈ pendingCases s limit, ∀ report t,
    reconcileCase env (provider c) true c s = .ok (report, t) →
    ∃ reports, (reconcilePendingCases env provider limit s).2 = .ok reports ∧ report ∈ reports ∧
      SameCase c t (reconcilePendingCases env provider limit s).1

/-- Every case is reconciled in its turn, and no case settles the transaction of another one that
would be reconciled alone. -/
structure Separable (provider : UUID → StatusProvider) (limit : ℕ) (s : Store) : Prop where
  proceeds : ∀ before c later, pendingCases s limit = before ++ c :: later →
    Reportable (provider c) (settledBy provider s before) c
  apart : ∀ before d later, pendingCases s limit = before ++ d :: later →
    ∀ c ∈ pendingCases s limit, c ≠ d → Reportable (provider c) s c →
    ∀ case, s.recoveryCases[c]? = some case →
      ¬Rewrites provider (settledBy provider s before) d case.triggerTransactionId

/-- The rows before a turn agree with those before the batch on a case whose transaction is as it
was. -/
theorem Agrees.of_settledBy {caseIds : List UUID} (hcase : s.recoveryCases[caseId]? = some case)
    (htxn : (settledBy provider s caseIds).transactions[case.triggerTransactionId]? =
      s.transactions[case.triggerTransactionId]?) :
    Agrees caseId s (settledBy provider s caseIds) := by
  have hrows := settledBy_rows provider s caseIds
  refine ⟨⟨?_, fun case' hcase' => ?_, ?_, ?_⟩, ?_, ?_⟩
  · rw [hrows]
  · obtain rfl : case = case' := Option.some.inj (hcase.symm.trans hcase')
    exact htxn
  · rw [hrows]
    rfl
  · rw [hrows]
    rfl
  · rw [hrows]
  · rw [hrows]

/-- The resolution that is reported tells the status that the transaction was given. -/
theorem settledStatus_eq_of_reportedAction {case' : RecoveryCase} {txn' : Transaction}
    (h : reportedAction true case txn providerStatus =
      reportedAction true case' txn' providerStatus) :
    settledStatus true txn.status providerStatus =
      settledStatus true txn'.status providerStatus := by
  have hsettled : ∀ (case : RecoveryCase) (txn : Transaction),
      settledStatus true txn.status providerStatus =
        if reportedAction true case txn providerStatus = some "RESOLVED_TO_SUCCEEDED" then
          some .SUCCEEDED
        else if reportedAction true case txn providerStatus = some "RESOLVED_TO_FAILED" then
          some .FAILED
        else none := by
    intro case txn
    unfold settledStatus reportedAction
    rw [if_pos rfl, if_pos rfl]
    by_cases hsucceeded : txn.status ∈ [TransactionStatus.FAILED, .PENDING] ∧
      providerStatus = .SUCCEEDED
    · simp only [if_pos hsucceeded, if_true]
    by_cases hfailed : txn.status = .PENDING ∧ providerStatus = .FAILED
    · simp only [if_neg hsucceeded, if_pos hfailed]
      decide
    by_cases hunknown : providerStatus = .UNKNOWN ∧
      case.state ∉ [RecoveryCaseState.ESCALATED, .CLOSED]
    · simp only [if_neg hsucceeded, if_neg hfailed, if_pos hunknown]
      decide
    · simp only [if_neg hsucceeded, if_neg hfailed, if_neg hunknown]
      decide
  rw [hsettled case txn, hsettled case' txn', h]

/-- Two elements of a list stand in one order or in the other. -/
theorem split_order {α : Type} {l before later before' later' : List α} {c d : α}
    (h : l = before ++ c :: later) (h' : l = before' ++ d :: later') (hne : c ≠ d) :
    (∃ between, before' = before ++ c :: between) ∨
      ∃ between, before = before' ++ d :: between := by
  rcases List.append_eq_append_iff.mp (h.symm.trans h') with
    ⟨between, hbefore, hlater⟩ | ⟨between, hbefore, hlater⟩
  · cases between with
    | nil => exact absurd (List.cons.inj hlater).1 hne
    | cons first between =>
      obtain ⟨rfl, -⟩ := List.cons.inj hlater
      exact .inl ⟨between, hbefore⟩
  · cases between with
    | nil => exact absurd (List.cons.inj hlater).1.symm hne
    | cons first between =>
      obtain ⟨rfl, -⟩ := List.cons.inj hlater
      exact .inr ⟨between, hbefore⟩

/-- What the turn of a case settles, a later case meets. -/
theorem settledBy_snoc (provider : UUID → StatusProvider) (s : Store) (before : List UUID)
    (c : UUID) :
    settledBy provider s (before ++ [c]) = settle provider (settledBy provider s before) c := by
  unfold settledBy
  exact Run.after_snoc ..

/-- A batch that ended normally: a report for each case in its turn, and the transactions as the
cases settled them. -/
structure Completed (env : Env) (provider : UUID → StatusProvider) (limit : ℕ) (s : Store)
    (reports : List ReconciliationReport) : Prop where
  returned : (reconcilePendingCases env provider limit s).2 = .ok reports
  caseIds : reports.map ReconciliationReport.caseId = pendingCases s limit
  transactions : (reconcilePendingCases env provider limit s).1.transactions =
    (settledBy provider s (pendingCases s limit)).transactions
  turns : ∀ before c later, pendingCases s limit = before ++ c :: later →
    ∃ case txn providerStatus, Turn env provider s before c
      (reconcilePendingCases env provider limit s).1 reports case txn providerStatus

theorem completed_of_ok (h : (reconcilePendingCases env provider limit s).2 = .ok reports) :
    Completed env provider limit s reports := by
  have hrun : reconcileEach env provider (pendingCases s limit) s =
      ((reconcilePendingCases env provider limit s).1, .ok reports) := Prod.ext rfl h
  have hnodup : ([] ++ pendingCases s limit).Nodup := pendingCases_nodup s limit
  obtain ⟨hids, hafter, hturns⟩ := reconcileEach_turns hnodup (.start provider s) hrun
  simp only [List.nil_append] at hafter hturns
  exact ⟨h, hids, hafter.transactions, hturns⟩

/-- In a batch that keeps a case isolated, its transaction ends as its own reconciliation leaves
it. -/
theorem Isolated.transaction (h : Isolated env provider limit s)
    (hc : caseId ∈ pendingCases s limit)
    (hcompares : Compares (provider caseId) s caseId case txn providerStatus)
    (hreconcilable : Reconcilable true s caseId case txn providerStatus) :
    (reconcilePendingCases env provider limit s).1.transactions[case.triggerTransactionId]? =
      some (settledTransaction true txn providerStatus) := by
  obtain ⟨_, -, -, hsame⟩ := h caseId hc _ _ (reconcileCase_eq_ok.mpr
    ⟨case, txn, providerStatus, hcompares, hreconcilable, rfl, rfl⟩)
  have hresolved : (reconciledRows env true s caseId case txn
      providerStatus).recoveryCases[caseId]? =
        some (resolvedCase env true case txn providerStatus) := resolvedRows_case hcompares.1
  have htransaction := hsame.transaction _ hresolved
  rw [resolvedCase_trigger] at htransaction
  exact htransaction.trans (resolvedRows_transaction hcompares.2.1)

/-- The report of a case in its turn is the report of the case alone, so the answer settles the
transaction in both or in neither. -/
theorem Isolated.turn (h : Isolated env provider limit s)
    (hbatch : Completed env provider limit s reports)
    (hc : caseId ∈ pendingCases s limit)
    (hcompares : Compares (provider caseId) s caseId case txn providerStatus)
    (hreconcilable : Reconcilable true s caseId case txn providerStatus)
    {before : List UUID} {case' : RecoveryCase} {txn' : Transaction}
    {providerStatus' : ExecutionStatus}
    (hturn : Turn env provider s before caseId v reports case' txn' providerStatus') :
    providerStatus' = providerStatus ∧ settledStatus true txn'.status providerStatus =
      settledStatus true txn.status providerStatus := by
  obtain ⟨reports', hbatch', hmem, -⟩ := h caseId hc _ _ (reconcileCase_eq_ok.mpr
    ⟨case, txn, providerStatus, hcompares, hreconcilable, rfl, rfl⟩)
  obtain rfl : reports = reports' := Except.ok.inj (hbatch.returned.symm.trans hbatch')
  have hnodup : (reports.map ReconciliationReport.caseId).Nodup := by
    rw [hbatch.caseIds]
    exact pendingCases_nodup s limit
  have hsame : reportOf true (settledBy provider s before) caseId case' txn' providerStatus' =
      reportOf true s caseId case txn providerStatus :=
    List.inj_on_of_nodup_map hnodup hturn.reported hmem rfl
  obtain rfl : providerStatus' = providerStatus :=
    congrArg ReconciliationReport.providerStatus hsame
  exact ⟨rfl, settledStatus_eq_of_reportedAction
    (congrArg ReconciliationReport.resolutionAction hsame)⟩

/-- If the transaction of a case ends more decided than it was, the case itself decides it in its
turn. -/
theorem Isolated.decides (h : Isolated env provider limit s)
    (hbatch : Completed env provider limit s reports)
    (hc : caseId ∈ pendingCases s limit)
    (hcompares : Compares (provider caseId) s caseId case txn providerStatus)
    (hreconcilable : Reconcilable true s caseId case txn providerStatus)
    {before : List UUID} {case' : RecoveryCase} {txn' : Transaction}
    {providerStatus' : ExecutionStatus}
    (hturn : Turn env provider s before caseId v reports case' txn' providerStatus')
    (hmore : rank txn.status < rank (settledTransaction true txn providerStatus).status) :
    ∃ met left, (settledBy provider s before).transactions[case.triggerTransactionId]? = some met ∧
      (settledBy provider s (before ++ [caseId])).transactions[case.triggerTransactionId]? =
        some left ∧
      rank met.status < rank left.status ∧
      left.status = (settledTransaction true txn providerStatus).status := by
  obtain ⟨rfl, hsettles⟩ := h.turn hbatch hc hcompares hreconcilable hturn
  have hcase' := hturn.compares.1
  rw [settledBy_rows provider s before] at hcase'
  obtain rfl : case = case' := Option.some.inj (hcompares.1.symm.trans hcase')
  obtain ⟨status, hsettled⟩ : ∃ status, settledStatus true txn.status providerStatus' =
      some status := by
    refine Option.ne_none_iff_exists'.mp fun hnone => ?_
    unfold settledTransaction at hmore
    rw [hnone] at hmore
    exact absurd hmore (Nat.lt_irrefl _)
  have hstatus (txn : Transaction)
      (h : settledStatus true txn.status providerStatus' = some status) :
      (settledTransaction true txn providerStatus').status = status := by
    unfold settledTransaction
    rw [h]
    rfl
  rw [hsettled] at hsettles
  refine ⟨txn', _, hturn.compares.2.1, ?_, ?_,
    (hstatus txn' hsettles).trans (hstatus txn hsettled).symm⟩
  · rw [settledBy_snoc]
    exact settle_transaction hturn.compares
  · rw [hstatus txn' hsettles]
    exact rank_lt_of_settledStatus hsettles

/-- The transactions are only ever more decided. -/
theorem settledBy_moreDecided {caseIds later : List UUID} {txId : UUID} {a b : Transaction}
    (ha : (settledBy provider s caseIds).transactions[txId]? = some a)
    (hb : (settledBy provider s (caseIds ++ later)).transactions[txId]? = some b) :
    MoreDecided a b := by
  obtain ⟨b', hb', hmore⟩ := (settledBy_evolves provider s caseIds later).getElem? ha
  obtain rfl : b = b' := Option.some.inj (hb.symm.trans hb')
  exact hmore

theorem rank_le_two (status : TransactionStatus) : rank status ≤ 2 := by
  cases status <;> decide

/-- In an isolated batch no case settles the transaction of another one that would be reconciled
alone: one of the two would be contradicted by the end of the batch. -/
theorem Isolated.apart (h : Isolated env provider limit s)
    (hbatch : Completed env provider limit s reports) {before later : List UUID} {c d : UUID}
    (hsplit : pendingCases s limit = before ++ d :: later) (hc : c ∈ pendingCases s limit)
    (hne : c ≠ d) (hcompares : Compares (provider c) s c case txn providerStatus)
    (hreconcilable : Reconcilable true s c case txn providerStatus) :
    ¬Rewrites provider (settledBy provider s before) d case.triggerTransactionId := by
  intro hrewrites
  obtain ⟨met, left, hmet, hleft, hlt⟩ := hrewrites.settles
  rw [← settledBy_snoc] at hleft
  -- the batch ends with the transaction as the reconciliation of `c` alone leaves it
  have hend : (settledBy provider s (pendingCases s limit)).transactions[
      case.triggerTransactionId]? = some (settledTransaction true txn providerStatus) := by
    rw [← hbatch.transactions]
    exact h.transaction hc hcompares hreconcilable
  have hstart : (settledBy provider s []).transactions[case.triggerTransactionId]? = some txn :=
    hcompares.2.1
  have hbefore : MoreDecided txn met := settledBy_moreDecided hstart hmet
  have hrest : MoreDecided left (settledTransaction true txn providerStatus) := by
    rw [hsplit, ← List.singleton_append, ← List.append_assoc] at hend
    exact settledBy_moreDecided hleft hend
  have hbefore' := hbefore.rank_le
  have hrest' := hrest.rank_le
  -- so `c` decides it in its turn, and `d` cannot come after
  obtain ⟨earlier, later', hsplit'⟩ := List.mem_iff_append.mp hc
  obtain ⟨_, _, _, hturn⟩ := hbatch.turns earlier c later' hsplit'
  obtain ⟨metc, leftc, hmetc, hleftc, hltc, hleftstatus⟩ :=
    h.decides hbatch hc hcompares hreconcilable hturn (by omega)
  rw [← hleftstatus] at hrest'
  rcases split_order hsplit' hsplit hne with ⟨between, hearly⟩ | ⟨between, hlate⟩
  · rw [hearly, ← List.singleton_append, ← List.append_assoc] at hmet
    have hranks := (settledBy_moreDecided hleftc hmet).rank_le
    omega
  · -- `d` came before and met the payment undecided, as it would have alone
    rw [hlate, ← List.singleton_append, ← List.append_assoc] at hmetc
    have hranks := (settledBy_moreDecided hleft hmetc).rank_le
    have htwo := rank_le_two leftc.status
    obtain rfl : met = txn := hbefore.eq_of_rank_le (by omega)
    obtain ⟨cased, txnd, statusd, hcomparesd, htrigger, -⟩ := hrewrites
    have hcased := hcomparesd.1
    rw [settledBy_rows provider s before] at hcased
    have hagrees : Agrees d s (settledBy provider s before) := by
      refine .of_settledBy hcased ?_
      rw [htrigger, hmet]
      exact hcompares.2.1.symm
    have hleftd : left = settledTransaction true txnd statusd := by
      have hsettled := settle_transaction hcomparesd
      rw [← settledBy_snoc, htrigger, hleft] at hsettled
      exact Option.some.inj hsettled
    obtain ⟨_, _, _, hturnd⟩ := hbatch.turns before d later hsplit
    obtain ⟨rfl, rfl, rfl⟩ := hcomparesd.unique hturnd.compares
    have hd : d ∈ pendingCases s limit := by
      rw [hsplit]
      exact List.mem_append_right _ List.mem_cons_self
    have hendd := h.transaction hd (hagrees.symm.compares hcomparesd)
      (hagrees.symm.reconcilable hturnd.reconcilable)
    rw [hbatch.transactions, htrigger, ← hleftd] at hendd
    have hsame : left = settledTransaction true met providerStatus :=
      Option.some.inj (hendd.symm.trans hend)
    rw [← hsame] at hleftstatus
    rw [hleftstatus] at hltc
    omega

/-- The cases of an isolated batch are separable, if one of them would be reconciled alone. -/
theorem Isolated.separable (h : Isolated env provider limit s)
    (hc : caseId ∈ pendingCases s limit) (hreportable : Reportable (provider caseId) s caseId) :
    Separable provider limit s := by
  obtain ⟨case, txn, providerStatus, hcompares, hreconcilable⟩ := hreportable
  obtain ⟨reports, hreturned, -, -⟩ := h caseId hc _ _ (reconcileCase_eq_ok.mpr
    ⟨case, txn, providerStatus, hcompares, hreconcilable, rfl, rfl⟩)
  have hbatch := completed_of_ok hreturned
  constructor
  · intro before c later hsplit
    obtain ⟨case, txn, providerStatus, hturn⟩ := hbatch.turns before c later hsplit
    exact ⟨case, txn, providerStatus, hturn.compares, hturn.reconcilable⟩
  · rintro before d later hsplit c hc hne ⟨case', txn, providerStatus, hcompares, hreconcilable⟩
      case hcase
    obtain rfl : case = case' := Option.some.inj (hcase.symm.trans hcompares.1)
    exact h.apart hbatch hsplit hc hne hcompares hreconcilable

/-- In a batch of separable cases, one that would be reconciled alone is reconciled so. -/
theorem Separable.isolated (h : Separable provider limit s) : Isolated env provider limit s := by
  intro c hc report t halone
  obtain ⟨case, txn, providerStatus, hcompares, hreconcilable, rfl, rfl⟩ :=
    reconcileCase_eq_ok.mp halone
  have hreportable : Reportable (provider c) s c :=
    ⟨case, txn, providerStatus, hcompares, hreconcilable⟩
  have hnodup : ([] ++ pendingCases s limit).Nodup := pendingCases_nodup s limit
  obtain ⟨reports, v, hrun⟩ : ∃ reports v,
      reconcileEach env provider (pendingCases s limit) s = (v, .ok reports) :=
    reconcileEach_ok hnodup (.start provider s) h.proceeds
  have hreturned : (reconcilePendingCases env provider limit s).2 = .ok reports :=
    congrArg Prod.snd hrun
  have hbatch := completed_of_ok hreturned
  obtain ⟨before, later, hsplit⟩ := List.mem_iff_append.mp hc
  have hothers : c ∉ before ∧ c ∉ later := by
    have hdistinct := pendingCases_nodup s limit
    rw [hsplit, List.nodup_middle, List.nodup_cons, List.mem_append, not_or] at hdistinct
    exact hdistinct.1
  -- no case before `c` and none after it settles its transaction
  have hmet : (settledBy provider s ([] ++ before)).transactions[case.triggerTransactionId]? =
      (settledBy provider s []).transactions[case.triggerTransactionId]? := by
    refine settledBy_unchanged fun earlier d between hbetween => ?_
    refine h.apart earlier d (between ++ c :: later) ?_ c hc ?_ hreportable case hcompares.1
    · rw [hsplit, hbetween, List.append_assoc, List.cons_append]
    · rintro rfl
      exact hothers.1 (hbetween ▸ List.mem_append_right _ List.mem_cons_self)
  have hleft : (settledBy provider s (before ++ [c] ++ later)).transactions[
      case.triggerTransactionId]? =
        (settledBy provider s (before ++ [c])).transactions[case.triggerTransactionId]? := by
    refine settledBy_unchanged fun between d latest hlatest => ?_
    refine h.apart (before ++ [c] ++ between) d latest ?_ c hc ?_ hreportable case hcompares.1
    · rw [hsplit, hlatest]
      simp
    · rintro rfl
      exact hothers.2 (hlatest ▸ List.mem_append_right _ List.mem_cons_self)
  have hagrees : Agrees c s (settledBy provider s before) := .of_settledBy hcompares.1 hmet
  obtain ⟨_, _, _, hturn⟩ := hbatch.turns before c later hsplit
  obtain ⟨rfl, rfl, rfl⟩ := (hagrees.compares hcompares).unique hturn.compares
  have hreported := hturn.reported
  rw [hagrees.report_eq] at hreported
  have hsame : SameCase c (reconciledRows env true s c case txn providerStatus)
      (reconciledRows env true (settledBy provider s before) c case txn providerStatus) :=
    hagrees.reconciled true hcompares
  have hkept := hturn.kept
  refine ⟨reports, hreturned, hreported, hkept.caseRow.trans hsame.caseRow, fun moved hmoved => ?_,
    hkept.transitions.trans hsame.transitions, hkept.audits.trans hsame.audits⟩
  have hresolved : (reconciledRows env true s c case txn providerStatus).recoveryCases[c]? =
      some (resolvedCase env true case txn providerStatus) := resolvedRows_case hcompares.1
  obtain rfl := Option.some.inj (hresolved.symm.trans hmoved)
  rw [resolvedCase_trigger, hbatch.transactions, hsplit, ← List.singleton_append,
    ← List.append_assoc, hleft, settledBy_snoc, settle_transaction hturn.compares]
  exact (resolvedRows_transaction hcompares.2.1).symm

/-- A batch keeps its cases isolated exactly when, as soon as one of them would be reconciled alone,
they are separable. -/
theorem batch_isolated_iff :
    Isolated env provider limit s ↔
      ((∃ c ∈ pendingCases s limit, Reportable (provider c) s c) → Separable provider limit s) := by
  constructor
  · rintro h ⟨c, hc, hreportable⟩
    exact h.separable hc hreportable
  · intro h c hc report t halone
    obtain ⟨case, txn, providerStatus, hcompares, hreconcilable, -, -⟩ :=
      reconcileCase_eq_ok.mp halone
    exact (h ⟨c, hc, case, txn, providerStatus, hcompares, hreconcilable⟩).isolated c hc report t
      halone

end PaymentReconciliationService

open PaymentReconciliationService

namespace Sample

/-- Two cases of two payments that wait for their verification. -/
def twoWaiting : Store :=
  { Store.empty with
    transactions :=
      [transaction .PENDING, { transaction .PENDING with externalTransactionId := "pay_2" }]
    recoveryCases :=
      [case .VERIFICATION_PENDING,
        { case .VERIFICATION_PENDING with
          triggerTransactionId := 1, caseKey := "CASE-TX-razorpay-pay_2" }] }

/-- The provider confirms the first payment, and the query about the second one raises. -/
def secondRaises (caseId : UUID) : StatusProvider :=
  if caseId = 0 then answering .SUCCEEDED else fun _ => none

end Sample

/-- The first case is settled and recorded, and its report is lost with the batch. -/
theorem raised_query_ends_the_batch :
    0 ∈ pendingCases Sample.twoWaiting 50 ∧
      (reconcileCase Sample.env (Sample.secondRaises 0) true 0
        Sample.twoWaiting).toOption.isSome = true ∧
      ¬Isolated Sample.env Sample.secondRaises 50 Sample.twoWaiting := by
  have hselected : 0 ∈ pendingCases Sample.twoWaiting 50 := by decide +kernel
  have halone : (reconcileCase Sample.env (Sample.secondRaises 0) true 0
      Sample.twoWaiting).toOption.isSome = true := by decide +kernel
  have hraises : (reconcilePendingCases Sample.env Sample.secondRaises 50
      Sample.twoWaiting).2.toOption.isSome = false := by decide +kernel
  refine ⟨hselected, halone, fun h => ?_⟩
  rcases hrun : reconcileCase Sample.env (Sample.secondRaises 0) true 0 Sample.twoWaiting
    with fault | ⟨report, t⟩
  · rw [hrun] at halone
    cases halone
  · obtain ⟨reports, hreturned, -, -⟩ := h 0 hselected report t hrun
    rw [hreturned] at hraises
    cases hraises

end RevenueRescue
