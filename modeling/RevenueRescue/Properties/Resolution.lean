import RevenueRescue.Properties.Matching
import RevenueRescue.Refinement.Chain

/-!
# What a resolution settles

A success resolves the case it meets and marks the transaction of its own payment reference.
The case can be met by its key, and then its trigger transaction is another one, which stays
failed. The trigger has succeeded afterwards exactly when it had before or when the success
names it.
-/

namespace RevenueRescue

open Python

namespace EventToCaseEngine

variable {env : Env} {s t : Store} {event : CanonicalEventDTO} {outcome : CaseProcessingOutcome}

/-- The trigger transaction of the case has succeeded. -/
def Settled (s : Store) (caseId : UUID) : Prop :=
  ∃ case txn, s.recoveryCases[caseId]? = some case ∧
    s.transactions[case.triggerTransactionId]? = some txn ∧ txn.status = .SUCCEEDED

/-- The event names the trigger transaction of the case. -/
def NamesTrigger (s : Store) (event : CanonicalEventDTO) (caseId : UUID) : Prop :=
  ∃ case txn, s.recoveryCases[caseId]? = some case ∧
    s.transactions[case.triggerTransactionId]? = some txn ∧
    txn.reference = (event.provider, transactionReference event)

/-- An event that resolves a case met it while it was open. -/
theorem processEvent_resolved {caseId : UUID} (htype : cleanType event ∈ CASE_RESOLUTION_EVENTS)
    (hrun : processEvent env event s = .ok (outcome, t)) (hresolved : outcome.outcome = .CASE_RESOLVED)
    (hcase : outcome.caseId = some caseId) :
    ∃ case, matchedCase s event = some (caseId, case) ∧
      t = resolved env (provisioned s event) caseId case (transactionOf s event) := by
  rw [processEvent_apply env s (List.mem_append_right _ htype)] at hrun
  unfold processProvisioned at hrun
  rw [if_pos htype] at hrun
  rcases hmatch : matchedCase s event with _ | ⟨metId, case⟩
  · rw [hmatch] at hrun
    cases hrun
    cases hresolved
  rw [hmatch] at hrun
  unfold handlePaymentSucceeded at hrun
  dsimp only at hrun
  rcases hterminal : case.state.isTerminal with _ | _
  · rw [if_neg (by rw [hterminal]; exact Bool.false_ne_true), Tx.modify_bind_apply,
      Tx.modify_bind_apply, Tx.get_bind_apply, Tx.bind_apply, insertTransition_next rfl] at hrun
    dsimp only at hrun
    rw [Tx.bind_apply, record_apply] at hrun
    cases hrun
    cases hcase
    exact ⟨case, rfl, rfl⟩
  · rw [if_pos hterminal] at hrun
    cases hrun
    cases hresolved

/-- Among distinct references an event's transaction is the row with its reference. -/
theorem transactionOf_eq_iff {txId : UUID} {txn : Transaction} (hdistinct : s.references.Nodup)
    (hrow : s.transactions[txId]? = some txn) :
    transactionOf s event = txId ↔
      txn.reference = (event.provider, transactionReference event) := by
  constructor
  · rintro rfl
    rcases provisioned_transactions_cases s event with ⟨found, hfind, -⟩ | ⟨-, hid, -⟩
    · obtain ⟨hfound, hkey⟩ := Table.find?_some hfind
      obtain rfl : txn = found := Option.some.inj (hrow.symm.trans hfound)
      rw [Bool.and_eq_true, beq_iff_eq, beq_iff_eq] at hkey
      exact Prod.ext hkey.1 hkey.2
    · rw [hid, List.getElem?_eq_none (Nat.le_refl _)] at hrow
      cases hrow
  · intro hreference
    have hmem : txn ∈ s.transactions := List.mem_of_getElem? hrow
    have hprovider : txn.provider = event.provider := congrArg Prod.fst hreference
    have hexternal : txn.externalTransactionId = transactionReference event :=
      congrArg Prod.snd hreference
    rcases provisioned_transactions_cases s event with ⟨found, hfind, -⟩ | ⟨hfind, -, -⟩
    · obtain ⟨hfound, hkey⟩ := Table.find?_some hfind
      rw [Bool.and_eq_true, beq_iff_eq, beq_iff_eq] at hkey
      refine (List.getElem?_inj ?_ hdistinct).mp ?_
      · unfold Store.references
        rw [List.length_map]
        exact (List.getElem?_eq_some_iff.mp hfound).1
      · unfold Store.references
        rw [List.getElem?_map, List.getElem?_map, hfound, hrow, Option.map_some, Option.map_some,
          hreference]
        exact congrArg some (Prod.ext hkey.1 hkey.2)
    · have hother := Table.find?_none.mp hfind txn hmem
      rw [hprovider, hexternal, beq_self_eq_true, beq_self_eq_true] at hother
      cases hother

/-- A row that was there is there after the transaction of an event is provisioned. -/
theorem provisioned_getElem? {txId : UUID} {txn : Transaction}
    (hrow : s.transactions[txId]? = some txn) :
    (provisioned s event).transactions[txId]? = some txn := by
  rcases provisioned_transactions_cases s event with ⟨-, -, hsame⟩ | ⟨-, -, hmore⟩
  · rw [hsame]
    exact hrow
  · rw [hmore]
    exact Table.getElem?_append_of_some hrow _

/-- The resolution settles the trigger transaction when it was settled or is the event's own. -/
theorem settled_resolved_iff {caseId : UUID} {case : RecoveryCase}
    (hdistinct : s.references.Nodup) (hcase : s.recoveryCases[caseId]? = some case)
    (htrigger : case.triggerTransactionId < s.transactions.length) :
    Settled (resolved env (provisioned s event) caseId case (transactionOf s event)) caseId ↔
      Settled s caseId ∨ NamesTrigger s event caseId := by
  have hrow := List.getElem?_eq_getElem htrigger
  generalize s.transactions[case.triggerTransactionId] = txn at hrow
  have hafter : (resolved env (provisioned s event) caseId case
      (transactionOf s event)).recoveryCases[caseId]? = some (resolveCase env case) := by
    change ((provisioned s event).recoveryCases.modify caseId (resolveCase env))[caseId]? = _
    rw [provisioned_recoveryCases, List.getElem?_modify_eq, hcase]
    rfl
  have hsettled : ∀ u : Store, ∀ row : RecoveryCase, u.recoveryCases[caseId]? = some row →
      (Settled u caseId ↔ ∃ txn, u.transactions[row.triggerTransactionId]? = some txn ∧
        txn.status = .SUCCEEDED) := by
    intro u row hu
    constructor
    · rintro ⟨other, txn, hother, htxn⟩
      obtain rfl : row = other := Option.some.inj (hu.symm.trans hother)
      exact ⟨txn, htxn⟩
    · rintro ⟨txn, htxn⟩
      exact ⟨row, txn, hu, htxn⟩
  have hnames : NamesTrigger s event caseId ↔ transactionOf s event = case.triggerTransactionId := by
    rw [transactionOf_eq_iff hdistinct hrow]
    constructor
    · rintro ⟨other, row, hother, hrow', hreference⟩
      obtain rfl : case = other := Option.some.inj (hcase.symm.trans hother)
      rwa [Option.some.inj (hrow.symm.trans hrow')]
    · exact fun hreference => ⟨case, txn, hcase, hrow, hreference⟩
  rw [hsettled _ _ hafter, hsettled _ _ hcase, hnames]
  change (∃ txn, ((provisioned s event).transactions.modify (transactionOf s event) _)[
    case.triggerTransactionId]? = some txn ∧ txn.status = .SUCCEEDED) ↔ _
  by_cases hown : transactionOf s event = case.triggerTransactionId
  · rw [hown, List.getElem?_modify_eq, provisioned_getElem? hrow]
    exact ⟨fun _ => .inr rfl, fun _ => ⟨_, rfl, rfl⟩⟩
  · rw [List.getElem?_modify_ne _ _ hown, provisioned_getElem? hrow, hrow]
    exact ⟨.inl, fun h => h.resolve_right hown⟩

end EventToCaseEngine

open EventToCaseEngine

/-- In every reachable database, the trigger transaction of a case that a success resolves has
succeeded afterwards exactly when it had before or when the success names it. -/
theorem resolution_settles_trigger_iff (config : PolicyConfig) (requests : List Request) (env : Env)
    (event : CanonicalEventDTO) (outcome : CaseProcessingOutcome) (caseId : UUID) (t : Store)
    (htype : cleanType event ∈ CASE_RESOLUTION_EVENTS)
    (hrun : processEvent env event (World.empty.run config requests).db = .ok (outcome, t))
    (hresolved : outcome.outcome = .CASE_RESOLVED) (hcase : outcome.caseId = some caseId) :
    Settled t caseId ↔ Settled (World.empty.run config requests).db caseId ∨
      NamesTrigger (World.empty.run config requests).db event caseId := by
  have hdistinct : (World.empty.run config requests).db.references.Nodup :=
    Run.invariant (I := fun w : World => w.db.references.Nodup)
      (fun w r h => (World.step_writes config w r).references_nodup h) requests List.nodup_nil
  obtain ⟨case, hmatch, rfl⟩ := processEvent_resolved htype hrun hresolved hcase
  have hrow := getElem?_of_findExistingCase hmatch
  exact settled_resolved_iff hdistinct hrow
    ((World.run_chain config requests).triggers case (List.mem_of_getElem? hrow))

namespace Sample

/-- The payment of the overdue invoice under a reference of its own. -/
def paid : CanonicalEventDTO :=
  { event "evt_2" "PAYMENT_SUCCEEDED" with
    paymentReference := some "pay_9", invoiceReference := some "INV-1" }

end Sample

/-- The success of a payment settles the failure of the same payment. -/
theorem resolution_settles_trigger_iff_same :
    let db := (World.empty.run .default [Sample.failure]).db
    ∃ outcome t, processEvent Sample.env (Sample.event "evt_2" "PAYMENT_SUCCEEDED") db =
      .ok (outcome, t) ∧ (Settled t 0 ↔ Settled db 0 ∨
        NamesTrigger db (Sample.event "evt_2" "PAYMENT_SUCCEEDED") 0) := by
  intro db
  refine ⟨_, _, rfl, ?_⟩
  exact resolution_settles_trigger_iff .default [Sample.failure] Sample.env _ _ 0 _ (by decide +kernel)
    rfl rfl rfl

/-- The invoice is paid under a reference of its own: the case is recovered, and its trigger
transaction stays failed. -/
theorem recovered_with_failed_trigger :
    let db := (World.empty.run .default [Sample.request (.processEvent Sample.overdue)]).db
    ∃ outcome t, EventValidator.validate Sample.env Sample.paid = .ok () ∧
      processEvent Sample.env Sample.paid db = .ok (outcome, t) ∧
      outcome.outcome = .CASE_RESOLVED ∧ outcome.caseId = some 0 ∧
      t.recoveryCases.map (fun c => (c.state, c.triggerTransactionId)) = [(.RECOVERED, 0)] ∧
      t.transactions.map Transaction.status = [.FAILED, .SUCCEEDED] ∧ ¬ Settled t 0 := by
  intro db
  refine ⟨_, _, rfl, rfl, rfl, rfl, by decide +kernel, by decide +kernel, ?_⟩
  rintro ⟨case, txn, hcase, htxn, hstatus⟩
  cases hcase
  cases htxn
  cases hstatus

end RevenueRescue
