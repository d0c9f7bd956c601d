import RevenueRescue.Refinement.Mutations

/-!
# Operations that another commit overtakes

An operation that writes to a case begins on the rows as they were and ends on those that
another operation on the same case has committed meanwhile. If it had loaded the case by then,
it writes what it computed from the row as it was. If it had not, it may as well have begun
after the commit: what it has found until then, a customer, a transaction or no case, it would
have found afterwards as well.

One thing it would not find again is a transaction that has been paid meanwhile. But then the
case is recovered and the operation does not write to it any more.
-/

namespace RevenueRescue

open EventToCaseEngine ReadCommitted

/-- What an operation that has sent `us` relies on when another operation on the case commits. -/
structure Overtaken (c : UUID) (db db' : Tables) (us : List RowWrite) : Prop where
  ids : db.CaseIdsUnique
  ids' : db'.CaseIdsUnique
  keys : ∀ caseKey row, db.caseByKey caseKey = none → db'.caseByKey caseKey = some row → row.1 = c
  customers : ∀ provider externalId,
    db'.customerByExternalId provider externalId = db.customerByExternalId provider externalId ∨
      db.customerByExternalId provider externalId = none ∧
        ∀ u ∈ us, u.lock ≠ .customerKey provider externalId
  transactions : (∃ row, db'.caseById c = some (c, row) ∧ row.state.isTerminal = true) ∨
    ∀ provider externalId,
      db'.transactionByExternalId provider externalId =
          db.transactionByExternalId provider externalId ∨
        db.transactionByExternalId provider externalId = none ∧
          ∀ u ∈ us, u.lock ≠ .transactionKey provider externalId

namespace Concurrent

variable {env : Env} {event : CanonicalEventDTO} {drawn : Drawn} {ws us vs : List RowWrite}
  {db db' : Tables} {ls : List UUID} {c customerId : UUID} {tx : UUID × Transaction}
  {outcome : CaseProcessingOutcome}

/-- A transition that was overtaken had loaded the case, or it may as well begin afterwards. -/
theorem transitionState_split {transition : RecoveryCaseService.CaseStateTransitionDTO}
    (h : SplitRun db db' (transitionState env c transition) ws ls us () vs)
    (hcases : (view db ws).recoveryCases = db.recoveryCases) :
    (c ∈ ls ∧ ∃ row tail, db.caseById c = some (c, row) ∧ vs = ws ++ tail ∧
        Mutation c (some row) tail) ∨
      c ∉ ls ∧ (transitionState env c transition).run db' ws = .ok ((), vs) := by
  obtain ⟨q, hadvance, hrun⟩ := h
  rcases hadvance.head_cases with ⟨rfl, rfl, rfl⟩ | ⟨r, us', l, rest, hmove, hrest, rfl⟩
  · exact .inr ⟨List.not_mem_nil, hrun⟩
  · cases hmove with
    | query =>
      have hfind : (view db ws).caseById c = db.caseById c := by
        unfold Tables.caseById
        rw [hcases]
      have hend := hrest.mayEnd (.of_run hrun)
      dsimp only [Program.bind, id] at hend
      dsimp only
      rw [hfind] at hend ⊢
      rcases hrow : db.caseById c with _ | ⟨caseId, row⟩
      · rw [hrow] at hend
        cases hend
      · obtain rfl : caseId = c := Tables.caseById_fst hrow
        rw [hrow] at hend
        obtain ⟨tail, rfl, hmutation⟩ := transitionLoaded_mayEnd hend
        refine .inl ⟨?_, row, tail, rfl, rfl, hmutation⟩
        simp

/-- An event that had found no case when it was overtaken has written nothing more by then. -/
theorem handleEvent_none_split (hdrawn : drawn.caseId ≠ c)
    (h : SplitRun db db' (handleEvent env event drawn customerId tx none) ws ls us outcome vs)
    (hmutated : (CaseAnswer.processed outcome).mutated = some c)
    (hnone : (view db ws).caseByKey (deriveCaseKey event) = none) :
    ls = [] ∧
      (handleEvent env event drawn customerId tx none).run db' ws = .ok (outcome, vs) := by
  have hend := h.mayEnd
  unfold handleEvent at h hend ⊢
  split_ifs at h hend ⊢ with hresolves
  · obtain ⟨rfl, -⟩ := done_mayEnd hend
    cases hmutated
  dsimp only at h hend ⊢
  rcases hrisk : CaseRiskClassifier.classifyRisk event.amountMinor event.currency.code
    event.failureCode event.eventType (Python.Dict.get event.metadata "customer_tier") with
    fault | risk
  · unfold createNewCase at hend
    rw [hrisk] at hend
    cases hend
  rw [createNewCase_eq hrisk] at h ⊢
  obtain ⟨q, hadvance, hrun⟩ := h
  rcases hadvance.head_cases with ⟨rfl, rfl, rfl⟩ | ⟨r, us', l, rest, hmove, hrest, rfl⟩
  · exact ⟨rfl, hrun⟩
  · cases hmove with
    | update =>
      obtain ⟨hopened, -⟩ := openedCase_mayEnd (hrest.mayEnd (.of_run hrun))
      exact absurd (Option.some.inj (hopened.symm.trans hmutated)) hdrawn
    | violated hviolation =>
      have hfree : (RowWrite.insertCase drawn.caseId
          (newCase env event customerId tx.1 risk)).violation (view db ws) = none := by
        refine RowWrite.unique_eq_none.mpr ?_
        rw [show (newCase env event customerId tx.1 risk).caseKey = deriveCaseKey event from rfl,
          hnone]
        rfl
      cases hfree.symm.trans hviolation

/-- So an event that was overtaken before or while it looked for its case had loaded the case, or
it may as well look for it afterwards. -/
theorem search_split (hover : Overtaken c db db' us) (hdrawn : drawn.caseId ≠ c)
    (hcases : ∀ t, (view t ws).recoveryCases = t.recoveryCases)
    (h : SplitRun db db' (findExistingCase event tx.1 >>= handleEvent env event drawn customerId tx)
      ws ls us outcome vs)
    (hmutated : (CaseAnswer.processed outcome).mutated = some c) :
    (c ∈ ls ∧ ∃ row tail, db.caseById c = some (c, row) ∧ vs = ws ++ tail ∧
        Mutation c (some row) tail) ∨
      c ∉ ls ∧ (findExistingCase event tx.1 >>= handleEvent env event drawn customerId tx).run db'
        ws = .ok (outcome, vs) := by
  have hloaded : ∀ (existing : UUID × RecoveryCase) (rest : List UUID),
      db.caseById existing.1 = some existing →
      MayEnd (handleEvent env event drawn customerId tx (some existing)) ws outcome vs →
      c ∈ existing.1 :: rest ∧ ∃ row tail, db.caseById c = some (c, row) ∧ vs = ws ++ tail ∧
        Mutation c (some row) tail := by
    rintro ⟨caseId, row⟩ rest hrow hend
    obtain ⟨rfl, tail, rfl, hmutation⟩ := handleEvent_mayEnd hend hmutated
    exact ⟨List.mem_cons_self, row, tail, hrow, rfl, hmutation⟩
  -- a case that has the key only now is the case itself
  have hmet : ∀ existing, db.caseByKey (deriveCaseKey event) = none →
      db'.caseByKey (deriveCaseKey event) = some existing →
      (handleEvent env event drawn customerId tx
        (db'.caseByTriggerTransaction tx.1)).run db' ws = .ok (outcome, vs) →
      (handleEvent env event drawn customerId tx (some existing)).run db' ws =
        .ok (outcome, vs) := by
    intro existing hnone hkey hrun
    rcases htrigger : db'.caseByTriggerTransaction tx.1 with _ | ⟨caseId, row⟩
    · rw [htrigger] at hrun
      rcases handleEvent_none_run hrun hmutated with ⟨-, hown, -⟩ | ⟨existing', hkey', hrun'⟩
      · exact absurd hown hdrawn
      · rw [Tables.caseByKey_congr (hcases db'), hkey] at hkey'
        cases hkey'
        exact hrun'
    · rw [htrigger] at hrun
      have hfirst := hover.ids'.byKey hkey
      rw [hover.keys _ _ hnone hkey] at hfirst
      have hsecond := hover.ids'.byTrigger htrigger
      obtain ⟨rfl, -⟩ := handleEvent_mayEnd (.of_run hrun) hmutated
      cases hfirst.symm.trans hsecond
      exact hrun
  rw [findExistingCase_bind] at h ⊢
  obtain ⟨q, hadvance, hrun⟩ := h
  rcases hadvance.head_cases with ⟨rfl, rfl, rfl⟩ | ⟨r, us', l, rest, hmove, hrest, rfl⟩
  · exact .inr ⟨List.not_mem_nil, hrun⟩
  cases hmove with
  | query =>
    dsimp only at hrest ⊢
    rw [Tables.caseByKey_congr (hcases db)] at hrest ⊢
    rw [Program.run, Tables.caseByKey_congr (hcases db')]
    rcases hkey : db.caseByKey (deriveCaseKey event) with _ | existing
    · rw [hkey] at hrest
      dsimp only at hrest
      rcases hrest.head_cases with ⟨rfl, rfl, rfl⟩ | ⟨r, us', l, rest', hmove, hlast, rfl⟩
      · refine .inr ⟨List.not_mem_nil, ?_⟩
        rcases hkey' : db'.caseByKey (deriveCaseKey event) with _ | existing
        · exact hrun
        · rw [Program.run, Tables.caseByTriggerTransaction_congr (hcases db')] at hrun
          exact hmet existing hkey hkey' hrun
      · cases hmove with
        | query =>
          dsimp only at hlast ⊢
          rw [Tables.caseByTriggerTransaction_congr (hcases db)] at hlast ⊢
          rcases htrigger : db.caseByTriggerTransaction tx.1 with _ | existing
          · rw [htrigger] at hlast
            obtain ⟨rfl, hrun'⟩ := handleEvent_none_split hdrawn ⟨q, hlast, hrun⟩ hmutated
              ((Tables.caseByKey_congr (hcases db)).trans hkey)
            refine .inr ⟨List.not_mem_nil, ?_⟩
            rcases handleEvent_none_run hrun' hmutated with ⟨-, hown, -⟩ | ⟨existing, hkey', hmeets⟩
            · exact absurd hown hdrawn
            · rw [Tables.caseByKey_congr (hcases db')] at hkey'
              rw [hkey']
              exact hmeets
          · rw [htrigger] at hlast
            exact .inl (hloaded existing rest' (hover.ids.byTrigger htrigger)
              (hlast.mayEnd (.of_run hrun)))
    · rw [hkey] at hrest
      exact .inl (hloaded existing rest (hover.ids.byKey hkey) (hrest.mayEnd (.of_run hrun)))

theorem insertCustomer_guards (id : UUID) (row : Customer) :
    Guards (RowWrite.insertCustomer id row)
      (Tables.customerByExternalId · row.provider row.externalCustomerId) := by
  intro s
  change RowWrite.unique _ _ = none ↔ _
  rw [RowWrite.unique_eq_none, Option.isSome_eq_false_iff, Option.isNone_iff_eq_none]

theorem insertTransaction_guards (id : UUID) (row : Transaction) :
    Guards (RowWrite.insertTransaction id row)
      (Tables.transactionByExternalId · row.provider row.externalTransactionId) := by
  intro s
  change RowWrite.unique _ _ = none ↔ _
  rw [RowWrite.unique_eq_none, Option.isSome_eq_false_iff, Option.isNone_iff_eq_none]

/-- The customer that an overtaken event has found or inserted is found or inserted afterwards as
well. -/
theorem getOrCreateCustomer_again {us' : List RowWrite} {customer : UUID × Customer}
    (hover : Overtaken c db db' us) (hsent : us' ⊆ us)
    (h : SplitRun db db' (getOrCreateCustomer event drawn) [] ls us' customer vs) :
    (getOrCreateCustomer event drawn).run db' [] = .ok (customer, vs) := by
  have hkey := hover.customers (newCustomer event).provider (newCustomer event).externalCustomerId
  refine h.findOrInsert (insertCustomer_guards _ _) (fun a hfind => ?_) fun hnone hinsert => ?_
  · rcases hkey with hsame | ⟨hnone, -⟩
    · exact hsame.trans hfind
    · cases hnone.symm.trans hfind
  · rcases hkey with hsame | ⟨-, hfree⟩
    · exact hsame.trans hnone
    · exact absurd rfl (hfree _ (hsent hinsert))

/-- So is the transaction, if none has been paid meanwhile. -/
theorem getOrCreateTransaction_again {us' : List RowWrite}
    (hkept : ∀ provider externalId,
      db'.transactionByExternalId provider externalId =
          db.transactionByExternalId provider externalId ∨
        db.transactionByExternalId provider externalId = none ∧
          ∀ u ∈ us, u.lock ≠ .transactionKey provider externalId)
    (hrows : ∀ t, (view t ws).transactions = t.transactions) (hsent : us' ⊆ us)
    (h : SplitRun db db' (getOrCreateTransaction event drawn customerId) ws ls us' tx vs) :
    (getOrCreateTransaction event drawn customerId).run db' ws = .ok (tx, vs) := by
  have hview : ∀ t provider externalId, (view t ws).transactionByExternalId provider externalId =
      t.transactionByExternalId provider externalId := by
    intro t provider externalId
    unfold Tables.transactionByExternalId
    rw [hrows]
  have hkey := hkept (newTransaction event customerId).provider
    (newTransaction event customerId).externalTransactionId
  refine h.findOrInsert (insertTransaction_guards _ _) (fun a hfind => ?_) fun hnone hinsert => ?_
  · rw [hview] at hfind ⊢
    rcases hkey with hsame | ⟨hnone, -⟩
    · exact hsame.trans hfind
    · cases hnone.symm.trans hfind
  · rw [hview] at hnone ⊢
    rcases hkey with hsame | ⟨-, hfree⟩
    · exact hsame.trans hnone
    · exact absurd rfl (hfree _ (hsent hinsert))

/-- The rest of an event after its customer. -/
theorem transaction_split (hover : Overtaken c db db' us) (hdrawn : drawn.caseId ≠ c)
    (hws : ∀ u ∈ ws, Provision u) (hrows : ∀ t, (view t ws).transactions = t.transactions)
    (h : SplitRun db db' (getOrCreateTransaction event drawn customerId >>= fun tx =>
      findExistingCase event tx.1 >>= handleEvent env event drawn customerId tx)
        ws ls us outcome vs)
    (hmutated : (CaseAnswer.processed outcome).mutated = some c) :
    (c ∈ ls ∧ ∃ row, db.caseById c = some (c, row) ∧ Wrote c (some row) vs) ∨
      c ∉ ls ∧ (getOrCreateTransaction event drawn customerId >>= fun tx =>
        findExistingCase event tx.1 >>= handleEvent env event drawn customerId tx).run db' ws =
          .ok (outcome, vs) := by
  have hprovisions : ∀ {tx : UUID × Transaction} {vs' : List RowWrite},
      MayEnd (getOrCreateTransaction event drawn customerId) ws tx vs' →
      ∀ u ∈ vs', Provision u := by
    intro tx vs' hend u hu
    rcases hend.findOrInsert_cases with rfl | rfl
    · exact hws u hu
    · rcases List.mem_append.mp hu with hold | hnew
      · exact hws u hold
      · rw [List.mem_singleton.mp hnew]
        exact .transaction _ _
  -- an event that writes to the case after the commit finds it active
  have hagain : ∀ {tx : UUID × Transaction} {ls' : List UUID} {us' vs' : List RowWrite}, us' ⊆ us →
      SplitRun db db' (getOrCreateTransaction event drawn customerId) ws ls' us' tx vs' →
      (findExistingCase event tx.1 >>= handleEvent env event drawn customerId tx).run db' vs' =
        .ok (outcome, vs) →
      (getOrCreateTransaction event drawn customerId >>= fun tx =>
        findExistingCase event tx.1 >>= handleEvent env event drawn customerId tx).run db' ws =
          .ok (outcome, vs) := by
    intro tx ls' us' vs' hsent hsplit hrun
    refine Program.run_bind_eq_ok.mpr ⟨tx, vs', getOrCreateTransaction_again
      (hover.transactions.resolve_left ?_) hrows hsent hsplit, hrun⟩
    rintro ⟨row, hrow, hterminal⟩
    obtain ⟨tail, -, ⟨row', hrow', hmutation⟩ | ⟨hown, -⟩⟩ := search_run hover.ids'
      (view_provisions (hprovisions hsplit.mayEnd) db') hrun hmutated
    · cases hrow.symm.trans hrow'
      exact Bool.noConfusion (hterminal.symm.trans hmutation.active)
    · exact hdrawn hown
  rcases h.bind_cases with ⟨tx, vs', htx, hrun⟩ | ⟨tx, vs', ls₁, ls₂, htx, hsearch, rfl⟩
  · obtain ⟨q, hadvance, -⟩ := id htx
    obtain ⟨rfl, -⟩ := hadvance.findOrInsert_cases
    exact .inr ⟨List.not_mem_nil, hagain (List.Subset.refl us) htx hrun⟩
  obtain ⟨rfl, -⟩ := htx.findOrInsert_cases
  obtain ⟨q, hsent, -⟩ := id hsearch
  have hinserted := hprovisions (htx.mayEnd (.done _ _))
  rw [List.nil_append]
  rcases search_split hover hdrawn (view_provisions hinserted) hsearch hmutated with
    ⟨hloaded, row, tail, hrow, rfl, hmutation⟩ | ⟨hnot, hrun⟩
  · exact .inl ⟨hloaded, row, hrow, vs', tail, rfl, hinserted, hmutation⟩
  · exact .inr ⟨hnot, hagain hsent.grows.subset ⟨_, htx, rfl⟩ hrun⟩

/-- An event that was overtaken had loaded the case, or it may as well begin afterwards. -/
theorem processEvent_split (hover : Overtaken c db db' us) (hdrawn : drawn.caseId ≠ c)
    (h : SplitRun db db' (processEvent env event drawn) [] ls us outcome vs)
    (hmutated : (CaseAnswer.processed outcome).mutated = some c) :
    (c ∈ ls ∧ ∃ row, db.caseById c = some (c, row) ∧ Wrote c (some row) vs) ∨
      c ∉ ls ∧ (processEvent env event drawn).run db' [] = .ok (outcome, vs) := by
  have hend := h.mayEnd
  unfold processEvent at h hend ⊢
  split_ifs at h hend ⊢ with htype
  swap
  · obtain ⟨rfl, -⟩ := done_mayEnd hend
    cases hmutated
  rcases h.bind_cases with ⟨customer, us₁, hcustomer, hrun⟩ |
    ⟨customer, us₁, ls₁, ls₂, hcustomer, hrest, rfl⟩
  · obtain ⟨q, hadvance, -⟩ := id hcustomer
    obtain ⟨rfl, -⟩ := hadvance.findOrInsert_cases
    exact .inr ⟨List.not_mem_nil, Program.run_bind_eq_ok.mpr
      ⟨customer, us₁, getOrCreateCustomer_again hover (List.Subset.refl us) hcustomer, hrun⟩⟩
  obtain ⟨rfl, -⟩ := hcustomer.findOrInsert_cases
  obtain ⟨q, hsent, -⟩ := id hrest
  have hagain := getOrCreateCustomer_again hover hsent.grows.subset ⟨_, hcustomer, rfl⟩
  have hws : ∀ u ∈ us₁, Provision u := by
    rcases (hcustomer.mayEnd (.done _ _)).findOrInsert_cases with rfl | rfl
    · exact fun _ hu => absurd hu List.not_mem_nil
    · exact List.forall_mem_singleton.mpr (.customer _ _)
  have hrows : ∀ t, (view t us₁).transactions = t.transactions := by
    rcases (hcustomer.mayEnd (.done _ _)).findOrInsert_cases with rfl | rfl <;> exact fun _ => rfl
  rw [List.nil_append]
  rcases transaction_split hover hdrawn hws hrows hrest hmutated with hloaded | ⟨hnot, hrun⟩
  · exact .inl hloaded
  · exact .inr ⟨hnot, Program.run_bind_eq_ok.mpr ⟨customer, us₁, hagain, hrun⟩⟩

end Concurrent

/-! ## The operations -/

namespace CaseOperation

variable {env : Env} {op : CaseOperation} {db db' : Tables} {ls : List UUID} {c : UUID}
  {ws us : List RowWrite} {answer : CaseAnswer}

/-- Alone, an operation that is answered with a write has written to the case as it was, or it has
opened it. -/
theorem run_wrote (hids : db.CaseIdsUnique)
    (h : (op.statements env).run db [] = .ok (answer, ws)) (hmutated : answer.mutated = some c) :
    (∃ row, db.caseById c = some (c, row) ∧ Wrote c (some row) ws) ∨
      op.drawnCase = some c ∧ Wrote c none ws := by
  cases op with
  | transitionState caseId transition =>
    obtain ⟨⟨⟩, us, hrun, hanswer⟩ := Program.run_bind_eq_ok.mp h
    cases hanswer
    cases hmutated
    simp only [Concurrent.transitionState, Concurrent.selectCase, Program.query_bind,
      Program.done_bind, Program.run, view_nil] at hrun
    rcases hrow : db.caseById c with _ | ⟨caseId, row⟩
    · rw [hrow] at hrun
      cases hrun
    · obtain rfl : caseId = c := Tables.caseById_fst hrow
      rw [hrow] at hrun
      obtain ⟨tail, rfl, hmutation⟩ := Concurrent.transitionLoaded_mayEnd (.of_run hrun)
      exact .inl ⟨row, rfl, [], _, rfl, fun _ hu => absurd hu List.not_mem_nil, hmutation⟩
  | processEvent event drawn =>
    obtain ⟨outcome, us, hrun, hanswer⟩ := Program.run_bind_eq_ok.mp h
    cases hanswer
    unfold Concurrent.processEvent at hrun
    split_ifs at hrun
    · obtain ⟨customer, us₁, hcustomer, hrest⟩ := Program.run_bind_eq_ok.mp hrun
      obtain ⟨tx, us₂, htx, hsearch⟩ := Program.run_bind_eq_ok.mp hrest
      have hpre : ∀ u ∈ us₂, Provision u := by
        rcases (MayEnd.of_run htx).findOrInsert_cases with rfl | rfl <;>
          rcases (MayEnd.of_run hcustomer).findOrInsert_cases with rfl | rfl
        · simp
        · simpa using Provision.customer _ _
        · simpa using Provision.transaction _ _
        · simpa using ⟨Provision.customer _ _, Provision.transaction _ _⟩
      obtain ⟨tail, rfl, ⟨row, hrow, hmutation⟩ | ⟨hown, hmutation⟩⟩ :=
        Concurrent.search_run hids (view_provisions hpre db) hsearch hmutated
      · exact .inl ⟨row, hrow, us₂, tail, rfl, hpre, hmutation⟩
      · exact .inr ⟨congrArg some hown, us₂, tail, rfl, hpre, hmutation⟩
    · cases hrun
      cases hmutated

/-- An operation that was overtaken had loaded the case, or it may as well begin afterwards. -/
theorem split (hover : Overtaken c db db' us) (hdrawn : op.drawnCase ≠ some c)
    (h : SplitRun db db' (op.statements env) [] ls us answer ws)
    (hmutated : answer.mutated = some c) :
    (c ∈ ls ∧ ∃ row, db.caseById c = some (c, row) ∧ Wrote c (some row) ws) ∨
      c ∉ ls ∧ (op.statements env).run db' [] = .ok (answer, ws) := by
  cases op with
  | transitionState caseId transition =>
    obtain ⟨⟨⟩, rfl, hsplit⟩ := h.map_cases
    cases hmutated
    rcases Concurrent.transitionState_split hsplit rfl with
      ⟨hloaded, row, tail, hrow, rfl, hmutation⟩ | ⟨hnot, hrun⟩
    · exact .inl ⟨hloaded, row, hrow, [], ws, rfl, fun _ hu => absurd hu List.not_mem_nil,
        hmutation⟩
    · exact .inr ⟨hnot, Program.run_bind_eq_ok.mpr ⟨(), ws, hrun, rfl⟩⟩
  | processEvent event drawn =>
    obtain ⟨outcome, rfl, hsplit⟩ := h.map_cases
    have hother : drawn.caseId ≠ c := fun hown => hdrawn (congrArg some hown)
    rcases Concurrent.processEvent_split hover hother hsplit hmutated with hloaded | ⟨hnot, hrun⟩
    · exact .inl hloaded
    · exact .inr ⟨hnot, Program.run_bind_eq_ok.mpr ⟨outcome, ws, hrun, rfl⟩⟩

end CaseOperation

end RevenueRescue
