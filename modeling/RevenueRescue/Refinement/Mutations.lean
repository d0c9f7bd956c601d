import RevenueRescue.Concurrency.Requests

/-!
# What an operation writes to a case

Wherever the statements of the others fall, an operation that writes to a case ends with the
same few updates: one of the row of the case, computed from the row it has loaded, and its
entries in the logs. Before them it has at most inserted a customer and a transaction.

So the operation that commits last decides what the row holds in the end, and the version it
leaves is one more than the version it has loaded.
-/

namespace RevenueRescue

open EventToCaseEngine ReadCommitted

/-- The last updates of an operation that writes to a case: to the row it has loaded, which is
not in a terminal state, or to a new row. -/
inductive Mutation (caseId : UUID) : Option RecoveryCase → List RowWrite → Prop
  | transitioned {loaded : RecoveryCase} (env : Env) (toState : RecoveryCaseState)
      (entry : CaseStateTransition) (record : AuditEvent)
      (hactive : loaded.state.isTerminal = false) :
    Mutation caseId (some loaded)
      [.updateCase caseId (Concurrent.setTransitioned env toState loaded), .insertTransition entry,
        .insertAudit record]
  | updated {loaded : RecoveryCase} (env : Env) (event : CanonicalEventDTO)
      (newFailureCount : Python.Json) (record : AuditEvent)
      (hactive : loaded.state.isTerminal = false) :
    Mutation caseId (some loaded)
      [.updateCase caseId (Concurrent.setUpdated env event newFailureCount loaded),
        .insertAudit record]
  | resolved {loaded : RecoveryCase} (env : Env) (paid : Option UUID)
      (entry : CaseStateTransition) (record : AuditEvent)
      (hactive : loaded.state.isTerminal = false) :
    Mutation caseId (some loaded)
      (paid.toList.map (RowWrite.updateTransaction · fun t => { t with status := .SUCCEEDED }) ++
        [.updateCase caseId (Concurrent.setResolved env loaded), .insertTransition entry,
          .insertAudit record])
  | created {row : RecoveryCase} (entry : CaseStateTransition) (record : AuditEvent)
      (hversion : row.version = 1) :
    Mutation caseId none
      [.insertCase caseId row, .insertTransition entry, .insertAudit record]

theorem Mutation.active {c : UUID} {loaded : RecoveryCase} {tail : List RowWrite}
    (h : Mutation c (some loaded) tail) : loaded.state.isTerminal = false := by
  cases h <;> assumption

namespace Concurrent

variable {α β : Type} {env : Env} {event : CanonicalEventDTO} {drawn : Drawn}
  {ws vs : List RowWrite}

theorem select_mayEnd {read : Tables → β} {k : β → Statements α} {a : α}
    (h : MayEnd (select read >>= k) ws a vs) : ∃ b, MayEnd (k b) ws a vs := by
  cases h with
  | query s h => exact ⟨read s, h⟩

theorem flush_mayEnd {u : RowWrite} {k : Unit → Statements α} {a : α}
    (h : MayEnd (flush u >>= k) ws a vs) : MayEnd (k ()) (ws ++ [u]) a vs := by
  cases h with
  | update h => exact h
  | violated e h => cases h

theorem done_mayEnd {a b : α} (h : MayEnd (.done a : Statements α) ws b vs) :
    b = a ∧ vs = ws := by
  cases h with
  | done => exact ⟨rfl, rfl⟩

theorem append_three (ws : List RowWrite) (u v w : RowWrite) :
    ws ++ [u] ++ [v] ++ [w] = ws ++ [u, v, w] := by
  simp

/-- Once the case is loaded, a transition ends with its three updates. -/
theorem transitionLoaded_mayEnd {caseId : UUID}
    {transition : RecoveryCaseService.CaseStateTransitionDTO} {loaded : RecoveryCase}
    (h : MayEnd (transitionLoaded env caseId transition loaded) ws () vs) :
    ∃ tail, vs = ws ++ tail ∧ Mutation caseId (some loaded) tail := by
  unfold transitionLoaded at h
  split_ifs at h with hrefused
  · cases h
  · obtain ⟨transitionNumber, h⟩ := select_mayEnd h
    obtain ⟨auditNumber, h⟩ := select_mayEnd h
    have hlast := flush_mayEnd (k := pure) (flush_mayEnd (flush_mayEnd h))
    obtain ⟨-, rfl⟩ := done_mayEnd hlast
    have hactive := Bool.eq_false_of_not_eq_true fun hterminal => hrefused (.inl hterminal)
    exact ⟨_, append_three .., .transitioned env transition.toState _ _ hactive⟩

variable {caseId m : UUID} {loaded : RecoveryCase} {tx : UUID × Transaction}
  {outcome : CaseProcessingOutcome}

/-- A further failure that is answered with a write ends with its two updates. -/
theorem handleExistingCaseUpdate_mayEnd
    (h : MayEnd (handleExistingCaseUpdate env event caseId loaded tx) ws outcome vs)
    (hmutated : (CaseAnswer.processed outcome).mutated = some m) :
    m = caseId ∧ ∃ tail, vs = ws ++ tail ∧ Mutation caseId (some loaded) tail := by
  unfold handleExistingCaseUpdate at h
  split_ifs at h with hterminal
  · obtain ⟨rfl, -⟩ := done_mayEnd h
    cases hmutated
  · obtain ⟨trigger, us, htrigger, hrest⟩ := h.bind_cases
    obtain rfl : us = ws := by
      unfold triggerTransaction at htrigger
      split_ifs at htrigger
      · exact (done_mayEnd htrigger).2
      · obtain ⟨b, htrigger⟩ := select_mayEnd (k := pure) htrigger
        exact (done_mayEnd htrigger).2
    split_ifs at hrest
    · obtain ⟨rfl, -⟩ := done_mayEnd hrest
      cases hmutated
    · unfold updateLoaded at hrest
      split at hrest
      · cases hrest
      · obtain ⟨auditNumber, hrest⟩ := select_mayEnd hrest
        have hlast := flush_mayEnd (flush_mayEnd hrest)
        obtain ⟨rfl, rfl⟩ := done_mayEnd hlast
        cases hmutated
        refine ⟨rfl, _, List.append_assoc .., ?_⟩
        exact .updated env event _ _ (Bool.eq_false_of_not_eq_true hterminal)

/-- A success that is answered with a write ends with the resolution. -/
theorem handlePaymentSucceeded_mayEnd
    (h : MayEnd (handlePaymentSucceeded env (some (caseId, loaded)) tx) ws outcome vs)
    (hmutated : (CaseAnswer.processed outcome).mutated = some m) :
    m = caseId ∧ ∃ tail, vs = ws ++ tail ∧ Mutation caseId (some loaded) tail := by
  unfold handlePaymentSucceeded at h
  dsimp only at h
  split_ifs at h with hterminal
  · obtain ⟨rfl, -⟩ := done_mayEnd h
    cases hmutated
  · have hactive := Bool.eq_false_of_not_eq_true hterminal
    unfold resolveLoaded at h
    obtain ⟨transitionNumber, h⟩ := select_mayEnd h
    obtain ⟨auditNumber, h⟩ := select_mayEnd h
    obtain ⟨⟨⟩, us, hmark, h⟩ := h.bind_cases
    have hlast := flush_mayEnd (flush_mayEnd (flush_mayEnd h))
    obtain ⟨rfl, rfl⟩ := done_mayEnd hlast
    cases hmutated
    unfold markSucceeded at hmark
    split_ifs at hmark
    · obtain ⟨-, rfl⟩ := done_mayEnd hmark
      exact ⟨rfl, _, append_three .., .resolved env none _ _ hactive⟩
    · obtain ⟨-, rfl⟩ := done_mayEnd (flush_mayEnd (k := pure) hmark)
      exact ⟨rfl, _, (append_three ..).trans (List.append_assoc ..),
        .resolved env (some tx.1) _ _ hactive⟩

/-- An event that finds its case and is answered with a write has written to that case. -/
theorem handleEvent_mayEnd {customerId : UUID}
    (h : MayEnd (handleEvent env event drawn customerId tx (some (caseId, loaded))) ws outcome vs)
    (hmutated : (CaseAnswer.processed outcome).mutated = some m) :
    m = caseId ∧ ∃ tail, vs = ws ++ tail ∧ Mutation caseId (some loaded) tail := by
  unfold handleEvent at h
  split_ifs at h
  · exact handlePaymentSucceeded_mayEnd h hmutated
  · exact handleExistingCaseUpdate_mayEnd h hmutated

/-! ## Alone -/

variable {t : Tables} {c : UUID} {customerId : UUID}

/-- The lookup by key and then by trigger transaction, with what follows. -/
theorem findExistingCase_bind (txId : UUID) (k : Option (UUID × RecoveryCase) → Statements α) :
    (findExistingCase event txId >>= k) =
      .query (fun t => (t.caseByKey (deriveCaseKey event)).map Prod.fst) fun t =>
        match t.caseByKey (deriveCaseKey event) with
        | some existing => k (some existing)
        | none => .query (fun t => (t.caseByTriggerTransaction txId).map Prod.fst) fun t =>
            k (t.caseByTriggerTransaction txId) := by
  change Program.query _ _ = Program.query _ _
  congr 1
  funext t
  dsimp only [id, Program.bind]
  rcases t.caseByKey (deriveCaseKey event) with _ | existing <;> rfl

/-- The insert of a new case, with what follows. -/
theorem createNewCase_eq {risk : RiskClassificationResult}
    (hrisk : CaseRiskClassifier.classifyRisk event.amountMinor event.currency.code
      event.failureCode event.eventType (Python.Dict.get event.metadata "customer_tier") =
        .ok risk) :
    createNewCase env event drawn customerId tx =
      .update (RowWrite.insertCase drawn.caseId (newCase env event customerId tx.1 risk))
        (openedCase env risk drawn.caseId (newCase env event customerId tx.1 risk)) fun fault =>
          .query (fun t => (t.caseByKey (deriveCaseKey event)).map Prod.fst) fun t =>
            match t.caseByKey (deriveCaseKey event) with
            | some existing => handleExistingCaseUpdate env event existing.1 existing.2 tx
            | none => .fail fault := by
  unfold createNewCase
  rw [hrisk]
  change Program.update _ _ _ = Program.update _ _ _
  congr 1
  funext fault
  change Program.query _ _ = Program.query _ _
  congr 1
  funext t
  dsimp only [Program.bind]
  have hkey : (newCase env event customerId tx.1 risk).caseKey = deriveCaseKey event := rfl
  rw [hkey]
  rcases t.caseByKey (deriveCaseKey event) with _ | existing <;> rfl

theorem openedCase_mayEnd {risk : RiskClassificationResult} {row : RecoveryCase}
    (h : MayEnd (openedCase env risk caseId row) ws outcome vs) :
    (CaseAnswer.processed outcome).mutated = some caseId ∧
      ∃ entry record, vs = ws ++ [.insertTransition entry, .insertAudit record] := by
  unfold openedCase at h
  obtain ⟨auditNumber, h⟩ := select_mayEnd h
  have hlast := flush_mayEnd (flush_mayEnd h)
  obtain ⟨rfl, rfl⟩ := done_mayEnd hlast
  exact ⟨rfl, _, _, List.append_assoc ..⟩

/-- Alone, an event that found no case opens its own one, or it meets the one that has its key. -/
theorem createNewCase_run
    (h : (createNewCase env event drawn customerId tx).run t ws = .ok (outcome, vs))
    (hmutated : (CaseAnswer.processed outcome).mutated = some c) :
    ((view t ws).caseByKey (deriveCaseKey event) = none ∧ drawn.caseId = c ∧
        ∃ tail, vs = ws ++ tail ∧ Mutation c none tail) ∨
      ∃ existing, (view t ws).caseByKey (deriveCaseKey event) = some existing ∧
        (handleExistingCaseUpdate env event existing.1 existing.2 tx).run t ws =
          .ok (outcome, vs) := by
  rcases hrisk : CaseRiskClassifier.classifyRisk event.amountMinor event.currency.code
    event.failureCode event.eventType (Python.Dict.get event.metadata "customer_tier") with
    fault | risk
  · unfold createNewCase at h
    rw [hrisk] at h
    cases h
  rw [createNewCase_eq hrisk, Program.run] at h
  have hkey : (newCase env event customerId tx.1 risk).caseKey = deriveCaseKey event := rfl
  rcases hfind : (view t ws).caseByKey (deriveCaseKey event) with _ | existing
  · have hfree : (RowWrite.insertCase drawn.caseId
        (newCase env event customerId tx.1 risk)).violation (view t ws) = none :=
      RowWrite.unique_eq_none.mpr (by rw [hkey, hfind]; rfl)
    rw [hfree] at h
    obtain ⟨hopened, entry, record, rfl⟩ := openedCase_mayEnd (.of_run h)
    cases hmutated.symm.trans hopened
    exact .inl ⟨rfl, rfl, _, List.append_assoc .., .created entry record rfl⟩
  · have htaken : (RowWrite.insertCase drawn.caseId
        (newCase env event customerId tx.1 risk)).violation (view t ws) =
          some (.integrityError .uq_recovery_case_key) := by
      change RowWrite.unique _ _ = _
      rw [hkey, hfind]
      rfl
    rw [htaken] at h
    simp only [Program.run, hfind] at h
    exact .inr ⟨existing, rfl, h⟩

/-- The same for any event that found no case. -/
theorem handleEvent_none_run
    (h : (handleEvent env event drawn customerId tx none).run t ws = .ok (outcome, vs))
    (hmutated : (CaseAnswer.processed outcome).mutated = some c) :
    ((view t ws).caseByKey (deriveCaseKey event) = none ∧ drawn.caseId = c ∧
        ∃ tail, vs = ws ++ tail ∧ Mutation c none tail) ∨
      ∃ existing, (view t ws).caseByKey (deriveCaseKey event) = some existing ∧
        (handleEvent env event drawn customerId tx (some existing)).run t ws =
          .ok (outcome, vs) := by
  unfold handleEvent at h ⊢
  split_ifs at h with hresolves
  · cases h
    cases hmutated
  · simp only [if_neg hresolves]
    exact createNewCase_run h hmutated

end Concurrent

/-! ## The rows of the cases -/

namespace Tables

variable {s t : Tables} {caseKey : String} {txId : UUID} {row : UUID × RecoveryCase}

/-- No two cases have the same identity. -/
def CaseIdsUnique (t : Tables) : Prop := (t.recoveryCases.map Prod.fst).Nodup

theorem CaseIdsUnique.byKey (h : t.CaseIdsUnique) (hfind : t.caseByKey caseKey = some row) :
    t.caseById row.1 = some row :=
  find?_key_of_mem h (List.mem_of_find?_eq_some hfind)

theorem CaseIdsUnique.byTrigger (h : t.CaseIdsUnique)
    (hfind : t.caseByTriggerTransaction txId = some row) : t.caseById row.1 = some row :=
  find?_key_of_mem h (List.mem_of_find?_eq_some hfind)

theorem caseById_fst {caseId : UUID} (h : t.caseById caseId = some row) : row.1 = caseId := by
  unfold caseById at h
  simpa using List.find?_some h

theorem caseByKey_congr (h : s.recoveryCases = t.recoveryCases) :
    s.caseByKey caseKey = t.caseByKey caseKey := by
  unfold caseByKey
  rw [h]

theorem caseByTriggerTransaction_congr (h : s.recoveryCases = t.recoveryCases) :
    s.caseByTriggerTransaction txId = t.caseByTriggerTransaction txId := by
  unfold caseByTriggerTransaction
  rw [h]

end Tables

namespace Concurrent

variable {env : Env} {event : CanonicalEventDTO} {drawn : Drawn} {ws vs : List RowWrite}
  {t : Tables} {c customerId : UUID} {tx : UUID × Transaction} {outcome : CaseProcessingOutcome}

/-- Alone, an event that is answered with a write has written to the case as it was, or it has
opened it. -/
theorem search_run (hids : t.CaseIdsUnique)
    (hcases : (view t ws).recoveryCases = t.recoveryCases)
    (h : (findExistingCase event tx.1 >>= handleEvent env event drawn customerId tx).run t ws =
      .ok (outcome, vs))
    (hmutated : (CaseAnswer.processed outcome).mutated = some c) :
    ∃ tail, vs = ws ++ tail ∧
      ((∃ row, t.caseById c = some (c, row) ∧ Mutation c (some row) tail) ∨
        drawn.caseId = c ∧ Mutation c none tail) := by
  have hfound : ∀ existing : UUID × RecoveryCase, t.caseById existing.1 = some existing →
      (handleEvent env event drawn customerId tx (some existing)).run t ws = .ok (outcome, vs) →
      ∃ tail, vs = ws ++ tail ∧
        ((∃ row, t.caseById c = some (c, row) ∧ Mutation c (some row) tail) ∨
          drawn.caseId = c ∧ Mutation c none tail) := by
    rintro ⟨caseId, row⟩ hrow hrun
    obtain ⟨rfl, tail, rfl, hmutation⟩ := handleEvent_mayEnd (.of_run hrun) hmutated
    exact ⟨tail, rfl, .inl ⟨row, hrow, hmutation⟩⟩
  rw [findExistingCase_bind, Program.run] at h
  rw [Tables.caseByKey_congr hcases] at h
  rcases hkey : t.caseByKey (deriveCaseKey event) with _ | existing
  · rw [hkey] at h
    dsimp only at h
    rw [Program.run, Tables.caseByTriggerTransaction_congr hcases] at h
    rcases htrigger : t.caseByTriggerTransaction tx.1 with _ | existing
    · rw [htrigger] at h
      rcases handleEvent_none_run h hmutated with ⟨-, hdrawn, tail, rfl, hmutation⟩ |
        ⟨existing, hother, -⟩
      · exact ⟨tail, rfl, .inr ⟨hdrawn, hmutation⟩⟩
      · rw [Tables.caseByKey_congr hcases, hkey] at hother
        cases hother
    · rw [htrigger] at h
      exact hfound existing (hids.byTrigger htrigger) h
  · rw [hkey] at h
    exact hfound existing (hids.byKey hkey) h

end Concurrent

/-! ## What has changed -/

/-- An insert of a customer or of a transaction. -/
inductive Provision : RowWrite → Prop
  | customer (id : UUID) (row : Customer) : Provision (.insertCustomer id row)
  | transaction (id : UUID) (row : Transaction) : Provision (.insertTransaction id row)

/-- The updates of an operation that has written to the case. -/
def Wrote (caseId : UUID) (loaded : Option RecoveryCase) (ws : List RowWrite) : Prop :=
  ∃ pre tail, ws = pre ++ tail ∧ (∀ u ∈ pre, Provision u) ∧ Mutation caseId loaded tail

/-- The version of a case, 0 if there is none. -/
def Tables.versionOf (t : Tables) (caseId : UUID) : ℕ :=
  ((t.caseById caseId).map fun c => c.2.version).getD 0

variable {t : Tables} {c : UUID} {loaded row : RecoveryCase} {ws pre tail : List RowWrite}

theorem view_provisions (h : ∀ u ∈ pre, Provision u) (t : Tables) :
    (view t pre).recoveryCases = t.recoveryCases := by
  refine view_eq_of_forall Tables.recoveryCases (fun u hu s => ?_) t
  cases h u hu <;> rfl

/-- The row that was loaded is rewritten with the version after the loaded one. -/
theorem Wrote.rewritten (h : Wrote c (some loaded) ws) (t : Tables) :
    ∃ f : RecoveryCase → RecoveryCase,
      (∀ row, (f row).version = loaded.version + 1 ∧ (f row).caseKey = row.caseKey) ∧
        (view t ws).recoveryCases = rewriteRow c f t.recoveryCases := by
  obtain ⟨pre, tail, rfl, hpre, hmutation⟩ := h
  rw [view_append, ← view_provisions hpre t]
  cases hmutation with
  | transitioned env toState entry record _ =>
    exact ⟨Concurrent.setTransitioned env toState loaded, fun _ => ⟨rfl, rfl⟩, rfl⟩
  | updated env event newFailureCount record _ =>
    exact ⟨Concurrent.setUpdated env event newFailureCount loaded, fun _ => ⟨rfl, rfl⟩, rfl⟩
  | resolved env paid entry record _ =>
    refine ⟨Concurrent.setResolved env loaded, fun _ => ⟨rfl, rfl⟩, ?_⟩
    rcases paid with _ | id <;> rfl

/-- A new row is added with the first version. -/
theorem Wrote.inserted (h : Wrote c none ws) (t : Tables) :
    ∃ row : RecoveryCase, row.version = 1 ∧
      (view t ws).recoveryCases = t.recoveryCases ++ [(c, row)] := by
  obtain ⟨pre, tail, rfl, hpre, hmutation⟩ := h
  rw [view_append, ← view_provisions hpre t]
  cases hmutation with
  | created entry record hversion => exact ⟨_, hversion, rfl⟩

theorem Wrote.caseById (h : Wrote c (some loaded) ws) (hrow : t.caseById c = some (c, row)) :
    ∃ row, (view t ws).caseById c = some (c, row) ∧ row.version = loaded.version + 1 := by
  obtain ⟨f, hf, hcases⟩ := h.rewritten t
  refine ⟨f row, ?_, (hf row).1⟩
  unfold Tables.caseById at hrow ⊢
  rw [hcases, find?_rewriteRow, hrow]
  · simp
  · exact fun _ => rfl

/-- The version that is left is the one after the loaded version. -/
theorem Wrote.versionOf (h : Wrote c (some loaded) ws) (hrow : t.caseById c = some (c, row)) :
    (view t ws).versionOf c = loaded.version + 1 := by
  obtain ⟨row', hrow', hversion⟩ := h.caseById hrow
  unfold Tables.versionOf
  rw [hrow', ← hversion]
  rfl

theorem Wrote.versionOf_new (h : Wrote c none ws) (hnew : t.caseById c = none) :
    (view t ws).versionOf c = 1 := by
  obtain ⟨row, hversion, hcases⟩ := h.inserted t
  unfold Tables.versionOf Tables.caseById at *
  rw [hcases, List.find?_append, hnew, Option.none_or, List.find?_cons_of_pos (by simp)]
  exact hversion

/-- The identities stay unique. -/
theorem Wrote.caseIdsUnique (h : Wrote c (some loaded) ws) (hids : t.CaseIdsUnique) :
    (view t ws).CaseIdsUnique := by
  obtain ⟨f, -, hcases⟩ := h.rewritten t
  unfold Tables.CaseIdsUnique at hids ⊢
  rwa [hcases, map_fst_rewriteRow]

theorem Wrote.caseIdsUnique_new (h : Wrote c none ws) (hids : t.CaseIdsUnique)
    (hnew : c ∉ t.recoveryCases.map Prod.fst) : (view t ws).CaseIdsUnique := by
  obtain ⟨row, -, hcases⟩ := h.inserted t
  unfold Tables.CaseIdsUnique at hids ⊢
  rw [hcases, List.map_append]
  exact List.nodup_append.mpr ⟨hids, List.nodup_singleton _, fun a ha b hb hab => by
    simp only [List.map_cons, List.map_nil, List.mem_singleton] at hb
    exact hnew (hb ▸ hab ▸ ha)⟩

/-- A key that is new belongs to the case. -/
theorem Wrote.caseByKey {loaded : Option RecoveryCase} (h : Wrote c loaded ws) {caseKey : String}
    (hnone : t.caseByKey caseKey = none) {row : UUID × RecoveryCase}
    (hrow : (view t ws).caseByKey caseKey = some row) : row.1 = c := by
  unfold Tables.caseByKey at hnone hrow
  rcases loaded with _ | loaded
  · obtain ⟨new, -, hcases⟩ := h.inserted t
    rw [hcases, List.find?_append, hnone, Option.none_or] at hrow
    have hmem := List.mem_of_find?_eq_some hrow
    rw [List.mem_singleton.mp hmem]
  · obtain ⟨f, hf, hcases⟩ := h.rewritten t
    rw [hcases, find?_rewriteRow (fun _ => by rw [(hf _).2]), hnone] at hrow
    cases hrow

/-- A customer is found as before, or it is new and its key is locked. -/
theorem Wrote.customers {loaded : Option RecoveryCase} (h : Wrote c loaded ws) (t : Tables)
    (provider externalId : String) :
    (view t ws).customerByExternalId provider externalId =
        t.customerByExternalId provider externalId ∨
      t.customerByExternalId provider externalId = none ∧
        ∃ u ∈ ws, u.lock = .customerKey provider externalId := by
  obtain ⟨pre, tail, rfl, hpre, hmutation⟩ := h
  have htail : (view (view t pre) tail).customers = (view t pre).customers := by
    cases hmutation with
    | resolved _ paid => rcases paid with _ | id <;> rfl
    | _ => rfl
  have hpart : (view t (pre ++ tail)).customerByExternalId provider externalId =
      (view t pre).customerByExternalId provider externalId := by
    unfold Tables.customerByExternalId
    rw [view_append, htail]
  rw [hpart]
  refine (view_find (Tables.customerByExternalId · provider externalId)
    (.customerKey provider externalId) (fun u hu s => ?_) t).imp_right
      fun ⟨hnone, u, hu, hlock⟩ => ⟨hnone, u, List.mem_append_left tail hu, hlock⟩
  cases hpre u hu with
  | transaction id row => exact .inl rfl
  | customer id row =>
    refine (find?_snoc_cases _ s.customers (id, row)).imp_right fun ⟨hnone, hkey⟩ => ⟨hnone, ?_⟩
    rw [Bool.and_eq_true, beq_iff_eq, beq_iff_eq] at hkey
    exact congrArg₂ RowLock.customerKey hkey.1 hkey.2

/-- So is a transaction, unless the case is in a terminal state now. -/
theorem Wrote.transactions {loaded : Option RecoveryCase} (h : Wrote c loaded ws)
    (hrow : t.caseById c = loaded.map fun row => (c, row)) :
    (∃ row, (view t ws).caseById c = some (c, row) ∧ row.state.isTerminal = true) ∨
      ∀ provider externalId, (view t ws).transactionByExternalId provider externalId =
          t.transactionByExternalId provider externalId ∨
        t.transactionByExternalId provider externalId = none ∧
          ∃ u ∈ ws, u.lock = .transactionKey provider externalId := by
  obtain ⟨pre, tail, rfl, hpre, hmutation⟩ := h
  have hkept : (view (view t pre) tail).transactions = (view t pre).transactions →
      ∀ provider externalId, (view t (pre ++ tail)).transactionByExternalId provider externalId =
          t.transactionByExternalId provider externalId ∨
        t.transactionByExternalId provider externalId = none ∧
          ∃ u ∈ pre ++ tail, u.lock = .transactionKey provider externalId := by
    intro htail provider externalId
    have hpart : (view t (pre ++ tail)).transactionByExternalId provider externalId =
        (view t pre).transactionByExternalId provider externalId := by
      unfold Tables.transactionByExternalId
      rw [view_append, htail]
    rw [hpart]
    refine (view_find (Tables.transactionByExternalId · provider externalId)
      (.transactionKey provider externalId) (fun u hu s => ?_) t).imp_right
        fun ⟨hnone, u, hu, hlock⟩ => ⟨hnone, u, List.mem_append_left tail hu, hlock⟩
    cases hpre u hu with
    | customer id row => exact .inl rfl
    | transaction id row =>
      refine (find?_snoc_cases _ s.transactions (id, row)).imp_right
        fun ⟨hnone, hkey⟩ => ⟨hnone, ?_⟩
      rw [Bool.and_eq_true, beq_iff_eq, beq_iff_eq] at hkey
      exact congrArg₂ RowLock.transactionKey hkey.1 hkey.2
  cases hmutation with
  | transitioned => exact .inr (hkept rfl)
  | updated => exact .inr (hkept rfl)
  | created => exact .inr (hkept rfl)
  | @resolved row env paid entry record _ =>
    refine .inl ⟨Concurrent.setResolved env row row, ?_, rfl⟩
    have hcases : (view t (pre ++ (paid.toList.map (RowWrite.updateTransaction · fun t =>
        { t with status := .SUCCEEDED }) ++ [.updateCase c (Concurrent.setResolved env row),
          .insertTransition entry, .insertAudit record]))).recoveryCases =
        rewriteRow c (Concurrent.setResolved env row) t.recoveryCases := by
      rw [view_append, ← view_provisions hpre t]
      rcases paid with _ | id <;> rfl
    unfold Tables.caseById at hrow ⊢
    rw [hcases, find?_rewriteRow, hrow]
    · simp
    · exact fun _ => rfl

end RevenueRescue
