import RevenueRescue.Cases.Ingestion
import RevenueRescue.Refinement.Services

/-!
# Events within their authority

An event first provisions its customer and its transaction, which never raises, and then
meets at most one case. Which one is determined by the rows before the event, and it is the
only case that the event can recover.
-/

namespace RevenueRescue

open Python

variable {A : Authority} {s : Store}

namespace EventToCaseEngine

/-- The row of the customer of an event, where it is or where it will be stored. -/
def customerOf (s : Store) (event : CanonicalEventDTO) : UUID :=
  ((s.customerByExternalId event.provider event.customerReference).map Prod.fst).getD
    s.customers.length

/-- The rows after the customer of an event is provisioned. -/
def withCustomer (s : Store) (event : CanonicalEventDTO) : Store :=
  if (s.customerByExternalId event.provider event.customerReference).isSome then s
  else { s with customers := s.customers ++ [newCustomer event] }

/-- The row of the transaction of an event, where it is or where it will be stored. -/
def transactionOf (s : Store) (event : CanonicalEventDTO) : UUID :=
  ((s.transactionByExternalId event.provider (transactionReference event)).map Prod.fst).getD
    s.transactions.length

/-- The rows after the transaction of an event is provisioned. -/
def withTransaction (s : Store) (event : CanonicalEventDTO) (customerId : UUID) : Store :=
  if (s.transactionByExternalId event.provider (transactionReference event)).isSome then s
  else { s with transactions := s.transactions ++ [newTransaction event customerId] }

/-- The rows an event is processed on. -/
def provisioned (s : Store) (event : CanonicalEventDTO) : Store :=
  withTransaction (withCustomer s event) event (customerOf s event)

/-- The case an event meets. -/
def matchedCase (s : Store) (event : CanonicalEventDTO) : Option (UUID × RecoveryCase) :=
  findExistingCase s event (transactionOf s event)

/-- Provisioning a customer never raises. -/
theorem getOrCreateCustomer_apply (s : Store) (event : CanonicalEventDTO) :
    getOrCreateCustomer event s = .ok (customerOf s event, withCustomer s event) := by
  unfold customerOf withCustomer
  unfold getOrCreateCustomer
  rw [Tx.get_bind_apply]
  rcases hfind : s.customerByExternalId event.provider event.customerReference with _ | ⟨id, row⟩
  · have hfree := Bool.eq_false_iff.mp (Table.find?_none_any hfind)
    exact (insertCustomer_apply (newCustomer event) s).trans (if_neg hfree)
  · rfl

/-- Provisioning a transaction never raises. -/
theorem getOrCreateTransaction_apply (s : Store) (event : CanonicalEventDTO) (customerId : UUID) :
    getOrCreateTransaction event customerId s =
      .ok (transactionOf s event, withTransaction s event customerId) := by
  unfold transactionOf withTransaction
  unfold getOrCreateTransaction
  rw [Tx.get_bind_apply]
  rcases hfind : s.transactionByExternalId event.provider (transactionReference event)
    with _ | ⟨id, row⟩
  · have hfree := Bool.eq_false_iff.mp (Table.find?_none_any hfind)
    exact (insertTransaction_apply (newTransaction event customerId) s).trans (if_neg hfree)
  · rfl

@[simp] theorem withCustomer_transactions (s : Store) (event : CanonicalEventDTO) :
    (withCustomer s event).transactions = s.transactions := by
  unfold withCustomer
  split <;> rfl

@[simp] theorem withCustomer_recoveryCases (s : Store) (event : CanonicalEventDTO) :
    (withCustomer s event).recoveryCases = s.recoveryCases := by
  unfold withCustomer
  split <;> rfl

@[simp] theorem withTransaction_recoveryCases (s : Store) (event : CanonicalEventDTO)
    (customerId : UUID) : (withTransaction s event customerId).recoveryCases = s.recoveryCases := by
  unfold withTransaction
  split <;> rfl

@[simp] theorem provisioned_recoveryCases (s : Store) (event : CanonicalEventDTO) :
    (provisioned s event).recoveryCases = s.recoveryCases := by
  unfold provisioned
  rw [withTransaction_recoveryCases, withCustomer_recoveryCases]

theorem transactionOf_withCustomer (s : Store) (event : CanonicalEventDTO) :
    transactionOf (withCustomer s event) event = transactionOf s event := by
  unfold transactionOf Store.transactionByExternalId
  rw [withCustomer_transactions]

/-- The transaction of an event is stored once it is provisioned. -/
theorem transactionOf_lt (s : Store) (event : CanonicalEventDTO) :
    transactionOf s event < (provisioned s event).transactions.length := by
  rw [← transactionOf_withCustomer]
  unfold provisioned withTransaction transactionOf
  rcases hfind : (withCustomer s event).transactionByExternalId event.provider
    (transactionReference event) with _ | ⟨id, row⟩
  · simp
  · have hrow := (Table.find?_some hfind).1
    exact (List.getElem?_eq_some_iff.mp hrow).1

/-- The transaction of an event is found, or it is the row that is added for it. -/
theorem provisioned_transactions_cases (s : Store) (event : CanonicalEventDTO) :
    (∃ txn, s.transactionByExternalId event.provider (transactionReference event) =
        some (transactionOf s event, txn) ∧
      (provisioned s event).transactions = s.transactions) ∨
    (s.transactionByExternalId event.provider (transactionReference event) = none ∧
      transactionOf s event = s.transactions.length ∧
      (provisioned s event).transactions =
        s.transactions ++ [newTransaction event (customerOf s event)]) := by
  have hsame : (withCustomer s event).transactionByExternalId event.provider
      (transactionReference event) =
        s.transactionByExternalId event.provider (transactionReference event) := by
    unfold Store.transactionByExternalId
    rw [withCustomer_transactions]
  unfold provisioned withTransaction transactionOf
  rw [hsame]
  rcases hfind : s.transactionByExternalId event.provider (transactionReference event)
    with _ | ⟨id, txn⟩
  · refine .inr ⟨rfl, rfl, ?_⟩
    rw [if_neg (by simp), withCustomer_transactions]
  · refine .inl ⟨txn, rfl, ?_⟩
    rw [Option.isSome_some, if_pos rfl, withCustomer_transactions]

theorem findExistingCase_provisioned (s : Store) (event : CanonicalEventDTO) (txId : UUID) :
    findExistingCase (provisioned s event) event txId = findExistingCase s event txId := by
  unfold findExistingCase Store.caseByKey Store.caseByTriggerTransaction
  rw [provisioned_recoveryCases]

/-- A case the lookup finds is stored under its identity. -/
theorem getElem?_of_findExistingCase {s : Store} {event : CanonicalEventDTO} {txId caseId : UUID}
    {case : RecoveryCase} (h : findExistingCase s event txId = some (caseId, case)) :
    s.recoveryCases[caseId]? = some case := by
  unfold findExistingCase at h
  rcases hkey : s.caseByKey (deriveCaseKey event) with _ | existing
  · rw [hkey] at h
    exact (Table.find?_some h).1
  · rw [hkey, Option.some.injEq] at h
    exact (Table.find?_some (h ▸ hkey)).1

/-- The part of `process_event` after the rows are provisioned. -/
def processProvisioned (env : Env) (event : CanonicalEventDTO) (customerId txId : UUID)
    (existingCase : Option (UUID × RecoveryCase)) : Service CaseProcessingOutcome :=
  if cleanType event ∈ CASE_RESOLUTION_EVENTS then handlePaymentSucceeded env existingCase txId
  else
    match existingCase with
    | some (caseId, case) => handleExistingCaseUpdate env event caseId case
    | none => createNewCase env event customerId txId

/-- An event that is not ignored is processed on the provisioned rows. -/
theorem processEvent_apply (env : Env) (s : Store) {event : CanonicalEventDTO}
    (htype : cleanType event ∈ CASE_CREATION_ELIGIBLE_EVENTS ++ CASE_RESOLUTION_EVENTS) :
    processEvent env event s =
      processProvisioned env event (customerOf s event) (transactionOf s event)
        (matchedCase s event) (provisioned s event) := by
  unfold processEvent
  rw [if_pos htype, Tx.bind_apply, getOrCreateCustomer_apply]
  dsimp only
  rw [Tx.bind_apply, getOrCreateTransaction_apply, transactionOf_withCustomer]
  unfold matchedCase
  rw [← findExistingCase_provisioned]
  rfl

/-! ## The parts of the engine -/

theorem getOrCreateCustomer_keeps (event : CanonicalEventDTO) :
    Keeps A s (getOrCreateCustomer event) := by
  refine .get_bind ?_
  rcases s.customerByExternalId event.provider event.customerReference with _ | ⟨id, row⟩
  · exact insertCustomer_keeps _
  · exact .of_pure id

theorem getOrCreateTransaction_keeps (event : CanonicalEventDTO) (customerId : UUID) :
    Keeps A s (getOrCreateTransaction event customerId) := by
  refine .get_bind ?_
  rcases s.transactionByExternalId event.provider (transactionReference event) with _ | ⟨id, row⟩
  · exact insertTransaction_keeps _
  · exact .of_pure id

theorem handlePaymentSucceeded_keeps {env : Env} {existingCase : Option (UUID × RecoveryCase)}
    {txId : UUID}
    (hrow : ∀ caseId case, existingCase = some (caseId, case) →
      s.recoveryCases[caseId]? = some case)
    (hrecovers : ∀ caseId case, existingCase = some (caseId, case) →
      case.state.isTerminal = false → A.recovers caseId) :
    Keeps A s (handlePaymentSucceeded env existingCase txId) := by
  rcases existingCase with _ | ⟨caseId, case⟩
  · exact .of_pure _
  refine .ite (fun _ => .of_pure _) fun hopen => ?_
  have hlive : case.state.isTerminal = false := Bool.eq_false_of_not_eq_true hopen
  have hstep : ∀ c, s.recoveryCases[caseId]? = some c →
      CaseStep (A.recovers caseId) A.counts c (resolveCase env c) := by
    intro c hc
    rw [hrow caseId case rfl, Option.some.injEq] at hc
    subst hc
    exact ⟨⟨rfl, rfl, rfl, .inr (.inl hlive)⟩,
      fun _ => .inr (hrecovers caseId case rfl hlive), .inr rfl⟩
  refine .modify_bind (.setCase s caseId _ hstep) ?_
  refine .modify_bind (.setTransaction _ txId _ fun t _ => ⟨rfl, rfl, rfl, rfl, rfl, fun _ => rfl⟩) ?_
  refine .get_bind (.bind (insertTransition_keeps ?_) fun _ _ _ _ => ?_)
  · exact lt_modifyCase (hrow caseId case rfl) _
  exact .bind (record_keeps ..) fun _ _ _ _ => .of_pure _

theorem handleExistingCaseUpdate_keeps (env : Env) (event : CanonicalEventDTO) (caseId : UUID)
    (case : RecoveryCase) (hcounts : A.counts) :
    Keeps A s (handleExistingCaseUpdate env event caseId case) := by
  refine .get_bind (.ite (fun _ => .of_pure _) fun _ => .ite (fun _ => .of_pure _) fun _ => ?_)
  rcases ((case.metadataJson.lookup "failure_count").getD (.int 1)).addOne with _ | newFailureCount
  · exact .of_throw fun _ h => by cases h
  have hstep : ∀ c, s.recoveryCases[caseId]? = some c →
      CaseStep (A.recovers caseId) A.counts c (updateCase env event newFailureCount c) :=
    fun _ _ => ⟨⟨rfl, rfl, rfl, .inl rfl⟩, .inl, .inl hcounts⟩
  refine .modify_bind (.setCase s caseId _ hstep) ?_
  exact .bind (record_keeps ..) fun _ _ _ _ => .of_pure _

theorem insertCaseOrExisting_keeps {row : RecoveryCase} (hstate : row.state = .DETECTED)
    (htrigger : row.triggerTransactionId < s.transactions.length) :
    Keeps A s (insertCaseOrExisting row) := by
  refine .of_tryCatch (.bind (insertCase_keeps hstate htrigger) fun _ _ _ _ => .of_pure _) ?_
  intro fault hfault
  cases fault with
  | integrityError constraint =>
    refine .get_bind ?_
    rcases s.caseByKey row.caseKey with _ | existing
    · exact .of_throw hfault
    · exact .of_pure _
  | _ => exact .of_throw hfault

/-- A case that was inserted is there. -/
theorem insertCaseOrExisting_inl {row : RecoveryCase} {id : UUID} {t : Store}
    (h : insertCaseOrExisting row s = .ok (.inl id, t)) : id < t.recoveryCases.length := by
  unfold insertCaseOrExisting at h
  rw [Tx.tryCatch_apply, Tx.bind_apply, insertCase_apply] at h
  split_ifs at h with htaken
  · dsimp only at h
    rw [Tx.get_bind_apply] at h
    rcases hkey : s.caseByKey row.caseKey with _ | existing
    · rw [hkey] at h
      cases h
    · rw [hkey] at h
      cases h
  · cases h
    rw [List.length_append, List.length_singleton]
    exact Nat.lt_add_one _

/-- The classification raises only on a tier that is not text. -/
theorem classifyRisk_namesDefect (amountMinor : ℤ) (currency : String)
    (failureCode : Option String) (eventType : String) (customerTier : Json) :
    NamesDefect
      (CaseRiskClassifier.classifyRisk amountMinor currency failureCode eventType customerTier) := by
  have htier : NamesDefect (CaseRiskClassifier.tier customerTier) := by
    unfold CaseRiskClassifier.tier
    split
    · cases customerTier with
      | str t =>
        dsimp only
        split <;> exact .of_ok _
      | _ => exact .of_error fun _ h => by cases h
    · exact .of_ok _
  exact htier.map _

theorem createNewCase_keeps {env : Env} {event : CanonicalEventDTO} {customerId txId : UUID}
    (htrigger : txId < s.transactions.length) (hcounts : A.counts) :
    Keeps A s (createNewCase env event customerId txId) := by
  unfold createNewCase
  rcases hrisk : CaseRiskClassifier.classifyRisk event.amountMinor event.currency.code
    event.failureCode event.eventType (Dict.get event.metadata "customer_tier") with fault | risk
  · exact .of_throw ((classifyRisk_namesDefect ..).unaborted hrisk)
  refine .bind (insertCaseOrExisting_keeps rfl htrigger) fun found t hfound _ => ?_
  rcases found with caseId | ⟨existingId, existing⟩
  · refine .bind (insertTransition_keeps (insertCaseOrExisting_inl hfound)) fun _ _ _ _ => ?_
    exact .bind (record_keeps ..) fun _ _ _ _ => .of_pure _
  · exact handleExistingCaseUpdate_keeps _ _ _ _ hcounts

theorem provisioned_writes (event : CanonicalEventDTO) : Writes A s (provisioned s event) := by
  have hcustomer : Writes A s (withCustomer s event) :=
    (getOrCreateCustomer_keeps event).writes (getOrCreateCustomer_apply s event)
  have htransaction : Writes A (withCustomer s event) (provisioned s event) :=
    (getOrCreateTransaction_keeps event _).writes
      (getOrCreateTransaction_apply (withCustomer s event) event _)
  exact hcustomer.trans htransaction

/-- An event recovers at most the case it meets, and only when it reports a success. -/
theorem processEvent_keeps {env : Env} {event : CanonicalEventDTO} (hcounts : A.counts)
    (hrecovers : cleanType event ∈ CASE_RESOLUTION_EVENTS → ∀ caseId case,
      matchedCase s event = some (caseId, case) → case.state.isTerminal = false →
      A.recovers caseId) :
    Keeps A s (processEvent env event) := by
  by_cases htype : cleanType event ∈ CASE_CREATION_ELIGIBLE_EVENTS ++ CASE_RESOLUTION_EVENTS
  · refine .of_apply (processEvent_apply env s htype) (provisioned_writes event) ?_
    refine .ite (fun hsucceeded => ?_) fun _ => ?_
    · refine handlePaymentSucceeded_keeps (fun caseId case h => ?_) (hrecovers hsucceeded)
      rw [provisioned_recoveryCases]
      exact getElem?_of_findExistingCase h
    · rcases matchedCase s event with _ | ⟨caseId, case⟩
      · exact createNewCase_keeps (transactionOf_lt s event) hcounts
      · exact handleExistingCaseUpdate_keeps _ _ _ _ hcounts
  · unfold processEvent
    rw [if_neg htype]
    exact .of_pure _

end EventToCaseEngine

/-! ## Ingestion -/

namespace EventValidator

theorem check_namesDefect (holds : Bool) (message field : String) :
    NamesDefect (check holds message field) := by
  cases holds with
  | false => exact .of_error fun _ h => by cases h
  | true => exact .of_ok ()

theorem checkText_namesDefect (text : String) (limit : ℕ) (emptyMessage longMessage field : String) :
    NamesDefect (checkText text limit emptyMessage longMessage field) :=
  .bind (check_namesDefect ..) fun _ => check_namesDefect ..

theorem validateByType_namesDefect (event : CanonicalEventDTO) :
    NamesDefect (validateByType event) := by
  unfold validateByType
  split
  · exact .bind (check_namesDefect ..) fun _ => check_namesDefect ..
  split
  · exact check_namesDefect ..
  split
  · exact .bind (check_namesDefect ..) fun _ => check_namesDefect ..
  split
  · exact check_namesDefect ..
  split
  · exact check_namesDefect ..
  · exact .of_ok ()

theorem validate_namesDefect (env : Env) (event : CanonicalEventDTO) :
    NamesDefect (validate env event) := by
  unfold validate
  split
  · exact .of_error fun _ h => by cases h
  · refine .bind (checkText_namesDefect ..) fun _ => .bind (checkText_namesDefect ..) fun _ => ?_
    refine .bind (checkText_namesDefect ..) fun _ => .bind (check_namesDefect ..) fun _ => ?_
    exact validateByType_namesDefect event

end EventValidator

/-- The rows after a receipt is recorded. -/
def withReceipt (s : Store) (row : ProviderWebhookEvent) : Store :=
  if (WebhookEventRepository.find s row.provider row.externalEventId).isSome then s
  else { s with webhookEvents := s.webhookEvents ++ [row] }

/-- Recording a receipt never raises. -/
theorem WebhookEventRepository.record_apply (s : Store) (row : ProviderWebhookEvent) :
    ∃ result, record row s = .ok (result, withReceipt s row) := by
  unfold withReceipt record
  rw [Tx.get_bind_apply]
  rcases hfind : find s row.provider row.externalEventId with _ | existing
  · have hfree := Bool.eq_false_iff.mp (Table.find?_none_any hfind)
    have hinsert := (insertWebhookEvent_apply row s).trans (if_neg hfree)
    refine ⟨⟨s.webhookEvents.length, true, false, "accepted", false⟩, ?_⟩
    dsimp only
    rw [Tx.tryCatch_apply, Tx.bind_apply, hinsert]
    rfl
  · exact ⟨_, rfl⟩

theorem withReceipt_writes (row : ProviderWebhookEvent) : Writes A s (withReceipt s row) := by
  unfold withReceipt
  split
  · exact Relation.ReflTransGen.refl
  · exact Relation.ReflTransGen.single (.addWebhookEvent s row)

/-- A receipt does not change which case an event meets. -/
theorem matchedCase_withReceipt (s : Store) (row : ProviderWebhookEvent)
    (event : CanonicalEventDTO) :
    EventToCaseEngine.matchedCase (withReceipt s row) event =
      EventToCaseEngine.matchedCase s event := by
  unfold withReceipt
  split <;> rfl

theorem WebhookEventRepository.record_keeps (row : ProviderWebhookEvent) :
    Keeps A s (record row) := by
  obtain ⟨result, hrecord⟩ := record_apply s row
  exact .of_apply (hrecord.trans rfl) (withReceipt_writes row) (.of_pure result)

namespace EventDeduplicator

theorem evaluateAndRecord_keeps (event : CanonicalEventDTO) (payloadHash : String)
    (signatureVerified : Bool) (ingestionStatus : String) :
    Keeps A s (evaluateAndRecord event payloadHash signatureVerified ingestionStatus) := by
  refine .bind (WebhookEventRepository.record_keeps _) fun result t _ _ => ?_
  exact .ite (fun _ => .throw_bind fun _ h => by cases h) fun _ => .of_pure _

/-- An event that is let through has its receipt recorded and nothing else. -/
theorem evaluateAndRecord_ok {event : CanonicalEventDTO} {payloadHash : String}
    {signatureVerified : Bool} {ingestionStatus : String} {result : EventRecordResult} {t : Store}
    (h : evaluateAndRecord event payloadHash signatureVerified ingestionStatus s =
      .ok (result, t)) : ∃ row, t = withReceipt s row := by
  let row : ProviderWebhookEvent :=
    { provider := lower event.provider, externalEventId := event.externalEventId
      eventType := event.eventType, payloadHash, signatureVerified, processed := false
      payloadSafe := event.modelDump, ingestionStatus }
  obtain ⟨found, hrecord⟩ := WebhookEventRepository.record_apply s row
  unfold evaluateAndRecord at h
  rw [Tx.bind_apply, hrecord] at h
  dsimp only at h
  split at h
  · cases h
  · cases h
    exact ⟨row, rfl⟩

end EventDeduplicator

theorem EventService.ingestCanonicalEvent_keeps {env : Env} {event : CanonicalEventDTO}
    {payloadHash : String} {signatureVerified : Bool} (hcounts : A.counts)
    (hrecovers : EventToCaseEngine.cleanType event ∈ EventToCaseEngine.CASE_RESOLUTION_EVENTS →
      ∀ caseId case, EventToCaseEngine.matchedCase s event = some (caseId, case) →
      case.state.isTerminal = false → A.recovers caseId) :
    Keeps A s (ingestCanonicalEvent env event payloadHash signatureVerified) := by
  unfold ingestCanonicalEvent
  rcases hvalid : EventValidator.validate env event with fault | _
  · exact .of_throw ((EventValidator.validate_namesDefect env event).unaborted hvalid)
  refine .bind (EventDeduplicator.evaluateAndRecord_keeps ..) fun result t ht _ => ?_
  obtain ⟨row, rfl⟩ := EventDeduplicator.evaluateAndRecord_ok ht
  refine .ite (fun _ => .of_pure _) fun _ => ?_
  refine .bind (EventToCaseEngine.processEvent_keeps hcounts ?_) fun _ u _ _ => ?_
  · rw [matchedCase_withReceipt]
    exact hrecovers
  · exact .bind (.of_modify (.setWebhookEvent u _ _ fun _ => ⟨rfl, rfl, rfl⟩)) fun _ _ _ _ =>
      .of_pure _

end RevenueRescue
