import RevenueRescue.Refinement.Events

/-!
# What one event does to the rows

Every way through `process_event` leaves rows that are written out here: the rows before the
event, the provisioned ones, or those with one case resolved, updated or opened. The ways are
the constructors of `Delivered`, and later results about events are by cases on them.
-/

namespace RevenueRescue

open Python

/-- A row of the audit log that continues the numbering of its case. -/
def nextAudit (s : Store) (env : Env) (caseId : UUID) (eventType : String) (actorType : ActorType)
    (fromState toState : Option RecoveryCaseState) : AuditEvent :=
  { caseId, eventType, fromState, toState, actorType, eventTime := env.now.naive
    sequenceNumber := s.nextAuditNumber caseId }

/-- A record that continues the audit log of its case is never refused. -/
theorem record_apply (env : Env) (caseId : UUID) (eventType : String) (actorType : ActorType)
    (fromState toState : Option RecoveryCaseState) (s : Store) :
    AuditEventRepository.record env caseId eventType actorType fromState toState s =
      .ok ((), { s with auditEvents :=
        s.auditEvents ++ [nextAudit s env caseId eventType actorType fromState toState] }) := by
  have hfree : ¬((s.auditNumbers caseId).contains (s.nextAuditNumber caseId) = true) := by
    rw [List.contains_eq_mem, decide_eq_true_eq]
    exact Numbering.next_not_mem _
  unfold AuditEventRepository.record AuditEventRepository.recordSeeing
  rw [Tx.get_bind_apply, insertAudit_apply]
  exact if_neg hfree

/-- A transition that continues the log of its case is never refused. -/
theorem insertTransition_next {row : CaseStateTransition} {s : Store}
    (h : row.sequenceNumber = s.nextTransitionNumber row.caseId) :
    insertTransition row s = .ok ((), { s with transitions := s.transitions ++ [row] }) := by
  have hfree : ¬((s.transitionNumbers row.caseId).contains row.sequenceNumber = true) := by
    rw [List.contains_eq_mem, decide_eq_true_eq, h]
    exact Numbering.next_not_mem _
  rw [insertTransition_apply]
  exact if_neg hfree

/-- A new transition changes nothing else. -/
theorem insertTransition_ok {row : CaseStateTransition} {x : Unit} {s t : Store}
    (h : insertTransition row s = .ok (x, t)) :
    t = { s with transitions := s.transitions ++ [row] } := by
  rw [insertTransition_apply] at h
  split at h
  · cases h
  · cases h
    rfl

namespace EventToCaseEngine

variable {env : Env} {s t : Store} {event : CanonicalEventDTO}

/-! ## The rows afterwards -/

/-- The rows after a success resolved a case. -/
def resolved (env : Env) (s : Store) (caseId : UUID) (case : RecoveryCase) (txId : UUID) : Store :=
  { s with
    recoveryCases := s.recoveryCases.modify caseId (resolveCase env)
    transactions := s.transactions.modify txId fun t => { t with status := .SUCCEEDED }
    transitions := s.transitions ++
      [{ caseId, fromState := some case.state, toState := .RECOVERED
         reasonCode := "PAYMENT_SUCCEEDED_VERIFIED", actorType := .PROVIDER
         occurredAt := env.now.naive, sequenceNumber := s.nextTransitionNumber caseId }]
    auditEvents := s.auditEvents ++
      [nextAudit s env caseId "CASE_RECOVERED" .PROVIDER (some case.state) (some .RECOVERED)] }

/-- The rows after a further failure updated a case. -/
def updated (env : Env) (event : CanonicalEventDTO) (s : Store) (caseId : UUID)
    (case : RecoveryCase) (newFailureCount : Json) : Store :=
  { s with
    recoveryCases := s.recoveryCases.modify caseId (updateCase env event newFailureCount)
    auditEvents := s.auditEvents ++
      [nextAudit s env caseId "CASE_UPDATED" .SYSTEM (some case.state) (some case.state)] }

/-- The rows after a failure opened a case. -/
def opened (env : Env) (event : CanonicalEventDTO) (s : Store) (customerId txId : UUID)
    (risk : RiskClassificationResult) : Store :=
  { s with
    recoveryCases := s.recoveryCases ++ [newCase env event customerId txId risk]
    transitions := s.transitions ++
      [{ caseId := s.recoveryCases.length, fromState := none, toState := .DETECTED
         reasonCode := "AUTOMATIC_EVENT_INGESTION", actorType := .SYSTEM
         occurredAt := env.now.naive, sequenceNumber := 1 }]
    auditEvents := s.auditEvents ++
      [nextAudit s env s.recoveryCases.length "CASE_OPENED" .SYSTEM none (some .DETECTED)] }

/-- The classification of the risk of an event. -/
def riskOf (event : CanonicalEventDTO) : Except Fault RiskClassificationResult :=
  CaseRiskClassifier.classifyRisk event.amountMinor event.currency.code event.failureCode
    event.eventType (Dict.get event.metadata "customer_tier")

/-- The failure count after one more failure, if the recorded one is a number. -/
def nextFailureCount (case : RecoveryCase) : Option Json :=
  (case.failureCount.getD (.int 1)).addOne

/-- The trigger transaction of a case has succeeded. -/
def triggerSucceeded (s : Store) (case : RecoveryCase) : Bool :=
  (s.transactions[case.triggerTransactionId]?).any (·.status == .SUCCEEDED)

/-! ## The three branches -/

theorem handlePaymentSucceeded_none (txId : UUID) :
    ∃ outcome, outcome.outcome = .IGNORED ∧
      handlePaymentSucceeded env none txId s = .ok (outcome, s) :=
  ⟨_, rfl, rfl⟩

theorem handlePaymentSucceeded_terminal (env : Env) (s : Store) (caseId txId : UUID)
    {case : RecoveryCase} (h : case.state.isTerminal = true) :
    ∃ outcome, outcome.outcome = .IGNORED ∧
      handlePaymentSucceeded env (some (caseId, case)) txId s = .ok (outcome, s) := by
  unfold handlePaymentSucceeded
  dsimp only
  rw [if_pos h]
  exact ⟨_, rfl, rfl⟩

theorem handlePaymentSucceeded_open (env : Env) (s : Store) (caseId txId : UUID)
    {case : RecoveryCase} (h : case.state.isTerminal = false) :
    ∃ outcome, outcome.outcome = .CASE_RESOLVED ∧
      handlePaymentSucceeded env (some (caseId, case)) txId s =
        .ok (outcome, resolved env s caseId case txId) := by
  unfold handlePaymentSucceeded
  dsimp only
  rw [if_neg (by rw [h]; exact Bool.false_ne_true), Tx.modify_bind_apply, Tx.modify_bind_apply,
    Tx.get_bind_apply, Tx.bind_apply, insertTransition_next rfl]
  dsimp only
  rw [Tx.bind_apply, record_apply]
  exact ⟨_, rfl, rfl⟩

/-- An update leaves the rows alone, counts one more failure, or meets a count that is none. -/
theorem handleExistingCaseUpdate_cases (env : Env) (event : CanonicalEventDTO) (s : Store)
    (caseId : UUID) (case : RecoveryCase) :
    ((case.state.isTerminal = true ∨ triggerSucceeded s case = true) ∧
      ∃ outcome, outcome.outcome = .IGNORED ∧
        handleExistingCaseUpdate env event caseId case s = .ok (outcome, s)) ∨
    case.state.isTerminal = false ∧ triggerSucceeded s case = false ∧
      ((∃ count outcome, nextFailureCount case = some count ∧
        (outcome.outcome = .CASE_UPDATED ∧ outcome.caseId = some caseId) ∧
        handleExistingCaseUpdate env event caseId case s =
          .ok (outcome, updated env event s caseId case count)) ∨
        nextFailureCount case = none ∧
          handleExistingCaseUpdate env event caseId case s = .error .typeError) := by
  unfold handleExistingCaseUpdate
  rw [Tx.get_bind_apply]
  rcases hterminal : case.state.isTerminal with _ | _
  swap
  · exact .inl ⟨.inl rfl, _, rfl, rfl⟩
  rw [if_neg Bool.false_ne_true]
  have hsucceeded : (s.transactions[case.triggerTransactionId]?).any (·.status == .SUCCEEDED) =
      triggerSucceeded s case := rfl
  rw [hsucceeded]
  rcases htrigger : triggerSucceeded s case with _ | _
  swap
  · exact .inl ⟨.inr rfl, _, rfl, rfl⟩
  rw [if_neg Bool.false_ne_true]
  have hcount : ((case.metadataJson.lookup "failure_count").getD (.int 1)).addOne =
      nextFailureCount case := rfl
  rw [hcount]
  refine .inr ⟨rfl, rfl, ?_⟩
  rcases nextFailureCount case with _ | count
  · exact .inr ⟨rfl, rfl⟩
  · dsimp only
    rw [Tx.modify_bind_apply, Tx.bind_apply, record_apply]
    exact .inl ⟨count, _, rfl, ⟨rfl, rfl⟩, rfl⟩

/-- A key that is free is taken by the new case. -/
theorem insertCaseOrExisting_free {row : RecoveryCase} (h : s.caseByKey row.caseKey = none) :
    insertCaseOrExisting row s =
      .ok (.inl s.recoveryCases.length, { s with recoveryCases := s.recoveryCases ++ [row] }) := by
  have hfree := Bool.eq_false_iff.mp (Table.find?_none_any h)
  have hinsert := (insertCase_apply row s).trans (if_neg hfree)
  unfold insertCaseOrExisting
  rw [Tx.tryCatch_apply, Tx.bind_apply, hinsert]
  rfl

/-- A case whose key is free is opened, unless its tier is not text or a transition stands
under its identity already. -/
theorem createNewCase_cases (env : Env) (customerId txId : UUID)
    (hkey : s.caseByKey (deriveCaseKey event) = none) :
    (∃ fault, riskOf event = .error fault ∧
      createNewCase env event customerId txId s = .error fault) ∨
    ∃ risk, riskOf event = .ok risk ∧
      if (s.transitionNumbers s.recoveryCases.length).contains 1 then
        createNewCase env event customerId txId s =
          .error (.integrityError .uq_transition_case_sequence)
      else ∃ outcome,
        (outcome.outcome = .CASE_CREATED ∧ outcome.caseId = some s.recoveryCases.length) ∧
        createNewCase env event customerId txId s =
          .ok (outcome, opened env event s customerId txId risk) := by
  unfold createNewCase riskOf
  rcases CaseRiskClassifier.classifyRisk event.amountMinor event.currency.code event.failureCode
    event.eventType (Dict.get event.metadata "customer_tier") with fault | risk
  · exact .inl ⟨fault, rfl, rfl⟩
  refine .inr ⟨risk, rfl, ?_⟩
  have hfree : s.caseByKey (newCase env event customerId txId risk).caseKey = none := hkey
  dsimp only
  rw [Tx.bind_apply, insertCaseOrExisting_free hfree]
  dsimp only
  rw [Tx.bind_apply, insertTransition_apply]
  by_cases htaken : (s.transitionNumbers s.recoveryCases.length).contains 1 = true
  · rw [if_pos htaken]
    have htaken' : (Store.transitionNumbers { s with recoveryCases :=
        s.recoveryCases ++ [newCase env event customerId txId risk] }
          s.recoveryCases.length).contains 1 = true := htaken
    rw [if_pos htaken']
  · rw [if_neg htaken]
    have htaken' : ¬(Store.transitionNumbers { s with recoveryCases :=
        s.recoveryCases ++ [newCase env event customerId txId risk] }
          s.recoveryCases.length).contains 1 = true := htaken
    rw [if_neg htaken']
    dsimp only
    rw [Tx.bind_apply, record_apply]
    exact ⟨_, ⟨rfl, rfl⟩, rfl⟩

/-! ## The ways through the engine -/

/-- An event that is committed on its own, and the rows it leaves. -/
inductive Delivered (env : Env) (event : CanonicalEventDTO) (s : Store) : Store → Prop
  /-- The type does not concern cases. -/
  | ignored (htype : cleanType event ∉ CASE_CREATION_ELIGIBLE_EVENTS ++ CASE_RESOLUTION_EVENTS) :
    Delivered env event s s
  /-- A success without a case. -/
  | unmatched (htype : cleanType event ∈ CASE_RESOLUTION_EVENTS)
      (hmatch : matchedCase s event = none) : Delivered env event s (provisioned s event)
  /-- A case that is closed already, or a failure after the transaction succeeded. -/
  | settled {caseId : UUID} {case : RecoveryCase}
      (htype : cleanType event ∈ CASE_CREATION_ELIGIBLE_EVENTS ++ CASE_RESOLUTION_EVENTS)
      (hmatch : matchedCase s event = some (caseId, case))
      (hsettled : case.state.isTerminal = true ∨
        cleanType event ∉ CASE_RESOLUTION_EVENTS ∧
          triggerSucceeded (provisioned s event) case = true) :
    Delivered env event s (provisioned s event)
  | resolved {caseId : UUID} {case : RecoveryCase}
      (htype : cleanType event ∈ CASE_RESOLUTION_EVENTS)
      (hmatch : matchedCase s event = some (caseId, case))
      (hopen : case.state.isTerminal = false) :
    Delivered env event s (resolved env (provisioned s event) caseId case (transactionOf s event))
  | updated {caseId : UUID} {case : RecoveryCase} {count : Json}
      (htype : cleanType event ∈ CASE_CREATION_ELIGIBLE_EVENTS)
      (hfailure : cleanType event ∉ CASE_RESOLUTION_EVENTS)
      (hmatch : matchedCase s event = some (caseId, case))
      (hopen : case.state.isTerminal = false)
      (hunpaid : triggerSucceeded (provisioned s event) case = false)
      (hcount : nextFailureCount case = some count) :
    Delivered env event s (updated env event (provisioned s event) caseId case count)
  /-- The recorded failure count is not a number, so the event is rolled back. -/
  | uncounted {caseId : UUID} {case : RecoveryCase}
      (hfailure : cleanType event ∉ CASE_RESOLUTION_EVENTS)
      (hmatch : matchedCase s event = some (caseId, case))
      (hcount : nextFailureCount case = none) : Delivered env event s s
  | opened {risk : RiskClassificationResult}
      (htype : cleanType event ∈ CASE_CREATION_ELIGIBLE_EVENTS)
      (hfailure : cleanType event ∉ CASE_RESOLUTION_EVENTS)
      (hmatch : matchedCase s event = none) (hrisk : riskOf event = .ok risk) :
    Delivered env event s
      (opened env event (provisioned s event) (customerOf s event) (transactionOf s event) risk)
  /-- The tier is not text, so the event is rolled back. -/
  | unclassified {fault : Fault} (hfailure : cleanType event ∉ CASE_RESOLUTION_EVENTS)
      (hmatch : matchedCase s event = none) (hrisk : riskOf event = .error fault) :
    Delivered env event s s
  /-- A transition stands under the identity of the new case already. -/
  | refused (hfailure : cleanType event ∉ CASE_RESOLUTION_EVENTS)
      (hmatch : matchedCase s event = none)
      (htaken : (s.transitionNumbers s.recoveryCases.length).contains 1 = true) :
    Delivered env event s s

theorem caseByKey_of_matchedCase (h : matchedCase s event = none) :
    s.caseByKey (deriveCaseKey event) = none := by
  unfold matchedCase findExistingCase at h
  rcases hkey : s.caseByKey (deriveCaseKey event) with _ | existing
  · rfl
  · rw [hkey] at h
    cases h

/-- The provisioned rows have no case under the key either. -/
theorem caseByKey_provisioned_of_matchedCase (h : matchedCase s event = none) :
    (provisioned s event).caseByKey (deriveCaseKey event) = none := by
  unfold Store.caseByKey
  rw [provisioned_recoveryCases]
  exact caseByKey_of_matchedCase h

theorem caseByTriggerTransaction_of_matchedCase (h : matchedCase s event = none) :
    s.caseByTriggerTransaction (transactionOf s event) = none := by
  unfold matchedCase findExistingCase at h
  rw [caseByKey_of_matchedCase h] at h
  exact h

@[simp] theorem provisioned_transitions (s : Store) (event : CanonicalEventDTO) :
    (provisioned s event).transitions = s.transitions := by
  unfold provisioned withTransaction withCustomer
  split <;> split <;> rfl

/-- Opening a case adds it to the cases that were there before the event. -/
theorem opened_recoveryCases (env : Env) (event : CanonicalEventDTO) (s : Store)
    (customerId txId : UUID) (risk : RiskClassificationResult) :
    (opened env event (provisioned s event) customerId txId risk).recoveryCases =
      s.recoveryCases ++ [newCase env event customerId txId risk] :=
  congrArg (· ++ _) (provisioned_recoveryCases s event)

/-- Every delivery takes one of the ways. -/
theorem delivered (env : Env) (event : CanonicalEventDTO) (s : Store) :
    Delivered env event s ((processEvent env event).commit s) := by
  by_cases htype : cleanType event ∈ CASE_CREATION_ELIGIBLE_EVENTS ++ CASE_RESOLUTION_EVENTS
  swap
  · have hrun : (processEvent env event).commit s = s := by
      unfold processEvent
      rw [if_neg htype]
      rfl
    rw [hrun]
    exact .ignored htype
  unfold Tx.commit
  rw [processEvent_apply env s htype]
  unfold processProvisioned
  by_cases hsuccess : cleanType event ∈ CASE_RESOLUTION_EVENTS
  · rw [if_pos hsuccess]
    rcases hmatch : matchedCase s event with _ | ⟨caseId, case⟩
    · exact .unmatched hsuccess hmatch
    rcases hterminal : case.state.isTerminal with _ | _
    · obtain ⟨outcome, -, hrun⟩ := handlePaymentSucceeded_open env (provisioned s event) caseId
        (transactionOf s event) hterminal
      rw [hrun]
      exact .resolved hsuccess hmatch hterminal
    · obtain ⟨outcome, -, hrun⟩ := handlePaymentSucceeded_terminal env (provisioned s event) caseId
        (transactionOf s event) hterminal
      rw [hrun]
      exact .settled htype hmatch (.inl hterminal)
  have hfailure : cleanType event ∈ CASE_CREATION_ELIGIBLE_EVENTS :=
    (List.mem_append.mp htype).resolve_right hsuccess
  rw [if_neg hsuccess]
  rcases hmatch : matchedCase s event with _ | ⟨caseId, case⟩
  · have hkey := caseByKey_provisioned_of_matchedCase hmatch
    dsimp only
    rcases createNewCase_cases env (customerOf s event) (transactionOf s event) hkey
      with ⟨fault, hrisk, hrun⟩ | ⟨risk, hrisk, hrun⟩
    · rw [hrun]
      exact .unclassified hsuccess hmatch hrisk
    split at hrun
    · rename_i htaken
      rw [hrun]
      refine .refused hsuccess hmatch ?_
      unfold Store.transitionNumbers Store.transitionsOf at htaken ⊢
      rwa [provisioned_transitions, provisioned_recoveryCases] at htaken
    · obtain ⟨outcome, -, hrun⟩ := hrun
      rw [hrun]
      exact .opened hfailure hsuccess hmatch hrisk
  · dsimp only
    rcases handleExistingCaseUpdate_cases env event (provisioned s event) caseId case with
      ⟨hsettled, outcome, -, hrun⟩ | ⟨hopen, hunpaid, hrest⟩
    · rw [hrun]
      exact .settled htype hmatch (hsettled.imp_right fun h => ⟨hsuccess, h⟩)
    rcases hrest with ⟨count, outcome, hcount, -, hrun⟩ | ⟨hcount, hrun⟩
    · rw [hrun]
      exact .updated hfailure hsuccess hmatch hopen hunpaid hcount
    · rw [hrun]
      exact .uncounted hsuccess hmatch hcount

/-- An event that the engine processed took one of the ways to its rows. -/
theorem delivered_of_ok {outcome : CaseProcessingOutcome}
    (h : processEvent env event s = .ok (outcome, t)) : Delivered env event s t := by
  have hdelivered := delivered env event s
  unfold Tx.commit at hdelivered
  rw [h] at hdelivered
  exact hdelivered

theorem provisioned_evolved (s : Store) (event : CanonicalEventDTO) :
    Evolved s (provisioned s event) := by
  have hwrites : Writes ⟨.default, False, fun _ => False, fun _ => False, False, fun _ => False,
      fun _ => False⟩ s (provisioned s event) := provisioned_writes event
  exact hwrites.evolved

/-- No event loses a row, and rows evolve as their relations allow. -/
theorem Delivered.evolved (h : Delivered env event s t) : Evolved s t := by
  have hprovisioned : Evolved s (provisioned s event) := provisioned_evolved s event
  cases h with
  | ignored _ => exact .refl s
  | unmatched _ _ => exact hprovisioned
  | settled _ _ _ => exact hprovisioned
  | @resolved caseId case _ hmatch hopen =>
    have hcase : ∀ c, (provisioned s event).recoveryCases[caseId]? = some c →
        CaseKept c (resolveCase env c) := by
      intro c hc
      rw [provisioned_recoveryCases, getElem?_of_findExistingCase hmatch, Option.some.injEq] at hc
      subst hc
      exact ⟨rfl, rfl, rfl, .inr (.inl hopen)⟩
    refine hprovisioned.trans { Evolved.refl (provisioned s event) with
      recoveryCases := .modify _ caseId _ hcase
      transactions := .modify _ _ _ fun _ _ => ⟨rfl, rfl, rfl, rfl, rfl, fun _ => rfl⟩ }
  | updated _ _ _ _ _ _ =>
    exact hprovisioned.trans { Evolved.refl (provisioned s event) with
      recoveryCases := .modify _ _ _ fun _ _ => ⟨rfl, rfl, rfl, .inl rfl⟩ }
  | uncounted _ _ _ => exact .refl s
  | opened _ _ _ _ =>
    exact hprovisioned.trans { Evolved.refl (provisioned s event) with
      recoveryCases := .append _ _ }
  | unclassified _ _ _ => exact .refl s
  | refused _ _ _ => exact .refl s

end EventToCaseEngine

/-! ## Ingestion -/

/-- The receipt of an event. -/
def EventDeduplicator.receiptOf (event : CanonicalEventDTO) (payloadHash : String)
    (signatureVerified : Bool) (ingestionStatus : String) : ProviderWebhookEvent :=
  { provider := lower event.provider, externalEventId := event.externalEventId
    eventType := event.eventType, payloadHash, signatureVerified, processed := false
    payloadSafe := event.modelDump, ingestionStatus }

namespace WebhookEventRepository

variable {s : Store} {row : ProviderWebhookEvent}

/-- A first receipt is accepted. -/
theorem record_new (h : find s row.provider row.externalEventId = none) :
    record row s = .ok (⟨s.webhookEvents.length, true, false, "accepted", false⟩,
      { s with webhookEvents := s.webhookEvents ++ [row] }) := by
  have hfree := Bool.eq_false_iff.mp (Table.find?_none_any h)
  have hinsert := (insertWebhookEvent_apply row s).trans (if_neg hfree)
  unfold record
  rw [Tx.get_bind_apply, h]
  dsimp only
  rw [Tx.tryCatch_apply, Tx.bind_apply, hinsert]
  rfl

/-- A later receipt is compared with the first one, and nothing is recorded. -/
theorem record_found {existing : UUID × ProviderWebhookEvent}
    (h : find s row.provider row.externalEventId = some existing) :
    record row s = .ok (compareReceipt existing row.payloadHash, s) := by
  unfold record
  rw [Tx.get_bind_apply, h]
  rfl

end WebhookEventRepository

namespace EventService

variable {s : Store}

/-- The rows an ingested event is processed on. -/
def received (s : Store) (event : CanonicalEventDTO) (payloadHash : String)
    (signatureVerified : Bool) : Store :=
  { s with webhookEvents := s.webhookEvents ++
      [EventDeduplicator.receiptOf event payloadHash signatureVerified "ACCEPTED"] }

/-- The rows after the receipt of an event is marked as processed. -/
def processed (s : Store) (id : UUID) : Store :=
  s.modifyWebhookEvent id fun e => { e with processed := true }

theorem evaluateAndRecord_apply {event : CanonicalEventDTO} {payloadHash ingestionStatus : String}
    {signatureVerified : Bool} {result : EventRecordResult} {t : Store}
    (h : WebhookEventRepository.record
      (EventDeduplicator.receiptOf event payloadHash signatureVerified ingestionStatus) s =
        .ok (result, t)) :
    EventDeduplicator.evaluateAndRecord event payloadHash signatureVerified ingestionStatus s =
      if result.conflict then
        .error (.conflictingDuplicateEvent event.externalEventId event.provider)
      else .ok (result, t) := by
  unfold EventDeduplicator.evaluateAndRecord
  unfold EventDeduplicator.receiptOf at h
  rw [Tx.bind_apply, h]
  dsimp only
  by_cases hconflict : result.conflict = true
  · rw [if_pos hconflict, if_pos hconflict]
    rfl
  · rw [if_neg hconflict, if_neg hconflict]
    rfl

/-- A new event is recorded. -/
theorem evaluateAndRecord_new {event : CanonicalEventDTO} (payloadHash : String)
    (signatureVerified : Bool)
    (hnew : WebhookEventRepository.find s (lower event.provider) event.externalEventId = none) :
    EventDeduplicator.evaluateAndRecord event payloadHash signatureVerified "ACCEPTED" s =
      .ok (⟨s.webhookEvents.length, true, false, "accepted", false⟩,
        received s event payloadHash signatureVerified) := by
  have hnew' : WebhookEventRepository.find s
      (EventDeduplicator.receiptOf event payloadHash signatureVerified "ACCEPTED").provider
      (EventDeduplicator.receiptOf event payloadHash signatureVerified "ACCEPTED").externalEventId =
        none := hnew
  exact (evaluateAndRecord_apply (WebhookEventRepository.record_new hnew')).trans
    (if_neg Bool.false_ne_true)

/-- An event with a receipt is a duplicate, or a conflict if its payload is another one. -/
theorem evaluateAndRecord_found {event : CanonicalEventDTO} (payloadHash : String)
    (signatureVerified : Bool) {existing : UUID × ProviderWebhookEvent}
    (hfound : WebhookEventRepository.find s (lower event.provider) event.externalEventId =
      some existing) :
    EventDeduplicator.evaluateAndRecord event payloadHash signatureVerified "ACCEPTED" s =
      if existing.2.payloadHash ≠ payloadHash then
        .error (.conflictingDuplicateEvent event.externalEventId event.provider)
      else .ok (⟨existing.1, false, true, "duplicate_event_suppressed", false⟩, s) := by
  have hfound' : WebhookEventRepository.find s
      (EventDeduplicator.receiptOf event payloadHash signatureVerified "ACCEPTED").provider
      (EventDeduplicator.receiptOf event payloadHash signatureVerified "ACCEPTED").externalEventId =
        some existing := hfound
  have hrecord := evaluateAndRecord_apply (WebhookEventRepository.record_found hfound')
  have hcompare : WebhookEventRepository.compareReceipt existing
      (EventDeduplicator.receiptOf event payloadHash signatureVerified "ACCEPTED").payloadHash =
        if existing.2.payloadHash ≠ payloadHash then
          ⟨existing.1, false, true, "event_id_reused_with_different_payload", true⟩
        else ⟨existing.1, false, true, "duplicate_event_suppressed", false⟩ := rfl
  rw [hcompare] at hrecord
  rw [hrecord]
  by_cases hother : existing.2.payloadHash ≠ payloadHash
  · rw [if_pos hother, if_pos rfl, if_pos hother]
  · rw [if_neg hother, if_neg Bool.false_ne_true, if_neg hother]

/-- An event that does not validate is refused. -/
theorem ingestCanonicalEvent_invalid {env : Env} {event : CanonicalEventDTO} {fault : Fault}
    (payloadHash : String) (signatureVerified : Bool)
    (hvalid : EventValidator.validate env event = .error fault) :
    ingestCanonicalEvent env event payloadHash signatureVerified s = .error fault := by
  unfold ingestCanonicalEvent
  rw [hvalid]
  rfl

/-- A valid event without a receipt is recorded, processed and marked, or rolled back. -/
theorem ingestCanonicalEvent_new (env : Env) {event : CanonicalEventDTO} (payloadHash : String)
    (signatureVerified : Bool) (hvalid : EventValidator.validate env event = .ok ())
    (hnew : WebhookEventRepository.find s (lower event.provider) event.externalEventId = none) :
    ingestCanonicalEvent env event payloadHash signatureVerified s =
      match EventToCaseEngine.processEvent env event (received s event payloadHash signatureVerified)
      with
      | .ok (_, u) =>
        .ok (⟨s.webhookEvents.length, true, false, "accepted", false⟩,
          processed u s.webhookEvents.length)
      | .error fault => .error fault := by
  unfold ingestCanonicalEvent
  rw [hvalid]
  dsimp only
  rw [Tx.bind_apply, evaluateAndRecord_new payloadHash signatureVerified hnew]
  dsimp only
  rw [if_neg Bool.false_ne_true, Tx.bind_apply]
  rcases EventToCaseEngine.processEvent env event (received s event payloadHash signatureVerified)
    with fault | ⟨outcome, u⟩ <;> rfl

/-- An event with a receipt changes nothing: it is a duplicate, or a conflict if its payload is
another one. -/
theorem ingestCanonicalEvent_found {env : Env} {event : CanonicalEventDTO} (payloadHash : String)
    (signatureVerified : Bool) (hvalid : EventValidator.validate env event = .ok ())
    {existing : UUID × ProviderWebhookEvent}
    (hfound : WebhookEventRepository.find s (lower event.provider) event.externalEventId =
      some existing) :
    ingestCanonicalEvent env event payloadHash signatureVerified s =
      if existing.2.payloadHash ≠ payloadHash then
        .error (.conflictingDuplicateEvent event.externalEventId event.provider)
      else .ok (⟨existing.1, false, true, "duplicate_event_suppressed", false⟩, s) := by
  unfold ingestCanonicalEvent
  rw [hvalid]
  dsimp only
  rw [Tx.bind_apply, evaluateAndRecord_found payloadHash signatureVerified hfound]
  by_cases hother : existing.2.payloadHash ≠ payloadHash
  · rw [if_pos hother]
  · rw [if_neg hother]
    rfl

/-- A committed ingestion changed nothing, or it added the receipt and what the event does. -/
theorem ingestCanonicalEvent_commit (env : Env) (event : CanonicalEventDTO) (payloadHash : String)
    (signatureVerified : Bool) (s : Store) :
    (ingestCanonicalEvent env event payloadHash signatureVerified).commit s = s ∨
      EventValidator.validate env event = .ok () ∧
        WebhookEventRepository.find s (lower event.provider) event.externalEventId = none ∧
        ∃ outcome u, EventToCaseEngine.processEvent env event
          (received s event payloadHash signatureVerified) = .ok (outcome, u) ∧
          (ingestCanonicalEvent env event payloadHash signatureVerified).commit s =
            processed u s.webhookEvents.length := by
  unfold Tx.commit
  rcases hvalid : EventValidator.validate env event with fault | _
  · rw [ingestCanonicalEvent_invalid payloadHash signatureVerified hvalid]
    exact .inl rfl
  rcases hfind : WebhookEventRepository.find s (lower event.provider) event.externalEventId
    with _ | existing
  · rw [ingestCanonicalEvent_new env payloadHash signatureVerified hvalid hfind]
    rcases hrun : EventToCaseEngine.processEvent env event
      (received s event payloadHash signatureVerified) with fault | ⟨outcome, u⟩
    · exact .inl rfl
    · exact .inr ⟨rfl, rfl, outcome, u, rfl, rfl⟩
  · rw [ingestCanonicalEvent_found payloadHash signatureVerified hvalid hfind]
    by_cases hother : existing.2.payloadHash ≠ payloadHash
    · rw [if_pos hother]
      exact .inl rfl
    · rw [if_neg hother]
      exact .inl rfl

end EventService

/-! ## The other ways to open and edit a case -/

/-- A guard in front of more that let the method through. -/
theorem Tx.ite_throw_eq_ok {α : Type} {c : Prop} [Decidable c] {fault : Fault} {x : Service α}
    {s : Store} {r : α × Store}
    (h : (if c then (throw fault : Service Unit) >>= fun _ => x else x) s = .ok r) :
    ¬c ∧ x s = .ok r := by
  by_cases hc : c
  · rw [if_pos hc] at h
    cases h
  · rw [if_neg hc] at h
    exact ⟨hc, h⟩

theorem insertCase_ok {row : RecoveryCase} {s t : Store} {id : UUID}
    (h : insertCase row s = .ok (id, t)) :
    s.caseByKey row.caseKey = none ∧ id = s.recoveryCases.length ∧
      t = { s with recoveryCases := s.recoveryCases ++ [row] } := by
  rw [insertCase_apply] at h
  split at h
  · cases h
  next hfree =>
    cases h
    refine ⟨Table.find?_none.mpr fun case hcase => ?_, rfl, rfl⟩
    by_contra htaken
    exact hfree (List.any_eq_true.mpr ⟨case, hcase, Bool.eq_true_of_not_eq_false htaken⟩)

namespace RecoveryCaseService

variable {s t : Store}

/-- The rows after an operator opened a case. -/
def created (env : Env) (uuid4 : UUID) (dto : RecoveryCaseCreateDTO) (s : Store) : Store :=
  { s with
    recoveryCases := s.recoveryCases ++ [toEntity env uuid4 dto]
    auditEvents := s.auditEvents ++
      [nextAudit s env s.recoveryCases.length "CASE_OPENED" .SYSTEM none (some .DETECTED)] }

/-- A case is opened for a customer and a transaction that are there, when neither the
transaction nor the key has one. -/
theorem createCase_ok {env : Env} {uuid4 caseId : UUID} {dto : RecoveryCaseCreateDTO}
    (h : createCase env uuid4 dto s = .ok (caseId, t)) :
    dto.customerId < s.customers.length ∧ dto.triggerTransactionId < s.transactions.length ∧
      s.caseByTriggerTransaction dto.triggerTransactionId = none ∧
      s.caseByKey (toEntity env uuid4 dto).caseKey = none ∧ t = created env uuid4 dto s := by
  unfold createCase at h
  rw [Tx.get_bind_apply] at h
  obtain ⟨hcustomer, h⟩ := Tx.ite_throw_eq_ok h
  obtain ⟨htransaction, h⟩ := Tx.ite_throw_eq_ok h
  obtain ⟨htrigger, h⟩ := Tx.ite_throw_eq_ok h
  obtain ⟨-, h⟩ := Tx.ite_throw_eq_ok h
  obtain ⟨id, u, hinsert, h⟩ := Tx.bind_eq_ok.mp h
  obtain ⟨hkey, rfl, rfl⟩ := insertCase_ok hinsert
  rw [Tx.bind_apply, record_apply] at h
  cases h
  exact ⟨lt_of_isNone_ne_true hcustomer, lt_of_isNone_ne_true htransaction,
    Option.not_isSome_iff_eq_none.mp htrigger, hkey, rfl⟩

/-- An operator's update rewrites a case that is open, or changes nothing. -/
theorem updateCase_ok {env : Env} {caseId : UUID} {dto : RecoveryCaseUpdateDTO}
    {actorId : Option String} {x : Unit} (h : updateCase env caseId dto actorId s = .ok (x, t)) :
    t = s ∨ ∃ case actorType, s.recoveryCases[caseId]? = some case ∧ case.state.isTerminal = false ∧
      t = { s.modifyCase caseId (applyUpdate env dto) with
        auditEvents := s.auditEvents ++ [nextAudit s env caseId "CASE_UPDATED" actorType
          (some case.state) (some case.state)] } := by
  unfold updateCase at h
  rw [Tx.get_bind_apply] at h
  rcases hcase : s.recoveryCases[caseId]? with _ | case
  · rw [hcase] at h
    cases h
  rw [hcase] at h
  dsimp only at h
  split at h
  · cases h
  next hopen =>
    split at h
    · rw [Tx.modify_bind_apply, record_apply] at h
      cases h
      exact .inr ⟨case, _, rfl, Bool.eq_false_of_not_eq_true hopen, rfl⟩
    · cases h
      exact .inl rfl

end RecoveryCaseService

namespace RiskCaseService

variable {s t : Store}

/-- The detector opens a case for a stored transaction under a key that is free, or none. -/
theorem detectAndCreateCase_ok {env : Env} {transactionId : UUID} {result : Option (UUID × Bool)}
    (h : detectAndCreateCase env transactionId s = .ok (result, t)) :
    t = s ∨ ∃ transaction row, s.transactions[transactionId]? = some transaction ∧
      s.caseByKey (caseKey transaction) = none ∧ row.caseKey = caseKey transaction ∧
      row.customerId = transaction.customerId ∧ row.triggerTransactionId = transactionId ∧
      row.state = .DETECTED ∧ row.closedAt = none ∧
      isAtRisk (classify transaction env.now).1 = true ∧
      t = { s with recoveryCases := s.recoveryCases ++ [row] } := by
  unfold detectAndCreateCase at h
  rw [Tx.get_bind_apply] at h
  rcases htransaction : s.transactions[transactionId]? with _ | transaction
  · rw [htransaction] at h
    cases h
  rw [htransaction] at h
  dsimp only at h
  split at h
  swap
  · cases h
    exact .inl rfl
  next hrisk =>
    rcases hkey : s.caseByKey (caseKey transaction) with _ | ⟨existingId, existing⟩
    · rw [hkey] at h
      obtain ⟨id, u, hinsert, h⟩ := Tx.bind_eq_ok.mp h
      obtain ⟨-, rfl, rfl⟩ := insertCase_ok hinsert
      cases h
      exact .inr ⟨transaction, _, rfl, hkey, rfl, rfl, rfl, rfl, rfl, hrisk, rfl⟩
    · rw [hkey] at h
      cases h
      exact .inl rfl

end RiskCaseService

end RevenueRescue
