import RevenueRescue.Properties.Redelivery
import RevenueRescue.Refinement.Bodies
import RevenueRescue.Refinement.Chain

/-!
# Answering every webhook

A webhook should be answered: accepted, recognised as a duplicate, or refused with one of the
application's own exceptions. The validation and the receipts keep to that. The normalisation does
not, since it converts whatever the body has in its places, and neither does the case engine, which
reads a tier and a failure count whose types nobody checked.
-/

namespace RevenueRescue

open Python

/-- The exception is one of the application's own and blames the client. -/
def Fault.BlamesClient (fault : Fault) : Prop :=
  ∃ code, fault.statusCode = some code ∧ 400 ≤ code ∧ code < 500

/-- The webhook is accepted, is a duplicate, or is refused with an exception of the application. -/
def Answered : Except Fault (EventRecordResult × Store) → Prop
  | .ok (result, _) => result.accepted = true ∨ result.duplicate = true
  | .error fault => fault.BlamesClient

namespace EventToCaseEngine

/-- The values that the engine reads have the types it relies on: the failure count of the case that
it counts a failure for is a number, and the tier that it classifies a new case by is a text. -/
def Processable (s : Store) (event : CanonicalEventDTO) : Prop :=
  cleanType event ∈ CASE_RESOLUTION_EVENTS ∨
    match matchedCase s event with
    | some (_, case) => case.state.isTerminal = true ∨ triggerSucceeded s case = true ∨
        (nextFailureCount case).isSome = true
    | none => (Dict.get event.metadata "customer_tier").truthy = true →
        ∃ text, Dict.get event.metadata "customer_tier" = .str text

variable {s : Store} {event : CanonicalEventDTO}

/-- The classification raises exactly on a tier that is no text. -/
theorem riskOf_cases (event : CanonicalEventDTO) :
    ((∃ risk, riskOf event = .ok risk) ∧ ((Dict.get event.metadata "customer_tier").truthy = true →
      ∃ text, Dict.get event.metadata "customer_tier" = .str text)) ∨
    (riskOf event = .error .attributeError ∧ (Dict.get event.metadata "customer_tier").truthy = true ∧
      ∀ text, Dict.get event.metadata "customer_tier" ≠ .str text) := by
  unfold riskOf CaseRiskClassifier.classifyRisk
  dsimp only
  generalize Dict.get event.metadata "customer_tier" = value
  unfold CaseRiskClassifier.tier
  by_cases htruthy : value.truthy = true
  · rw [if_pos htruthy]
    cases value with
    | str text =>
      refine .inl ⟨?_, fun _ => ⟨text, rfl⟩⟩
      dsimp only
      split_ifs <;> exact ⟨_, rfl⟩
    | _ => exact .inr ⟨rfl, htruthy, fun _ h => by cases h⟩
  · rw [if_neg htruthy]
    exact .inl ⟨⟨_, rfl⟩, fun h => absurd h htruthy⟩

/-- Provisioning leaves the trigger transaction of a stored case as it is. -/
theorem triggerSucceeded_provisioned (event : CanonicalEventDTO) {case : RecoveryCase}
    (h : case.triggerTransactionId < s.transactions.length) :
    triggerSucceeded (provisioned s event) case = triggerSucceeded s case := by
  unfold triggerSucceeded
  rcases provisioned_transactions_cases s event with ⟨txn, -, hsame⟩ | ⟨-, hadded⟩
  · rw [hsame]
  · rw [hadded.2, List.getElem?_append_left h]

/-- The engine processes the events that it can read, and raises errors of its own on no other. -/
theorem processEvent_cases (env : Env) (htype : cleanType event ∈ CASE_CREATION_ELIGIBLE_EVENTS ++
      CASE_RESOLUTION_EVENTS)
    (htriggers : ∀ case ∈ s.recoveryCases, case.triggerTransactionId < s.transactions.length)
    (hknown : TransitionsKnown s) :
    (Processable s event ∧ ∃ r, processEvent env event s = .ok r) ∨
      (¬Processable s event ∧ ∃ fault, processEvent env event s = .error fault ∧
        fault.statusCode = none) := by
  rw [processEvent_apply env s htype]
  unfold processProvisioned Processable
  by_cases hsuccess : cleanType event ∈ CASE_RESOLUTION_EVENTS
  · rw [if_pos hsuccess]
    refine .inl ⟨.inl hsuccess, ?_⟩
    rcases matchedCase s event with _ | ⟨caseId, case⟩
    · exact ⟨_, rfl⟩
    cases hterminal : case.state.isTerminal with
    | true =>
      obtain ⟨outcome, -, hrun⟩ := handlePaymentSucceeded_terminal env (provisioned s event) caseId
        (transactionOf s event) hterminal
      exact ⟨_, hrun⟩
    | false =>
      obtain ⟨outcome, -, hrun⟩ := handlePaymentSucceeded_open env (provisioned s event) caseId
        (transactionOf s event) hterminal
      exact ⟨_, hrun⟩
  rw [if_neg hsuccess, or_iff_right hsuccess]
  rcases hmatch : matchedCase s event with _ | ⟨caseId, case⟩
  · have hkey := caseByKey_provisioned_of_matchedCase hmatch
    have hfresh : ((provisioned s event).transitionNumbers
        (provisioned s event).recoveryCases.length).contains 1 = false := by
      have hnone := hknown.transitionNumbers_eq_nil
      unfold Store.transitionNumbers Store.transitionsOf at hnone ⊢
      rw [provisioned_transitions, provisioned_recoveryCases, hnone]
      rfl
    dsimp only
    rcases createNewCase_cases env (customerOf s event) (transactionOf s event) hkey
      with ⟨fault, hrisk, hrun⟩ | ⟨risk, hrisk, hrun⟩
    · rcases riskOf_cases event with ⟨⟨_, hok⟩, -⟩ | ⟨herror, htruthy, hnone⟩
      · rw [hrisk] at hok
        cases hok
      · rw [hrisk] at herror
        refine .inr ⟨fun h => ?_, fault, hrun, ?_⟩
        · obtain ⟨text, htext⟩ := h htruthy
          exact hnone text htext
        · cases herror
          rfl
    · rw [hfresh, if_neg Bool.false_ne_true] at hrun
      obtain ⟨outcome, -, hrun⟩ := hrun
      rcases riskOf_cases event with ⟨-, hreads⟩ | ⟨herror, -⟩
      · exact .inl ⟨hreads, _, hrun⟩
      · rw [hrisk] at herror
        cases herror
  · have hrow : case ∈ s.recoveryCases :=
      List.mem_of_getElem? (getElem?_of_findExistingCase hmatch)
    have htrigger := triggerSucceeded_provisioned event (htriggers case hrow)
    dsimp only
    rcases handleExistingCaseUpdate_cases env event (provisioned s event) caseId case with
      ⟨hsettled, outcome, -, hrun⟩ | ⟨hopen, hunpaid, hrest⟩
    · rw [htrigger] at hsettled
      exact .inl ⟨or_assoc.mp (.inl hsettled), _, hrun⟩
    rw [htrigger] at hunpaid
    rcases hrest with ⟨count, outcome, hcount, -, hrun⟩ | ⟨hcount, hrun⟩
    · exact .inl ⟨.inr (.inr (by rw [hcount]; rfl)), _, hrun⟩
    · refine .inr ⟨?_, _, hrun, rfl⟩
      rw [hopen, hunpaid, hcount]
      decide

end EventToCaseEngine

/-! ## Validation and receipts -/

namespace EventValidator

theorem check_blamesClient {holds : Bool} {message field : String} :
    (check holds message field).Raises Fault.BlamesClient := by
  cases holds with
  | true => exact .of_ok ()
  | false => exact .of_error ⟨422, rfl, by decide, by decide⟩

theorem checkText_blamesClient {text : String} {limit : ℕ} {emptyMessage longMessage field : String} :
    (checkText text limit emptyMessage longMessage field).Raises Fault.BlamesClient :=
  .bind check_blamesClient fun _ => check_blamesClient

theorem validateByType_blamesClient (event : CanonicalEventDTO) :
    (validateByType event).Raises Fault.BlamesClient := by
  refine .ite (fun _ => .bind check_blamesClient fun _ => check_blamesClient) fun _ => ?_
  refine .ite (fun _ => check_blamesClient) fun _ => ?_
  refine .ite (fun _ => .bind check_blamesClient fun _ => check_blamesClient) fun _ => ?_
  refine .ite (fun _ => check_blamesClient) fun _ => ?_
  exact .ite (fun _ => check_blamesClient) fun _ => .of_ok ()

/-- An invalid event is refused with an exception of the application. -/
theorem validate_blamesClient (env : Env) (event : CanonicalEventDTO) :
    (validate env event).Raises Fault.BlamesClient := by
  refine .ite (fun _ => .of_error ⟨400, rfl, by decide, by decide⟩) fun _ => ?_
  refine .bind checkText_blamesClient fun _ => .bind checkText_blamesClient fun _ => ?_
  refine .bind checkText_blamesClient fun _ => .bind check_blamesClient fun _ => ?_
  exact validateByType_blamesClient event

/-- Valid events are of a type that the case engine handles. -/
theorem cleanType_of_valid {env : Env} {event : CanonicalEventDTO}
    (h : validate env event = .ok ()) :
    EventToCaseEngine.cleanType event ∈ EventToCaseEngine.CASE_CREATION_ELIGIBLE_EVENTS ++
      EventToCaseEngine.CASE_RESOLUTION_EVENTS := by
  have hclean : ∀ type ∈ SUPPORTED_EVENT_TYPES, upper (strip type) ∈
      EventToCaseEngine.CASE_CREATION_ELIGIBLE_EVENTS ++
        EventToCaseEngine.CASE_RESOLUTION_EVENTS := by
    decide +kernel
  exact hclean event.eventType (validate_eq_ok.mp h).1

end EventValidator

/-- How the ingestion of an event can end. -/
inductive Ingested (env : Env) (s : Store) (event : CanonicalEventDTO) (payloadHash : String) :
    Except Fault (EventRecordResult × Store) → Prop where
  | invalid (fault : Fault) (hvalid : EventValidator.validate env event = .error fault)
      (hblames : fault.BlamesClient) : Ingested env s event payloadHash (.error fault)
  | conflicting (fault : Fault) (existing : UUID × ProviderWebhookEvent)
      (hvalid : EventValidator.validate env event = .ok ())
      (hfind : WebhookEventRepository.find s (lower event.provider) event.externalEventId =
        some existing)
      (hother : existing.2.payloadHash ≠ payloadHash) (hblames : fault.BlamesClient) :
      Ingested env s event payloadHash (.error fault)
  | repeated (result : EventRecordResult) (t : Store) (existing : UUID × ProviderWebhookEvent)
      (hvalid : EventValidator.validate env event = .ok ())
      (hfind : WebhookEventRepository.find s (lower event.provider) event.externalEventId =
        some existing)
      (hsame : existing.2.payloadHash = payloadHash) (hduplicate : result.duplicate = true) :
      Ingested env s event payloadHash (.ok (result, t))
  | processed (result : EventRecordResult) (t : Store)
      (hvalid : EventValidator.validate env event = .ok ())
      (hnew : WebhookEventRepository.find s (lower event.provider) event.externalEventId = none)
      (hprocessable : EventToCaseEngine.Processable s event) (haccepted : result.accepted = true) :
      Ingested env s event payloadHash (.ok (result, t))
  | unprocessable (fault : Fault) (hvalid : EventValidator.validate env event = .ok ())
      (hnew : WebhookEventRepository.find s (lower event.provider) event.externalEventId = none)
      (hnot : ¬EventToCaseEngine.Processable s event) (huntyped : fault.statusCode = none) :
      Ingested env s event payloadHash (.error fault)

/-- An exception without a status code blames nobody. -/
theorem Fault.not_blamesClient {fault : Fault} (h : fault.statusCode = none) :
    ¬fault.BlamesClient := by
  rintro ⟨code, hcode, -⟩
  rw [h] at hcode
  cases hcode

/-- An ingestion is refused, met its receipt, or was left to the case engine. -/
theorem EventService.ingestCanonicalEvent_cases (env : Env) {s : Store} (event : CanonicalEventDTO)
    (payloadHash : String) (signatureVerified : Bool)
    (htriggers : ∀ case ∈ s.recoveryCases, case.triggerTransactionId < s.transactions.length)
    (hknown : TransitionsKnown s) :
    Ingested env s event payloadHash
      (ingestCanonicalEvent env event payloadHash signatureVerified s) := by
  rcases hvalid : EventValidator.validate env event with fault | _
  · rw [ingestCanonicalEvent_invalid payloadHash signatureVerified hvalid]
    exact .invalid fault hvalid ((EventValidator.validate_blamesClient env event).of_eq fault hvalid)
  rcases hfind : WebhookEventRepository.find s (lower event.provider) event.externalEventId
    with _ | existing
  · rw [ingestCanonicalEvent_new env payloadHash signatureVerified hvalid hfind]
    have hsame : EventToCaseEngine.Processable (received s event payloadHash signatureVerified)
        event ↔ EventToCaseEngine.Processable s event := Iff.rfl
    rcases EventToCaseEngine.processEvent_cases env
      (s := received s event payloadHash signatureVerified)
      (EventValidator.cleanType_of_valid hvalid) htriggers hknown with
      ⟨hprocessable, ⟨outcome, u⟩, hrun⟩ | ⟨hnot, fault, hrun, huntyped⟩
    · rw [hrun]
      exact .processed _ _ hvalid hfind (hsame.mp hprocessable) rfl
    · rw [hrun]
      exact .unprocessable fault hvalid hfind (fun h => hnot (hsame.mpr h)) huntyped
  · rw [ingestCanonicalEvent_found payloadHash signatureVerified hvalid hfind]
    by_cases hother : existing.2.payloadHash ≠ payloadHash
    · rw [if_pos hother]
      exact .conflicting _ existing hvalid hfind hother ⟨409, rfl, by decide, by decide⟩
    · rw [if_neg hother]
      exact .repeated _ _ existing hvalid hfind (not_not.mp hother) rfl

/-- The rows of a run are known to the transitions. -/
theorem World.run_transitionsKnown (config : PolicyConfig) (requests : List Request) :
    TransitionsKnown (World.empty.run config requests).db :=
  Run.invariant (I := fun w : World => TransitionsKnown w.db)
    (fun w r h => (World.step_writes config w r).transitionsKnown h) requests
    fun _ h => by cases h

/-! ## Webhooks -/

end RevenueRescue
