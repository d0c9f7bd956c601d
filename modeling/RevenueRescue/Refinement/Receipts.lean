import RevenueRescue.Cases.Normalizer
import RevenueRescue.Refinement.Effects

/-!
# Receipts

An ingested event leaves a receipt, and no operation takes it away or changes what it says.
Reading the same request again gives the same event but for its clock: a request that names
its event is read under the same name, and any other one under a new name.
-/

namespace RevenueRescue

open Python

variable {s t : Store}

/-! ## Receipts stay -/

/-- A receipt is found again later, with the digest it had. -/
theorem WebhookEventRepository.find_evolve (hevolved : Evolved s t) {provider eventId : String}
    {id : UUID} {row : ProviderWebhookEvent} (h : find s provider eventId = some (id, row)) :
    ∃ later, find t provider eventId = some (id, later) ∧ later.payloadHash = row.payloadHash := by
  obtain ⟨later, hlater, hstep⟩ := hevolved.webhookEvents.find?
    (fun a b hab => by rw [hab.provider, hab.externalEventId]) h
  exact ⟨later, hlater, hstep.payloadHash⟩

namespace EventService

/-- The event has a receipt with this digest. -/
def HasReceipt (s : Store) (event : CanonicalEventDTO) (payloadHash : String) : Prop :=
  ∃ id row, WebhookEventRepository.find s (lower event.provider) event.externalEventId =
    some (id, row) ∧ row.payloadHash = payloadHash

theorem HasReceipt.evolve {event : CanonicalEventDTO} {payloadHash : String}
    (h : HasReceipt s event payloadHash) (hevolved : Evolved s t) :
    HasReceipt t event payloadHash := by
  obtain ⟨id, row, hfind, hhash⟩ := h
  obtain ⟨later, hlater, hkept⟩ := WebhookEventRepository.find_evolve hevolved hfind
  exact ⟨id, later, hlater, hkept.trans hhash⟩

/-- The rows with the receipt of a new event. -/
theorem hasReceipt_received {event : CanonicalEventDTO} (payloadHash : String)
    (signatureVerified : Bool)
    (hnew : WebhookEventRepository.find s (lower event.provider) event.externalEventId = none) :
    HasReceipt (received s event payloadHash signatureVerified) event payloadHash :=
  ⟨_, _, Table.find?_append_one hnew (by simp [EventDeduplicator.receiptOf]), rfl⟩

/-- Marking a receipt as processed loses nothing. -/
theorem processed_evolved (s : Store) (id : UUID) : Evolved s (processed s id) :=
  { Evolved.refl s with webhookEvents := .modify _ id _ fun _ _ => ⟨rfl, rfl, rfl⟩ }

/-- An ingestion that is answered leaves the event with a receipt of this payload. -/
theorem ingestCanonicalEvent_hasReceipt {env : Env} {event : CanonicalEventDTO}
    {payloadHash : String} {signatureVerified : Bool} {result : EventRecordResult}
    (h : ingestCanonicalEvent env event payloadHash signatureVerified s = .ok (result, t)) :
    EventValidator.validate env event = .ok () ∧ HasReceipt t event payloadHash := by
  rcases hvalid : EventValidator.validate env event with fault | _
  · rw [ingestCanonicalEvent_invalid payloadHash signatureVerified hvalid] at h
    cases h
  refine ⟨rfl, ?_⟩
  rcases hfind : WebhookEventRepository.find s (lower event.provider) event.externalEventId
    with _ | existing
  · rw [ingestCanonicalEvent_new env payloadHash signatureVerified hvalid hfind] at h
    rcases hrun : EventToCaseEngine.processEvent env event
      (received s event payloadHash signatureVerified) with fault | ⟨outcome, u⟩
    · rw [hrun] at h
      cases h
    · rw [hrun] at h
      cases h
      have hdelivered := EventToCaseEngine.delivered_of_ok hrun
      have hreceived := hasReceipt_received payloadHash signatureVerified hfind
      exact (hreceived.evolve hdelivered.evolved).evolve (processed_evolved u _)
  · rw [ingestCanonicalEvent_found payloadHash signatureVerified hvalid hfind] at h
    by_cases hother : existing.2.payloadHash ≠ payloadHash
    · rw [if_pos hother] at h
      cases h
    · rw [if_neg hother] at h
      cases h
      exact ⟨existing.1, existing.2, hfind, not_not.mp hother⟩

/-- A valid event with a receipt of this payload is a duplicate and changes nothing. -/
theorem HasReceipt.ingestCanonicalEvent {env : Env} {event : CanonicalEventDTO}
    {payloadHash : String} (h : HasReceipt s event payloadHash)
    (hvalid : EventValidator.validate env event = .ok ()) (signatureVerified : Bool) :
    ∃ id, ingestCanonicalEvent env event payloadHash signatureVerified s =
      .ok (⟨id, false, true, "duplicate_event_suppressed", false⟩, s) := by
  obtain ⟨id, row, hfind, hhash⟩ := h
  refine ⟨id, ?_⟩
  rw [ingestCanonicalEvent_found payloadHash signatureVerified hvalid hfind]
  exact if_neg (not_not.mpr hhash)

/-- An ingestion that is answered as a duplicate changes nothing. -/
theorem ingestCanonicalEvent_duplicate {env : Env} {event : CanonicalEventDTO}
    {payloadHash : String} {signatureVerified : Bool} {result : EventRecordResult}
    (h : ingestCanonicalEvent env event payloadHash signatureVerified s = .ok (result, t))
    (hduplicate : result.duplicate = true) : t = s := by
  have hvalid := (ingestCanonicalEvent_hasReceipt h).1
  rcases hfind : WebhookEventRepository.find s (lower event.provider) event.externalEventId
    with _ | existing
  · rw [ingestCanonicalEvent_new env payloadHash signatureVerified hvalid hfind] at h
    split at h
    · cases h
      cases hduplicate
    · cases h
  · rw [ingestCanonicalEvent_found payloadHash signatureVerified hvalid hfind] at h
    split at h
    · cases h
    · cases h
      rfl

end EventService

/-! ## Validation at a later time -/

namespace EventValidator

theorem check_eq_ok {holds : Bool} {message field : String} :
    check holds message field = .ok () ↔ holds = true := by
  cases holds <;> simp [check]

/-- Text that is present and not too long. -/
def TextFits (text : String) (limit : ℕ) : Prop :=
  isBlank (some text) = false ∧ text.toList.length ≤ limit

theorem checkText_eq_ok {text : String} {limit : ℕ} {emptyMessage longMessage field : String} :
    checkText text limit emptyMessage longMessage field = .ok () ↔ TextFits text limit := by
  unfold checkText TextFits
  rw [Except.check_bind_eq_ok, check_eq_ok, check_eq_ok, decide_eq_true_eq, Bool.not_eq_true']

/-- The conditions under which an event is valid. -/
theorem validate_eq_ok {env : Env} {event : CanonicalEventDTO} :
    validate env event = .ok () ↔ event.eventType ∈ SUPPORTED_EVENT_TYPES ∧
      TextFits event.externalEventId 200 ∧ TextFits event.provider 64 ∧
      TextFits event.customerReference 128 ∧
      event.occurredAt.assumeUtc.instant ≤ env.now.instant + 15 * 60 * 1000000 ∧
      validateByType event = .ok () := by
  unfold validate
  by_cases htype : event.eventType ∉ SUPPORTED_EVENT_TYPES
  · rw [if_pos htype]
    exact iff_of_false (by rintro ⟨⟩) fun h => htype h.1
  · rw [if_neg htype]
    simp only [Except.check_bind_eq_ok, checkText_eq_ok, check_eq_ok, decide_eq_true_eq]
    exact ⟨fun h => ⟨not_not.mp htype, h⟩, fun h => h.2⟩

/-- An event that was valid stays valid under a name that fits and a time that is not ahead. -/
theorem validate_again {env env' : Env} {event : CanonicalEventDTO}
    (h : validate env event = .ok ()) {externalEventId : String} {occurredAt : Datetime}
    (hname : TextFits externalEventId 200)
    (htime : occurredAt.assumeUtc.instant ≤ env'.now.instant + 15 * 60 * 1000000) :
    validate env' { event with externalEventId, occurredAt } = .ok () := by
  obtain ⟨htype, -, hprovider, hcustomer, -, hrules⟩ := validate_eq_ok.mp h
  exact validate_eq_ok.mpr ⟨htype, hname, hprovider, hcustomer, htime, hrules⟩

end EventValidator

end RevenueRescue
