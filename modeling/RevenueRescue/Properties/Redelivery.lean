import RevenueRescue.Properties.History
import RevenueRescue.Refinement.Rereading

/-!
# Redelivered webhooks

A webhook that is delivered again is suppressed if the request names its event, at any later
time and whatever happened in between: it is read under the same name, its digest is the one
on the receipt, and the receipt is still there. A request that does not name its event is read
under a new name each time, and so each delivery of it is processed.
-/

namespace RevenueRescue

open Python EventNormalizer

/-- The delivery is reported as a duplicate and leaves the rows as they were. -/
def SuppressedOn (s : Store) (delivery : Service EventRecordResult) : Prop :=
  ∃ result t, delivery s = .ok (result, t) ∧ result.duplicate = true ∧
    t.recoveryCases = s.recoveryCases ∧ t.transactions = s.transactions ∧
    t.customers = s.customers ∧ t.consents = s.consents ∧ t.auditEvents = s.auditEvents

/-- No receipt was named with this `uuid4` before. -/
def Undrawn (s : Store) (uuid4 : UUID) : Prop :=
  ∀ e ∈ s.webhookEvents, ∀ start ∈ GENERATED_STARTS, e.externalEventId ≠ generatedName start uuid4

instance (s : Store) (uuid4 : UUID) : Decidable (Undrawn s uuid4) := by
  unfold Undrawn; infer_instance

namespace Sample

/-- The library on the webhook below, which states no time; the digest is that of its event. -/
def library : Library :=
  { decimal := fun c => if '0' ≤ c ∧ c ≤ '9' then some (c.toNat - 48) else none
    isWord := fun c => c.isAlphanum || c == '_'
    fromisoformat := fun _ => none
    sha256 := fun _ => "1dde1fc95cbd7b2fbe4caa70bfaa7fe9bc13ad55703fa4417d6e9f592aef0e2b"
    hmacSha256 := fun _ _ => ""
    loads := fun _ => .error ""
    decodeAndLoad := fun _ => .error "" }

/-- A failure of the payment `pay_1`, with or without a header that names it. -/
def webhook (eventIdHeader : Option String) : RawWebhook :=
  { payload :=
      [("event_type", .str "payment.failed"), ("customer_id", .str "cust_1"),
        ("payment_id", .str "pay_1"), ("amount", .int 5000), ("currency", .str "INR")]
    provider := "razorpay"
    eventIdHeader }

/-- A `uuid4` with its first twelve digits as given. -/
def drawn (digits : ℕ) : UUID := digits * 16 ^ 20

/-- The rows after the first delivery. -/
def webhookReceived (eventIdHeader : Option String) : Store :=
  (EventService.ingestRawWebhook library env (drawn 1) (webhook eventIdHeader) true).commit
    Store.empty

end Sample

/-- A time that was not ahead of its clock is not ahead of a later clock when it is read again. -/
theorem SameTime.not_ahead {now now' t t' : Datetime} (h : SameTime now now' t t') {margin : ℤ}
    (hmargin : 0 ≤ margin) (hlater : now.instant ≤ now'.instant)
    (hahead : t.assumeUtc.instant ≤ now.instant + margin) :
    t'.assumeUtc.instant ≤ now'.instant + margin := by
  have hutc : ∀ u : Datetime, u.assumeUtc.instant = u.instant := by
    rintro ⟨wall, _ | offset⟩ <;> simp [Datetime.assumeUtc, Datetime.instant]
  rw [hutc] at hahead ⊢
  rcases h with rfl | ⟨-, rfl⟩
  · omega
  · omega

/-- Delivered again at a later time, a request that was ingested is suppressed if and only if it
names its event. -/
theorem redelivery_is_suppressed_iff (lib : Library) (config : PolicyConfig) {w : World}
    {env env' : Env} {uuid4 uuid4' : UUID} {raw : RawWebhook} {signatureVerified : Bool}
    {result : EventRecordResult} {t : Store}
    (hfirst : EventService.ingestRawWebhook lib env uuid4 raw signatureVerified w.db =
      .ok (result, t))
    (requests : List Request) (hlater : env.now.instant ≤ env'.now.instant)
    (hnew : Undrawn (World.run config ⟨t, w.sent⟩ requests).db uuid4') :
    SuppressedOn (World.run config ⟨t, w.sent⟩ requests).db
      (EventService.ingestRawWebhook lib env' uuid4' raw signatureVerified) ↔ NamesEvent raw := by
  have hevolved : Evolved t (World.run config ⟨t, w.sent⟩ requests).db :=
    World.run_evolved config ⟨t, w.sent⟩ requests
  generalize (World.run config ⟨t, w.sent⟩ requests).db = u at hevolved hnew
  unfold EventService.ingestRawWebhook at hfirst ⊢
  rcases hread : normalizeRawProviderWebhook lib env.now uuid4 raw with fault | event
  · rw [hread] at hfirst
    cases hfirst
  rw [hread] at hfirst
  obtain ⟨hvalid, hreceipt⟩ := EventService.ingestCanonicalEvent_hasReceipt hfirst
  obtain ⟨name, time, hsame, hagain, hnamed, hunnamed⟩ := normalize_again hread env'.now uuid4'
  obtain ⟨-, hname, -, -, htime, -⟩ := EventValidator.validate_eq_ok.mp hvalid
  have htime' := SameTime.not_ahead hsame (by decide) hlater htime
  rw [hagain]
  by_cases hnames : NamesEvent raw
  · rw [hnamed hnames]
    refine iff_of_true ?_ hnames
    have hvalid' := EventValidator.validate_again hvalid hname htime'
    have hreceipt' : EventService.HasReceipt u
        { event with externalEventId := event.externalEventId, occurredAt := time }
        (EventDeduplicator.computeFingerprint lib event) := hreceipt.evolve hevolved
    obtain ⟨id, hrun⟩ := hreceipt'.ingestCanonicalEvent hvalid' signatureVerified
    exact ⟨_, u, hrun, rfl, rfl, rfl, rfl, rfl, rfl⟩
  · refine iff_of_false ?_ hnames
    obtain ⟨start, hstart, rfl⟩ := hunnamed hnames
    have hvalid' := EventValidator.validate_again hvalid (generatedName_fits hstart uuid4').1 htime'
    have hfree : WebhookEventRepository.find u (lower event.provider)
        (generatedName start uuid4') = none := by
      refine Table.find?_none.mpr fun e he => ?_
      rw [beq_eq_false_iff_ne.mpr (hnew e he start hstart), Bool.and_false]
    rintro ⟨result', v, hrun, hduplicate, -⟩
    dsimp only at hrun
    rw [EventService.ingestCanonicalEvent_new env' _ signatureVerified hvalid' hfree] at hrun
    split at hrun
    · cases hrun
      cases hduplicate
    · cases hrun

/-- A webhook whose event has an id in the header is suppressed when it comes again. -/
theorem redelivery_is_suppressed_iff_named :
    SuppressedOn (World.run .default ⟨Sample.webhookReceived (some "evt_1"), []⟩ []).db
      (EventService.ingestRawWebhook Sample.library Sample.env (Sample.drawn 2)
        (Sample.webhook (some "evt_1")) true) := by
  have hok : (EventService.ingestRawWebhook Sample.library Sample.env (Sample.drawn 1)
      (Sample.webhook (some "evt_1")) true World.empty.db).toOption.isSome = true := by
    decide +kernel
  obtain ⟨result, hfirst⟩ := Tx.ok_of_isSome hok
  have hnew : Undrawn (World.run .default ⟨Sample.webhookReceived (some "evt_1"), []⟩ []).db
      (Sample.drawn 2) := by
    decide +kernel
  exact (redelivery_is_suppressed_iff Sample.library .default hfirst [] le_rfl hnew).mpr
    (.inl (by decide))

/-- A webhook that nothing names is processed each time it is delivered: the second delivery is no
duplicate, and it writes a second audit record. -/
theorem unnamed_webhook_is_processed_twice :
    ((EventService.ingestRawWebhook Sample.library Sample.env (Sample.drawn 1) (Sample.webhook none)
        true Store.empty).map fun r => (r.1.accepted, r.2.auditEvents.length)).toOption =
          some (true, 1) ∧
      ((EventService.ingestRawWebhook Sample.library Sample.env (Sample.drawn 2)
        (Sample.webhook none) true (Sample.webhookReceived none)).map fun r =>
          (r.1.duplicate, r.2.auditEvents.length)).toOption = some (false, 2) := by
  decide +kernel

end RevenueRescue
