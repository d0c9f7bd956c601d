import RevenueRescue.Refinement.Receipts

/-!
# Reading a request again

The canonical event is a function of the request, of the clock where the request states no
readable time, and of a new `uuid4` where nothing in the request names the event. So a second
reading differs from the first one in at most the time and the name.
-/

namespace RevenueRescue

open Python

namespace EventNormalizer

/-- A time that is the same in both readings, or the clock in each of them. -/
def SameTime (now now' t t' : Datetime) : Prop := t' = t ∨ (t = now ∧ t' = now')

/-- The body is in neither of the two gateways' formats. -/
def IsGeneric (raw : RawWebhook) : Prop :=
  nested raw.payload "data" "object" = .ok none ∧ nested raw.payload "payload" "payment" = .ok none

/-- Something in the request names its event: the header, the id of the body or, in the generic
format, its `event_id`. -/
def NamesEvent (raw : RawWebhook) : Prop :=
  (Json.ofOption raw.eventIdHeader).truthy = true ∨ (Dict.get raw.payload "id").truthy = true ∨
    (IsGeneric raw ∧ (Dict.get raw.payload "event_id").truthy = true)

/-- How generated names start, by format. -/
def GENERATED_STARTS : List String := ["evt_str_", "evt_rzp_", "evt_gen_"]

variable {lib : Library} {now now' : Datetime} {uuid4 uuid4' : UUID} {raw : RawWebhook}

theorem normalizeEpoch_again {x : ℚ} {t : Datetime} (h : normalizeEpoch x = .ok t)
    (now now' : Datetime) :
    ∃ t', normalizeEpoch x = .ok t' ∧ SameTime now now' t t' :=
  ⟨t, h, .inl rfl⟩

theorem normalizeTimestamp_again {value : Json} {t : Datetime}
    (h : normalizeTimestamp lib now value = .ok t) (now' : Datetime) :
    ∃ t', normalizeTimestamp lib now' value = .ok t' ∧ SameTime now now' t t' := by
  cases value with
  | bool b => exact normalizeEpoch_again h now now'
  | int n => exact normalizeEpoch_again h now now'
  | float x => exact normalizeEpoch_again h now now'
  | inf negative => cases h
  | nan => cases h
  | str s =>
    simp only [normalizeTimestamp] at h ⊢
    rcases hparse : lib.fromisoformat (replaceZ s) with _ | parsed
    · rw [hparse] at h
      cases h
      exact ⟨now', rfl, .inr ⟨rfl, rfl⟩⟩
    · rw [hparse] at h
      cases h
      exact ⟨parsed.assumeUtc, rfl, .inl rfl⟩
  | null =>
    cases h
    exact ⟨now', rfl, .inr ⟨rfl, rfl⟩⟩
  | arr items =>
    cases h
    exact ⟨now', rfl, .inr ⟨rfl, rfl⟩⟩
  | obj fields =>
    cases h
    exact ⟨now', rfl, .inr ⟨rfl, rfl⟩⟩

/-- Two readings agree on everything but the time and, where nothing names the event, its name. -/
def Reread (now now' : Datetime) (uuid4 uuid4' : UUID) (named : Json) (start : String)
    (first second : Except Fault RawFields) : Prop :=
  ∀ fields, first = .ok fields → fields.extId = named.or (generatedId start uuid4) ∧
    ∃ occurredAt, SameTime now now' fields.occurredAt occurredAt ∧
      second = .ok { fields with extId := named.or (generatedId start uuid4'), occurredAt }

theorem stripeFields_reread (object : Json) :
    Reread now now' uuid4 uuid4' ((Dict.get raw.payload "id").or (.ofOption raw.eventIdHeader))
      "evt_str_" (stripeFields lib now uuid4 raw object)
      (stripeFields lib now' uuid4' raw object) := by
  intro fields h
  unfold stripeFields at h ⊢
  obtain ⟨t, ht, h⟩ := Except.bind_eq_ok.mp h
  obtain ⟨t', ht', hsame⟩ := normalizeTimestamp_again ht now'
  obtain ⟨obj, hobj, h⟩ := Except.bind_eq_ok.mp h
  obtain ⟨amount, hamount, h⟩ := Except.bind_eq_ok.mp h
  obtain ⟨lastError, hlast, h⟩ := Except.bind_eq_ok.mp h
  obtain ⟨code, hcode, h⟩ := Except.bind_eq_ok.mp h
  cases h
  refine ⟨rfl, t', hsame, ?_⟩
  simp only [ht', hobj, hamount, hlast, hcode, bind, Except.bind]
  rfl

theorem razorpayFields_reread (payment : Json) :
    Reread now now' uuid4 uuid4' ((Json.ofOption raw.eventIdHeader).or (Dict.get raw.payload "id"))
      "evt_rzp_" (razorpayFields lib now uuid4 raw payment)
      (razorpayFields lib now' uuid4' raw payment) := by
  intro fields h
  unfold razorpayFields at h ⊢
  obtain ⟨outer, houter, h⟩ := Except.bind_eq_ok.mp h
  obtain ⟨t, ht, h⟩ := Except.bind_eq_ok.mp h
  obtain ⟨t', ht', hsame⟩ := normalizeTimestamp_again ht now'
  obtain ⟨entity, hentity, h⟩ := Except.bind_eq_ok.mp h
  obtain ⟨amount, hamount, h⟩ := Except.bind_eq_ok.mp h
  obtain ⟨code, hcode, h⟩ := Except.bind_eq_ok.mp h
  cases h
  refine ⟨rfl, t', hsame, ?_⟩
  simp only [houter, ht', hentity, hamount, hcode, bind, Except.bind]
  rfl

theorem genericFields_reread :
    Reread now now' uuid4 uuid4'
      (((Json.ofOption raw.eventIdHeader).or (Dict.get raw.payload "id")).or
        (Dict.get raw.payload "event_id"))
      "evt_gen_" (genericFields lib now uuid4 raw) (genericFields lib now' uuid4' raw) := by
  intro fields h
  unfold genericFields at h ⊢
  obtain ⟨t, ht, h⟩ := Except.bind_eq_ok.mp h
  obtain ⟨t', ht', hsame⟩ := normalizeTimestamp_again ht now'
  obtain ⟨amount, hamount, h⟩ := Except.bind_eq_ok.mp h
  obtain ⟨code, hcode, h⟩ := Except.bind_eq_ok.mp h
  cases h
  refine ⟨rfl, t', hsame, ?_⟩
  simp only [ht', hamount, hcode, bind, Except.bind]
  rfl

theorem or_truthy (value otherwise : Json) :
    (value.or otherwise).truthy = true ↔ value.truthy = true ∨ otherwise.truthy = true := by
  by_cases h : value.truthy = true
  · rw [Json.or_of_truthy h]
    exact iff_of_true h (.inl h)
  · rw [Json.or_of_not_truthy h]
    exact ⟨.inr, fun hor => hor.resolve_left h⟩

/-- In a gateway's format only the header and the id of the body name the event. -/
theorem namesEvent_of_gateway (h : ¬IsGeneric raw) :
    NamesEvent raw ↔ (Json.ofOption raw.eventIdHeader).truthy = true ∨
      (Dict.get raw.payload "id").truthy = true := by
  unfold NamesEvent
  exact or_congr_right (or_iff_left fun hgeneric => h hgeneric.1)

/-- Whatever its format, a body is read again as the same fields under the name that the request
gives its event, if it gives one. -/
theorem rawFields_reread (lib : Library) (now now' : Datetime) (uuid4 uuid4' : UUID)
    (raw : RawWebhook) :
    ∃ named, ∃ start ∈ GENERATED_STARTS, (named.truthy = true ↔ NamesEvent raw) ∧
      Reread now now' uuid4 uuid4' named start (rawFields lib now uuid4 raw)
        (rawFields lib now' uuid4' raw) := by
  let byBody := (Dict.get raw.payload "id").or (.ofOption raw.eventIdHeader)
  let byHeader := (Json.ofOption raw.eventIdHeader).or (Dict.get raw.payload "id")
  have hbody : ¬IsGeneric raw → (byBody.truthy = true ↔ NamesEvent raw) := fun h => by
    rw [namesEvent_of_gateway h, or_truthy, or_comm]
  have hheader : ¬IsGeneric raw → (byHeader.truthy = true ↔ NamesEvent raw) := fun h => by
    rw [namesEvent_of_gateway h, or_truthy]
  have hfail : ∀ fault, Reread now now' uuid4 uuid4' byBody "evt_str_" (.error fault)
      (.error fault) := fun fault fields h => by cases h
  unfold rawFields
  rcases hstripe : nested raw.payload "data" "object" with fault | _ | object
  · have hgateway : ¬IsGeneric raw := fun h => by
      rw [h.1] at hstripe
      cases hstripe
    exact ⟨byBody, "evt_str_", by decide, hbody hgateway, hfail fault⟩
  · rcases hrazorpay : nested raw.payload "payload" "payment" with fault | _ | payment
    · have hgateway : ¬IsGeneric raw := fun h => by
        rw [h.2] at hrazorpay
        cases hrazorpay
      exact ⟨byBody, "evt_str_", by decide, hbody hgateway, hfail fault⟩
    · have hnamed : (byHeader.or (Dict.get raw.payload "event_id")).truthy = true ↔
          NamesEvent raw := by
        rw [or_truthy, or_truthy, or_assoc]
        unfold NamesEvent
        rw [and_iff_right (show IsGeneric raw from ⟨hstripe, hrazorpay⟩)]
      exact ⟨_, "evt_gen_", by decide, hnamed, genericFields_reread⟩
    · have hgateway : ¬IsGeneric raw := fun h => by
        rw [h.2] at hrazorpay
        cases hrazorpay
      exact ⟨byHeader, "evt_rzp_", by decide, hheader hgateway, razorpayFields_reread payment⟩
  · have hgateway : ¬IsGeneric raw := fun h => by
      rw [h.1] at hstripe
      cases hstripe
    exact ⟨byBody, "evt_str_", by decide, hbody hgateway, stripeFields_reread object⟩

/-! ## The canonical event -/

theorem fieldString_eq_ok {low high : ℕ} {value : Json} {text : String} :
    fieldString low high value = .ok text ↔
      value = .str text ∧ low ≤ text.length ∧ text.length ≤ high := by
  cases value with
  | str s =>
    unfold fieldString
    by_cases hfits : low ≤ s.length ∧ s.length ≤ high
    · simp only [if_pos hfits, Except.ok.injEq, Json.str.injEq]
      exact ⟨fun h => h ▸ ⟨rfl, hfits⟩, fun h => h.1⟩
    · simp only [if_neg hfits, Json.str.injEq, reduceCtorEq, false_iff]
      rintro ⟨rfl, h⟩
      exact hfits h
  | _ => exact iff_of_false (by rintro ⟨⟩) (by rintro ⟨⟨⟩, -⟩)

/-- The canonical event takes its name and its time from the fields, and under another name and
time it is the same event otherwise. -/
theorem canonicalEvent_again {fields : RawFields} {event : CanonicalEventDTO}
    (h : canonicalEvent lib raw fields = .ok event) :
    fieldString 1 200 fields.extId = .ok event.externalEventId ∧
      event.occurredAt = fields.occurredAt ∧
      ∀ extId externalEventId occurredAt, fieldString 1 200 extId = .ok externalEventId →
        canonicalEvent lib raw { fields with extId, occurredAt } =
          .ok { event with externalEventId, occurredAt } := by
  unfold canonicalEvent at h
  obtain ⟨type, htype, h⟩ := Except.bind_eq_ok.mp h
  obtain ⟨name, hname, h⟩ := Except.bind_eq_ok.mp h
  obtain ⟨eventType, heventType, h⟩ := Except.bind_eq_ok.mp h
  obtain ⟨provider, hprovider, h⟩ := Except.bind_eq_ok.mp h
  obtain ⟨customer, hcustomer, h⟩ := Except.bind_eq_ok.mp h
  obtain ⟨payment, hpayment, h⟩ := Except.bind_eq_ok.mp h
  obtain ⟨subscription, hsubscription, h⟩ := Except.bind_eq_ok.mp h
  obtain ⟨invoice, hinvoice, h⟩ := Except.bind_eq_ok.mp h
  obtain ⟨checkout, hcheckout, h⟩ := Except.bind_eq_ok.mp h
  obtain ⟨amount, hamount, h⟩ := Except.bind_eq_ok.mp h
  obtain ⟨currency, hcurrency, h⟩ := Except.bind_eq_ok.mp h
  obtain ⟨code, hcode, h⟩ := Except.bind_eq_ok.mp h
  obtain ⟨message, hmessage, h⟩ := Except.bind_eq_ok.mp h
  obtain ⟨metadata, hmetadata, h⟩ := Except.bind_eq_ok.mp h
  cases h
  refine ⟨hname, rfl, fun extId externalEventId occurredAt hid => ?_⟩
  unfold canonicalEvent
  simp only [htype, hid, heventType, hprovider, hcustomer, hpayment, hsubscription, hinvoice,
    hcheckout, hamount, hcurrency, hcode, hmessage, hmetadata, bind, Except.bind]
  rfl

/-- The text of a generated name. -/
def generatedName (start : String) (uuid4 : UUID) : String :=
  start ++ String.ofList ((UUID.hex uuid4).toList.take 12)

theorem generatedName_fits {start : String} (hstart : start ∈ GENERATED_STARTS) (uuid4 : UUID) :
    EventValidator.TextFits (generatedName start uuid4) 200 ∧
      (generatedName start uuid4).length = 20 := by
  have hchars : (generatedName start uuid4).toList =
      start.toList ++ (hexDigits 32 uuid4).take 12 := by
    unfold generatedName UUID.hex
    rw [String.toList_append, String.toList_ofList, String.toList_ofList]
  have hstarts : ∀ text ∈ GENERATED_STARTS, text.toList.length = 8 ∧ 'e' ∈ text.toList := by
    decide +kernel
  obtain ⟨height, he⟩ := hstarts start hstart
  have hlength : (generatedName start uuid4).toList.length = 20 := by
    rw [hchars, List.length_append, height, List.length_take, hexDigits_length]
    rfl
  refine ⟨⟨?_, by omega⟩, String.length_toList .. ▸ hlength⟩
  have hmem : 'e' ∈ (generatedName start uuid4).toList := by
    rw [hchars]
    exact List.mem_append_left _ he
  exact beq_eq_false_iff_ne.mpr (strip_ne_empty hmem (by decide))

/-- A second reading gives the same event but for the time, and for the name if nothing in the
request names the event. -/
theorem normalize_again {event : CanonicalEventDTO}
    (h : normalizeRawProviderWebhook lib now uuid4 raw = .ok event) (now' : Datetime)
    (uuid4' : UUID) :
    ∃ externalEventId occurredAt, SameTime now now' event.occurredAt occurredAt ∧
      normalizeRawProviderWebhook lib now' uuid4' raw =
        .ok { event with externalEventId, occurredAt } ∧
      (NamesEvent raw → externalEventId = event.externalEventId) ∧
      (¬NamesEvent raw → ∃ start ∈ GENERATED_STARTS,
        externalEventId = generatedName start uuid4') := by
  unfold normalizeRawProviderWebhook at h ⊢
  obtain ⟨fields, hfields, h⟩ := Except.bind_eq_ok.mp h
  obtain ⟨named, start, hstart, hnamed, hreread⟩ :=
    rawFields_reread lib now now' uuid4 uuid4' raw
  obtain ⟨hextId, occurredAt, hsame, hagain⟩ := hreread fields hfields
  obtain ⟨hname, htime, hevent⟩ := canonicalEvent_again h
  rw [← htime] at hsame
  rw [hagain]
  by_cases hnames : NamesEvent raw
  · rw [hextId, Json.or_of_truthy (hnamed.mpr hnames)] at hname
    rw [Json.or_of_truthy (hnamed.mpr hnames)]
    exact ⟨event.externalEventId, occurredAt, hsame, hevent _ _ _ hname, fun _ => rfl,
      fun hnot => absurd hnames hnot⟩
  · have hfresh : fieldString 1 200 (generatedId start uuid4') =
        .ok (generatedName start uuid4') := by
      have hlength := (generatedName_fits hstart uuid4').2
      exact fieldString_eq_ok.mpr ⟨rfl, by omega, by omega⟩
    rw [Json.or_of_not_truthy fun htrue => hnames (hnamed.mp htrue)]
    exact ⟨generatedName start uuid4', occurredAt, hsame, hevent _ _ _ hfresh,
      fun hyes => absurd hyes hnames, fun _ => ⟨start, hstart, rfl⟩⟩

end EventNormalizer

end RevenueRescue
