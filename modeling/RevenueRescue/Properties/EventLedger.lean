import RevenueRescue.Cases.Verification

/-!
# One acceptance for each event id

What the ledger answers depends on the first delivery of the id alone: its digest decides between
a duplicate and a conflict. So a first delivery whose payload ends the call with an exception is
remembered all the same, and its repetition is answered as a duplicate.

The ledger keeps its promise in the sequences whose first deliveries are JSON objects, or no JSON
at all, and in which no two payloads of one id have the same digest.
-/

namespace RevenueRescue

open Python

namespace WebhookEventLedger

variable (sha256 : List UInt8 → String) (loads : List UInt8 → Except LoadsFault Json)

/-- A call that raises leaves the ledger as it was. -/
def Unharmed (ledger : WebhookEventLedger) (delivery : WebhookDelivery) : Prop :=
  ∀ fault, (accept sha256 loads ledger delivery).1 = .error fault →
    (accept sha256 loads ledger delivery).2 = ledger

/-- The calls with one event id: the first is accepted, a later one is a duplicate when it has the
same payload and a conflict when it has another. -/
def AcceptsFirst (calls : List (WebhookDelivery × WebhookReceipt)) : Prop :=
  ∀ first later, calls = first :: later →
    (first.2.accepted = true ∧ first.2.duplicate = false) ∧
    ∀ call ∈ later, call.2.accepted = false ∧ call.2.duplicate = true ∧
      call.2.reason =
        if call.1.payload = first.1.payload then "duplicate_event_suppressed"
        else "event_id_reused_with_different_payload"

/-- Every call of a sequence on a new ledger returns or leaves it unchanged, and of the calls with
an event id that return, exactly the first is accepted. -/
def KeepsPromise (deliveries : List WebhookDelivery) : Prop :=
  (∀ before delivery rest, deliveries = before ++ delivery :: rest →
    Unharmed sha256 loads (after sha256 loads empty before) delivery) ∧
  ∀ eventId, AcceptsFirst
    ((returned sha256 loads empty deliveries).filter fun call => call.1.eventId == eventId)

/-- The payload is a JSON object, or no JSON text. -/
def Readable (payload : List UInt8) : Prop :=
  (∃ fields, loads payload = .ok (.obj fields)) ∨ loads payload = .error .valueError

/-- The deliveries of an event id. -/
def deliveriesOf (eventId : String) (deliveries : List WebhookDelivery) : List WebhookDelivery :=
  deliveries.filter fun delivery => delivery.eventId == eventId

variable {sha256} {loads} {ledger : WebhookEventLedger} {delivery : WebhookDelivery}
  {eventId : String}

/-! ## One call -/

theorem eventTypeOf_eq_ok_iff {payload : List UInt8} :
    (∃ eventType, eventTypeOf loads payload = .ok eventType) ↔ Readable loads payload := by
  unfold eventTypeOf Readable
  rcases loads payload with (_ | _) | value
  · simp
  · simp
  · cases value <;> simp

theorem accept_seen {previous : String} (h : ledger.seen.lookup delivery.eventId = some previous) :
    accept sha256 loads ledger delivery = (.ok (seenReceipt sha256 previous delivery), ledger) := by
  unfold accept
  rw [h]

theorem accept_new {eventType : String} (h : ledger.seen.lookup delivery.eventId = none)
    (htype : eventTypeOf loads delivery.payload = .ok eventType) :
    accept sha256 loads ledger delivery = (.ok (newReceipt sha256 eventType delivery),
      ⟨(delivery.eventId, sha256 delivery.payload) :: ledger.seen⟩) := by
  unfold accept
  rw [h]
  dsimp only
  rw [htype]

theorem accept_raises {fault : AcceptFault} (h : ledger.seen.lookup delivery.eventId = none)
    (htype : eventTypeOf loads delivery.payload = .error fault) :
    accept sha256 loads ledger delivery = (.error fault,
      ⟨(delivery.eventId, sha256 delivery.payload) :: ledger.seen⟩) := by
  unfold accept
  rw [h]
  dsimp only
  rw [htype]

/-- Whatever becomes of the payload, the id of a new delivery is seen. -/
theorem step_new (h : ledger.seen.lookup delivery.eventId = none) :
    step sha256 loads ledger delivery =
      ⟨(delivery.eventId, sha256 delivery.payload) :: ledger.seen⟩ := by
  unfold step
  rcases htype : eventTypeOf loads delivery.payload with fault | eventType
  · rw [accept_raises h htype]
  · rw [accept_new h htype]

theorem step_seen {previous : String} (h : ledger.seen.lookup delivery.eventId = some previous) :
    step sha256 loads ledger delivery = ledger := by
  unfold step
  rw [accept_seen h]

/-- The digest of an id is that of its first delivery. -/
theorem lookup_step : (step sha256 loads ledger delivery).seen.lookup eventId =
    (ledger.seen.lookup eventId <|>
      if delivery.eventId = eventId then some (sha256 delivery.payload) else none) := by
  rcases h : ledger.seen.lookup delivery.eventId with _ | previous
  · rw [step_new h, List.lookup_cons]
    by_cases hid : delivery.eventId = eventId
    · rw [if_pos hid, ← hid, h, beq_self_eq_true]
      rfl
    · rw [if_neg hid, beq_eq_false_iff_ne.mpr (Ne.symm hid)]
      simp
  · rw [step_seen h]
    by_cases hid : delivery.eventId = eventId
    · rw [← hid, h]
      rfl
    · rw [if_neg hid]
      simp

/-- A call leaves the ledger unharmed when the id was seen or the payload is readable, and only
then. -/
theorem unharmed_iff : Unharmed sha256 loads ledger delivery ↔
    ledger.seen.lookup delivery.eventId = none → Readable loads delivery.payload := by
  rw [← eventTypeOf_eq_ok_iff]
  constructor
  · intro hunharmed hnew
    rcases htype : eventTypeOf loads delivery.payload with fault | eventType
    · have hsame := hunharmed fault (by rw [accept_raises hnew htype])
      rw [accept_raises hnew htype] at hsame
      exact absurd (congrArg (fun l => l.seen.length) hsame) (Nat.succ_ne_self _)
    · exact ⟨eventType, rfl⟩
  · intro hreadable fault hfault
    rcases h : ledger.seen.lookup delivery.eventId with _ | previous
    · obtain ⟨eventType, htype⟩ := hreadable h
      rw [accept_new h htype] at hfault
      cases hfault
    · rw [accept_seen h]

/-! ## A sequence of calls -/

/-- After a sequence an id is seen with the digest of its first delivery. -/
theorem lookup_after (deliveries : List WebhookDelivery) :
    (after sha256 loads ledger deliveries).seen.lookup eventId =
      (ledger.seen.lookup eventId <|>
        (deliveriesOf eventId deliveries).head?.map fun first => sha256 first.payload) := by
  induction deliveries generalizing ledger with
  | nil => simp [after, deliveriesOf]
  | cons delivery rest ih =>
    have hafter : after sha256 loads ledger (delivery :: rest) =
      after sha256 loads (step sha256 loads ledger delivery) rest := rfl
    rw [hafter, ih, lookup_step]
    unfold deliveriesOf
    by_cases hid : delivery.eventId = eventId
    · rw [if_pos hid, List.filter_cons_of_pos (by simpa using hid)]
      rcases ledger.seen.lookup eventId <;> rfl
    · rw [if_neg hid, List.filter_cons_of_neg (by simpa using hid)]
      rcases ledger.seen.lookup eventId <;> rfl

/-- A delivery of another id adds no call of this one. -/
theorem returned_cons_other {delivery : WebhookDelivery} (deliveries : List WebhookDelivery)
    (hid : ¬delivery.eventId = eventId) :
    (returned sha256 loads ledger (delivery :: deliveries)).filter
        (fun call => call.1.eventId == eventId) =
      (returned sha256 loads (step sha256 loads ledger delivery) deliveries).filter
        fun call => call.1.eventId == eventId := by
  unfold step
  rw [returned]
  rcases accept sha256 loads ledger delivery with ⟨_ | receipt, next⟩
  · rfl
  · dsimp only
    rw [List.filter_cons_of_neg (by simpa using hid)]

/-- Every delivery of an id that was seen returns, and is answered from its digest. -/
theorem returned_seen {previous : String} (deliveries : List WebhookDelivery)
    (h : ledger.seen.lookup eventId = some previous) :
    (returned sha256 loads ledger deliveries).filter (fun call => call.1.eventId == eventId) =
      (deliveriesOf eventId deliveries).map fun delivery =>
        (delivery, seenReceipt sha256 previous delivery) := by
  induction deliveries generalizing ledger with
  | nil => rfl
  | cons delivery rest ih =>
    have hnext : (step sha256 loads ledger delivery).seen.lookup eventId = some previous := by
      rw [lookup_step, h]
      rfl
    have hrest := ih hnext
    unfold deliveriesOf at hrest ⊢
    by_cases hid : delivery.eventId = eventId
    · unfold step at hrest
      unfold returned
      rw [accept_seen (hid ▸ h)] at hrest ⊢
      dsimp only at hrest ⊢
      rw [List.filter_cons_of_pos (by simpa using hid),
        List.filter_cons_of_pos (by simpa using hid), hrest, List.map_cons]
    · rw [returned_cons_other rest hid, List.filter_cons_of_neg (by simpa using hid)]
      exact hrest

/-- Of the deliveries of a new id, the first returns when its payload is readable, and the later
ones are answered from its digest in any case. -/
theorem returned_new (deliveries : List WebhookDelivery) (h : ledger.seen.lookup eventId = none) :
    (returned sha256 loads ledger deliveries).filter (fun call => call.1.eventId == eventId) =
      match deliveriesOf eventId deliveries with
      | [] => []
      | first :: later =>
        (match eventTypeOf loads first.payload with
          | .ok eventType => [(first, newReceipt sha256 eventType first)]
          | .error _ => []) ++
          later.map fun delivery =>
            (delivery, seenReceipt sha256 (sha256 first.payload) delivery) := by
  induction deliveries generalizing ledger with
  | nil => rfl
  | cons delivery rest ih =>
    by_cases hid : delivery.eventId = eventId
    · have hnew : ledger.seen.lookup delivery.eventId = none := hid ▸ h
      have hnext : (⟨(delivery.eventId, sha256 delivery.payload) :: ledger.seen⟩ :
          WebhookEventLedger).seen.lookup eventId = some (sha256 delivery.payload) := by
        rw [hid]
        exact List.lookup_cons_self
      have hlater : (returned sha256 loads _ rest).filter _ = _ := returned_seen rest hnext
      unfold deliveriesOf at hlater ⊢
      rw [List.filter_cons_of_pos (by simpa using hid)]
      unfold returned
      dsimp only
      rcases htype : eventTypeOf loads delivery.payload with fault | eventType
      · rw [accept_raises hnew htype]
        exact hlater
      · rw [accept_new hnew htype]
        dsimp only
        rw [List.filter_cons_of_pos (by simpa using hid), hlater]
        rfl
    · have hnext : (step sha256 loads ledger delivery).seen.lookup eventId = none := by
        rw [lookup_step, h, if_neg hid]
        rfl
      have hrest := ih hnext
      unfold deliveriesOf at hrest ⊢
      rw [returned_cons_other rest hid, List.filter_cons_of_neg (by simpa using hid)]
      exact hrest

/-- After a sequence an id is new exactly when none of the deliveries had it. -/
theorem lookup_after_empty_eq_none {deliveries : List WebhookDelivery} :
    (after sha256 loads empty deliveries).seen.lookup eventId = none ↔
      deliveriesOf eventId deliveries = [] := by
  rw [lookup_after]
  rcases deliveriesOf eventId deliveries with _ | ⟨first, later⟩
  · exact iff_of_true rfl rfl
  · exact iff_of_false (fun h => by cases h) (fun h => by cases h)

/-- The calls of an id whose first payload is readable are accepted as promised exactly when no
later payload has the digest of the first without being it. -/
theorem acceptsFirst_iff {eventType : String} {first : WebhookDelivery}
    {later : List WebhookDelivery} :
    AcceptsFirst ((first, newReceipt sha256 eventType first) ::
        later.map fun delivery => (delivery, seenReceipt sha256 (sha256 first.payload) delivery)) ↔
      ∀ delivery ∈ later, sha256 first.payload = sha256 delivery.payload →
        delivery.payload = first.payload := by
  constructor
  · intro haccepts delivery hmem hdigest
    obtain ⟨-, hlater⟩ := haccepts _ _ rfl
    obtain ⟨-, -, hreason⟩ := hlater _ (List.mem_map_of_mem hmem)
    unfold seenReceipt at hreason
    dsimp only at hreason
    rw [if_neg (not_not.mpr hdigest)] at hreason
    by_contra hother
    rw [if_neg hother] at hreason
    exact absurd hreason (by decide)
  · rintro hdistinct _ _ ⟨⟩
    refine ⟨⟨rfl, rfl⟩, fun call hcall => ?_⟩
    obtain ⟨delivery, hmem, rfl⟩ := List.mem_map.mp hcall
    refine ⟨rfl, rfl, ?_⟩
    unfold seenReceipt
    dsimp only
    by_cases hsame : delivery.payload = first.payload
    · rw [if_pos hsame, hsame, if_neg (not_not.mpr rfl)]
    · rw [if_neg hsame, if_pos fun hdigest => hsame (hdistinct delivery hmem hdigest)]

variable (sha256) (loads)

/-- A sequence of calls on a new ledger keeps the promise exactly when the first delivery of every
id is a JSON object or no JSON, and no later payload of the id has its digest without being the
same. -/
theorem keepsPromise_iff (deliveries : List WebhookDelivery) :
    KeepsPromise sha256 loads deliveries ↔
      ∀ eventId first later, deliveriesOf eventId deliveries = first :: later →
        Readable loads first.payload ∧ ∀ delivery ∈ later,
          sha256 first.payload = sha256 delivery.payload → delivery.payload = first.payload := by
  constructor
  · rintro ⟨hunharmed, haccepts⟩ eventId first later hfirst
    obtain ⟨before, rest, hsplit, hbefore, hid, -⟩ := List.filter_eq_cons_iff.mp hfirst
    have hnew : (after sha256 loads empty before).seen.lookup first.eventId = none := by
      rw [beq_iff_eq.mp hid]
      exact lookup_after_empty_eq_none.mpr (List.filter_eq_nil_iff.mpr hbefore)
    have hreadable := unharmed_iff.mp (hunharmed before first rest hsplit) hnew
    obtain ⟨eventType, htype⟩ := eventTypeOf_eq_ok_iff.mpr hreadable
    have hcalls := haccepts eventId
    rw [returned_new deliveries rfl, hfirst] at hcalls
    dsimp only at hcalls
    rw [htype] at hcalls
    exact ⟨hreadable, acceptsFirst_iff.mp hcalls⟩
  · intro hcondition
    refine ⟨fun before delivery rest hsplit => unharmed_iff.mpr fun hnew => ?_, fun eventId => ?_⟩
    · have hfirst : deliveriesOf delivery.eventId deliveries =
          delivery :: deliveriesOf delivery.eventId rest := by
        have hbefore := lookup_after_empty_eq_none.mp hnew
        unfold deliveriesOf at hbefore ⊢
        rw [hsplit, List.filter_append, hbefore, List.nil_append,
          List.filter_cons_of_pos (by simp)]
      exact (hcondition _ _ _ hfirst).1
    · rw [returned_new deliveries rfl]
      rcases hdeliveries : deliveriesOf eventId deliveries with _ | ⟨first, later⟩
      · intro first later hcalls
        cases hcalls
      · obtain ⟨hreadable, hdistinct⟩ := hcondition _ _ _ hdeliveries
        obtain ⟨eventType, htype⟩ := eventTypeOf_eq_ok_iff.mpr hreadable
        dsimp only
        rw [htype]
        exact acceptsFirst_iff.mpr hdistinct

end WebhookEventLedger

namespace Sample

/-- A payload that is a JSON list. -/
def listPayload : List UInt8 := encode "[1]"

/-- `json.loads` on that payload; anything else is no JSON here. -/
def loadsList (payload : List UInt8) : Except LoadsFault Json :=
  if payload = listPayload then .ok (.arr [.int 1]) else .error .valueError

/-- A digest of the payload. -/
def digest (payload : List UInt8) : String :=
  if payload = listPayload then "080a9ed428559ef602668b4c00f114f1a11c3f6b02a435f0bdc154578e4d7f22"
  else "e3b0c44298fc1c149afbf4c8996fb92427ae41e4649b934ca495991b7852b855"

end Sample

open WebhookEventLedger in
/-- The first delivery of a list raises and is remembered, so that its repetition is answered as a
duplicate and the event is never accepted. -/
theorem list_payload_is_never_accepted :
    (accept Sample.digest Sample.loadsList empty ⟨"evt_1", Sample.listPayload⟩).1 =
        .error .attributeError ∧
      returned Sample.digest Sample.loadsList empty
          [⟨"evt_1", Sample.listPayload⟩, ⟨"evt_1", Sample.listPayload⟩] =
        [(⟨"evt_1", Sample.listPayload⟩,
          ⟨"evt_1", "unknown", Sample.digest Sample.listPayload, false, true,
            "duplicate_event_suppressed"⟩)] ∧
      ¬KeepsPromise Sample.digest Sample.loadsList
        [⟨"evt_1", Sample.listPayload⟩, ⟨"evt_1", Sample.listPayload⟩] := by
  refine ⟨by decide +kernel, by decide +kernel, fun hpromise => ?_⟩
  obtain ⟨hunharmed, -⟩ := hpromise
  have hsame := hunharmed [] ⟨"evt_1", Sample.listPayload⟩ _ rfl .attributeError
    (by decide +kernel)
  exact absurd hsame (by decide +kernel)

end RevenueRescue
