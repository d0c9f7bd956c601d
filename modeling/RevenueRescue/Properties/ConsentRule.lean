import RevenueRescue.Policy.Consents
import RevenueRescue.Properties.History
import RevenueRescue.Refinement.Rules

/-!
# The consent rule and the latest consent

The consent rule judges one record, the one that was granted last among those of the customer,
of the type that the action needs and for the merchant. So an action passes only on a valid
record that no other one follows, and a valid record does not help after it was superseded.
-/

namespace RevenueRescue

open Python RuleCheckResult

namespace ConsentValidator

/-- The record is not bound to another merchant, when a merchant is given. -/
def MayServe (merchantId : Json) (record : CustomerConsentRecord) : Prop :=
  merchantId = .null ∨ record.merchantId = none ∨
    ∃ merchant, merchantId = .str merchant ∧ record.merchantId = some merchant

/-- A record of the customer, of the required type and not bound to another merchant. -/
structure Usable (customerId : String) (requiredType : ConsentType) (merchantId : Json)
    (record : CustomerConsentRecord) : Prop where
  customer : record.customerId = customerId
  type : record.consentType = requiredType
  merchant : MayServe merchantId record

theorem recordForMerchant_iff (merchantId : Json) (record : CustomerConsentRecord) :
    recordForMerchant merchantId record = true ↔ MayServe merchantId record := by
  unfold recordForMerchant MayServe
  rcases hbound : record.merchantId with _ | bound
  · cases merchantId <;> simp
  · cases merchantId with
    | str m =>
      simp only [beq_iff_eq, reduceCtorEq, false_or, Json.str.injEq, Option.some.injEq]
      constructor
      · intro h
        exact ⟨m, rfl, h⟩
      · rintro ⟨merchant, rfl, h⟩
        exact h
    | _ => simp

theorem mem_usableRecords {customerId : String} {requiredType : ConsentType} {merchantId : Json}
    {consents : List CustomerConsentRecord} {record : CustomerConsentRecord} :
    record ∈ usableRecords customerId requiredType merchantId consents ↔
      record ∈ consents ∧ Usable customerId requiredType merchantId record := by
  unfold usableRecords
  rw [List.mem_filter, List.mem_filter, List.mem_filter, beq_iff_eq, beq_iff_eq,
    recordForMerchant_iff]
  constructor
  · rintro ⟨⟨⟨hin, hcustomer⟩, htype⟩, hmerchant⟩
    exact ⟨hin, hcustomer, htype, hmerchant⟩
  · rintro ⟨hin, hcustomer, htype, hmerchant⟩
    exact ⟨⟨⟨hin, hcustomer⟩, htype⟩, hmerchant⟩

/-- A record that the rule accepts has a time of granting and is valid. -/
theorem judgeRecord_passed {requiredType : ConsentType} {now : Datetime}
    {candidate : CustomerConsentRecord}
    (h : (judgeRecord requiredType now candidate).status = .PASSED) :
    (∃ granted, candidate.grantedAt = some granted) ∧ candidate.isValidAt now = true := by
  unfold judgeRecord at h
  rcases hgrant : candidate.grantedAt with _ | granted
  · rw [hgrant] at h
    cases h
  rw [hgrant] at h
  dsimp only at h
  obtain ⟨hrevoked, h⟩ := of_ite (fun h => by cases h) h
  obtain ⟨hexpired, h⟩ := of_ite (fun h => by cases h) h
  obtain ⟨hgranted, -⟩ := of_ite (fun h => by cases h) h
  refine ⟨⟨granted, rfl⟩, ?_⟩
  unfold CustomerConsentRecord.isValidAt
  dsimp only
  rw [if_neg hgranted, if_neg, if_neg hexpired]
  intro hany
  rcases hat : candidate.revokedAt with _ | revokedAt
  · rw [hat] at hany
    cases hany
  · rw [hat] at hany hrevoked
    exact hrevoked ⟨.inr rfl, of_decide_eq_true hany⟩

/-- The record that was granted last decides. -/
theorem latest_of_passed {actionType : ActionType} {customerId : String}
    {consents : List CustomerConsentRecord} {merchantId : Json}
    {communicationChannel : Option String} {now : Datetime} {result : RuleCheckResult}
    (hpassed : result.status = .PASSED)
    (h : evaluateRecords actionType customerId consents merchantId communicationChannel now =
      .ok result) {requiredType : ConsentType}
    (hrequired : determineRequiredConsent actionType communicationChannel = some requiredType) :
    ∃ latest, Table.Latest (fun c => (grantKey c).instant)
        (usableRecords customerId requiredType merchantId consents) latest ∧
      (judgeRecord requiredType now latest).status = .PASSED := by
  unfold evaluateRecords at h
  rw [hrequired] at h
  dsimp only at h
  obtain ⟨-, h⟩ := of_ite_ok hpassed (fun h => by cases h) h
  obtain ⟨-, h⟩ := of_ite_ok hpassed (fun h => by cases h) h
  obtain ⟨-, h⟩ := of_ite_ok hpassed (fun h => by cases h) h
  split at h
  · cases h
  split at h
  · cases h
    cases hpassed
  next latest rest hsorted =>
    cases h
    refine ⟨latest, Table.head?_insertionSort.mp ?_, hpassed⟩
    unfold recordsByGrant at hsorted
    rw [hsorted, List.head?_cons]

/-- An action passes on a valid record after which no other was granted, so a valid record does
not pass once a record that is not valid was granted later than every valid one. -/
theorem consent_rule_is_sound {actionType : ActionType} {customerId : String}
    {consents : List CustomerConsentRecord} {merchantId : Json}
    {communicationChannel : Option String} {now : Datetime} {result : RuleCheckResult}
    (h : evaluateRecords actionType customerId consents merchantId communicationChannel now =
      .ok result) (hpassed : result.status = .PASSED) {requiredType : ConsentType}
    (hrequired : determineRequiredConsent actionType communicationChannel = some requiredType) :
    (∃ record ∈ consents, Usable customerId requiredType merchantId record ∧
        record.isValidAt now = true ∧
        ∃ granted, record.grantedAt = some granted ∧
          ∀ other ∈ consents, Usable customerId requiredType merchantId other →
            ∀ t, other.grantedAt = some t → t.instant ≤ granted.instant) ∧
      ∀ newest ∈ consents, Usable customerId requiredType merchantId newest →
        ∀ granted, newest.grantedAt = some granted →
          ∃ valid ∈ consents, Usable customerId requiredType merchantId valid ∧
            valid.isValidAt now = true ∧
            ∃ t, valid.grantedAt = some t ∧ granted.instant ≤ t.instant := by
  obtain ⟨latest, hlatest, hjudged⟩ := latest_of_passed hpassed h hrequired
  obtain ⟨⟨granted, hgranted⟩, hvalid⟩ := judgeRecord_passed hjudged
  obtain ⟨hin, husable⟩ := mem_usableRecords.mp hlatest.mem
  have hlast : ∀ other ∈ consents, Usable customerId requiredType merchantId other →
      ∀ t, other.grantedAt = some t → t.instant ≤ granted.instant := by
    intro other hother huse t ht
    have hle := hlatest.le other (mem_usableRecords.mpr ⟨hother, huse⟩)
    unfold grantKey at hle
    rw [ht, hgranted, Option.getD_some, Option.getD_some] at hle
    exact hle
  refine ⟨⟨latest, hin, husable, hvalid, granted, hgranted, hlast⟩, ?_⟩
  intro newest hnewest huse t ht
  exact ⟨latest, hin, husable, hvalid, granted, hgranted, hlast newest hnewest huse t ht⟩

end ConsentValidator

namespace Sample

/-- A consent to recurring billing, granted at noon. -/
def grantedRecord : CustomerConsentRecord :=
  { id := some "consent_1", customerId := "cust_1", consentType := .RECURRING_BILLING
    status := .GRANTED, merchantId := none, grantedAt := some noon, revokedAt := none
    expiresAt := none, source := "checkout_agreement" }

/-- A consent that the customer had given and taken back before. -/
def revokedRecord : CustomerConsentRecord :=
  { grantedRecord with
    id := some "consent_0", status := .REVOKED, grantedAt := some (noon.plusHours (-2))
    revokedAt := some (noon.plusHours (-1)) }

end Sample

open ConsentValidator in
theorem consent_rule_is_sound_granted :
    ∃ record ∈ [Sample.revokedRecord, Sample.grantedRecord],
      Usable "cust_1" .RECURRING_BILLING .null record ∧
        record.isValidAt (Sample.noon.plusHours 1) = true := by
  have hpassed : (evaluateRecords .RETRY_PAYMENT "cust_1"
      [Sample.revokedRecord, Sample.grantedRecord] .null none (Sample.noon.plusHours 1)).map
        RuleCheckResult.status = .ok .PASSED := by
    decide +kernel
  rcases h : evaluateRecords .RETRY_PAYMENT "cust_1"
    [Sample.revokedRecord, Sample.grantedRecord] .null none (Sample.noon.plusHours 1)
    with fault | result
  · rw [h] at hpassed
    cases hpassed
  rw [h, Except.map, Except.ok.injEq] at hpassed
  have hrequired : determineRequiredConsent .RETRY_PAYMENT none = some .RECURRING_BILLING := rfl
  obtain ⟨⟨record, hin, husable, hvalid, -⟩, -⟩ := consent_rule_is_sound h hpassed hrequired
  exact ⟨record, hin, husable, hvalid⟩

end RevenueRescue
