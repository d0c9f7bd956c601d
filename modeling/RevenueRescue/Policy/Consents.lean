import RevenueRescue.Policy.Evaluators

/-!
# Consent records

The consent rule takes `CustomerConsentRecord`s, which the policy engine makes of the stored
rows and a caller may also make by hand: an id may be any text, and the time of granting may be
missing. A missing time is sorted as `datetime.min` and then refused.
-/

namespace RevenueRescue

open Python

/-- `CustomerConsentRecord`; its ids are read as texts only. -/
structure CustomerConsentRecord where
  id : Option String
  customerId : String
  consentType : ConsentType
  status : ConsentStatus
  merchantId : Option String
  grantedAt : Option Datetime
  revokedAt : Option Datetime
  expiresAt : Option Datetime
  source : String
  deriving DecidableEq, Repr

/-- `CustomerConsentRecord.from_domain`. -/
def CustomerConsentRecord.fromDomain (entity : CustomerConsent) : CustomerConsentRecord :=
  { id := some (UUID.str entity.id)
    customerId := UUID.str entity.customerId
    consentType := entity.consentType
    status := entity.status
    merchantId := entity.merchantId
    grantedAt := some entity.grantedAt
    revokedAt := entity.revokedAt
    expiresAt := entity.expiresAt
    source := entity.source }

/-- `CustomerConsentRecord.is_valid` on a record; a naive timestamp is read as UTC. -/
def CustomerConsentRecord.isValidAt (record : CustomerConsentRecord) (atTime : Datetime) : Bool :=
  let past := fun t : Datetime => decide (t.assumeUtc.instant ≤ atTime.assumeUtc.instant)
  if record.status ≠ .GRANTED then false
  else if record.revokedAt.any past then false
  else if record.expiresAt.any past then false
  else true

namespace ConsentValidator

/-- The key that the records are sorted by. -/
def grantKey (record : CustomerConsentRecord) : Datetime := record.grantedAt.getD Datetime.minUtc

/-- The verdict on the record that was granted last, the first of the sorted ones. -/
def judgeRecord (requiredType : ConsentType) (now : Datetime) (candidate : CustomerConsentRecord) :
    RuleCheckResult :=
  match candidate.grantedAt with
  | none =>
    answer .FAILED "CONSENT_INVALID" "Consent record is invalid: missing granted_at timestamp." []
  | some grantedAt =>
    let nowUtc := now.assumeUtc.instant
    let revTime := candidate.revokedAt.getD grantedAt
    let revocation := revTime.assumeUtc.instant
    let revoked := (candidate.status = .REVOKED ∨ candidate.revokedAt.isSome) ∧ revocation ≤ nowUtc
    let expired := candidate.expiresAt.any fun t => t.assumeUtc.instant ≤ nowUtc
    if revoked then
      let moment := (ensureUtc revTime).isoformat
      answer .FAILED "CONSENT_REVOKED"
        ("Customer consent for " ++ requiredType.value ++ " was revoked on " ++ moment ++ ".")
        [("revoked_at", .str moment)]
    else if expired then
      let moment := (candidate.expiresAt.map fun t => (ensureUtc t).isoformat).getD ""
      answer .FAILED "CONSENT_EXPIRED"
        ("Customer consent for " ++ requiredType.value ++ " expired on " ++ moment ++ ".")
        [("expires_at", .str moment)]
    else if candidate.status ≠ .GRANTED then
      answer .FAILED ("CONSENT_STATUS_" ++ upper (consentStatusValue candidate.status))
        ("Consent record has non-active status: " ++ consentStatusValue candidate.status ++ ".") []
    else
      answer .PASSED "CONSENT_VALID"
        ("Legally active consent confirmed for " ++ requiredType.value ++ ".")
        [("consent_id", if truthy candidate.id then .ofOption candidate.id else .null),
          ("consent_type", .str requiredType.value), ("source", .str candidate.source)]

/-- Whether a record is bound to no merchant, or to the one that is asked for. -/
def recordForMerchant (merchantId : Json) (record : CustomerConsentRecord) : Bool :=
  match merchantId, record.merchantId with
  | .null, _ => true
  | _, none => true
  | .str m, some bound => bound == m
  | _, some _ => false

/-- The records of a customer that the rule may use: of one type, and for the merchant. -/
def usableRecords (customerId : String) (requiredType : ConsentType) (merchantId : Json)
    (consents : List CustomerConsentRecord) : List CustomerConsentRecord :=
  ((consents.filter fun c => c.customerId == customerId).filter
    fun c => c.consentType == requiredType).filter (recordForMerchant merchantId)

/-- The most recently granted record first; equal instants keep their order. -/
def recordsByGrant (candidates : List CustomerConsentRecord) : List CustomerConsentRecord :=
  candidates.insertionSort fun a b => (grantKey b).instant ≤ (grantKey a).instant

/-- `ConsentValidator.evaluate` on any records. -/
def evaluateRecords (actionType : ActionType) (customerId : String)
    (consents : List CustomerConsentRecord) (merchantId : Json)
    (communicationChannel : Option String) (evaluationTime : Datetime) :
    Except Fault RuleCheckResult :=
  match determineRequiredConsent actionType communicationChannel with
  | none =>
    .ok (answer .PASSED "NO_CONSENT_REQUIRED"
      ("Action " ++ actionType.value ++
        " is an internal/system action requiring no external consent.")
      [("action_type", .str actionType.value)])
  | some requiredType =>
    let matching := consents.filter fun c => c.customerId == customerId
    let ofType := matching.filter fun c => c.consentType == requiredType
    let candidates := usableRecords customerId requiredType merchantId consents
    if matching.isEmpty && !consents.isEmpty then
      .ok (answer .FAILED "CONSENT_CUSTOMER_MISMATCH"
        "Consent records do not match the target customer identifier."
        [("target_customer_id", .str customerId)])
    else if ofType.isEmpty then
      .ok (answer .FAILED "CONSENT_MISSING"
        ("No consent record found for required consent type: " ++ requiredType.value ++ ".")
        [("required_consent_type", .str requiredType.value)])
    else if candidates.isEmpty then
      .ok (answer .FAILED "CONSENT_MERCHANT_MISMATCH"
        "Consent record is bound to a different merchant."
        [("target_merchant_id", merchantId)])
    else if mixedOffsets (candidates.map grantKey) then .error .typeError
    else
      match recordsByGrant candidates with
      | [] =>
        .ok (answer .FAILED "CONSENT_MISSING"
          ("No valid consent available for " ++ requiredType.value ++ ".") [])
      | latest :: _ => .ok (judgeRecord requiredType evaluationTime latest)

/-! ## Records of stored rows -/

theorem grantKey_fromDomain (consent : CustomerConsent) :
    grantKey (.fromDomain consent) = consent.grantedAt := by
  unfold grantKey CustomerConsentRecord.fromDomain
  rw [Option.getD_some]

theorem truthy_uuidStr (id : UUID) : truthy (some (UUID.str id)) = true := by
  unfold truthy
  rw [Option.any_some, decide_eq_true_eq]
  intro hempty
  have hchars := congrArg String.toList hempty
  unfold UUID.str at hchars
  rw [String.toList_ofList] at hchars
  have hlong := congrArg List.length hchars
  simp at hlong

theorem judgeRecord_fromDomain (requiredType : ConsentType) (now : Datetime)
    (consent : CustomerConsent) :
    judgeRecord requiredType now (.fromDomain consent) = judge requiredType now consent := by
  unfold judgeRecord judge CustomerConsentRecord.fromDomain
  dsimp only
  rw [if_pos (truthy_uuidStr consent.id)]
  rfl

theorem recordForMerchant_fromDomain (merchantId : Json) (consent : CustomerConsent) :
    recordForMerchant merchantId (.fromDomain consent) = forMerchant merchantId consent :=
  rfl

/-- On the records of stored rows the rule is the one on the rows, if different customers have
different names. -/
theorem evaluate_eq_evaluateRecords {customerId : UUID} {consents : List CustomerConsent}
    (hnames : ∀ c ∈ consents, UUID.str c.customerId = UUID.str customerId →
      c.customerId = customerId)
    (actionType : ActionType) (merchantId : Json) (communicationChannel : Option String)
    (evaluationTime : Datetime) :
    evaluateRecords actionType (UUID.str customerId) (consents.map .fromDomain) merchantId
        communicationChannel evaluationTime =
      evaluate actionType customerId consents merchantId communicationChannel evaluationTime := by
  have hmatching : (consents.map CustomerConsentRecord.fromDomain).filter
        (fun c => c.customerId == UUID.str customerId) =
      (consents.filter fun c => c.customerId == customerId).map .fromDomain := by
    rw [List.filter_map]
    refine congrArg _ (List.filter_congr fun c hc => ?_)
    rw [Function.comp_apply, Bool.eq_iff_iff, beq_iff_eq, beq_iff_eq]
    exact ⟨hnames c hc, congrArg UUID.str⟩
  have hofType : ∀ (rows : List CustomerConsent) (requiredType : ConsentType),
      (rows.map CustomerConsentRecord.fromDomain).filter (fun c => c.consentType == requiredType) =
        (rows.filter fun c => c.consentType == requiredType).map .fromDomain := by
    intro rows requiredType
    rw [List.filter_map]
    rfl
  have hmerchant : ∀ rows : List CustomerConsent,
      (rows.map CustomerConsentRecord.fromDomain).filter (recordForMerchant merchantId) =
        (rows.filter (forMerchant merchantId)).map .fromDomain := by
    intro rows
    rw [List.filter_map]
    rfl
  have hsorted : ∀ rows : List CustomerConsent,
      recordsByGrant (rows.map CustomerConsentRecord.fromDomain) =
        (sortedByGrant rows).map .fromDomain := by
    intro rows
    unfold recordsByGrant sortedByGrant
    refine (List.map_insertionSort _ _ _ _ fun a _ b _ => ?_).symm
    rw [grantKey_fromDomain, grantKey_fromDomain]
  have hkeys : ∀ rows : List CustomerConsent,
      (rows.map CustomerConsentRecord.fromDomain).map grantKey =
        rows.map CustomerConsent.grantedAt := by
    intro rows
    rw [List.map_map]
    exact List.map_congr_left fun c _ => grantKey_fromDomain c
  unfold evaluateRecords evaluate
  rcases determineRequiredConsent actionType communicationChannel with _ | requiredType
  · rfl
  dsimp only [usableRecords]
  simp only [hmatching, hofType, hmerchant, hsorted, hkeys, List.isEmpty_map]
  split_ifs
  · rfl
  · rfl
  · rfl
  · rfl
  · rcases sortedByGrant _ with _ | ⟨latest, rest⟩
    · rfl
    · rw [List.map_cons]
      exact congrArg Except.ok (judgeRecord_fromDomain requiredType evaluationTime latest)

end ConsentValidator

end RevenueRescue
