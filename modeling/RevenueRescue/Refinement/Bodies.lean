import RevenueRescue.Refinement.Rereading

/-!
# What a body says

The body of a webhook says something about an event in one of three formats. Each format has a
place for every field; the values found there are converted, and the canonical schema bounds what
comes out. The normalisation returns an event exactly when the body says it in this sense.

Whatever else a body says, the normalisation raises an error that is none of the application's
own exceptions.
-/

namespace RevenueRescue

open Python

namespace EventNormalizer

/-- What a body has in the places of one format. Names and texts are read as they are; the other
values have to be converted. -/
structure BodyValues where
  named : Json
  start : String
  type : Json
  time : Json
  customer : String
  payment : Option String
  amount : Json
  currency : String
  code : Json
  message : Json
  metadata : Json

/-- The places of the Stripe format. -/
def stripeValues (raw : RawWebhook) (object lastError : Dict) : BodyValues where
  named := (Dict.get raw.payload "id").or (.ofOption raw.eventIdHeader)
  start := "evt_str_"
  type := Dict.getD raw.payload "type" (.str "payment_intent.payment_failed")
  time := Dict.get raw.payload "created"
  customer := strJson (((Dict.get object "customer").or (Dict.get object "customer_id")).or
    (.str "cust_unknown"))
  payment := some (strJson ((Dict.get object "id").or (.str "txn_unknown")))
  amount := Dict.getD object "amount" (.int 0)
  currency := upper (strJson (Dict.getD object "currency" (.str "USD")))
  code := (Dict.get lastError "code").or (Dict.get object "failure_code")
  message := (Dict.get lastError "message").or (Dict.get object "failure_message")
  metadata := .obj [("gateway_status", Dict.get object "status"),
    ("livemode", Dict.get raw.payload "livemode")]

/-- The places of the Razorpay format. -/
def razorpayValues (raw : RawWebhook) (payEntity : Dict) : BodyValues where
  named := (Json.ofOption raw.eventIdHeader).or (Dict.get raw.payload "id")
  start := "evt_rzp_"
  type := Dict.getD raw.payload "event" (.str "payment.failed")
  time := Dict.get raw.payload "created_at"
  customer := strJson (((Dict.get payEntity "contact").or (Dict.get payEntity "email")).or
    (.str "cust_unknown"))
  payment := some (strJson ((Dict.get payEntity "id").or (.str "pay_unknown")))
  amount := Dict.getD payEntity "amount" (.int 0)
  currency := upper (strJson (Dict.getD payEntity "currency" (.str "INR")))
  code := Dict.get payEntity "error_code"
  message := Dict.get payEntity "error_description"
  metadata := .obj [("method", Dict.get payEntity "method")]

/-- The places of the generic format. -/
def genericValues (raw : RawWebhook) : BodyValues :=
  let payload := raw.payload
  { named := ((Json.ofOption raw.eventIdHeader).or (Dict.get payload "id")).or
      (Dict.get payload "event_id")
    start := "evt_gen_"
    type := ((Dict.get payload "event_type").or (Dict.get payload "type")).or
      (.str "PAYMENT_FAILED")
    time := (Dict.get payload "occurred_at").or (Dict.get payload "created")
    customer := strJson ((((Dict.get payload "customer_reference").or
      (Dict.get payload "customer_id")).or (Dict.get payload "customer")).or (.str "cust_unknown"))
    payment := strOrNone ((((Dict.get payload "payment_reference").or
      (Dict.get payload "transaction_id")).or (Dict.get payload "payment_id")).or (.str ""))
    amount := ((Dict.get payload "amount_minor").or (Dict.get payload "amount")).or (.int 0)
    currency := upper (strJson (Dict.getD payload "currency" (.str "USD")))
    code := Dict.get payload "failure_code"
    message := (Dict.get payload "failure_message").or (Dict.get payload "message")
    metadata := (Dict.get payload "metadata").or (.obj []) }

/-- The key is missing, or its value can be asked for the inner key and does not have it. -/
def Lacks (d : Dict) (key inner : String) : Prop :=
  ∀ value, d.lookup key = some value → value.contains inner = some false

/-- The format of a body, and what the body has in its places. -/
inductive Laid (raw : RawWebhook) : BodyValues → Prop
  | stripe {fields object lastError : Dict} (hdata : raw.payload.lookup "data" = some (.obj fields))
      (hobject : fields.lookup "object" = some (.obj object))
      (herror : (Dict.get object "last_payment_error").or (.obj []) = .obj lastError) :
    Laid raw (stripeValues raw object lastError)
  | razorpay {fields payment payEntity : Dict} (hstripe : Lacks raw.payload "data" "object")
      (hpayload : raw.payload.lookup "payload" = some (.obj fields))
      (hpayment : fields.lookup "payment" = some (.obj payment))
      (hentity : Dict.getD payment "entity" (.obj []) = .obj payEntity) :
    Laid raw (razorpayValues raw payEntity)
  | generic (hstripe : Lacks raw.payload "data" "object")
      (hrazorpay : Lacks raw.payload "payload" "payment") : Laid raw (genericValues raw)

/-! ## Conversions -/

/-- A number of seconds or milliseconds since the epoch, in the years 1 to 9999. -/
def EpochReads (x : ℚ) (t : Datetime) : Prop :=
  let seconds := if 100000000000 < x then x / 1000 else x
  t = ⟨roundHalfEven (seconds * 1000000), some 0⟩ ∧
    -62135596800 * 1000000 ≤ t.wall ∧ t.wall < 253402300800 * 1000000

/-- A time: a number in range, a text that says one, or the clock for any other value that is no
number. -/
def TimeReads (lib : Library) (now : Datetime) : Json → Datetime → Prop
  | .bool b, t => EpochReads (if b then 1 else 0) t
  | .int n, t => EpochReads n t
  | .float x, t => EpochReads x t
  | .inf _, _ => False
  | .nan, _ => False
  | .str s, t => t = ((lib.fromisoformat (replaceZ s)).map Datetime.assumeUtc).getD now
  | _, t => t = now

/-- A whole number: a finite number or a text that says one. -/
def IntReads (lib : Library) : Json → ℤ → Prop
  | .bool b, n => n = if b then 1 else 0
  | .int m, n => n = m
  | .float x, n => n = truncate x
  | .str s, n => intOfString lib s = some n
  | _, _ => False

/-- A failure code: a text, or no code at all. -/
def CodeReads (value : Json) (code : String) : Prop :=
  (value.truthy = true → ∃ text, value = .str text) ∧ normalizeFailureCode value = .ok code

/-- The type of an event: a text. -/
def TypeReads (value : Json) (type : String) : Prop :=
  (∃ text, value = .str text) ∧ normalizeEventType value = .ok type

variable {lib : Library} {now : Datetime} {uuid4 : UUID} {raw : RawWebhook}

theorem fromtimestamp_eq_some {seconds : ℚ} {t : Datetime} :
    Datetime.fromtimestamp seconds = some t ↔
      t = ⟨roundHalfEven (seconds * 1000000), some 0⟩ ∧
        -62135596800 * 1000000 ≤ t.wall ∧ t.wall < 253402300800 * 1000000 := by
  unfold Datetime.fromtimestamp
  dsimp only
  split_ifs with hrange
  · rw [Option.some.injEq]
    exact ⟨fun h => h ▸ ⟨rfl, hrange⟩, fun h => h.1.symm⟩
  · refine iff_of_false (by rintro ⟨⟩) ?_
    rintro ⟨rfl, h⟩
    exact hrange h

theorem normalizeEpoch_eq_ok {x : ℚ} {t : Datetime} :
    normalizeEpoch x = .ok t ↔ EpochReads x t := by
  unfold normalizeEpoch EpochReads
  dsimp only
  rw [← fromtimestamp_eq_some]
  rcases Datetime.fromtimestamp (if 100000000000 < x then x / 1000 else x) with _ | found <;> simp

theorem normalizeTimestamp_eq_ok {value : Json} {t : Datetime} :
    normalizeTimestamp lib now value = .ok t ↔ TimeReads lib now value t := by
  cases value with
  | bool b => exact normalizeEpoch_eq_ok
  | int n => exact normalizeEpoch_eq_ok
  | float x => exact normalizeEpoch_eq_ok
  | inf negative => exact iff_of_false (by rintro ⟨⟩) fun h => h
  | nan => exact iff_of_false (by rintro ⟨⟩) fun h => h
  | str s =>
    unfold normalizeTimestamp TimeReads
    dsimp only
    rcases lib.fromisoformat (replaceZ s) with _ | parsed <;> simp [eq_comm]
  | null => simp [normalizeTimestamp, TimeReads, eq_comm]
  | arr items => simp [normalizeTimestamp, TimeReads, eq_comm]
  | obj fields => simp [normalizeTimestamp, TimeReads, eq_comm]

theorem toInt_eq_ok {value : Json} {n : ℤ} : toInt lib value = .ok n ↔ IntReads lib value n := by
  cases value with
  | bool b => simp [toInt, IntReads, eq_comm]
  | int m => simp [toInt, IntReads, eq_comm]
  | float x => simp [toInt, IntReads, eq_comm]
  | str s =>
    unfold toInt IntReads
    dsimp only
    rcases intOfString lib s with _ | m <;> simp
  | _ => exact iff_of_false (by rintro ⟨⟩) fun h => h

theorem normalizeFailureCode_eq_ok {value : Json} {code : String} :
    normalizeFailureCode value = .ok code ↔ CodeReads value code := by
  refine ⟨fun h => ⟨fun htruthy => ?_, h⟩, fun h => h.2⟩
  unfold normalizeFailureCode at h
  rw [if_pos htruthy] at h
  cases value with
  | str text => exact ⟨text, rfl⟩
  | _ => cases h

theorem normalizeEventType_eq_ok {value : Json} {type : String} :
    normalizeEventType value = .ok type ↔ TypeReads value type := by
  refine ⟨fun h => ⟨?_, h⟩, fun h => h.2⟩
  cases value with
  | str text => exact ⟨text, rfl⟩
  | _ => cases h

theorem asDict_eq_ok {value : Json} {fields : Dict} :
    asDict value = .ok fields ↔ value = .obj fields := by
  cases value <;> simp [asDict]

/-! ## Formats -/

/-- The fields are what the values are converted to. -/
structure BodyValues.Converts (values : BodyValues) (lib : Library) (now : Datetime) (uuid4 : UUID)
    (fields : RawFields) : Prop where
  extId : fields.extId = values.named.or (generatedId values.start uuid4)
  rawType : fields.rawType = values.type
  occurredAt : TimeReads lib now values.time fields.occurredAt
  customerRef : fields.customerRef = values.customer
  paymentRef : fields.paymentRef = values.payment
  amountMinor : IntReads lib values.amount fields.amountMinor
  currency : fields.currency = values.currency
  failureCode : CodeReads values.code fields.failureCode
  failureMsg : fields.failureMsg = values.message
  metadata : fields.metadata = values.metadata

theorem stripeFields_eq_ok {object : Json} {fields : RawFields} :
    stripeFields lib now uuid4 raw object = .ok fields ↔ ∃ obj lastError, object = .obj obj ∧
      (Dict.get obj "last_payment_error").or (.obj []) = .obj lastError ∧
      (stripeValues raw obj lastError).Converts lib now uuid4 fields := by
  unfold stripeFields
  constructor
  · intro h
    obtain ⟨t, ht, h⟩ := Except.bind_eq_ok.mp h
    obtain ⟨obj, hobj, h⟩ := Except.bind_eq_ok.mp h
    obtain ⟨amount, hamount, h⟩ := Except.bind_eq_ok.mp h
    obtain ⟨lastError, hlast, h⟩ := Except.bind_eq_ok.mp h
    obtain ⟨code, hcode, h⟩ := Except.bind_eq_ok.mp h
    cases h
    exact ⟨obj, lastError, asDict_eq_ok.mp hobj, asDict_eq_ok.mp hlast, rfl, rfl,
      normalizeTimestamp_eq_ok.mp ht, rfl, rfl, toInt_eq_ok.mp hamount, rfl,
      normalizeFailureCode_eq_ok.mp hcode, rfl, rfl⟩
  · obtain ⟨extId, rawType, t, customerRef, paymentRef, amount, currency, code, message,
      metadata⟩ := fields
    rintro ⟨obj, lastError, rfl, hlast, rfl, rfl, ht, rfl, rfl, hamount, rfl, hcode, rfl, rfl⟩
    refine Except.bind_eq_ok.mpr ⟨t, normalizeTimestamp_eq_ok.mpr ht, ?_⟩
    refine Except.bind_eq_ok.mpr ⟨obj, rfl, ?_⟩
    refine Except.bind_eq_ok.mpr ⟨amount, toInt_eq_ok.mpr hamount, ?_⟩
    refine Except.bind_eq_ok.mpr ⟨lastError, asDict_eq_ok.mpr hlast, ?_⟩
    exact Except.bind_eq_ok.mpr ⟨code, normalizeFailureCode_eq_ok.mpr hcode, rfl⟩

theorem razorpayFields_eq_ok {value : Json} {fields : RawFields} :
    razorpayFields lib now uuid4 raw value = .ok fields ↔ ∃ payment payEntity,
      value = .obj payment ∧ Dict.getD payment "entity" (.obj []) = .obj payEntity ∧
      (razorpayValues raw payEntity).Converts lib now uuid4 fields := by
  unfold razorpayFields
  constructor
  · intro h
    obtain ⟨payment, hpayment, h⟩ := Except.bind_eq_ok.mp h
    obtain ⟨t, ht, h⟩ := Except.bind_eq_ok.mp h
    obtain ⟨payEntity, hentity, h⟩ := Except.bind_eq_ok.mp h
    obtain ⟨amount, hamount, h⟩ := Except.bind_eq_ok.mp h
    obtain ⟨code, hcode, h⟩ := Except.bind_eq_ok.mp h
    cases h
    exact ⟨payment, payEntity, asDict_eq_ok.mp hpayment, asDict_eq_ok.mp hentity, rfl, rfl,
      normalizeTimestamp_eq_ok.mp ht, rfl, rfl, toInt_eq_ok.mp hamount, rfl,
      normalizeFailureCode_eq_ok.mp hcode, rfl, rfl⟩
  · obtain ⟨extId, rawType, t, customerRef, paymentRef, amount, currency, code, message,
      metadata⟩ := fields
    rintro ⟨payment, payEntity, rfl, hentity, rfl, rfl, ht, rfl, rfl, hamount, rfl, hcode, rfl,
      rfl⟩
    refine Except.bind_eq_ok.mpr ⟨payment, rfl, ?_⟩
    refine Except.bind_eq_ok.mpr ⟨t, normalizeTimestamp_eq_ok.mpr ht, ?_⟩
    refine Except.bind_eq_ok.mpr ⟨payEntity, asDict_eq_ok.mpr hentity, ?_⟩
    refine Except.bind_eq_ok.mpr ⟨amount, toInt_eq_ok.mpr hamount, ?_⟩
    exact Except.bind_eq_ok.mpr ⟨code, normalizeFailureCode_eq_ok.mpr hcode, rfl⟩

theorem genericFields_eq_ok {fields : RawFields} :
    genericFields lib now uuid4 raw = .ok fields ↔
      (genericValues raw).Converts lib now uuid4 fields := by
  unfold genericFields
  constructor
  · intro h
    obtain ⟨t, ht, h⟩ := Except.bind_eq_ok.mp h
    obtain ⟨amount, hamount, h⟩ := Except.bind_eq_ok.mp h
    obtain ⟨code, hcode, h⟩ := Except.bind_eq_ok.mp h
    cases h
    exact ⟨rfl, rfl, normalizeTimestamp_eq_ok.mp ht, rfl, rfl, toInt_eq_ok.mp hamount, rfl,
      normalizeFailureCode_eq_ok.mp hcode, rfl, rfl⟩
  · obtain ⟨extId, rawType, t, customerRef, paymentRef, amount, currency, code, message,
      metadata⟩ := fields
    rintro ⟨rfl, rfl, ht, rfl, rfl, hamount, rfl, hcode, rfl, rfl⟩
    refine Except.bind_eq_ok.mpr ⟨t, normalizeTimestamp_eq_ok.mpr ht, ?_⟩
    refine Except.bind_eq_ok.mpr ⟨amount, toInt_eq_ok.mpr hamount, ?_⟩
    exact Except.bind_eq_ok.mpr ⟨code, normalizeFailureCode_eq_ok.mpr hcode, rfl⟩

theorem nested_eq_none {d : Dict} {key inner : String} :
    nested d key inner = .ok none ↔ Lacks d key inner := by
  unfold nested Lacks
  rcases hkey : d.lookup key with _ | value
  · exact iff_of_true rfl fun _ h => by cases h
  have honly : (∀ v, some value = some v → v.contains inner = some false) ↔
      value.contains inner = some false :=
    ⟨fun h => h value rfl, fun h v hv => by cases hv; exact h⟩
  rw [honly]
  dsimp only
  rcases hcontains : value.contains inner with _ | _ | _
  · exact iff_of_false (by rintro ⟨⟩) (by rintro ⟨⟩)
  · exact iff_of_true rfl rfl
  · refine iff_of_false ?_ (by rintro ⟨⟩)
    cases value <;> rintro ⟨⟩

theorem nested_eq_some {d : Dict} {key inner : String} {value : Json} :
    nested d key inner = .ok (some value) ↔
      ∃ fields, d.lookup key = some (.obj fields) ∧ fields.lookup inner = some value := by
  unfold nested
  rcases hkey : d.lookup key with _ | outer
  · exact iff_of_false (by rintro ⟨⟩) (by rintro ⟨fields, ⟨⟩, -⟩)
  dsimp only
  cases outer with
  | obj fields =>
    rcases hinner : fields.lookup inner with _ | found
    · simp [Json.contains, hinner]
    · simp [Json.contains, hinner, Dict.get]
  | str s =>
    refine iff_of_false ?_ (by rintro ⟨fields, ⟨⟩, -⟩)
    unfold Json.contains
    dsimp only
    rcases isIn inner s with _ | _ <;> rintro ⟨⟩
  | arr items =>
    refine iff_of_false ?_ (by rintro ⟨fields, ⟨⟩, -⟩)
    unfold Json.contains
    dsimp only
    split <;> rintro ⟨⟩
  | _ => exact iff_of_false (by rintro ⟨⟩) (by rintro ⟨fields, ⟨⟩, -⟩)

/-- A body in one of the formats is read as what its values are converted to. -/
theorem rawFields_eq_ok {fields : RawFields} :
    rawFields lib now uuid4 raw = .ok fields ↔
      ∃ values, Laid raw values ∧ values.Converts lib now uuid4 fields := by
  unfold rawFields
  constructor
  · intro h
    obtain ⟨stripe, hstripe, h⟩ := Except.bind_eq_ok.mp h
    rcases stripe with _ | object
    · obtain ⟨razorpay, hrazorpay, h⟩ := Except.bind_eq_ok.mp h
      rcases razorpay with _ | payment
      · exact ⟨_, .generic (nested_eq_none.mp hstripe) (nested_eq_none.mp hrazorpay),
          genericFields_eq_ok.mp h⟩
      · obtain ⟨payment, payEntity, rfl, hentity, hconverts⟩ := razorpayFields_eq_ok.mp h
        obtain ⟨fields, hpayload, hpayment⟩ := nested_eq_some.mp hrazorpay
        exact ⟨_, .razorpay (nested_eq_none.mp hstripe) hpayload hpayment hentity, hconverts⟩
    · obtain ⟨object, lastError, rfl, herror, hconverts⟩ := stripeFields_eq_ok.mp h
      obtain ⟨fields, hdata, hobject⟩ := nested_eq_some.mp hstripe
      exact ⟨_, .stripe hdata hobject herror, hconverts⟩
  · rintro ⟨values, hlaid, hconverts⟩
    cases hlaid with
    | stripe hdata hobject herror =>
      refine Except.bind_eq_ok.mpr ⟨_, nested_eq_some.mpr ⟨_, hdata, hobject⟩, ?_⟩
      exact stripeFields_eq_ok.mpr ⟨_, _, rfl, herror, hconverts⟩
    | razorpay hstripe hpayload hpayment hentity =>
      refine Except.bind_eq_ok.mpr ⟨none, nested_eq_none.mpr hstripe, ?_⟩
      refine Except.bind_eq_ok.mpr ⟨_, nested_eq_some.mpr ⟨_, hpayload, hpayment⟩, ?_⟩
      exact razorpayFields_eq_ok.mpr ⟨_, _, rfl, hentity, hconverts⟩
    | generic hstripe hrazorpay =>
      refine Except.bind_eq_ok.mpr ⟨none, nested_eq_none.mpr hstripe, ?_⟩
      refine Except.bind_eq_ok.mpr ⟨none, nested_eq_none.mpr hrazorpay, ?_⟩
      exact genericFields_eq_ok.mpr hconverts

/-! ## The canonical schema -/

/-- An optional text of bounded length. -/
def Bounded (high : ℕ) (text : Option String) : Prop := ∀ s, text = some s → s.length ≤ high

/-- The text of a key of the body, if there is any. -/
def textAt (raw : RawWebhook) (key : String) : Option String :=
  strOrNone ((Dict.get raw.payload key).or (.str ""))

/-- The fields are those of the event, and the canonical schema admits them. -/
structure RawFields.Fits (fields : RawFields) (lib : Library) (raw : RawWebhook)
    (event : CanonicalEventDTO) : Prop where
  extId : fields.extId = .str event.externalEventId
  extIdLength : 1 ≤ event.externalEventId.length ∧ event.externalEventId.length ≤ 200
  rawType : TypeReads fields.rawType event.eventType
  typeLength : 1 ≤ event.eventType.length ∧ event.eventType.length ≤ 160
  provider : event.provider = lower (strip raw.provider)
  providerLength : 1 ≤ event.provider.length ∧ event.provider.length ≤ 64
  occurredAt : event.occurredAt = fields.occurredAt
  customer : event.customerReference = fields.customerRef
  customerLength : 1 ≤ event.customerReference.length ∧ event.customerReference.length ≤ 128
  payment : event.paymentReference = fields.paymentRef
  paymentLength : Bounded 128 event.paymentReference
  subscription : event.subscriptionReference = textAt raw "subscription_id"
  subscriptionLength : Bounded 128 event.subscriptionReference
  invoice : event.invoiceReference = textAt raw "invoice_id"
  invoiceLength : Bounded 128 event.invoiceReference
  checkout : event.checkoutSessionId = textAt raw "checkout_session_id"
  checkoutLength : Bounded 128 event.checkoutSessionId
  amountMinor : fields.amountMinor = event.amountMinor
  currency : fields.currency = event.currency.code
  failureCode : event.failureCode = some fields.failureCode
  codeLength : Bounded 100 event.failureCode
  message : fields.failureMsg = .ofOption event.failureMessage
  messageLength : Bounded 500 event.failureMessage
  metadata : sanitizeMetadata lib fields.metadata = .obj event.metadata

theorem ofOption_inj {a b : Option String} (h : Json.ofOption a = .ofOption b) : a = b := by
  rcases a with _ | first <;> rcases b with _ | second
  · rfl
  · cases h
  · cases h
  · rw [Json.str.inj h]

theorem fieldOptional_eq_ok {high : ℕ} {value : Json} {text : Option String} :
    fieldOptional high value = .ok text ↔ value = .ofOption text ∧ Bounded high text := by
  cases value with
  | str s =>
    have hread : fieldOptional high (.str s) = (fieldString 0 high (.str s)).map some := rfl
    rw [hread]
    unfold fieldString
    dsimp only
    split_ifs with hfits
    · refine ⟨?_, fun h => ?_⟩
      · rintro ⟨⟩
        exact ⟨rfl, fun _ h => by cases h; exact hfits.2⟩
      · rw [← ofOption_inj (a := some s) h.1]
        rfl
    · refine iff_of_false (by rintro ⟨⟩) ?_
      rintro ⟨htext, hbounded⟩
      rw [← ofOption_inj (a := some s) htext] at hbounded
      exact hfits ⟨Nat.zero_le _, hbounded s rfl⟩
  | null =>
    refine ⟨?_, fun h => ?_⟩
    · rintro ⟨⟩
      exact ⟨rfl, fun _ h => by cases h⟩
    · rw [← ofOption_inj (a := none) h.1]
      rfl
  | _ =>
    refine iff_of_false (by rintro ⟨⟩) ?_
    rintro ⟨htext, -⟩
    cases text <;> cases htext

theorem fieldAmount_eq_ok {value : ℤ} {amountMinor : ℕ} :
    fieldAmount value = .ok amountMinor ↔ value = amountMinor := by
  unfold fieldAmount
  split_ifs with hsign
  · rw [Except.ok.injEq]
    omega
  · refine iff_of_false (by rintro ⟨⟩) ?_
    omega

theorem fieldCurrency_eq_ok {code : String} {currency : Currency} :
    fieldCurrency code = .ok currency ↔ code = currency.code := by
  obtain ⟨own, hown⟩ := currency
  unfold fieldCurrency
  split_ifs with hcode
  · simp
  · refine iff_of_false (by rintro ⟨⟩) ?_
    rintro rfl
    exact hcode hown

theorem fieldMetadata_eq_ok {value : Json} {metadata : Dict} :
    fieldMetadata value = .ok metadata ↔ value = .obj metadata := by
  cases value <;> simp [fieldMetadata]

/-- An event is built from the fields that the canonical schema admits. -/
theorem canonicalEvent_eq_ok {fields : RawFields} {event : CanonicalEventDTO} :
    canonicalEvent lib raw fields = .ok event ↔ fields.Fits lib raw event := by
  unfold canonicalEvent
  constructor
  · intro h
    obtain ⟨type, htype, h⟩ := Except.bind_eq_ok.mp h
    obtain ⟨name, hname, h⟩ := Except.bind_eq_ok.mp h
    obtain ⟨eventType, heventType, h⟩ := Except.bind_eq_ok.mp h
    obtain ⟨provider, hprovider, h⟩ := Except.bind_eq_ok.mp h
    obtain ⟨customer, hcustomer, h⟩ := Except.bind_eq_ok.mp h
    obtain ⟨payment, hpayment, h⟩ := Except.bind_eq_ok.mp h
    obtain ⟨subscription, hsubscription, h⟩ := Except.bind_eq_ok.mp h
    obtain ⟨invoice, hinvoice, h⟩ := Except.bind_eq_ok.mp h
    obtain ⟨checkout, hcheckout, h⟩ := Except.bind_eq_ok.mp h
    obtain ⟨amount, hamount, h⟩ := Except.bind_eq_ok.mp h
    obtain ⟨currency, hcurrency, h⟩ := Except.bind_eq_ok.mp h
    obtain ⟨code, hcode, h⟩ := Except.bind_eq_ok.mp h
    obtain ⟨message, hmessage, h⟩ := Except.bind_eq_ok.mp h
    obtain ⟨metadata, hmetadata, h⟩ := Except.bind_eq_ok.mp h
    cases h
    obtain ⟨hextId, hextIdLength⟩ := fieldString_eq_ok.mp hname
    obtain ⟨htypeText, htypeLength⟩ := fieldString_eq_ok.mp heventType
    obtain ⟨hproviderText, hproviderLength⟩ := fieldString_eq_ok.mp hprovider
    obtain ⟨hcustomerText, hcustomerLength⟩ := fieldString_eq_ok.mp hcustomer
    obtain ⟨hpaymentText, hpaymentLength⟩ := fieldOptional_eq_ok.mp hpayment
    obtain ⟨hsubscriptionText, hsubscriptionLength⟩ := fieldOptional_eq_ok.mp hsubscription
    obtain ⟨hinvoiceText, hinvoiceLength⟩ := fieldOptional_eq_ok.mp hinvoice
    obtain ⟨hcheckoutText, hcheckoutLength⟩ := fieldOptional_eq_ok.mp hcheckout
    obtain ⟨hcodeText, hcodeLength⟩ := fieldOptional_eq_ok.mp hcode
    obtain ⟨hmessageText, hmessageLength⟩ := fieldOptional_eq_ok.mp hmessage
    refine ⟨hextId, hextIdLength, ?_, htypeLength, ?_, hproviderLength, rfl, ?_, hcustomerLength, ?_,
      hpaymentLength, ?_, hsubscriptionLength, ?_, hinvoiceLength, ?_, hcheckoutLength,
      fieldAmount_eq_ok.mp hamount, fieldCurrency_eq_ok.mp hcurrency, ?_, hcodeLength, hmessageText,
      hmessageLength, fieldMetadata_eq_ok.mp hmetadata⟩
    · rw [← Json.str.inj htypeText]
      exact normalizeEventType_eq_ok.mp htype
    · exact (Json.str.inj hproviderText).symm
    · exact (Json.str.inj hcustomerText).symm
    · exact (ofOption_inj hpaymentText).symm
    · exact (ofOption_inj hsubscriptionText).symm
    · exact (ofOption_inj hinvoiceText).symm
    · exact (ofOption_inj hcheckoutText).symm
    · exact (ofOption_inj (a := some fields.failureCode) hcodeText).symm
  · obtain ⟨externalEventId, eventType, provider, occurredAt, customer, payment, subscription, invoice,
      checkout, amount, currency, code, message, metadata⟩ := event
    rintro ⟨hextId, hextIdLength, htype, htypeLength, rfl, hproviderLength, rfl, rfl, hcustomerLength,
      rfl, hpaymentLength, rfl, hsubscriptionLength, rfl, hinvoiceLength, rfl, hcheckoutLength,
      hamount, hcurrency, rfl, hcodeLength, hmessage, hmessageLength, hmetadata⟩
    refine Except.bind_eq_ok.mpr ⟨_, normalizeEventType_eq_ok.mpr htype, ?_⟩
    refine Except.bind_eq_ok.mpr ⟨_, fieldString_eq_ok.mpr ⟨hextId, hextIdLength⟩, ?_⟩
    refine Except.bind_eq_ok.mpr ⟨_, fieldString_eq_ok.mpr ⟨rfl, htypeLength⟩, ?_⟩
    refine Except.bind_eq_ok.mpr ⟨_, fieldString_eq_ok.mpr ⟨rfl, hproviderLength⟩, ?_⟩
    refine Except.bind_eq_ok.mpr ⟨_, fieldString_eq_ok.mpr ⟨rfl, hcustomerLength⟩, ?_⟩
    refine Except.bind_eq_ok.mpr ⟨_, fieldOptional_eq_ok.mpr ⟨rfl, hpaymentLength⟩, ?_⟩
    refine Except.bind_eq_ok.mpr ⟨_, fieldOptional_eq_ok.mpr ⟨rfl, hsubscriptionLength⟩, ?_⟩
    refine Except.bind_eq_ok.mpr ⟨_, fieldOptional_eq_ok.mpr ⟨rfl, hinvoiceLength⟩, ?_⟩
    refine Except.bind_eq_ok.mpr ⟨_, fieldOptional_eq_ok.mpr ⟨rfl, hcheckoutLength⟩, ?_⟩
    refine Except.bind_eq_ok.mpr ⟨_, fieldAmount_eq_ok.mpr hamount, ?_⟩
    refine Except.bind_eq_ok.mpr ⟨_, fieldCurrency_eq_ok.mpr hcurrency, ?_⟩
    refine Except.bind_eq_ok.mpr ⟨_, fieldOptional_eq_ok.mpr ⟨rfl, hcodeLength⟩, ?_⟩
    refine Except.bind_eq_ok.mpr ⟨_, fieldOptional_eq_ok.mpr ⟨hmessage, hmessageLength⟩, ?_⟩
    exact Except.bind_eq_ok.mpr ⟨_, fieldMetadata_eq_ok.mpr hmetadata, rfl⟩

/-- The body says the event: its values are converted to fields that the canonical schema admits. -/
def Says (lib : Library) (now : Datetime) (uuid4 : UUID) (raw : RawWebhook)
    (event : CanonicalEventDTO) : Prop :=
  ∃ values fields, Laid raw values ∧ BodyValues.Converts values lib now uuid4 fields ∧
    RawFields.Fits fields lib raw event

/-- The normalisation returns the event that the body says. -/
theorem normalizeRawProviderWebhook_eq_ok {event : CanonicalEventDTO} :
    normalizeRawProviderWebhook lib now uuid4 raw = .ok event ↔ Says lib now uuid4 raw event := by
  unfold normalizeRawProviderWebhook Says
  rw [Except.bind_eq_ok]
  constructor
  · rintro ⟨fields, hfields, hevent⟩
    obtain ⟨values, hlaid, hconverts⟩ := rawFields_eq_ok.mp hfields
    exact ⟨values, fields, hlaid, hconverts, canonicalEvent_eq_ok.mp hevent⟩
  · rintro ⟨values, fields, hlaid, hconverts, hfits⟩
    exact ⟨fields, rawFields_eq_ok.mpr ⟨values, hlaid, hconverts⟩, canonicalEvent_eq_ok.mpr hfits⟩

/-! ## Errors of the normalisation -/

/-- Whatever is raised is none of the application's own exceptions. -/
abbrev Untyped {α : Type} (x : Except Fault α) : Prop :=
  x.Raises fun fault => fault.statusCode = none

theorem normalizeTimestamp_untyped (value : Json) : Untyped (normalizeTimestamp lib now value) := by
  have hepoch : ∀ x, Untyped (normalizeEpoch x) := by
    intro x
    unfold normalizeEpoch
    dsimp only
    split
    · exact .of_ok _
    · exact .of_error rfl
  cases value with
  | bool b => exact hepoch _
  | int n => exact hepoch _
  | float x => exact hepoch _
  | inf negative => exact .of_error rfl
  | nan => exact .of_error rfl
  | str s =>
    unfold normalizeTimestamp
    dsimp only
    split <;> exact .of_ok _
  | _ => exact .of_ok _

theorem toInt_untyped (value : Json) : Untyped (toInt lib value) := by
  cases value with
  | bool b => exact .of_ok _
  | int n => exact .of_ok _
  | float x => exact .of_ok _
  | str s =>
    unfold toInt
    dsimp only
    split
    · exact .of_ok _
    · exact .of_error rfl
  | _ => exact .of_error rfl

theorem asDict_untyped (value : Json) : Untyped (asDict value) := by
  cases value with
  | obj fields => exact .of_ok _
  | _ => exact .of_error rfl

theorem normalizeFailureCode_untyped (value : Json) : Untyped (normalizeFailureCode value) := by
  unfold normalizeFailureCode
  split
  · cases value with
    | str text => exact .of_ok _
    | _ => exact .of_error rfl
  · exact .of_ok _

theorem normalizeEventType_untyped (value : Json) : Untyped (normalizeEventType value) := by
  cases value with
  | str text => exact .of_ok _
  | _ => exact .of_error rfl

theorem nested_untyped {d : Dict} {key inner : String} : Untyped (nested d key inner) := by
  unfold nested
  split
  · exact .of_ok _
  split
  · exact .of_error rfl
  · exact .of_ok _
  split
  · exact .of_ok _
  · exact .of_error rfl

theorem rawFields_untyped : Untyped (rawFields lib now uuid4 raw) := by
  refine .bind nested_untyped fun stripe => ?_
  rcases stripe with _ | object
  · refine .bind nested_untyped fun razorpay => ?_
    rcases razorpay with _ | payment
    · refine .bind (normalizeTimestamp_untyped _) fun _ => .bind (toInt_untyped _) fun _ => ?_
      exact .bind (normalizeFailureCode_untyped _) fun _ => .of_ok _
    · refine .bind (asDict_untyped _) fun _ => .bind (normalizeTimestamp_untyped _) fun _ => ?_
      refine .bind (asDict_untyped _) fun _ => .bind (toInt_untyped _) fun _ => ?_
      exact .bind (normalizeFailureCode_untyped _) fun _ => .of_ok _
  · refine .bind (normalizeTimestamp_untyped _) fun _ => .bind (asDict_untyped _) fun _ => ?_
    refine .bind (toInt_untyped _) fun _ => .bind (asDict_untyped _) fun _ => ?_
    exact .bind (normalizeFailureCode_untyped _) fun _ => .of_ok _

theorem fieldString_untyped {low high : ℕ} {value : Json} :
    Untyped (fieldString low high value) := by
  cases value with
  | str s =>
    unfold fieldString
    dsimp only
    split
    · exact .of_ok _
    · exact .of_error rfl
  | _ => exact .of_error rfl

theorem fieldOptional_untyped {high : ℕ} {value : Json} : Untyped (fieldOptional high value) := by
  unfold fieldOptional
  split
  · exact .of_ok _
  · exact .bind fieldString_untyped fun _ => .of_ok _

theorem canonicalEvent_untyped (fields : RawFields) :
    Untyped (canonicalEvent lib raw fields) := by
  refine .bind (normalizeEventType_untyped _) fun _ => .bind fieldString_untyped fun _ => ?_
  refine .bind fieldString_untyped fun _ => .bind fieldString_untyped fun _ => ?_
  refine .bind fieldString_untyped fun _ => .bind fieldOptional_untyped fun _ => ?_
  refine .bind fieldOptional_untyped fun _ => .bind fieldOptional_untyped fun _ => ?_
  refine .bind fieldOptional_untyped fun _ => .bind ?_ fun _ => .bind ?_ fun _ => ?_
  · unfold fieldAmount
    split
    · exact .of_ok _
    · exact .of_error rfl
  · unfold fieldCurrency
    split
    · exact .of_ok _
    · exact .of_error rfl
  refine .bind fieldOptional_untyped fun _ => .bind fieldOptional_untyped fun _ => ?_
  refine .bind ?_ fun _ => .of_ok _
  unfold fieldMetadata
  split
  · exact .of_ok _
  · exact .of_error rfl

/-- No error of the normalisation is one of the application's own exceptions. -/
theorem normalizeRawProviderWebhook_untyped :
    Untyped (normalizeRawProviderWebhook lib now uuid4 raw) :=
  .bind rawFields_untyped canonicalEvent_untyped

end EventNormalizer

end RevenueRescue
