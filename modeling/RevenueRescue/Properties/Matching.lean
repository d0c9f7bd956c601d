import RevenueRescue.Properties.Settlement
import RevenueRescue.Refinement.Intake
import RevenueRescue.Refinement.Keys

/-!
# Events that meet another's case

The key of a case leaves out the customer, and for subscriptions, invoices and checkouts the
provider as well. So an event of another customer or another provider can meet the case that
an event opened, and a success resolves it. It does exactly when the leading references run
together to one key, or when the event has no case under its key and the same transaction.
-/

namespace RevenueRescue

open Python EventToCaseEngine

/-- The request processes an event that opens a case. -/
def OpensCase (config : PolicyConfig) (w : World) (env : Env) (event : CanonicalEventDTO) : Prop :=
  w.db.recoveryCases.length <
    (w.step config ⟨env, .operation (.processEvent event)⟩).db.recoveryCases.length

/-- The case that an event opened is founded on it. -/
theorem OpensCase.founded {config : PolicyConfig} {w : World} {env : Env}
    {event : CanonicalEventDTO} (h : OpensCase config w env event) :
    Founded (w.step config ⟨env, .operation (.processEvent event)⟩).db event
      w.db.recoveryCases.length (transactionOf w.db event) := by
  unfold OpensCase at h
  have hstep := World.step_processEvent config w env event
  generalize (w.step config ⟨env, .operation (.processEvent event)⟩).db = t at h hstep ⊢
  rcases hstep with rfl | hdelivered
  · exact absurd h (Nat.lt_irrefl _)
  cases hdelivered with
  | opened _ _ hmatch _ => exact .of_opened hmatch
  | ignored _ => exact absurd h (Nat.lt_irrefl _)
  | unmatched _ _ => exact absurd h (by simp)
  | settled _ _ _ => exact absurd h (by simp)
  | resolved _ _ _ => exact absurd h (by simp [resolved])
  | updated _ _ _ _ _ _ => exact absurd h (by simp [updated])
  | uncounted _ _ _ => exact absurd h (Nat.lt_irrefl _)
  | unclassified _ _ _ => exact absurd h (Nat.lt_irrefl _)
  | refused _ _ _ => exact absurd h (Nat.lt_irrefl _)

/-- After whatever requests came in between, a second event meets the case that a first one opened
exactly when the two collide, and it moves that case to `RECOVERED` only then. -/
theorem second_event_meets_iff (config : PolicyConfig) {w : World} {env : Env}
    {first : CanonicalEventDTO} (hopens : OpensCase config w env first) (between : List Request)
    (second : CanonicalEventDTO) :
    let v := (w.step config ⟨env, .operation (.processEvent first)⟩).run config between
    ((∃ case, matchedCase v.db second = some (w.db.recoveryCases.length, case)) ↔
        Collides v.db first second) ∧
      ∀ env', MovesToRecovered v.db
          (v.step config ⟨env', .operation (.processEvent second)⟩).db w.db.recoveryCases.length →
        Collides v.db first second := by
  intro v
  have hfounded : Founded v.db first w.db.recoveryCases.length (transactionOf w.db first) :=
    hopens.founded.evolve (World.run_evolved config _ between)
  refine ⟨hfounded.matchedCase_iff, fun env' hmoves => hfounded.matchedCase_iff.mp ?_⟩
  obtain ⟨-, case, hmatch, -⟩ :=
    (World.step_operation_writes config v env' (.processEvent second)).recovers hmoves
  exact ⟨case, hmatch⟩

namespace Sample

/-- An overdue invoice of one provider and a payment of the same invoice number at another. -/
def overdue : CanonicalEventDTO :=
  { event "evt_1" "INVOICE_OVERDUE" with
    paymentReference := none, invoiceReference := some "INV-1" }

def paidElsewhere : CanonicalEventDTO :=
  { event "evt_2" "PAYMENT_SUCCEEDED" with
    provider := "stripe", customerReference := "cust_2", paymentReference := some "pay_9"
    invoiceReference := some "INV-1" }

end Sample

/-- The case of another invoice is not met. -/
theorem second_event_meets_iff_other :
    ¬∃ case, matchedCase (World.empty.run .default [Sample.failure]).db Sample.overdue =
      some (0, case) := by
  have hopens : OpensCase .default World.empty Sample.env
      (Sample.event "evt_1" "PAYMENT_FAILED") := by
    unfold OpensCase
    decide +kernel
  intro hmeets
  rcases (second_event_meets_iff .default hopens [] Sample.overdue).1.mp hmeets with
    hclash | ⟨-, -, hreference⟩
  · exact hclash
  · exact absurd hreference (by decide)

/-- A payment of another customer at another provider recovers the case of an overdue invoice with
the same number. -/
theorem invoice_paid_elsewhere_recovers :
    let w := World.empty.run .default [Sample.request (.processEvent Sample.overdue)]
    let after := w.step .default (Sample.request (.processEvent Sample.paidElsewhere))
    EventValidator.validate Sample.env Sample.overdue = .ok () ∧
      EventValidator.validate Sample.env Sample.paidElsewhere = .ok () ∧
      Sample.overdue.provider ≠ Sample.paidElsewhere.provider ∧
      Sample.overdue.customerReference ≠ Sample.paidElsewhere.customerReference ∧
      w.db.recoveryCases.map RecoveryCase.state = [.DETECTED] ∧
      after.db.recoveryCases.map RecoveryCase.state = [.RECOVERED] := by
  refine ⟨rfl, rfl, ?_⟩
  decide +kernel

/-! ## Events about one object -/

/-- A reference names an object directly, or the metadata do it under another key. -/
def NamesObject (reference : Option String) (metadata : Dict) (key object : String) : Prop :=
  object ≠ "" ∧ (reference = some object ∨ Dict.get metadata key = .str object)

/-- Two events of one customer about the same checkout or the same invoice, named in any of the
ways that the validator accepts. -/
def SameObject (first second : CanonicalEventDTO) : Prop :=
  first.provider = second.provider ∧ first.customerReference = second.customerReference ∧
    ((first.eventType = CanonicalEventType.CHECKOUT_ABANDONED.value ∧
        second.eventType = CanonicalEventType.CHECKOUT_ABANDONED.value ∧
        ∃ object, NamesObject first.checkoutSessionId first.metadata "checkout_id" object ∧
          NamesObject second.checkoutSessionId second.metadata "checkout_id" object) ∨
      (first.eventType = CanonicalEventType.INVOICE_OVERDUE.value ∧
        second.eventType = CanonicalEventType.INVOICE_OVERDUE.value ∧
        ∃ object, NamesObject first.invoiceReference first.metadata "invoice_id" object ∧
          NamesObject second.invoiceReference second.metadata "invoice_id" object))

/-- The event is processed for the case, and it opens none. -/
def MeetsOnly (config : PolicyConfig) (w : World) (event : CanonicalEventDTO) (caseId : UUID) : Prop :=
  (∃ case, matchedCase w.db event = some (caseId, case)) ∧
    ∀ env, (w.step config ⟨env, .operation (.processEvent event)⟩).db.recoveryCases.length =
      w.db.recoveryCases.length

/-- The fields that `derive_case_key` and `_get_or_create_transaction` read lead to the same
place: the leading references agree, or no case stands under the second one and the transactions
have the same reference. -/
def ReferencesAgree (s : Store) (first second : CanonicalEventDTO) : Prop :=
  (leadingReference first).Clashes (leadingReference second) ∨
    (∀ case ∈ s.recoveryCases, case.caseKey ≠
        (leadingReference second).tag ++ (leadingReference second).text) ∧
      transactionReference first = transactionReference second

/-- An event that meets a case opens none. -/
theorem step_length_of_matchedCase {config : PolicyConfig} {w : World} {event : CanonicalEventDTO}
    {found : UUID × RecoveryCase} (hmatch : matchedCase w.db event = some found) (env : Env) :
    (w.step config ⟨env, .operation (.processEvent event)⟩).db.recoveryCases.length =
      w.db.recoveryCases.length := by
  have hstep := World.step_processEvent config w env event
  generalize (w.step config ⟨env, .operation (.processEvent event)⟩).db = t at hstep ⊢
  rcases hstep with rfl | hdelivered
  · rfl
  cases hdelivered with
  | opened _ _ hnone _ =>
    rw [hmatch] at hnone
    cases hnone
  | ignored _ => rfl
  | unmatched _ _ => simp
  | settled _ _ _ => simp
  | resolved _ _ _ => simp [resolved]
  | updated _ _ _ _ _ _ => simp [updated]
  | uncounted _ _ _ => rfl
  | unclassified _ _ _ => rfl
  | refused _ _ _ => rfl

/-- After whatever requests came in between, a second event about the object for which a first one
opened a case meets that case and opens none exactly when the references agree. -/
theorem same_object_same_case_iff (config : PolicyConfig) {w : World} {env : Env}
    {first second : CanonicalEventDTO} (hopens : OpensCase config w env first)
    (hsame : SameObject first second) (between : List Request) :
    let v := (w.step config ⟨env, .operation (.processEvent first)⟩).run config between
    MeetsOnly config v second w.db.recoveryCases.length ↔ ReferencesAgree v.db first second := by
  intro v
  have hfree : v.db.caseByKey (deriveCaseKey second) = none ↔
      ∀ case ∈ v.db.recoveryCases, case.caseKey ≠
        (leadingReference second).tag ++ (leadingReference second).text := by
    unfold Store.caseByKey
    rw [Table.find?_none, ← deriveCaseKey_eq]
    simp only [beq_eq_false_iff_ne]
  have hcollides : Collides v.db first second ↔ ReferencesAgree v.db first second := by
    unfold Collides ReferencesAgree
    rw [hfree]
    exact or_congr_right (and_congr_right fun _ => and_iff_right hsame.1)
  rw [← hcollides, ← (second_event_meets_iff config hopens between second).1]
  refine ⟨And.left, fun hmeets => ⟨hmeets, fun env' => ?_⟩⟩
  obtain ⟨case, hmatch⟩ := hmeets
  exact step_length_of_matchedCase hmatch env'

namespace Sample

/-- A checkout that was abandoned, once under its session and once in the metadata. -/
def abandoned (externalEventId : String) (checkoutSessionId : Option String) (metadata : Dict) :
    CanonicalEventDTO :=
  { event externalEventId "CHECKOUT_ABANDONED" with
    paymentReference := none, checkoutSessionId, metadata }

def abandonedSession : CanonicalEventDTO := abandoned "evt_1" (some "chk_1") []

def abandonedMetadata : CanonicalEventDTO := abandoned "evt_2" none [("checkout_id", .str "chk_1")]

theorem abandoned_sameObject : SameObject abandonedSession abandonedMetadata :=
  ⟨rfl, rfl, .inl ⟨rfl, rfl, "chk_1", ⟨by decide, .inl rfl⟩, ⟨by decide, .inr rfl⟩⟩⟩

theorem abandoned_opens : OpensCase .default World.empty env abandonedSession := by
  unfold OpensCase
  decide +kernel

end Sample

/-- The second naming of the checkout does not meet the case of the first one. -/
theorem same_object_same_case_iff_abandoned :
    ¬ ReferencesAgree (World.empty.run .default
        [Sample.request (.processEvent Sample.abandonedSession)]).db Sample.abandonedSession
          Sample.abandonedMetadata ∧
      ¬ MeetsOnly .default (World.empty.run .default
        [Sample.request (.processEvent Sample.abandonedSession)]) Sample.abandonedMetadata 0 := by
  have hdisagree : ¬ ReferencesAgree (World.empty.run .default
      [Sample.request (.processEvent Sample.abandonedSession)]).db Sample.abandonedSession
        Sample.abandonedMetadata := by
    rintro (hclash | ⟨-, hreference⟩)
    · exact hclash
    · exact absurd hreference (by decide)
  exact ⟨hdisagree, fun hmeets => hdisagree ((same_object_same_case_iff .default
    Sample.abandoned_opens Sample.abandoned_sameObject []).mp hmeets)⟩

/-- Both events are valid and about one checkout, and the second one opens a second case. -/
theorem second_case_of_one_checkout :
    let first := World.empty.run .default [Sample.request (.processEvent Sample.abandonedSession)]
    let second := first.run .default [Sample.request (.processEvent Sample.abandonedMetadata)]
    EventValidator.validate Sample.env Sample.abandonedSession = .ok () ∧
      EventValidator.validate Sample.env Sample.abandonedMetadata = .ok () ∧
      SameObject Sample.abandonedSession Sample.abandonedMetadata ∧
      first.db.recoveryCases.map RecoveryCase.caseKey = ["CASE-CHK-chk_1"] ∧
      second.db.recoveryCases.map RecoveryCase.caseKey =
        ["CASE-CHK-chk_1", "CASE-EVT-razorpay-evt_2"] ∧
      ¬ MeetsOnly .default first Sample.abandonedMetadata 0 := by
  refine ⟨rfl, rfl, Sample.abandoned_sameObject, by decide +kernel, by decide +kernel, ?_⟩
  rintro ⟨⟨case, hmatch⟩, -⟩
  cases hmatch

end RevenueRescue
