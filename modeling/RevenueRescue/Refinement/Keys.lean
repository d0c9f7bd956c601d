import RevenueRescue.Refinement.Effects

/-!
# Which case an event meets

The key of a case is written out of the reference that its first event leads with. The parts
are joined with a hyphen, so different parts may run together, but the kinds of reference
stay apart by their tags. A case that an event opened is found under its key and its trigger
transaction ever after, which settles which later events meet it.
-/

namespace RevenueRescue

open Python

namespace EventToCaseEngine

/-- The reference that an event leads with. -/
inductive LeadingReference where
  | subscription (reference billingPeriod : String)
  | invoice (reference : String)
  | checkout (reference : String)
  | payment (provider reference : String)
  | unreferenced (provider externalEventId : String)
  deriving DecidableEq, Repr

/-- The billing period of a subscription event. -/
def billingPeriod (event : CanonicalEventDTO) : String :=
  let recorded := Dict.get event.metadata "billing_period"
  if recorded.truthy then strJson recorded else event.occurredAt.strftimeYearMonth

/-- The first reference that is set, in the order of `derive_case_key`. -/
def leadingReference (event : CanonicalEventDTO) : LeadingReference :=
  if truthy event.subscriptionReference then
    .subscription (event.subscriptionReference.getD "") (billingPeriod event)
  else if truthy event.invoiceReference then .invoice (event.invoiceReference.getD "")
  else if truthy event.checkoutSessionId then .checkout (event.checkoutSessionId.getD "")
  else if truthy event.paymentReference then
    .payment event.provider (event.paymentReference.getD "")
  else .unreferenced event.provider event.externalEventId

namespace LeadingReference

/-- The parts of the key behind the tag. -/
def text : LeadingReference → String
  | .subscription reference billingPeriod => reference ++ "-" ++ billingPeriod
  | .invoice reference => reference
  | .checkout reference => reference
  | .payment provider reference => provider ++ "-" ++ reference
  | .unreferenced provider externalEventId => provider ++ "-" ++ externalEventId

/-- The tag of the kind. -/
def tag : LeadingReference → String
  | .subscription _ _ => "CASE-SUB-"
  | .invoice _ => "CASE-INV-"
  | .checkout _ => "CASE-CHK-"
  | .payment _ _ => "CASE-TX-"
  | .unreferenced _ _ => "CASE-EVT-"

/-- Two references of one kind whose parts run together to the same text. -/
def Clashes : LeadingReference → LeadingReference → Prop
  | .subscription reference period, .subscription reference' period' =>
    reference ++ "-" ++ period = reference' ++ "-" ++ period'
  | .invoice reference, .invoice reference' => reference = reference'
  | .checkout reference, .checkout reference' => reference = reference'
  | .payment provider reference, .payment provider' reference' =>
    provider ++ "-" ++ reference = provider' ++ "-" ++ reference'
  | .unreferenced provider id, .unreferenced provider' id' =>
    provider ++ "-" ++ id = provider' ++ "-" ++ id'
  | _, _ => False

/-- The tags keep the kinds apart, and nothing keeps the parts apart. -/
theorem tagged_eq_iff (a b : LeadingReference) :
    a.tag ++ a.text = b.tag ++ b.text ↔ a.Clashes b := by
  have hchars : ∀ {s t : String}, s = t → s.toList = t.toList := fun h => congrArg String.toList h
  cases a <;> cases b
  all_goals first
    | exact String.append_right_inj _
    | exact iff_of_false (fun h => by simpa [tag, String.toList_append] using hchars h) id

end LeadingReference

/-- The key of a case is its tagged leading reference. -/
theorem deriveCaseKey_eq (event : CanonicalEventDTO) :
    deriveCaseKey event = (leadingReference event).tag ++ (leadingReference event).text := by
  unfold deriveCaseKey leadingReference
  split_ifs
  · simp only [LeadingReference.tag, LeadingReference.text, billingPeriod, String.append_assoc]
  · rfl
  · rfl
  · simp only [LeadingReference.tag, LeadingReference.text, String.append_assoc]
  · simp only [LeadingReference.tag, LeadingReference.text, String.append_assoc]

theorem deriveCaseKey_eq_iff {first second : CanonicalEventDTO} :
    deriveCaseKey first = deriveCaseKey second ↔
      (leadingReference first).Clashes (leadingReference second) := by
  rw [deriveCaseKey_eq, deriveCaseKey_eq, LeadingReference.tagged_eq_iff]

/-! ## Cases that were opened -/

variable {s t : Store} {first second : CanonicalEventDTO} {caseId txId : UUID}

/-- The case is the one that the event opened for its transaction. -/
structure Founded (s : Store) (first : CanonicalEventDTO) (caseId txId : UUID) : Prop where
  key : ∃ case, s.caseByKey (deriveCaseKey first) = some (caseId, case)
  trigger : ∃ case, s.caseByTriggerTransaction txId = some (caseId, case)
  transaction : ∃ txn,
    s.transactionByExternalId first.provider (transactionReference first) = some (txId, txn)

/-- The transaction of an event is found where it was provisioned. -/
theorem transactionByExternalId_provisioned (s : Store) (event : CanonicalEventDTO) :
    ∃ txn, (provisioned s event).transactionByExternalId event.provider (transactionReference event) =
      some (transactionOf s event, txn) := by
  unfold Store.transactionByExternalId
  rcases provisioned_transactions_cases s event with ⟨txn, hfind, hsame⟩ | ⟨hfind, hid, hmore⟩
  · rw [hsame]
    exact ⟨txn, hfind⟩
  · rw [hmore, hid]
    exact ⟨_, Table.find?_append_one hfind (by simp [newTransaction])⟩

/-- A search that found nothing finds a new row. -/
theorem Founded.of_opened {env : Env} {event : CanonicalEventDTO} {risk : RiskClassificationResult}
    (hmatch : matchedCase s event = none) :
    Founded (opened env event (provisioned s event) (customerOf s event) (transactionOf s event) risk)
      event s.recoveryCases.length (transactionOf s event) := by
  let row := newCase env event (customerOf s event) (transactionOf s event) risk
  have hkey := caseByKey_of_matchedCase hmatch
  have htrigger := caseByTriggerTransaction_of_matchedCase hmatch
  refine ⟨⟨row, ?_⟩, ⟨row, ?_⟩, transactionByExternalId_provisioned s event⟩
  · unfold Store.caseByKey
    rw [opened_recoveryCases]
    exact Table.find?_append_one hkey (beq_self_eq_true _)
  · unfold Store.caseByTriggerTransaction
    rw [opened_recoveryCases]
    exact Table.find?_append_one htrigger (beq_self_eq_true _)

/-- What identifies the rows never changes. -/
theorem Founded.evolve (hevolved : Evolved s t) (h : Founded s first caseId txId) :
    Founded t first caseId txId := by
  obtain ⟨⟨byKey, hkey⟩, ⟨byTrigger, htrigger⟩, ⟨txn, htxn⟩⟩ := h
  obtain ⟨byKey', hkey', -⟩ :=
    hevolved.recoveryCases.find? (fun a b hab => by rw [hab.caseKey]) hkey
  obtain ⟨byTrigger', htrigger', -⟩ :=
    hevolved.recoveryCases.find? (fun a b hab => by rw [hab.triggerTransactionId]) htrigger
  obtain ⟨txn', htxn', -⟩ := hevolved.transactions.find?
    (fun a b hab => by rw [hab.provider, hab.externalTransactionId]) htxn
  exact ⟨⟨byKey', hkey'⟩, ⟨byTrigger', htrigger'⟩, ⟨txn', htxn'⟩⟩

/-- The second event names the case of the first one, or no case at all and then the transaction
of the first one. -/
def Collides (s : Store) (first second : CanonicalEventDTO) : Prop :=
  (leadingReference first).Clashes (leadingReference second) ∨
    (s.caseByKey (deriveCaseKey second) = none ∧ first.provider = second.provider ∧
      transactionReference first = transactionReference second)

/-- An event meets the case that another one opened exactly when the two collide. -/
theorem Founded.matchedCase_iff (h : Founded s first caseId txId) :
    (∃ case, matchedCase s second = some (caseId, case)) ↔ Collides s first second := by
  obtain ⟨⟨case, hkey⟩, ⟨case', htrigger⟩, ⟨txn, htxn⟩⟩ := h
  have hrow := Table.find?_some hkey
  have hrow' := Table.find?_some htrigger
  obtain rfl : case = case' := Option.some.inj (hrow.1.symm.trans hrow'.1)
  have hcaseKey : case.caseKey = deriveCaseKey first := beq_iff_eq.mp hrow.2
  have hcaseTrigger : case.triggerTransactionId = txId := beq_iff_eq.mp hrow'.2
  have htxnRow := Table.find?_some htxn
  unfold Collides matchedCase findExistingCase
  rw [← deriveCaseKey_eq_iff]
  constructor
  · rintro ⟨met, hmet⟩
    rcases hfind : s.caseByKey (deriveCaseKey second) with _ | existing
    · -- the case was met through the transaction of the second event
      rw [hfind] at hmet
      have hmetRow := Table.find?_some hmet
      obtain rfl : case = met := Option.some.inj (hrow.1.symm.trans hmetRow.1)
      have hsame : txId = transactionOf s second :=
        hcaseTrigger.symm.trans (beq_iff_eq.mp hmetRow.2)
      refine .inr ⟨rfl, ?_⟩
      unfold transactionOf at hsame
      rcases hother : s.transactionByExternalId second.provider (transactionReference second)
        with _ | ⟨otherId, other⟩
      · rw [hother] at hsame
        have hlt := (List.getElem?_eq_some_iff.mp htxnRow.1).1
        rw [hsame] at hlt
        exact absurd hlt (Nat.lt_irrefl _)
      · rw [hother] at hsame
        have hotherRow := Table.find?_some hother
        have hid : txId = otherId := hsame
        rw [← hid] at hotherRow
        obtain rfl : txn = other := Option.some.inj (htxnRow.1.symm.trans hotherRow.1)
        have hfirst := htxnRow.2
        have hsecond := hotherRow.2
        simp only [Bool.and_eq_true, beq_iff_eq] at hfirst hsecond
        exact ⟨hfirst.1.symm.trans hsecond.1, hfirst.2.symm.trans hsecond.2⟩
    · -- the case was met through its key
      rw [hfind, Option.some.injEq] at hmet
      rw [hmet] at hfind
      have hmetRow := Table.find?_some hfind
      obtain rfl : case = met := Option.some.inj (hrow.1.symm.trans hmetRow.1)
      exact .inl (hcaseKey.symm.trans (beq_iff_eq.mp hmetRow.2))
  · rintro (hsame | ⟨hfree, hprovider, hreference⟩)
    · rw [← hsame, hkey]
      exact ⟨case, rfl⟩
    · have hid : transactionOf s second = txId := by
        unfold transactionOf
        rw [← hprovider, ← hreference, htxn]
        rfl
      rw [hfree, hid]
      exact ⟨case, htrigger⟩

end EventToCaseEngine

end RevenueRescue
