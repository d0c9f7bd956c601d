import RevenueRescue.Base.ReadCommitted
import RevenueRescue.Cases.Ingestion
import RevenueRescue.Cases.Service

/-!
# The tables under concurrent requests

The tables that the case service, the case engine and the event service write. A request
draws the primary keys of its new rows itself, so here a row is stored together with its key.

An insert locks the unique key that it takes, and an update of a row locks the row. Such an
update sets columns to values which the request computed from the row it had loaded, whatever
the row holds by then; the columns it does not set keep what is there.
-/

namespace RevenueRescue

open ReadCommitted

/-- The rows with their primary keys. -/
structure Tables where
  customers : List (UUID × Customer)
  transactions : List (UUID × Transaction)
  recoveryCases : List (UUID × RecoveryCase)
  auditEvents : List AuditEvent
  transitions : List CaseStateTransition
  webhookEvents : List (UUID × ProviderWebhookEvent)

namespace Tables

/-! ## Queries -/

/-- `CustomerRepository.find_by_external_id`. -/
def customerByExternalId (t : Tables) (provider externalCustomerId : String) :
    Option (UUID × Customer) :=
  t.customers.find? fun c =>
    c.2.provider == provider && c.2.externalCustomerId == externalCustomerId

/-- `TransactionRepository.find_by_external_id`. -/
def transactionByExternalId (t : Tables) (provider externalTransactionId : String) :
    Option (UUID × Transaction) :=
  t.transactions.find? fun x =>
    x.2.provider == provider && x.2.externalTransactionId == externalTransactionId

/-- `session.get(Transaction, id)`. -/
def transactionById (t : Tables) (id : UUID) : Option (UUID × Transaction) :=
  t.transactions.find? fun x => x.1 == id

/-- `RecoveryCaseRepository.find_by_id`. -/
def caseById (t : Tables) (id : UUID) : Option (UUID × RecoveryCase) :=
  t.recoveryCases.find? fun c => c.1 == id

/-- `RecoveryCaseRepository.find_by_case_key`. -/
def caseByKey (t : Tables) (caseKey : String) : Option (UUID × RecoveryCase) :=
  t.recoveryCases.find? fun c => c.2.caseKey == caseKey

/-- `RecoveryCaseRepository.find_by_trigger_transaction_id`. -/
def caseByTriggerTransaction (t : Tables) (transactionId : UUID) : Option (UUID × RecoveryCase) :=
  t.recoveryCases.find? fun c => c.2.triggerTransactionId == transactionId

/-- The sequence numbers of a case's audit log. -/
def auditNumbers (t : Tables) (caseId : UUID) : List ℕ :=
  (t.auditEvents.filter fun a => a.caseId == caseId).map AuditEvent.sequenceNumber

/-- The sequence numbers of a case's transition log. -/
def transitionNumbers (t : Tables) (caseId : UUID) : List ℕ :=
  (t.transitions.filter fun x => x.caseId == caseId).map CaseStateTransition.sequenceNumber

/-- `AuditEventRepository.get_next_sequence_number`. -/
def nextAuditNumber (t : Tables) (caseId : UUID) : ℕ := Numbering.next (t.auditNumbers caseId)

/-- One more than the highest sequence number among the case's transitions. -/
def nextTransitionNumber (t : Tables) (caseId : UUID) : ℕ :=
  Numbering.next (t.transitionNumbers caseId)

/-- The stored receipt of a provider's event id. -/
def receipt (t : Tables) (provider externalEventId : String) :
    Option (UUID × ProviderWebhookEvent) :=
  t.webhookEvents.find? fun e =>
    e.2.provider == provider && e.2.externalEventId == externalEventId

end Tables

/-- Set columns of the row with the given key. -/
def rewriteRow {A : Type} (id : UUID) (f : A → A) (rows : List (UUID × A)) : List (UUID × A) :=
  rows.map fun row => if row.1 = id then (row.1, f row.2) else row

/-- What a statement locks: the value of a unique key, or a row. -/
inductive RowLock where
  | customerKey (provider externalCustomerId : String)
  | transactionKey (provider externalTransactionId : String)
  | transaction (id : UUID)
  | caseKey (caseKey : String)
  | recoveryCase (id : UUID)
  | auditNumber (caseId : UUID) (sequenceNumber : ℕ)
  | transitionNumber (caseId : UUID) (sequenceNumber : ℕ)
  | providerEvent (provider externalEventId : String)
  | webhookEvent (id : UUID)
  deriving DecidableEq, Repr

/-- A statement that writes to the tables. -/
abbrev RowWrite : Type := Update Tables Fault RowLock

namespace RowWrite

/-- The check of a unique constraint. -/
def unique (taken : Bool) (constraint : Constraint) : Option Fault :=
  if taken then some (.integrityError constraint) else none

def insertCustomer (id : UUID) (row : Customer) : RowWrite where
  lock := .customerKey row.provider row.externalCustomerId
  violation t := unique (t.customerByExternalId row.provider row.externalCustomerId).isSome
    .uq_customer_provider_external
  apply t := { t with customers := t.customers ++ [(id, row)] }

def insertTransaction (id : UUID) (row : Transaction) : RowWrite where
  lock := .transactionKey row.provider row.externalTransactionId
  violation t := unique
    (t.transactionByExternalId row.provider row.externalTransactionId).isSome
    .uq_transaction_provider_external
  apply t := { t with transactions := t.transactions ++ [(id, row)] }

def updateTransaction (id : UUID) (f : Transaction → Transaction) : RowWrite where
  lock := .transaction id
  violation _ := none
  apply t := { t with transactions := rewriteRow id f t.transactions }

def insertCase (id : UUID) (row : RecoveryCase) : RowWrite where
  lock := .caseKey row.caseKey
  violation t := unique (t.caseByKey row.caseKey).isSome .uq_recovery_case_key
  apply t := { t with recoveryCases := t.recoveryCases ++ [(id, row)] }

def updateCase (id : UUID) (f : RecoveryCase → RecoveryCase) : RowWrite where
  lock := .recoveryCase id
  violation _ := none
  apply t := { t with recoveryCases := rewriteRow id f t.recoveryCases }

def insertAudit (row : AuditEvent) : RowWrite where
  lock := .auditNumber row.caseId row.sequenceNumber
  violation t := unique ((t.auditNumbers row.caseId).contains row.sequenceNumber)
    .uq_audit_case_sequence
  apply t := { t with auditEvents := t.auditEvents ++ [row] }

def insertTransition (row : CaseStateTransition) : RowWrite where
  lock := .transitionNumber row.caseId row.sequenceNumber
  violation t := unique ((t.transitionNumbers row.caseId).contains row.sequenceNumber)
    .uq_transition_case_sequence
  apply t := { t with transitions := t.transitions ++ [row] }

def insertWebhookEvent (id : UUID) (row : ProviderWebhookEvent) : RowWrite where
  lock := .providerEvent row.provider row.externalEventId
  violation t := unique (t.receipt row.provider row.externalEventId).isSome .uq_provider_event
  apply t := { t with webhookEvents := t.webhookEvents ++ [(id, row)] }

def updateWebhookEvent (id : UUID) (f : ProviderWebhookEvent → ProviderWebhookEvent) :
    RowWrite where
  lock := .webhookEvent id
  violation _ := none
  apply t := { t with webhookEvents := rewriteRow id f t.webhookEvents }

@[simp] theorem unique_eq_none {taken : Bool} {constraint : Constraint} :
    unique taken constraint = none ↔ taken = false := by
  cases taken <;> simp [unique]

end RowWrite

/-! ## Rewritten rows -/

section RewriteRow

variable {A : Type} {id : UUID} {f : A → A} {rows : List (UUID × A)}

theorem map_fst_rewriteRow : (rewriteRow id f rows).map Prod.fst = rows.map Prod.fst := by
  unfold rewriteRow
  rw [List.map_map]
  apply List.map_congr_left
  intro row _
  by_cases h : row.1 = id
  · simp only [Function.comp, if_pos h]
  · simp only [Function.comp, if_neg h]

/-- A search that does not look at the columns set finds the rewritten row. -/
theorem find?_rewriteRow {p : UUID × A → Bool} (h : ∀ row, p (id, f row) = p (id, row)) :
    (rewriteRow id f rows).find? p =
      (rows.find? p).map fun row => if row.1 = id then (row.1, f row.2) else row := by
  unfold rewriteRow
  rw [List.find?_map]
  congr 2
  funext row
  by_cases hid : row.1 = id
  · rw [Function.comp, if_pos hid]
    subst hid
    exact h row.2
  · rw [Function.comp, if_neg hid]

end RewriteRow

/-- A new row is found only where there was none. -/
theorem find?_snoc_cases {A : Type} (p : A → Bool) (rows : List A) (row : A) :
    (rows ++ [row]).find? p = rows.find? p ∨ rows.find? p = none ∧ p row = true := by
  rw [List.find?_append]
  rcases rows.find? p with _ | found
  · rw [Option.none_or]
    by_cases hrow : p row = true
    · exact .inr ⟨rfl, hrow⟩
    · exact .inl (List.find?_cons_of_neg hrow)
  · exact .inl rfl

/-- In a table with unique keys, a row is found under its key. -/
theorem find?_key_of_mem {A : Type} {rows : List (UUID × A)} (h : (rows.map Prod.fst).Nodup)
    {id : UUID} {row : A} (hmem : (id, row) ∈ rows) :
    rows.find? (fun r => r.1 == id) = some (id, row) := by
  induction rows with
  | nil => cases hmem
  | cons r rest ih =>
    rw [List.map_cons, List.nodup_cons] at h
    rcases List.mem_cons.mp hmem with rfl | hrest
    · rw [List.find?_cons_of_pos (by simp)]
    · have hne : r.1 ≠ id := by
        rintro rfl
        exact h.1 (List.mem_map.mpr ⟨_, hrest, rfl⟩)
      rw [List.find?_cons_of_neg (by simpa using hne)]
      exact ih h.2 hrest

end RevenueRescue
