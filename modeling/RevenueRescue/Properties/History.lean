import RevenueRescue.Refinement.World

/-!
# Settled history

Two facts hold of every run of requests from any rows, whatever the providers answer: a case
that is recovered, stopped or closed stays so, and a transaction keeps its money, its
identity and, once it has succeeded, its status.
-/

namespace RevenueRescue

open Python

/-! ## A sample payment -/

namespace Sample

def inr : Currency := ⟨"INR", by decide⟩

def noon : Datetime := ⟨1700000000000000, some 0⟩

/-- A session that flushes before each query and survives. -/
def env : Env := ⟨noon, true, false⟩

def request (op : Operation) : Request := ⟨env, .operation op⟩

/-- An event about the payment `pay_1` of 50 rupees. -/
def event (externalEventId eventType : String) : CanonicalEventDTO :=
  { externalEventId, eventType, provider := "razorpay", occurredAt := noon
    customerReference := "cust_1", paymentReference := some "pay_1"
    subscriptionReference := none, invoiceReference := none, checkoutSessionId := none
    amountMinor := 5000, currency := inr, failureCode := some "insufficient_funds"
    failureMessage := none, metadata := [] }

def failure : Request := request (.processEvent (event "evt_1" "PAYMENT_FAILED"))

def success : Request := request (.processEvent (event "evt_2" "PAYMENT_SUCCEEDED"))

/-- A transaction row for the payment. -/
def transaction (status : TransactionStatus) : Transaction :=
  { customerId := 0, provider := "razorpay", externalTransactionId := "pay_1"
    amountMinor := 5000, currency := inr, status, failureCode := none
    failureMessageSafe := none, occurredAt := noon.naive, metadataJson := [] }

/-- A case row for the payment. -/
def case (state : RecoveryCaseState) : RecoveryCase :=
  { customerId := 0, triggerTransactionId := 0, caseKey := "CASE-TX-razorpay-pay_1", state
    priority := 50, openedAt := noon.naive, lastStateChangedAt := noon.naive, closedAt := none
    version := 1, metadataJson := [] }

/-- A world with one case in a state. -/
def world (status : TransactionStatus) (state : RecoveryCaseState) : World :=
  { db := { Store.empty with
      transactions := [transaction status], recoveryCases := [case state] }
    sent := [] }

end Sample

/-! ## Cases -/

/-- A move from a terminal state stays among the terminal states. -/
theorem MayMove.terminal {a b : RecoveryCaseState} (h : a = b ∨ MayMove a b)
    (ha : a ∈ [RecoveryCaseState.RECOVERED, .STOPPED, .CLOSED]) :
    b ∈ [RecoveryCaseState.RECOVERED, .STOPPED, .CLOSED] ∧
      (a = .RECOVERED → b ∈ [RecoveryCaseState.RECOVERED, .CLOSED]) ∧
      (a = .CLOSED → b = .CLOSED) := by
  revert h ha
  cases a <;> cases b <;> decide

/-- The terminal states are absorbing: `RECOVERED` can only be closed and `CLOSED` is final. -/
theorem terminal_states_absorb (config : PolicyConfig) (w : World) (requests : List Request)
    {caseId : UUID} {case : RecoveryCase} (hcase : w.db.recoveryCases[caseId]? = some case)
    (hterminal : case.state ∈ [RecoveryCaseState.RECOVERED, .STOPPED, .CLOSED]) :
    ∃ later, (w.run config requests).db.recoveryCases[caseId]? = some later ∧
      later.state ∈ [RecoveryCaseState.RECOVERED, .STOPPED, .CLOSED] ∧
      (case.state = .RECOVERED → later.state ∈ [RecoveryCaseState.RECOVERED, .CLOSED]) ∧
      (case.state = .CLOSED → later.state = .CLOSED) := by
  have hevolved := (World.run_evolved config w requests).recoveryCases
  obtain ⟨later, hlater, hkept⟩ := hevolved.getElem? hcase
  have hmove : case.state = later.state ∨ MayMove case.state later.state :=
    hkept.state.imp_left Eq.symm
  exact ⟨later, hlater, MayMove.terminal hmove hterminal⟩

/-- A further failure leaves the recovered case closed or recovered. -/
theorem terminal_states_absorb_failure :
    ∃ later, ((Sample.world .SUCCEEDED .RECOVERED).run .default
        [Sample.failure]).db.recoveryCases[0]? = some later ∧
      later.state ∈ [RecoveryCaseState.RECOVERED, .CLOSED] := by
  have hcase : (Sample.world .SUCCEEDED .RECOVERED).db.recoveryCases[0]? =
      some (Sample.case .RECOVERED) := rfl
  obtain ⟨later, hlater, -, hrecovered, -⟩ :=
    terminal_states_absorb .default (Sample.world .SUCCEEDED .RECOVERED) [Sample.failure] hcase
      (by decide)
  exact ⟨later, hlater, hrecovered rfl⟩

/-! ## Transactions -/

/-- The money and the identity of a transaction never change, nor does its status once it has
succeeded. -/
theorem transactions_keep_their_facts (config : PolicyConfig) (w : World)
    (requests : List Request) {transactionId : UUID} {txn : Transaction}
    (htxn : w.db.transactions[transactionId]? = some txn) :
    ∃ later, (w.run config requests).db.transactions[transactionId]? = some later ∧
      (txn.status = .SUCCEEDED → later.status = .SUCCEEDED) ∧
      later.amountMinor = txn.amountMinor ∧ later.currency = txn.currency ∧
      later.customerId = txn.customerId ∧ later.provider = txn.provider ∧
      later.externalTransactionId = txn.externalTransactionId := by
  have hevolved := (World.run_evolved config w requests).transactions
  obtain ⟨later, hlater, hstep⟩ := hevolved.getElem? htxn
  exact ⟨later, hlater, hstep.status, hstep.amountMinor, hstep.currency, hstep.customerId,
    hstep.provider, hstep.externalTransactionId⟩

/-- A failure that arrives after the success changes nothing of the transaction. -/
theorem transactions_keep_their_facts_failure :
    ∃ later, ((Sample.world .SUCCEEDED .RECOVERED).run .default
        [Sample.failure]).db.transactions[0]? = some later ∧
      later.status = .SUCCEEDED ∧ later.amountMinor = 5000 := by
  have htxn : (Sample.world .SUCCEEDED .RECOVERED).db.transactions[0]? =
      some (Sample.transaction .SUCCEEDED) := rfl
  obtain ⟨later, hlater, hstatus, hamount, -⟩ :=
    transactions_keep_their_facts .default (Sample.world .SUCCEEDED .RECOVERED) [Sample.failure]
      htxn
  exact ⟨later, hlater, hstatus rfl, hamount⟩

end RevenueRescue
