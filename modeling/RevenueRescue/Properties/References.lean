import RevenueRescue.Properties.Timeouts

/-!
# What a reconciliation asks about

A live submission creates an order, and the payments for it come later. The execution takes the id
of the order as its reference, the reconciliation passes the reference on as a payment id, and the
endpoint for payments does not know it. When the answer held no id, the reconciliation falls back
on the payment of the transaction, which is the one that had failed.
-/

namespace RevenueRescue

open Python WorkflowExecutionService

namespace RazorpaySandboxPaymentAdapter

variable {adapter : RazorpaySandboxPaymentAdapter} {now : Datetime} {request : PaymentRetryRequest}
  {exchange : HttpExchange} {res : ExecutionResult}

/-- The answer names the order that was created, by this text in its column. -/
def ReturnsOrder (exchange : HttpExchange) (orderId : String) : Prop :=
  ∃ resp fields, exchange = .response resp ∧ resp.json = .ok (.obj fields) ∧
    textColumn (Dict.getD fields "id" .null) = some (some orderId)

/-- The endpoint for payments knows the id. -/
def KnowsPayment (adapter : RazorpaySandboxPaymentAdapter) (paymentId : String) : Prop :=
  ∃ resp, adapter.fetchPayment paymentId = .response resp ∧ resp.statusCode = 200

/-- The recorded values of a submission are those of the result. -/
theorem recordable_eq_some {result : LiveResult} (h : recordable result = some res) :
    res.status = result.status ∧ textColumn result.providerPaymentId = some res.providerPaymentId ∧
      textColumn result.providerOrderId = some res.providerOrderId := by
  unfold recordable at h
  simp only [Option.bind_eq_bind, Option.bind_eq_some_iff, Option.pure_def,
    Option.some.injEq] at h
  obtain ⟨paymentId, hpayment, orderId, horder, amount, -, currency, -, code, -, message, -, rfl⟩ := h
  exact ⟨rfl, hpayment, horder⟩

/-- A submission names no payment, and an order only as the answer does. -/
theorem submitted_references (h : adapter.submitRetry now request = some res)
    (hsubmitted : res.status = .SUBMITTED) :
    res.providerPaymentId = none ∧ ∀ orderId, res.providerOrderId = some orderId →
      ReturnsOrder (adapter.postOrder (orderPayload request)) orderId := by
  obtain ⟨hstatus, hpayment, horder⟩ := recordable_eq_some h
  rw [hsubmitted] at hstatus
  unfold executeLiveRazorpayRequest at hstatus hpayment horder
  have hreads := reads_resultOf adapter now request (adapter.postOrder (orderPayload request))
  generalize adapter.postOrder (orderPayload request) = exchange at *
  generalize adapter.resultOf now request exchange = result at *
  cases hreads with
  | unknown errorCode message => cases hstatus
  | failed hother hread =>
    rw [rejected_status hread] at hstatus
    cases hstatus
  | @submitted resp _ hsuccess hread =>
    obtain ⟨-, hnone, fields, hjson, hid⟩ := created_eq_ok hread
    rw [hnone] at hpayment
    refine ⟨(Option.some.inj hpayment).symm, fun orderId hsome => ?_⟩
    rw [hid, hsome] at horder
    exact ⟨resp, fields, rfl, hjson, horder⟩

/-- The reconciliation of these rows asks about the execution by a payment id of the provider. -/
def QueriesPayment (adapter : RazorpaySandboxPaymentAdapter) (s : Store) (caseId : UUID)
    (txn : Transaction) (execution : RecoveryExecution) : Prop :=
  ∃ ref, PaymentReconciliationService.providerReference s caseId txn = some ref ∧
    execution.externalReference = some ref ∧ adapter.KnowsPayment ref

/-- Whatever the provider answers to a submission that it accepts, no reconciliation ever asks about
the execution by a payment id, as long as the endpoint for payments does not know the order. -/
theorem submitted_retry_is_not_queried {env : Env} {workflowId : UUID} {override : Dict}
    {session : Session} {workflow : RecoveryWorkflow} {case : RecoveryCase} {position : ℕ}
    {step : WorkflowStep} {prepared : PreparedRetry} {attempted : Store}
    (adapter : RazorpaySandboxPaymentAdapter)
    (h : FreshDispatch env workflowId override session workflow case position step prepared
      attempted)
    (hres : adapter.submitRetry env.now prepared.request = some res)
    (hsubmitted : res.status = .SUBMITTED)
    (horders : ∀ orderId,
      ReturnsOrder (adapter.postOrder (orderPayload prepared.request)) orderId →
        ¬adapter.KnowsPayment orderId)
    (execution : RecoveryExecution)
    (hexecution : execution ∈ (rowsAfter session (executeNextStep env
      (adapter.submitRetry env.now) workflowId override session)).executions)
    (hnew : execution ∉ session.db.executions) (s : Store) (caseId : UUID) (txn : Transaction) :
    ¬adapter.QueriesPayment s caseId txn execution := by
  have hanswered := h.answered hres
  obtain ⟨hexecutions, -⟩ := hanswered.reads
  rw [hanswered.rowsAfter_eq] at hexecution
  have hrow : execution = newExecution workflowId step workflow.caseId res := by
    rcases hrecord : recordOutcome env workflowId position step workflow.caseId prepared res
      attempted with fault | ⟨x, recorded⟩
    · rw [hrecord] at hexecution
      exact absurd hexecution hnew
    · rw [hrecord] at hexecution
      dsimp only at hexecution
      rw [(recordOutcome_rows hrecord).2, hexecutions, List.mem_append] at hexecution
      exact List.mem_singleton.mp (hexecution.resolve_left hnew)
  obtain ⟨hnone, horder⟩ := submitted_references hres hsubmitted
  rintro ⟨ref, -, href, hknown⟩
  rw [hrow] at href
  have hreference : res.providerOrderId = some ref := by
    unfold newExecution eitherReference at href
    rw [hnone] at href
    exact href
  exact horders ref (horder ref hreference) hknown

/-- A reference that the endpoint for payments does not know tells nothing. -/
theorem retrieveStatus_of_not_known {ref : String} (h : ¬adapter.KnowsPayment ref) :
    adapter.retrieveStatus now ref = none ∨ adapter.retrieveStatus now ref = some .UNKNOWN := by
  unfold retrieveStatus executeLiveStatusQuery
  rcases hexchange : adapter.fetchPayment ref with resp | _ | exc
  · have hcode : resp.statusCode ≠ 200 := fun hcode => h ⟨resp, hexchange, hcode⟩
    dsimp only
    rw [if_neg hcode]
    exact .inr rfl
  · exact .inr rfl
  · exact .inl rfl

end RazorpaySandboxPaymentAdapter

namespace Sample

/-- A provider that creates the order `order_1` and knows the payments by their own ids. -/
def orderingAdapter : RazorpaySandboxPaymentAdapter :=
  ⟨library, 10,
    fun _ => .response ⟨200, some "application/json", .ok (.obj [("id", .str "order_1"),
      ("amount", .int 5000), ("currency", .str "INR"), ("status", .str "created")])⟩,
    fun paymentId =>
      if startsWith paymentId "pay_" then
        .response ⟨200, some "application/json", .ok (.obj [("status", .str "captured")])⟩
      else .response ⟨400, some "application/json", .ok (.obj [])⟩⟩

/-- The rows after the planned retry was submitted. -/
def orderedDb : Store :=
  rowsAfter ⟨unloggedDueDb, []⟩
    (executeNextStep env (orderingAdapter.submitRetry noon) 0 [] ⟨unloggedDueDb, []⟩)

end Sample

namespace RazorpaySandboxPaymentAdapter

theorem orderingAdapter_not_knowsPayment : ¬Sample.orderingAdapter.KnowsPayment "order_1" := by
  rintro ⟨resp, hresp, hcode⟩
  have hprefix : ¬startsWith "order_1" "pay_" = true := by decide
  unfold Sample.orderingAdapter at hresp
  dsimp only at hresp
  rw [if_neg hprefix] at hresp
  cases hresp
  cases hcode

/-- The submission of the planned retry is not asked about by a payment id. -/
theorem submitted_retry_is_not_queried_ordered :
    ∃ execution ∈ Sample.orderedDb.executions, ¬Sample.orderingAdapter.QueriesPayment
      Sample.orderedDb 0 (Sample.transaction .FAILED) execution := by
  have hdue : Sample.dispatchesNext Sample.unloggedDueDb 0 2 1 = true := by decide +kernel
  obtain ⟨workflow, case, step, prepared, attempted, hfresh, -⟩ := Sample.dispatchesNext_fresh hdue
  have hbefore : Sample.unloggedDueDb.executions.length = 0 := by decide +kernel
  have hafter : 0 < Sample.orderedDb.executions.length := by decide +kernel
  obtain ⟨execution, hexecution⟩ := List.exists_mem_of_length_pos hafter
  refine ⟨execution, hexecution, submitted_retry_is_not_queried Sample.orderingAdapter hfresh rfl rfl
    (fun orderId horder => ?_) execution hexecution ?_ Sample.orderedDb 0 _⟩
  · obtain ⟨resp, fields, hresp, hjson, hid⟩ := horder
    cases hresp
    cases hjson
    cases hid
    exact orderingAdapter_not_knowsPayment
  · rw [List.length_eq_zero_iff.mp hbefore]
    exact List.not_mem_nil

/-- The reconciliation asks the endpoint for payments about the order, and learns nothing. -/
theorem order_is_queried_as_payment :
    (Sample.orderedDb.executionsOf 0).map (fun row => (row.status, row.externalReference)) =
        [(.SUBMITTED, some "order_1")] ∧
      (Sample.orderedDb.recoveryCases[0]?).map RecoveryCase.state = some .VERIFICATION_PENDING ∧
      (Sample.orderedDb.transactions[0]?).map
          (PaymentReconciliationService.providerReference Sample.orderedDb 0) =
        some (some "order_1") ∧
      Sample.orderingAdapter.retrieveStatus Sample.noon "order_1" = some .UNKNOWN ∧
      ¬Sample.orderingAdapter.KnowsPayment "order_1" := by
  refine ⟨?_, ?_, ?_, ?_, orderingAdapter_not_knowsPayment⟩ <;> decide +kernel

end RazorpaySandboxPaymentAdapter

end RevenueRescue
