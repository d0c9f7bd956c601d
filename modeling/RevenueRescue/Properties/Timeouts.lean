import RevenueRescue.Properties.Outcomes
import RevenueRescue.Properties.Redelivery
import RevenueRescue.Refinement.Redaction
import RevenueRescue.Workflows.Razorpay

/-!
# Timeouts of the live adapter

A retry that was not declined by the provider may have been carried out, so it must not be taken for
a failure. The live path is careful with timeouts, transport errors and bodies that it cannot read.
An answer that it can read, and that is neither a success nor a decline, it takes for a decline, and
the body of an answer that does not announce JSON is not even read.
-/

namespace RevenueRescue

open Python WorkflowExecutionService

namespace WorkflowExecutionService

variable {env : Env} {workflowId : UUID} {position : ℕ} {step : WorkflowStep} {caseId : UUID}
  {prepared : PreparedRetry} {res : ExecutionResult} {s t : Store} {x : Unit}

/-! ## What a recorded outcome leaves -/

/-- The move of the case that follows an answer leaves attempts and executions alone. -/
theorem followingMove_attempts {status : ExecutionStatus} {priorAttempts : ℕ} {u : Store}
    (h : (match transitionAfter status priorAttempts with
      | some (target, reasonCode) => do
        let _ ← CaseTransitionService.transition env caseId target reasonCode .SYSTEM
      | none => pure () : Service Unit) u = .ok (x, t)) :
    t.attempts = u.attempts ∧ t.executions = u.executions := by
  rcases hnext : transitionAfter status priorAttempts with _ | ⟨target, reasonCode⟩
  · rw [hnext] at h
    cases h
    exact ⟨rfl, rfl⟩
  · rw [hnext] at h
    obtain ⟨_, v, hmove, h⟩ := Tx.bind_eq_ok.mp h
    cases h
    obtain ⟨case, -, rfl⟩ := CaseTransitionService.of_transition hmove
    exact ⟨rfl, rfl⟩

/-- An outcome is applied to the attempt of its dispatch and to no other. -/
theorem applyOutcome_attempts
    (h : applyOutcome env workflowId position caseId prepared res s = .ok (x, t)) :
    t.attempts = s.attempts.modify prepared.attemptId (finishAttempt res) ∧
      t.executions = s.executions := by
  unfold applyOutcome at h
  rw [Tx.modify_bind_apply, Tx.modify_bind_apply] at h
  rcases hafter : workflowStatusAfter res.status with _ | status
  · rw [hafter] at h
    exact followingMove_attempts h
  · rw [hafter] at h
    dsimp only at h
    rw [Tx.modify_bind_apply] at h
    exact followingMove_attempts h

/-- One execution is recorded with the outcome. -/
theorem recordOutcome_rows
    (h : recordOutcome env workflowId position step caseId prepared res s = .ok (x, t)) :
    t.attempts = s.attempts.modify prepared.attemptId (finishAttempt res) ∧
      t.executions = s.executions ++ [newExecution workflowId step caseId res] := by
  obtain ⟨_, u, hinsert, h⟩ := Tx.bind_eq_ok.mp h
  rw [insertExecution_apply] at hinsert
  split at hinsert
  · cases hinsert
  · cases hinsert
    exact applyOutcome_attempts h

/-- The call faces a dispatch whose preparation wrote the attempt, and the adapter instance has not
seen its key. -/
structure FreshDispatch (env : Env) (workflowId : UUID) (override : Dict) (session : Session)
    (workflow : RecoveryWorkflow) (case : RecoveryCase) (position : ℕ) (step : WorkflowStep)
    (prepared : PreparedRetry) (attempted : Store) : Prop
    extends Faces session workflowId workflow case position step where
  stepType : step.stepType = .DISPATCH_PAYMENT_RETRY
  preparation : prepareDispatch env workflowId position step workflow.caseId override
    (started session.db workflowId position) = .ok (some prepared, attempted)
  unseen : session.submissions.lookup prepared.request.idempotencyKey = none

/-- No execution is on record under the key of the step, and the number of the case's next
transition is free in its audit log. -/
def Recordable (s : Store) (caseId : UUID) (step : WorkflowStep) : Prop :=
  (∀ row ∈ s.executions, row.idempotencyKey ≠ step.idempotencyKey) ∧
    s.nextTransitionNumber caseId ∉ s.auditNumbers caseId

namespace FreshDispatch

variable {override : Dict} {session : Session} {workflow : RecoveryWorkflow} {case : RecoveryCase}
  {attempted : Store} {provider : Provider}

theorem answered (h : FreshDispatch env workflowId override session workflow case position step
      prepared attempted) (hres : provider prepared.request = some res) :
    AnsweredDispatch env provider workflowId override session workflow case position step prepared
      attempted res :=
  ⟨h.toFaces, h.stepType, h.preparation, true, .sent res h.unseen hres⟩

/-- The attempt of the dispatch is the newest one. -/
theorem attemptId_eq (h : FreshDispatch env workflowId override session workflow case position step
    prepared attempted) : prepared.attemptId = session.db.attempts.length ∧
      ∃ attempt, attempted.attempts = session.db.attempts ++ [attempt] := by
  obtain ⟨found, txn, customer, hdispatched⟩ := prepareDispatch_some h.preparation
  exact ⟨hdispatched.attemptId, _, congrArg Store.attempts hdispatched.after⟩

/-- An answer that moves its case is recorded exactly where it can be. -/
theorem recorded_iff (h : FreshDispatch env workflowId override session workflow case position step
      prepared attempted) (hres : provider prepared.request = some res)
    (hmoves : res.status ∈ [ExecutionStatus.SUBMITTED, .SUCCEEDED, .UNKNOWN]) :
    (∃ x recorded, recordOutcome env workflowId position step workflow.caseId prepared res attempted =
      .ok (x, recorded)) ↔ Recordable session.db workflow.caseId step := by
  have hanswered := h.answered hres
  obtain ⟨hexecutions, -⟩ := hanswered.reads
  unfold Recordable
  constructor
  · rintro ⟨x, recorded, hrecord⟩
    have hfresh := recordOutcome_fresh hrecord
    rw [hexecutions] at hfresh
    refine ⟨hfresh, ?_⟩
    rcases (hanswered.took hrecord).moves with ⟨hnone, -⟩ | ⟨target, found, -, hcarries, -⟩
    · rcases List.mem_cons.mp hmoves with hstatus | hmoves
      · rw [hstatus] at hnone
        cases hnone
      rcases List.mem_cons.mp hmoves with hstatus | hmoves
      · rw [hstatus] at hnone
        cases hnone
      · rw [List.mem_singleton.mp hmoves] at hnone
        cases hnone
    · exact hcarries.numberFree
  · rintro ⟨hfresh, hfree⟩
    exact hanswered.records hfresh hfree

/-- An unknown outcome marks the attempt exactly where it can be recorded; otherwise the attempt is
rolled back. -/
theorem marked_uncertain_iff (h : FreshDispatch env workflowId override session workflow case
      position step prepared attempted) (hres : provider prepared.request = some res)
    (hunknown : res.status = .UNKNOWN) :
    ((rowsAfter session (executeNextStep env provider workflowId override session)).attempts[
        prepared.attemptId]?).map RecoveryAttempt.status = some .UNCERTAIN ↔
      Recordable session.db workflow.caseId step := by
  obtain ⟨hid, newest, hattempts⟩ := h.attemptId_eq
  have hnewest : attempted.attempts[prepared.attemptId]? = some newest := by
    rw [hid, hattempts, List.getElem?_concat_length]
  have hrecorded := h.recorded_iff hres (by rw [hunknown]; decide)
  rw [(h.answered hres).rowsAfter_eq, ← hrecorded]
  rcases hrecord : recordOutcome env workflowId position step workflow.caseId prepared res attempted
    with fault | ⟨x, recorded⟩
  · have hgone : session.db.attempts[prepared.attemptId]? = none := by
      rw [hid, List.getElem?_eq_none_iff]
    dsimp only
    rw [hgone]
    refine iff_of_false (fun hother => by cases hother) ?_
    rintro ⟨x, recorded, hother⟩
    cases hother
  · refine iff_of_true ?_ ⟨x, recorded, rfl⟩
    dsimp only
    rw [(recordOutcome_rows hrecord).1, List.getElem?_modify_eq, hnewest]
    unfold finishAttempt
    rw [hunknown]
    rfl

end FreshDispatch

end WorkflowExecutionService

namespace RazorpaySandboxPaymentAdapter

/-! ## Answers -/

/-- The provider declined the request: a 4xx answer. -/
def Declines : HttpExchange → Prop
  | .response resp => 400 ≤ resp.statusCode ∧ resp.statusCode < 500
  | _ => False

/-- The adapter decodes the body of the answer. -/
def Decodes (resp : HttpResponse) : Prop :=
  resp.statusCode ∈ [200, 201] ∨ announcesJson resp = true

/-- Nothing is known about the payment: a 5xx answer, a body that cannot be decoded, a timeout or
another error of the transport. -/
def Inconclusive : HttpExchange → Prop
  | .response resp => (500 ≤ resp.statusCode ∧ resp.statusCode < 600) ∨
      (Decodes resp ∧ ∃ exc, resp.json = .error exc)
  | _ => True

/-- The adapter finds its way through the body: it does not read it, or it is an object whose
error, if there is one, is an object too. -/
def ReadsRejection (resp : HttpResponse) : Prop :=
  announcesJson resp = false ∨ ∃ fields : Dict, resp.json = .ok (.obj fields) ∧
    ∀ value, fields.lookup "error" = some value → ∃ err, value = .obj err

/-- An answer that is neither a success nor a decline, and that the adapter takes for a decline. -/
def TakenForDecline : HttpExchange → Prop
  | .response resp => resp.statusCode ∉ [200, 201] ∧
      ¬(400 ≤ resp.statusCode ∧ resp.statusCode < 500) ∧ ReadsRejection resp
  | _ => False

variable {adapter : RazorpaySandboxPaymentAdapter} {now : Datetime} {request : PaymentRetryRequest}
  {resp : HttpResponse} {exchange : HttpExchange} {result : LiveResult}

theorem getField_eq_ok {value found default : Json} {key : String} :
    getField value key default = .ok found ↔
      ∃ fields, value = .obj fields ∧ found = Dict.getD fields key default := by
  unfold getField
  cases value <;> simp [eq_comm]

/-- A success is read from an object. -/
theorem created_eq_ok (h : adapter.created now request resp = .ok result) :
    result.status = .SUBMITTED ∧ result.providerPaymentId = .null ∧
      ∃ fields : Dict, resp.json = .ok (.obj fields) ∧
        result.providerOrderId = Dict.getD fields "id" .null := by
  obtain ⟨data, hdata, h⟩ := Except.bind_eq_ok.mp h
  obtain ⟨orderId, hid, h⟩ := Except.bind_eq_ok.mp h
  obtain ⟨amountMinor, -, h⟩ := Except.bind_eq_ok.mp h
  obtain ⟨currency, -, h⟩ := Except.bind_eq_ok.mp h
  cases h
  obtain ⟨fields, rfl, rfl⟩ := getField_eq_ok.mp hid
  exact ⟨rfl, rfl, fields, hdata, rfl⟩

/-- Everything else that is read is a failure. -/
theorem rejected_status (h : adapter.rejected now request resp = .ok result) :
    result.status = .FAILED := by
  obtain ⟨data, -, h⟩ := Except.bind_eq_ok.mp h
  obtain ⟨err, -, h⟩ := Except.bind_eq_ok.mp h
  obtain ⟨errCode, -, h⟩ := Except.bind_eq_ok.mp h
  obtain ⟨errDesc, -, h⟩ := Except.bind_eq_ok.mp h
  cases h
  rfl

theorem rejectionBody_eq_ok {data : Json} :
    rejectionBody resp = .ok data ↔ (announcesJson resp = false ∧ data = .obj []) ∨
      (announcesJson resp = true ∧ resp.json = .ok data) := by
  unfold rejectionBody
  rcases hjson : announcesJson resp with _ | _
  · simp [eq_comm]
  · simp

/-- The redaction keeps the shape of a value. -/
theorem sanitizeMetadata_eq_obj {lib : Library} {value : Json} {fields : Dict}
    (h : EventNormalizer.sanitizeMetadata lib value = .obj fields) :
    ∃ before, value = .obj before ∧ fields = EventNormalizer.sanitizeFields lib before := by
  cases value with
  | obj before =>
    cases h
    exact ⟨before, rfl, rfl⟩
  | str text =>
    rw [EventNormalizer.sanitizeMetadata] at h
    split at h <;> cases h
  | _ => cases h

/-- The answer is taken for a decline exactly when the adapter finds its way through the body. -/
theorem rejected_ok_iff (adapter : RazorpaySandboxPaymentAdapter) (now : Datetime)
    (request : PaymentRetryRequest) :
    (∃ result, adapter.rejected now request resp = .ok result) ↔ ReadsRejection resp := by
  have hexposed : EventNormalizer.isSensitive "error" = false := by decide +kernel
  have hlookup := fun fields => lookup_sanitizeFields adapter.lib fields "error"
  constructor
  · rintro ⟨result, h⟩
    obtain ⟨data, hdata, h⟩ := Except.bind_eq_ok.mp h
    obtain ⟨err, herr, h⟩ := Except.bind_eq_ok.mp h
    obtain ⟨errCode, hcode, -⟩ := Except.bind_eq_ok.mp h
    rcases rejectionBody_eq_ok.mp hdata with ⟨hplain, -⟩ | ⟨-, hjson⟩
    · exact .inl hplain
    obtain ⟨safeFields, hsafe, rfl⟩ := getField_eq_ok.mp herr
    obtain ⟨fields, rfl, rfl⟩ := sanitizeMetadata_eq_obj hsafe
    obtain ⟨errFields, herr, -⟩ := getField_eq_ok.mp hcode
    refine .inr ⟨fields, hjson, fun value hvalue => ?_⟩
    unfold Dict.getD at herr
    rw [hlookup, hvalue, Option.map_some, hexposed, Option.getD_some] at herr
    obtain ⟨before, rfl, -⟩ := sanitizeMetadata_eq_obj herr
    exact ⟨before, rfl⟩
  · intro h
    have hbody : ∃ fields : Dict, rejectionBody resp = .ok (.obj fields) ∧
        ∀ value, fields.lookup "error" = some value → ∃ err, value = .obj err := by
      rcases h with hplain | ⟨fields, hjson, herror⟩
      · exact ⟨[], rejectionBody_eq_ok.mpr (.inl ⟨hplain, rfl⟩), fun value hvalue => by cases hvalue⟩
      · rcases hplain : announcesJson resp with _ | _
        · exact ⟨[], rejectionBody_eq_ok.mpr (.inl ⟨hplain, rfl⟩),
            fun value hvalue => by cases hvalue⟩
        · exact ⟨fields, rejectionBody_eq_ok.mpr (.inr ⟨hplain, hjson⟩), herror⟩
    obtain ⟨fields, hbody, herror⟩ := hbody
    have herr : ∃ err, Dict.getD (EventNormalizer.sanitizeFields adapter.lib fields) "error"
        (.obj []) = .obj err := by
      unfold Dict.getD
      rw [hlookup]
      rcases hvalue : fields.lookup "error" with _ | value
      · exact ⟨[], rfl⟩
      · obtain ⟨err, rfl⟩ := herror value hvalue
        rw [Option.map_some, hexposed]
        exact ⟨EventNormalizer.sanitizeFields adapter.lib err, rfl⟩
    obtain ⟨err, herr⟩ := herr
    refine ⟨_, Except.bind_eq_ok.mpr ⟨_, hbody, Except.bind_eq_ok.mpr ⟨.obj err, ?_,
      Except.bind_eq_ok.mpr ⟨_, rfl, Except.bind_eq_ok.mpr ⟨_, rfl, rfl⟩⟩⟩⟩⟩
    exact getField_eq_ok.mpr ⟨_, rfl, herr.symm⟩

/-- What becomes of an exchange: nothing is known, a failure was read, or a success was. -/
inductive Reads (adapter : RazorpaySandboxPaymentAdapter) (now : Datetime)
    (request : PaymentRetryRequest) : HttpExchange → LiveResult → Prop
  | unknown {exchange : HttpExchange} (errorCode message : String) :
    Reads adapter now request exchange (unknownResult now request errorCode message)
  | failed {resp : HttpResponse} {result : LiveResult} (hother : resp.statusCode ∉ [200, 201])
      (hread : adapter.rejected now request resp = .ok result) :
    Reads adapter now request (.response resp) result
  | submitted {resp : HttpResponse} {result : LiveResult} (hsuccess : resp.statusCode ∈ [200, 201])
      (hread : adapter.created now request resp = .ok result) :
    Reads adapter now request (.response resp) result

theorem reads_resultOf (adapter : RazorpaySandboxPaymentAdapter) (now : Datetime)
    (request : PaymentRetryRequest) (exchange : HttpExchange) :
    Reads adapter now request exchange (adapter.resultOf now request exchange) := by
  cases exchange with
  | timeout => exact .unknown _ _
  | failure exc => exact .unknown _ _
  | response resp =>
    unfold resultOf
    dsimp only
    by_cases hsuccess : resp.statusCode ∈ [200, 201]
    · rw [if_pos hsuccess]
      rcases hread : adapter.created now request resp with exc | result
      · exact .unknown _ _
      · exact .submitted hsuccess hread
    · rw [if_neg hsuccess]
      rcases hread : adapter.rejected now request resp with exc | result
      · exact .unknown _ _
      · exact .failed hsuccess hread

/-- An answer that is taken for a decline is recorded as a failure. -/
theorem resultOf_takenForDecline (h : TakenForDecline exchange) :
    (adapter.resultOf now request exchange).status = .FAILED := by
  cases exchange with
  | response resp =>
    obtain ⟨hother, -, hreads⟩ := h
    obtain ⟨result, hread⟩ := (rejected_ok_iff adapter now request).mpr hreads
    unfold resultOf
    dsimp only
    rw [if_neg hother, hread]
    exact rejected_status hread
  | timeout => exact h.elim
  | failure exc => exact h.elim

/-- Outside the answers that are taken for declines, only a decline is recorded as a failure. -/
theorem declines_of_failed (h : ¬TakenForDecline exchange)
    (hfailed : (adapter.resultOf now request exchange).status = .FAILED) : Declines exchange := by
  have hreads := reads_resultOf adapter now request exchange
  generalize adapter.resultOf now request exchange = result at hreads hfailed
  cases hreads with
  | unknown errorCode message => cases hfailed
  | submitted hsuccess hread =>
    rw [(created_eq_ok hread).1] at hfailed
    cases hfailed
  | failed hother hread =>
    by_contra hdeclines
    exact h ⟨hother, hdeclines, (rejected_ok_iff adapter now request).mp ⟨_, hread⟩⟩

/-- Outside the answers that are taken for declines, nothing is claimed about an inconclusive
exchange. -/
theorem unknown_of_inconclusive (adapter : RazorpaySandboxPaymentAdapter) (now : Datetime)
    (request : PaymentRetryRequest) (h : ¬TakenForDecline exchange)
    (hinconclusive : Inconclusive exchange) :
    ∃ errorCode message,
      adapter.resultOf now request exchange = unknownResult now request errorCode message := by
  have hreads := reads_resultOf adapter now request exchange
  generalize adapter.resultOf now request exchange = result at hreads
  cases hreads with
  | unknown errorCode message => exact ⟨errorCode, message, rfl⟩
  | submitted hsuccess hread =>
    obtain ⟨-, -, fields, hjson, -⟩ := created_eq_ok hread
    exfalso
    rcases hinconclusive with ⟨hlow, -⟩ | ⟨-, exc, hexc⟩
    · rcases List.mem_cons.mp hsuccess with hcode | hcode
      · omega
      · rw [List.mem_singleton] at hcode
        omega
    · rw [hjson] at hexc
      cases hexc
  | failed hother hread =>
    have hrejection := (rejected_ok_iff adapter now request).mp ⟨_, hread⟩
    exfalso
    rcases hinconclusive with ⟨hlow, -⟩ | ⟨hdecodes, exc, hexc⟩
    · exact h ⟨hother, fun hdeclines => by omega, hrejection⟩
    · rcases hrejection with hplain | ⟨fields, hjson, -⟩
      · rcases hdecodes with hsuccess | hjson
        · exact hother hsuccess
        · rw [hplain] at hjson
          cases hjson
      · rw [hjson] at hexc
        cases hexc

/-- The unknown result is recordable whatever the provider did. -/
theorem recordable_unknownResult (now : Datetime) (request : PaymentRetryRequest)
    (errorCode message : String) :
    ∃ res, recordable (unknownResult now request errorCode message) = some res ∧
      res.status = .UNKNOWN :=
  ⟨_, rfl, rfl⟩

/-- Only a decline is a failure; what is inconclusive stays open, and it marks the attempt. -/
structure TimeoutsAreNotFailures (exchange : HttpExchange) (result : LiveResult) (rows : Store)
    (attemptId : UUID) : Prop where
  failed : result.status = .FAILED → Declines exchange
  unknown : Inconclusive exchange → result.status = .UNKNOWN ∧ result.isDefinitive = false
  marked : Inconclusive exchange →
    (rows.attempts[attemptId]?).map RecoveryAttempt.status = some .UNCERTAIN

/-- Timeouts are not failures exactly when no answer is taken for a decline, and an inconclusive
exchange can be recorded. -/
theorem timeouts_are_not_failures_iff {env : Env} {workflowId : UUID} {override : Dict}
    {session : Session} {workflow : RecoveryWorkflow} {case : RecoveryCase} {position : ℕ}
    {step : WorkflowStep} {prepared : PreparedRetry} {attempted : Store}
    (adapter : RazorpaySandboxPaymentAdapter)
    (h : FreshDispatch env workflowId override session workflow case position step prepared
      attempted) :
    TimeoutsAreNotFailures (adapter.postOrder (orderPayload prepared.request))
        (adapter.executeLiveRazorpayRequest env.now prepared.request)
        (rowsAfter session
          (executeNextStep env (adapter.submitRetry env.now) workflowId override session))
        prepared.attemptId ↔
      ¬TakenForDecline (adapter.postOrder (orderPayload prepared.request)) ∧
        (Inconclusive (adapter.postOrder (orderPayload prepared.request)) →
          Recordable session.db workflow.caseId step) := by
  have hmarked : ∀ errorCode message,
      adapter.executeLiveRazorpayRequest env.now prepared.request =
        unknownResult env.now prepared.request errorCode message →
      (((rowsAfter session (executeNextStep env (adapter.submitRetry env.now) workflowId override
        session)).attempts[prepared.attemptId]?).map RecoveryAttempt.status = some .UNCERTAIN ↔
          Recordable session.db workflow.caseId step) := by
    intro errorCode message hresult
    obtain ⟨res, hres, hunknown⟩ := recordable_unknownResult env.now
      prepared.request errorCode message
    refine h.marked_uncertain_iff ?_ hunknown
    unfold submitRetry
    rw [hresult, hres]
  constructor
  · intro hsafe
    have hnot : ¬TakenForDecline (adapter.postOrder (orderPayload prepared.request)) := by
      intro htaken
      have hdeclines := hsafe.failed (resultOf_takenForDecline htaken)
      generalize adapter.postOrder (orderPayload prepared.request) = exchange at htaken hdeclines
      cases exchange with
      | response resp => exact htaken.2.1 hdeclines
      | timeout => exact htaken
      | failure exc => exact htaken
    refine ⟨hnot, fun hinconclusive => ?_⟩
    obtain ⟨errorCode, message, hresult⟩ := unknown_of_inconclusive adapter env.now
      prepared.request hnot hinconclusive
    exact (hmarked errorCode message hresult).mp (hsafe.marked hinconclusive)
  · rintro ⟨hnot, hrecordable⟩
    refine ⟨declines_of_failed hnot, fun hinconclusive => ?_, fun hinconclusive => ?_⟩
    · obtain ⟨errorCode, message, hresult⟩ := unknown_of_inconclusive adapter env.now
        prepared.request hnot hinconclusive
      unfold executeLiveRazorpayRequest
      rw [hresult]
      exact ⟨rfl, rfl⟩
    · obtain ⟨errorCode, message, hresult⟩ := unknown_of_inconclusive adapter env.now
        prepared.request hnot hinconclusive
      exact (hmarked errorCode message hresult).mpr (hrecordable hinconclusive)

end RazorpaySandboxPaymentAdapter

namespace Sample

/-- An adapter whose provider ends every exchange in one way. -/
def liveAdapter (exchange : HttpExchange) : RazorpaySandboxPaymentAdapter :=
  ⟨library, 10, fun _ => exchange, fun _ => exchange⟩

/-- A proxy answers for the provider. -/
def badGateway : HttpExchange :=
  .response ⟨502, some "text/html", .error "Expecting value: line 1 column 1 (char 0)"⟩

/-- The planned retry is about to be dispatched, in rows that hold no logs yet. -/
def unloggedDueDb : Store := { dueDb with auditEvents := [], transitions := [] }

/-- The rows after the dispatch of the planned retry. -/
def dispatchedLive (db : Store) (exchange : HttpExchange) : Store :=
  rowsAfter ⟨db, []⟩
    (executeNextStep env ((liveAdapter exchange).submitRetry noon) 0 [] ⟨db, []⟩)

theorem dispatchesNext_fresh {db : Store} {workflowId position attempts : ℕ}
    (h : dispatchesNext db workflowId position attempts = true) :
    ∃ workflow case step prepared attempted,
      FreshDispatch env workflowId [] ⟨db, []⟩ workflow case position step prepared attempted ∧
      workflow.caseId = 0 := by
  obtain ⟨workflow, case, step, prepared, attempted, res, hanswered, hid, -⟩ :=
    dispatchesNext_answered h .UNKNOWN
  exact ⟨workflow, case, step, prepared, attempted,
    ⟨hanswered.toFaces, hanswered.stepType, hanswered.preparation, rfl⟩, hid⟩

end Sample

namespace RazorpaySandboxPaymentAdapter

/-- A timeout marks the attempt. -/
theorem timeouts_are_not_failures_iff_timeout :
    ∃ prepared : PreparedRetry, TimeoutsAreNotFailures .timeout
      ((Sample.liveAdapter .timeout).executeLiveRazorpayRequest Sample.noon prepared.request)
      (Sample.dispatchedLive Sample.unloggedDueDb .timeout) prepared.attemptId := by
  have hdue : Sample.dispatchesNext Sample.unloggedDueDb 0 2 1 = true := by decide +kernel
  obtain ⟨workflow, case, step, prepared, attempted, hfresh, hid⟩ := Sample.dispatchesNext_fresh hdue
  have hexecutions : Sample.unloggedDueDb.executions.length = 0 := by decide +kernel
  have hsafe := (timeouts_are_not_failures_iff (Sample.liveAdapter .timeout) hfresh).mpr
    ⟨fun htaken => htaken, fun _ => ⟨fun row hrow => ?_, ?_⟩⟩
  · exact ⟨prepared, hsafe⟩
  · rw [List.length_eq_zero_iff.mp hexecutions] at hrow
    exact absurd hrow List.not_mem_nil
  · exact List.not_mem_nil

/-- A proxy that answers for the provider makes a failure of the retry. -/
theorem bad_gateway_is_a_failure :
    ∃ workflow case step prepared attempted,
      FreshDispatch Sample.env 0 [] ⟨Sample.dueDb, []⟩ workflow case 2 step prepared attempted ∧
      Inconclusive Sample.badGateway ∧
      ((Sample.liveAdapter Sample.badGateway).submitRetry Sample.noon prepared.request).map
        (fun res => (res.status, res.isDefinitive)) = some (.FAILED, true) ∧
      ((Sample.dispatchedLive Sample.dueDb Sample.badGateway).attemptsOf 0).map
        RecoveryAttempt.status = [.FAILED] ∧
      ¬TimeoutsAreNotFailures Sample.badGateway
        ((Sample.liveAdapter Sample.badGateway).executeLiveRazorpayRequest Sample.noon
          prepared.request)
        (Sample.dispatchedLive Sample.dueDb Sample.badGateway) prepared.attemptId := by
  have hdue : Sample.dispatchesNext Sample.dueDb 0 2 1 = true := by decide +kernel
  obtain ⟨workflow, case, step, prepared, attempted, hfresh, hid⟩ := Sample.dispatchesNext_fresh hdue
  have hattempts : ((Sample.dispatchedLive Sample.dueDb Sample.badGateway).attemptsOf 0).map
      RecoveryAttempt.status = [.FAILED] := by decide +kernel
  refine ⟨workflow, case, step, prepared, attempted, hfresh, ?_, rfl, hattempts, fun hsafe => ?_⟩
  · exact .inl (by decide)
  · exact absurd (hsafe.failed rfl).2 (by decide)

end RazorpaySandboxPaymentAdapter

end RevenueRescue
