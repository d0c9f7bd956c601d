import RevenueRescue.Base.Memo
import RevenueRescue.Refinement.Execution

/-!
# Retries through one payment adapter

`RazorpaySandboxPaymentAdapter.submit_retry` holds its lock while it looks up the idempotency key
and again while it stores the result, but not in between, where the provider executes the payment.
Calls of several threads take turns at these three parts. Every execution has a result, since
the adapter turns a failure to communicate into one.

Alone on the adapter, a call does what the dispatch of a workflow takes it to do.
-/

namespace RevenueRescue

/-- Calls of `submit_retry` on one adapter instance. -/
structure RetryCalls (ι : Type) where
  request : ι → PaymentRetryRequest

/-- The key under which a call looks up and stores its result. -/
def RetryCalls.idempotencyKey {ι : Type} (calls : RetryCalls ι) (i : ι) : String :=
  (calls.request i).idempotencyKey

/-- An adapter with `_sandbox_submissions`, the calls on it, and the executions so far. -/
abbrev RazorpayAdapter (ι : Type) : Type := Memo.State ι String ExecutionResult

/-- The locked lookup, the execution with its result, or the locked store of one call. -/
abbrev RetryAct (ι : Type) : Type := Memo.Act ι ExecutionResult

namespace RazorpayAdapter

variable {ι : Type} [DecidableEq ι]

/-- One part of `submit_retry`. -/
def submitRetry (calls : RetryCalls ι) : RazorpayAdapter ι → RetryAct ι → RazorpayAdapter ι :=
  Memo.step calls.idempotencyKey

/-- The adapter after parts of its calls, in the order in which they took turns. -/
def after (calls : RetryCalls ι) (submissions : String → Option ExecutionResult)
    (acts : List (RetryAct ι)) : RazorpayAdapter ι :=
  Run.after (submitRetry calls) (.start submissions) acts

/-- The parts of one call without another one between them. -/
def uninterrupted (i : ι) (result : ExecutionResult) : List (RetryAct ι) :=
  [.lookup i, .compute i result, .store i]

omit [DecidableEq ι] in
/-- The memory of a session as a function. -/
theorem lookup_cons_eq_update (submissions : List (String × ExecutionResult)) (key : String)
    (result : ExecutionResult) :
    (fun k => ((key, result) :: submissions).lookup k) =
      Function.update (fun k => submissions.lookup k) key (some result) := by
  funext k
  by_cases hk : k = key
  · rw [hk, Function.update_self, List.lookup_cons_self]
  · rw [Function.update_of_ne hk, List.lookup_cons, beq_eq_false_iff_ne.mpr hk]

/-- A call that nobody interrupts returns and remembers what `submitRetry` does in the session of a
workflow. -/
theorem submitRetry_uninterrupted {env : Env} {provider : Provider} {workflowId : UUID}
    {position : ℕ} {prepared : WorkflowExecutionService.PreparedRetry} {session u : Session}
    {sent : List Submission} {result : ExecutionResult}
    (hrun : WorkflowExecutionService.submitRetry env provider workflowId position prepared session =
      (sent, .ok (result, u)))
    {calls : RetryCalls ι} {i : ι} (hrequest : calls.request i = prepared.request)
    {a : RazorpayAdapter ι} (hready : a.call i = .ready)
    (hstored : a.stored = fun key => session.submissions.lookup key) :
    (Run.after (submitRetry calls) a (uninterrupted i result)).call i = .returned result ∧
      (Run.after (submitRetry calls) a (uninterrupted i result)).stored =
        fun key => u.submissions.lookup key := by
  have hkey : calls.idempotencyKey i = prepared.request.idempotencyKey := by
    unfold RetryCalls.idempotencyKey
    rw [hrequest]
  have hfound : a.stored (calls.idempotencyKey i) =
      session.submissions.lookup prepared.request.idempotencyKey := by
    rw [hstored, hkey]
  unfold WorkflowExecutionService.submitRetry at hrun
  rw [Req.get_bind_apply] at hrun
  dsimp only at hrun
  rcases hlookup : session.submissions.lookup prepared.request.idempotencyKey with _ | existing
  · rw [hlookup] at hrun hfound
    obtain ⟨_, _, v, _, hcall, hrun⟩ := Req.of_bind_eq_ok hrun
    cases hcall
    rcases hprovider : provider prepared.request with _ | answer
    · rw [hprovider] at hrun
      cases hrun
    rw [hprovider] at hrun
    cases hrun
    rw [lookup_cons_eq_update, ← hstored, ← hkey]
    simp [uninterrupted, submitRetry, Memo.step, hready, hfound]
  · rw [hlookup] at hrun hfound
    cases hrun
    simp [uninterrupted, submitRetry, Memo.step, hready, hfound, hstored]

end RazorpayAdapter

end RevenueRescue
