import RevenueRescue.Concurrency.Adapter
import RevenueRescue.Properties.History

/-!
# Concurrent retries with one idempotency key

The adapter promises that a key is submitted once. It keeps the promise as long as no lookup comes
up empty while another call with the key is at the provider: then the one execution is stored
before anybody looks again. A lookup in between leads to a second execution, whose result replaces
the first one in the memory, and the two calls return different results.
-/

namespace RevenueRescue

namespace RazorpayAdapter

variable {ι : Type} [DecidableEq ι] {calls : RetryCalls ι}
  {submissions : String → Option ExecutionResult} {acts : List (RetryAct ι)}

/-- The provider executes each key at most once, and calls with the same key return the same
result. -/
def SubmittedOnce (calls : RetryCalls ι) (a : RazorpayAdapter ι) : Prop :=
  Memo.Once calls.idempotencyKey a

/-- No lookup comes up empty while another call with its key is between its own lookup and its
store. -/
def LooksUpAlone (calls : RetryCalls ι) (submissions : String → Option ExecutionResult)
    (acts : List (RetryAct ι)) : Prop :=
  Run.Guarded (submitRetry calls) (Memo.MissesAlone calls.idempotencyKey) (.start submissions) acts

/-- Any number of calls, taking turns in any order, submit each key once if their lookups come up
empty alone, and once all of them have returned, only then. -/
theorem submitted_once_iff :
    (LooksUpAlone calls submissions acts → SubmittedOnce calls (after calls submissions acts)) ∧
      ((∀ i, ∃ result, (after calls submissions acts).call i = .returned result) →
        SubmittedOnce calls (after calls submissions acts) →
          LooksUpAlone calls submissions acts) := by
  constructor
  · intro halone
    exact Memo.once_of_guarded halone
  · intro hreturned honce
    exact Memo.guarded_of_once hreturned honce

end RazorpayAdapter

open RazorpayAdapter

namespace Sample

/-- Two calls with one key. -/
def twoRetries : RetryCalls (Fin 2) where
  request _ :=
    { caseId := 0, transactionId := 0, amountMinor := 5000, currency := inr
      customerReference := "cus_1", idempotencyKey := "wf-key", customerEmail := none
      paymentMethod := .null, metadata := [] }

/-- The provider accepts a payment. -/
def accepted (paymentId : String) : ExecutionResult :=
  ⟨.SUBMITTED, "razorpay", some paymentId, none, 5000, "INR", none, none, noon, true⟩

/-- The second call begins when the first one has returned. -/
def inTurn : List (RetryAct (Fin 2)) :=
  uninterrupted 0 (accepted "pay_2") ++ uninterrupted 1 (accepted "pay_3")

/-- The second call looks up the key while the first one is at the provider. -/
def interleaved : List (RetryAct (Fin 2)) :=
  [.lookup 0, .lookup 1, .compute 0 (accepted "pay_2"), .compute 1 (accepted "pay_3"), .store 0,
    .store 1]

end Sample

/-- In turn the second call returns the result of the first one. -/
theorem submitted_once_iff_in_turn :
    SubmittedOnce Sample.twoRetries (after Sample.twoRetries (fun _ => none) Sample.inTurn) := by
  have hstored : (after Sample.twoRetries (fun _ => none)
      (uninterrupted 0 (Sample.accepted "pay_2"))).stored "wf-key" =
        some (Sample.accepted "pay_2") := by decide +kernel
  refine submitted_once_iff.1 ⟨?_, ?_, ?_, ?_, ?_, ?_, trivial⟩
  · rintro i - - - j - (hmissed | ⟨_, hcomputed⟩)
    · cases hmissed
    · cases hcomputed
  · intro i h
    cases h
  · intro i h
    cases h
  · rintro i h - hnone
    cases h
    cases hstored.symm.trans hnone
  · intro i h
    cases h
  · intro i h
    cases h

/-- Both calls find nothing, and the provider executes two payments under one key. -/
theorem interleaved_retries_submit_twice :
    (Memo.computationsFor Sample.twoRetries.idempotencyKey
        (after Sample.twoRetries (fun _ => none) Sample.interleaved) "wf-key").length = 2 ∧
      (after Sample.twoRetries (fun _ => none) Sample.interleaved).call 0 =
        .returned (Sample.accepted "pay_2") ∧
      (after Sample.twoRetries (fun _ => none) Sample.interleaved).call 1 =
        .returned (Sample.accepted "pay_3") ∧
      ¬SubmittedOnce Sample.twoRetries
        (after Sample.twoRetries (fun _ => none) Sample.interleaved) := by
  have htwice : (Memo.computationsFor Sample.twoRetries.idempotencyKey
      (after Sample.twoRetries (fun _ => none) Sample.interleaved) "wf-key").length = 2 := by
    decide +kernel
  refine ⟨htwice, rfl, rfl, fun h => ?_⟩
  have honce := h.computed "wf-key"
  omega

end RevenueRescue
