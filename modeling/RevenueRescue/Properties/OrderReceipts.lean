import RevenueRescue.Properties.History
import RevenueRescue.Workflows.Creation
import RevenueRescue.Workflows.Razorpay

/-!
# The receipts of live orders

The order that a dispatch creates carries the key of its step as the receipt, cut to forty
characters. The key is `step:`, the id of the workflow, the index and the name of the step: the
first two take forty-one characters, so the receipt lacks the last digit of the id. Two workflows
have different receipts exactly when their ids differ in one of the other digits.
-/

namespace RevenueRescue

open Python

/-- The lengths of the groups of an id but for the last. -/
def UUID.groups : List ℕ := [8, 4, 4, 4]

/-- An id in groups is its digits with hyphens. -/
theorem UUID.toList_str (id : UUID) :
    (UUID.str id).toList = hyphenate UUID.groups (hexDigits 32 id) := by
  have hlast : (((hexDigits 32 id).drop 20).take 12) = (hexDigits 32 id).drop 20 :=
    List.take_of_length_le (by rw [List.length_drop, hexDigits_length])
  simp only [UUID.str, UUID.groups, hyphenate, String.toList_ofList, List.drop_drop, List.drop_zero,
    hlast, List.append_assoc, List.cons_append]

/-- All characters of an id but the last are those of its other digits. -/
theorem UUID.take_str (id : UUID) :
    (UUID.str id).toList.take 35 = hyphenate UUID.groups (hexDigits 31 (id / 16)) := by
  rw [UUID.toList_str, ← take_hexDigits]
  exact take_hyphenate UUID.groups (hexDigits 32 id) (n := 31) (by decide)
    (by rw [hexDigits_length]; decide)

namespace RazorpaySandboxPaymentAdapter

open WorkflowCreationService WorkflowExecutionService

/-- A receipt that the order of a dispatch step carries: the step is one of a new workflow, and the
request is built from it and any rows. -/
def SendsReceipt (workflowId : UUID) (receipt : Json) : Prop :=
  ∃ (env : Env) (decisionId : UUID) (decision : PolicyDecision)
    (cooldownHours maxWorkflowHours : ℤ),
    ∃ step ∈ (newWorkflow env workflowId decisionId decision cooldownHours maxWorkflowHours).steps,
      step.stepType = .DISPATCH_PAYMENT_RETRY ∧
        ∃ (case : RecoveryCase) (txn : Transaction) (customer : Customer) (override : Dict),
          receipt = Dict.get (orderPayload
            (buildRequest step decision.caseId case txn customer override)) "receipt"

/-- The key of the third step. -/
theorem pendingStep_dispatch (workflowId : UUID) (action : ActionType) (stepType : WorkflowStepType)
    (payload : Dict) :
    (pendingStep workflowId action 3 stepType "dispatch" payload).idempotencyKey =
      "step:" ++ UUID.str workflowId ++ ":3:dispatch" := by
  have hend : ":" ++ (toString 3 ++ (":" ++ "dispatch")) = ":3:dispatch" := by decide
  rw [← hend]
  simp only [pendingStep, toString, String.append_assoc]

/-- The only dispatch step of a new workflow is the third one of a retry. -/
theorem idempotencyKey_of_mem_buildSteps {workflowId : UUID} {action : ActionType}
    {cooldownHours : ℤ} {step : WorkflowStep}
    (hstep : step ∈ buildSteps workflowId action cooldownHours)
    (hdispatch : step.stepType = .DISPATCH_PAYMENT_RETRY) :
    step.idempotencyKey = "step:" ++ UUID.str workflowId ++ ":3:dispatch" := by
  cases action <;> simp only [buildSteps, List.mem_cons, List.not_mem_nil, or_false] at hstep
  case RETRY_PAYMENT =>
    rcases hstep with rfl | rfl | rfl | rfl
    · simp only [pendingStep, reduceCtorEq] at hdispatch
    · simp only [pendingStep, reduceCtorEq] at hdispatch
    · exact pendingStep_dispatch workflowId _ _ _
    · simp only [pendingStep, reduceCtorEq] at hdispatch
  case SEND_REMINDER =>
    rcases hstep with rfl | rfl
    · simp only [pendingStep, reduceCtorEq] at hdispatch
    · simp only [pendingStep, reduceCtorEq] at hdispatch
  case REQUEST_OPERATOR_REVIEW =>
    subst hstep
    simp only [pendingStep, reduceCtorEq] at hdispatch

/-- The receipt has the characters of the id but for the last. -/
def receiptText (workflowId : UUID) : List Char :=
  "step:".toList ++ hyphenate UUID.groups (hexDigits 31 (workflowId / 16))

theorem take_idempotencyKey (workflowId : UUID) :
    ("step:" ++ UUID.str workflowId ++ ":3:dispatch").toList.take 40 = receiptText workflowId := by
  have hlength : (UUID.str workflowId).toList.length = 36 := by
    rw [UUID.toList_str]
    simp only [UUID.groups, hyphenate, List.length_append, List.length_cons, List.length_take,
      List.length_drop, hexDigits_length]
    decide
  have hstart : "step:".toList.length = 5 := by decide
  rw [String.toList_append, String.toList_append, List.append_assoc, List.take_append,
    List.take_of_length_le (by rw [hstart]; decide), hstart,
    List.take_append_of_le_length (by rw [hlength]; decide), UUID.take_str, receiptText]

/-- Every receipt that is sent for a workflow. -/
theorem SendsReceipt.eq {workflowId : UUID} {receipt : Json} (h : SendsReceipt workflowId receipt) :
    receipt = .str (String.ofList (receiptText workflowId)) := by
  obtain ⟨env, decisionId, decision, cooldownHours, maxWorkflowHours, step, hstep, hdispatch, case,
    txn, customer, override, rfl⟩ := h
  have hkey := idempotencyKey_of_mem_buildSteps hstep hdispatch
  rw [← take_idempotencyKey, ← hkey]
  rfl

/-- Receipts are equal exactly when all digits of the ids but the last are. -/
theorem receiptText_inj (u v : BitVec 128) :
    receiptText u.toNat = receiptText v.toNat ↔ u.toNat / 16 = v.toNat / 16 := by
  have hbound : ∀ id : BitVec 128, id.toNat / 16 % 16 ^ 31 = id.toNat / 16 := by
    intro id
    have hid := id.isLt
    exact Nat.mod_eq_of_lt (by omega)
  unfold receiptText
  rw [List.append_cancel_left_eq, hyphenate_inj _ (by rw [hexDigits_length, hexDigits_length]),
    hexDigits_eq_iff, hbound, hbound]

/-- The receipts of two workflows differ exactly when one of the first thirty-one digits of their
ids does. -/
theorem receipts_differ_iff (u v : BitVec 128) {first second : Json}
    (hfirst : SendsReceipt u.toNat first) (hsecond : SendsReceipt v.toNat second) :
    first ≠ second ↔ u.toNat / 16 ≠ v.toNat / 16 := by
  rw [hfirst.eq, hsecond.eq, Ne, Json.str.injEq, String.ofList_inj, receiptText_inj]

end RazorpaySandboxPaymentAdapter

namespace Sample

/-- The approval of a retry. -/
def approvedRetry : PolicyDecision :=
  { caseId := 0, recommendationId := 0, proposedAction := .RETRY_PAYMENT
    decisionStatus := .APPROVED, policyVersion := "v1", ruleResultsJson := [], reasonsJson := []
    actorType := .SYSTEM, idempotencyKey := none, caseVersion := 1
    evaluatedAt := noon.naive }

/-- The customer that the sample payment belongs to. -/
def customer : Customer :=
  { provider := "razorpay", externalCustomerId := "cust_1", email := none, status := .ACTIVE
    metadataJson := [] }

open RazorpaySandboxPaymentAdapter WorkflowCreationService WorkflowExecutionService

/-- A retry with any id sends its receipt. -/
theorem sendsReceipt (workflowId : UUID) :
    SendsReceipt workflowId (.str (String.ofList (receiptText workflowId))) := by
  let step := pendingStep workflowId .RETRY_PAYMENT 3 .DISPATCH_PAYMENT_RETRY "dispatch"
    [("adapter", .str "razorpay_sandbox")]
  have hstep : step ∈ (newWorkflow env workflowId 0 approvedRetry 24 72).steps :=
    .tail _ (.tail _ (.head _))
  have hsent : SendsReceipt workflowId (Dict.get (orderPayload (buildRequest step 0
      (case .ACTION_PENDING) (transaction .FAILED) customer [])) "receipt") :=
    ⟨env, 0, approvedRetry, 24, 72, step, hstep, rfl, case .ACTION_PENDING, transaction .FAILED,
      customer, [], rfl⟩
  exact hsent.eq ▸ hsent

/-- Two version 4 ids that differ in their last digit. -/
def firstId : BitVec 128 := 0x9f3c2a7e5b1d4c8ea06f12d34b56c780

def secondId : BitVec 128 := 0x9f3c2a7e5b1d4c8ea06f12d34b56c781

/-- A version 4 id that differs from the first in another digit. -/
def thirdId : BitVec 128 := 0x9f3c2a7e5b1d4c8ea06f12d34b56c790

end Sample

namespace RazorpaySandboxPaymentAdapter

/-- The receipts of the first and the third id differ. -/
theorem receipts_differ_thirdId :
    Json.str (String.ofList (receiptText Sample.firstId.toNat)) ≠
      .str (String.ofList (receiptText Sample.thirdId.toNat)) :=
  (receipts_differ_iff Sample.firstId Sample.thirdId (Sample.sendsReceipt _)
    (Sample.sendsReceipt _)).mpr (by decide)

/-- The orders of two different workflows carry the same receipt. -/
theorem receipts_collide :
    Sample.firstId ≠ Sample.secondId ∧
      UUID.str Sample.firstId.toNat = "9f3c2a7e-5b1d-4c8e-a06f-12d34b56c780" ∧
      UUID.str Sample.secondId.toNat = "9f3c2a7e-5b1d-4c8e-a06f-12d34b56c781" ∧
      ∃ receipt, SendsReceipt Sample.firstId.toNat receipt ∧
        SendsReceipt Sample.secondId.toNat receipt := by
  have hsame : receiptText Sample.firstId.toNat = receiptText Sample.secondId.toNat :=
    (receiptText_inj Sample.firstId Sample.secondId).mpr (by decide)
  have hsecond := Sample.sendsReceipt Sample.secondId.toNat
  rw [← hsame] at hsecond
  exact ⟨by decide, by decide, by decide, _, Sample.sendsReceipt _, hsecond⟩

end RazorpaySandboxPaymentAdapter

end RevenueRescue
