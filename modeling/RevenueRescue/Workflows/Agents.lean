import RevenueRescue.Domain.Models
import RevenueRescue.Base.Text

/-!
# The agent brain

`AgentBrain.reason` asks an injected provider for a decision and checks it against the observation
that the provider was given. Observations and decisions are pydantic models, so each carries the
bounds of its fields; a decision is validated a second time when it is accepted, after its reason
code was normalised.
-/

namespace RevenueRescue

open Python

/-- The text has at least `low` and at most `high` characters. -/
def Fits (low high : ℕ) (text : String) : Prop := low ≤ text.length ∧ text.length ≤ high

instance (low high : ℕ) (text : String) : Decidable (Fits low high text) := by
  unfold Fits; infer_instance

/-- The facts that the provider sees; the status is passed as its text. -/
structure AgentObservation where
  caseId : UUID
  transactionId : UUID
  transactionStatus : TransactionStatus
  amountMinor : ℕ
  currency : Currency
  customerContextAvailable : Bool
  riskReasonCodes : List String
  currentState : RecoveryCaseState
  priorAttemptCount : ℕ
  allowedActions : List ActionType
  reasonsCounted : 1 ≤ riskReasonCodes.length ∧ riskReasonCodes.length ≤ 10
  actionsCounted : 1 ≤ allowedActions.length ∧ allowedActions.length ≤ 10

/-- `AgentDecisionOutput`, whose reason code was normalised after its length was checked. -/
structure AgentDecisionOutput where
  caseId : UUID
  action : ActionType
  reasonCode : String
  rationale : String
  confidence : ℚ
  requiresHumanReview : Bool
  stopReason : Option String
  rationaleFits : Fits 1 2000 rationale
  confidenceFits : 0 ≤ confidence ∧ confidence ≤ 1
  stopReasonFits : ∀ reason ∈ stopReason, Fits 0 500 reason

/-- A decision that passed the checks against its observation. -/
structure ValidatedAgentDecision extends AgentDecisionOutput where
  stopReasonGiven : action = .STOP ↔ truthy stopReason = true

namespace AgentDecisionOutput

/-- `normalize_reason_code`. -/
def normalizeReasonCode (value : String) : String := replaceChar ' ' '_' (lower (strip value))

/-- `ValidatedAgentDecision(**decision.model_dump())`, which checks the reason code once more. -/
def validated (decision : AgentDecisionOutput)
    (h : decision.action = .STOP ↔ truthy decision.stopReason = true) :
    Except Fault ValidatedAgentDecision :=
  if Fits 1 120 decision.reasonCode then
    .ok { decision with
      reasonCode := normalizeReasonCode decision.reasonCode, stopReasonGiven := h }
  else .error (.valueError "ValidationError")

/-- `validate_decision`. -/
def validateDecision (decision : AgentDecisionOutput) (observation : AgentObservation) :
    Except Fault ValidatedAgentDecision :=
  if decision.caseId ≠ observation.caseId then
    .error (.valueError "agent decision case_id does not match observation")
  else if decision.action ∉ observation.allowedActions then
    .error (.valueError ("agent proposed action outside allow-list: " ++ decision.action.value))
  else if hmissing : decision.action = .STOP ∧ truthy decision.stopReason = false then
    .error (.valueError "stop decisions require stop_reason")
  else if hsurplus : decision.action ≠ .STOP ∧ truthy decision.stopReason = true then
    .error (.valueError "stop_reason is only valid for stop decisions")
  else decision.validated (by grind)

end AgentDecisionOutput

/-- `ReasoningProvider.decide`, which may raise. -/
abbrev ReasoningProvider : Type := AgentObservation → Except Fault AgentDecisionOutput

structure AgentBrain where
  provider : ReasoningProvider
  providerName : String := "provider"

structure AgentRunResult where
  decision : ValidatedAgentDecision
  providerName : String

/-- `AgentBrain.reason`. -/
def AgentBrain.reason (brain : AgentBrain) (observation : AgentObservation) :
    Except Fault AgentRunResult := do
  let proposed ← brain.provider observation
  let validated ← proposed.validateDecision observation
  return ⟨validated, brain.providerName⟩

/-- An accepted decision is about the observed case and one of the allowed actions. -/
theorem AgentBrain.permitted_of_reason {brain : AgentBrain} {observation : AgentObservation}
    {result : AgentRunResult} (h : brain.reason observation = .ok result) :
    result.decision.caseId = observation.caseId ∧
      result.decision.action ∈ observation.allowedActions := by
  obtain ⟨proposed, -, h⟩ := Except.bind_eq_ok.mp h
  obtain ⟨decision, hdecision, h⟩ := Except.bind_eq_ok.mp h
  cases h
  unfold AgentDecisionOutput.validateDecision at hdecision
  by_cases hcase : proposed.caseId ≠ observation.caseId
  · rw [if_pos hcase] at hdecision
    cases hdecision
  rw [if_neg hcase] at hdecision
  by_cases haction : proposed.action ∉ observation.allowedActions
  · rw [if_pos haction] at hdecision
    cases hdecision
  rw [if_neg haction] at hdecision
  split at hdecision
  · cases hdecision
  split at hdecision
  · cases hdecision
  unfold AgentDecisionOutput.validated at hdecision
  split at hdecision
  · cases hdecision
    exact ⟨not_not.mp hcase, not_not.mp haction⟩
  · cases hdecision

end RevenueRescue
