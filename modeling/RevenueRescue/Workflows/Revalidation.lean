import RevenueRescue.Domain.Repositories

/-!
# Revalidation before execution

`WorkflowRevalidationService.revalidate_for_execution`, the checks made on the stored rows
immediately before an action: the state of the case, its transaction, unresolved executions,
the ceiling on attempts and the customer's consent.
-/

namespace RevenueRescue

open Python

structure RevalidationResult where
  allowed : Bool
  reasonCode : String
  message : String
  deriving DecidableEq, Repr

namespace WorkflowRevalidationService

/-- The default ceiling of the constructor. -/
def maxRetryAttempts : ℕ := 4

/-- A refusal with its reason. -/
def refuse (reasonCode message : String) : Except Fault RevalidationResult :=
  .ok ⟨false, reasonCode, message⟩

/-- The answer when every check passes. -/
def allow : Except Fault RevalidationResult :=
  .ok ⟨true, "VALIDATION_PASSED", "All pre-execution guardrails passed."⟩

/-- The consent the retry check reads: the first granted record for recurring billing. -/
def recurringConsent (s : Store) (customerId : UUID) : Option CustomerConsent :=
  s.consents.find? fun c => c.customerId == customerId && c.consentType == .RECURRING_BILLING &&
    c.status == .GRANTED

/-- The consent the reminder check reads: any granted record for email or text messages. -/
def communicationConsent (s : Store) (customerId : UUID) : Option CustomerConsent :=
  s.consents.find? fun c => c.customerId == customerId &&
    (c.consentType == .COMMUNICATION_EMAIL || c.consentType == .COMMUNICATION_SMS) &&
    c.status == .GRANTED

/-- The checks for a payment retry. -/
def revalidateRetry (env : Env) (s : Store) (caseId : UUID) (case : RecoveryCase) :
    Except Fault RevalidationResult :=
  let attemptCount := (s.attemptsOf caseId).length
  if maxRetryAttempts ≤ attemptCount then
    refuse "RETRY_LIMIT_EXCEEDED"
      (s!"Retry attempt count ({attemptCount}) has reached maximum ({maxRetryAttempts}).")
  else
    match recurringConsent s case.customerId with
    | none =>
      refuse "MISSING_RECURRING_CONSENT"
        "No active RECURRING_BILLING consent found for customer."
    | some consent =>
      let revoked :=
        if consent.revokedAt.isSome then
          refuse "CONSENT_REVOKED" "Customer recurring billing consent was revoked."
        else allow
      match consent.expiresAt with
      | none => revoked
      | some expiresAt =>
        -- the stored timestamp is naive and the clock is aware
        match expiresAt.lt? env.now with
        | none => .error .typeError
        | some true =>
          refuse "CONSENT_EXPIRED"
            ("Customer recurring billing consent expired at " ++ expiresAt.isoformat ++ ".")
        | some false => revoked

/-- The checks for a reminder. -/
def revalidateReminder (s : Store) (case : RecoveryCase) : Except Fault RevalidationResult :=
  if (communicationConsent s case.customerId).isNone then
    refuse "MISSING_COMMUNICATION_CONSENT" "No active communication consent found for customer."
  else allow

/-- An execution of the case whose outcome is unresolved. -/
def unknownExecution (s : Store) (caseId : UUID) : Option (UUID × RecoveryExecution) :=
  Table.find? (fun e => e.caseId == caseId && e.status == .UNKNOWN) s.executions

/-- `WorkflowRevalidationService.revalidate_for_execution`. -/
def revalidateForExecution (env : Env) (s : Store) (caseId : UUID) (actionType : ActionType) :
    Except Fault RevalidationResult :=
  match s.recoveryCases[caseId]? with
  | none => refuse "CASE_NOT_FOUND" "RecoveryCase does not exist."
  | some case =>
    if case.state ≠ .ACTION_PENDING then
      refuse "CASE_NOT_ACTION_PENDING" (s!"Case state '{case.state.value}' is not actionable.")
    else if (s.transactions[case.triggerTransactionId]?).any (·.status == .SUCCEEDED) then
      refuse "PAYMENT_ALREADY_SUCCEEDED"
        "Transaction has already succeeded; recovery retry aborted."
    else
      match unknownExecution s caseId with
      | some (executionId, _) =>
        refuse "UNRESOLVED_UNKNOWN_OUTCOME"
          ("Prior execution " ++ UUID.str executionId ++
            " is in UNKNOWN status. Reconciliation required before retrying.")
      | none =>
        match actionType with
        | .RETRY_PAYMENT => revalidateRetry env s caseId case
        | .SEND_REMINDER => revalidateReminder s case
        | _ => allow

end WorkflowRevalidationService

end RevenueRescue
