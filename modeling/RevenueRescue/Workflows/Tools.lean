import RevenueRescue.Workflows.Agents

/-!
# Controlled tools

The registry of the tools that the vertical workflow may call. Each tool validates the payload
against its own input model and answers with a plan; none of them reaches a provider.
-/

namespace RevenueRescue

open Python

structure ToolContext where
  authorized : Bool := false
  dryRun : Bool := true
  correlationId : String := "phase5-local"
  deriving DecidableEq, Repr

/-- The payload dictionaries, one constructor for each set of keys. -/
inductive ToolPayload where
  | inspect (caseId : UUID)
  | draft (caseId : UUID) (action : ActionType) (rationale idempotencyKey : String)
  | escalate (caseId : UUID) (reason : String) (priority : ℤ)
  deriving DecidableEq, Repr

structure ToolOutput where
  toolName : String
  status : String
  dryRun : Bool
  message : String
  data : Dict

/-- A tool validates its input and then runs. -/
structure ControlledTool where
  name : String
  execute : ToolPayload → ToolContext → Except Fault ToolOutput

/-- `InspectRecoveryContextTool`. -/
def inspectRecoveryContextTool : ControlledTool where
  name := "inspect_recovery_context"
  execute
    | .inspect caseId, context =>
      .ok
        { toolName := "inspect_recovery_context", status := "planned", dryRun := context.dryRun
          message := "Context inspection is represented as a controlled intent in Phase 5."
          data := [("case_id", .str (UUID.str caseId)),
            ("correlation_id", .str context.correlationId)] }
    | _, _ => .error (.valueError "ValidationError")

/-- `DraftRecoveryIntentTool`. -/
def draftRecoveryIntentTool : ControlledTool where
  name := "draft_recovery_intent"
  execute
    | .draft caseId action rationale idempotencyKey, context =>
      if Fits 1 2000 rationale ∧ Fits 1 250 idempotencyKey then
        if context.authorized then
          .ok
            { toolName := "draft_recovery_intent", status := "planned", dryRun := context.dryRun
              message := "Recovery intent recorded as a dry-run plan; no provider was called."
              data := [("case_id", .str (UUID.str caseId)), ("action", .str action.value),
                ("rationale", .str rationale), ("idempotency_key", .str idempotencyKey),
                ("correlation_id", .str context.correlationId)] }
        else
          .ok
            { toolName := "draft_recovery_intent", status := "rejected", dryRun := context.dryRun
              message := "Tool authorization is required before creating a recovery intent."
              data := [("case_id", .str (UUID.str caseId))] }
      else .error (.valueError "ValidationError")
    | _, _ => .error (.valueError "ValidationError")

/-- `EscalateCaseTool`. -/
def escalateCaseTool : ControlledTool where
  name := "escalate_recovery_case"
  execute
    | .escalate caseId reason priority, context =>
      if Fits 1 500 reason ∧ 0 ≤ priority ∧ priority ≤ 100 then
        .ok
          { toolName := "escalate_recovery_case", status := "planned", dryRun := context.dryRun
            message := "Operator escalation planned; no notification was sent."
            data := [("case_id", .str (UUID.str caseId)), ("reason", .str reason),
              ("priority", .int priority), ("correlation_id", .str context.correlationId)] }
      else .error (.valueError "ValidationError")
    | _, _ => .error (.valueError "ValidationError")

structure ToolRegistry where
  tools : List ControlledTool

namespace ToolRegistry

/-- The registry of a constructor that is given no tools. -/
def default : ToolRegistry :=
  ⟨[inspectRecoveryContextTool, draftRecoveryIntentTool, escalateCaseTool]⟩

/-- `ToolRegistry.execute`; of several tools with one name the last is registered. -/
def execute (registry : ToolRegistry) (name : String) (payload : ToolPayload)
    (context : ToolContext) : Except Fault ToolOutput :=
  match registry.tools.reverse.find? (·.name == name) with
  | none => .error (.valueError ("tool is not registered: " ++ name))
  | some tool => tool.execute payload context

end ToolRegistry

end RevenueRescue
