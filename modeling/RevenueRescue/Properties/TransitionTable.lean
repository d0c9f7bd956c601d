import RevenueRescue.Properties.History
import RevenueRescue.Refinement.RequestMoves

/-!
# One table for all moves

`CaseTransitionService` moves a case only where its table allows it, and so do the executions
and the batches, which move cases through it. The other writers consult no table: an operator's
transition goes anywhere, a success recovers whatever is open, a recommendation skips the
context, an approval skips the recommendation, a final rejection stops any open case, and a
reconciliation recovers what does not wait for its verification.
-/

namespace RevenueRescue

open Python PaymentReconciliationService

/-- Every change of the state of a case is allowed by the table. -/
def FollowsTable (config : PolicyConfig) (w : World) (r : Request) : Prop :=
  ∀ (caseId : UUID) (case after : RecoveryCase), w.db.recoveryCases[caseId]? = some case →
    (w.step config r).db.recoveryCases[caseId]? = some after → after.state ≠ case.state →
    after.state ∈ CaseTransitionService.ALLOWED_TRANSITIONS case.state

/-- A success finds the case it resolves waiting for its verification. -/
def ResolvesVerified (s : Store) (event : CanonicalEventDTO) : Prop :=
  ∀ caseId case, EventToCaseEngine.Resolves s event caseId case →
    case.state = .VERIFICATION_PENDING

/-- The operation asks for no move that the table forbids. -/
def Operation.WithinTable (config : PolicyConfig) (env : Env) (s : Store) : Operation → Prop
  | .processEvent event => ResolvesVerified s event
  | .ingestEvent event _ _ =>
    EventValidator.validate env event = .ok () →
      WebhookEventRepository.find s (lower event.provider) event.externalEventId = none →
      ResolvesVerified s event
  | .transitionState caseId dto =>
    ∀ case, s.recoveryCases[caseId]? = some case → case.state.isTerminal = false →
      case.state ≠ dto.toState →
      dto.toState ∈ CaseTransitionService.ALLOWED_TRANSITIONS case.state
  | .generateRecommendation pipeline caseId =>
    ∀ case, s.recoveryCases[caseId]? = some case → case.state = .DETECTED →
      env.autoflush = true →
      pipeline case s.transactions[case.triggerTransactionId]? s.customers[case.customerId]?
        (s.attemptsOf caseId).length = none
  | .evaluate request =>
    ∀ case recommendation results,
      PolicyEngineService.Decides config env request s case recommendation results →
      ((∀ result ∈ results, result.status = .PASSED) → case.state ≠ .DETECTED) ∧
      (PolicyEngineService.FailsTerminally results →
        case.state ∉ [RecoveryCaseState.CONTEXT_READY, .VERIFICATION_PENDING, .ESCALATED])
  | .reconcileCase provider autoResolve caseId =>
    ∀ case txn, Compares provider s caseId case txn .SUCCEEDED →
      Settles autoResolve case txn .SUCCEEDED → case.state = .VERIFICATION_PENDING
  | _ => True

/-- The request asks for no move that the table forbids, or it is not committed. -/
def Request.WithinTable (config : PolicyConfig) (w : World) (r : Request) : Prop :=
  r.env.crash = false → ∀ op, r.ask = .operation op → op.WithinTable config r.env w.db

variable {config : PolicyConfig} {env : Env} {s : Store} {caseId : UUID} {case : RecoveryCase}
  {move : CaseMove}

/-- A move of the policy that is within the table. -/
theorem PolicyEngineService.Follows.allowed {results : List RuleCheckResult}
    {state toState : RecoveryCaseState} (h : Follows results state toState)
    (hopens : (∀ result ∈ results, result.status = .PASSED) → state ≠ .DETECTED)
    (hstops : FailsTerminally results →
      state ∉ [RecoveryCaseState.CONTEXT_READY, .VERIFICATION_PENDING, .ESCALATED]) :
    toState ∈ CaseTransitionService.ALLOWED_TRANSITIONS state := by
  cases h with
  | approved hpassed hstate =>
    have hlater := hopens hpassed
    revert hstate hlater
    cases state <;> decide
  | escalated hstate =>
    revert hstate
    cases state <;> decide
  | stopped hfails hstate =>
    have hlater := hstops hfails
    revert hstate hlater
    cases state <;> decide

/-- A success is allowed to recover a case that waits for its verification. -/
theorem ResolvesVerified.allowed {event : CanonicalEventDTO} (h : ResolvesVerified s event)
    (hresolves : EventToCaseEngine.Resolves s event caseId case) :
    RecoveryCaseState.RECOVERED ∈ CaseTransitionService.ALLOWED_TRANSITIONS case.state := by
  rw [h caseId case hresolves]
  decide

/-- The moves of an operation within the table are allowed. -/
theorem Operation.Moves.allowed {op : Operation} (h : op.Moves config env s caseId case move)
    (hcase : s.recoveryCases[caseId]? = some case) (hop : op.WithinTable config env s) :
    move.toState ∈ CaseTransitionService.ALLOWED_TRANSITIONS case.state := by
  cases op with
  | processEvent event =>
    obtain ⟨hresolves, rfl⟩ := h
    exact ResolvesVerified.allowed hop hresolves
  | ingestEvent event payloadHash signatureVerified =>
    obtain ⟨hvalid, hnew, hresolves, rfl⟩ := h
    exact (hop hvalid hnew).allowed hresolves
  | transitionState id dto =>
    obtain ⟨rfl, hopen, hdiffers, rfl⟩ := h
    exact hop case hcase hopen hdiffers
  | generateRecommendation pipeline id =>
    obtain ⟨rfl, hdetected, hflush, hanswer, rfl⟩ := h
    exact absurd (hop case hcase hdetected hflush) hanswer
  | evaluate request =>
    obtain ⟨rfl, -, recommendation, results, hdecides, hfollows⟩ := h
    obtain ⟨hopens, hstops⟩ := hop case recommendation results hdecides
    exact hfollows.allowed hopens hstops
  | transition id toState reasonCode actorType =>
    obtain ⟨rfl, hcarries, rfl⟩ := h
    exact hcarries.allowed
  | reconcileCase provider autoResolve id =>
    obtain ⟨rfl, txn, providerStatus, hcompares, ⟨toState, -, hcarries, rfl⟩ |
      ⟨hsettles, hstate, -⟩⟩ := h
    · exact hcarries.allowed
    · obtain rfl : providerStatus = .SUCCEEDED := hsettles.2.2.1
      exact absurd (hop case txn hcompares hsettles) hstate
  | _ => exact h.elim

/-- The moves of a request within the table are allowed. -/
theorem Request.Moves.allowed {w : World} {r : Request}
    (h : r.Moves config w caseId case move)
    (hcase : w.db.recoveryCases[caseId]? = some case) (hr : r.WithinTable config w) :
    move.toState ∈ CaseTransitionService.ALLOWED_TRANSITIONS case.state := by
  obtain ⟨env, ask⟩ := r
  obtain ⟨hcrash, hmoves⟩ := h
  cases ask with
  | operation op => exact Operation.Moves.allowed hmoves hcase (hr hcrash op rfl)
  | execute workflowId executeAll override provider =>
    obtain ⟨-, -, -, hallowed, -⟩ := hmoves
    exact hallowed
  | reconcilePending provider limit =>
    obtain ⟨-, -, -, hcarries, -⟩ := hmoves
    exact hcarries.allowed

/-- In every run of requests within the table, every change of the state of a case is allowed by
the table. -/
theorem moves_follow_table (config : PolicyConfig) (requests : List Request)
    (hguard : Run.Guarded (World.step config) (fun w r => r.WithinTable config w) World.empty
      requests) :
    ∀ before r later, requests = before ++ r :: later →
      FollowsTable config (World.empty.run config before) r := by
  rintro before r later rfl caseId case after hcase hafter hchanged
  obtain ⟨-, hr, -⟩ := (Run.guarded_append before (r :: later)).mp hguard
  obtain ⟨row, hrow, hkept | ⟨move, hmove, hrewrites⟩⟩ :=
    (World.step_casesMoved (World.run_chain config before) r).rows caseId case hcase
  · obtain rfl : row = after := Option.some.inj (hrow.symm.trans hafter)
    exact absurd hkept.1 hchanged
  · obtain rfl : row = after := Option.some.inj (hrow.symm.trans hafter)
    rw [hrewrites.1]
    exact hmove.allowed hcase hr

/-- An operator's transition to a state that the table allows. -/
theorem moves_follow_table_stopped :
    FollowsTable .default (World.empty.run .default [Sample.failure])
      (Sample.request (.transitionState 0 ⟨.STOPPED, "OPERATOR", .OPERATOR⟩)) := by
  refine moves_follow_table .default [Sample.failure,
    Sample.request (.transitionState 0 ⟨.STOPPED, "OPERATOR", .OPERATOR⟩)] ?_ [Sample.failure] _ []
    rfl
  refine ⟨fun _ op hop => ?_, fun _ op hop => ?_, trivial⟩
  · cases hop
    rintro caseId case ⟨htype, -⟩
    exact absurd htype (by decide +kernel)
  · cases hop
    intro case hcase _ _
    have hdetected : ((World.step .default World.empty Sample.failure).db.recoveryCases[0]?).map
        RecoveryCase.state = some .DETECTED := by decide +kernel
    rw [hcase, Option.map_some, Option.some.injEq] at hdetected
    rw [hdetected]
    decide

/-- A success recovers a case that was only detected. -/
theorem success_skips_table :
    let w := World.empty.run .default [Sample.failure]
    (w.db.recoveryCases[0]?).map RecoveryCase.state = some .DETECTED ∧
      ((w.step .default Sample.success).db.recoveryCases[0]?).map RecoveryCase.state =
        some .RECOVERED ∧ ¬FollowsTable .default w Sample.success := by
  intro w
  have hbefore : (w.db.recoveryCases[0]?).map RecoveryCase.state = some .DETECTED := by
    decide +kernel
  have hafter : ((w.step .default Sample.success).db.recoveryCases[0]?).map RecoveryCase.state =
      some .RECOVERED := by decide +kernel
  refine ⟨hbefore, hafter, fun hfollows => ?_⟩
  obtain ⟨case, hcase, hdetected⟩ := Option.map_eq_some_iff.mp hbefore
  obtain ⟨later, hlater, hrecovered⟩ := Option.map_eq_some_iff.mp hafter
  have hallowed := hfollows 0 case later hcase hlater (by rw [hdetected, hrecovered]; decide)
  rw [hdetected, hrecovered] at hallowed
  exact absurd hallowed (by decide)

end RevenueRescue
