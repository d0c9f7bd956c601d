import RevenueRescue.Properties.Retries
import RevenueRescue.Refinement.RequestMoves

/-!
# Closing times

Every writer of the state of a case has its own rule for the closing time. The engine and the
direct reconciliation write it with `RECOVERED`, an operator writes it with every final state,
the transition service only with `CLOSED`, and the policy never. The closing time tells the
final cases from the open ones as long as no case reaches `RECOVERED` or `STOPPED` through the
transition service or the policy.
-/

namespace RevenueRescue

open Python PaymentReconciliationService

/-- A case has a closing time exactly when its state is final. -/
def RecoveryCase.ClosedOnTime (case : RecoveryCase) : Prop :=
  case.closedAt ≠ none ↔
    case.state = .RECOVERED ∨ case.state = .STOPPED ∨ case.state = .CLOSED

/-- All cases have a closing time exactly when their state is final. -/
def ClosesOnTime (s : Store) : Prop :=
  ∀ case ∈ s.recoveryCases, case.ClosedOnTime

/-- The operation moves no case to `RECOVERED` or `STOPPED` without the closing time. -/
def Operation.ClosesOnTime (config : PolicyConfig) (env : Env) (s : Store) : Operation → Prop
  | .evaluate request =>
    ∀ case recommendation results,
      PolicyEngineService.Decides config env request s case recommendation results →
      case.state.isTerminal = false → ¬PolicyEngineService.FailsTerminally results
  | .transition caseId toState _ _ =>
    ∀ case, CaseTransitionService.CarriesOut s caseId toState case →
      toState ≠ .RECOVERED ∧ toState ≠ .STOPPED
  | .reconcileCase provider autoResolve caseId =>
    ∀ case txn, Compares provider s caseId case txn .SUCCEEDED →
      Settles autoResolve case txn .SUCCEEDED → case.state = .VERIFICATION_PENDING →
      ¬CaseTransitionService.CarriesOut s caseId .RECOVERED case
  | _ => True

/-- The request moves no case to `RECOVERED` or `STOPPED` without the closing time, or it is not
committed. -/
def Request.ClosesOnTime (config : PolicyConfig) (w : World) (r : Request) : Prop :=
  r.env.crash = false →
    match r.ask with
    | .operation op => op.ClosesOnTime config r.env w.db
    | .execute workflowId executeAll _ _ =>
      ∀ workflow case, ¬WorkflowExecutionService.StopsCase r.env w.db workflowId executeAll
        workflow case
    | .reconcilePending provider limit =>
      ∀ caseId ∈ pendingCases w.db limit, ∀ case txn,
        Compares (provider caseId) w.db caseId case txn .SUCCEEDED → Unresolved txn →
        ¬CaseTransitionService.CarriesOut w.db caseId .RECOVERED case

variable {config : PolicyConfig} {env : Env} {s : Store} {caseId : UUID} {case after : RecoveryCase}
  {move : CaseMove}

/-- The final states are the terminal ones. -/
theorem RecoveryCase.closedOnTime_iff :
    case.ClosedOnTime ↔ case.closedAt.isSome = case.state.isTerminal := by
  unfold RecoveryCase.ClosedOnTime
  cases case.closedAt <;> cases case.state <;> simp [RecoveryCaseState.isTerminal]

/-- A move that closes the case does so in a final state, and one that does not stays among the
open states or among the final ones. -/
def CaseMove.OnTime (move : CaseMove) (case : RecoveryCase) : Prop :=
  if move.closes then move.toState.isTerminal = true
  else move.toState.isTerminal = case.state.isTerminal

/-- Such a move keeps the closing time right. -/
theorem CaseMove.OnTime.kept {now : Datetime} (h : move.OnTime case) (hcase : case.ClosedOnTime)
    (hrewrites : move.Rewrites now case after) : after.ClosedOnTime := by
  rw [RecoveryCase.closedOnTime_iff] at hcase ⊢
  obtain ⟨hstate, hclosed⟩ := hrewrites
  unfold CaseMove.OnTime at h
  rw [hstate, hclosed]
  cases hcloses : move.closes with
  | true =>
    rw [hcloses, if_pos rfl] at h
    rw [if_pos rfl, h]
    rfl
  | false =>
    rw [hcloses, if_neg Bool.false_ne_true] at h
    rw [if_neg Bool.false_ne_true, h, hcase]

/-- The table leads from an open state to an open one, save for three moves. -/
theorem CaseTransitionService.isTerminal_of_allowed {state toState : RecoveryCaseState}
    (h : toState ∈ ALLOWED_TRANSITIONS state) (hrecovered : toState ≠ .RECOVERED)
    (hstopped : toState ≠ .STOPPED) (hclosed : toState ≠ .CLOSED) :
    toState.isTerminal = state.isTerminal := by
  revert h hrecovered hstopped hclosed
  cases state <;> cases toState <;> decide

/-- A decision that does not stop the case leaves it open. -/
theorem PolicyEngineService.Follows.isTerminal {results : List RuleCheckResult}
    {state toState : RecoveryCaseState} (h : Follows results state toState)
    (hstops : state.isTerminal = false → ¬FailsTerminally results) :
    toState.isTerminal = state.isTerminal := by
  cases h with
  | approved _ hstate =>
    revert hstate
    cases state <;> decide
  | escalated hstate =>
    revert hstate
    cases state <;> decide
  | stopped hfails hstate =>
    have hopen : state.isTerminal = false := by
      revert hstate
      cases state <;> decide
    exact absurd hfails (hstops hopen)

/-- The moves of an operation that closes on time. -/
theorem Operation.Moves.onTime {op : Operation} (h : op.Moves config env s caseId case move)
    (hop : op.ClosesOnTime config env s) : move.OnTime case := by
  cases op with
  | processEvent event =>
    obtain ⟨-, rfl⟩ := h
    rfl
  | ingestEvent event payloadHash signatureVerified =>
    obtain ⟨-, -, -, rfl⟩ := h
    rfl
  | transitionState id dto =>
    obtain ⟨-, hopen, -, rfl⟩ := h
    unfold CaseMove.OnTime
    dsimp only
    cases hfinal : dto.toState.isTerminal with
    | true => rfl
    | false => exact hopen.symm
  | generateRecommendation pipeline id =>
    obtain ⟨-, hdetected, -, -, rfl⟩ := h
    unfold CaseMove.OnTime
    rw [hdetected]
    rfl
  | evaluate request =>
    obtain ⟨-, hcloses, recommendation, results, hdecides, hfollows⟩ := h
    unfold CaseMove.OnTime
    rw [hcloses]
    exact hfollows.isTerminal (hop case recommendation results hdecides)
  | transition id toState reasonCode actorType =>
    obtain ⟨rfl, hcarries, rfl⟩ := h
    obtain ⟨hrecovered, hstopped⟩ := hop case hcarries
    unfold CaseMove.OnTime
    dsimp only
    by_cases hclosed : toState = .CLOSED
    · subst hclosed
      rfl
    · rw [decide_eq_false hclosed, if_neg Bool.false_ne_true]
      exact CaseTransitionService.isTerminal_of_allowed hcarries.allowed hrecovered hstopped hclosed
  | reconcileCase provider autoResolve id =>
    obtain ⟨rfl, txn, providerStatus, hcompares, ⟨toState, hrequested, hcarries, rfl⟩ |
      ⟨-, -, rfl⟩⟩ := h
    · have hmove : toState.isTerminal = case.state.isTerminal := by
        unfold requestedTransition at hrequested
        split_ifs at hrequested with hauto hsettles hverifying hfails hverifying hescalates
        · obtain ⟨hunresolved, rfl⟩ := hsettles
          cases hrequested
          have hstate : case.state ∉ [RecoveryCaseState.RECOVERED, .CLOSED] := by
            rw [hverifying]
            decide
          exact absurd hcarries (hop case txn hcompares ⟨hauto, hunresolved, rfl, hstate⟩ hverifying)
        · cases hrequested
          rw [hverifying]
          rfl
        · cases hrequested
          exact CaseTransitionService.isTerminal_of_allowed hcarries.allowed (by decide) (by decide)
            (by decide)
      exact hmove
    · rfl
  | _ => exact h.elim

/-- The moves of a request that closes on time. -/
theorem Request.Moves.onTime {w : World} {r : Request} (h : r.Moves config w caseId case move)
    (hr : r.ClosesOnTime config w) : move.OnTime case := by
  obtain ⟨env, ask⟩ := r
  obtain ⟨hcrash, hmoves⟩ := h
  have hgood := hr hcrash
  cases ask with
  | operation op => exact Operation.Moves.onTime hmoves hgood
  | execute workflowId executeAll override provider =>
    obtain ⟨workflow, -, -, hallowed, hcloses, ⟨-, hstops⟩ | htarget⟩ := hmoves
    · exact absurd hstops (hgood workflow case)
    · have hopen : move.toState.isTerminal = case.state.isTerminal := by
        refine CaseTransitionService.isTerminal_of_allowed hallowed ?_ ?_ ?_ <;>
          rintro hstate <;> rw [hstate] at htarget <;> exact absurd htarget (by decide)
      unfold CaseMove.OnTime
      rw [hcloses]
      exact hopen
  | reconcilePending provider limit =>
    obtain ⟨hselected, hverifying, hcloses, hcarries, hconfirmed⟩ := hmoves
    have hopen : move.toState.isTerminal = case.state.isTerminal := by
      refine CaseTransitionService.isTerminal_of_allowed hcarries.allowed ?_ ?_ ?_
      · intro hrecovered
        obtain ⟨txn, hcompares, hunresolved⟩ := hconfirmed hrecovered
        rw [hrecovered] at hcarries
        exact hgood caseId hselected case txn hcompares hunresolved hcarries
      all_goals
        intro hstate
        have hallowed := hcarries.allowed
        rw [hstate, hverifying] at hallowed
        exact absurd hallowed (by decide)
    unfold CaseMove.OnTime
    rw [hcloses]
    exact hopen

/-- A request that closes on time keeps the closing times right. -/
theorem World.step_closesOnTime {w : World} {r : Request} (hchain : Chain config w.db)
    (hr : r.ClosesOnTime config w) (h : ClosesOnTime w.db) :
    ClosesOnTime (w.step config r).db := by
  intro after hafter
  obtain ⟨caseId, hrow⟩ := List.mem_iff_getElem?.mp hafter
  have hmoved := World.step_casesMoved hchain r
  rcases hcase : w.db.recoveryCases[caseId]? with _ | case
  · obtain ⟨hstate, hopen⟩ := hmoved.opened caseId after hrow hcase
    rw [RecoveryCase.closedOnTime_iff, hstate, hopen]
    rfl
  have hbefore : case.ClosedOnTime := h case (List.mem_of_getElem? hcase)
  obtain ⟨row, hrow', hkept | ⟨move, hmove, hrewrites⟩⟩ := hmoved.rows caseId case hcase
  · obtain rfl : row = after := Option.some.inj (hrow'.symm.trans hrow)
    rw [RecoveryCase.closedOnTime_iff] at hbefore ⊢
    rw [hkept.1, hkept.2, hbefore]
  · obtain rfl : row = after := Option.some.inj (hrow'.symm.trans hrow)
    exact (hmove.onTime hr).kept hbefore hrewrites

/-- In every run whose requests close on time, the cases with a closing time are the final
ones. -/
theorem closed_exactly_when_final (config : PolicyConfig) (requests : List Request)
    (hguard : Run.Guarded (World.step config) (fun w r => r.ClosesOnTime config w) World.empty
      requests) :
    ClosesOnTime (World.empty.run config requests).db := by
  have hreached : Chain config (World.empty.run config requests).db ∧
      ClosesOnTime (World.empty.run config requests).db := by
    refine Run.guarded_invariant (I := fun w : World => Chain config w.db ∧ ClosesOnTime w.db)
      (fun w r hr hw => ?_) requests hguard ⟨.empty config, fun _ h => by cases h⟩
    exact ⟨(World.step_writes config w r).chain hw.1, World.step_closesOnTime hw.1 hr hw.2⟩
  exact hreached.2

/-- An operator stops a case. -/
theorem closed_exactly_when_final_stopped :
    ClosesOnTime (World.empty.run .default [Sample.failure,
      Sample.request (.transitionState 0 ⟨.STOPPED, "OPERATOR", .OPERATOR⟩)]).db := by
  refine closed_exactly_when_final .default _ ⟨fun _ => trivial, fun _ => trivial, trivial⟩

namespace Sample

/-- The payment failed because the card is reported as stolen. -/
def stolen : Request :=
  request (.processEvent { event "evt_1" "PAYMENT_FAILED" with failureCode := some "stolen_card" })

end Sample

/-- The policy rejects the retry for good and stops the case, and its closing time stays empty. -/
theorem rejection_leaves_case_unclosed :
    let w := World.empty.run .default [Sample.stolen, Sample.consented, Sample.recommended,
      Sample.approved]
    w.db.policyDecisions.map (fun decision => (decision.decisionStatus, decision.reasonsJson)) =
        [(.REJECTED, ["RETRY_NOT_SUPPORTED"])] ∧
      w.db.recoveryCases.map (fun case => (case.state, case.closedAt)) = [(.STOPPED, none)] ∧
      ¬ClosesOnTime w.db := by
  intro w
  have hcases : w.db.recoveryCases.map (fun case => (case.state, case.closedAt)) =
      [(.STOPPED, none)] := by decide +kernel
  refine ⟨by decide +kernel, hcases, fun hontime => ?_⟩
  obtain ⟨case, hcase, hstopped⟩ : ∃ case ∈ w.db.recoveryCases,
      (case.state, case.closedAt) = (RecoveryCaseState.STOPPED, none) := by
    rw [← List.mem_map, hcases]
    exact List.mem_cons_self
  obtain ⟨hstate, hopen⟩ := Prod.mk.inj hstopped
  exact (hontime case hcase).mpr (.inr (.inl hstate)) hopen

end RevenueRescue
