import RevenueRescue.Refinement.Evaluations
import RevenueRescue.Refinement.Moves
import RevenueRescue.Refinement.Recommendations
import RevenueRescue.Refinement.Reconciliation
import RevenueRescue.Refinement.Rules
import RevenueRescue.Refinement.World

/-!
# Moves of a case

Six services write the state of a case, and each has its own guard and its own rule for the
closing time. A move says which state is written and whether the closing time is; the moves of
an operation are read off the rows before it. Whatever an operation does, each case keeps its
state and its closing time or is rewritten by one of these moves, and a new case is open.
-/

namespace RevenueRescue

open Python

/-- How a service rewrites a case: its new state, and whether it is closed at the same time. -/
structure CaseMove where
  toState : RecoveryCaseState
  closes : Bool
  deriving DecidableEq, Repr

/-- The case after a move. -/
def CaseMove.Rewrites (now : Datetime) (move : CaseMove) (before after : RecoveryCase) : Prop :=
  after.state = move.toState ∧
    after.closedAt = if move.closes then some now.naive else before.closedAt

/-- What became of the cases: each was left in its state or rewritten by one of the moves, and
the new ones are open. -/
structure CasesMoved (now : Datetime) (moves : UUID → RecoveryCase → CaseMove → Prop)
    (s t : Store) : Prop where
  rows : ∀ (caseId : UUID) (case : RecoveryCase), s.recoveryCases[caseId]? = some case →
    ∃ after, t.recoveryCases[caseId]? = some after ∧
      ((after.state = case.state ∧ after.closedAt = case.closedAt) ∨
        ∃ move, moves caseId case move ∧ move.Rewrites now case after)
  opened : ∀ (caseId : UUID) (after : RecoveryCase), t.recoveryCases[caseId]? = some after →
    s.recoveryCases[caseId]? = none → after.state = .DETECTED ∧ after.closedAt = none

namespace CasesMoved

variable {now : Datetime} {moves moves' : UUID → RecoveryCase → CaseMove → Prop} {s t : Store}
  {caseId : UUID} {case : RecoveryCase} {f : RecoveryCase → RecoveryCase}

theorem of_same (h : t.recoveryCases = s.recoveryCases) : CasesMoved now moves s t := by
  refine ⟨fun id row hrow => ⟨row, ?_, .inl ⟨rfl, rfl⟩⟩, fun id row hrow hnone => ?_⟩
  · rw [h]
    exact hrow
  · rw [h, hnone] at hrow
    cases hrow

/-- More moves allow more. -/
theorem mono (h : CasesMoved now moves s t)
    (hmoves : ∀ id row move, moves id row move → moves' id row move) :
    CasesMoved now moves' s t := by
  refine ⟨fun id row hrow => ?_, h.opened⟩
  obtain ⟨after, hafter, hmoved⟩ := h.rows id row hrow
  exact ⟨after, hafter, hmoved.imp_right fun ⟨move, hmove, hrewrites⟩ =>
    ⟨move, hmoves id row move hmove, hrewrites⟩⟩

/-- One more case. -/
theorem of_append (row : RecoveryCase) (hstate : row.state = .DETECTED)
    (hopen : row.closedAt = none) (h : t.recoveryCases = s.recoveryCases ++ [row]) :
    CasesMoved now moves s t := by
  refine ⟨fun id case hcase => ⟨case, ?_, .inl ⟨rfl, rfl⟩⟩, fun id after hafter hnone => ?_⟩
  · rw [h]
    exact Table.getElem?_append_of_some hcase _
  · rw [h] at hafter
    rcases Table.getElem?_append_one hafter with hold | ⟨-, rfl⟩
    · rw [hold] at hnone
      cases hnone
    · exact ⟨hstate, hopen⟩

/-- One case that is rewritten. -/
theorem of_modify (h : t.recoveryCases = s.recoveryCases.modify caseId f)
    (hf : ∀ case, s.recoveryCases[caseId]? = some case →
      ((f case).state = case.state ∧ (f case).closedAt = case.closedAt) ∨
        ∃ move, moves caseId case move ∧ move.Rewrites now case (f case)) :
    CasesMoved now moves s t := by
  refine ⟨fun id case hcase => ?_, fun id after hafter hnone => ?_⟩
  · by_cases hid : caseId = id
    · subst hid
      exact ⟨f case, by rw [h, List.getElem?_modify_eq, hcase]; rfl, hf case hcase⟩
    · exact ⟨case, by rw [h, List.getElem?_modify_ne _ _ hid]; exact hcase, .inl ⟨rfl, rfl⟩⟩
  · rw [h, List.getElem?_modify, hnone] at hafter
    cases hafter

/-- One case that is moved. -/
theorem of_move (move : CaseMove) (hcase : s.recoveryCases[caseId]? = some case)
    (h : t.recoveryCases = s.recoveryCases.modify caseId f) (hmove : moves caseId case move)
    (hrewrites : move.Rewrites now case (f case)) : CasesMoved now moves s t := by
  refine of_modify h fun row hrow => .inr ⟨move, ?_, ?_⟩
  · obtain rfl : row = case := Option.some.inj (hrow.symm.trans hcase)
    exact hmove
  · obtain rfl : row = case := Option.some.inj (hrow.symm.trans hcase)
    exact hrewrites

end CasesMoved

/-! ## The moves of the operations -/

/-- A success resolves the case. -/
def EventToCaseEngine.Resolves (s : Store) (event : CanonicalEventDTO) (caseId : UUID)
    (case : RecoveryCase) : Prop :=
  cleanType event ∈ CASE_RESOLUTION_EVENTS ∧ matchedCase s event = some (caseId, case) ∧
    case.state.isTerminal = false

/-- A reconciliation moves the case through the transition service, or it assigns `RECOVERED`
where the case does not wait for its verification. -/
def PaymentReconciliationService.Moves (provider : StatusProvider) (autoResolve : Bool)
    (s : Store) (caseId : UUID) (case : RecoveryCase) (move : CaseMove) : Prop :=
  ∃ txn providerStatus, Compares provider s caseId case txn providerStatus ∧
    ((∃ toState, requestedTransition autoResolve case txn providerStatus = some toState ∧
      CaseTransitionService.CarriesOut s caseId toState case ∧ move = ⟨toState, false⟩) ∨
    (Settles autoResolve case txn providerStatus ∧ case.state ≠ .VERIFICATION_PENDING ∧
      move = ⟨.RECOVERED, true⟩))

/-- The move that an operation makes with a case, if it is carried out on these rows. -/
def Operation.Moves (config : PolicyConfig) (env : Env) (s : Store) (caseId : UUID)
    (case : RecoveryCase) (move : CaseMove) : Operation → Prop
  | .processEvent event =>
    EventToCaseEngine.Resolves s event caseId case ∧ move = ⟨.RECOVERED, true⟩
  | .ingestEvent event _ _ =>
    EventValidator.validate env event = .ok () ∧
      WebhookEventRepository.find s (lower event.provider) event.externalEventId = none ∧
      EventToCaseEngine.Resolves s event caseId case ∧ move = ⟨.RECOVERED, true⟩
  | .transitionState id dto =>
    id = caseId ∧ case.state.isTerminal = false ∧ case.state ≠ dto.toState ∧
      move = ⟨dto.toState, dto.toState.isTerminal⟩
  | .generateRecommendation pipeline id =>
    id = caseId ∧ case.state = .DETECTED ∧ env.autoflush = true ∧
      pipeline case s.transactions[case.triggerTransactionId]? s.customers[case.customerId]?
        (s.attemptsOf id).length ≠ none ∧ move = ⟨.AWAITING_DECISION, false⟩
  | .evaluate request =>
    request.caseId = caseId ∧ move.closes = false ∧ ∃ recommendation results,
      PolicyEngineService.Decides config env request s case recommendation results ∧
        PolicyEngineService.Follows results case.state move.toState
  | .transition id toState _ _ =>
    id = caseId ∧ CaseTransitionService.CarriesOut s caseId toState case ∧
      move = ⟨toState, decide (toState = .CLOSED)⟩
  | .reconcileCase provider autoResolve id =>
    id = caseId ∧ PaymentReconciliationService.Moves provider autoResolve s caseId case move
  | _ => False

variable {config : PolicyConfig} {env : Env} {s t : Store} {caseId : UUID}

/-- The cases after a method that is committed or rolled back. -/
theorem CasesMoved.of_commit {α : Type} {moves : UUID → RecoveryCase → CaseMove → Prop}
    {x : Service α} (h : ∀ a t, x s = .ok (a, t) → CasesMoved env.now moves s t) :
    CasesMoved env.now moves s (x.commit s) := by
  unfold Tx.commit
  rcases hrun : x s with fault | ⟨a, t⟩
  · exact .of_same rfl
  · exact h a t hrun

/-! ## Events and operators -/

theorem EventToCaseEngine.Delivered.casesMoved {event : CanonicalEventDTO}
    {moves : UUID → RecoveryCase → CaseMove → Prop} (h : Delivered env event s t)
    (hmoves : ∀ id case, Resolves s event id case → moves id case ⟨.RECOVERED, true⟩) :
    CasesMoved env.now moves s t := by
  have hsame := provisioned_recoveryCases s event
  cases h with
  | ignored _ => exact .of_same rfl
  | unmatched _ _ => exact .of_same hsame
  | settled _ _ _ => exact .of_same hsame
  | @resolved id case htype hmatch hopen =>
    have hcase : s.recoveryCases[id]? = some case := getElem?_of_findExistingCase hmatch
    refine .of_move (f := resolveCase env) ⟨.RECOVERED, true⟩ hcase ?_
      (hmoves id case ⟨htype, hmatch, hopen⟩)
      ⟨rfl, rfl⟩
    exact congrArg (fun rows => rows.modify id (resolveCase env)) hsame
  | @updated id case count _ _ _ _ _ _ =>
    have hcases : (provisioned s event).recoveryCases.modify id (updateCase env event count) =
        s.recoveryCases.modify id (updateCase env event count) :=
      congrArg (fun rows => rows.modify id (updateCase env event count)) hsame
    exact .of_modify hcases fun _ _ => .inl ⟨rfl, rfl⟩
  | uncounted _ _ _ => exact .of_same rfl
  | @opened risk _ _ _ _ =>
    refine .of_append (newCase env event (customerOf s event) (transactionOf s event) risk) rfl rfl ?_
    exact congrArg
      (· ++ [newCase env event (customerOf s event) (transactionOf s event) risk]) hsame
  | unclassified _ _ _ => exact .of_same rfl
  | refused _ _ _ => exact .of_same rfl

theorem EventService.ingestCanonicalEvent_casesMoved (event : CanonicalEventDTO)
    (payloadHash : String) (signatureVerified : Bool) :
    CasesMoved env.now
      (fun id case move => (Operation.ingestEvent event payloadHash signatureVerified).Moves config
        env s id case move) s
      ((ingestCanonicalEvent env event payloadHash signatureVerified).commit s) := by
  rcases ingestCanonicalEvent_commit env event payloadHash signatureVerified s with
    hsame | ⟨hvalid, hnew, outcome, u, hrun, hcommit⟩
  · exact .of_same (congrArg Store.recoveryCases hsame)
  have hdelivered := EventToCaseEngine.delivered_of_ok hrun
  rw [hcommit]
  have hmoved : CasesMoved env.now (fun id case move =>
      (Operation.ingestEvent event payloadHash signatureVerified).Moves config env s id case move)
      (received s event payloadHash signatureVerified) u :=
    hdelivered.casesMoved fun id case hresolves => ⟨hvalid, hnew, hresolves, rfl⟩
  exact ⟨hmoved.rows, hmoved.opened⟩

/-- The transition log's entry for an operator's transition. -/
def RecoveryCaseService.transitionEntry (env : Env) (s : Store) (caseId : UUID)
    (case : RecoveryCase) (dto : CaseStateTransitionDTO) : CaseStateTransition :=
  { caseId, fromState := some case.state, toState := dto.toState, reasonCode := dto.reasonCode
    actorType := dto.actorType, occurredAt := env.now.naive
    sequenceNumber := s.nextTransitionNumber caseId }

/-- The rows after an operator's transition. -/
def RecoveryCaseService.transitioned (env : Env) (s : Store) (caseId : UUID) (case : RecoveryCase)
    (dto : CaseStateTransitionDTO) : Store :=
  { s.modifyCase caseId (applyTransition env dto.toState) with
    transitions := s.transitions ++ [transitionEntry env s caseId case dto]
    auditEvents := s.auditEvents ++
      [nextAudit s env caseId "STATE_TRANSITION" dto.actorType (some case.state)
        (some dto.toState)] }

/-- An operator's transition that ends normally moved an open case. -/
theorem RecoveryCaseService.of_transitionState {dto : CaseStateTransitionDTO} {x : Unit}
    (h : transitionState env caseId dto s = .ok (x, t)) :
    ∃ case, s.recoveryCases[caseId]? = some case ∧ case.state.isTerminal = false ∧
      case.state ≠ dto.toState ∧ t = transitioned env s caseId case dto := by
  unfold transitionState at h
  rw [Tx.get_bind_apply] at h
  rcases hcase : s.recoveryCases[caseId]? with _ | case
  · rw [hcase] at h
    cases h
  rw [hcase] at h
  dsimp only at h
  by_cases hrefused : case.state.isTerminal = true ∨ case.state = dto.toState
  · rw [if_pos hrefused] at h
    cases h
  rw [if_neg hrefused, Tx.modify_bind_apply] at h
  obtain ⟨_, u, hentry, h⟩ := Tx.bind_eq_ok.mp h
  rw [insertTransition_ok hentry, record_apply] at h
  cases h
  obtain ⟨hopen, hdiffers⟩ := not_or.mp hrefused
  exact ⟨case, rfl, Bool.eq_false_of_not_eq_true hopen, hdiffers, rfl⟩

theorem RecoveryCaseService.transitionState_casesMoved (dto : CaseStateTransitionDTO) :
    CasesMoved env.now
      (fun id case move => (Operation.transitionState caseId dto).Moves config env s id case move) s
      ((transitionState env caseId dto).commit s) := by
  refine .of_commit fun _ t h => ?_
  obtain ⟨case, hcase, hopen, hdiffers, rfl⟩ := of_transitionState h
  exact .of_move (f := applyTransition env dto.toState) ⟨dto.toState, dto.toState.isTerminal⟩ hcase
    rfl ⟨rfl, hopen, hdiffers, rfl⟩ ⟨rfl, rfl⟩

/-! ## Recommendations, decisions and transitions -/

theorem IntelligenceOrchestrator.generateRecommendation_casesMoved (pipeline : Pipeline) :
    CasesMoved env.now
      (fun id case move => (Operation.generateRecommendation pipeline caseId).Moves config env s id
        case move) s
      ((generateRecommendation env pipeline caseId).commit s) := by
  refine .of_commit fun _ t h => ?_
  obtain ⟨case, r, hcase, hanswer, hflush, -, rfl⟩ := of_generateRecommendation h
  by_cases hdetected : case.state = .DETECTED
  · have hcases : (recommended env s caseId case r).recoveryCases =
        s.recoveryCases.modify caseId (snapshot r ∘ applyAdvance env) := by
      rw [recommended_detected hdetected]
      exact List.modify_modify_eq _ _ _ _
    exact .of_move ⟨.AWAITING_DECISION, false⟩ hcase hcases
      ⟨rfl, hdetected, hflush hdetected, by rw [hanswer]; exact Option.some_ne_none r, rfl⟩
      ⟨rfl, rfl⟩
  · have hcases : (recommended env s caseId case r).recoveryCases =
        s.recoveryCases.modify caseId (snapshot r) := by
      rw [recommended_open hdetected]
      rfl
    exact .of_modify hcases fun _ _ => .inl ⟨rfl, rfl⟩

theorem PolicyEngineService.evaluate_casesMoved (request : PolicyEvaluationRequest) :
    CasesMoved env.now
      (fun id case move => (Operation.evaluate request).Moves config env s id case move) s
      ((evaluate env config request).commit s) := by
  refine .of_commit fun result t h => ?_
  by_cases hdecides : ∃ case recommendation results,
      Decides config env request s case recommendation results
  swap
  · refine .of_same (congrArg Store.recoveryCases (evaluate_same ?_ h))
    exact fun case recommendation results hd => hdecides ⟨case, recommendation, results, hd⟩
  obtain ⟨case, recommendation, results, hdecides⟩ := hdecides
  rw [hdecides.evaluate_apply] at h
  cases h
  unfold persisted
  dsimp only
  split
  next hmoves =>
    have htarget : ∃ toState, determineFsmTransition (aggregateDecision results).1 case.state
        (aggregateDecision results).2 = some toState := by
      rcases hnone : determineFsmTransition (aggregateDecision results).1 case.state
        (aggregateDecision results).2 with _ | toState
      · refine absurd ?_ hmoves
        unfold stateAfter decision newDecision
        dsimp only
        rw [hnone]
        rfl
      · exact ⟨toState, rfl⟩
    obtain ⟨toState, htarget⟩ := htarget
    have hafter : stateAfter (aggregateDecision results).1 case (aggregateDecision results).2 =
        toState := by
      unfold stateAfter
      rw [htarget]
      rfl
    refine .of_move ⟨toState, false⟩ hdecides.caseRow
      (f := applyTransition env toState) ?_
      ⟨rfl, rfl, recommendation, results, hdecides, follows_of_determineFsmTransition htarget⟩
      ⟨rfl, rfl⟩
    rw [← hafter]
    rfl
  next => exact .of_same rfl

theorem CaseTransitionService.transition_casesMoved (toState : RecoveryCaseState)
    (reasonCode : String) (actorType : ActorType) :
    CasesMoved env.now
      (fun id case move => (Operation.transition caseId toState reasonCode actorType).Moves config
        env s id case move) s
      ((transition env caseId toState reasonCode actorType).commit s) := by
  refine .of_commit fun _ t h => ?_
  obtain ⟨case, hcarries, rfl⟩ := of_transition h
  refine .of_move ⟨toState, decide (toState = .CLOSED)⟩ hcarries.caseRow rfl
    ⟨rfl, hcarries, rfl⟩ ⟨rfl, ?_⟩
  unfold applyTransition
  dsimp only
  by_cases hclosed : toState = .CLOSED
  · rw [if_pos hclosed, decide_eq_true hclosed, if_pos rfl]
  · rw [if_neg hclosed, decide_eq_false hclosed, if_neg Bool.false_ne_true]

/-! ## Reconciliations -/

namespace PaymentReconciliationService

variable {provider : StatusProvider} {autoResolve : Bool} {case : RecoveryCase} {txn : Transaction}
  {providerStatus : ExecutionStatus}

/-- What a resolution did to the cases. -/
inductive Resolution (env : Env) (autoResolve : Bool) (s : Store) (caseId : UUID)
    (case : RecoveryCase) (txn : Transaction) (providerStatus : ExecutionStatus) (t : Store) : Prop
  | kept (hcases : t.recoveryCases = s.recoveryCases)
  | transitioned (toState : RecoveryCaseState)
      (hrequested : requestedTransition autoResolve case txn providerStatus = some toState)
      (hcarries : CaseTransitionService.CarriesOut s caseId toState case)
      (hcases : t.recoveryCases = s.recoveryCases.modify caseId
        (CaseTransitionService.applyTransition env toState))
  | assigned (hsettles : Settles autoResolve case txn providerStatus)
      (hstate : case.state ≠ .VERIFICATION_PENDING)
      (hcases : t.recoveryCases = s.recoveryCases.modify caseId fun c =>
        { c with state := .RECOVERED, closedAt := some env.now.naive })

theorem compareAndResolve_resolution {result : List String × Option String}
    (hcase : s.recoveryCases[caseId]? = some case)
    (h : compareAndResolve env autoResolve caseId case txn providerStatus s = .ok (result, t)) :
    Resolution env autoResolve s caseId case txn providerStatus t := by
  obtain ⟨hcarries, -, rfl⟩ := (compareAndResolve_eq_ok hcase).mp h
  unfold resolvedRows
  dsimp only
  rcases hrequested : requestedTransition autoResolve case txn providerStatus with _ | toState
  · dsimp only
    by_cases hsettles : Settles autoResolve case txn providerStatus
    · rw [if_pos hsettles]
      refine .assigned hsettles (fun hverifying => ?_) ?_
      · -- the transition would have been asked for
        obtain ⟨hauto, hunresolved, hsucceeded, -⟩ := hsettles
        simp only [requestedTransition, hauto, if_true, if_pos (And.intro hunresolved hsucceeded),
          if_pos hverifying] at hrequested
        cases hrequested
      · exact congrArg (fun rows => rows.modify caseId (assignRecovered env))
          settledRows_recoveryCases
    · rw [if_neg hsettles]
      exact .kept settledRows_recoveryCases
  · refine .transitioned toState hrequested (hcarries toState hrequested) ?_
    exact congrArg (fun rows => rows.modify caseId
      (CaseTransitionService.applyTransition env toState)) settledRows_recoveryCases

/-- A reconciliation that ends normally compared the case with an answer and resolved it. -/
theorem reconcileCase_resolution {report : ReconciliationReport}
    (h : reconcileCase env provider autoResolve caseId s = .ok (report, t)) :
    ∃ case txn providerStatus, Compares provider s caseId case txn providerStatus ∧
      Resolution env autoResolve s caseId case txn providerStatus t := by
  unfold reconcileCase at h
  rw [Tx.get_bind_apply] at h
  rcases hcase : s.recoveryCases[caseId]? with _ | case
  · rw [hcase] at h
    cases h
  rw [hcase] at h
  dsimp only at h
  rcases htxn : s.transactions[case.triggerTransactionId]? with _ | txn
  · rw [htxn] at h
    cases h
  rw [htxn] at h
  dsimp only at h
  rcases hanswer : providerStatusOf provider (providerReference s caseId txn)
    with fault | providerStatus
  · rw [hanswer] at h
    cases h
  rw [hanswer] at h
  obtain ⟨_, u, hcompare, h⟩ := Tx.bind_eq_ok.mp h
  obtain ⟨_, v, hrecord, h⟩ := Tx.bind_eq_ok.mp h
  cases h
  have hresolution := compareAndResolve_resolution hcase hcompare
  unfold recordReconciled at hrecord
  rw [Tx.get_bind_apply] at hrecord
  rw [insertAudit_ok hrecord]
  refine ⟨case, txn, providerStatus, ⟨hcase, htxn, hanswer⟩, ?_⟩
  cases hresolution with
  | kept hcases => exact .kept hcases
  | transitioned toState hrequested hcarries hcases =>
    exact .transitioned toState hrequested hcarries hcases
  | assigned hsettles hstate hcases => exact .assigned hsettles hstate hcases

/-- A requested transition never closes a case. -/
theorem requestedTransition_ne_closed {toState : RecoveryCaseState}
    (h : requestedTransition autoResolve case txn providerStatus = some toState) :
    toState ≠ .CLOSED := by
  unfold requestedTransition at h
  split_ifs at h <;> cases h <;> decide

/-- The moves of a resolution. -/
theorem Resolution.casesMoved {moves : UUID → RecoveryCase → CaseMove → Prop}
    (h : Resolution env autoResolve s caseId case txn providerStatus t)
    (hcompares : Compares provider s caseId case txn providerStatus)
    (hmoves : ∀ move, Moves provider autoResolve s caseId case move → moves caseId case move) :
    CasesMoved env.now moves s t := by
  cases h with
  | kept hcases => exact .of_same hcases
  | transitioned toState hrequested hcarries hcases =>
    refine .of_move ⟨toState, false⟩ hcompares.1 hcases
      (hmoves _ ⟨txn, providerStatus, hcompares, .inl ⟨toState, hrequested, hcarries, rfl⟩⟩)
      ⟨rfl, ?_⟩
    exact if_neg (requestedTransition_ne_closed hrequested)
  | assigned hsettles hstate hcases =>
    exact .of_move ⟨.RECOVERED, true⟩ hcompares.1 hcases
      (hmoves _ ⟨txn, providerStatus, hcompares, .inr ⟨hsettles, hstate, rfl⟩⟩) ⟨rfl, rfl⟩

theorem reconcileCase_casesMoved :
    CasesMoved env.now
      (fun id case move => (Operation.reconcileCase provider autoResolve caseId).Moves config env s
        id case move) s
      ((reconcileCase env provider autoResolve caseId).commit s) := by
  refine .of_commit fun report t h => ?_
  obtain ⟨case, txn, providerStatus, hcompares, hresolution⟩ := reconcileCase_resolution h
  exact hresolution.casesMoved hcompares fun move hmove => ⟨rfl, hmove⟩

end PaymentReconciliationService

/-! ## All operations -/

/-- The cases are the same. -/
abbrev SameCases (s t : Store) : Prop := t.recoveryCases = s.recoveryCases

instance : Std.Refl SameCases := ⟨fun _ => rfl⟩

/-- The check of a unique constraint in front of a write. -/
theorem requireFree_set_respects {α : Type} {R : Store → Store → Prop} {taken : Bool}
    {constraint : Constraint} {a : α} (h : R s t) :
    Tx.Respects R s (do
      requireFree taken constraint
      set t
      return a) := by
  refine .of_ok fun b u hrun => ?_
  rw [requireFree_bind_apply] at hrun
  split at hrun
  · cases hrun
  · cases hrun
    exact h

/-- Accounts, transactions and workflows are written one table at a time, so a preorder that does
not see these tables is respected. -/
theorem Operation.respects {R : Store → Store → Prop} [Std.Refl R] {op : Operation}
    (hcustomers : ∀ customers, R s { s with customers })
    (hconsents : ∀ consents, R s { s with consents })
    (htransactions : ∀ transactions, R s { s with transactions })
    (hworkflows : ∀ workflows, R s { s with workflows })
    (h : match op with
      | .createCustomer _ | .updateCustomer _ _ | .createCustomerConsent _ _ _ _ _ _
      | .revokeCustomerConsent _ | .recordTransaction _ | .createWorkflow _ _ _ => True
      | _ => False) :
    R s ((op.service config env).commit s) := by
  cases op with
  | createCustomer row =>
    rw [Operation.service, World.ignoringResult_commit]
    refine Tx.Respects.commit (.get_bind (.ite (fun _ => .throw_bind) fun _ => ?_))
    exact .get_bind (requireFree_set_respects (hcustomers _))
  | updateCustomer customerId dto =>
    refine Tx.Respects.commit (.get_bind (.ite (fun _ => .throw_bind) fun _ => ?_))
    exact .of_set (hcustomers _)
  | createCustomerConsent customerId consentType status merchantId expiresAt source =>
    rw [Operation.service, World.ignoringResult_commit]
    exact Tx.Respects.commit (.get_bind (.get_bind (requireFree_set_respects (hconsents _))))
  | revokeCustomerConsent consentId =>
    refine Tx.Respects.commit (.get_bind (.ite (fun _ => .throw_bind) fun _ => ?_))
    exact .of_set (hconsents _)
  | recordTransaction dto =>
    rw [Operation.service, World.ignoringResult_commit]
    refine Tx.Respects.commit (.get_bind (.ite (fun _ => .throw_bind) fun _ =>
      .ite (fun _ => .throw_bind) fun _ => ?_))
    exact .get_bind (requireFree_set_respects (htransactions _))
  | createWorkflow decisionId cooldownHours maxWorkflowHours =>
    rw [Operation.service, World.ignoringResult_commit]
    refine Tx.Respects.commit (.of_ok fun _ _ hrun => ?_)
    obtain ⟨_, _, rfl⟩ := WorkflowCreationService.createWorkflowForDecision_ok hrun
    exact hworkflows _
  | _ => exact h.elim

/-- Every operation leaves a case as it is or makes its move with it. -/
theorem Operation.casesMoved (config : PolicyConfig) (env : Env) (s : Store) (op : Operation) :
    CasesMoved env.now (fun id case move => op.Moves config env s id case move) s
      ((op.service config env).commit s) := by
  cases op with
  | processEvent event =>
    rw [Operation.service, World.ignoringResult_commit]
    exact (EventToCaseEngine.delivered env event s).casesMoved fun _ _ hresolves => ⟨hresolves, rfl⟩
  | ingestEvent event payloadHash signatureVerified =>
    rw [Operation.service, World.ignoringResult_commit]
    exact EventService.ingestCanonicalEvent_casesMoved event payloadHash signatureVerified
  | createCase uuid4 dto =>
    rw [Operation.service, World.ignoringResult_commit]
    refine .of_commit fun _ t h => ?_
    obtain ⟨-, -, -, -, rfl⟩ := RecoveryCaseService.createCase_ok h
    exact .of_append (RecoveryCaseService.toEntity env uuid4 dto) rfl rfl rfl
  | transitionState caseId dto => exact RecoveryCaseService.transitionState_casesMoved dto
  | updateCase caseId dto actorId =>
    refine .of_commit fun _ t h => ?_
    rcases RecoveryCaseService.updateCase_ok h with rfl | ⟨case, actorType, -, -, rfl⟩
    · exact .of_same rfl
    · exact .of_modify (f := RecoveryCaseService.applyUpdate env dto) rfl
        fun _ _ => .inl ⟨rfl, rfl⟩
  | detectAndCreateCase transactionId =>
    rw [Operation.service, World.ignoringResult_commit]
    refine .of_commit fun _ t h => ?_
    rcases RiskCaseService.detectAndCreateCase_ok h with
      rfl | ⟨_, row, -, -, -, -, -, hstate, hopen, -, rfl⟩
    · exact .of_same rfl
    · exact .of_append row hstate hopen rfl
  | generateRecommendation pipeline caseId =>
    rw [Operation.service, World.ignoringResult_commit]
    exact IntelligenceOrchestrator.generateRecommendation_casesMoved pipeline
  | evaluate request =>
    rw [Operation.service, World.ignoringResult_commit]
    exact PolicyEngineService.evaluate_casesMoved request
  | transition caseId toState reasonCode actorType =>
    rw [Operation.service, World.ignoringResult_commit]
    exact CaseTransitionService.transition_casesMoved toState reasonCode actorType
  | reconcileCase provider autoResolve caseId =>
    rw [Operation.service, World.ignoringResult_commit]
    exact PaymentReconciliationService.reconcileCase_casesMoved
  | _ =>
    refine .of_same (Operation.respects (R := SameCases) (fun _ => rfl) (fun _ => rfl)
      (fun _ => rfl) (fun _ => rfl) ?_)
    exact trivial

end RevenueRescue
