import RevenueRescue.Properties.History
import RevenueRescue.Refinement.Reconciliation

/-!
# The transition log can be replayed

Every change of the state of a case has its entry in the log, with the states on both sides,
the next number, the new version and the time, and replaying the log leads to the current
state. The one writer that breaks this is a reconciliation that settles a case which is not
waiting for its verification: it assigns `RECOVERED` and leaves the log, the version and the
time as they were.
-/

namespace RevenueRescue

open Python

/-- What a request does to the cases and their logs. -/
inductive Booked (now : Datetime) (s t : Store) : Prop
  | moved (h : Strokes now s t)
  /-- Cases are edited without a change of state. -/
  | edited (hstates : t.recoveryCases.map RecoveryCase.state = s.recoveryCases.map RecoveryCase.state)
      (hlog : t.transitions = s.transitions)
  /-- A case is opened, with or without an entry that says so. -/
  | opened (row : RecoveryCase) (entries : List CaseStateTransition) (hstate : row.state = .DETECTED)
      (hcases : t.recoveryCases = s.recoveryCases ++ [row])
      (hlog : t.transitions = s.transitions ++ entries)
      (hentries : entries = [] ∨ ∃ entry, entries = [entry] ∧
        entry.caseId = s.recoveryCases.length ∧ entry.fromState = none ∧ entry.sequenceNumber = 1)

variable {now : Datetime} {s t u : Store} {caseId : UUID}

namespace Booked

theorem refl (s : Store) : Booked now s s := .moved .refl

/-- Only the cases and their log matter. -/
theorem of_same {s' t' : Store} (h : Booked now s' t') (hcases : s'.recoveryCases = s.recoveryCases)
    (hlog : s'.transitions = s.transitions) (hcases' : t.recoveryCases = t'.recoveryCases)
    (hlog' : t.transitions = t'.transitions) : Booked now s t := by
  cases h with
  | moved h =>
    have hbefore : Strokes now s s' := .of_same hcases hlog
    have hafter : Strokes now t' t := .of_same hcases' hlog'
    exact .moved (hbefore.trans (h.trans hafter))
  | edited hstates hsame =>
    refine .edited ?_ ?_
    · rw [hcases', hstates, hcases]
    · rw [hlog', hsame, hlog]
  | opened row entries hstate hrows hentered hentries =>
    refine .opened row entries hstate ?_ ?_ ?_
    · rw [hcases', hrows, hcases]
    · rw [hlog', hentered, hlog]
    · rw [← hcases]
      exact hentries

/-- What a request did to a case that was there. -/
theorem journaled (h : Booked now s t) {before : RecoveryCase}
    (hcase : s.recoveryCases[caseId]? = some before) :
    ∃ after entries, t.recoveryCases[caseId]? = some after ∧
      Journaled now s t caseId before after entries := by
  have hnone : ∀ after : RecoveryCase, after.state = before.state →
      t.transitionsOf caseId = s.transitionsOf caseId →
      Journaled now s t caseId before after [] := by
    intro after hstate hlog
    refine ⟨?_, by simp, ?_, rfl, fun hne => absurd rfl hne, fun hne => absurd rfl hne⟩
    · rw [hlog, List.append_nil]
    · rw [List.filterMap_nil, Replay.replay_nil, hstate]
  cases h with
  | moved h =>
    obtain ⟨after, entries, hafter, hjournaled, -⟩ := h.journaled hcase
    exact ⟨after, entries, hafter, hjournaled⟩
  | edited hstates hlog =>
    have hstate : (t.recoveryCases.map RecoveryCase.state)[caseId]? = some before.state := by
      rw [hstates, List.getElem?_map, hcase, Option.map_some]
    rw [List.getElem?_map, Option.map_eq_some_iff] at hstate
    obtain ⟨after, hafter, hsame⟩ := hstate
    refine ⟨after, [], hafter, hnone after hsame ?_⟩
    unfold Store.transitionsOf
    rw [hlog]
  | opened row entries hstate hcases hlog hentries =>
    have hlt := (List.getElem?_eq_some_iff.mp hcase).1
    refine ⟨before, [], ?_, hnone before rfl ?_⟩
    · rw [hcases]
      exact Table.getElem?_append_of_some hcase _
    · rcases hentries with rfl | ⟨entry, rfl, hid, -, -⟩
      · unfold Store.transitionsOf
        rw [hlog, List.append_nil]
      · rw [Store.transitionsOf_append hlog, if_neg, List.append_nil]
        rw [hid]
        exact (Nat.ne_of_lt hlt).symm

end Booked

/-! ## What is always true of the logs -/

/-- Every log is numbered `1, 2, …` and replays to the state of its case. -/
structure Logged (s : Store) : Prop where
  known : ∀ entry ∈ s.transitions, entry.caseId < s.recoveryCases.length
  dense : ∀ caseId, Numbering.Dense (s.transitionNumbers caseId)
  replayed : ∀ caseId case, s.recoveryCases[caseId]? = some case →
    Replay.replay .DETECTED (s.changesOf caseId) = some case.state

theorem Logged.empty : Logged Store.empty :=
  ⟨fun _ h => absurd h List.not_mem_nil, fun _ => Numbering.dense_nil,
    fun caseId case h => absurd h (by simp [Store.empty])⟩

/-- A case without rows has no log. -/
theorem transitionsOf_eq_nil (h : ∀ entry ∈ s.transitions, entry.caseId < s.recoveryCases.length)
    (hid : s.recoveryCases.length ≤ caseId) : s.transitionsOf caseId = [] := by
  unfold Store.transitionsOf
  rw [List.filter_eq_nil_iff]
  intro entry hentry heq
  have hlt := h entry hentry
  rw [beq_iff_eq] at heq
  rw [heq] at hlt
  exact Nat.not_le_of_lt hlt hid

/-- Strokes add no cases, and enter only cases that are there. -/
theorem Strokes.frame (h : Strokes now s t) : t.recoveryCases.length = s.recoveryCases.length ∧
    ((∀ entry ∈ s.transitions, entry.caseId < s.recoveryCases.length) →
      ∀ entry ∈ t.transitions, entry.caseId < t.recoveryCases.length) := by
  have hlength : ∀ v : Store, v.progress.length = v.recoveryCases.length :=
    fun _ => List.length_map _
  induction h with
  | refl => exact ⟨rfl, fun h => h⟩
  | @tail u t _ hstroke ih =>
    obtain ⟨hsame, hknown⟩ := ih
    cases hstroke with
    | quiet hcases hlog =>
      have hrows : t.recoveryCases.length = u.recoveryCases.length := by
        rw [← hlength, hcases, hlength]
      refine ⟨hrows.trans hsame, fun h => ?_⟩
      rw [hlog, hrows]
      exact hknown h
    | moved source version since entry hcase hcases hlog hsource hchange hnumber =>
      have hrows : t.recoveryCases.length = u.recoveryCases.length := by
        rw [← hlength, hcases, List.length_set, hlength]
      refine ⟨hrows.trans hsame, fun h => ?_⟩
      rw [hlog, hrows]
      refine Table.forall_append_one (hknown h) ?_
      rw [← hlength]
      exact (List.getElem?_eq_some_iff.mp hcase).1

/-- What a request adds to the log of a case keeps it dense and leads to the new state. -/
theorem Journaled.logged {before after : RecoveryCase} {entries : List CaseStateTransition}
    (h : Journaled now s t caseId before after entries)
    (hdense : Numbering.Dense (s.transitionNumbers caseId))
    (hreplayed : Replay.replay .DETECTED (s.changesOf caseId) = some before.state) :
    Numbering.Dense (t.transitionNumbers caseId) ∧
      Replay.replay .DETECTED (t.changesOf caseId) = some after.state := by
  unfold Store.transitionNumbers Store.changesOf at *
  rw [h.appended, List.map_append, h.numbered, List.filterMap_append]
  refine ⟨hdense.append_range _, ?_⟩
  rw [Replay.replay_append, hreplayed, Option.bind_some]
  exact h.replayed

/-- A case that was there keeps a log that replays. -/
theorem Booked.old_logged (h : Booked now s t) (hs : Logged s) {before : RecoveryCase}
    (hbefore : s.recoveryCases[caseId]? = some before) :
    Numbering.Dense (t.transitionNumbers caseId) ∧
      ∀ after, t.recoveryCases[caseId]? = some after →
        Replay.replay .DETECTED (t.changesOf caseId) = some after.state := by
  obtain ⟨after, entries, hafter, hjournaled⟩ := h.journaled hbefore
  obtain ⟨hdense, hreplayed⟩ :=
    hjournaled.logged (hs.dense caseId) (hs.replayed caseId before hbefore)
  refine ⟨hdense, fun other hother => ?_⟩
  rw [hafter, Option.some.injEq] at hother
  rw [← hother]
  exact hreplayed

/-- Where no case was added, that is all there is to show. -/
theorem Booked.logged_of_length (h : Booked now s t) (hs : Logged s)
    (hlength : t.recoveryCases.length = s.recoveryCases.length)
    (hknown : ∀ entry ∈ t.transitions, entry.caseId < t.recoveryCases.length) : Logged t := by
  refine ⟨hknown, fun caseId => ?_, fun caseId after hafter => ?_⟩
  · rcases hrow : s.recoveryCases[caseId]? with _ | before
    · have hid : t.recoveryCases.length ≤ caseId := by
        rw [hlength]
        exact List.getElem?_eq_none_iff.mp hrow
      unfold Store.transitionNumbers
      rw [transitionsOf_eq_nil hknown hid]
      exact Numbering.dense_nil
    · exact (h.old_logged hs hrow).1
  · have hlt : caseId < s.recoveryCases.length := by
      rw [← hlength]
      exact (List.getElem?_eq_some_iff.mp hafter).1
    exact (h.old_logged hs (List.getElem?_eq_getElem hlt)).2 after hafter

/-- The entries that were added with a new case are its log, and later ones have none. -/
theorem Logged.transitionsOf_opened (hs : Logged s) {entries : List CaseStateTransition}
    (hlog : t.transitions = s.transitions ++ entries)
    (hentries : ∀ entry ∈ entries, entry.caseId = s.recoveryCases.length)
    (hid : s.recoveryCases.length ≤ caseId) :
    t.transitionsOf caseId = if caseId = s.recoveryCases.length then entries else [] := by
  have hbefore := transitionsOf_eq_nil hs.known hid
  unfold Store.transitionsOf at hbefore ⊢
  rw [hlog, List.filter_append, hbefore, List.nil_append]
  split_ifs with hnew
  · rw [List.filter_eq_self]
    intro entry hentry
    rw [hentries entry hentry, hnew]
    exact beq_self_eq_true _
  · rw [List.filter_eq_nil_iff]
    intro entry hentry heq
    rw [beq_iff_eq, hentries entry hentry] at heq
    exact hnew heq.symm

/-- A new case starts with no log, or with one entry for its first state. -/
theorem Booked.logged_of_opened (h : Booked now s t) (hs : Logged s) {row : RecoveryCase}
    {entries : List CaseStateTransition} (hstate : row.state = .DETECTED)
    (hcases : t.recoveryCases = s.recoveryCases ++ [row])
    (hlog : t.transitions = s.transitions ++ entries)
    (hentries : entries = [] ∨ ∃ entry, entries = [entry] ∧
      entry.caseId = s.recoveryCases.length ∧ entry.fromState = none ∧
        entry.sequenceNumber = 1) : Logged t := by
  have hids : ∀ entry ∈ entries, entry.caseId = s.recoveryCases.length := by
    rcases hentries with rfl | ⟨entry, rfl, hid, -, -⟩
    · exact fun _ hentry => absurd hentry List.not_mem_nil
    · exact List.forall_mem_singleton.mpr hid
  have hnew : t.transitionsOf s.recoveryCases.length = entries := by
    rw [hs.transitionsOf_opened hlog hids (Nat.le_refl _), if_pos rfl]
  refine ⟨?_, fun caseId => ?_, fun caseId after hafter => ?_⟩
  · rw [hlog, hcases, List.length_append, List.length_singleton]
    intro entry hentry
    rcases List.mem_append.mp hentry with hin | hin
    · exact Nat.lt_succ_of_lt (hs.known entry hin)
    · rw [hids entry hin]
      exact Nat.lt_succ_self _
  · unfold Store.transitionNumbers
    rcases Nat.lt_trichotomy caseId s.recoveryCases.length with hlt | rfl | hlt
    · exact (h.old_logged hs (List.getElem?_eq_getElem hlt)).1
    · rw [hnew]
      rcases hentries with rfl | ⟨entry, rfl, -, -, hnumber⟩
      · exact Numbering.dense_nil
      · rw [List.map_singleton, hnumber]
        rfl
    · rw [hs.transitionsOf_opened hlog hids (Nat.le_of_lt hlt), if_neg (Nat.ne_of_gt hlt)]
      exact Numbering.dense_nil
  · rw [hcases] at hafter
    rcases Table.getElem?_append_one hafter with hin | ⟨rfl, rfl⟩
    · rw [← hcases] at hafter
      exact (h.old_logged hs hin).2 after hafter
    · unfold Store.changesOf
      rw [hnew, hstate]
      rcases hentries with rfl | ⟨entry, rfl, -, hsource, -⟩
      · rfl
      · simp [CaseStateTransition.change, hsource]

theorem Booked.logged (h : Booked now s t) (hs : Logged s) : Logged t := by
  cases h with
  | moved h =>
    exact Booked.logged_of_length (.moved h) hs h.frame.1 (h.frame.2 hs.known)
  | edited hstates hlog =>
    have hlength : t.recoveryCases.length = s.recoveryCases.length := by
      have hmapped := congrArg List.length hstates
      rwa [List.length_map, List.length_map] at hmapped
    refine Booked.logged_of_length (.edited hstates hlog : Booked now s t) hs hlength ?_
    rw [hlog, hlength]
    exact hs.known
  | opened row entries hstate hcases hlog hentries =>
    exact Booked.logged_of_opened (.opened row entries hstate hcases hlog hentries : Booked now s t)
      hs hstate hcases hlog hentries

/-! ## Requests -/

namespace EventToCaseEngine

theorem provisioned_strokes (s : Store) (event : CanonicalEventDTO) :
    Strokes now s (provisioned s event) :=
  .of_same (provisioned_recoveryCases s event) (provisioned_transitions s event)

/-- What an event does to the cases and their logs. -/
theorem Delivered.booked {env : Env} {event : CanonicalEventDTO} (h : Delivered env event s t) :
    Booked env.now s t := by
  cases h with
  | ignored _ => exact .refl s
  | unmatched _ _ => exact .moved (provisioned_strokes s event)
  | settled _ _ _ => exact .moved (provisioned_strokes s event)
  | @resolved caseId case _ hmatch hopen =>
    have hcase : (provisioned s event).recoveryCases[caseId]? = some case := by
      rw [provisioned_recoveryCases]
      exact getElem?_of_findExistingCase hmatch
    let entry : CaseStateTransition :=
      { caseId, fromState := some case.state, toState := .RECOVERED
        reasonCode := "PAYMENT_SUCCEEDED_VERIFIED", actorType := .PROVIDER
        occurredAt := env.now.naive
        sequenceNumber := (provisioned s event).nextTransitionNumber caseId }
    have hchange : RecoveryCaseState.RECOVERED ≠ case.state := by
      intro hsame
      rw [← hsame] at hopen
      cases hopen
    have hmoved := Strokes.moved case entry (resolveCase env) hcase rfl rfl hchange rfl
    have hrest := hmoved.trans (Strokes.of_same
      (t := EventToCaseEngine.resolved env (provisioned s event) caseId case (transactionOf s event))
      rfl rfl)
    exact .moved ((provisioned_strokes s event).trans hrest)
  | @updated caseId case count _ _ _ _ _ _ =>
    have hstates := Table.map_modify (g := RecoveryCase.state) (f := updateCase env event count)
      (fun _ => rfl) (provisioned s event).recoveryCases caseId
    refine .edited (hstates.trans ?_) (provisioned_transitions s event)
    rw [provisioned_recoveryCases]
  | uncounted _ _ _ => exact .refl s
  | @opened risk _ _ _ _ =>
    let entry : CaseStateTransition :=
      { caseId := (provisioned s event).recoveryCases.length, fromState := none, toState := .DETECTED
        reasonCode := "AUTOMATIC_EVENT_INGESTION", actorType := .SYSTEM
        occurredAt := env.now.naive, sequenceNumber := 1 }
    have hid : entry.caseId = s.recoveryCases.length :=
      congrArg List.length (provisioned_recoveryCases s event)
    refine .opened (newCase env event (customerOf s event) (transactionOf s event) risk) [entry] rfl
      ?_ ?_ (.inr ⟨entry, rfl, hid, rfl, rfl⟩)
    · rw [← provisioned_recoveryCases s event]
      rfl
    · rw [← provisioned_transitions s event]
      rfl
  | unclassified _ _ _ => exact .refl s
  | refused _ _ _ => exact .refl s

end EventToCaseEngine

theorem EventService.ingestCanonicalEvent_booked (env : Env) (event : CanonicalEventDTO)
    (payloadHash : String) (signatureVerified : Bool) (s : Store) :
    Booked env.now s ((ingestCanonicalEvent env event payloadHash signatureVerified).commit s) := by
  rcases ingestCanonicalEvent_commit env event payloadHash signatureVerified s with
    hkept | ⟨-, -, outcome, u, hrun, hcommit⟩
  · rw [hkept]
    exact .refl s
  · rw [hcommit]
    exact (EventToCaseEngine.delivered_of_ok hrun).booked.of_same rfl rfl rfl rfl

theorem RecoveryCaseService.createCase_booked (env : Env) (uuid4 : UUID)
    (dto : RecoveryCaseCreateDTO) (s : Store) :
    Booked now s ((createCase env uuid4 dto).commit s) := by
  unfold Tx.commit
  rcases hrun : createCase env uuid4 dto s with fault | ⟨caseId, t⟩
  · exact .refl s
  · obtain ⟨-, -, -, -, rfl⟩ := createCase_ok hrun
    exact .opened (toEntity env uuid4 dto) [] rfl rfl (List.append_nil _).symm (.inl rfl)

theorem RecoveryCaseService.updateCase_booked (env : Env) (caseId : UUID)
    (dto : RecoveryCaseUpdateDTO) (actorId : Option String) (s : Store) :
    Booked now s ((updateCase env caseId dto actorId).commit s) := by
  unfold Tx.commit
  rcases hrun : updateCase env caseId dto actorId s with fault | ⟨_, t⟩
  · exact .refl s
  · rcases updateCase_ok hrun with rfl | ⟨case, actorType, -, -, rfl⟩
    · exact .refl t
    · have hstates := Table.map_modify (g := RecoveryCase.state) (f := applyUpdate env dto)
        (fun _ => rfl) s.recoveryCases caseId
      exact .edited hstates rfl

theorem RiskCaseService.detectAndCreateCase_booked (env : Env) (transactionId : UUID) (s : Store) :
    Booked now s ((detectAndCreateCase env transactionId).commit s) := by
  unfold Tx.commit
  rcases hrun : detectAndCreateCase env transactionId s with fault | ⟨_, t⟩
  · exact .refl s
  · rcases detectAndCreateCase_ok hrun with rfl | ⟨_, row, -, -, -, -, -, hstate, -, -, rfl⟩
    · exact .refl t
    · exact .opened row [] hstate rfl (List.append_nil _).symm (.inl rfl)

/-- A request that reconciles a case settles it only while it waits for its verification. -/
def Request.SettlesVerified (w : World) (r : Request) : Prop :=
  ∀ provider autoResolve caseId, r.ask = .operation (.reconcileCase provider autoResolve caseId) →
    PaymentReconciliationService.SettlesVerified provider autoResolve w.db caseId

theorem commitUnlessCrash_booked {α : Type} {env : Env} {x : Service α}
    (h : Booked now s (x.commit s)) : Booked now s (commitUnlessCrash env x s) := by
  unfold commitUnlessCrash
  split
  · exact .refl s
  · exact h

theorem LogsMoves.booked {α : Type} {env : Env} {x : Service α} (h : LogsMoves now s x) :
    Booked now s (commitUnlessCrash env x s) :=
  commitUnlessCrash_booked (.moved h.commit)

theorem LogsMoves.ignoringResult {α : Type} {x : Service α} (h : LogsMoves now s x) :
    LogsMoves now s (RevenueRescue.ignoringResult x) :=
  .bind h fun _ _ _ _ => .of_pure _

/-- A batch reconciles each of its cases while it waits for its verification. -/
theorem PaymentReconciliationService.reconcilePendingCases_strokes (env : Env)
    (provider : UUID → StatusProvider) (limit : ℕ) (s : Store) :
    Strokes env.now s (reconcilePendingCases env provider limit s).1 := by
  refine reconcileEach_rule (P := fun rest u => Strokes env.now s u ∧ rest.Nodup ∧
    ∀ caseId ∈ rest, ∃ case, u.recoveryCases[caseId]? = some case ∧
      case.state = .VERIFICATION_PENDING) (fun _ _ h => h.1) ?_ _
    ⟨.refl, pendingCases_nodup s limit, fun _ h => mem_pendingCases h⟩
  rintro caseId rest u report v ⟨hstrokes, hnodup, hpending⟩ hrun
  obtain ⟨hnot, hrest⟩ := List.nodup_cons.mp hnodup
  have hverified : SettlesVerified (provider caseId) true u caseId := by
    intro case txn providerStatus hcompares _
    obtain ⟨waiting, hrow, hstate⟩ := hpending caseId List.mem_cons_self
    rw [hcompares.1, Option.some.injEq] at hrow
    rw [hrow]
    exact hstate
  have hv : Strokes env.now u v := (reconcileCase_logsMoves hverified).related hrun
  have htouches : Touches caseId u v :=
    (reconcileCase_touches env (provider caseId) true).related hrun
  refine ⟨hstrokes.trans hv, hrest, fun other hother => ?_⟩
  have hne : other ≠ caseId := fun h => hnot (h ▸ hother)
  rw [htouches.others other hne]
  exact hpending other (List.mem_cons_of_mem _ hother)

/-- Every request enters what it does to the state of a case, unless it reconciles a case that is
not waiting for its verification. -/
theorem World.step_booked {config : PolicyConfig} {w : World} {r : Request}
    (hr : r.SettlesVerified w) : Booked r.env.now w.db (w.step config r).db := by
  obtain ⟨env, ask⟩ := r
  cases ask with
  | operation op =>
    cases op with
    | createCustomer row => exact (createCustomer_logsMoves row).ignoringResult.booked
    | updateCustomer customerId dto => exact (updateCustomer_logsMoves customerId dto).booked
    | createCustomerConsent customerId consentType status merchantId expiresAt source =>
      exact (createCustomerConsent_logsMoves ..).ignoringResult.booked
    | revokeCustomerConsent consentId => exact (revokeCustomerConsent_logsMoves env consentId).booked
    | recordTransaction dto => exact (recordTransaction_logsMoves env dto).ignoringResult.booked
    | processEvent event =>
      refine commitUnlessCrash_booked ?_
      rw [Operation.service, ignoringResult_commit]
      exact (EventToCaseEngine.delivered env event w.db).booked
    | ingestEvent event payloadHash signatureVerified =>
      refine commitUnlessCrash_booked ?_
      rw [Operation.service, ignoringResult_commit]
      exact EventService.ingestCanonicalEvent_booked ..
    | createCase uuid4 dto =>
      refine commitUnlessCrash_booked ?_
      rw [Operation.service, ignoringResult_commit]
      exact RecoveryCaseService.createCase_booked ..
    | transitionState caseId dto => exact RecoveryCaseService.transitionState_logsMoves.booked
    | updateCase caseId dto actorId =>
      exact commitUnlessCrash_booked (RecoveryCaseService.updateCase_booked ..)
    | detectAndCreateCase transactionId =>
      refine commitUnlessCrash_booked ?_
      rw [Operation.service, ignoringResult_commit]
      exact RiskCaseService.detectAndCreateCase_booked ..
    | generateRecommendation pipeline caseId =>
      exact IntelligenceOrchestrator.generateRecommendation_logsMoves.ignoringResult.booked
    | evaluate request => exact PolicyEngineService.evaluate_logsMoves.ignoringResult.booked
    | transition caseId toState reasonCode actorType =>
      exact CaseTransitionService.transition_logsMoves.ignoringResult.booked
    | createWorkflow decisionId cooldownHours maxWorkflowHours =>
      exact (createWorkflowForDecision_logsMoves ..).ignoringResult.booked
    | reconcileCase provider autoResolve caseId =>
      exact (PaymentReconciliationService.reconcileCase_logsMoves
        (hr provider autoResolve caseId rfl)).ignoringResult.booked
  | execute workflowId executeAll override provider =>
    have hfollows : Req.Follows (WorkflowExecutionService.logTrace env.now) ⟨w.db, []⟩
        (WorkflowExecutionService.execute env provider workflowId executeAll override) :=
      WorkflowExecutionService.execute_logs
    unfold step executeRequest
    dsimp only
    rcases hrun : WorkflowExecutionService.execute env provider workflowId executeAll override
      ⟨w.db, []⟩ with ⟨sent, fault | ⟨x, session⟩⟩
    · exact .refl w.db
    · dsimp only
      split
      · exact .refl w.db
      · exact .moved (hfollows.done hrun)
  | reconcilePending provider limit =>
    unfold step
    dsimp only
    split
    · exact .refl w.db
    · exact .moved (PaymentReconciliationService.reconcilePendingCases_strokes ..)

/-- In every run whose reconciliations settle cases only while they wait for their verification,
each request enters its changes of state in the log, and the log replays to the current state. -/
theorem transitions_replay (config : PolicyConfig) (requests : List Request)
    (hguard : Run.Guarded (World.step config) (fun w r => r.SettlesVerified w) World.empty
      requests) :
    (∀ before r later, requests = before ++ r :: later → ∀ caseId case,
      (World.empty.run config before).db.recoveryCases[caseId]? = some case →
      ∃ after entries,
        ((World.empty.run config before).step config r).db.recoveryCases[caseId]? = some after ∧
        Journaled r.env.now (World.empty.run config before).db
          ((World.empty.run config before).step config r).db caseId case after entries) ∧
    ∀ caseId case, (World.empty.run config requests).db.recoveryCases[caseId]? = some case →
      Numbering.Dense ((World.empty.run config requests).db.transitionNumbers caseId) ∧
        Replay.replay .DETECTED ((World.empty.run config requests).db.changesOf caseId) =
          some case.state := by
  constructor
  · rintro before r later rfl caseId case hcase
    have hr := ((Run.guarded_append before (r :: later)).mp hguard).2.1
    exact (World.step_booked hr).journaled hcase
  · intro caseId case hcase
    have hlogged : Logged (World.empty.run config requests).db :=
      Run.guarded_invariant (I := fun w : World => Logged w.db)
        (fun w r hr hw => (World.step_booked hr).logged hw) requests hguard .empty
    exact ⟨hlogged.dense caseId, hlogged.replayed caseId case hcase⟩

namespace Sample

/-- A reconciliation of the case for which the provider gives one answer to every query. -/
def reconciled (status : ExecutionStatus) (amountMinor : ℤ) : Request :=
  request (.reconcileCase (fun _ => some ⟨status, "razorpay", some "pay_1", none, amountMinor, "INR",
    none, none, noon, true⟩) true 0)

theorem request_settlesVerified {w : World} {op : Operation}
    (h : ∀ provider autoResolve caseId, op ≠ .reconcileCase provider autoResolve caseId) :
    (request op).SettlesVerified w := by
  intro provider autoResolve caseId hask
  injection hask with hop
  exact absurd hop (h provider autoResolve caseId)

end Sample

/-- A failure and a success of the payment leave a log that replays to `RECOVERED`. -/
theorem transitions_replay_recovered :
    Replay.replay .DETECTED ((World.empty.run .default
      [Sample.failure, Sample.success]).db.changesOf 0) = some .RECOVERED := by
  have hguard : Run.Guarded (World.step .default) (fun w r => r.SettlesVerified w) World.empty
      [Sample.failure, Sample.success] :=
    ⟨Sample.request_settlesVerified (by simp), Sample.request_settlesVerified (by simp), trivial⟩
  have hstate : (World.empty.run .default
      [Sample.failure, Sample.success]).db.recoveryCases[0]?.map RecoveryCase.state =
        some .RECOVERED := by
    decide +kernel
  obtain ⟨case, hcase, hrecovered⟩ := Option.map_eq_some_iff.mp hstate
  rw [← hrecovered]
  exact ((transitions_replay .default _ hguard).2 0 case hcase).2

/-- The provider confirms the payment of a case that was only detected: the reconciliation moves
it to `RECOVERED`, and the log, the version and the time stay as they were. -/
theorem settlement_leaves_no_entry :
    let w := World.empty.run .default [Sample.failure]
    let after := w.step .default (Sample.reconciled .SUCCEEDED 5000)
    w.db.progress = [(.DETECTED, 1, Sample.noon.naive)] ∧
      after.db.progress = [(.RECOVERED, 1, Sample.noon.naive)] ∧
      after.db.transitions = w.db.transitions ∧
      Replay.replay .DETECTED (after.db.changesOf 0) = some .DETECTED := by
  decide +kernel

end RevenueRescue
