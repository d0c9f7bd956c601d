import RevenueRescue.Properties.Transitions
import RevenueRescue.Refinement.Chain

/-!
# Evidence for a recovery

A case is moved into `RECOVERED` by a success event, by a reconciliation or by a transition
that somebody asks for. None of the three looks at the amount that was paid: the event and
the answer of the provider are read for their status only, and the transition asks for no
evidence at all. Where nobody asks for that transition, and where the provider names the
amount and the currency of the trigger transaction whenever it confirms a payment, every
recovery has its evidence.
-/

namespace RevenueRescue

open Python EventToCaseEngine PaymentReconciliationService

variable {A : Authority} {s t : Store} {caseId : UUID}

/-- The amount and the currency of the transaction. -/
def Names (txn : Transaction) (amountMinor : ℤ) (currency : String) : Prop :=
  amountMinor = txn.amountMinor ∧ currency = txn.currency.code

/-- What a request brings along that shows the trigger transaction of a case to be paid in full:
a success event for the case, or a success as the answer to the query for it. -/
inductive Evidence (s : Store) (caseId : UUID) (txn : Transaction) : Ask → Prop
  | processed {event : CanonicalEventDTO} {case : RecoveryCase}
      (htype : cleanType event ∈ CASE_RESOLUTION_EVENTS)
      (hmatch : matchedCase s event = some (caseId, case))
      (hnames : Names txn event.amountMinor event.currency.code) :
    Evidence s caseId txn (.operation (.processEvent event))
  | ingested {event : CanonicalEventDTO} {payloadHash : String} {signatureVerified : Bool}
      {case : RecoveryCase} (htype : cleanType event ∈ CASE_RESOLUTION_EVENTS)
      (hmatch : matchedCase s event = some (caseId, case))
      (hnames : Names txn event.amountMinor event.currency.code) :
    Evidence s caseId txn (.operation (.ingestEvent event payloadHash signatureVerified))
  | reconciled {provider : StatusProvider} {autoResolve : Bool} {ref : String}
      {answer : ExecutionResult} (href : providerReference s caseId txn = some ref)
      (hanswer : provider ref = some answer) (hstatus : answer.status = .SUCCEEDED)
      (hnames : Names txn answer.amountMinor answer.currency) :
    Evidence s caseId txn (.operation (.reconcileCase provider autoResolve caseId))
  | batch {provider : UUID → StatusProvider} {limit : ℕ} {ref : String}
      {answer : ExecutionResult} (href : providerReference s caseId txn = some ref)
      (hanswer : provider caseId ref = some answer) (hstatus : answer.status = .SUCCEEDED)
      (hnames : Names txn answer.amountMinor answer.currency) :
    Evidence s caseId txn (.reconcilePending provider limit)

/-- Where the provider confirms the payment that a case waits for, it names its amount. -/
def Confirmed (provider : StatusProvider) (s : Store) (caseId : UUID) : Prop :=
  ∀ case txn ref answer, s.recoveryCases[caseId]? = some case →
    case.state ∉ [RecoveryCaseState.RECOVERED, .CLOSED] →
    s.transactions[case.triggerTransactionId]? = some txn → Unresolved txn →
    providerReference s caseId txn = some ref → provider ref = some answer →
    answer.status = .SUCCEEDED → Names txn answer.amountMinor answer.currency

/-- A success event for an open case names the amount of its transaction. -/
def Pays (s : Store) (event : CanonicalEventDTO) : Prop :=
  cleanType event ∈ CASE_RESOLUTION_EVENTS → ∀ caseId case txn,
    matchedCase s event = some (caseId, case) → case.state.isTerminal = false →
    s.transactions[case.triggerTransactionId]? = some txn →
    Names txn event.amountMinor event.currency.code

/-- The request asks for no recovery by itself, and what the provider confirms in it is what the
case is about. -/
def Request.Backed (w : World) (r : Request) : Prop :=
  match r.ask with
  | .operation (.processEvent event) | .operation (.ingestEvent event _ _) => Pays w.db event
  | .operation (.transitionState caseId dto) =>
    dto.toState = .RECOVERED → ∀ case, w.db.recoveryCases[caseId]? = some case →
      case.state.isTerminal = true
  | .operation (.transition caseId toState _ _) =>
    toState = .RECOVERED → ∀ case, w.db.recoveryCases[caseId]? = some case →
      toState ∉ CaseTransitionService.ALLOWED_TRANSITIONS case.state
  | .operation (.reconcileCase provider autoResolve caseId) =>
    autoResolve = true → Confirmed provider w.db caseId
  | .reconcilePending provider limit =>
    ∀ caseId ∈ pendingCases w.db limit, Confirmed (provider caseId) w.db caseId
  | _ => True

/-- The case is moved into `RECOVERED` between the two states of the rows. -/
def MovesToRecovered (s t : Store) (caseId : UUID) : Prop :=
  (∃ case, t.recoveryCases[caseId]? = some case ∧ case.state = .RECOVERED) ∧
    ∀ case, s.recoveryCases[caseId]? = some case → case.state ≠ .RECOVERED

/-- A case that writes moved into `RECOVERED` was within their authority to recover. -/
theorem Writes.recovers (h : Writes A s t) (hmoves : MovesToRecovered s t caseId) :
    A.recovers caseId := by
  obtain ⟨⟨after, hafter, hstate⟩, hbefore⟩ := hmoves
  induction h generalizing after with
  | refl => exact absurd hstate (hbefore after hafter)
  | @tail u v _ hwrite ih =>
    cases hwrite with
    | addCase row hdetected _ =>
      rcases Table.getElem?_append_one hafter with hold | ⟨-, rfl⟩
      · exact ih after hold hstate
      · rw [hdetected] at hstate
        cases hstate
    | setCase id f hf =>
      by_cases hid : id = caseId
      · subst hid
        rcases hrow : u.recoveryCases[id]? with _ | case
        · simp [Store.modifyCase, hrow] at hafter
        have hnew : f case = after := by simpa [Store.modifyCase, hrow] using hafter
        rw [← hnew] at hstate
        rcases (hf case hrow).recovered hstate with hold | hrecovers
        · exact ih case hrow hold
        · exact hrecovers
      · have hold : u.recoveryCases[caseId]? = some after := by
          simpa [Store.modifyCase, hid] using hafter
        exact ih after hold hstate
    | _ => exact ih after hafter hstate

/-- The answer that a reconciliation compares with. -/
theorem Compares.answer {provider : StatusProvider} {case : RecoveryCase} {txn : Transaction}
    (h : Compares provider s caseId case txn .SUCCEEDED) :
    ∃ ref answer, providerReference s caseId txn = some ref ∧ provider ref = some answer ∧
      answer.status = .SUCCEEDED := by
  have hstatus := h.2.2
  unfold providerStatusOf at hstatus
  rcases href : providerReference s caseId txn with _ | ref
  · rw [href] at hstatus
    cases hstatus
  · rw [href] at hstatus
    dsimp only at hstatus
    rcases hanswer : provider ref with _ | answer
    · rw [hanswer] at hstatus
      cases hstatus
    · rw [hanswer] at hstatus
      exact ⟨ref, answer, rfl, hanswer, by simpa using hstatus⟩

/-- The rows that the evidence of a request is about. -/
def Evidenced (w : World) (r : Request) (caseId : UUID) : Prop :=
  ∃ case txn, w.db.recoveryCases[caseId]? = some case ∧
    w.db.transactions[case.triggerTransactionId]? = some txn ∧ Evidence w.db caseId txn r.ask

theorem Evidenced.of_event {config : PolicyConfig} {w : World} {event : CanonicalEventDTO}
    (hchain : Chain config w.db) (hpays : Pays w.db event)
    (htype : cleanType event ∈ CASE_RESOLUTION_EVENTS) {case : RecoveryCase}
    (hmatch : matchedCase w.db event = some (caseId, case)) (hopen : case.state.isTerminal = false) :
    ∃ txn, w.db.recoveryCases[caseId]? = some case ∧
      w.db.transactions[case.triggerTransactionId]? = some txn ∧
      Names txn event.amountMinor event.currency.code := by
  have hcase := getElem?_of_findExistingCase hmatch
  have htrigger := hchain.triggers case (List.mem_of_getElem? hcase)
  have htxn := List.getElem?_eq_getElem htrigger
  exact ⟨_, hcase, htxn, hpays htype caseId case _ hmatch hopen htxn⟩

/-- A batch recovers a case on the provider's answer about the payment of that case. -/
theorem reconcilePendingCases_evidence {config : PolicyConfig} {env : Env}
    {provider : UUID → StatusProvider} {limit : ℕ} (hchain : Chain config s)
    (hconfirmed : ∀ caseId ∈ pendingCases s limit, Confirmed (provider caseId) s caseId)
    (hmoves : MovesToRecovered s (reconcilePendingCases env provider limit s).1 caseId) :
    ∃ case txn, s.recoveryCases[caseId]? = some case ∧
      s.transactions[case.triggerTransactionId]? = some txn ∧
      Evidence s caseId txn (.reconcilePending provider limit) := by
  let Shown : UUID → Prop := fun id => ∃ case txn, s.recoveryCases[id]? = some case ∧
    s.transactions[case.triggerTransactionId]? = some txn ∧
    Evidence s id txn (.reconcilePending provider limit)
  -- the rows in the middle of the batch, compared with those before it
  let Reached : List UUID → Store → Prop := fun rest u =>
    Writes (.reconciliation .default Shown) s u ∧
      Table.Evolves (fun before after => Unresolved after → Unresolved before) s.transactions
        u.transactions ∧ ∀ id ∈ rest, id ∈ pendingCases s limit
  have hbatch : Writes (.reconciliation .default Shown) s
      (reconcilePendingCases env provider limit s).1 := by
    refine reconcileEach_rule (P := Reached) (fun _ _ h => h.1) ?_ _ ⟨.refl, .refl _, fun _ h => h⟩
    rintro id rest u report v ⟨hwrites, hunresolved, hselected⟩ hrun
    have hpending := hselected id List.mem_cons_self
    have hshown : ∀ case txn providerStatus, Compares (provider id) u id case txn providerStatus →
        Settles true case txn providerStatus → Shown id := by
      rintro case txn providerStatus hcompares ⟨-, hopen, rfl, -⟩
      obtain ⟨ref, answer, href, hanswer, hstatus⟩ := Compares.answer hcompares
      -- the case and its transaction as they were before the batch
      obtain ⟨waiting, hwaiting, hstate⟩ := mem_pendingCases hpending
      obtain ⟨after, hafter, hkept⟩ := hwrites.evolved.recoveryCases.getElem? hwaiting
      obtain rfl : case = after := Option.some.inj (hcompares.1.symm.trans hafter)
      have htrigger := hchain.triggers waiting (List.mem_of_getElem? hwaiting)
      have hbefore := List.getElem?_eq_getElem htrigger
      obtain ⟨txn', htxn', hstep⟩ := hwrites.evolved.transactions.getElem? hbefore
      obtain ⟨txn'', htxn'', hwas⟩ := hunresolved.getElem? hbefore
      have htxn := hcompares.2.1
      rw [hkept.triggerTransactionId] at htxn
      obtain rfl : txn = txn' := Option.some.inj (htxn.symm.trans htxn')
      obtain rfl : txn = txn'' := Option.some.inj (htxn.symm.trans htxn'')
      have hexecutions : u.executions = s.executions := hwrites.executions_eq fun _ h => h
      have hsame : providerReference u id txn =
          providerReference s id s.transactions[waiting.triggerTransactionId] := by
        simp only [providerReference, Store.executionsOf, hexecutions, hstep.externalTransactionId]
      rw [hsame] at href
      have hwaits : waiting.state ∉ [RecoveryCaseState.RECOVERED, .CLOSED] := by
        rw [hstate]
        decide
      have hnames := hconfirmed id hpending waiting _ ref answer hwaiting hwaits hbefore
        (hwas hopen) href hanswer hstatus
      exact ⟨waiting, _, hwaiting, hbefore, .batch href hanswer hstatus hnames⟩
    have hkeeps : Keeps (.reconciliation .default Shown) u
        (reconcileCase env (provider id) true id) :=
      reconcileCase_keeps hshown False.elim
    have htouches : Touches id u v :=
      (reconcileCase_touches env (provider id) true).related hrun
    exact ⟨hwrites.trans (hkeeps.writes hrun), hunresolved.trans htouches.unresolved,
      fun other hother => hselected other (List.mem_cons_of_mem _ hother)⟩
  exact hbatch.recovers hmoves

/-! ## Runs -/

/-- Nothing moves between two equal states. -/
theorem MovesToRecovered.irrefl (s : Store) : ¬MovesToRecovered s s caseId := by
  rintro ⟨⟨case, hcase, hstate⟩, hbefore⟩
  exact hbefore case hcase hstate

/-- An operation that moves a case to `RECOVERED` brings the evidence. -/
theorem Operation.Recovers.evidenced {config : PolicyConfig} {w : World} {env : Env}
    {op : Operation} (hchain : Chain config w.db)
    (hr : Request.Backed w ⟨env, .operation op⟩) (h : op.Recovers w.db caseId) :
    Evidenced w ⟨env, .operation op⟩ caseId := by
  cases op with
  | processEvent event =>
    obtain ⟨htype, case, hmatch, hopen⟩ := h
    obtain ⟨txn, hcase, htxn, hnames⟩ := Evidenced.of_event hchain hr htype hmatch hopen
    exact ⟨case, txn, hcase, htxn, .processed htype hmatch hnames⟩
  | ingestEvent event payloadHash signatureVerified =>
    obtain ⟨htype, case, hmatch, hopen⟩ := h
    obtain ⟨txn, hcase, htxn, hnames⟩ := Evidenced.of_event hchain hr htype hmatch hopen
    exact ⟨case, txn, hcase, htxn, .ingested htype hmatch hnames⟩
  | transitionState id dto =>
    obtain ⟨rfl, htarget, case, hcase, hopen⟩ := h
    have hterminal : case.state.isTerminal = true := hr htarget case hcase
    rw [hopen] at hterminal
    cases hterminal
  | transition id toState reasonCode actorType =>
    obtain ⟨rfl, htarget, case, hcase, hallowed⟩ := h
    exact absurd hallowed (hr htarget case hcase)
  | reconcileCase provider autoResolve id =>
    obtain ⟨rfl, case, txn, providerStatus, hcompares, hauto, hopen, rfl, hlive⟩ := h
    obtain ⟨ref, answer, href, hanswer, hstatus⟩ := Compares.answer hcompares
    have hnames : Names txn answer.amountMinor answer.currency :=
      hr hauto case txn ref answer hcompares.1 hlive hcompares.2.1 hopen href hanswer hstatus
    exact ⟨case, txn, hcompares.1, hcompares.2.1, .reconciled href hanswer hstatus hnames⟩
  | _ => exact h.elim

/-- A backed request that moves a case to `RECOVERED` brings the evidence. -/
theorem World.step_evidence {config : PolicyConfig} {w : World} {r : Request}
    (hchain : Chain config w.db) (hr : r.Backed w)
    (hmoves : MovesToRecovered w.db (w.step config r).db caseId) : Evidenced w r caseId := by
  obtain ⟨env, ask⟩ := r
  cases ask with
  | operation op =>
    have hrecovers := (step_operation_writes config w env op).recovers hmoves
    exact Operation.Recovers.evidenced hchain hr hrecovers
  | execute workflowId executeAll override provider =>
    obtain ⟨sent, hexecuted⟩ := step_execute
    exact (hexecuted.writes.recovers hmoves).elim
  | reconcilePending provider limit =>
    unfold step at hmoves
    dsimp only at hmoves
    split at hmoves
    · exact absurd hmoves (MovesToRecovered.irrefl _)
    · exact reconcilePendingCases_evidence hchain hr hmoves

/-- In every run of backed requests, a request that moves a case to `RECOVERED` brings a success
of the provider for the amount and the currency of the trigger transaction. -/
theorem recovery_has_evidence (config : PolicyConfig) (requests : List Request)
    (hguard : Run.Guarded (World.step config) (fun w r => r.Backed w) World.empty requests)
    (before : List Request) (r : Request) (later : List Request)
    (hsplit : requests = before ++ r :: later) (caseId : UUID)
    (hmoves : MovesToRecovered (World.empty.run config before).db
      ((World.empty.run config before).step config r).db caseId) :
    Evidenced (World.empty.run config before) r caseId := by
  subst hsplit
  have hr := ((Run.guarded_append before (r :: later)).mp hguard).2.1
  exact World.step_evidence (World.run_chain config before) hr hmoves

namespace Sample

/-- A success of the payment that names another amount. -/
def underpaid : Request :=
  request (.processEvent { event "evt_2" "PAYMENT_SUCCEEDED" with amountMinor := 100 })

end Sample

/-- The success of the payment pays the case that its failure opened. -/
theorem recovery_has_evidence_success :
    Evidenced (World.empty.run .default [Sample.failure]) Sample.success 0 := by
  have hfailure : Sample.failure.Backed World.empty := by
    intro htype
    exact absurd htype (by decide +kernel)
  have hsuccess : Sample.success.Backed (World.empty.run .default [Sample.failure]) := by
    intro _ caseId case txn hmatch _ htxn
    have hrows : (World.empty.run .default [Sample.failure]).db.transactions.map
        (fun t => (t.amountMinor, t.currency.code)) = [(5000, "INR")] := by
      decide +kernel
    have hmem := List.mem_map_of_mem (f := fun t : Transaction => (t.amountMinor, t.currency.code))
      (List.mem_of_getElem? htxn)
    rw [hrows, List.mem_singleton, Prod.mk.injEq] at hmem
    exact ⟨congrArg Nat.cast hmem.1.symm, hmem.2.symm⟩
  have hmoves : MovesToRecovered (World.empty.run .default [Sample.failure]).db
      ((World.empty.run .default [Sample.failure]).step .default Sample.success).db 0 := by
    have hbefore : (World.empty.run .default [Sample.failure]).db.recoveryCases[0]?.map
        RecoveryCase.state = some .DETECTED := by
      decide +kernel
    have hafter : ((World.empty.run .default [Sample.failure]).step .default
        Sample.success).db.recoveryCases[0]?.map RecoveryCase.state = some .RECOVERED := by
      decide +kernel
    refine ⟨Option.map_eq_some_iff.mp hafter, fun case hcase => ?_⟩
    rw [hcase, Option.map_some, Option.some.injEq] at hbefore
    rw [hbefore]
    decide
  exact recovery_has_evidence .default [Sample.failure, Sample.success] ⟨hfailure, hsuccess, trivial⟩
    [Sample.failure] Sample.success [] rfl 0 hmoves

/-- A payment of one rupee recovers the case of fifty: neither request of the run shows that its
transaction was paid. -/
theorem partial_payment_recovers :
    let w := World.empty.run .default [Sample.failure]
    MovesToRecovered w.db (w.step .default Sample.underpaid).db 0 ∧
      ¬Evidenced World.empty Sample.failure 0 ∧ ¬Evidenced w Sample.underpaid 0 := by
  intro w
  have hbefore : w.db.recoveryCases[0]?.map RecoveryCase.state = some .DETECTED := by
    decide +kernel
  have hafter : (w.step .default Sample.underpaid).db.recoveryCases[0]?.map RecoveryCase.state =
      some .RECOVERED := by
    decide +kernel
  have hrows : w.db.transactions.map Transaction.amountMinor = [5000] := by
    decide +kernel
  refine ⟨⟨Option.map_eq_some_iff.mp hafter, fun case hcase => ?_⟩, ?_, ?_⟩
  · rw [hcase, Option.map_some, Option.some.injEq] at hbefore
    rw [hbefore]
    decide
  · rintro ⟨case, txn, hcase, -⟩
    cases hcase
  · rintro ⟨case, txn, -, htxn, hevidence⟩
    have hamount := List.mem_map_of_mem (f := Transaction.amountMinor) (List.mem_of_getElem? htxn)
    rw [hrows, List.mem_singleton] at hamount
    cases hevidence with
    | processed _ _ hnames =>
      have hpaid := hnames.1
      rw [hamount] at hpaid
      cases hpaid

end RevenueRescue
