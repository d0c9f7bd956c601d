import RevenueRescue.Properties.Matching

/-!
# Cases and their trigger transactions

A case names its customer and its trigger transaction, and a case of the engine repeats the
amount in its metadata. The engine looks the customer and the transaction up separately, an
operator names both, and neither compares them; so they agree as long as they did when the
case was opened. The engine and the operator's service look for a case of the transaction
before they open one, while the detector looks for its own key only.
-/

namespace RevenueRescue

open Python EventToCaseEngine

variable {env : Env} {op : Operation} {s t : Store} {caseId : UUID}

/-! ## Exposures along a run -/

/-- The transactions evolve, and exposures are only added. -/
structure Grows (s t : Store) : Prop where
  evolved : Evolved s t
  exposures : s.exposures <+: t.exposures

theorem World.step_grows {config : PolicyConfig} {w : World} {r : Request} (hr : r.OpensCases) :
    Grows w.db (w.step config r).db := by
  obtain ⟨env, ask⟩ := r
  obtain ⟨op, rfl, hop⟩ := hr
  refine ⟨World.step_evolved config w _, ?_⟩
  rcases (World.step_intake config w env hop).exposures with hsame | ⟨exposure, -, hmore⟩
  · exact ⟨[], (List.append_nil _).trans hsame.symm⟩
  · exact ⟨[exposure], hmore.symm⟩

/-- The customer of the exposure is that of the transaction. -/
def Exposure.Belongs (s : Store) (exposure : Exposure) : Prop :=
  ∃ txn, s.transactions[exposure.triggerTransactionId]? = some txn ∧
    exposure.customerId = txn.customerId

/-- The amount of the exposure is that of the transaction. -/
def Exposure.Priced (s : Store) (exposure : Exposure) : Prop :=
  ∃ txn, s.transactions[exposure.triggerTransactionId]? = some txn ∧
    exposure.amountMinor = .int txn.amountMinor ∧ exposure.currency = .str txn.currency.code

theorem Exposure.Belongs.evolve {exposure : Exposure} (hevolved : Evolved s t)
    (h : exposure.Belongs s) : exposure.Belongs t := by
  obtain ⟨txn, htxn, hcustomer⟩ := h
  obtain ⟨later, hlater, hstep⟩ := hevolved.transactions.getElem? htxn
  exact ⟨later, hlater, hcustomer.trans hstep.customerId.symm⟩

theorem Exposure.Priced.evolve {exposure : Exposure} (hevolved : Evolved s t)
    (h : exposure.Priced s) : exposure.Priced t := by
  obtain ⟨txn, htxn, hamount, hcurrency⟩ := h
  obtain ⟨later, hlater, hstep⟩ := hevolved.transactions.getElem? htxn
  refine ⟨later, hlater, ?_, ?_⟩
  · rw [hstep.amountMinor]
    exact hamount
  · rw [hstep.currency]
    exact hcurrency

/-! ## Customers and amounts -/

/-- Where the request opens a case for a stored transaction, it names the transaction's customer,
and an event names its amount as well. -/
def Request.Coherent (w : World) (r : Request) : Prop :=
  match r.ask with
  | .operation (.processEvent event) =>
    cleanType event ∈ CASE_CREATION_ELIGIBLE_EVENTS → matchedCase w.db event = none →
      ∀ txId txn, w.db.transactionByExternalId event.provider (transactionReference event) =
        some (txId, txn) → customerOf w.db event = txn.customerId ∧
          event.amountMinor = txn.amountMinor ∧ event.currency = txn.currency
  | .operation (.createCase _ dto) =>
    w.db.caseByTriggerTransaction dto.triggerTransactionId = none →
      ∀ txn, w.db.transactions[dto.triggerTransactionId]? = some txn →
        dto.customerId = txn.customerId
  | _ => True

/-- The transaction that an event provisions has the customer and the amount of the event, when
a stored one has. -/
theorem provisioned_transaction {event : CanonicalEventDTO}
    (hstored : ∀ txId txn, s.transactionByExternalId event.provider (transactionReference event) =
      some (txId, txn) → customerOf s event = txn.customerId ∧
        event.amountMinor = txn.amountMinor ∧ event.currency = txn.currency) :
    ∃ txn, (provisioned s event).transactions[transactionOf s event]? = some txn ∧
      customerOf s event = txn.customerId ∧ event.amountMinor = txn.amountMinor ∧
      event.currency = txn.currency := by
  rcases provisioned_transactions_cases s event with ⟨txn, hfind, hsame⟩ | ⟨-, hid, hmore⟩
  · rw [hsame]
    exact ⟨txn, (Table.find?_some hfind).1, hstored _ txn hfind⟩
  · rw [hmore, hid]
    exact ⟨_, List.getElem?_concat_length, rfl, rfl, rfl⟩

/-- The exposure that a coherent request adds belongs to its transaction, and has its price when
the engine opened the case. -/
theorem Opens.coherent {w : World} {exposure : Exposure}
    (hr : Request.Coherent w ⟨env, .operation op⟩) (h : Opens env w.db t op exposure)
    (hevolved : Evolved w.db t) :
    exposure.Belongs t ∧ ((∃ event, op = .processEvent event) → exposure.Priced t) := by
  cases h with
  | @event event htype hmatch htransactions =>
    obtain ⟨txn, htxn, hcustomer, hamount, hcurrency⟩ := provisioned_transaction (hr htype hmatch)
    rw [← htransactions] at htxn
    refine ⟨⟨txn, htxn, hcustomer⟩, fun _ => ⟨txn, htxn, ?_, ?_⟩⟩
    · rw [hamount]
    · rw [hcurrency]
  | operator htrigger hfree =>
    have hrow := List.getElem?_eq_getElem htrigger
    exact ⟨Exposure.Belongs.evolve hevolved ⟨_, hrow, hr hfree _ hrow⟩, fun ⟨_, h⟩ => by cases h⟩
  | detector htransaction hrisk hkey =>
    exact ⟨Exposure.Belongs.evolve hevolved ⟨_, htransaction, rfl⟩, fun ⟨_, h⟩ => by cases h⟩

/-- A coherent request keeps the customers of the cases. -/
theorem World.step_belongs {config : PolicyConfig} {w : World} {r : Request} (hopens : r.OpensCases)
    (hr : r.Coherent w) (hw : ∀ exposure ∈ w.db.exposures, exposure.Belongs w.db) :
    ∀ exposure ∈ (w.step config r).db.exposures, exposure.Belongs (w.step config r).db := by
  have hevolved := World.step_evolved config w r
  obtain ⟨env, ask⟩ := r
  obtain ⟨op, rfl, hop⟩ := hopens
  rcases (World.step_intake config w env hop).exposures with hsame | ⟨exposure, hnew, hmore⟩
  · rw [hsame]
    exact fun exposure h => (hw exposure h).evolve hevolved
  · rw [hmore]
    exact Table.forall_append_one (fun exposure h => (hw exposure h).evolve hevolved)
      (hnew.coherent hr hevolved).1

/-- A case that the engine opens on a coherent event has the price of its transaction. -/
theorem World.step_priced {config : PolicyConfig} {w : World} {env : Env}
    {event : CanonicalEventDTO} (hr : Request.Coherent w ⟨env, .operation (.processEvent event)⟩)
    (hopens : OpensCase config w env event) :
    ∃ exposure, (w.step config ⟨env, .operation (.processEvent event)⟩).db.exposures[
        w.db.recoveryCases.length]? = some exposure ∧
      exposure.Priced (w.step config ⟨env, .operation (.processEvent event)⟩).db := by
  have hevolved := World.step_evolved config w ⟨env, .operation (.processEvent event)⟩
  have hlength : ∀ u : Store, u.exposures.length = u.recoveryCases.length :=
    fun _ => List.length_map _
  have hintake : Intake env w.db (.processEvent event)
      (w.step config ⟨env, .operation (.processEvent event)⟩).db :=
    World.step_intake config w env trivial
  rcases hintake.exposures with hsame | ⟨exposure, hnew, hmore⟩
  · unfold OpensCase at hopens
    rw [← hlength, ← hlength, hsame] at hopens
    exact absurd hopens (Nat.lt_irrefl _)
  · refine ⟨exposure, ?_, (hnew.coherent hr hevolved).2 ⟨event, rfl⟩⟩
    rw [hmore, ← hlength]
    exact List.getElem?_concat_length

/-- In every run of coherent requests each case has the customer of its trigger transaction, and a
case that the engine opened repeats the transaction's amount and currency. -/
theorem cases_are_coherent (config : PolicyConfig) (requests : List Request)
    (hguard : Run.Guarded (World.step config) (fun w r => r.OpensCases ∧ r.Coherent w) World.empty
      requests) :
    (∀ case ∈ (World.empty.run config requests).db.recoveryCases, ∃ txn,
      (World.empty.run config requests).db.transactions[case.triggerTransactionId]? = some txn ∧
        case.customerId = txn.customerId) ∧
    ∀ before env event later,
      requests = before ++ ⟨env, .operation (.processEvent event)⟩ :: later →
      OpensCase config (World.empty.run config before) env event →
      ∃ case txn, (World.empty.run config requests).db.recoveryCases[
          (World.empty.run config before).db.recoveryCases.length]? = some case ∧
        (World.empty.run config requests).db.transactions[case.triggerTransactionId]? = some txn ∧
        Dict.get case.metadataJson "amount_minor" = .int txn.amountMinor ∧
        Dict.get case.metadataJson "currency" = .str txn.currency.code := by
  constructor
  · have hbelongs : ∀ exposure ∈ (World.empty.run config requests).db.exposures,
        exposure.Belongs (World.empty.run config requests).db :=
      Run.guarded_invariant (I := fun w : World => ∀ exposure ∈ w.db.exposures,
        exposure.Belongs w.db) (fun w r hr hw => World.step_belongs hr.1 hr.2 hw) requests hguard
        fun _ h => absurd h List.not_mem_nil
    exact fun case hcase => hbelongs _ (List.mem_map_of_mem hcase)
  · rintro before env event later rfl hopens
    obtain ⟨-, hr, hlater⟩ := (Run.guarded_append before _).mp hguard
    obtain ⟨exposure, hexposure, hpriced⟩ := World.step_priced hr.2 hopens
    -- the exposure keeps its place and its price through the later requests
    have hkept : (World.empty.run config (before ++ ⟨env, .operation (.processEvent event)⟩ ::
        later)).db.exposures[(World.empty.run config before).db.recoveryCases.length]? =
          some exposure ∧ exposure.Priced (World.empty.run config (before ++
            ⟨env, .operation (.processEvent event)⟩ :: later)).db := by
      unfold World.run
      rw [Run.after_append, Run.after_cons]
      refine Run.guarded_invariant (I := fun w : World => w.db.exposures[_]? = some exposure ∧
        exposure.Priced w.db) (fun w r hr hw => ?_) later hlater ⟨hexposure, hpriced⟩
      have hgrows : Grows w.db (w.step config r).db := World.step_grows hr.1
      refine ⟨?_, hw.2.evolve hgrows.evolved⟩
      obtain ⟨more, hmore⟩ := hgrows.exposures
      rw [← hmore]
      exact Table.getElem?_append_of_some hw.1 more
    obtain ⟨hrow, txn, htxn, hamount, hcurrency⟩ := hkept
    unfold Store.exposures at hrow
    rw [List.getElem?_map, Option.map_eq_some_iff] at hrow
    obtain ⟨case, hcase, rfl⟩ := hrow
    exact ⟨case, txn, hcase, htxn, hamount, hcurrency⟩

theorem Sample.request_opensCases {op : Operation} (h : op.OpensCases) :
    (Sample.request op).OpensCases := ⟨op, rfl, h⟩

/-- The failure of a payment that was unknown opens a case for the payment's customer. -/
theorem cases_are_coherent_failure :
    ∃ case, (World.empty.run .default [Sample.failure]).db.recoveryCases[0]? = some case ∧
      ∃ txn, (World.empty.run .default [Sample.failure]).db.transactions[
        case.triggerTransactionId]? = some txn ∧ case.customerId = txn.customerId := by
  have hcoherent : Sample.failure.Coherent World.empty := by
    intro _ _ txId txn htxn
    cases htxn
  have hopened : (World.empty.run .default [Sample.failure]).db.recoveryCases[0]?.isSome = true := by
    decide +kernel
  obtain ⟨case, hcase⟩ := Option.isSome_iff_exists.mp hopened
  exact ⟨case, hcase, (cases_are_coherent .default [Sample.failure]
    ⟨⟨Sample.request_opensCases trivial, hcoherent⟩, trivial⟩).1 case (List.mem_of_getElem? hcase)⟩

namespace Sample

/-- A failure of the payment that names another customer and another amount. -/
def failedElsewhere : Request :=
  request (.processEvent { event "evt_3" "PAYMENT_FAILED" with
    customerReference := "cust_2", amountMinor := 100 })

end Sample

/-- After the success of the payment, a failure that names another customer and another amount
opens a case for that customer and that amount about the transaction of the first one. -/
theorem case_of_another_customer :
    let db := (World.empty.run .default [Sample.success, Sample.failedElsewhere]).db
    db.recoveryCases.map (fun c => (c.customerId, c.triggerTransactionId)) = [(1, 0)] ∧
      db.recoveryCases.map (fun c => strJson (Dict.get c.metadataJson "amount_minor")) = ["100"] ∧
      db.transactions.map (fun t => (t.customerId, t.amountMinor)) = [(0, 5000)] := by
  decide +kernel

/-! ## One case for each transaction -/

/-- The detector finds no case of the transaction when it opens one. -/
def Request.DetectsNew (w : World) (r : Request) : Prop :=
  ∀ transactionId transaction, r.ask = .operation (.detectAndCreateCase transactionId) →
    w.db.transactions[transactionId]? = some transaction →
    RiskCaseService.isAtRisk (RiskCaseService.classify transaction r.env.now).1 = true →
    w.db.caseByKey (RiskCaseService.caseKey transaction) = none →
    w.db.caseByTriggerTransaction transactionId = none

/-- The trigger transactions of the cases. -/
def Store.triggers (s : Store) : List UUID := s.recoveryCases.map RecoveryCase.triggerTransactionId

theorem Store.triggers_eq (s : Store) :
    s.triggers = s.exposures.map Exposure.triggerTransactionId := by
  unfold Store.triggers Store.exposures
  rw [List.map_map]
  rfl

theorem not_mem_triggers {transactionId : UUID}
    (h : s.caseByTriggerTransaction transactionId = none) : transactionId ∉ s.triggers := by
  intro hmem
  obtain ⟨case, hcase, hsame⟩ := List.mem_map.mp hmem
  have hother := Table.find?_none.mp h case hcase
  rw [hsame, beq_self_eq_true] at hother
  cases hother

/-- A request whose detection is of a new transaction opens a case for a new transaction. -/
theorem Opens.trigger_not_mem {w : World} {exposure : Exposure}
    (hr : Request.DetectsNew w ⟨env, .operation op⟩) (h : Opens env w.db t op exposure) :
    exposure.triggerTransactionId ∉ w.db.triggers := by
  cases h with
  | event htype hmatch _ =>
    exact not_mem_triggers (caseByTriggerTransaction_of_matchedCase hmatch)
  | operator _ hfree => exact not_mem_triggers hfree
  | detector htransaction hrisk hkey =>
    exact not_mem_triggers (hr _ _ rfl htransaction hrisk hkey)

theorem World.step_triggers {config : PolicyConfig} {w : World} {r : Request}
    (hopens : r.OpensCases) (hr : r.DetectsNew w) (hw : w.db.triggers.Nodup) :
    (w.step config r).db.triggers.Nodup := by
  obtain ⟨env, ask⟩ := r
  obtain ⟨op, rfl, hop⟩ := hopens
  rw [Store.triggers_eq]
  rcases (World.step_intake config w env hop).exposures with hsame | ⟨exposure, hnew, hmore⟩
  · rw [hsame, ← Store.triggers_eq]
    exact hw
  · rw [hmore, List.map_append, ← Store.triggers_eq]
    exact List.nodup_append.mpr ⟨hw, List.nodup_singleton _, fun id hid other hother => by
      rw [List.mem_singleton.mp hother]
      exact fun hsame => hnew.trigger_not_mem hr (hsame ▸ hid)⟩

/-- In every run of the three operations whose detections are of transactions without a case,
there is at most one case for each trigger transaction. -/
theorem one_case_per_transaction (config : PolicyConfig) (requests : List Request)
    (hguard : Run.Guarded (World.step config) (fun w r => r.OpensCases ∧ r.DetectsNew w) World.empty
      requests) (caseId otherId : UUID) (case other : RecoveryCase)
    (hcase : (World.empty.run config requests).db.recoveryCases[caseId]? = some case)
    (hother : (World.empty.run config requests).db.recoveryCases[otherId]? = some other)
    (hsame : case.triggerTransactionId = other.triggerTransactionId) : caseId = otherId := by
  have hnodup : (World.empty.run config requests).db.triggers.Nodup :=
    Run.guarded_invariant (I := fun w : World => w.db.triggers.Nodup)
      (fun w r hr hw => World.step_triggers hr.1 hr.2 hw) requests hguard List.nodup_nil
  have htrigger : ∀ {id : UUID} {c : RecoveryCase},
      (World.empty.run config requests).db.recoveryCases[id]? = some c →
      (World.empty.run config requests).db.triggers[id]? = some c.triggerTransactionId := by
    intro id c hc
    unfold Store.triggers
    rw [List.getElem?_map, hc, Option.map_some]
  refine (List.getElem?_inj (List.getElem?_eq_some_iff.mp (htrigger hcase)).1 hnodup).mp ?_
  rw [htrigger hcase, htrigger hother, hsame]

namespace Sample

/-- The detector looks at the first transaction. -/
def detected : Request := request (.detectAndCreateCase 0)

end Sample

/-- A failure that is delivered again meets the case it opened. -/
theorem one_case_per_transaction_redelivered :
    ∃ first, (World.empty.run .default [Sample.failure, Sample.failure]).db.recoveryCases[0]? =
        some first ∧
      ∀ caseId case, (World.empty.run .default [Sample.failure, Sample.failure]).db.recoveryCases[
        caseId]? = some case → case.triggerTransactionId = first.triggerTransactionId →
          caseId = 0 := by
  have hnew : ∀ w : World, Sample.failure.DetectsNew w := by
    intro w transactionId transaction hask
    cases hask
  have hopened : (World.empty.run .default
      [Sample.failure, Sample.failure]).db.recoveryCases[0]?.isSome = true := by
    decide +kernel
  obtain ⟨first, hrow⟩ := Option.isSome_iff_exists.mp hopened
  refine ⟨first, hrow, fun caseId case hcase htrigger => ?_⟩
  exact one_case_per_transaction .default [Sample.failure, Sample.failure]
    ⟨⟨Sample.request_opensCases trivial, hnew _⟩, ⟨Sample.request_opensCases trivial, hnew _⟩, trivial⟩
    caseId 0 case first hcase hrow htrigger

/-- The detector opens a second case for the transaction of the first one. -/
theorem detector_opens_second_case :
    (World.empty.run .default [Sample.failure, Sample.detected]).db.triggers = [0, 0] := by
  decide +kernel

end RevenueRescue
