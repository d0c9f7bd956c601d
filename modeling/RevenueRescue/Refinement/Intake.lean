import RevenueRescue.Refinement.Effects
import RevenueRescue.Refinement.World

/-!
# The requests that open cases

Three operations open cases: an event, an operator's request and the detector. What each of
them does to the rows is written out once, and what holds of the cases is then a matter of
the row that each of them adds.
-/

namespace RevenueRescue

open Python EventToCaseEngine

/-- The operations that can open a case. -/
def Operation.OpensCases : Operation → Prop
  | .processEvent _ | .createCase _ _ | .detectAndCreateCase _ => True
  | _ => False

/-- The request is for one of them. -/
def Request.OpensCases (r : Request) : Prop :=
  ∃ op, r.ask = .operation op ∧ op.OpensCases

/-- What such an operation leaves. -/
inductive Intake (env : Env) (s : Store) : Operation → Store → Prop
  | unchanged (op : Operation) : Intake env s op s
  | delivered {event : CanonicalEventDTO} {t : Store} (h : Delivered env event s t) :
    Intake env s (.processEvent event) t
  | created {uuid4 : UUID} {dto : RecoveryCaseService.RecoveryCaseCreateDTO}
      (htrigger : dto.triggerTransactionId < s.transactions.length)
      (hfree : s.caseByTriggerTransaction dto.triggerTransactionId = none) :
    Intake env s (.createCase uuid4 dto) (RecoveryCaseService.created env uuid4 dto s)
  | detected {transactionId : UUID} {transaction : Transaction} {row : RecoveryCase}
      (htransaction : s.transactions[transactionId]? = some transaction)
      (hrisk : RiskCaseService.isAtRisk (RiskCaseService.classify transaction env.now).1 = true)
      (hkey : s.caseByKey (RiskCaseService.caseKey transaction) = none)
      (hcustomer : row.customerId = transaction.customerId)
      (htrigger : row.triggerTransactionId = transactionId) :
    Intake env s (.detectAndCreateCase transactionId)
      { s with recoveryCases := s.recoveryCases ++ [row] }

namespace World

/-- A request that processes an event leaves what the event does, or nothing after a crash. -/
theorem step_processEvent (config : PolicyConfig) (w : World) (env : Env)
    (event : CanonicalEventDTO) :
    (w.step config ⟨env, .operation (.processEvent event)⟩).db = w.db ∨
      Delivered env event w.db (w.step config ⟨env, .operation (.processEvent event)⟩).db := by
  unfold step commitUnlessCrash
  dsimp only
  split
  · exact .inl rfl
  · rw [Operation.service, ignoringResult_commit]
    exact .inr (EventToCaseEngine.delivered env event w.db)

theorem step_intake (config : PolicyConfig) (w : World) (env : Env) {op : Operation}
    (h : op.OpensCases) : Intake env w.db op (w.step config ⟨env, .operation op⟩).db := by
  cases op with
  | processEvent event =>
    rcases step_processEvent config w env event with hsame | hdelivered
    · rw [hsame]
      exact .unchanged _
    · exact .delivered hdelivered
  | createCase uuid4 dto =>
    unfold step commitUnlessCrash
    dsimp only
    split
    · exact .unchanged _
    rw [Operation.service, ignoringResult_commit]
    unfold Tx.commit
    rcases hrun : RecoveryCaseService.createCase env uuid4 dto w.db with fault | ⟨caseId, t⟩
    · exact .unchanged _
    · obtain ⟨-, htrigger, hfree, -, rfl⟩ := RecoveryCaseService.createCase_ok hrun
      exact .created htrigger hfree
  | detectAndCreateCase transactionId =>
    unfold step commitUnlessCrash
    dsimp only
    split
    · exact .unchanged _
    rw [Operation.service, ignoringResult_commit]
    unfold Tx.commit
    rcases hrun : RiskCaseService.detectAndCreateCase env transactionId w.db with fault | ⟨_, t⟩
    · exact .unchanged _
    · rcases RiskCaseService.detectAndCreateCase_ok hrun with
        rfl | ⟨transaction, row, htransaction, hkey, -, hcustomer, htrigger, -, -, hrisk, rfl⟩
      · exact .unchanged _
      · exact .detected htransaction hrisk hkey hcustomer htrigger
  | _ => exact h.elim

end World

/-! ## The cases they leave -/

/-- What a case says about the money at risk. -/
structure Exposure where
  customerId : UUID
  triggerTransactionId : UUID
  amountMinor : Json
  currency : Json

def RecoveryCase.exposure (case : RecoveryCase) : Exposure where
  customerId := case.customerId
  triggerTransactionId := case.triggerTransactionId
  amountMinor := Dict.get case.metadataJson "amount_minor"
  currency := Dict.get case.metadataJson "currency"

def Store.exposures (s : Store) : List Exposure := s.recoveryCases.map RecoveryCase.exposure

/-- The exposure of a case that an operation opens. -/
inductive Opens (env : Env) (s t : Store) : Operation → Exposure → Prop
  | event {event : CanonicalEventDTO} (htype : cleanType event ∈ CASE_CREATION_ELIGIBLE_EVENTS)
      (hmatch : matchedCase s event = none)
      (htransactions : t.transactions = (provisioned s event).transactions) :
    Opens env s t (.processEvent event)
      ⟨customerOf s event, transactionOf s event, .int event.amountMinor, .str event.currency.code⟩
  | operator {uuid4 : UUID} {dto : RecoveryCaseService.RecoveryCaseCreateDTO}
      {amountMinor currency : Json} (htrigger : dto.triggerTransactionId < s.transactions.length)
      (hfree : s.caseByTriggerTransaction dto.triggerTransactionId = none) :
    Opens env s t (.createCase uuid4 dto)
      ⟨dto.customerId, dto.triggerTransactionId, amountMinor, currency⟩
  | detector {transactionId : UUID} {transaction : Transaction} {amountMinor currency : Json}
      (htransaction : s.transactions[transactionId]? = some transaction)
      (hrisk : RiskCaseService.isAtRisk (RiskCaseService.classify transaction env.now).1 = true)
      (hkey : s.caseByKey (RiskCaseService.caseKey transaction) = none) :
    Opens env s t (.detectAndCreateCase transactionId)
      ⟨transaction.customerId, transactionId, amountMinor, currency⟩

variable {env : Env} {s t : Store} {op : Operation} {event : CanonicalEventDTO}

/-- An update of a case leaves its exposure alone. -/
theorem EventToCaseEngine.updateCase_exposure (count : Json) (case : RecoveryCase) :
    (updateCase env event count case).exposure = case.exposure := by
  unfold RecoveryCase.exposure updateCase
  dsimp only
  rw [Dict.get_update_other _ (by simp), Dict.get_update_other _ (by simp)]

/-- A new case repeats the amount of its event, whatever the event's metadata say. -/
theorem EventToCaseEngine.newCase_exposure (customerId txId : UUID)
    (risk : RiskClassificationResult) :
    (newCase env event customerId txId risk).exposure =
      ⟨customerId, txId, .int event.amountMinor, .str event.currency.code⟩ := by
  unfold RecoveryCase.exposure newCase Dict.update
  simp [List.foldl_cons, List.foldl_nil, Dict.get_set_other]

/-- What an event does to the exposures. -/
theorem EventToCaseEngine.Delivered.exposures (h : Delivered env event s t) :
    t.exposures = s.exposures ∨
      ∃ exposure, Opens env s t (.processEvent event) exposure ∧
        t.exposures = s.exposures ++ [exposure] := by
  have hprovisioned : (provisioned s event).exposures = s.exposures := by
    unfold Store.exposures
    rw [provisioned_recoveryCases]
  have hmodify : ∀ (caseId : UUID) (f : RecoveryCase → RecoveryCase),
      (∀ c, (f c).exposure = c.exposure) →
      ((provisioned s event).recoveryCases.modify caseId f).map RecoveryCase.exposure =
        s.exposures := by
    intro caseId f hf
    exact (Table.map_modify hf _ caseId).trans hprovisioned
  cases h with
  | ignored _ => exact .inl rfl
  | unmatched _ _ => exact .inl hprovisioned
  | settled _ _ _ => exact .inl hprovisioned
  | resolved _ _ _ => exact .inl (hmodify _ _ fun _ => rfl)
  | updated _ _ _ _ _ _ => exact .inl (hmodify _ _ fun c => updateCase_exposure _ c)
  | uncounted _ _ _ => exact .inl rfl
  | unclassified _ _ _ => exact .inl rfl
  | refused _ _ _ => exact .inl rfl
  | @opened risk htype _ hmatch _ =>
    refine .inr ⟨_, .event htype hmatch rfl, ?_⟩
    have hexposure : (newCase env event (customerOf s event) (transactionOf s event) risk).exposure =
        ⟨customerOf s event, transactionOf s event, .int event.amountMinor,
          .str event.currency.code⟩ := newCase_exposure _ _ risk
    rw [← hexposure, ← hprovisioned]
    exact List.map_append

/-- An operation adds at most one exposure. -/
theorem Intake.exposures (h : Intake env s op t) : t.exposures = s.exposures ∨
    ∃ exposure, Opens env s t op exposure ∧ t.exposures = s.exposures ++ [exposure] := by
  cases h with
  | unchanged => exact .inl rfl
  | delivered h => exact h.exposures
  | created htrigger hfree => exact .inr ⟨_, .operator htrigger hfree, List.map_append⟩
  | @detected _ transaction row htransaction hrisk hkey hcustomer htrigger =>
    subst htrigger
    have hopens : Opens env s { s with recoveryCases := s.recoveryCases ++ [row] }
        (.detectAndCreateCase row.triggerTransactionId)
        ⟨transaction.customerId, row.triggerTransactionId, row.exposure.amountMinor,
          row.exposure.currency⟩ := .detector htransaction hrisk hkey
    rw [← hcustomer] at hopens
    exact .inr ⟨row.exposure, hopens, List.map_append⟩

end RevenueRescue
