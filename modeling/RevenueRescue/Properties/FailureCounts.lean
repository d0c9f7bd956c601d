import Mathlib.Data.Finset.Card
import RevenueRescue.Properties.Retries
import RevenueRescue.Refinement.Receipts
import RevenueRescue.Refinement.World

/-!
# Counting failures

A case that an event opened starts with one failure, and each further event that updates it adds
one. Every such event has a receipt of its own, because a second delivery finds the first receipt
and does not reach the engine, and a rolled back delivery leaves neither the receipt nor the
count. No other request writes the number, as long as operators leave the metadata alone, so it
is the number of receipts whose events counted for the case.
-/

namespace RevenueRescue

open Python EventToCaseEngine

/-! ## What the engine answers -/

/-- The event opened the case. -/
def CaseProcessingOutcome.Opens (outcome : CaseProcessingOutcome) (caseId : UUID) : Prop :=
  outcome.outcome = .CASE_CREATED ∧ outcome.caseId = some caseId

/-- The event opened or updated the case. -/
def CaseProcessingOutcome.CountsFor (outcome : CaseProcessingOutcome) (caseId : UUID) : Prop :=
  outcome.outcome ∈ [CaseOutcome.CASE_CREATED, .CASE_UPDATED] ∧ outcome.caseId = some caseId

instance (outcome : CaseProcessingOutcome) (caseId : UUID) : Decidable (outcome.Opens caseId) :=
  inferInstanceAs (Decidable (_ ∧ _))

instance (outcome : CaseProcessingOutcome) (caseId : UUID) : Decidable (outcome.CountsFor caseId) :=
  inferInstanceAs (Decidable (_ ∧ _))

theorem CaseProcessingOutcome.Opens.countsFor {outcome : CaseProcessingOutcome} {caseId : UUID}
    (h : outcome.Opens caseId) : outcome.CountsFor caseId := by
  refine ⟨?_, h.2⟩
  rw [h.1]
  exact List.mem_cons_self

/-- The numbers of failures that the cases record. -/
def Store.failureCounts (s : Store) : List (Option Json) :=
  s.recoveryCases.map RecoveryCase.failureCount

/-- What an event does to the numbers of failures, as its outcome tells. -/
inductive Tallied (outcome : CaseProcessingOutcome) (before after : List (Option Json)) : Prop
  | unchanged (houtcome : outcome.outcome ∉ [CaseOutcome.CASE_CREATED, .CASE_UPDATED])
      (hafter : after = before)
  | updated {caseId : UUID} {count : Option Json} {next : Json}
      (houtcome : outcome.outcome = .CASE_UPDATED) (hcase : outcome.caseId = some caseId)
      (hbefore : before[caseId]? = some count) (hnext : (count.getD (.int 1)).addOne = some next)
      (hafter : after = before.set caseId (some next))
  | opened (houtcome : outcome.outcome = .CASE_CREATED)
      (hcase : outcome.caseId = some before.length) (hafter : after = before ++ [some (.int 1)])

theorem Tallied.other {outcome : CaseProcessingOutcome} {before after : List (Option Json)}
    {answer : CaseOutcome} (houtcome : outcome.outcome = answer)
    (hanswer : answer ∉ [CaseOutcome.CASE_CREATED, .CASE_UPDATED]) (hafter : after = before) :
    Tallied outcome before after :=
  .unchanged (houtcome.symm ▸ hanswer) hafter

namespace EventToCaseEngine

variable {env : Env} {event : CanonicalEventDTO} {s t : Store} {outcome : CaseProcessingOutcome}

theorem newCase_failureCount (customerId txId : UUID) (risk : RiskClassificationResult) :
    (newCase env event customerId txId risk).failureCount = some (.int 1) := by
  unfold RecoveryCase.failureCount newCase Dict.update
  simp [List.foldl_cons, List.foldl_nil, Dict.lookup_set_other]

theorem updateCase_failureCount (count : Json) (case : RecoveryCase) :
    (updateCase env event count case).failureCount = some count := by
  unfold RecoveryCase.failureCount updateCase Dict.update
  simp [List.foldl_cons, List.foldl_nil, Dict.lookup_set_other]

theorem handlePaymentSucceeded_tallied {existing : Option (UUID × RecoveryCase)} {txId : UUID}
    (h : handlePaymentSucceeded env existing txId s = .ok (outcome, t)) :
    Tallied outcome s.failureCounts t.failureCounts := by
  rcases existing with _ | ⟨caseId, case⟩
  · obtain ⟨answer, hanswer, hrun⟩ : ∃ answer, answer.outcome = .IGNORED ∧
        handlePaymentSucceeded env none txId s = .ok (answer, s) := handlePaymentSucceeded_none txId
    rw [hrun] at h
    cases h
    exact .other hanswer (by decide) rfl
  rcases hterminal : case.state.isTerminal with _ | _
  · obtain ⟨answer, hanswer, hrun⟩ := handlePaymentSucceeded_open env s caseId txId hterminal
    rw [hrun] at h
    cases h
    have hkept : ∀ c, (resolveCase env c).failureCount = c.failureCount := fun _ => rfl
    exact .other hanswer (by decide) (Table.map_modify hkept s.recoveryCases caseId)
  · obtain ⟨answer, hanswer, hrun⟩ := handlePaymentSucceeded_terminal env s caseId txId hterminal
    rw [hrun] at h
    cases h
    exact .other hanswer (by decide) rfl

theorem handleExistingCaseUpdate_tallied {caseId : UUID} {case : RecoveryCase}
    (hcase : s.recoveryCases[caseId]? = some case)
    (h : handleExistingCaseUpdate env event caseId case s = .ok (outcome, t)) :
    Tallied outcome s.failureCounts t.failureCounts := by
  rcases handleExistingCaseUpdate_cases env event s caseId case with
    ⟨-, answer, hanswer, hrun⟩ | ⟨-, -, ⟨count, answer, hcount, hanswer, hrun⟩ | ⟨-, hrun⟩⟩
  · rw [hrun] at h
    cases h
    exact .other hanswer (by decide) rfl
  · rw [hrun] at h
    cases h
    have hbefore : s.failureCounts[caseId]? = some case.failureCount := by
      unfold Store.failureCounts
      rw [List.getElem?_map, hcase]
      rfl
    refine .updated hanswer.1 hanswer.2 hbefore hcount ?_
    have hset : s.recoveryCases.modify caseId (updateCase env event count) =
        s.recoveryCases.set caseId (updateCase env event count case) := Table.modify_eq_set hcase
    unfold Store.failureCounts updated
    rw [hset, List.map_set, updateCase_failureCount]
  · rw [hrun] at h
    cases h

theorem createNewCase_tallied {customerId txId : UUID}
    (hkey : s.caseByKey (deriveCaseKey event) = none)
    (h : createNewCase env event customerId txId s = .ok (outcome, t)) :
    Tallied outcome s.failureCounts t.failureCounts := by
  rcases createNewCase_cases env customerId txId hkey with ⟨fault, -, hrun⟩ | ⟨risk, -, hrun⟩
  · rw [hrun] at h
    cases h
  split at hrun
  · rw [hrun] at h
    cases h
  · obtain ⟨answer, hanswer, hrun⟩ := hrun
    rw [hrun] at h
    cases h
    refine .opened hanswer.1 (by rw [hanswer.2]; unfold Store.failureCounts; simp) ?_
    unfold Store.failureCounts opened
    rw [List.map_append, List.map_singleton, newCase_failureCount]

/-- Every event that is processed is tallied. -/
theorem processEvent_tallied (h : processEvent env event s = .ok (outcome, t)) :
    Tallied outcome s.failureCounts t.failureCounts := by
  by_cases htype : cleanType event ∈ CASE_CREATION_ELIGIBLE_EVENTS ++ CASE_RESOLUTION_EVENTS
  swap
  · unfold processEvent at h
    rw [if_neg htype] at h
    have hignored : outcome.outcome = .IGNORED := by
      cases h
      rfl
    cases h
    exact .other hignored (by decide) rfl
  have hsame : (provisioned s event).failureCounts = s.failureCounts := by
    unfold Store.failureCounts
    rw [provisioned_recoveryCases]
  rw [processEvent_apply env s htype] at h
  unfold processProvisioned at h
  rw [← hsame]
  by_cases hsuccess : cleanType event ∈ CASE_RESOLUTION_EVENTS
  · rw [if_pos hsuccess] at h
    exact handlePaymentSucceeded_tallied h
  rw [if_neg hsuccess] at h
  rcases hmatch : matchedCase s event with _ | ⟨caseId, case⟩
  · rw [hmatch] at h
    exact createNewCase_tallied (caseByKey_provisioned_of_matchedCase hmatch) h
  · rw [hmatch] at h
    refine handleExistingCaseUpdate_tallied ?_ h
    rw [provisioned_recoveryCases]
    exact getElem?_of_findExistingCase hmatch

end EventToCaseEngine

/-! ## Which receipts count -/

/-- A receipt, by its provider and event id, and what the engine answered to its event. -/
structure EngineAnswer where
  provider : String
  externalEventId : String
  outcome : CaseProcessingOutcome

def EngineAnswer.receipt (answer : EngineAnswer) : String × String :=
  (answer.provider, answer.externalEventId)

/-- What the engine answers when the ingestion of an event reaches it and is not rolled back. -/
def EventService.engineAnswer (env : Env) (event : CanonicalEventDTO) (payloadHash : String)
    (signatureVerified : Bool) (s : Store) : Option EngineAnswer :=
  match EventValidator.validate env event with
  | .error _ => none
  | .ok () =>
    match EventDeduplicator.evaluateAndRecord event payloadHash signatureVerified "ACCEPTED" s with
    | .error _ => none
    | .ok (result, t) =>
      if result.duplicate then none
      else
        match processEvent env event t with
        | .error _ => none
        | .ok (outcome, _) => some ⟨lower event.provider, event.externalEventId, outcome⟩

/-- The receipt that a request leaves, with the engine's answer. -/
def Request.engineAnswer (w : World) (r : Request) : Option EngineAnswer :=
  match r.ask with
  | .operation (.ingestEvent event payloadHash signatureVerified) =>
    if r.env.crash then none
    else EventService.engineAnswer r.env event payloadHash signatureVerified w.db
  | _ => none

/-- The engine's answers in a run, in the order of the requests. -/
def World.engineAnswers (config : PolicyConfig) : World → List Request → List EngineAnswer
  | _, [] => []
  | w, r :: rest => (r.engineAnswer w).toList ++ engineAnswers config (w.step config r) rest

/-- The distinct receipts whose events opened or updated the case. -/
def countedReceipts (answers : List EngineAnswer) (caseId : UUID) : Finset (String × String) :=
  ((answers.filter fun a => a.outcome.CountsFor caseId).map EngineAnswer.receipt).toFinset

/-- The answers that count for the case. -/
def tally (answers : List EngineAnswer) (caseId : UUID) : ℕ :=
  (answers.filter fun a => a.outcome.CountsFor caseId).length

theorem tally_append (answers more : List EngineAnswer) (caseId : UUID) :
    tally (answers ++ more) caseId = tally answers caseId + tally more caseId := by
  unfold tally
  rw [List.filter_append, List.length_append]

theorem tally_singleton_of_counts {answer : EngineAnswer} {caseId : UUID}
    (h : answer.outcome.CountsFor caseId) : tally [answer] caseId = 1 := by
  simp [tally, h]

theorem tally_singleton_of_not {answer : EngineAnswer} {caseId : UUID}
    (h : ¬answer.outcome.CountsFor caseId) : tally [answer] caseId = 0 := by
  simp [tally, h]

/-- What the rows say about the answers so far. -/
structure TallyKept (s : Store) (answers : List EngineAnswer) : Prop where
  distinct : (answers.map EngineAnswer.receipt).Nodup
  received : ∀ a ∈ answers,
    (WebhookEventRepository.find s a.provider a.externalEventId).isSome = true
  stored : ∀ a ∈ answers, ∀ caseId, a.outcome.CountsFor caseId → caseId < s.failureCounts.length
  counted : ∀ a ∈ answers, ∀ caseId, a.outcome.Opens caseId →
    s.failureCounts[caseId]? = some (some (.int (tally answers caseId)))

namespace TallyKept

variable {s t : Store} {answers : List EngineAnswer} {answer : EngineAnswer}

theorem empty : TallyKept Store.empty [] :=
  ⟨.nil, fun _ h => absurd h List.not_mem_nil, fun _ h => absurd h List.not_mem_nil,
    fun _ h => absurd h List.not_mem_nil⟩

/-- Receipts stay. -/
theorem received_evolve (h : TallyKept s answers) (hevolved : Evolved s t) :
    ∀ a ∈ answers, (WebhookEventRepository.find t a.provider a.externalEventId).isSome = true := by
  intro a ha
  obtain ⟨⟨id, row⟩, hfind⟩ := Option.isSome_iff_exists.mp (h.received a ha)
  obtain ⟨later, hlater, -⟩ := WebhookEventRepository.find_evolve hevolved hfind
  rw [hlater]
  rfl

/-- A request that reaches no engine and counts nothing. -/
theorem quiet (h : TallyKept s answers) (hevolved : Evolved s t)
    (hcounts : s.failureCounts <+: t.failureCounts) : TallyKept t answers := by
  obtain ⟨more, hmore⟩ := hcounts
  refine ⟨h.distinct, h.received_evolve hevolved, fun a ha caseId hcase => ?_,
    fun a ha caseId hcase => ?_⟩
  · rw [← hmore, List.length_append]
    exact Nat.lt_add_right _ (h.stored a ha caseId hcase)
  · rw [← hmore]
    exact Table.getElem?_append_of_some (h.counted a ha caseId hcase) more

/-- The count of an opened case after one more answer. -/
theorem counted_answer (h : TallyKept s answers)
    (htallied : Tallied answer.outcome s.failureCounts t.failureCounts) :
    ∀ a ∈ answers ++ [answer], ∀ caseId, a.outcome.Opens caseId →
      t.failureCounts[caseId]? = some (some (.int (tally (answers ++ [answer]) caseId))) := by
  intro a ha caseId hopens
  rw [tally_append]
  rw [List.mem_append, List.mem_singleton] at ha
  cases htallied with
  | unchanged houtcome hafter =>
    have hnone : ¬answer.outcome.CountsFor caseId := fun hcounts => houtcome hcounts.1
    rcases ha with hold | rfl
    · rw [hafter, tally_singleton_of_not hnone]
      exact h.counted a hold caseId hopens
    · exact absurd hopens.countsFor hnone
  | @updated updatedId count next houtcome hupdated hbefore hnext hafter =>
    have hold : a ∈ answers := by
      rcases ha with hold | rfl
      · exact hold
      · cases houtcome.symm.trans hopens.1
    have hcount := h.counted a hold caseId hopens
    rw [hafter]
    by_cases hsame : updatedId = caseId
    · subst hsame
      have hcounts : answer.outcome.CountsFor updatedId := ⟨by rw [houtcome]; decide, hupdated⟩
      rw [hcount, Option.some.injEq] at hbefore
      subst hbefore
      cases hnext
      have hlt := h.stored a hold updatedId hopens.countsFor
      rw [List.getElem?_set_self hlt, tally_singleton_of_counts hcounts]
      rfl
    · have hnone : ¬answer.outcome.CountsFor caseId := by
        rintro ⟨-, hcase⟩
        exact hsame (Option.some.inj (hupdated.symm.trans hcase))
      rw [List.getElem?_set_ne hsame, hcount, tally_singleton_of_not hnone]
      rfl
  | opened houtcome hopened hafter =>
    rw [hafter]
    rcases ha with hold | rfl
    · have hlt := h.stored a hold caseId hopens.countsFor
      have hnone : ¬answer.outcome.CountsFor caseId := by
        rintro ⟨-, hcase⟩
        have hid := Option.some.inj (hopened.symm.trans hcase)
        exact Nat.lt_irrefl _ (hid ▸ hlt)
      rw [List.getElem?_append_left hlt, h.counted a hold caseId hopens,
        tally_singleton_of_not hnone]
      rfl
    · obtain rfl := Option.some.inj (hopened.symm.trans hopens.2)
      have hfirst : tally answers s.failureCounts.length = 0 := by
        unfold tally
        rw [List.length_eq_zero_iff, List.filter_eq_nil_iff]
        intro b hb hcounts
        exact Nat.lt_irrefl _ (h.stored b hb _ (of_decide_eq_true hcounts))
      rw [List.getElem?_concat_length, hfirst, tally_singleton_of_counts hopens.countsFor]
      rfl

/-- The engine answers to an event whose receipt is new. -/
theorem answered (h : TallyKept s answers) (hevolved : Evolved s t)
    (htallied : Tallied answer.outcome s.failureCounts t.failureCounts)
    (hnew : WebhookEventRepository.find s answer.provider answer.externalEventId = none)
    (hreceived :
      (WebhookEventRepository.find t answer.provider answer.externalEventId).isSome = true) :
    TallyKept t (answers ++ [answer]) := by
  have hlength : s.failureCounts.length ≤ t.failureCounts.length := by
    unfold Store.failureCounts
    rw [List.length_map, List.length_map]
    exact hevolved.recoveryCases.length_le
  refine ⟨?_, ?_, ?_, h.counted_answer htallied⟩
  · rw [List.map_append, List.map_singleton]
    refine List.nodup_append.mpr ⟨h.distinct, List.nodup_singleton _, ?_⟩
    rintro receipt hreceipt _ hone rfl
    rw [List.mem_singleton] at hone
    obtain ⟨a, ha, hsame⟩ := List.mem_map.mp hreceipt
    obtain ⟨hprovider, hid⟩ := Prod.mk.inj (hsame.trans hone)
    have hfound := h.received a ha
    rw [hprovider, hid, hnew] at hfound
    cases hfound
  · exact Table.forall_append_one (h.received_evolve hevolved) hreceived
  · refine Table.forall_append_one
      (fun a ha caseId hcase => Nat.lt_of_lt_of_le (h.stored a ha caseId hcase) hlength) ?_
    intro caseId hcase
    cases htallied with
    | unchanged houtcome _ => exact absurd hcase.1 houtcome
    | updated _ hupdated hbefore _ _ =>
      obtain rfl := Option.some.inj (hupdated.symm.trans hcase.2)
      exact Nat.lt_of_lt_of_le (List.getElem?_eq_some_iff.mp hbefore).1 hlength
    | opened _ hopened hafter =>
      obtain rfl := Option.some.inj (hopened.symm.trans hcase.2)
      rw [hafter, List.length_append]
      exact Nat.lt_add_one _

end TallyKept

/-! ## What a request leaves -/

/-- Without the permission to rewrite them, numbers of failures are only added. -/
theorem Writes.failureCounts {A : Authority} {s t : Store} (h : Writes A s t)
    (hidle : ¬A.counts) : s.failureCounts <+: t.failureCounts := by
  induction h with
  | refl => exact List.prefix_refl _
  | @tail u v _ hstep ih =>
    refine ih.trans ?_
    cases hstep with
    | addCase row _ _ =>
      have hmore : Store.failureCounts { u with recoveryCases := u.recoveryCases ++ [row] } =
          u.failureCounts ++ [row.failureCount] := List.map_append
      exact ⟨_, hmore.symm⟩
    | setCase id f hf =>
      have hsame : (u.modifyCase id f).failureCounts = u.failureCounts :=
        Table.map_modify_row fun c hc => ((hf c hc).counted).resolve_left hidle
      rw [hsame]
    | _ => exact List.prefix_refl _

namespace EventService

variable {env : Env} {event : CanonicalEventDTO} {payloadHash : String} {signatureVerified : Bool}
  {s : Store}

/-- An ingestion that does not reach the engine, or that the engine breaks off. -/
theorem engineAnswer_none (h : engineAnswer env event payloadHash signatureVerified s = none) :
    (ingestCanonicalEvent env event payloadHash signatureVerified).commit s = s := by
  rcases ingestCanonicalEvent_commit env event payloadHash signatureVerified s with
    hsame | ⟨hvalid, hnew, outcome, u, hrun, -⟩
  · exact hsame
  · unfold engineAnswer at h
    rw [hvalid] at h
    dsimp only at h
    rw [evaluateAndRecord_new payloadHash signatureVerified hnew] at h
    dsimp only at h
    rw [if_neg Bool.false_ne_true, hrun] at h
    cases h

/-- An ingestion that the engine answers leaves a new receipt and the rows that it processed. -/
theorem engineAnswer_some {answer : EngineAnswer}
    (h : engineAnswer env event payloadHash signatureVerified s = some answer) :
    ∃ u, processEvent env event (received s event payloadHash signatureVerified) =
        .ok (answer.outcome, u) ∧
      answer.provider = lower event.provider ∧ answer.externalEventId = event.externalEventId ∧
      WebhookEventRepository.find s (lower event.provider) event.externalEventId = none ∧
      (ingestCanonicalEvent env event payloadHash signatureVerified).commit s =
        processed u s.webhookEvents.length := by
  unfold engineAnswer at h
  rcases hvalid : EventValidator.validate env event with fault | _
  · rw [hvalid] at h
    cases h
  rw [hvalid] at h
  dsimp only at h
  rcases hfind : WebhookEventRepository.find s (lower event.provider) event.externalEventId with
    _ | existing
  · rw [evaluateAndRecord_new payloadHash signatureVerified hfind] at h
    dsimp only at h
    rw [if_neg Bool.false_ne_true] at h
    rcases hrun : processEvent env event (received s event payloadHash signatureVerified) with
      fault | ⟨outcome, u⟩
    · rw [hrun] at h
      cases h
    · rw [hrun] at h
      cases h
      refine ⟨u, rfl, rfl, rfl, rfl, ?_⟩
      unfold Tx.commit
      rw [ingestCanonicalEvent_new env payloadHash signatureVerified hvalid hfind, hrun]
  · rw [evaluateAndRecord_found payloadHash signatureVerified hfind] at h
    split at h
    · cases h
    · rename_i hrecord
      split at hrecord
      · cases hrecord
      · cases hrecord
        cases h

end EventService

namespace World

variable {config : PolicyConfig} {w : World} {r : Request} {answers : List EngineAnswer}

/-- The ingestion of an event keeps the tally. -/
theorem step_ingest_tallyKept (env : Env) (event : CanonicalEventDTO) (payloadHash : String)
    (signatureVerified : Bool) (h : TallyKept w.db answers) :
    TallyKept (w.step config ⟨env, .operation (.ingestEvent event payloadHash signatureVerified)⟩).db
      (answers ++ (Request.engineAnswer w
        ⟨env, .operation (.ingestEvent event payloadHash signatureVerified)⟩).toList) := by
  have hevolved := step_evolved config w
    ⟨env, .operation (.ingestEvent event payloadHash signatureVerified)⟩
  unfold step commitUnlessCrash at hevolved ⊢
  unfold Request.engineAnswer
  dsimp only at hevolved ⊢
  by_cases hcrash : env.crash = true
  · rw [if_pos hcrash, if_pos hcrash]
    rw [Option.toList_none, List.append_nil]
    exact h
  rw [if_neg hcrash] at hevolved
  rw [if_neg hcrash, if_neg hcrash]
  dsimp only [Operation.service] at hevolved ⊢
  rw [ignoringResult_commit] at hevolved ⊢
  rcases hanswer : EventService.engineAnswer env event payloadHash signatureVerified w.db with
    _ | answer
  · rw [EventService.engineAnswer_none hanswer, Option.toList_none, List.append_nil]
    exact h
  · obtain ⟨u, hrun, hprovider, hid, hnew, hcommit⟩ := EventService.engineAnswer_some hanswer
    rw [hcommit] at hevolved ⊢
    have hbefore : (EventService.received w.db event payloadHash signatureVerified).failureCounts =
        w.db.failureCounts := rfl
    have hafter : (EventService.processed u w.db.webhookEvents.length).failureCounts =
        u.failureCounts := rfl
    have htallied := processEvent_tallied hrun
    rw [hbefore, ← hafter] at htallied
    have hreceived : EventService.HasReceipt
        (EventService.processed u w.db.webhookEvents.length) event payloadHash := by
      have hdelivered := EventToCaseEngine.delivered_of_ok hrun
      exact ((EventService.hasReceipt_received payloadHash signatureVerified hnew).evolve
        hdelivered.evolved).evolve (EventService.processed_evolved u _)
    obtain ⟨id, row, hfound, -⟩ := hreceived
    rw [← hprovider, ← hid] at hnew hfound
    refine h.answered hevolved htallied hnew ?_
    rw [hfound]
    rfl

/-- A request that may not rewrite a number of failures adds at most rows. -/
theorem step_failureCounts (h : ∀ op, r.ask = .operation op → ¬op.Counts) :
    w.db.failureCounts <+: (w.step config r).db.failureCounts := by
  obtain ⟨env, ask⟩ := r
  cases ask with
  | operation op => exact (step_operation_writes config w env op).failureCounts (h op rfl)
  | execute workflowId executeAll override provider =>
    obtain ⟨sent, hexecuted⟩ := step_execute
    exact hexecuted.writes.failureCounts id
  | reconcilePending provider limit =>
    exact (step_reconcile_writes config w env provider limit).failureCounts id

end World

/-! ## Whole runs -/

/-- Operators leave the metadata of cases alone, and events come in by their ingestion. -/
def Request.LeavesCounting (r : Request) : Prop :=
  ∀ op, r.ask = .operation op → op.Counts →
    ∃ event payloadHash signatureVerified, op = .ingestEvent event payloadHash signatureVerified

namespace World

variable {config : PolicyConfig} {w : World} {r : Request} {answers : List EngineAnswer}

theorem step_tallyKept (hr : r.LeavesCounting) (h : TallyKept w.db answers) :
    TallyKept (w.step config r).db (answers ++ (r.engineAnswer w).toList) := by
  by_cases hingests : ∃ env event payloadHash signatureVerified,
    r = ⟨env, .operation (.ingestEvent event payloadHash signatureVerified)⟩
  · obtain ⟨env, event, payloadHash, signatureVerified, rfl⟩ := hingests
    exact step_ingest_tallyKept env event payloadHash signatureVerified h
  have hidle : ∀ op, r.ask = .operation op → ¬op.Counts := by
    intro op hop hcounts
    obtain ⟨event, payloadHash, signatureVerified, rfl⟩ := hr op hop hcounts
    exact hingests ⟨r.env, event, payloadHash, signatureVerified, by rw [← hop]⟩
  have hnone : r.engineAnswer w = none := by
    obtain ⟨env, ask⟩ := r
    cases ask with
    | operation op =>
      cases op with
      | ingestEvent event payloadHash signatureVerified =>
        exact absurd ⟨env, event, payloadHash, signatureVerified, rfl⟩ hingests
      | _ => rfl
    | _ => rfl
  rw [hnone, Option.toList_none, List.append_nil]
  exact h.quiet (step_evolved config w r) (step_failureCounts hidle)

/-- The tally is kept over a run. -/
theorem run_tallyKept (requests : List Request) (hguard : ∀ r ∈ requests, r.LeavesCounting)
    (h : TallyKept w.db answers) :
    TallyKept (w.run config requests).db (answers ++ w.engineAnswers config requests) := by
  induction requests generalizing w answers with
  | nil =>
    rw [engineAnswers, List.append_nil]
    exact h
  | cons r rest ih =>
    rw [engineAnswers, ← List.append_assoc]
    exact ih (fun r' hr' => hguard r' (List.mem_cons_of_mem _ hr'))
      (step_tallyKept (hguard r List.mem_cons_self) h)

end World

/-- Where each answer has a receipt of its own, the answers that count are as many as their
receipts. -/
theorem countedReceipts_card {answers : List EngineAnswer}
    (h : (answers.map EngineAnswer.receipt).Nodup) (caseId : UUID) :
    (countedReceipts answers caseId).card = tally answers caseId := by
  unfold countedReceipts tally
  have hsub : ((answers.filter fun a => a.outcome.CountsFor caseId).map
      EngineAnswer.receipt).Nodup := h.sublist (List.filter_sublist.map _)
  rw [List.toFinset_card_of_nodup hsub, List.length_map]

/-- In every run in which operators leave the metadata alone, a case that an event opened records
as many failures as there are distinct receipts whose events opened or updated it. -/
theorem failures_are_counted (config : PolicyConfig) (requests : List Request)
    (hguard : ∀ r ∈ requests, r.LeavesCounting) {caseId : UUID} {case : RecoveryCase}
    (hopened : ∃ a ∈ World.empty.engineAnswers config requests, a.outcome.Opens caseId)
    (hcase : (World.empty.run config requests).db.recoveryCases[caseId]? = some case) :
    case.metadataJson.lookup "failure_count" =
      some (.int (countedReceipts (World.empty.engineAnswers config requests) caseId).card) := by
  have hkept : TallyKept (World.empty.run config requests).db
      ([] ++ World.empty.engineAnswers config requests) :=
    World.run_tallyKept requests hguard TallyKept.empty
  rw [List.nil_append] at hkept
  obtain ⟨a, ha, hopens⟩ := hopened
  have hcounted := hkept.counted a ha caseId hopens
  unfold Store.failureCounts at hcounted
  rw [List.getElem?_map, hcase, Option.map_some, Option.some.injEq] at hcounted
  rw [countedReceipts_card hkept.distinct]
  exact hcounted

namespace Sample

/-- The ingestion of a failure of `pay_1`. -/
def ingested (externalEventId : String) : Request :=
  request (.ingestEvent (event externalEventId "PAYMENT_FAILED") "digest" true)

/-- Two failures and a second delivery of the first, with a recommendation in between. -/
def failures : List Request := [ingested "evt_1", recommended, ingested "evt_2", ingested "evt_1"]

theorem failures_leaveCounting : ∀ r ∈ failures, r.LeavesCounting := by
  intro r hr op hop hcounts
  simp only [failures, List.mem_cons, List.not_mem_nil, or_false] at hr
  rcases hr with rfl | rfl | rfl | rfl
  · cases hop
    exact ⟨_, _, _, rfl⟩
  · cases hop
    exact hcounts.elim
  · cases hop
    exact ⟨_, _, _, rfl⟩
  · cases hop
    exact ⟨_, _, _, rfl⟩

end Sample

/-- Three deliveries of two failures are counted as two. -/
theorem failures_are_counted_twice :
    ((World.empty.run .default Sample.failures).db.recoveryCases[0]?).map
      (fun case => case.metadataJson.lookup "failure_count") = some (some (.int 2)) := by
  have hopened : ∃ a ∈ World.empty.engineAnswers .default Sample.failures, a.outcome.Opens 0 := by
    decide +kernel
  have htwo : (countedReceipts (World.empty.engineAnswers .default Sample.failures) 0).card = 2 := by
    decide +kernel
  have hsome : ((World.empty.run .default Sample.failures).db.recoveryCases[0]?).isSome = true := by
    decide +kernel
  obtain ⟨case, hcase⟩ := Option.isSome_iff_exists.mp hsome
  have hcount := failures_are_counted .default Sample.failures Sample.failures_leaveCounting
    hopened hcase
  rw [hcase, Option.map_some, hcount, htwo]
  rfl

end RevenueRescue
