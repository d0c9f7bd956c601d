import RevenueRescue.Refinement.Chain

/-!
# Every payment retry is gated and authorised

A call of `submit_retry` is made only when the rows at that instant allow it, and, in a
system that started empty, only for a workflow built on an approval of a payment retry that
an evaluation of the same case recorded earlier, for an amount below the threshold.
-/

namespace RevenueRescue

open Python

/-- The calls a request makes are gated, from any rows and however the workflow is driven. -/
theorem calls_are_gated (config : PolicyConfig) (w : World) (r : Request) :
    ∃ sent, (w.step config r).sent = w.sent ++ sent ∧
      ∀ sub ∈ sent, ∃ case txn, sub.Gated case txn := by
  obtain ⟨env, ask⟩ := r
  cases ask with
  | operation op => exact ⟨[], by simp [World.step], by simp⟩
  | execute workflowId executeAll override provider =>
    obtain ⟨sent, hexecuted⟩ := World.step_execute
    exact ⟨sent, hexecuted.calls, fun sub hsub => (hexecuted.sanctioned sub hsub).gated⟩
  | reconcilePending provider limit => exact ⟨[], by simp [World.step], by simp⟩

/-- The authority a call rests on: the workflow and the approval it was built on, and an amount
below the threshold for its currency. -/
structure Submission.Authorised (config : PolicyConfig) (sub : Submission)
    (workflow : RecoveryWorkflow) (decision : PolicyDecision) : Prop where
  workflowRow : sub.db.workflows[sub.workflowId]? = some workflow
  workflowCase : workflow.caseId = sub.request.caseId
  decisionRow : sub.db.policyDecisions[workflow.policyDecisionId]? = some decision
  approved : decision.decisionStatus = .APPROVED
  retry : decision.proposedAction = .RETRY_PAYMENT
  decisionCase : decision.caseId = sub.request.caseId
  amount : sub.request.amountMinor < config.getHighValueThreshold sub.request.currency.code

theorem Sanctioned.authorised {config : PolicyConfig} {A : Authority} {s : Store}
    {sub : Submission} (hconfig : A.config = config) (h : Sanctioned A s sub)
    (hs : Chain config s) : ∃ workflow decision, sub.Authorised config workflow decision := by
  subst hconfig
  have hchain : Chain A.config sub.db := h.writes.chain hs
  obtain ⟨case, txn, hgated⟩ := h.gated
  obtain ⟨workflow, step, hplaced⟩ := h.placed
  have hstands := hchain.workflows sub.workflowId workflow hplaced.workflowRow
  obtain ⟨-, decision, hdecision, happroved, hretry, hcase⟩ :=
    hstands.dispatch hplaced.stepRow hplaced.stepType
  have hcaseId : decision.caseId = sub.request.caseId := hcase.trans hplaced.caseId
  obtain ⟨case', txn', hcase', htxn', hlow⟩ :=
    hchain.approvals decision (List.mem_of_getElem? hdecision) happroved
  rw [hcaseId] at hcase'
  obtain rfl : case' = case := Option.some.inj (hcase'.symm.trans hgated.caseRow)
  obtain rfl : txn' = txn := Option.some.inj (htxn'.symm.trans hgated.transactionRow)
  refine ⟨workflow, decision, hplaced.workflowRow, hplaced.caseId, hdecision, happroved, hretry,
    hcaseId, ?_⟩
  rw [hgated.amount, hgated.currency]
  exact Nat.lt_of_not_le (of_decide_eq_false hlow)

/-- Every call follows an evaluation of its case that recorded the approval it rests on. -/
theorem calls_are_authorised (before : List Request) (r : Request) :
    ∃ sent,
      (World.empty.run .default (before ++ [r])).sent =
        (World.empty.run .default before).sent ++ sent ∧
      ∀ sub ∈ sent, ∃ workflow decision earlier env request later,
        sub.Authorised .default workflow decision ∧
        before = earlier ++ ⟨env, .operation (.evaluate request)⟩ :: later ∧
        request.caseId = sub.request.caseId ∧
        (World.empty.run .default earlier).db.policyDecisions[workflow.policyDecisionId]? ≠
          some decision ∧
        (World.empty.run .default
          (earlier ++ [⟨env, .operation (.evaluate request)⟩])).db.policyDecisions[
            workflow.policyDecisionId]? = some decision := by
  have hstep : World.empty.run .default (before ++ [r]) =
      (World.empty.run .default before).step .default r := Run.after_snoc ..
  rw [hstep]
  obtain ⟨env, ask⟩ := r
  cases ask with
  | operation op => exact ⟨[], by simp [World.step], by simp⟩
  | reconcilePending provider limit => exact ⟨[], by simp [World.step], by simp⟩
  | execute workflowId executeAll override provider =>
    obtain ⟨sent, hexecuted⟩ := World.step_execute
    refine ⟨sent, hexecuted.calls, fun sub hsub => ?_⟩
    have hsanctioned := hexecuted.sanctioned sub hsub
    obtain ⟨workflow, decision, hauthorised⟩ :=
      hsanctioned.authorised rfl (World.run_chain .default before)
    have hstored : (World.empty.run .default before).db.policyDecisions[
        workflow.policyDecisionId]? = some decision := by
      rcases hsanctioned.writes.decided hauthorised.decisionRow with hold | hdecides
      · exact hold
      · exact hdecides.elim
    obtain ⟨earlier, evaluation, later, hbefore, habsent, hpresent⟩ :=
      Run.exists_step (P := fun v : World =>
        v.db.policyDecisions[workflow.policyDecisionId]? = some decision) before
        (by simp [World.empty, Store.empty]) hstored
    obtain ⟨env', request, rfl, hcase⟩ := World.step_decides habsent hpresent
    refine ⟨workflow, decision, earlier, env', request, later, hauthorised, hbefore, ?_, habsent, ?_⟩
    · exact hcase.trans hauthorised.decisionCase
    · rw [World.run, Run.after_snoc]
      exact hpresent

end RevenueRescue
