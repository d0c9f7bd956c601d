import RevenueRescue.Properties.History

/-!
# The numbering of the audit log

`AuditEventRepository.record` continues the audit log of a case, `reconcile_case` counts its
records, and `CaseTransitionService.transition` writes the number of its transition into it.
The three agree as long as each transition finds both logs of its case at the same number;
then the log is dense, no operation meets a number that is taken, and every allowed
transition succeeds. Otherwise a transition can be aborted by its own audit record.
-/

namespace RevenueRescue

open Python

/-- The request asks for an operation that keeps the numbering of the rows it meets. -/
def Request.Numbered (w : World) (r : Request) : Prop :=
  ∃ op, r.ask = .operation op ∧ op.Numbered r.env w.db

/-- A numbered request keeps the audit logs dense. -/
theorem World.step_auditLogsDense {config : PolicyConfig} {w : World} {r : Request}
    (hr : r.Numbered w) (hw : AuditLogsDense w.db) : AuditLogsDense (w.step config r).db := by
  obtain ⟨env, ask⟩ := r
  obtain ⟨op, rfl, hnumbered⟩ := hr
  have hkeeps : Keeps (op.authority config True w.db) w.db (op.service config env) :=
    Operation.service_keeps (fun _ => hw) fun _ => hnumbered
  exact (commitUnlessCrash_writes hkeeps).auditLogsDense trivial hw

/-- In a run of numbered requests the audit log of every case carries `1, 2, …` in the order of
writing, no operation is aborted by the numbering, and allowed transitions succeed. -/
theorem audit_log_is_dense (config : PolicyConfig) (requests : List Request)
    (hguard : Run.Guarded (World.step config) (fun w r => r.Numbered w) World.empty requests) :
    AuditLogsDense (World.empty.run config requests).db ∧
      (∀ before r later op, requests = before ++ r :: later → r.ask = .operation op →
        op.service config r.env (World.empty.run config before).db ≠
          .error (.integrityError .uq_audit_case_sequence)) ∧
      ∀ before env caseId toState reasonCode actorType later case,
        requests =
          before ++ ⟨env, .operation (.transition caseId toState reasonCode actorType)⟩ :: later →
        (World.empty.run config before).db.recoveryCases[caseId]? = some case →
        toState ∈ CaseTransitionService.ALLOWED_TRANSITIONS case.state →
        ∃ result t, CaseTransitionService.transition env caseId toState reasonCode actorType
          (World.empty.run config before).db = .ok (result, t) := by
  have hdense : ∀ acts, Run.Guarded (World.step config) (fun w r => r.Numbered w) World.empty acts →
      AuditLogsDense (World.empty.run config acts).db := by
    intro acts hacts
    exact Run.guarded_invariant (I := fun w : World => AuditLogsDense w.db)
      (fun w r hr hw => World.step_auditLogsDense hr hw) acts hacts fun _ => Numbering.dense_nil
  -- the state and the request of each step of the run
  have hsteps : ∀ before r later, requests = before ++ r :: later →
      AuditLogsDense (World.empty.run config before).db ∧
        r.Numbered (World.empty.run config before) := by
    rintro before r later rfl
    obtain ⟨hbefore, hr, -⟩ := (Run.guarded_append before (r :: later)).mp hguard
    exact ⟨hdense before hbefore, hr⟩
  refine ⟨hdense requests hguard, fun before r later op hsplit hop => ?_, ?_⟩
  · obtain ⟨hw, op', hop', hnumbered⟩ := hsteps before r later hsplit
    rw [hop, Ask.operation.injEq] at hop'
    subst hop'
    have hkeeps : Keeps (op.authority config True (World.empty.run config before).db)
        (World.empty.run config before).db (op.service config r.env) :=
      Operation.service_keeps (fun _ => hw) fun _ => hnumbered
    exact fun herror => hkeeps.unaborted herror trivial rfl
  · intro before env caseId toState reasonCode actorType later case hsplit hcase hallowed
    obtain ⟨-, op, hop, hnumbered⟩ := hsteps before _ later hsplit
    rw [Ask.operation.injEq] at hop
    subst hop
    refine CaseTransitionService.transition_ok env reasonCode actorType hcase hallowed ?_
    rw [hnumbered case hcase hallowed]
    exact Numbering.next_not_mem _

namespace Sample

/-- The transition out of `DETECTED`. -/
def contextReady : Request := request (.transition 0 .CONTEXT_READY "context_loaded" .SYSTEM)

/-- An operator's change of the priority, which is audited but is no transition. -/
def reprioritised : Request := request (.updateCase 0 { priority := some 99, metadata := none } none)

end Sample

/-- A case that is opened and then moved on keeps both logs at the same number. -/
theorem audit_log_is_dense_opened :
    AuditLogsDense (World.empty.run .default [Sample.failure, Sample.contextReady]).db := by
  have hguard : Run.Guarded (World.step .default) (fun w r => r.Numbered w) World.empty
      [Sample.failure, Sample.contextReady] := by
    refine ⟨⟨_, rfl, trivial⟩, ⟨_, rfl, fun _ _ _ => ?_⟩, trivial⟩
    decide +kernel
  exact (audit_log_is_dense .default _ hguard).1

/-- After a change of the priority the allowed transition is aborted by its audit record. -/
theorem transition_aborted_by_audit_number :
    let db := (World.empty.run .default [Sample.failure, Sample.reprioritised]).db
    (db.recoveryCases[0]?.map RecoveryCase.state = some .DETECTED ∧
      .CONTEXT_READY ∈ CaseTransitionService.ALLOWED_TRANSITIONS .DETECTED) ∧
      (CaseTransitionService.transition Sample.env 0 .CONTEXT_READY "context_loaded"
        .SYSTEM).fault db = some (.integrityError .uq_audit_case_sequence) := by
  decide +kernel

end RevenueRescue
