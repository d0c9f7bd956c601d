import RevenueRescue.Refinement.World

/-!
# The idempotency keys of workflow steps

No two steps of all workflows share a key, and every execution belongs to a step that is no
longer pending. So a step that is still due has no execution under its key, and its key
identifies it.
-/

namespace RevenueRescue

open Python

variable {A : Authority} {s : Store}

/-- What the step keys and the executions look like in a database that grew from the empty one. -/
structure KeysSound (s : Store) : Prop where
  unique : s.stepKeys.Nodup
  underway : ∀ row ∈ s.executions, Underway s row

theorem KeysSound.empty : KeysSound Store.empty :=
  ⟨List.nodup_nil, by simp [Store.empty]⟩

/-- An execution's step stays out of the pending ones. -/
theorem Underway.evolve {t : Store} (h : Evolved s t) {row : RecoveryExecution}
    (hs : Underway s row) : Underway t row := by
  obtain ⟨workflow, position, step, hworkflow, hstep, hpending, hkey⟩ := hs
  obtain ⟨workflow', hworkflow', hprogress⟩ := h.workflows.getElem? hworkflow
  obtain ⟨step', hstep', hstepProgress⟩ := hprogress.steps.getElem? hstep
  refine ⟨workflow', position, step', hworkflow', hstep', ?_, ?_⟩
  · cases hstill : step'.isPending with
    | false => rfl
    | true => exact absurd (hstepProgress.pending hstill) (by simp [hpending])
  · exact hstepProgress.idempotencyKey.trans hkey

/-- Progress of a workflow keeps the keys of its steps. -/
theorem WorkflowProgress.keys {before after : RecoveryWorkflow}
    (h : WorkflowProgress before after) :
    after.steps.map WorkflowStep.idempotencyKey = before.steps.map WorkflowStep.idempotencyKey := by
  apply List.ext_getElem?
  intro i
  rw [List.getElem?_map, List.getElem?_map]
  rcases hrow : before.steps[i]? with _ | step
  · have hlength := List.getElem?_eq_none_iff.mp hrow
    rw [List.getElem?_eq_none (by rw [h.length]; exact hlength)]
  · obtain ⟨step', hstep', hprogress⟩ := h.steps.getElem? hrow
    rw [hstep', Option.map_some, Option.map_some, hprogress.idempotencyKey]

theorem stepKeys_modifyWorkflow {f : RecoveryWorkflow → RecoveryWorkflow}
    (hf : ∀ w, WorkflowProgress w (f w)) (id : UUID) :
    (s.modifyWorkflow id f).stepKeys = s.stepKeys := by
  have hcolumn := Table.map_modify
    (g := fun w : RecoveryWorkflow => w.steps.map WorkflowStep.idempotencyKey) (f := f)
    (fun w => (hf w).keys) s.workflows id
  unfold Store.stepKeys Store.modifyWorkflow
  rw [List.flatMap_def, List.flatMap_def]
  exact congrArg List.flatten hcolumn

theorem Write.keysSound {t : Store} (h : Write A s t) (hs : KeysSound s) : KeysSound t := by
  have hevolved := h.evolved
  have hkept : ∀ row ∈ s.executions, Underway t row :=
    fun row hrow => (hs.underway row hrow).evolve hevolved
  cases h with
  | addWorkflow row hcreates hbuilt hkeys =>
    refine ⟨?_, hkept⟩
    have happend : Store.stepKeys { s with workflows := s.workflows ++ [row] } =
        s.stepKeys ++ row.steps.map WorkflowStep.idempotencyKey := by
      simp [Store.stepKeys]
    rw [happend, List.nodup_append]
    refine ⟨hs.unique, hkeys.1, ?_⟩
    rintro key hold _ hnew rfl
    obtain ⟨step, hstep, rfl⟩ := List.mem_map.mp hnew
    exact hkeys.2 step hstep hold
  | setWorkflow id f hexecutes hf =>
    refine ⟨?_, hkept⟩
    rw [stepKeys_modifyWorkflow hf]
    exact hs.unique
  | addExecution row hexecutes hunderway =>
    exact ⟨hs.unique, Table.forall_append_one hkept (hunderway.evolve hevolved)⟩
  | _ => exact ⟨hs.unique, hkept⟩

theorem Writes.keysSound {t : Store} (h : Writes A s t) (hs : KeysSound s) : KeysSound t := by
  induction h with
  | refl => exact hs
  | tail _ hstep ih => exact hstep.keysSound ih

/-- Every reachable database has sound keys. -/
theorem World.run_keysSound (config : PolicyConfig) (requests : List Request) :
    KeysSound (World.empty.run config requests).db :=
  Run.invariant (I := fun w : World => KeysSound w.db)
    (fun w r hw => (World.step_writes config w r).keysSound hw) requests KeysSound.empty

/-- A key identifies its step. -/
theorem KeysSound.token_eq (h : KeysSound s) {i j p q : ℕ} {v w : RecoveryWorkflow}
    {a b : WorkflowStep} (hv : s.workflows[i]? = some v) (ha : v.steps[p]? = some a)
    (hw : s.workflows[j]? = some w) (hb : w.steps[q]? = some b)
    (hkey : a.idempotencyKey = b.idempotencyKey) : i = j ∧ p = q := by
  obtain ⟨heach, hpairwise⟩ := List.nodup_flatMap.mp h.unique
  obtain ⟨hi, rfl⟩ := List.getElem?_eq_some_iff.mp hv
  obtain ⟨hj, rfl⟩ := List.getElem?_eq_some_iff.mp hw
  have hdisjoint : ∀ {k l : ℕ} (hk : k < s.workflows.length) (hl : l < s.workflows.length),
      k < l → List.Disjoint (s.workflows[k].steps.map WorkflowStep.idempotencyKey)
        (s.workflows[l].steps.map WorkflowStep.idempotencyKey) :=
    fun hk hl hlt => List.pairwise_iff_getElem.mp hpairwise _ _ hk hl hlt
  have hmemA := List.mem_map_of_mem (f := WorkflowStep.idempotencyKey) (List.mem_of_getElem? ha)
  have hmemB := List.mem_map_of_mem (f := WorkflowStep.idempotencyKey) (List.mem_of_getElem? hb)
  rcases Nat.lt_trichotomy i j with hlt | rfl | hlt
  · exact (hdisjoint hi hj hlt hmemA (hkey ▸ hmemB)).elim
  · refine ⟨rfl, ?_⟩
    have hnodup := heach _ (List.getElem_mem hi)
    obtain ⟨hp, rfl⟩ := List.getElem?_eq_some_iff.mp ha
    obtain ⟨hq, rfl⟩ := List.getElem?_eq_some_iff.mp hb
    have hp' : p < (s.workflows[i].steps.map WorkflowStep.idempotencyKey).length := by simpa using hp
    have hq' : q < (s.workflows[i].steps.map WorkflowStep.idempotencyKey).length := by simpa using hq
    have hsame : (s.workflows[i].steps.map WorkflowStep.idempotencyKey)[p] =
        (s.workflows[i].steps.map WorkflowStep.idempotencyKey)[q] := by simpa using hkey
    exact hnodup.getElem_inj_iff.mp hsame
  · exact (hdisjoint hj hi hlt hmemB (hkey ▸ hmemA)).elim

/-- A pending step has no execution under its key. -/
theorem KeysSound.unexecuted (h : KeysSound s) {workflowId position : ℕ}
    {workflow : RecoveryWorkflow} {step : WorkflowStep}
    (hworkflow : s.workflows[workflowId]? = some workflow)
    (hstep : workflow.steps[position]? = some step) (hpending : step.isPending = true) :
    ∀ row ∈ s.executions, row.idempotencyKey ≠ step.idempotencyKey := by
  intro row hrow hkey
  obtain ⟨workflow', position', step', hworkflow', hstep', hnot, hkey'⟩ := h.underway row hrow
  obtain ⟨hid, rfl⟩ := h.token_eq hworkflow' hstep' hworkflow hstep (hkey'.trans hkey)
  rw [hid, hworkflow, Option.some.injEq] at hworkflow'
  subst hworkflow'
  rw [hstep, Option.some.injEq] at hstep'
  subst hstep'
  rw [hpending] at hnot
  cases hnot

end RevenueRescue
