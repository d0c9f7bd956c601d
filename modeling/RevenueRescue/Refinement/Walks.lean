import RevenueRescue.Refinement.Surplus

/-!
# Walks of a case through the table

A request may move one case several times through `CaseTransitionService`. A walk collects what
its moves wrote: one entry in each log for every state on the path, under consecutive numbers.
Each move needs its number free in the audit log, and the records of the moves before it never
take it.
-/

namespace RevenueRescue

open Python

namespace CaseTransitionService

variable {env : Env} {s : Store} {caseId : UUID} {case : RecoveryCase}
  {toState : RecoveryCaseState} {reasonCode : String} {actorType : ActorType}

theorem auditNumbers_transitioned :
    (transitioned env s caseId case toState reasonCode actorType).auditNumbers caseId =
      s.auditNumbers caseId ++ [s.nextTransitionNumber caseId] :=
  (auditNumbers_append rfl caseId).trans (congrArg (s.auditNumbers caseId ++ ·) (if_pos rfl))

theorem nextTransitionNumber_transitioned :
    (transitioned env s caseId case toState reasonCode actorType).nextTransitionNumber caseId =
      s.nextTransitionNumber caseId + 1 := by
  have hnumbers :
      (transitioned env s caseId case toState reasonCode actorType).transitionNumbers caseId =
        s.transitionNumbers caseId ++ [Numbering.next (s.transitionNumbers caseId)] :=
    (transitionNumbers_append rfl caseId).trans
      (congrArg (s.transitionNumbers caseId ++ ·) (if_pos rfl))
  unfold Store.nextTransitionNumber
  rw [hnumbers, Numbering.next_append_next]

end CaseTransitionService

/-- From `s` to `t` the case went along the path, and it is in the state now. -/
structure Walked (s : Store) (caseId : UUID) (path : List RecoveryCaseState)
    (state : RecoveryCaseState) (t : Store) : Prop where
  caseRow : ∃ case, t.recoveryCases[caseId]? = some case ∧ case.state = state
  logged : ∃ entries, t.transitions = s.transitions ++ entries ∧
    entries.map (fun entry => (entry.caseId, entry.toState)) = path.map (caseId, ·)
  numbered : t.nextTransitionNumber caseId = s.nextTransitionNumber caseId + path.length
  audited : t.auditNumbers caseId =
    s.auditNumbers caseId ++ List.range' (s.nextTransitionNumber caseId) path.length
  free : ∀ k < path.length, s.nextTransitionNumber caseId + k ∉ s.auditNumbers caseId

namespace Walked

variable {env : Env} {s t u : Store} {caseId : UUID} {case : RecoveryCase}
  {path : List RecoveryCaseState} {state toState : RecoveryCaseState} {reasonCode : String}
  {actorType : ActorType}

/-- No move was made yet. -/
theorem start (hcase : s.recoveryCases[caseId]? = some case) :
    Walked s caseId [] case.state s := by
  refine ⟨⟨case, hcase, rfl⟩, ⟨[], ?_, rfl⟩, rfl, ?_, fun k hk => ?_⟩
  · rw [List.append_nil]
  · rw [List.length_nil, List.range'_zero, List.append_nil]
  · exact absurd hk (Nat.not_lt_zero k)

/-- Only the cases and the two logs matter. -/
theorem of_same (h : Walked s caseId path state t) (hcases : u.recoveryCases = t.recoveryCases)
    (htransitions : u.transitions = t.transitions) (haudits : u.auditEvents = t.auditEvents) :
    Walked s caseId path state u := by
  refine ⟨?_, ?_, ?_, ?_, h.free⟩
  · rw [hcases]
    exact h.caseRow
  · rw [htransitions]
    exact h.logged
  · rw [nextTransitionNumber_of_same htransitions]
    exact h.numbered
  · unfold Store.auditNumbers Store.auditsOf
    rw [haudits]
    exact h.audited

/-- The next number is free in the audit log after the walk when it was before it. -/
theorem free_iff (h : Walked s caseId path state t) :
    t.nextTransitionNumber caseId ∉ t.auditNumbers caseId ↔
      s.nextTransitionNumber caseId + path.length ∉ s.auditNumbers caseId := by
  rw [h.numbered, h.audited, List.mem_append, List.mem_range'_1, not_or]
  refine ⟨And.left, fun hfree => ⟨hfree, ?_⟩⟩
  omega

/-- The next move of the table is carried out when its number is free. -/
theorem carriesOut (h : Walked s caseId path state t)
    (hallowed : toState ∈ CaseTransitionService.ALLOWED_TRANSITIONS state)
    (hfree : s.nextTransitionNumber caseId + path.length ∉ s.auditNumbers caseId) :
    ∃ case, CaseTransitionService.CarriesOut t caseId toState case := by
  obtain ⟨case, hcase, rfl⟩ := h.caseRow
  exact ⟨case, hcase, hallowed, h.free_iff.mpr hfree⟩

/-- One more move. -/
theorem step (h : Walked s caseId path state t)
    (hcarries : CaseTransitionService.CarriesOut t caseId toState case) :
    Walked s caseId (path ++ [toState]) toState
      (CaseTransitionService.transitioned env t caseId case toState reasonCode actorType) := by
  have hfree := h.free_iff.mp hcarries.numberFree
  refine ⟨⟨CaseTransitionService.applyTransition env toState case, ?_, rfl⟩, ?_, ?_, ?_, ?_⟩
  · show (t.recoveryCases.modify caseId _)[caseId]? = _
    rw [List.getElem?_modify_eq, hcarries.caseRow]
    rfl
  · obtain ⟨entries, hentries, hpath⟩ := h.logged
    refine ⟨entries ++
      [CaseTransitionService.transitionEntry env t caseId case toState reasonCode actorType], ?_, ?_⟩
    · rw [← List.append_assoc, ← hentries]
      rfl
    · rw [List.map_append, List.map_append, hpath]
      rfl
  · rw [CaseTransitionService.nextTransitionNumber_transitioned, h.numbered, List.length_append,
      List.length_singleton, Nat.add_assoc]
  · rw [CaseTransitionService.auditNumbers_transitioned, h.audited, h.numbered, List.length_append,
      List.length_singleton, List.range'_concat, Nat.one_mul, List.append_assoc]
  · intro k hk
    rw [List.length_append, List.length_singleton] at hk
    rcases Nat.lt_succ_iff_lt_or_eq.mp hk with hlt | rfl
    · exact h.free k hlt
    · exact hfree

/-- A transition that ends normally is one more move. -/
theorem of_transition (h : Walked s caseId path state t)
    {result : CaseTransitionService.TransitionResult}
    (hrun : CaseTransitionService.transition env caseId toState reasonCode actorType t =
      .ok (result, u)) :
    Walked s caseId (path ++ [toState]) toState u ∧ u.attempts = t.attempts := by
  obtain ⟨case, hcarries, rfl⟩ := CaseTransitionService.of_transition hrun
  exact ⟨h.step hcarries, rfl⟩

/-- A move that the table allows and whose number is free ends normally. -/
theorem transition_ok (h : Walked s caseId path state t) (env : Env)
    (toState : RecoveryCaseState) (reasonCode : String) (actorType : ActorType)
    (hallowed : toState ∈ CaseTransitionService.ALLOWED_TRANSITIONS state)
    (hfree : s.nextTransitionNumber caseId + path.length ∉ s.auditNumbers caseId) :
    ∃ result u, CaseTransitionService.transition env caseId toState reasonCode actorType t =
      .ok (result, u) := by
  obtain ⟨case, hcarries⟩ := h.carriesOut hallowed hfree
  exact CaseTransitionService.transition_ok env reasonCode actorType hcarries.caseRow
    hcarries.allowed hcarries.numberFree

/-- The path holds the states that the new entries of the log lead to. -/
theorem mem_path (h : Walked s caseId path state t) :
    (∃ entry ∈ t.transitions.drop s.transitions.length,
      entry.caseId = caseId ∧ entry.toState = toState) ↔ toState ∈ path := by
  obtain ⟨entries, hentries, hpath⟩ := h.logged
  have hmem : (caseId, toState) ∈ path.map (caseId, ·) ↔ toState ∈ path := by simp
  rw [hentries, List.drop_left, ← hmem, ← hpath, List.mem_map]
  simp only [Prod.mk.injEq]

end Walked

end RevenueRescue
