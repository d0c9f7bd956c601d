import RevenueRescue.Properties.ConcurrentDeliveries
import RevenueRescue.Refinement.Overlaps

/-!
# Concurrent writes to one case

Neither `transition_state` nor `process_event` locks the row of a case or compares its version.
Two of them that both commit a write to the same case lose none exactly when the second one has
not loaded the case before the first one commits: then they may as well have run one after the
other. Otherwise the second one overwrites the row with what it computed from the old one, be it
in a terminal state by now, and the version counts one write instead of two.

The numbers of the logs stop the second operation only if it has asked for them before the
first one commits.
-/

namespace RevenueRescue

open ReadCommitted

/-- Two operations that run at the same time. -/
structure CaseOperations where
  env : Bool → Env
  operation : Bool → CaseOperation

/-- The state of the two operations. -/
abbrev CaseRun : Type := Config Bool Tables Fault RowLock UUID CaseAnswer

/-- The operation that commits last has loaded the case before the other one commits. -/
def StaleCommit (caseId : UUID) (trace : List (Bool × Event UUID)) : Prop :=
  ∃ last t₁ t₂, trace = t₁ ++ (!last, .committed) :: t₂ ∧ (last, .moved (some caseId)) ∈ t₁ ∧
    (last, .committed) ∈ t₂

namespace CaseOperations

variable (ops : CaseOperations)

/-- The statements of one operation. -/
def statements (i : Bool) : Statements CaseAnswer := (ops.operation i).statements (ops.env i)

/-- The keys drawn for new cases are new. -/
def DrawsNew (db : Tables) : Prop :=
  (∀ i caseId, (ops.operation i).drawnCase = some caseId →
    caseId ∉ db.recoveryCases.map Prod.fst) ∧
  ∀ i caseId, (ops.operation i).drawnCase = some caseId →
    (ops.operation !i).drawnCase ≠ some caseId

/-- The two operations come out as if they had run one after the other, with the same answers.
In particular the version has counted both writes, and the second commit leaves a case alone that
the first one has brought to a terminal state. -/
structure NoLostUpdate (db : Tables) (caseId : UUID) (trace : List (Bool × Event UUID))
    (answer : Bool → CaseAnswer) (ws : Bool → List RowWrite) (c : CaseRun) : Prop where
  serial : ∃ first, (ops.statements first).run db [] = .ok (answer first, ws first) ∧
    (ops.statements !first).run (view db (ws first)) [] = .ok (answer !first, ws !first) ∧
    c.db = view (view db (ws first)) (ws !first)
  version : c.db.versionOf caseId = db.versionOf caseId + 2
  terminal : ∀ first t₁ t₂ row, trace = t₁ ++ (first, .committed) :: t₂ →
    (!first, .committed) ∈ t₂ → (view db (ws first)).caseById caseId = some (caseId, row) →
    row.state.isTerminal = true → c.db.caseById caseId = some (caseId, row)

end CaseOperations

/-! ## One commit after the other -/

section Commits

variable {env : Env} {op : CaseOperation} {db : Tables} {ws us : List RowWrite} {caseId : UUID}
  {answer : CaseAnswer}

/-- An operation that runs alone and writes to a case counts its version. -/
theorem CaseOperation.versionOf_run (hids : db.CaseIdsUnique)
    (hnew : op.drawnCase = some caseId → db.caseById caseId = none)
    (hrun : (op.statements env).run db [] = .ok (answer, ws))
    (hmutated : answer.mutated = some caseId) :
    (view db ws).versionOf caseId = db.versionOf caseId + 1 := by
  rcases run_wrote hids hrun hmutated with ⟨row, hrow, hwrote⟩ | ⟨hdrawn, hwrote⟩
  · rw [hwrote.versionOf hrow]
    simp [Tables.versionOf, hrow]
  · rw [hwrote.versionOf_new (hnew hdrawn)]
    simp [Tables.versionOf, hnew hdrawn]

theorem Tables.caseById_eq_none (h : caseId ∉ db.recoveryCases.map Prod.fst) :
    db.caseById caseId = none := by
  unfold caseById
  refine List.find?_eq_none.mpr fun row hrow hkey => h ?_
  rw [← beq_iff_eq.mp hkey]
  exact List.mem_map_of_mem hrow

theorem Tables.mem_of_caseById {row : UUID × RecoveryCase} (h : db.caseById caseId = some row) :
    caseId ∈ db.recoveryCases.map Prod.fst := by
  rw [← caseById_fst h]
  exact List.mem_map_of_mem (List.mem_of_find?_eq_some h)

theorem Tables.exists_of_versionOf (h : 0 < db.versionOf caseId) :
    ∃ row, db.caseById caseId = some (caseId, row) := by
  unfold versionOf at h
  rcases hrow : db.caseById caseId with _ | ⟨id, row⟩
  · rw [hrow] at h
    exact absurd h (Nat.lt_irrefl 0)
  · obtain rfl : id = caseId := caseById_fst hrow
    exact ⟨row, rfl⟩

/-- What the second operation relies on when the first one has committed. -/
theorem CaseOperation.overtaken (hids : db.CaseIdsUnique)
    (hnew : op.drawnCase = some caseId → caseId ∉ db.recoveryCases.map Prod.fst)
    (hrun : (op.statements env).run db [] = .ok (answer, ws))
    (hmutated : answer.mutated = some caseId)
    (hlocks : ∀ u ∈ us, ∀ v ∈ ws, u.lock ≠ v.lock) :
    Overtaken caseId db (view db ws) us := by
  have hfree : ∀ {P : Prop} {lock : RowLock}, (P ∧ ∃ v ∈ ws, v.lock = lock) →
      P ∧ ∀ u ∈ us, u.lock ≠ lock := by
    rintro P lock ⟨hP, v, hv, rfl⟩
    exact ⟨hP, fun u hu => hlocks u hu v hv⟩
  rcases run_wrote hids hrun hmutated with ⟨row, hrow, hwrote⟩ | ⟨hdrawn, hwrote⟩
  · exact ⟨hids, hwrote.caseIdsUnique hids, fun _ _ hnone hrow => hwrote.caseByKey hnone hrow,
      fun _ _ => (hwrote.customers db _ _).imp_right hfree,
      (hwrote.transactions hrow).imp_right fun h _ _ => (h _ _).imp_right hfree⟩
  · have hnone := Tables.caseById_eq_none (hnew hdrawn)
    exact ⟨hids, hwrote.caseIdsUnique_new hids (hnew hdrawn),
      fun _ _ hnone hrow => hwrote.caseByKey hnone hrow,
      fun _ _ => (hwrote.customers db _ _).imp_right hfree,
      (hwrote.transactions hnone).imp_right fun h _ _ => (h _ _).imp_right hfree⟩

/-! ## Two commits -/

/-- Two operations that both commit a write to the same case lose none if and only if the one that
commits last has not loaded the case before the other one commits. -/
theorem CaseOperations.no_lost_update_iff (ops : CaseOperations) (hids : db.CaseIdsUnique)
    (hnew : ops.DrawsNew db) {trace : List (Bool × Event UUID)} {c : CaseRun}
    (h : Steps (.start db ops.statements) trace c) {answer : Bool → CaseAnswer}
    {ws : Bool → List RowWrite} (hend : ∀ i, c.session i = .committed (answer i) (ws i))
    (hmutated : ∀ i, (answer i).mutated = some caseId) :
    ops.NoLostUpdate db caseId trace answer ws c ↔ ¬StaleCommit caseId trace := by
  obtain ⟨first, t₁, t₂, rfl, hnone, honce, hlast, hoverlap, hdb⟩ := h.two_commits hend
  obtain ⟨us, hlocks, hsplit⟩ := hoverlap.split
  have hover : Overtaken caseId db (view db (ws first)) us :=
    CaseOperation.overtaken hids (hnew.1 first caseId) hoverlap.alone (hmutated first) hlocks
  have hversion := CaseOperation.versionOf_run hids
    (fun hdrawn => Tables.caseById_eq_none (hnew.1 first caseId hdrawn)) hoverlap.alone
    (hmutated first)
  have hdrawn : (ops.operation !first).drawnCase ≠ some caseId := by
    rcases CaseOperation.run_wrote hids hoverlap.alone (hmutated first) with
      ⟨row, hrow, -⟩ | ⟨hown, -⟩
    · exact fun hother => hnew.1 _ _ hother (Tables.mem_of_caseById hrow)
    · exact hnew.2 first caseId hown
  have hcases := CaseOperation.split hover hdrawn hsplit (hmutated !first)
  rw [mem_found] at hcases
  constructor
  · rintro hkept ⟨last, s₁, s₂, htrace, hloaded, hcommit⟩
    obtain ⟨hfirst, rfl⟩ := first_commit_unique htrace hnone honce (by rwa [Bool.not_not])
    subst hfirst
    rw [Bool.not_not] at hcases
    obtain ⟨-, row, hrow, hwrote⟩ := hcases.resolve_right fun hnot => hnot.1 hloaded
    have hcounted : 0 < (view db (ws !last)).versionOf caseId := by
      rw [hversion]
      exact Nat.succ_pos _
    obtain ⟨row', hrow'⟩ := Tables.exists_of_versionOf hcounted
    have hcount := hwrote.versionOf hrow'
    have htwice := hkept.version
    rw [hdb, Bool.not_not, hcount] at htwice
    simp [Tables.versionOf, hrow] at htwice
  · intro hfresh
    obtain ⟨-, hrun⟩ := hcases.resolve_left fun hstale =>
      hfresh ⟨!first, t₁, t₂, by rw [Bool.not_not], hstale.1, hlast⟩
    refine ⟨⟨first, hoverlap.alone, hrun, hdb⟩, ?_, ?_⟩
    · rw [hdb, CaseOperation.versionOf_run hover.ids' (fun hown => absurd hown hdrawn) hrun
        (hmutated !first), hversion]
    · intro i s₁ s₂ row htrace hlater hrow hterminal
      obtain ⟨rfl, rfl⟩ := first_commit_unique htrace hnone honce hlater
      rcases CaseOperation.run_wrote hover.ids' hrun (hmutated !i) with
        ⟨row', hrow', pre, tail, -, -, hmutation⟩ | ⟨hown, -⟩
      · cases hrow.symm.trans hrow'
        exact Bool.noConfusion (hterminal.symm.trans hmutation.active)
      · exact absurd hown hdrawn

end Commits

namespace Sample

/-- The rows after a failed payment: the case 2 is detected. -/
def detectedTables : Tables :=
  (Concurrent.processEvent env (event "evt_1" "PAYMENT_FAILED") ⟨0, 1, 2, 3⟩).commit emptyTables

/-- The case is taken on by hand while its payment succeeds. -/
def takenOnWhilePaid : CaseOperations where
  env _ := env
  operation i :=
    if i then .processEvent (event "evt_2" "PAYMENT_SUCCEEDED") ⟨4, 5, 6, 7⟩
    else .transitionState 2 ⟨.CONTEXT_READY, "MANUAL", .SYSTEM⟩

end Sample

/-- An operation that begins after the other one has ended has not loaded the case before. -/
theorem not_staleCommit_of_turns {caseId : UUID} {t t' : List (Bool × Event UUID)} {first : Bool}
    (h : ∀ e ∈ t, e.1 = first) (h' : ∀ e ∈ t', e.1 = !first) : ¬StaleCommit caseId (t ++ t') := by
  rintro ⟨last, s₁, s₂, htrace, hloaded, hcommit⟩
  rcases List.append_eq_append_iff.mp htrace with ⟨as, rfl, rfl⟩ | ⟨bs, rfl, hrest⟩
  · -- both commits are in the second turn
    have hother := h' _ (List.mem_append_right as List.mem_cons_self)
    have hsame := h' _ (List.mem_append_right as (List.mem_cons_of_mem _ hcommit))
    exact not_ne last (hother.trans hsame.symm)
  · rcases bs with _ | ⟨e, bs⟩
    · rw [List.nil_append] at hrest
      subst hrest
      have hother := h' _ List.mem_cons_self
      have hsame := h' _ (List.mem_cons_of_mem _ hcommit)
      exact not_ne last (hother.trans hsame.symm)
    · obtain ⟨rfl, -⟩ := List.cons_eq_cons.mp hrest
      have hother := h _ (List.mem_append_right s₁ List.mem_cons_self)
      have hsame := h _ (List.mem_append_left _ hloaded)
      exact not_ne last (hother.trans hsame.symm)

/-- Two runs that end normally, the second one on what the first one leaves. -/
theorem ends_in_turn {p q : Statements CaseAnswer} {db : Tables} {caseId : UUID}
    (h : ((p.run db []).toOption.bind fun r => ((q.run (view db r.2) []).toOption.map fun r' =>
      (r.1.mutated, r'.1.mutated))) = some (some caseId, some caseId)) :
    ∃ a b ws vs, p.run db [] = .ok (a, ws) ∧ q.run (view db ws) [] = .ok (b, vs) ∧
      a.mutated = some caseId ∧ b.mutated = some caseId := by
  rcases hp : p.run db [] with fault | ⟨a, ws⟩
  · rw [hp] at h
    cases h
  rw [hp] at h
  dsimp only [Except.toOption, Option.bind] at h
  rcases hq : q.run (view db ws) [] with fault | ⟨b, vs⟩
  · rw [hq] at h
    cases h
  · rw [hq] at h
    obtain ⟨ha, hb⟩ := Prod.mk.inj (Option.some.inj h)
    exact ⟨a, b, ws, vs, rfl, hq, ha, hb⟩

/-- The case is taken on and afterwards recovered. -/
theorem no_lost_update_iff_inTurn :
    ∃ (trace : List (Bool × Event UUID)) (c : CaseRun) (answer : Bool → CaseAnswer)
      (ws : Bool → List RowWrite),
      Steps (.start Sample.detectedTables Sample.takenOnWhilePaid.statements) trace c ∧
        Sample.takenOnWhilePaid.NoLostUpdate Sample.detectedTables 2 trace answer ws c := by
  have hends : (((Sample.takenOnWhilePaid.statements false).run
      Sample.detectedTables []).toOption.bind fun r => (((Sample.takenOnWhilePaid.statements
        true).run (view Sample.detectedTables r.2) []).toOption.map fun r' =>
          (r.1.mutated, r'.1.mutated))) = some (some 2, some 2) := by
    decide +kernel
  obtain ⟨a, b, ws, vs, hfirst, hsecond, ha, hb⟩ := ends_in_turn hends
  obtain ⟨t, t', d, hown, hown', hsteps, hd, hd', -⟩ := Config.turns
    (c := .start Sample.detectedTables Sample.takenOnWhilePaid.statements) (i := false) rfl rfl
    hfirst hsecond
  refine ⟨t ++ t', d, fun i => if i then b else a, fun i => if i then vs else ws, hsteps,
    (CaseOperations.no_lost_update_iff Sample.takenOnWhilePaid ?_ ?_ hsteps ?_ ?_).mpr
      (not_staleCommit_of_turns hown hown')⟩
  · unfold Tables.CaseIdsUnique
    decide +kernel
  · unfold CaseOperations.DrawsNew
    decide +kernel
  · rintro (_ | _)
    · exact hd
    · exact hd'
  · rintro (_ | _)
    · exact ha
    · exact hb

namespace Sample

/-- What is left of taking the case on after it was looked up. -/
def takingOn (t : Tables) : Statements CaseAnswer :=
  (match t.caseById 2 with
    | none => .fail (.entityNotFound "RecoveryCase" (UUID.str 2))
    | some (_, case) => Concurrent.transitionLoaded env 2 ⟨.CONTEXT_READY, "MANUAL", .SYSTEM⟩ case :
      Statements Unit) >>= fun _ => pure (.transitioned 2)

/-- The operations after the case was looked up. -/
def caseLookedUp : CaseRun :=
  ⟨detectedTables, Function.update (Config.start detectedTables
    takenOnWhilePaid.statements).session false (.running (takingOn detectedTables) [])⟩

theorem caseLookup_step : Step (.start detectedTables takenOnWhilePaid.statements)
    (false, .moved (some 2)) caseLookedUp := by
  have hfind : (detectedTables.caseById 2).map Prod.fst = some 2 := by decide +kernel
  have hquery : takenOnWhilePaid.statements false =
      .query (fun t => (t.caseById 2).map Prod.fst) takingOn := rfl
  have hmove : Move detectedTables (takenOnWhilePaid.statements false) [] (some 2)
      (takingOn detectedTables) [] := by
    rw [hquery, ← hfind]
    exact .query _ _ _
  refine .move rfl (fun u next violated _ j _ q vs hj => ?_) hmove
  cases hj
  exact fun _ hv => absurd hv List.not_mem_nil

end Sample

/-- A case that was loaded for a transition is recovered before that transition is committed, which
then overwrites the terminal state; the version has counted one of the two writes. -/
theorem recovered_case_is_overwritten :
    ∃ (trace : List (Bool × Event UUID)) (c : CaseRun) (answer : Bool → CaseAnswer)
      (ws : Bool → List RowWrite),
      Steps (.start Sample.detectedTables Sample.takenOnWhilePaid.statements) trace c ∧
        (∀ i, c.session i = .committed (answer i) (ws i)) ∧
        (∀ i, (answer i).mutated = some 2) ∧
        ¬Sample.takenOnWhilePaid.NoLostUpdate Sample.detectedTables 2 trace answer ws c ∧
        ((view Sample.detectedTables (ws true)).caseById 2).map (fun r => r.2.state) =
          some .RECOVERED ∧
        (c.db.caseById 2).map (fun r => r.2.state) = some .CONTEXT_READY := by
  have hends : (((Sample.takenOnWhilePaid.statements true).run
      Sample.detectedTables []).toOption.bind fun r => (((Sample.takingOn
        Sample.detectedTables).run (view Sample.detectedTables r.2) []).toOption.map fun r' =>
          (r.1.mutated, r'.1.mutated))) = some (some 2, some 2) := by
    decide +kernel
  have hstates : (((Sample.takenOnWhilePaid.statements true).run
      Sample.detectedTables []).toOption.bind fun r => (((Sample.takingOn
        Sample.detectedTables).run (view Sample.detectedTables r.2) []).toOption.map fun r' =>
          (((view Sample.detectedTables r.2).caseById 2).map fun c => c.2.state,
            ((view (view Sample.detectedTables r.2) r'.2).caseById 2).map fun c => c.2.state,
            (view (view Sample.detectedTables r.2) r'.2).versionOf 2))) =
      some (some .RECOVERED, some .CONTEXT_READY, 2) := by
    decide +kernel
  have hversion : Sample.detectedTables.versionOf 2 = 1 := by decide +kernel
  obtain ⟨a, b, ws, vs, hfirst, hsecond, ha, hb⟩ := ends_in_turn hends
  rw [hfirst] at hstates
  dsimp only [Except.toOption, Option.bind] at hstates
  rw [hsecond] at hstates
  obtain ⟨hrecovered, hlast⟩ := Prod.mk.inj (Option.some.inj hstates)
  obtain ⟨htaken, hcounted⟩ := Prod.mk.inj hlast
  obtain ⟨t, t', d, -, -, hsteps, hd, hd', hdb⟩ := Config.turns (c := Sample.caseLookedUp)
    (i := true) rfl rfl hfirst hsecond
  refine ⟨_, d, fun i => if i then a else b, fun i => if i then ws else vs,
    (Steps.refl.tail Sample.caseLookup_step).trans hsteps, ?_, ?_, fun hkept => ?_, hrecovered, ?_⟩
  · rintro (_ | _)
    · exact hd'
    · exact hd
  · rintro (_ | _)
    · exact hb
    · exact ha
  · have htwice := hkept.version
    rw [hdb, hversion] at htwice
    cases hcounted.symm.trans htwice
  · rw [hdb]
    exact htaken

end RevenueRescue
