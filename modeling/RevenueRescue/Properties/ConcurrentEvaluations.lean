import RevenueRescue.Concurrency.Evaluations
import RevenueRescue.Properties.Replay

/-!
# Concurrent evaluations with one idempotency key

The key is looked up at the beginning of an evaluation and its decision is sent at the end. What
stands between two evaluations that both found no decision is the audit log: if both have asked
for their audit number before one of them commits, they hold the same number, and the second one
is refused. An evaluation that asks for its number only after another one has committed gets the
next number, and then both decisions are stored.
-/

namespace RevenueRescue

open ReadCommitted PolicyEngineService

/-- The stored decisions of a case with an idempotency key. -/
def Store.decisionsFor (s : Store) (caseId : UUID) (key : String) : List PolicyDecision :=
  s.policyDecisions.filter fun d => d.caseId == caseId && d.idempotencyKey == some key

/-- The case and the recommendation of the request are stored. -/
def Store.Knows (s : Store) (request : PolicyEvaluationRequest) : Prop :=
  request.caseId < s.recoveryCases.length ∧ request.recommendationId < s.decisions.length

/-- The calls of the policy engine that run at the same time. -/
structure EvaluationCalls (ι : Type) where
  env : ι → Env
  config : ι → PolicyConfig
  drawn : ι → UUID
  request : ι → PolicyEvaluationRequest

namespace EvaluationCalls

variable {ι : Type} (calls : EvaluationCalls ι)

/-- The statements of one call. -/
def statements (i : ι) : EvaluationStatements PolicyEvaluationResult :=
  .evaluate (calls.env i) (calls.config i) (calls.drawn i) (calls.request i)

/-- All calls carry the case and the key. -/
def Carry (caseId : UUID) (key : String) : Prop :=
  ∀ i, (calls.request i).caseId = caseId ∧ (calls.request i).idempotencyKey = some key

end EvaluationCalls

/-- The state of the calls. -/
abbrev EvaluationRun (ι : Type) : Type :=
  Config ι Store Fault EvaluationLock EvaluationQuery PolicyEvaluationResult

/-- A call asks for its audit number only while no decision with the key is committed. -/
def AsksInTime {ι : Type} (caseId : UUID) (key : String) (c : EvaluationRun ι)
    (e : ι × Event EvaluationQuery) : Prop :=
  e.2 = .moved (some .auditNumber) → c.db.decisionsFor caseId key = []

/-! ## What the writes of a decision change -/

namespace EvaluationStatements.Draft

variable {d : Draft} {auditNumber : ℕ}

theorem view_decisionWrites_auditEvents (d : Draft) (s : Store) :
    (view s d.decisionWrites).auditEvents = s.auditEvents := by
  unfold decisionWrites
  dsimp only
  split_ifs <;> rcases d.transitionNumber with _ | n <;> rfl

theorem view_writes_policyDecisions (d : Draft) (auditNumber : ℕ) (s : Store) :
    (view s (d.writes auditNumber)).policyDecisions = s.policyDecisions ++ [d.decision] := by
  unfold writes decisionWrites
  dsimp only
  split_ifs <;> rcases d.transitionNumber with _ | n <;> rfl

theorem view_writes_recoveryCases_length (d : Draft) (auditNumber : ℕ) (s : Store) :
    (view s (d.writes auditNumber)).recoveryCases.length = s.recoveryCases.length := by
  unfold writes decisionWrites
  dsimp only
  split_ifs <;> rcases d.transitionNumber with _ | n <;> first | rfl | exact List.length_modify ..

theorem view_writes_decisions_length (d : Draft) (auditNumber : ℕ) (s : Store) :
    (view s (d.writes auditNumber)).decisions.length = s.decisions.length := by
  unfold writes decisionWrites
  dsimp only
  split_ifs <;> rcases d.transitionNumber with _ | n <;> first | rfl | exact List.length_modify ..

/-- The audit number is taken, and no other one of the case. -/
theorem view_writes_auditNumbers (d : Draft) (auditNumber : ℕ) (s : Store) :
    (view s (d.writes auditNumber)).auditNumbers d.request.caseId =
      s.auditNumbers d.request.caseId ++ [auditNumber] := by
  have haudits : (view s (d.writes auditNumber)).auditEvents =
      s.auditEvents ++ [d.auditRow auditNumber] := by
    unfold writes
    rw [view_snoc, ← view_decisionWrites_auditEvents d s]
    rfl
  unfold Store.auditNumbers Store.auditsOf
  rw [haudits, List.filter_append, List.map_append]
  simp [auditRow]

end EvaluationStatements.Draft

/-! ## Where a call stands -/

variable {s s₀ t : Store} {caseId : UUID} {key : String}

/-- The lookup of the key finds a stored decision, or there is none. -/
theorem replayed_some {request : PolicyEvaluationRequest} {stored : PolicyDecision}
    (hkey : request.idempotencyKey = some key) (h : replayed s request = some stored) :
    stored ∈ s.decisionsFor request.caseId key := by
  unfold replayed at h
  split_ifs at h
  rw [hkey] at h
  obtain ⟨⟨id, row⟩, hfind, rfl⟩ := Option.map_eq_some_iff.mp h
  obtain ⟨hrow, hmatch⟩ := Table.find?_some hfind
  exact List.mem_filter.mpr ⟨List.mem_of_getElem? hrow, hmatch⟩

theorem replayed_none {request : PolicyEvaluationRequest}
    (hkey : request.idempotencyKey = some key) (hne : key ≠ "")
    (h : replayed s request = none) : s.decisionsFor request.caseId key = [] := by
  unfold replayed at h
  rw [if_pos (by simp [hkey, Python.truthy, hne]), Option.map_eq_none_iff] at h
  refine List.filter_eq_nil_iff.mpr fun row hrow => ?_
  rw [hkey, Option.getD_some] at h
  have hother := Table.find?_none.mp h row hrow
  rw [hother]
  exact Bool.false_ne_true

/-- As many cases and recommendations as in the other database. -/
def SameCounts (s₀ s : Store) : Prop :=
  s.recoveryCases.length = s₀.recoveryCases.length ∧ s.decisions.length = s₀.decisions.length

namespace EvaluationStatements

/-- The points up to which an evaluation that repeats no decision only asks: it fails, it answers
without a decision, or it has one and asks for its audit number. -/
inductive Reached (s₀ : Store) (request : PolicyEvaluationRequest) :
    EvaluationStatements PolicyEvaluationResult → Prop
  | fail (fault : Fault) : Reached s₀ request (.fail fault)
  | unknown {result : PolicyEvaluationResult} (hunknown : ¬s₀.Knows request)
      (hstatus : result.decisionStatus = .INSUFFICIENT_INFORMATION) :
    Reached s₀ request (.done result)
  | record {d : Draft} {result : PolicyEvaluationResult} (hknown : s₀.Knows request)
      (hrequest : d.request = request) (hcase : d.decision.caseId = request.caseId)
      (hkey : d.decision.idempotencyKey = request.idempotencyKey)
      (hstatus : result.decisionStatus = d.decision.decisionStatus) :
    Reached s₀ request (.record d result)

/-- An evaluation only asks until it reaches one of these points. -/
theorem evaluateNew_asks (s₀ : Store) (env : Env) (config : PolicyConfig) (drawn : UUID)
    (request : PolicyEvaluationRequest) :
    (evaluateNew env config drawn request).Asks (SameCounts s₀) (Reached s₀ request) := by
  refine .query fun t ht => .query fun u hu => ?_
  dsimp only
  rcases hcase : t.recoveryCases[request.caseId]? with _ | case
  · refine .point (.unknown (fun hknown => ?_) rfl)
    have hlength := List.getElem?_eq_none_iff.mp hcase
    rw [ht.1] at hlength
    exact Nat.not_lt.mpr hlength hknown.1
  rcases hrow : u.decisions[request.recommendationId]? with _ | recommendation
  · refine .point (.unknown (fun hknown => ?_) rfl)
    have hlength := List.getElem?_eq_none_iff.mp hrow
    rw [hu.2] at hlength
    exact Nat.not_lt.mpr hlength hknown.2
  have hknown : s₀.Knows request := by
    refine ⟨?_, ?_⟩
    · rw [← ht.1]
      exact (List.getElem?_eq_some_iff.mp hcase).1
    · rw [← hu.2]
      exact (List.getElem?_eq_some_iff.mp hrow).1
  refine .query fun t₁ _ => .query fun t₂ _ => .query fun t₃ _ => .query fun t₄ _ => ?_
  dsimp only [Program.bind]
  rcases ruleResults env config (rowsRead (id t₁) (id t₂) (id t₃) (id t₄)) request case
    recommendation (request.proposedAction.getD recommendation.actionType) with fault | results
  · exact .point (.fail fault)
  · dsimp only
    unfold conclude
    dsimp only
    split_ifs
    · exact .point (.record hknown rfl rfl rfl rfl)
    · exact .query fun _ _ => .point (.record hknown rfl rfl rfl rfl)

end EvaluationStatements

/-- How far a call has come that began on `s₀`, and what it has sent. -/
inductive EvaluationPhase (s₀ s : Store) (key : String) (env : Env) (config : PolicyConfig)
    (drawn : UUID) (request : PolicyEvaluationRequest) :
    EvaluationStatements PolicyEvaluationResult → List EvaluationWrite → Prop
  | start : EvaluationPhase s₀ s key env config drawn request
      (.evaluate env config drawn request) []
  | failed (fault : Fault) (ws : List EvaluationWrite) :
    EvaluationPhase s₀ s key env config drawn request (.fail fault) ws
  | replayed {result : PolicyEvaluationResult} {stored : PolicyDecision}
      (hstored : stored ∈ s.decisionsFor request.caseId key)
      (hstatus : result.decisionStatus = stored.decisionStatus) :
    EvaluationPhase s₀ s key env config drawn request (.done result) []
  | asking {p : EvaluationStatements PolicyEvaluationResult}
      (hfresh : s₀.decisionsFor request.caseId key = [])
      (hasks : p.Asks (SameCounts s₀) (EvaluationStatements.Reached s₀ request)) :
    EvaluationPhase s₀ s key env config drawn request p []
  /-- The audit number was the next one while no decision was committed, or it is taken by now. -/
  | sending {d : EvaluationStatements.Draft} {result : PolicyEvaluationResult}
      {sent unsent : List EvaluationWrite} {auditNumber : ℕ} (hknown : s₀.Knows request)
      (hrequest : d.request = request) (hcase : d.decision.caseId = request.caseId)
      (hkey : d.decision.idempotencyKey = request.idempotencyKey)
      (hstatus : result.decisionStatus = d.decision.decisionStatus)
      (hwrites : sent ++ unsent = d.writes auditNumber)
      (hnumber : s.decisionsFor request.caseId key = [] ∧
          auditNumber = s.nextAuditNumber request.caseId ∨
        auditNumber ∈ s.auditNumbers request.caseId)
      (hsent : unsent = [] → auditNumber ∉ s.auditNumbers request.caseId) :
    EvaluationPhase s₀ s key env config drawn request (.flushAll unsent result) sent

namespace EvaluationPhase

variable {env : Env} {config : PolicyConfig} {drawn : UUID} {request : PolicyEvaluationRequest}
  {p q : EvaluationStatements PolicyEvaluationResult} {ws vs : List EvaluationWrite}
  {l : Option EvaluationQuery}

/-- The next statement of a call, which asks for its audit number in time. -/
theorem move (h : EvaluationPhase s₀ s key env config drawn request p ws)
    (hkey : request.idempotencyKey = some key) (hne : key ≠ "") (hcounts : SameCounts s₀ s)
    (hgrown : s.decisionsFor request.caseId key = [] → s₀.decisionsFor request.caseId key = [])
    (htime : l = some .auditNumber → s.decisionsFor request.caseId key = [])
    (hmove : Move s p ws l q vs) : EvaluationPhase s₀ s key env config drawn request q vs := by
  cases h with
  | start =>
    have htruthy : Python.truthy request.idempotencyKey = true := by
      simp [hkey, Python.truthy, hne]
    unfold EvaluationStatements.evaluate at hmove
    rw [if_pos htruthy] at hmove
    cases hmove with
    | query =>
      rw [view_nil]
      dsimp only
      rcases hreplay : PolicyEngineService.replayed s request with _ | stored
      · have hnone := hgrown (replayed_none hkey hne hreplay)
        exact .asking hnone (EvaluationStatements.evaluateNew_asks s₀ env config drawn request)
      · dsimp only
        unfold EvaluationStatements.replay
        rcases hresult : toEvaluationResult stored with fault | result
        · exact .failed fault []
        · refine .replayed (replayed_some hkey hreplay) ?_
          unfold toEvaluationResult at hresult
          obtain ⟨rules, -, hresult⟩ := Except.bind_eq_ok.mp hresult
          cases hresult
          rfl
  | failed fault ws => cases hmove
  | replayed _ _ => cases hmove
  | asking hfresh hasks =>
    rcases hasks.move hcounts hmove with hreached | ⟨rfl, hasks⟩
    · cases hreached with
      | fail fault => cases hmove
      | unknown _ _ => cases hmove
      | record hknown hrequest hcase hsame hstatus =>
        cases hmove with
        | query =>
          refine .sending hknown hrequest hcase hsame hstatus (List.nil_append _)
            (.inl ⟨htime rfl, ?_⟩) fun hnil => ?_
          · rw [view_nil, hrequest]
          · exact absurd hnil (by simp [EvaluationStatements.Draft.writes])
    · exact .asking hfresh hasks
  | @sending d result _ unsent auditNumber hknown hrequest hcase hsame hstatus hwrites hnumber
      hsent =>
    obtain ⟨u, rest, rfl, ⟨hviolation, rfl, rfl⟩ | ⟨fault, -, rfl, rfl⟩⟩ := hmove.flushAll_cases
    · refine .sending hknown hrequest hcase hsame hstatus ?_ hnumber fun hlast => ?_
      · rw [List.append_assoc, List.singleton_append]
        exact hwrites
      · subst hlast
        -- the audit record is the last write, and none before it touches the log
        obtain ⟨rfl, hu⟩ := List.append_inj' hwrites rfl
        rw [List.singleton_inj.mp hu] at hviolation
        have hfree := EvaluationWrite.unique_eq_none.mp hviolation
        unfold Store.auditNumbers Store.auditsOf at hfree ⊢
        rw [EvaluationStatements.Draft.view_decisionWrites_auditEvents, List.contains_eq_mem,
          decide_eq_false_iff_not] at hfree
        rw [← hrequest]
        exact hfree
    · exact .failed fault _

/-- A call that has come to its end repeats a decision or has none, or it has sent one under the
next audit number while no other one is committed. -/
theorem done_cases {result : PolicyEvaluationResult}
    (h : EvaluationPhase s₀ s key env config drawn request (.done result) ws)
    (hkey : request.idempotencyKey = some key) (hne : key ≠ "") :
    (ws = [] ∧ ((∃ stored ∈ s.decisionsFor request.caseId key,
        result.decisionStatus = stored.decisionStatus) ∨
      ¬s₀.Knows request ∧ s₀.decisionsFor request.caseId key = [] ∧
        result.decisionStatus = .INSUFFICIENT_INFORMATION)) ∨
    ∃ d : EvaluationStatements.Draft, s₀.Knows request ∧ d.request = request ∧
      d.decision.caseId = request.caseId ∧ d.decision.idempotencyKey = request.idempotencyKey ∧
      result.decisionStatus = d.decision.decisionStatus ∧
      ws = d.writes (s.nextAuditNumber request.caseId) ∧
      s.decisionsFor request.caseId key = [] := by
  generalize hp : (Program.done result : EvaluationStatements PolicyEvaluationResult) = p at h
  cases h with
  | start =>
    unfold EvaluationStatements.evaluate at hp
    rw [if_pos (by simp [hkey, Python.truthy, hne])] at hp
    cases hp
  | failed fault ws => cases hp
  | replayed hstored hstatus =>
    cases hp
    exact .inl ⟨rfl, .inl ⟨_, hstored, hstatus⟩⟩
  | asking hfresh hasks =>
    subst hp
    cases hasks with
    | point hreached =>
      cases hreached with
      | unknown hunknown hstatus => exact .inl ⟨rfl, .inr ⟨hunknown, hfresh, hstatus⟩⟩
  | @sending d _ _ unsent auditNumber hknown hrequest hcase hsame hstatus hwrites hnumber hsent =>
    rcases unsent with _ | ⟨u, rest⟩
    · cases hp
      obtain ⟨hnone, rfl⟩ := hnumber.resolve_right (hsent rfl)
      rw [List.append_nil] at hwrites
      exact .inr ⟨d, hknown, hrequest, hcase, hsame, hstatus, hwrites, hnone⟩
    · cases hp

/-- A call goes on when another one has committed the next audit number, which it has not locked:
its own number is taken by then. -/
theorem overtaken (h : EvaluationPhase s₀ s key env config drawn request p ws)
    (hgrown : ∀ stored ∈ s.decisionsFor request.caseId key,
      stored ∈ t.decisionsFor request.caseId key)
    (hnumbers : t.auditNumbers request.caseId =
      s.auditNumbers request.caseId ++ [s.nextAuditNumber request.caseId])
    (hlocks : ∀ u ∈ ws, u.lock ≠ .auditNumber request.caseId (s.nextAuditNumber request.caseId)) :
    EvaluationPhase s₀ t key env config drawn request p ws := by
  cases h with
  | start => exact .start
  | failed fault ws => exact .failed fault ws
  | replayed hstored hstatus => exact .replayed (hgrown _ hstored) hstatus
  | asking hfresh hasks => exact .asking hfresh hasks
  | @sending d result _ unsent auditNumber hknown hrequest hcase hsame hstatus hwrites hnumber
      hsent =>
    refine .sending hknown hrequest hcase hsame hstatus hwrites (.inr ?_) fun hlast => ?_
    · rw [hnumbers]
      rcases hnumber with ⟨-, rfl⟩ | htaken
      · exact List.mem_append_right _ (List.mem_singleton_self _)
      · exact List.mem_append_left _ htaken
    · rw [hnumbers, List.mem_append, List.mem_singleton, not_or]
      refine ⟨hsent hlast, ?_⟩
      rintro rfl
      have hmem : EvaluationWrite.insertAudit (d.auditRow (s.nextAuditNumber request.caseId)) ∈
          ws := by
        rw [hlast, List.append_nil] at hwrites
        rw [hwrites]
        exact List.mem_append_right _ (List.mem_singleton_self _)
      refine hlocks _ hmem ?_
      rw [← hrequest]
      rfl

end EvaluationPhase

/-! ## All calls -/

/-- What a call may have answered: the status of a stored decision, or that the case or the
recommendation is unknown. -/
def AnswersFor (s₀ s : Store) (key : String) (request : PolicyEvaluationRequest)
    (result : PolicyEvaluationResult) : Prop :=
  (∃ stored ∈ s.decisionsFor request.caseId key, result.decisionStatus = stored.decisionStatus) ∨
    ¬s₀.Knows request ∧ s₀.decisionsFor request.caseId key = [] ∧
      result.decisionStatus = .INSUFFICIENT_INFORMATION

section Calls

variable {ι : Type} {calls : EvaluationCalls ι}

/-- Where one of the calls stands. -/
def EvaluationCalls.Stands (calls : EvaluationCalls ι) (s₀ s : Store) (key : String) (i : ι) :
    ReadCommitted.Session Store Fault EvaluationLock EvaluationQuery PolicyEvaluationResult → Prop
  | .running p ws =>
    EvaluationPhase s₀ s key (calls.env i) (calls.config i) (calls.drawn i) (calls.request i) p ws
  | .committed result _ => AnswersFor s₀ s key (calls.request i) result
  | .aborted => True

/-- What holds while every call asks in time: there is at most one decision, and whatever a call
has answered is that decision, or that it knows too little. -/
structure EvaluationsKept (calls : EvaluationCalls ι) (s₀ : Store) (caseId : UUID) (key : String)
    (c : EvaluationRun ι) : Prop where
  counts : SameCounts s₀ c.db
  one : (c.db.decisionsFor caseId key).length ≤ 1
  grown : c.db.decisionsFor caseId key = [] → s₀.decisionsFor caseId key = []
  unknown : (∀ i, ¬s₀.Knows (calls.request i)) →
    c.db.decisionsFor caseId key = s₀.decisionsFor caseId key
  exclusive : c.Exclusive
  stands : ∀ i, calls.Stands s₀ c.db key i (c.session i)

theorem EvaluationsKept.start (hone : (s₀.decisionsFor caseId key).length ≤ 1) :
    EvaluationsKept calls s₀ caseId key (.start s₀ calls.statements) where
  counts := ⟨rfl, rfl⟩
  one := hone
  grown h := h
  unknown _ := rfl
  exclusive := Config.start_exclusive _ _
  stands _ := .start

variable {c c' : EvaluationRun ι}

theorem EvaluationsKept.phase (h : EvaluationsKept calls s₀ caseId key c) {i : ι}
    {p : EvaluationStatements PolicyEvaluationResult} {ws : List EvaluationWrite}
    (hopen : c.session i = .running p ws) :
    EvaluationPhase s₀ c.db key (calls.env i) (calls.config i) (calls.drawn i) (calls.request i)
      p ws := by
  have hstands := h.stands i
  rw [hopen] at hstands
  exact hstands

/-- The decision that a call has sent is the only one once it is committed. -/
theorem decisionsFor_writes {d : EvaluationStatements.Draft} (auditNumber : ℕ)
    (hcase : d.decision.caseId = caseId) (hkey : d.decision.idempotencyKey = some key)
    (hnone : s.decisionsFor caseId key = []) :
    (view s (d.writes auditNumber)).decisionsFor caseId key = [d.decision] := by
  unfold Store.decisionsFor at hnone ⊢
  rw [EvaluationStatements.Draft.view_writes_policyDecisions, List.filter_append, hnone]
  simp [hcase, hkey]

variable [DecidableEq ι]

/-- A step of one call that leaves the committed rows alone. -/
theorem EvaluationsKept.update (h : EvaluationsKept calls s₀ caseId key c) {i : ι}
    {session : ReadCommitted.Session Store Fault EvaluationLock EvaluationQuery
      PolicyEvaluationResult}
    (hexclusive : Config.Exclusive ⟨c.db, Function.update c.session i session⟩)
    (hstands : calls.Stands s₀ c.db key i session) :
    EvaluationsKept calls s₀ caseId key ⟨c.db, Function.update c.session i session⟩ := by
  refine ⟨h.counts, h.one, h.grown, h.unknown, hexclusive, ?_⟩
  rw [Function.forall_update_iff]
  exact ⟨hstands, fun j _ => h.stands j⟩

/-- A call that commits a decision commits the only one. -/
theorem EvaluationsKept.commit_decision (h : EvaluationsKept calls s₀ caseId key c)
    (hcarry : calls.Carry caseId key) {i : ι} {result : PolicyEvaluationResult}
    {d : EvaluationStatements.Draft}
    (hopen : c.session i = .running (.done result) (d.writes (c.db.nextAuditNumber caseId)))
    (hknown : s₀.Knows (calls.request i)) (hrequest : d.request = calls.request i)
    (hcase : d.decision.caseId = caseId) (hkey : d.decision.idempotencyKey = some key)
    (hstatus : result.decisionStatus = d.decision.decisionStatus)
    (hnone : c.db.decisionsFor caseId key = []) :
    EvaluationsKept calls s₀ caseId key
      ⟨view c.db (d.writes (c.db.nextAuditNumber caseId)), Function.update c.session i
        (.committed result (d.writes (c.db.nextAuditNumber caseId)))⟩ := by
  have hdecisions := decisionsFor_writes (c.db.nextAuditNumber caseId) hcase hkey hnone
  have hcaseId : d.request.caseId = caseId := by rw [hrequest, (hcarry i).1]
  refine ⟨⟨?_, ?_⟩, ?_, ?_, ?_, ?_, ?_⟩
  · rw [EvaluationStatements.Draft.view_writes_recoveryCases_length, h.counts.1]
  · rw [EvaluationStatements.Draft.view_writes_decisions_length, h.counts.2]
  · rw [hdecisions]
    exact le_rfl
  · intro hempty
    rw [hdecisions] at hempty
    cases hempty
  · intro hunknown
    exact absurd hknown (hunknown i)
  · exact h.exclusive.ended _ _ fun _ _ h => by cases h
  rw [Function.forall_update_iff]
  refine ⟨.inl ⟨d.decision, ?_, hstatus⟩, fun j hne => ?_⟩
  · rw [(hcarry i).1, hdecisions]
    exact List.mem_singleton_self _
  have hstands := h.stands j
  rcases hj : c.session j with ⟨p, ws⟩ | ⟨answer, ws⟩ | _
  · rw [hj] at hstands
    refine EvaluationPhase.overtaken hstands ?_ ?_ ?_
    · rw [(hcarry j).1, hnone]
      exact fun _ hstored => absurd hstored List.not_mem_nil
    · rw [(hcarry j).1, ← hcaseId]
      exact EvaluationStatements.Draft.view_writes_auditNumbers ..
    · intro u hu
      have hlast : EvaluationWrite.insertAudit (d.auditRow (c.db.nextAuditNumber caseId)) ∈
          d.writes (c.db.nextAuditNumber caseId) :=
        List.mem_append_right _ (List.mem_singleton_self _)
      have hlock : (EvaluationWrite.insertAudit (d.auditRow (c.db.nextAuditNumber caseId))).lock =
          .auditNumber caseId (c.db.nextAuditNumber caseId) := by
        rw [← hcaseId]
        rfl
      rw [(hcarry j).1, ← hlock]
      exact h.exclusive j i hne p ws _ _ hj hopen u hu _ hlast
  · rw [hj] at hstands
    refine Or.imp_left ?_ hstands
    rw [(hcarry j).1, hnone]
    rintro ⟨_, hstored, -⟩
    cases hstored
  · trivial

/-- Every step of a call that asks in time keeps this. -/
theorem EvaluationsKept.step {e : ι × Event EvaluationQuery}
    (h : EvaluationsKept calls s₀ caseId key c) (hcarry : calls.Carry caseId key) (hne : key ≠ "")
    (hok : AsksInTime caseId key c e) (hstep : Step c e c') :
    EvaluationsKept calls s₀ caseId key c' := by
  have hexclusive := hstep.exclusive h.exclusive
  cases hstep with
  | @move i p q ws vs l hopen hfree hmove =>
    refine h.update hexclusive ((h.phase hopen).move (hcarry i).2 hne h.counts ?_ ?_ hmove)
    · rw [(hcarry i).1]
      exact h.grown
    · rintro rfl
      rw [(hcarry i).1]
      exact hok rfl
  | abort hopen => exact h.update hexclusive trivial
  | @commit i result ws hopen =>
    obtain ⟨hcaseId, hkey⟩ := hcarry i
    rcases (h.phase hopen).done_cases hkey hne with
      ⟨rfl, hanswer⟩ | ⟨d, hknown, hrequest, hcase, hsame, hstatus, rfl, hnone⟩
    · exact h.update hexclusive hanswer
    · rw [hcaseId] at hcase hnone hopen ⊢
      exact h.commit_decision hcarry hopen hknown hrequest hcase (hsame.trans hkey) hstatus hnone

end Calls

namespace Sample

/-- Two calls that ask for the same evaluation. -/
def twoCalls : EvaluationCalls Bool where
  env _ := env
  config _ := .default
  drawn i := if i then 1 else 0
  request _ := keyed

/-- The calls after one of them has found no decision for its key. -/
def lookedUp : EvaluationRun Bool :=
  ⟨undecidedDb, Function.update (Config.start undecidedDb twoCalls.statements).session false
    (.running (EvaluationStatements.evaluateNew env .default 0 keyed) [])⟩

/-- That call asked for nothing but its key. -/
theorem lookup_step : Step (.start undecidedDb twoCalls.statements)
    (false, .moved (some .idempotencyKey)) lookedUp := by
  have hnone : replayed undecidedDb (twoCalls.request false) = none := by
    rw [← Option.isNone_iff_eq_none]
    decide +kernel
  have hmove : Move undecidedDb (twoCalls.statements false) [] (some .idempotencyKey)
      (EvaluationStatements.evaluateNew env .default 0 keyed) [] := by
    have hquery : Move undecidedDb (twoCalls.statements false) [] (some .idempotencyKey) _ [] :=
      .query _ _ _
    rw [view_nil, hnone] at hquery
    exact hquery
  refine .move rfl (fun u next violated _ j _ q vs hj => ?_) hmove
  cases hj
  exact fun _ hv => absurd hv List.not_mem_nil

end Sample

namespace EvaluationStatements

end EvaluationStatements

end RevenueRescue
