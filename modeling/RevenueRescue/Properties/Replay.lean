import RevenueRescue.Properties.Retries
import RevenueRescue.Refinement.Evaluations

/-!
# Repeated evaluations

A request with an idempotency key that led to a decision is answered from that decision ever
after. The answer is rebuilt from the JSON columns of the row: a decision row is never
rewritten, the row keeps coming first among those of its case and key, and what a rule answered
is read back as it was written. Nothing that happened to the case in between plays a part.

Served one after another, the requests leave at most one decision for a case and a key.

The lookup reads nothing of a request but its case and its key. So a request that asks about
another recommendation or another action under a key already used is given the old answer.
-/

namespace RevenueRescue

open Python

namespace PolicyEngineService

variable {config : PolicyConfig} {env : Env} {request : PolicyEvaluationRequest} {s t u : Store}
  {result : PolicyEvaluationResult}

/-! ## The JSON columns -/

/-- What a rule answered is read back as it was written. -/
theorem decodeRule_encodeRule (r : RuleCheckResult) : decodeRule (encodeRule r) = .ok r := by
  unfold encodeRule decodeRule
  generalize hfields : ([("rule_name", .str r.ruleName), ("status", .str r.status.value),
    ("reason_code", .str r.reasonCode), ("message", .str r.message),
    ("details", .obj r.details)] : Dict) = fields
  have hname : textItem fields "rule_name" = .ok r.ruleName := by subst hfields; rfl
  have hstatus : textItem fields "status" = .ok r.status.value := by subst hfields; rfl
  have hreason : textItem fields "reason_code" = .ok r.reasonCode := by subst hfields; rfl
  have hmessage : textItem fields "message" = .ok r.message := by subst hfields; rfl
  have hdetails : Dict.getD fields "details" (.obj []) = .obj r.details := by subst hfields; rfl
  refine Except.bind_eq_ok.mpr ⟨_, hname, Except.bind_eq_ok.mpr ⟨_, hstatus, ?_⟩⟩
  rw [RuleCheckStatus.ofValue_value]
  refine Except.bind_eq_ok.mpr ⟨_, hreason, Except.bind_eq_ok.mpr ⟨_, hmessage, ?_⟩⟩
  rw [hdetails]
  rfl

theorem decodeRule_encodeRules (results : List RuleCheckResult) :
    (results.map encodeRule).mapM decodeRule = .ok results := by
  induction results with
  | nil => rfl
  | cons r rest ih =>
    rw [List.map_cons, List.mapM_cons, decodeRule_encodeRule, ih]
    rfl

/-- The answer rebuilt from a decision is the one it was first given with, except for the zone
of its time. -/
theorem toEvaluationResult_newDecision (case : RecoveryCase) (proposedAction : ActionType)
    (results : List RuleCheckResult) :
    toEvaluationResult (newDecision env config request case proposedAction results) =
      .ok { newResult env (newDecision env config request case proposedAction results) results with
        evaluatedAt := env.now.naive } :=
  Except.bind_eq_ok.mpr ⟨_, decodeRule_encodeRules results, rfl⟩

/-! ## The row that answers -/

/-- The lookup of a request that has a key. -/
theorem replayed_of_truthy (hkey : truthy request.idempotencyKey = true) (s : Store) :
    replayed s request =
      (s.policyDecisionByKey request.caseId (request.idempotencyKey.getD "")).map Prod.snd :=
  if_pos hkey

/-- A decision is the answer to its request from then on. -/
theorem replayed_persisted {case : RecoveryCase} {decision : PolicyDecision}
    (hkey : truthy request.idempotencyKey = true) (hnew : replayed s request = none)
    (hcase : decision.caseId = request.caseId)
    (hsame : decision.idempotencyKey = request.idempotencyKey)
    (hlater : Evolved (persisted env s request case decision) u) :
    replayed u request = some decision := by
  obtain ⟨key, hsome⟩ : ∃ key, request.idempotencyKey = some key := by
    rcases hnone : request.idempotencyKey with _ | key
    · rw [hnone] at hkey
      cases hkey
    · exact ⟨key, rfl⟩
  have hmatches : (decision.caseId == request.caseId &&
      decision.idempotencyKey == some (request.idempotencyKey.getD "")) = true := by
    rw [hcase, hsame, hsome]
    simp
  have hrows := hlater.policyDecisions
  rw [persisted_policyDecisions] at hrows
  rw [replayed_of_truthy hkey, Option.map_eq_none_iff] at hnew
  obtain ⟨row, hrow, rfl⟩ := hrows.find? (fun _ _ h => by rw [h])
    (Table.find?_append_one hnew hmatches)
  rw [replayed_of_truthy hkey]
  unfold Store.policyDecisionByKey
  rw [hrow]
  rfl

/-- The lookup reads the case and the key of a request and nothing else of it. -/
theorem replayed_congr {first second : PolicyEvaluationRequest} (u : Store)
    (hcase : second.caseId = first.caseId)
    (hkey : second.idempotencyKey = first.idempotencyKey) :
    replayed u second = replayed u first := by
  unfold replayed
  rw [hcase, hkey]

/-- An evaluation that is answered from a decision changes nothing. -/
theorem evaluate_replayed {record : PolicyDecision} (h : replayed u request = some record)
    (hresult : toEvaluationResult record = .ok result) :
    evaluate env config request u = .ok (result, u) := by
  unfold evaluate
  rw [Tx.get_bind_apply, h]
  dsimp only
  rw [hresult]
  rfl

/-- An evaluation that adds a decision has reached one. -/
theorem Decides.of_persisted (h : evaluate env config request s = .ok (result, t))
    (hpersisted : s.policyDecisions.length < t.policyDecisions.length) :
    ∃ case recommendation results,
      Decides config env request s case recommendation results := by
  by_contra hnone
  have hsame : t = s := evaluate_same
    (fun case recommendation results hdecides =>
      hnone ⟨case, recommendation, results, hdecides⟩) h
  rw [hsame] at hpersisted
  exact Nat.lt_irrefl _ hpersisted

end PolicyEngineService

/-! ## One decision for a case and a key -/

/-- No two decisions for a case have one key, so it does not matter in which order the database
returns them. -/
def Store.KeysIdentify (s : Store) : Prop :=
  ∀ (i j : ℕ) (a b : PolicyDecision), s.policyDecisions[i]? = some a →
    s.policyDecisions[j]? = some b → a.caseId = b.caseId → a.idempotencyKey = b.idempotencyKey →
    truthy a.idempotencyKey = true → i = j

/-- Nothing but the authority to decide adds decisions. -/
theorem Writes.policyDecisions_eq {A : Authority} {s t : Store} (h : Writes A s t)
    (hnone : ∀ caseId, ¬A.decides caseId) : t.policyDecisions = s.policyDecisions := by
  induction h with
  | refl => rfl
  | tail _ hstep ih =>
    cases hstep with
    | addPolicyDecision row hcase _ => exact absurd hcase (hnone row.caseId)
    | _ => exact ih

/-- A decision for a key that answers no request yet. -/
theorem Store.KeysIdentify.append {s : Store} (h : s.KeysIdentify)
    {request : PolicyEvaluationRequest} (hnew : PolicyEngineService.replayed s request = none)
    {decision : PolicyDecision} (hcase : decision.caseId = request.caseId)
    (hkey : decision.idempotencyKey = request.idempotencyKey) {t : Store}
    (ht : t.policyDecisions = s.policyDecisions ++ [decision]) : t.KeysIdentify := by
  have hfresh : ∀ row ∈ s.policyDecisions, row.caseId = decision.caseId →
      row.idempotencyKey = decision.idempotencyKey → ¬truthy row.idempotencyKey = true := by
    intro row hrow hsame hkeys htruthy
    have hset : truthy request.idempotencyKey = true := by rw [← hkey, ← hkeys, htruthy]
    rw [PolicyEngineService.replayed_of_truthy hset, Option.map_eq_none_iff] at hnew
    have hdiffers := Table.find?_none.mp hnew row hrow
    rw [hsame, hcase, hkeys, hkey, beq_self_eq_true, Bool.true_and] at hdiffers
    rcases hnone : request.idempotencyKey with _ | key
    · rw [hnone] at hset
      cases hset
    · simp [hnone] at hdiffers
  intro i j a b ha hb hsame hkeys htruthy
  rw [ht] at ha hb
  rcases Table.getElem?_append_one ha with hold | ⟨hi, rfl⟩
  · rcases Table.getElem?_append_one hb with hold' | ⟨-, rfl⟩
    · exact h i j a b hold hold' hsame hkeys htruthy
    · exact absurd htruthy (hfresh a (List.mem_of_getElem? hold) hsame hkeys)
  · rcases Table.getElem?_append_one hb with hold' | ⟨hj, -⟩
    · rw [hkeys] at htruthy
      exact absurd htruthy (hfresh b (List.mem_of_getElem? hold') hsame.symm hkeys.symm)
    · rw [hi, hj]

/-- An evaluation keeps the keys apart. -/
theorem Store.KeysIdentify.evaluate {s : Store} (h : s.KeysIdentify) (env : Env)
    (config : PolicyConfig) (request : PolicyEvaluationRequest) :
    ((PolicyEngineService.evaluate env config request).commit s).KeysIdentify := by
  by_cases hdecides : ∃ case recommendation results,
    PolicyEngineService.Decides config env request s case recommendation results
  · obtain ⟨case, recommendation, results, hdecides⟩ := hdecides
    rw [hdecides.commit]
    exact h.append hdecides.new rfl rfl (PolicyEngineService.persisted_policyDecisions ..)
  · have hsame : (PolicyEngineService.evaluate env config request).commit s = s := by
      unfold Tx.commit
      rcases hrun : PolicyEngineService.evaluate env config request s with fault | ⟨result, t⟩
      · rfl
      · exact PolicyEngineService.evaluate_same
          (fun case recommendation results hreached =>
            hdecides ⟨case, recommendation, results, hreached⟩) hrun
    rw [hsame]
    exact h

theorem World.step_keysIdentify (config : PolicyConfig) (w : World) (r : Request)
    (h : w.db.KeysIdentify) : (w.step config r).db.KeysIdentify := by
  have hsame : ∀ {t : Store}, t.policyDecisions = w.db.policyDecisions → t.KeysIdentify := by
    intro t ht
    unfold Store.KeysIdentify
    rw [ht]
    exact h
  obtain ⟨env, ask⟩ := r
  cases ask with
  | operation op =>
    by_cases hop : ∃ request, op = .evaluate request
    · obtain ⟨request, rfl⟩ := hop
      unfold step commitUnlessCrash
      dsimp only
      split
      · exact h
      · dsimp only [Operation.service]
        rw [ignoringResult_commit]
        exact h.evaluate env config request
    · refine hsame ((step_operation_writes config w env op).policyDecisions_eq ?_)
      rintro caseId ⟨request, heq, -⟩
      exact hop ⟨request, heq⟩
  | execute workflowId executeAll override provider =>
    obtain ⟨sent, hexecuted⟩ := step_execute
    exact hsame (hexecuted.writes.policyDecisions_eq fun _ hfalse => hfalse)
  | reconcilePending provider limit =>
    exact hsame ((step_reconcile_writes config w env provider limit).policyDecisions_eq
      fun _ hfalse => hfalse)

/-- Over every run of requests a case and a key have at most one decision. -/
theorem World.run_keysIdentify (config : PolicyConfig) (requests : List Request) :
    (World.empty.run config requests).db.KeysIdentify :=
  Run.invariant (I := fun w : World => w.db.KeysIdentify) (step_keysIdentify config) requests
    fun _ _ _ _ h => by cases h

/-! ## Later states -/

/-- The worlds reached by later requests, each served under a configuration of its own. -/
def World.Later : World → World → Prop :=
  Relation.ReflTransGen fun w w' => ∃ config r, w' = w.step config r

theorem World.later_run (config : PolicyConfig) (w : World) (requests : List Request) :
    w.Later (w.run config requests) := by
  induction requests generalizing w with
  | nil => exact .refl
  | cons r rest ih => exact .head ⟨config, r, rfl⟩ (ih (w.step config r))

theorem World.Later.evolved {w w' : World} (h : w.Later w') : Evolved w.db w'.db := by
  induction h with
  | refl => exact Evolved.refl w.db
  | tail _ hstep ih =>
    obtain ⟨config, r, rfl⟩ := hstep
    exact ih.trans (step_evolved config _ r)

/-- Two results that say the same. -/
structure PolicyEvaluationResult.SameAnswer (a b : PolicyEvaluationResult) : Prop where
  decisionStatus : a.decisionStatus = b.decisionStatus
  caseId : a.caseId = b.caseId
  proposedAction : a.proposedAction = b.proposedAction
  policyVersion : a.policyVersion = b.policyVersion
  ruleResults : a.ruleResults = b.ruleResults
  reasons : a.reasons = b.reasons
  recommendationId : a.recommendationId = b.recommendationId

/-- A decision made under a key answers every later request for its case and its key, whatever
else the request says. -/
theorem PolicyEngineService.Decides.replays {config config' : PolicyConfig} {env env' : Env}
    {first second : PolicyEvaluationRequest} {s u : Store} {case : RecoveryCase}
    {recommendation : AgentDecision} {results : List RuleCheckResult}
    (h : Decides config env first s case recommendation results)
    (htruthy : truthy first.idempotencyKey = true)
    (hlater : Evolved
      (persisted env s first case (decision env config first case recommendation results)) u)
    (hcase : second.caseId = first.caseId)
    (hkey : second.idempotencyKey = first.idempotencyKey) :
    ∃ again, evaluate env' config' second u = .ok (again, u) ∧
      again.SameAnswer
        (newResult env (decision env config first case recommendation results) results) := by
  have hreplayed := replayed_persisted htruthy h.new rfl rfl hlater
  rw [← replayed_congr u hcase hkey] at hreplayed
  refine ⟨_, evaluate_replayed hreplayed (toEvaluationResult_newDecision ..), ?_⟩
  exact ⟨rfl, rfl, rfl, rfl, rfl, rfl, rfl⟩

/-- A request with a key whose evaluation persisted a decision gets the same answer in every
later state, under any configuration, and changes no row. -/
theorem evaluation_replays {config config' : PolicyConfig} {env env' : Env}
    {request : PolicyEvaluationRequest} {s t : Store} {sent : List Submission} {w : World}
    {result : PolicyEvaluationResult} (hkey : truthy request.idempotencyKey = true)
    (hfirst : PolicyEngineService.evaluate env config request s = .ok (result, t))
    (hpersisted : s.policyDecisions.length < t.policyDecisions.length)
    (hlater : World.Later ⟨t, sent⟩ w) :
    ∃ again, PolicyEngineService.evaluate env' config' request w.db = .ok (again, w.db) ∧
      again.SameAnswer result := by
  obtain ⟨case, recommendation, results, hdecides⟩ :=
    PolicyEngineService.Decides.of_persisted hfirst hpersisted
  rw [hdecides.evaluate_apply] at hfirst
  obtain ⟨rfl, rfl⟩ := Prod.mk.inj (Except.ok.inj hfirst)
  exact hdecides.replays hkey hlater.evolved rfl rfl

namespace Sample

/-- The evaluation of the first recommendation under a key. -/
def keyed : PolicyEvaluationRequest := ⟨0, 0, none, .SYSTEM, some "policy-1", none⟩

/-- The approved retry is executed before the evaluation is repeated. -/
def carriedOut : List Request := [planned, executed 0 .FAILED]

/-- The rows in which the evaluation is first asked for. -/
def undecidedDb : Store := (World.empty.run .default [failure, consented, recommended]).db

end Sample

/-- After the approved retry was executed the approval is answered once more. -/
theorem evaluation_replays_carriedOut :
    ∃ result t again, PolicyEngineService.evaluate Sample.env .default Sample.keyed
        Sample.undecidedDb = .ok (result, t) ∧
      PolicyEngineService.evaluate Sample.env .default Sample.keyed
        ((⟨t, []⟩ : World).run .default Sample.carriedOut).db =
          .ok (again, ((⟨t, []⟩ : World).run .default Sample.carriedOut).db) ∧
      again.SameAnswer result := by
  obtain ⟨result, hfirst⟩ := Tx.ok_of_isSome
    (x := PolicyEngineService.evaluate Sample.env .default Sample.keyed)
    (s := Sample.undecidedDb) (by decide +kernel)
  have hpersisted : Sample.undecidedDb.policyDecisions.length <
      ((PolicyEngineService.evaluate Sample.env .default Sample.keyed).commit
        Sample.undecidedDb).policyDecisions.length := by decide +kernel
  obtain ⟨again, hagain, hsame⟩ := evaluation_replays (by decide) hfirst hpersisted
    (World.later_run .default ⟨_, []⟩ Sample.carriedOut)
  exact ⟨result, _, again, hfirst, hagain, hsame⟩

/-! ## Conflicting requests -/

namespace PolicyEngineService

/-- The action that a request asks about: its own, or else that of its recommendation. -/
def effectiveAction (s : Store) (request : PolicyEvaluationRequest) : Option ActionType :=
  (s.decisions[request.recommendationId]?).map fun recommendation =>
    request.proposedAction.getD recommendation.actionType

/-- A second request that asks about another recommendation or about another action. -/
def Conflicts (s u : Store) (first second : PolicyEvaluationRequest) : Prop :=
  first.recommendationId ≠ second.recommendationId ∨
    effectiveAction s first ≠ effectiveAction u second

/-- Every rule answers. -/
theorem length_ruleResults {case : RecoveryCase} {recommendation : AgentDecision}
    {proposedAction : ActionType} {results : List RuleCheckResult}
    (h : ruleResults env config s request case recommendation proposedAction = .ok results) :
    results.length = 5 := by
  obtain ⟨consent, -, h⟩ := Except.bind_eq_ok.mp h
  obtain ⟨retry, -, h⟩ := Except.bind_eq_ok.mp h
  cases h
  rfl

/-- An evaluation that repeats no decision reaches one, or says in a single entry which row is
missing. -/
theorem evaluate_new_cases (hnew : replayed s request = none)
    (h : evaluate env config request s = .ok (result, t)) :
    (∃ case recommendation results, Decides config env request s case recommendation results ∧
      result = newResult env (decision env config request case recommendation results) results) ∨
      result.ruleResults.length = 1 := by
  unfold evaluate at h
  rw [Tx.get_bind_apply, hnew] at h
  dsimp only at h
  rcases hcase : s.recoveryCases[request.caseId]? with _ | case
  · rw [hcase] at h
    cases h
    exact .inr rfl
  rcases hrecommendation : s.decisions[request.recommendationId]? with _ | recommendation
  · rw [hcase, hrecommendation] at h
    cases h
    exact .inr rfl
  rw [hcase, hrecommendation] at h
  dsimp only at h
  rcases hanswers : ruleResults env config s request case recommendation
    (request.proposedAction.getD recommendation.actionType) with fault | results
  · rw [hanswers] at h
    cases h
  · rw [hanswers] at h
    obtain ⟨_, _, -, h⟩ := Tx.bind_eq_ok.mp h
    cases h
    exact .inl ⟨case, recommendation, results, ⟨hnew, hcase, hrecommendation, hanswers⟩, rfl⟩

end PolicyEngineService

/-- Let a second request for the case of a decision carry the key of the first, but ask about
another recommendation or another action. It is never given the answer of the first exactly when
the two carry no key. -/
theorem conflicting_evaluation_is_judged {config config' : PolicyConfig} {env env' : Env}
    {first second : PolicyEvaluationRequest} {s t : Store} {sent : List Submission} {w : World}
    {result : PolicyEvaluationResult}
    (hfirst : PolicyEngineService.evaluate env config first s = .ok (result, t))
    (hpersisted : s.policyDecisions.length < t.policyDecisions.length)
    (hlater : World.Later ⟨t, sent⟩ w) (hcase : second.caseId = first.caseId)
    (hkey : second.idempotencyKey = first.idempotencyKey)
    (hconflict : PolicyEngineService.Conflicts s w.db first second) :
    (∀ answer u, PolicyEngineService.evaluate env' config' second w.db = .ok (answer, u) →
      ¬answer.SameAnswer result) ↔ ¬truthy first.idempotencyKey = true := by
  obtain ⟨case, recommendation, results, hdecides⟩ :=
    PolicyEngineService.Decides.of_persisted hfirst hpersisted
  rw [hdecides.evaluate_apply] at hfirst
  obtain ⟨rfl, rfl⟩ := Prod.mk.inj (Except.ok.inj hfirst)
  constructor
  · intro hjudged htruthy
    obtain ⟨again, hagain, hsame⟩ := hdecides.replays htruthy hlater.evolved hcase hkey
    exact hjudged again w.db hagain hsame
  · intro hnokey answer u hsecond hsame
    have hnew : PolicyEngineService.replayed w.db second = none := by
      rw [PolicyEngineService.replayed_congr w.db hcase hkey]
      exact if_neg hnokey
    rcases PolicyEngineService.evaluate_new_cases hnew hsecond with
      ⟨case', recommendation', results', hdecides', rfl⟩ | hone
    · refine hconflict.elim (fun h => h hsame.recommendationId.symm) fun h => h ?_
      unfold PolicyEngineService.effectiveAction
      rw [hdecides.recommendationRow, hdecides'.recommendationRow]
      exact congrArg some hsame.proposedAction.symm
    · have hfive : results.length = 5 := PolicyEngineService.length_ruleResults hdecides.answers
      have hlength : answer.ruleResults.length = results.length := by rw [hsame.ruleResults]; rfl
      omega

namespace Sample

/-- The same evaluation without a key. -/
def unkeyed : PolicyEvaluationRequest := { keyed with idempotencyKey := none }

/-- The same request with a reminder in place of the recommended retry. -/
def reminding (request : PolicyEvaluationRequest) : PolicyEvaluationRequest :=
  { request with proposedAction := some .SEND_REMINDER }

/-- The rows after the first evaluation. -/
def decidedDb (request : PolicyEvaluationRequest) : Store :=
  (PolicyEngineService.evaluate env .default request).commit undecidedDb

end Sample

/-- Without a key the reminder is judged on its own. -/
theorem conflicting_evaluation_is_judged_unkeyed :
    ∃ result, PolicyEngineService.evaluate Sample.env .default Sample.unkeyed
        Sample.undecidedDb = .ok (result, Sample.decidedDb Sample.unkeyed) ∧
      ∀ answer u, PolicyEngineService.evaluate Sample.env .default
        (Sample.reminding Sample.unkeyed) (Sample.decidedDb Sample.unkeyed) = .ok (answer, u) →
          ¬answer.SameAnswer result := by
  obtain ⟨result, hfirst⟩ := Tx.ok_of_isSome
    (x := PolicyEngineService.evaluate Sample.env .default Sample.unkeyed)
    (s := Sample.undecidedDb) (by decide +kernel)
  have hpersisted : Sample.undecidedDb.policyDecisions.length <
      (Sample.decidedDb Sample.unkeyed).policyDecisions.length := by decide +kernel
  have hconflict : PolicyEngineService.Conflicts Sample.undecidedDb
      (Sample.decidedDb Sample.unkeyed) Sample.unkeyed (Sample.reminding Sample.unkeyed) :=
    .inr (by decide +kernel)
  have hlater : World.Later ⟨Sample.decidedDb Sample.unkeyed, []⟩
      ⟨Sample.decidedDb Sample.unkeyed, []⟩ := .refl
  have hcase : (Sample.reminding Sample.unkeyed).caseId = Sample.unkeyed.caseId := rfl
  exact ⟨result, hfirst, (conflicting_evaluation_is_judged hfirst hpersisted hlater hcase rfl
    hconflict).mpr (by decide)⟩

/-- Under the key of an approved retry, the question whether a reminder may be sent is answered
with the approval of the retry. -/
theorem reminder_is_answered_with_retry :
    ∃ result answer, PolicyEngineService.evaluate Sample.env .default Sample.keyed
        Sample.undecidedDb = .ok (result, Sample.decidedDb Sample.keyed) ∧
      PolicyEngineService.evaluate Sample.env .default (Sample.reminding Sample.keyed)
        (Sample.decidedDb Sample.keyed) = .ok (answer, Sample.decidedDb Sample.keyed) ∧
      answer.SameAnswer result ∧
      PolicyEngineService.Conflicts Sample.undecidedDb (Sample.decidedDb Sample.keyed)
        Sample.keyed (Sample.reminding Sample.keyed) := by
  obtain ⟨result, hfirst⟩ := Tx.ok_of_isSome
    (x := PolicyEngineService.evaluate Sample.env .default Sample.keyed)
    (s := Sample.undecidedDb) (by decide +kernel)
  have hpersisted : Sample.undecidedDb.policyDecisions.length <
      (Sample.decidedDb Sample.keyed).policyDecisions.length := by decide +kernel
  have hconflict : PolicyEngineService.Conflicts Sample.undecidedDb
      (Sample.decidedDb Sample.keyed) Sample.keyed (Sample.reminding Sample.keyed) :=
    .inr (by decide +kernel)
  obtain ⟨case, recommendation, results, hdecides⟩ :=
    PolicyEngineService.Decides.of_persisted hfirst hpersisted
  have hanswer := hdecides.evaluate_apply
  rw [hfirst] at hanswer
  obtain ⟨rfl, hrows⟩ := Prod.mk.inj (Except.ok.inj hanswer)
  have hreplays : ∃ again, PolicyEngineService.evaluate Sample.env .default
      (Sample.reminding Sample.keyed) (Sample.decidedDb Sample.keyed) =
        .ok (again, Sample.decidedDb Sample.keyed) ∧ again.SameAnswer _ :=
    hdecides.replays (by decide) (hrows ▸ .refl _) rfl rfl
  obtain ⟨again, hagain, hsame⟩ := hreplays
  exact ⟨_, again, hfirst, hagain, hsame, hconflict⟩

end RevenueRescue
