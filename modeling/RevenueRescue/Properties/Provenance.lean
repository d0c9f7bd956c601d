import RevenueRescue.Properties.Accountability
import RevenueRescue.Properties.Approval
import RevenueRescue.Refinement.Advice

/-!
# What payments were recommended on

An approval needs a recommendation of 60 percent confidence, and over the API recommendations come
from the pipeline alone. Only a retry reaches that confidence. So an action that an operator proposes
instead of the recommended one never makes a payment of a recommendation that was none.
-/

namespace RevenueRescue

open Python IntelligenceOrchestrator

namespace ApiWorld

variable {a : Application} {w : ApiWorld} {r : ApiRequest}

/-- A request to generate a recommendation that the pipeline formulated about a case. -/
structure Formulates (a : Application) (w : ApiWorld) (r : ApiRequest) (caseId : UUID)
    (case : RecoveryCase) (features : CaseFeatures) (f : Formulation) : Prop where
  admitted : ∃ user ask, Admitted a w r (.generateCaseRecommendation caseId) user ask
  caseRow : w.system.db.recoveryCases[caseId]? = some case
  extracted : featuresOf a.numerics case
    w.system.db.transactions[case.triggerTransactionId]?
    w.system.db.customers[case.customerId]? (w.system.db.attemptsOf caseId).length = some features
  formulated : formulate a.numerics features = .ok f

theorem webhook_sameAdvice (lib : Library) (secrets : GatewaySecrets) (env : Env) (uuid4 : UUID)
    (request : GatewayRequest) (route : WebhookRoute) (s : Store) :
    SameAdvice s (commitUnlessCrash env (route.serve lib secrets env uuid4 request) s) := by
  unfold commitUnlessCrash
  split
  · rfl
  unfold Tx.commit
  rcases hrun : route.serve lib secrets env uuid4 request s with fault | ⟨⟨⟩, t⟩
  · rfl
  change SameAdvice s t
  rcases WebhookRoute.of_serve hrun with ⟨event, payloadHash, result, hevent⟩ |
    ⟨row, receipt, hrecord⟩
  · have hcommit : SameAdvice s
        ((EventService.ingestCanonicalEvent env event payloadHash true).commit s) :=
      EventService.ingestCanonicalEvent_sameAdvice event payloadHash true
    unfold Tx.commit at hcommit
    rw [hevent] at hcommit
    exact hcommit
  · obtain ⟨found, hfound⟩ := WebhookEventRepository.record_apply s row
    rw [hfound] at hrecord
    cases hrecord
    refine .of_same ?_
    unfold withReceipt
    split <;> rfl

/-- The number of the next recommendation for a case. -/
def nextVersion (s : Store) (caseId : UUID) : ℕ :=
  ((s.latestDecision caseId).map (·.decisionVersion + 1)).getD 1

/-- A recommendation is generated by one route, with the default pipeline. -/
theorem of_ask_generation {x : Surroundings} {s : Store} {user : User} {route : GuardedRoute}
    {pipeline : Pipeline} {caseId : UUID}
    (h : route.ask a x s user = .ok (.operation (.generateRecommendation pipeline caseId))) :
    route = .generateCaseRecommendation caseId ∧
      pipeline = defaultPipeline a.numerics s.decisions.length (nextVersion s caseId) := by
  have hingestion {canonical : Except Fault CanonicalEventDTO} :
      GuardedRoute.ingestion a.deployment.lib canonical ≠
        .ok (.operation (.generateRecommendation pipeline caseId)) := by
    rcases canonical with fault | event <;> simp [GuardedRoute.ingestion, Except.map]
  cases route with
  | generateCaseRecommendation id =>
    cases h
    exact ⟨rfl, rfl⟩
  | ingestEvent requestDto => exact absurd h hingestion
  | simulateFailure simRequest => exact absurd h hingestion
  | _ => cases h

/-- The row that records a formulation. -/
def formulated (s : Store) (caseId : UUID) (f : Formulation) : AgentDecision :=
  IntelligenceOrchestrator.newDecision s caseId
    (recommendationOf s.decisions.length (nextVersion s caseId) f)

/-- The recommendations after a request: one more when the pipeline formulated one. -/
theorem step_advice (a : Application) (w : ApiWorld) (r : ApiRequest) :
    SameAdvice w.system.db (w.step a r).system.db ∨
      ∃ caseId case features f, Formulates a w r caseId case features f ∧
        (w.step a r).system.db.advice =
          w.system.db.advice ++ [formulated w.system.db caseId f] := by
  have heffect := step_effect a w r
  generalize w.step a r = after at heffect
  cases heffect with
  | refused => exact .inl rfl
  | auth => exact .inl rfl
  | webhook route request called => exact .inl (webhook_sameAdvice ..)
  | admitted route user ask admitted =>
    rcases World.step_advice .default w.system ⟨r.surroundings.env, ask⟩ with hsame |
      ⟨pipeline, caseId, case, answer, hask, hgenerates, hadvice⟩
    · exact .inl hsame
    obtain rfl : ask = .operation (.generateRecommendation pipeline caseId) := hask
    obtain ⟨rfl, rfl⟩ := of_ask_generation admitted.asks
    obtain ⟨features, hfeatures, hanswer⟩ := Option.bind_eq_some_iff.mp hgenerates.answers
    obtain ⟨f, hf, hanswer⟩ := Option.bind_eq_some_iff.mp hanswer
    obtain rfl := Option.some.inj hanswer
    refine .inr ⟨caseId, case, features, f, ⟨⟨user, _, admitted⟩, hgenerates.caseRow, hfeatures, ?_⟩,
      hadvice⟩
    rcases hrun : formulate a.numerics features with fault | found
    · rw [hrun] at hf
      cases hf
    · rw [hrun] at hf
      cases hf
      rfl

/-- Every stored recommendation was formulated by an admitted request about its case. -/
theorem exists_formulation (hempty : w.system = World.empty) {requests : List ApiRequest} {id : UUID}
    {decision : AgentDecision}
    (h : (run a w requests).system.db.decisions[id]? = some decision) :
    ∃ earlier generation later case features f, requests = earlier ++ generation :: later ∧
      Formulates a (run a w earlier) generation decision.caseId case features f ∧
      id = (run a w earlier).system.db.decisions.length ∧
      ((run a w earlier).step a generation).system.db.advice =
        (run a w earlier).system.db.advice ++ [formulated (run a w earlier).system.db
          decision.caseId f] ∧
      decision.advice = formulated (run a w earlier).system.db decision.caseId f := by
  have hadvised : (run a w requests).system.db.advice[id]? = some decision.advice := by
    unfold Store.advice
    rw [List.getElem?_map, h]
    rfl
  obtain ⟨earlier, generation, later, rfl, habsent, hpresent⟩ :=
    Run.exists_step (P := fun v : ApiWorld => v.system.db.advice[id]? = some decision.advice)
      requests (by simp [hempty, World.empty, Store.empty, Store.advice]) hadvised
  rcases step_advice a (Run.after (step a) w earlier) generation with hsame |
    ⟨caseId, case, features, f, hformulates, hadvice⟩
  · rw [hsame] at hpresent
    exact absurd hpresent habsent
  · have hadded := hadvice
    rw [hadvice] at hpresent
    rcases Table.getElem?_append_one hpresent with hold | ⟨hid, hrow⟩
    · exact absurd hold habsent
    have hcase : decision.caseId = caseId := congrArg AgentDecision.caseId hrow
    subst hcase
    rw [Store.advice, List.length_map] at hid
    exact ⟨earlier, generation, later, case, features, f, rfl, hformulates, hid, hadded, hrow⟩

/-- A retry that the pipeline recommends with confidence: the failure may be retried, was not
retried more than once, and the customer nearly always pays. -/
structure Advises (features : CaseFeatures) (f : Formulation) : Prop where
  strategy : f.selection.selectedStrategy = .RETRY_LATER
  category : f.failure.failureCategory ∈ FailureAnalyzer.RETRYABLE_CATEGORIES
  attempts : features.priorAttempts ≤ 1
  successRate : 4 / 5 < features.customerSuccessRate

/-- Among the requests is one for which the pipeline recommended, with confidence, a retry for the
case. -/
def RetryAdvised (a : Application) (w : ApiWorld) (requests : List ApiRequest) (caseId : UUID) :
    Prop :=
  ∃ earlier generation later case features f, requests = earlier ++ generation :: later ∧
    Formulates a (run a w earlier) generation caseId case features f ∧ Advises features f

theorem RetryAdvised.append {requests : List ApiRequest} {caseId : UUID}
    (h : RetryAdvised a w requests caseId) (more : List ApiRequest) :
    RetryAdvised a w (requests ++ more) caseId := by
  obtain ⟨earlier, generation, later, case, features, f, rfl, hformulates, hadvises⟩ := h
  exact ⟨earlier, generation, later ++ more, case, features, f,
    by rw [List.append_assoc, List.cons_append], hformulates, hadvises⟩

end ApiWorld

end RevenueRescue
