import RevenueRescue.Api.Routes
import RevenueRescue.Properties.DecisionTable
import RevenueRescue.Properties.Dispatch
import RevenueRescue.Properties.Sessions

/-!
# Who stands behind a payment retry

The system only moves when a webhook arrives or a guarded route admits an account. Behind every call
of the payment provider there are three requests, in this order: the evaluation that recorded the
approval, the creation of the workflow, and its execution. Each was made by an active operator or
administrator, on a session that goes back to a login.

Without such an account nothing is decided, built, executed or sent, whatever arrives.
-/

namespace RevenueRescue

open Python

/-! ## Webhooks -/

/-- The authority of a webhook. -/
def Authority.webhook : Authority :=
  ⟨.default, False, fun _ => False, fun _ => True, True, fun _ => False, fun _ => False⟩

/-- The endpoint of all gateways answers with what ingesting a canonical event says. -/
theorem ingestProviderWebhook_ok {lib : Library} {secrets : GatewaySecrets} {env : Env}
    {uuid4 : UUID} {request : GatewayRequest} {s t : Store} {result : EventRecordResult}
    (h : ingestProviderWebhook lib secrets env uuid4 request s = .ok (result, t)) :
    ∃ event payloadHash, EventService.ingestCanonicalEvent env event payloadHash true s =
      .ok (result, t) := by
  unfold ingestProviderWebhook at h
  by_cases hbody : request.body = []
  · simp only [if_pos hbody] at h
    cases h
  simp only [if_neg hbody] at h
  generalize verifyWebhookHmac lib request.body _ _ = verified at h
  rcases verified with fault | _ | _
  · cases h
  · cases h
  rcases hloads : lib.decodeAndLoad request.body with message | value
  · rw [hloads] at h
    cases h
  rw [hloads] at h
  cases value with
  | obj payload =>
    dsimp only at h
    unfold EventService.ingestRawWebhook at h
    rcases hread : EventNormalizer.normalizeRawProviderWebhook lib env.now uuid4
      ⟨payload, providerHint request payload, _⟩ with fault | event
    · rw [hread] at h
      cases h
    · rw [hread] at h
      exact ⟨event, _, h⟩
  | _ => cases h

theorem ignoringResult_ok {α : Type} {x : Service α} {s t : Store}
    (h : ignoringResult x s = .ok ((), t)) : ∃ result, x s = .ok (result, t) := by
  obtain ⟨result, u, hrun, hpure⟩ := Tx.bind_eq_ok.mp h
  cases hpure
  exact ⟨result, hrun⟩

/-- A webhook ingests a canonical event or records a receipt. -/
theorem WebhookRoute.of_serve {lib : Library} {secrets : GatewaySecrets} {env : Env}
    {uuid4 : UUID} {request : GatewayRequest} {route : WebhookRoute} {s t : Store}
    (h : route.serve lib secrets env uuid4 request s = .ok ((), t)) :
    (∃ event payloadHash result, EventService.ingestCanonicalEvent env event payloadHash true s =
      .ok (result, t)) ∨
    ∃ row receipt, WebhookEventRepository.record row s = .ok (receipt, t) := by
  cases route with
  | gateway =>
    obtain ⟨result, hrun⟩ := ignoringResult_ok h
    obtain ⟨event, payloadHash, hevent⟩ := ingestProviderWebhook_ok hrun
    exact .inl ⟨event, payloadHash, result, hevent⟩
  | razorpay =>
    obtain ⟨result, hrun⟩ := ignoringResult_ok h
    obtain ⟨event, payloadHash, hevent⟩ := ingestRazorpayWebhook_ok hrun
    exact .inl ⟨event, payloadHash, result, hevent⟩
  | recovery =>
    obtain ⟨result, hrun⟩ := ignoringResult_ok h
    obtain ⟨receipt, row, hrecord, -⟩ := providerWebhook_ok hrun
    exact .inr ⟨row, receipt, hrecord⟩

/-- A webhook writes receipts, and what the case engine makes of an event. -/
theorem WebhookRoute.serve_writes {lib : Library} {secrets : GatewaySecrets} {env : Env}
    {uuid4 : UUID} {request : GatewayRequest} {route : WebhookRoute} {s t : Store}
    (h : route.serve lib secrets env uuid4 request s = .ok ((), t)) :
    Writes Authority.webhook s t := by
  rcases of_serve h with ⟨event, payloadHash, result, hevent⟩ | ⟨row, receipt, hrecord⟩
  · exact (EventService.ingestCanonicalEvent_keeps (A := .webhook) trivial
      fun _ _ _ _ _ => trivial).writes hevent
  · exact (WebhookEventRepository.record_keeps row).writes hrecord

theorem WebhookRoute.commit_writes (lib : Library) (secrets : GatewaySecrets) (env : Env)
    (uuid4 : UUID) (request : GatewayRequest) (route : WebhookRoute) (s : Store) :
    Writes Authority.webhook s
      (commitUnlessCrash env (route.serve lib secrets env uuid4 request) s) := by
  unfold commitUnlessCrash
  split
  · exact .refl
  · unfold Tx.commit
    rcases hrun : route.serve lib secrets env uuid4 request s with fault | ⟨⟨⟩, t⟩
    · exact .refl
    · exact serve_writes hrun

namespace ApiWorld

variable {a : Application} {w : ApiWorld} {r : ApiRequest}

/-! ## One request -/

/-- A request is admitted to a guarded route for an account. -/
structure Admitted (a : Application) (w : ApiWorld) (r : ApiRequest) (route : GuardedRoute)
    (user : User) (ask : Ask) : Prop where
  called : r.call = .guarded route
  acts : ActsAs a.deployment r.identity.now r.token w.auth.users user
  role : user.role ∈ route.allowedRoles
  valid : route.isValid = true
  asks : route.ask a r.surroundings w.system.db user = .ok ask

/-- What a request does to the world. -/
inductive Effect (a : Application) (w : ApiWorld) (r : ApiRequest) : ApiWorld → Prop
  | refused : Effect a w r w
  | auth (call : AuthCall) (called : r.call = .auth call) :
    Effect a w r { w with auth := w.auth.step a.deployment ⟨r.identity, r.token, call⟩ }
  | webhook (route : WebhookRoute) (request : GatewayRequest)
      (called : r.call = .webhook route request) :
    Effect a w r
      { w with
        system :=
          { w.system with
            db := commitUnlessCrash r.surroundings.env
              (route.serve a.deployment.lib a.secrets r.surroundings.env (r.surroundings.uuid4 0)
                request) w.system.db } }
  | admitted (route : GuardedRoute) (user : User) (ask : Ask)
      (admitted : Admitted a w r route user ask) :
    Effect a w r { w with system := w.system.step .default ⟨r.surroundings.env, ask⟩ }

theorem currentUser_eq_ok {route : GuardedRoute} {user : User} :
    currentUser a w r route = .ok user ↔
      ActsAs a.deployment r.identity.now r.token w.auth.users user ∧
        user.role ∈ route.allowedRoles := by
  unfold currentUser
  rw [Except.bind_eq_ok]
  simp only [getCurrentUser_eq_ok, requireRoles_eq_ok]
  constructor
  · rintro ⟨found, hacts, hrole, rfl⟩
    exact ⟨hacts, hrole⟩
  · rintro ⟨hacts, hrole⟩
    exact ⟨user, hacts, hrole, rfl⟩

theorem askOf_eq_some {route : GuardedRoute} {ask : Ask} (hcalled : r.call = .guarded route) :
    askOf a w r route = some ask ↔ ∃ user, Admitted a w r route user ask := by
  unfold askOf
  constructor
  · intro h
    rcases hcaller : currentUser a w r route with fault | user
    · rw [hcaller] at h
      cases h
    obtain ⟨hacts, hrole⟩ := currentUser_eq_ok.mp hcaller
    simp only [hcaller] at h
    split_ifs at h with hvalid
    rcases hask : route.ask a r.surroundings w.system.db user with fault | found
    · rw [hask] at h
      cases h
    · rw [hask] at h
      cases h
      exact ⟨user, hcalled, hacts, hrole, hvalid, hask⟩
  · rintro ⟨user, hadmitted⟩
    simp only [currentUser_eq_ok.mpr ⟨hadmitted.acts, hadmitted.role⟩, hadmitted.valid, if_true,
      hadmitted.asks]
    rfl

theorem step_effect (a : Application) (w : ApiWorld) (r : ApiRequest) :
    Effect a w r (w.step a r) := by
  unfold step
  rcases hcall : r.call with call | ⟨route, request⟩ | route
  · exact .auth call hcall
  · exact .webhook route request hcall
  · dsimp only
    rcases hasked : askOf a w r route with _ | ask
    · exact .refused
    · obtain ⟨user, hadmitted⟩ := (askOf_eq_some hcall).mp hasked
      exact .admitted route user ask hadmitted

/-! ## Runs -/

/-- What a request asks of the authentication endpoints. -/
def toAuth (r : ApiRequest) : Option AuthRequest :=
  match r.call with
  | .auth call => some ⟨r.identity, r.token, call⟩
  | _ => none

theorem step_auth (a : Application) (w : ApiWorld) (r : ApiRequest) :
    (w.step a r).auth = Run.onComponent (AuthWorld.step a.deployment) w.auth (toAuth r) := by
  unfold step toAuth
  rcases r.call with call | ⟨route, request⟩ | route
  · rfl
  · rfl
  · dsimp only
    split <;> rfl

theorem run_auth (a : Application) (w : ApiWorld) (requests : List ApiRequest) :
    (run a w requests).auth = AuthWorld.run a.deployment w.auth (requests.filterMap toAuth) :=
  Run.after_filterMap (step_auth a) requests w

/-- The tokens that a request presents. -/
def Presents (r : ApiRequest) (token : String) : Prop :=
  r.token = some token ∨ ∃ dto, r.call = .auth (.refresh dto) ∧ dto.refreshToken = token

/-- No token is forged: one that can be decoded was handed out before. -/
def Genuine (a : Application) (w : ApiWorld) (r : ApiRequest) : Prop :=
  ∀ token claims, Presents r token →
    a.deployment.jose.decode (epochSeconds r.identity.now) token = .ok claims →
      token ∈ w.auth.issued

theorem Genuine.auth {request : AuthRequest} (hrequest : toAuth r = some request)
    (h : Genuine a w r) : AuthWorld.Genuine a.deployment w.auth request := by
  unfold toAuth at hrequest
  split at hrequest
  next call hcall =>
    cases hrequest
    rintro token claims (htoken | ⟨dto, hrefresh, hdto⟩) hdecode
    · exact h token claims (.inl htoken) hdecode
    · have hcalled : call = .refresh dto := hrefresh
      exact h token claims (.inr ⟨dto, by rw [hcall, hcalled], hdto⟩) hdecode
  next => cases hrequest

/-- After the requests, a request was admitted to a route for an active operator or administrator.
Its session goes back to a login, and was renewed within the lifetime of an access token. -/
structure MadeBy (a : Application) (w : ApiWorld) (before : List ApiRequest) (r : ApiRequest)
    (route : GuardedRoute) (user : User) : Prop where
  called : r.call = .guarded route
  acts : ActsAs a.deployment r.identity.now r.token (run a w before).auth.users user
  role : user.role = .ADMIN ∨ user.role = .OPERATOR
  session : ∃ time, AuthWorld.Session a.deployment w.auth (before.filterMap toAuth) user.id
    time ∧ epochSeconds r.identity.now ≤ accessExpiry a.deployment.settings time

/-- A request that acts for an account rests on a session of the account. -/
theorem session_of_acts (hlaw : Jose.Lawful a.deployment) (hstart : w.auth.issued = [])
    {before : List ApiRequest} (hgenuine : Run.Guarded (step a) (Genuine a) w before)
    (hnow : Genuine a (run a w before) r) {user : User}
    (hacts : ActsAs a.deployment r.identity.now r.token (run a w before).auth.users user) :
    ∃ time, AuthWorld.Session a.deployment w.auth (before.filterMap toAuth) user.id time ∧
      epochSeconds r.identity.now ≤ accessExpiry a.deployment.settings time := by
  have hguarded : Run.Guarded (AuthWorld.step a.deployment) (AuthWorld.Genuine a.deployment) w.auth
      (before.filterMap toAuth) :=
    hgenuine.filterMap (step_auth a) fun _ _ _ hrequest h => h.auth hrequest
  obtain ⟨token, htoken, -, hbearer⟩ := hacts.bearer
  obtain ⟨claims, hdecode⟩ := AuthWorld.decode_of_bearerOf hbearer
  have hissued := hnow token claims (.inl htoken) hdecode
  rw [run_auth] at hissued
  obtain ⟨userId, time, hsession, hmade⟩ :=
    AuthWorld.issued_of_session hlaw hstart _ hguarded token hissued
  obtain ⟨rfl, hexpiry⟩ := hmade.accessBearer hlaw hbearer
  exact ⟨time, hsession, hexpiry⟩

/-- An admitted request was made by its account. -/
theorem Admitted.madeBy (hlaw : Jose.Lawful a.deployment) (hstart : w.auth.issued = [])
    {before : List ApiRequest} (hgenuine : Run.Guarded (step a) (Genuine a) w before)
    (hnow : Genuine a (run a w before) r) {route : GuardedRoute} {user : User} {ask : Ask}
    (h : Admitted a (run a w before) r route user ask)
    (hroles : route.allowedRoles = [.ADMIN, .OPERATOR]) : MadeBy a w before r route user := by
  have hrole := h.role
  rw [hroles] at hrole
  exact ⟨h.called, h.acts, by simpa using hrole, session_of_acts hlaw hstart hgenuine hnow h.acts⟩

/-! ## What a route can ask -/

/-- Only one route asks for an evaluation, one for a workflow and one for its execution. -/
theorem of_ask {x : Surroundings} {s : Store} {user : User} {route : GuardedRoute} {ask : Ask}
    (h : route.ask a x s user = .ok ask) :
    (∀ request, ask = .operation (.evaluate request) →
      ∃ payload, route = .evaluatePolicyRecommendation payload ∧
        payload.caseId = request.caseId) ∧
    (∀ decisionId cooldownHours maxWorkflowHours,
      ask = .operation (.createWorkflow decisionId cooldownHours maxWorkflowHours) →
        ∃ payload, route = .createWorkflow payload ∧ payload.policyDecisionId = decisionId) ∧
    ∀ workflowId executeAll override provider,
      ask = .execute workflowId executeAll override provider →
        ∃ payload, route = .executeWorkflow workflowId payload := by
  have hingestion {canonical : Except Fault CanonicalEventDTO}
      (hask : GuardedRoute.ingestion a.deployment.lib canonical = .ok ask) :
      ∃ event payloadHash, ask = .operation (.ingestEvent event payloadHash true) := by
    rcases canonical with fault | event
    · cases hask
    · cases hask
      exact ⟨event, _, rfl⟩
  cases route with
  | evaluatePolicyRecommendation payload =>
    cases h
    refine ⟨fun request hask => ⟨payload, rfl, ?_⟩, by simp, by simp⟩
    cases hask
    rfl
  | createWorkflow payload =>
    cases h
    refine ⟨by simp, fun _ _ _ hask => ⟨payload, rfl, ?_⟩, by simp⟩
    cases hask
    rfl
  | executeWorkflow workflowId payload =>
    cases h
    refine ⟨by simp, by simp, fun _ _ _ _ hask => ⟨payload, ?_⟩⟩
    cases hask
    rfl
  | ingestEvent requestDto =>
    obtain ⟨event, payloadHash, rfl⟩ := hingestion h
    exact ⟨by simp, by simp, by simp⟩
  | simulateFailure simRequest =>
    obtain ⟨event, payloadHash, rfl⟩ := hingestion h
    exact ⟨by simp, by simp, by simp⟩
  | _ =>
    cases h
    exact ⟨by simp, by simp, by simp⟩

/-- A request that brings a decision into the database is an admitted evaluation of its case. -/
theorem step_decides {decisionId : UUID} {decision : PolicyDecision}
    (hnew : w.system.db.policyDecisions[decisionId]? ≠ some decision)
    (hdecision : (w.step a r).system.db.policyDecisions[decisionId]? = some decision) :
    ∃ payload user ask, Admitted a w r (.evaluatePolicyRecommendation payload) user ask ∧
      payload.caseId = decision.caseId := by
  have heffect := step_effect a w r
  generalize w.step a r = after at heffect hdecision
  cases heffect with
  | refused => exact absurd hdecision hnew
  | auth => exact absurd hdecision hnew
  | webhook route request called =>
    rcases (route.commit_writes _ _ _ _ request _).decided hdecision with hold | hdecides
    · exact absurd hold hnew
    · exact hdecides.elim
  | admitted route user ask admitted =>
    obtain ⟨env, request, hask, hcase⟩ := World.step_decides hnew hdecision
    rw [Request.mk.injEq] at hask
    obtain ⟨payload, rfl, hpayload⟩ := (of_ask admitted.asks).1 request hask.2
    exact ⟨payload, user, ask, admitted, hpayload.trans hcase⟩

/-- A request that brings a workflow into the database is an admitted creation on its decision. -/
theorem step_creates {workflowId : UUID} {workflow : RecoveryWorkflow}
    (hnew : w.system.db.workflows[workflowId]? = none)
    (hworkflow : (w.step a r).system.db.workflows[workflowId]? = some workflow) :
    ∃ payload user ask decision, Admitted a w r (.createWorkflow payload) user ask ∧
      WorkflowCreationService.Buildable w.system.db payload.policyDecisionId decision ∧
      workflow.policyDecisionId = payload.policyDecisionId := by
  have hlength := (List.getElem?_eq_some_iff.mp hworkflow).1
  have hmore := List.getElem?_eq_none_iff.mp hnew
  have heffect := step_effect a w r
  generalize w.step a r = after at heffect hworkflow hlength
  cases heffect with
  | refused => exact absurd hlength (Nat.not_lt.mpr hmore)
  | auth => exact absurd hlength (Nat.not_lt.mpr hmore)
  | webhook route request called =>
    have hsame := (route.commit_writes a.deployment.lib a.secrets r.surroundings.env
      (r.surroundings.uuid4 0) request w.system.db).workflows_length fun _ h => h
    exact absurd (hsame ▸ hlength) (Nat.not_lt.mpr hmore)
  | admitted route user ask admitted =>
    rcases @World.step_workflows .default w.system ⟨r.surroundings.env, ask⟩ with hsame |
      ⟨decisionId, cooldownHours, maxWorkflowHours, decision, hask, hbuildable, hstep⟩
    · exact absurd (hsame ▸ hlength) (Nat.not_lt.mpr hmore)
    obtain ⟨payload, rfl, rfl⟩ := (of_ask admitted.asks).2.1 _ _ _ hask
    rw [hstep] at hworkflow
    rcases Table.getElem?_append_one hworkflow with hold | ⟨-, rfl⟩
    · rw [hnew] at hold
      cases hold
    · exact ⟨payload, user, ask, decision, admitted, hbuildable, rfl⟩

/-- A request that calls the payment provider is an admitted execution. -/
theorem step_calls (a : Application) (w : ApiWorld) (r : ApiRequest) :
    ∃ sent, (w.step a r).system.sent = w.system.sent ++ sent ∧
      ∀ sub ∈ sent, Sanctioned (.execution .default sub.workflowId) w.system.db sub ∧
        ∃ payload user ask, Admitted a w r (.executeWorkflow sub.workflowId payload) user ask := by
  have hnone : w.system.sent = w.system.sent ++ [] := (List.append_nil _).symm
  have heffect := step_effect a w r
  generalize w.step a r = after at heffect
  cases heffect with
  | refused => exact ⟨[], hnone, by simp⟩
  | auth => exact ⟨[], hnone, by simp⟩
  | webhook => exact ⟨[], hnone, by simp⟩
  | admitted route user ask admitted =>
    cases ask with
    | operation op => exact ⟨[], hnone, by simp⟩
    | reconcilePending provider limit => exact ⟨[], hnone, by simp⟩
    | execute workflowId executeAll override provider =>
      obtain ⟨sent, hexecuted⟩ := @World.step_execute .default w.system r.surroundings.env
        workflowId executeAll override provider
      refine ⟨sent, hexecuted.calls, fun sub hsub => ?_⟩
      have hsanctioned := hexecuted.sanctioned sub hsub
      obtain rfl : sub.workflowId = workflowId := hsanctioned.executes
      obtain ⟨payload, rfl⟩ := (of_ask admitted.asks).2.2 _ _ _ _ rfl
      exact ⟨hsanctioned, payload, user, _, admitted⟩

theorem step_writes (a : Application) (w : ApiWorld) (r : ApiRequest) :
    Writes (.any .default) w.system.db (w.step a r).system.db := by
  have heffect := step_effect a w r
  generalize w.step a r = after at heffect
  cases heffect with
  | refused => exact .refl
  | auth => exact .refl
  | webhook route request called => exact (route.commit_writes ..).any
  | admitted route user ask admitted => exact World.step_writes .default w.system _

theorem run_chain (hempty : w.system = World.empty) (requests : List ApiRequest) :
    Chain .default (run a w requests).system.db := by
  refine Run.invariant (I := fun v : ApiWorld => Chain .default v.system.db)
    (fun v r hv => (step_writes a v r).chain hv) requests ?_
  rw [hempty]
  exact Chain.empty .default

theorem run_evolved (requests : List ApiRequest) :
    Evolved w.system.db (run a w requests).system.db :=
  Run.preorder (R := fun v v' : ApiWorld => Evolved v.system.db v'.system.db)
    (fun v => .refl v.system.db) (fun _ _ _ => Evolved.trans)
    (fun v r => (step_writes a v r).evolved) w requests

/-! ## Where rows come from -/

/-- Every decision was recorded by an admitted evaluation of its case. -/
theorem exists_evaluation (hempty : w.system = World.empty) {before : List ApiRequest}
    {decisionId : UUID} {decision : PolicyDecision}
    (h : (run a w before).system.db.policyDecisions[decisionId]? = some decision) :
    ∃ earlier evaluation later payload evaluator ask,
      before = earlier ++ evaluation :: later ∧
      Admitted a (run a w earlier) evaluation (.evaluatePolicyRecommendation payload) evaluator
        ask ∧
      payload.caseId = decision.caseId ∧
      (run a w earlier).system.db.policyDecisions[decisionId]? ≠ some decision ∧
      (run a w (earlier ++ [evaluation])).system.db.policyDecisions[decisionId]? =
        some decision := by
  obtain ⟨earlier, evaluation, later, rfl, hmissing, hrecorded⟩ :=
    Run.exists_step (P := fun v : ApiWorld =>
      v.system.db.policyDecisions[decisionId]? = some decision) before
      (by simp [hempty, World.empty, Store.empty]) h
  obtain ⟨payload, evaluator, ask, hadmitted, hcase⟩ := step_decides hmissing hrecorded
  refine ⟨earlier, evaluation, later, payload, evaluator, ask, rfl, hadmitted, hcase, hmissing, ?_⟩
  rw [run, Run.after_snoc]
  exact hrecorded

/-- Every workflow was created by an admitted request on a decision that was there. -/
theorem exists_creation (hempty : w.system = World.empty) {before : List ApiRequest}
    {workflowId : UUID} {workflow : RecoveryWorkflow}
    (h : (run a w before).system.db.workflows[workflowId]? = some workflow) :
    ∃ upto creation later payload creator ask decision,
      before = upto ++ creation :: later ∧
      Admitted a (run a w upto) creation (.createWorkflow payload) creator ask ∧
      payload.policyDecisionId = workflow.policyDecisionId ∧
      (run a w upto).system.db.policyDecisions[workflow.policyDecisionId]? = some decision := by
  have hthere : (run a w before).system.db.workflows[workflowId]? ≠ none := by
    rw [h]
    exact Option.some_ne_none _
  obtain ⟨upto, creation, later, rfl, habsent, hpresent⟩ :=
    Run.exists_step (P := fun v : ApiWorld => v.system.db.workflows[workflowId]? ≠ none) before
      (by simp [hempty, World.empty, Store.empty]) hthere
  obtain ⟨row, hrow⟩ := Option.ne_none_iff_exists'.mp hpresent
  obtain ⟨payload, creator, ask, decision, hadmitted, hbuildable, hpolicy⟩ :=
    step_creates (not_not.mp habsent) hrow
  have hlater : Evolved ((run a w upto).step a creation).system.db
      (run a w (upto ++ creation :: later)).system.db := by
    rw [run, run, Run.after_append, Run.after_cons]
    exact run_evolved later
  obtain ⟨found, hfound, hprogress⟩ := hlater.workflows.getElem? hrow
  obtain rfl : found = workflow := Option.some.inj (hfound.symm.trans h)
  have hpayload : payload.policyDecisionId = found.policyDecisionId :=
    hpolicy.symm.trans hprogress.policyDecisionId.symm
  exact ⟨upto, creation, later, payload, creator, ask, decision, rfl, hadmitted, hpayload,
    hpayload ▸ hbuildable.decisionRow⟩

/-! ## Accountability -/

/-- The three requests behind a call of the payment provider, among the requests before it: the
evaluation that recorded the approval, the creation of the workflow on it, and the execution. -/
structure Accountable (a : Application) (w : ApiWorld) (before : List ApiRequest) (r : ApiRequest)
    (sub : Submission) : Prop where
  executed : ∃ payload executor, MadeBy a w before r (.executeWorkflow sub.workflowId payload)
    executor
  prepared : ∃ earlier evaluation middle creation later, before =
      earlier ++ evaluation :: (middle ++ creation :: later) ∧
    ∃ workflow decision, sub.Authorised .default workflow decision ∧
    (∃ payload evaluator,
      MadeBy a w earlier evaluation (.evaluatePolicyRecommendation payload) evaluator ∧
        payload.caseId = sub.request.caseId) ∧
    (run a w earlier).system.db.policyDecisions[workflow.policyDecisionId]? ≠ some decision ∧
    (run a w (earlier ++ [evaluation])).system.db.policyDecisions[workflow.policyDecisionId]? =
      some decision ∧
    ∃ payload creator,
      MadeBy a w (earlier ++ evaluation :: middle) creation (.createWorkflow payload) creator ∧
        payload.policyDecisionId = workflow.policyDecisionId

/-- Every payment retry stands on an evaluation, a creation and an execution by active operators or
administrators with a session. -/
theorem submissions_are_accountable (hlaw : Jose.Lawful a.deployment)
    (hstart : w.auth.issued = []) (hempty : w.system = World.empty) (before : List ApiRequest)
    (r : ApiRequest) (hgenuine : Run.Guarded (step a) (Genuine a) w (before ++ [r])) :
    ∃ sent, (run a w (before ++ [r])).system.sent = (run a w before).system.sent ++ sent ∧
      ∀ sub ∈ sent, Accountable a w before r sub := by
  obtain ⟨hbefore, hnow, -⟩ := (Run.guarded_append before [r]).mp hgenuine
  have hstep : run a w (before ++ [r]) = (run a w before).step a r := Run.after_snoc ..
  obtain ⟨sent, hsent, hcalls⟩ := step_calls a (run a w before) r
  refine ⟨sent, by rw [hstep, hsent], fun sub hsub => ?_⟩
  obtain ⟨hsanctioned, payload, executor, ask, hexecution⟩ := hcalls sub hsub
  refine ⟨⟨payload, executor, hexecution.madeBy hlaw hstart hbefore hnow rfl⟩, ?_⟩
  obtain ⟨workflow, decision, hauthorised⟩ :=
    hsanctioned.authorised rfl (run_chain hempty before)
  -- what the call rests on was there before the execution
  obtain ⟨row, hrow, hprogress⟩ := hsanctioned.writes.evolved.workflows.row_before
    (hsanctioned.writes.workflows_length fun _ h => h) hauthorised.workflowRow
  obtain ⟨upto, creation, later, hcreate, creator, ask', stored, rfl, hcreation, hpayload,
    hstored⟩ := exists_creation hempty hrow
  rw [← hprogress.policyDecisionId] at hpayload hstored
  have hsame : stored = decision := by
    have hlater : Evolved (run a w upto).system.db sub.db := by
      have hrest := hsanctioned.writes.evolved
      rw [run, Run.after_append] at hrest
      exact (run_evolved (creation :: later)).trans hrest
    obtain ⟨kept, hkept, rfl⟩ := hlater.policyDecisions.getElem? hstored
    exact Option.some.inj (hkept.symm.trans hauthorised.decisionRow)
  subst hsame
  obtain ⟨hupto, hcreating, -⟩ := (Run.guarded_append upto (creation :: later)).mp hbefore
  obtain ⟨earlier, evaluation, middle, payload', evaluator, ask'', rfl, hevaluation, hcase, hmissing,
    hrecorded⟩ := exists_evaluation hempty hstored
  obtain ⟨hearlier, hevaluating, -⟩ := (Run.guarded_append earlier (evaluation :: middle)).mp hupto
  refine ⟨earlier, evaluation, middle, creation, later, ?_, workflow, stored, hauthorised,
    ⟨payload', evaluator, hevaluation.madeBy hlaw hstart hearlier hevaluating rfl,
      hcase.trans hauthorised.decisionCase⟩, hmissing, hrecorded, hcreate, creator,
    hcreation.madeBy hlaw hstart hupto hcreating rfl, hpayload⟩
  rw [List.append_assoc, List.cons_append]

end ApiWorld

/-! ## A retry from the report of a failure -/

namespace Sample

open ApiWorld

/-- The surroundings of requests at noon, with a provider that reports a failed call. -/
def surroundings : Surroundings where
  env := env
  uuid4 := fun n => n
  provider := fun request =>
    some ⟨.FAILED, "razorpay", some "pay_2", none, request.amountMinor, "INR", none, none, noon, true⟩
  statusProvider := fun _ _ => none

noncomputable def application : Application where
  deployment := deployment
  numerics := numerics
  secrets :=
    { RAZORPAY_WEBHOOK_SECRET := none, paymentWebhookSecret := "", razorpayWebhookSecret := ""
      WEBHOOK_SIGNING_SECRET := none, STRIPE_WEBHOOK_SECRET := none }

/-- The report that a payment of 50 rupees failed, of a customer who always paid before. -/
def failureReport : EventIngestRequestDTO :=
  { eventId := some "evt_1", eventType := "PAYMENT_FAILED", provider := "razorpay"
    occurredAt := some noon, customerReference := "cust_1", paymentReference := some "pay_1"
    subscriptionReference := none, invoiceReference := none, checkoutSessionId := none
    amountMinor := 5000, currency := inr, failureCode := some "insufficient_funds"
    failureMessage := none, metadata := [("success_rate", .float 1)] }

/-- From the report to the workflow of a retry. -/
def retryRoutes : List GuardedRoute :=
  [.ingestEvent failureReport,
    .createCustomerConsent { customerId := 0, consentType := .RECURRING_BILLING },
    .generateCaseRecommendation 0,
    .evaluatePolicyRecommendation { caseId := 0, recommendationId := 0 },
    .createWorkflow { policyDecisionId := 0 }]

/-- The operator logs in. -/
def operatorLogin : ApiRequest :=
  ⟨loginRequest.env, surroundings, none, .auth (.login ⟨" Ada@Northstar.io", "correct horse"⟩)⟩

/-- The operator asks for something half an hour later. -/
noncomputable def operatorRequest (route : GuardedRoute) : ApiRequest :=
  ⟨(authRequest 30 none .logout).env, surroundings, some operatorToken, .guarded route⟩

/-- The accounts once the operator has logged in. -/
noncomputable def loggedIn : AuthWorld :=
  (⟨accounts .ACTIVE, []⟩ : AuthWorld).step deployment loginRequest

/-- What the operator's request does to the system. -/
noncomputable def serveOperator (s : World) (route : GuardedRoute) : World :=
  if route.isValid then
    match route.ask application surroundings s.db operator with
    | .ok ask => s.step .default ⟨env, ask⟩
    | .error _ => s
  else s

theorem operatorToken_issued : operatorToken ∈ loggedIn.issued :=
  List.mem_cons_self

theorem operator_acts : ActsAs deployment (authRequest 30 none .logout).env.now
    (some operatorToken) loggedIn.users operator := by
  refine ⟨⟨_, rfl, ?_, ?_⟩, ?_, rfl⟩
  · exact dumps_obj_ne_empty _
  · exact AuthWorld.accessBearer_createAccessToken deployment_lawful _ _ _ _ (by decide)
  · decide +kernel

/-- The operator is admitted everywhere. -/
theorem step_operatorRequest (s : World) (route : GuardedRoute) :
    (⟨loggedIn, s⟩ : ApiWorld).step application (operatorRequest route) =
      ⟨loggedIn, serveOperator s route⟩ := by
  have hrole : operator.role ∈ route.allowedRoles := by
    have hoperator : operator.role = .OPERATOR := rfl
    rw [hoperator]
    cases route <;> simp [GuardedRoute.allowedRoles]
  have hcaller : currentUser application ⟨loggedIn, s⟩ (operatorRequest route) route =
      .ok operator := currentUser_eq_ok.mpr ⟨operator_acts, hrole⟩
  have hasked : askOf application ⟨loggedIn, s⟩ (operatorRequest route) route =
      if route.isValid then (route.ask application surroundings s.db operator).toOption
      else none := by
    unfold askOf
    rw [hcaller]
    rfl
  unfold ApiWorld.step serveOperator
  have hcalled : (operatorRequest route).call = .guarded route := rfl
  rw [hcalled]
  dsimp only
  rw [hasked]
  split_ifs
  · rcases route.ask application surroundings s.db operator with fault | ask <;> rfl
  · rfl

/-- The token of the operator is genuine over all requests. -/
theorem operatorRequests_genuine (routes : List GuardedRoute) (s : World) :
    Run.Guarded (step application) (Genuine application) ⟨loggedIn, s⟩
        (routes.map operatorRequest) ∧
      run application ⟨loggedIn, s⟩ (routes.map operatorRequest) =
        ⟨loggedIn, Run.after serveOperator s routes⟩ := by
  induction routes generalizing s with
  | nil => exact ⟨trivial, rfl⟩
  | cons route rest ih =>
    obtain ⟨hrest, hrun⟩ := ih (serveOperator s route)
    rw [List.map_cons, run, Run.after_cons, Run.Guarded, step_operatorRequest]
    refine ⟨⟨?_, hrest⟩, hrun⟩
    rintro token claims (htoken | ⟨dto, hcall, -⟩) -
    · cases htoken
      exact operatorToken_issued
    · cases hcall

/-- The world that the operator logs in to. -/
def quietWorld : ApiWorld := ⟨⟨accounts .ACTIVE, []⟩, World.empty⟩

theorem step_operatorLogin :
    quietWorld.step application operatorLogin = ⟨loggedIn, World.empty⟩ :=
  rfl

/-- The login and everything up to the workflow. -/
noncomputable def retryRequests : List ApiRequest :=
  operatorLogin :: retryRoutes.map operatorRequest

noncomputable def execution : ApiRequest := operatorRequest (.executeWorkflow 0 {})

theorem retryRequests_execution : retryRequests ++ [execution] = operatorLogin ::
    (retryRoutes ++ [GuardedRoute.executeWorkflow 0 {}]).map operatorRequest :=
  rfl

/-- The execution calls the payment provider once. -/
theorem sent_length :
    (run application quietWorld (retryRequests ++ [execution])).system.sent.length = 1 := by
  obtain ⟨-, hrun⟩ :=
    operatorRequests_genuine (retryRoutes ++ [.executeWorkflow 0 {}]) World.empty
  rw [retryRequests_execution, run, Run.after_cons, step_operatorLogin, ← run, hrun]
  decide +kernel

end Sample

/-- The operator who logged in stands behind the retry of the payment that was reported. -/
theorem ApiWorld.submissions_are_accountable_retry : ∃ sub,
    (run Sample.application Sample.quietWorld (Sample.retryRequests ++ [Sample.execution])).system.sent
      = [sub] ∧
    Accountable Sample.application Sample.quietWorld Sample.retryRequests Sample.execution sub := by
  obtain ⟨hguarded, -⟩ := Sample.operatorRequests_genuine
    (Sample.retryRoutes ++ [.executeWorkflow 0 {}]) World.empty
  obtain ⟨-, hbefore⟩ := Sample.operatorRequests_genuine Sample.retryRoutes World.empty
  have hgenuine : Run.Guarded (step Sample.application) (Genuine Sample.application)
      Sample.quietWorld (Sample.retryRequests ++ [Sample.execution]) := by
    rw [Sample.retryRequests_execution, Run.Guarded, Sample.step_operatorLogin]
    refine ⟨?_, hguarded⟩
    rintro token claims (hnone | ⟨dto, hcall, -⟩)
    · cases hnone
    · cases hcall
  have hnothing : (run Sample.application Sample.quietWorld Sample.retryRequests).system.sent = [] := by
    rw [Sample.retryRequests, run, Run.after_cons, Sample.step_operatorLogin, ← run, hbefore]
    exact List.length_eq_zero_iff.mp (by decide +kernel)
  have hone := Sample.sent_length
  obtain ⟨sent, hsent, haccountable⟩ := submissions_are_accountable
    Sample.deployment_lawful rfl rfl Sample.retryRequests Sample.execution hgenuine
  rw [hnothing, List.nil_append] at hsent
  rw [hsent, List.length_eq_one_iff] at hone
  obtain ⟨sub, rfl⟩ := hone
  exact ⟨sub, hsent, haccountable sub (List.mem_singleton_self sub)⟩

end RevenueRescue
