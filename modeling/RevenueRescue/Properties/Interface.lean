import RevenueRescue.Properties.Accountability
import RevenueRescue.Refinement.Grounding

/-!
# The interface refines the services

Whatever requests the HTTP interface serves, the system goes through a run of its services: each
action of that run is an operation that the interface admitted for an account, the ingestion of an
event from a webhook that was verified, or a receipt that is only recorded. So what the services keep
holds behind the interface.
-/

namespace RevenueRescue

open Python

/-- What the services are seen to do: serve a request, or record a receipt that is not processed. -/
inductive ServiceAction where
  | request (r : Request)
  | receipt (row : ProviderWebhookEvent)

/-- Take one action. -/
def World.act (config : PolicyConfig) (w : World) : ServiceAction → World
  | .request r => w.step config r
  | .receipt row => { w with db := withReceipt w.db row }

namespace WebhookRoute

variable {lib : Library} {secrets : GatewaySecrets} {env : Env} {uuid4 : UUID}
  {request : GatewayRequest} {route : WebhookRoute} {s t : Store}

/-- What is served was read and verified. -/
theorem verify_of_serve (h : route.serve lib secrets env uuid4 request s = .ok ((), t)) :
    ¬route.RefusedUnread request ∧ route.verify lib secrets request = .ok true := by
  have hserved : ¬RefusedBy (route.serve lib secrets env uuid4 request) s := by
    rintro ⟨fault, hfault, -⟩
    rw [h] at hfault
    cases hfault
  have hread : ¬route.RefusedUnread request := fun hunread => hserved (serve_unread hunread)
  rcases hverify : route.verify lib secrets request with fault | _ | _
  · rw [serve_of_verify_error hread hverify] at h
    cases h
  · exact absurd (serve_of_verify_false hread hverify) hserved
  · exact ⟨hread, rfl⟩

/-- What is served by an endpoint that ingests says a webhook. -/
theorem content_of_serve (hroute : route ≠ .recovery)
    (h : route.serve lib secrets env uuid4 request s = .ok ((), t)) :
    ∃ raw, route.content lib request = some raw ∧
      ∃ result, EventService.ingestRawWebhook lib env uuid4 raw true s = .ok (result, t) := by
  obtain ⟨hread, hverify⟩ := verify_of_serve h
  rcases hcontent : route.content lib request with _ | raw
  · have hrefused : RefusedBy (route.serve lib secrets env uuid4 request) s :=
      serve_of_no_content hread hroute hverify hcontent
    obtain ⟨fault, hfault, -⟩ := hrefused
    rw [h] at hfault
    cases hfault
  · rw [serve_of_content hread hverify hcontent] at h
    exact ⟨raw, rfl, ignoringResult_ok h⟩

end WebhookRoute

namespace ApiWorld

variable {a : Application} {w : ApiWorld} {r : ApiRequest}

/-- Why the interface takes an action of the services. -/
inductive Takes (a : Application) (w : ApiWorld) (r : ApiRequest) : ServiceAction → Prop
  /-- The request was admitted for an active account with a role for its endpoint. -/
  | admitted (endpoint : GuardedRoute) (user : User) (ask : Ask)
      (h : Admitted a w r endpoint user ask) : Takes a w r (.request ⟨r.surroundings.env, ask⟩)
  /-- The event is what a verified webhook says. -/
  | ingested (route : WebhookRoute) (request : GatewayRequest) (raw : RawWebhook)
      (event : CanonicalEventDTO) (called : r.call = .webhook route request)
      (verified : route.verify a.deployment.lib a.secrets request = .ok true)
      (content : route.content a.deployment.lib request = some raw)
      (normalised : EventNormalizer.normalizeRawProviderWebhook a.deployment.lib r.surroundings.env.now
        (r.surroundings.uuid4 0) raw = .ok event) :
    Takes a w r (.request ⟨r.surroundings.env, .operation (.ingestEvent event
      (EventDeduplicator.computeFingerprint a.deployment.lib event) true)⟩)
  /-- The receipt of a verified webhook is recorded unprocessed. -/
  | recorded (request : GatewayRequest) (row : ProviderWebhookEvent)
      (called : r.call = .webhook .recovery request)
      (verified : WebhookRoute.recovery.verify a.deployment.lib a.secrets request = .ok true)
      (provider : row.provider = "razorpay") (unprocessed : row.processed = false) :
    Takes a w r (.receipt row)

/-- A webhook leaves the system alone or takes an action of the services. -/
theorem webhook_takes {route : WebhookRoute} {request : GatewayRequest}
    (hcalled : r.call = .webhook route request) :
    commitUnlessCrash r.surroundings.env
        (route.serve a.deployment.lib a.secrets r.surroundings.env (r.surroundings.uuid4 0) request)
        w.system.db = w.system.db ∨
      ∃ action, Takes a w r action ∧
        { w.system with
          db := commitUnlessCrash r.surroundings.env
            (route.serve a.deployment.lib a.secrets r.surroundings.env (r.surroundings.uuid4 0)
              request) w.system.db } = w.system.act .default action := by
  cases hcrash : r.surroundings.env.crash with
  | true => exact .inl (if_pos hcrash)
  | false =>
    have halive : ¬r.surroundings.env.crash = true := by simp [hcrash]
    have hcommit {x : Service Unit} {t : Store} (h : x w.system.db = .ok ((), t)) :
        commitUnlessCrash r.surroundings.env x w.system.db = t := by
      unfold commitUnlessCrash Tx.commit
      rw [if_neg halive, h]
    rcases hserve : route.serve a.deployment.lib a.secrets r.surroundings.env
      (r.surroundings.uuid4 0) request w.system.db with fault | ⟨⟨⟩, t⟩
    · refine .inl ?_
      unfold commitUnlessCrash Tx.commit
      rw [if_neg halive, hserve]
    · have hverified := (WebhookRoute.verify_of_serve hserve).2
      right
      rw [hcommit hserve]
      by_cases hroute : route = .recovery
      · subst hroute
        obtain ⟨result, hrun⟩ := ignoringResult_ok hserve
        obtain ⟨receipt, row, hrecord, hprovider, -, hunprocessed, -⟩ := providerWebhook_ok hrun
        obtain ⟨found, hfound⟩ := WebhookEventRepository.record_apply w.system.db row
        rw [hfound] at hrecord
        cases hrecord
        exact ⟨_, .recorded request row hcalled hverified hprovider hunprocessed, rfl⟩
      · obtain ⟨raw, hcontent, result, hraw⟩ := WebhookRoute.content_of_serve hroute hserve
        unfold EventService.ingestRawWebhook at hraw
        rcases hevent : EventNormalizer.normalizeRawProviderWebhook a.deployment.lib
          r.surroundings.env.now (r.surroundings.uuid4 0) raw with fault | event
        · rw [hevent] at hraw
          cases hraw
        rw [hevent] at hraw
        refine ⟨_, .ingested route request raw event hcalled hverified hcontent hevent, ?_⟩
        have hingest : (Operation.ingestEvent event
            (EventDeduplicator.computeFingerprint a.deployment.lib event) true).service .default
              r.surroundings.env w.system.db = .ok ((), t) :=
          Tx.bind_eq_ok.mpr ⟨result, t, hraw, rfl⟩
        exact congrArg (fun db : Store => ({ w.system with db } : World)) (hcommit hingest).symm

/-- A request leaves the system alone or takes an action of the services. -/
theorem step_takes (a : Application) (w : ApiWorld) (r : ApiRequest) :
    (w.step a r).system = w.system ∨
      ∃ action, Takes a w r action ∧ (w.step a r).system = w.system.act .default action := by
  have heffect := step_effect a w r
  generalize w.step a r = after at heffect
  cases heffect with
  | refused => exact .inl rfl
  | auth call called => exact .inl rfl
  | webhook route request called =>
    refine (webhook_takes called).imp_left fun hsame => ?_
    dsimp only
    rw [hsame]
  | admitted endpoint user ask admitted =>
    exact .inr ⟨_, .admitted endpoint user ask admitted, rfl⟩

/-- Whatever the interface serves, the system goes through a run of its services, whose actions are
taken in the order of the requests. -/
theorem interface_refines_services (a : Application) (w : ApiWorld) (requests : List ApiRequest) :
    ∃ actions, Run.Taken (step a) (Takes a) w requests actions ∧
      (run a w requests).system = Run.after (World.act .default) w.system actions :=
  Run.exists_taken (step_takes a) w requests

/-- What requests of the system and receipts keep, the interface keeps. -/
theorem kept_by_services {I : World → Prop}
    (hrequest : ∀ v request, I v → I (World.step .default v request))
    (hreceipt : ∀ v row, I v → I (v.act .default (.receipt row))) (hstart : I w.system)
    (requests : List ApiRequest) : I (run a w requests).system := by
  obtain ⟨actions, -, hrun⟩ := interface_refines_services a w requests
  rw [hrun]
  refine Run.invariant (fun v action hv => ?_) actions hstart
  cases action with
  | request request => exact hrequest v request hv
  | receipt row => exact hreceipt v row hv

/-- Behind the interface the logs are dense, and approvals, attempts and executions are grounded. -/
theorem run_grounded (hempty : w.system = World.empty) (requests : List ApiRequest) :
    AuditsAhead (run a w requests).system.db ∧ Grounded (run a w requests).system.db := by
  have hreceipt (s : Store) (row : ProviderWebhookEvent) :
      withReceipt s row = { s with webhookEvents := (withReceipt s row).webhookEvents } := by
    unfold withReceipt
    split <;> rfl
  constructor
  · refine kept_by_services (I := fun v => AuditsAhead v.db)
      (fun _ request h => World.step_auditsAhead request h) (fun v row h => ?_) ?_ requests
    · have hkept : KeepsAhead v.db (withReceipt v.db row) := by
        rw [hreceipt]
        exact .of_same rfl rfl rfl
      exact hkept h
    · rw [hempty]
      exact .empty
  · refine kept_by_services (I := fun v => Grounded v.db)
      (fun _ request h => World.step_grounded request h) (fun v row h => ?_) ?_ requests
    · rw [World.act, hreceipt]
      exact ⟨h.approvals, ⟨h.worked.attempts, h.worked.executions⟩⟩
    · rw [hempty]
      exact .empty

end ApiWorld

end RevenueRescue
