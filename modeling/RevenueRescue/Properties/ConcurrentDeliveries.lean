import RevenueRescue.Concurrency.Requests
import RevenueRescue.Properties.History

/-!
# Concurrent deliveries of one provider event

A delivery looks for the receipt of its event, inserts it under a savepoint, runs the case
engine and marks the receipt as processed, all in one transaction. The insert locks the key of
the event until that transaction ends, so a second delivery waits there: then it finds the key
taken and answers as a duplicate, or the first delivery was aborted and it takes the key itself.

Before its receipt a delivery has written nothing. So whichever of them commits first ran on the
rows as they were, and the others have nothing to commit.
-/

namespace RevenueRescue

open Python ReadCommitted

/-- Deliveries that run at the same time. -/
structure Deliveries (ι : Type) where
  env : ι → Env
  event : ι → CanonicalEventDTO
  payloadHash : ι → String
  signatureVerified : ι → Bool
  drawn : ι → Drawn

/-- The state of the deliveries. -/
abbrev DeliveryRun (ι : Type) : Type :=
  Config ι Tables Fault RowLock UUID EventRecordResult

namespace Deliveries

variable {ι : Type} (deliveries : Deliveries ι) (i : ι)

/-- The statements of one delivery. -/
def statements : Statements EventRecordResult :=
  Concurrent.ingestCanonicalEvent (deliveries.env i) (deliveries.event i)
    (deliveries.payloadHash i) (deliveries.signatureVerified i) (deliveries.drawn i)

/-- All of them deliver the same event of a provider. -/
def Carry (provider externalEventId : String) : Prop :=
  ∀ i, lower (deliveries.event i).provider = provider ∧
    (deliveries.event i).externalEventId = externalEventId

/-- The receipt of a delivery. -/
def receipt : ProviderWebhookEvent where
  provider := lower (deliveries.event i).provider
  externalEventId := (deliveries.event i).externalEventId
  eventType := (deliveries.event i).eventType
  payloadHash := deliveries.payloadHash i
  signatureVerified := deliveries.signatureVerified i
  processed := false
  payloadSafe := (deliveries.event i).modelDump
  ingestionStatus := "ACCEPTED"

/-- The insert of the receipt. -/
def recorded : RowWrite :=
  .insertWebhookEvent (deliveries.drawn i).webhookEventId (deliveries.receipt i)

/-- The update that marks the receipt as processed. -/
def processed : RowWrite :=
  .updateWebhookEvent (deliveries.drawn i).webhookEventId fun e => { e with processed := true }

/-- The answer of a delivery that is not a duplicate. -/
def accepted : EventRecordResult :=
  ⟨(deliveries.drawn i).webhookEventId, true, false, "accepted", false⟩

/-- The delivery is accepted: between its receipt and the mark on it the case engine ran on the
rows. -/
def Accepted (db : Tables) (result : EventRecordResult) (ws : List RowWrite) : Prop :=
  result = deliveries.accepted i ∧ ∃ outcome us,
    (Concurrent.processEvent (deliveries.env i) (deliveries.event i) (deliveries.drawn i)).run db
      [deliveries.recorded i] = .ok (outcome, us) ∧ ws = us ++ [deliveries.processed i]

/-- One delivery was accepted, and its receipt is stored and processed. The others that have
committed are answered as duplicates and have written nothing. -/
def AcceptedOnce (db : Tables) (provider externalEventId : String) (c : DeliveryRun ι) : Prop :=
  ∃ first result ws, c.session first = .committed result ws ∧
    deliveries.Accepted first db result ws ∧ c.db = view db ws ∧
    (c.db.receipt provider externalEventId).any (fun e => e.2.processed) = true ∧
    ∀ i, i ≠ first → ∀ result ws, c.session i = .committed result ws →
      result.duplicate = true ∧ ws = []

/-- The deliveries that have committed are answered as duplicates and have written nothing. -/
def OnlyDuplicates (db : Tables) (c : DeliveryRun ι) : Prop :=
  c.db = db ∧ ∀ (i : ι) (result : EventRecordResult) (ws : List RowWrite),
    c.session i = .committed result ws → result.duplicate = true ∧ ws = []

/-- The rows are as they were, and an open delivery is accepted as soon as the others hold no
locks, if it is accepted alone on those rows. -/
def StillAccepts [DecidableEq ι] (db : Tables) (c : DeliveryRun ι) : Prop :=
  c.db = db ∧ ∀ i p us, c.session i = .running p us → c.Idle i →
    ∀ result ws, (deliveries.statements i).run db [] = .ok (result, ws) →
      deliveries.Accepted i db result ws ∧
        ∃ trace d, Steps c trace d ∧ d.session i = .committed result ws

end Deliveries

/-! ## The rows of the receipts -/

/-- The write leaves the receipts alone. -/
def RowWrite.SparesReceipts (u : RowWrite) : Prop :=
  ∀ t, (u.apply t).webhookEvents = t.webhookEvents

namespace Concurrent

variable {α : Type} {env : Env} {event : CanonicalEventDTO} {drawn : Drawn}
  {P : RowWrite → Prop}

theorem select_sends {β : Type} {read : Tables → β} {k : β → Statements α}
    (h : ∀ b, (k b).Sends P) : (select read >>= k).Sends P :=
  .query fun s => h (read s)

theorem flush_sends {u : RowWrite} {k : Unit → Statements α} (hu : P u) (h : (k ()).Sends P) :
    (flush u >>= k).Sends P :=
  .update hu h .fail

theorem findExistingCase_sends (txId : UUID) : (findExistingCase event txId).Sends P := by
  refine .query fun s => ?_
  dsimp only [Program.bind]
  split
  · exact .done _
  · exact .query fun _ => .done _

theorem handleExistingCaseUpdate_sparesReceipts (caseId : UUID) (case : RecoveryCase)
    (tx : UUID × Transaction) :
    (handleExistingCaseUpdate env event caseId case tx).Sends RowWrite.SparesReceipts := by
  unfold handleExistingCaseUpdate
  split_ifs
  · exact .done _
  · refine Program.Sends.bind ?_ fun trigger => ?_
    · unfold triggerTransaction
      split_ifs
      · exact .done _
      · exact .query fun _ => .done _
    · split_ifs
      · exact .done _
      · unfold updateLoaded
        split
        · exact .fail _
        · exact select_sends fun _ => flush_sends (fun _ => rfl)
            (flush_sends (fun _ => rfl) (.done _))

theorem handlePaymentSucceeded_sparesReceipts (existingCase : Option (UUID × RecoveryCase))
    (tx : UUID × Transaction) :
    (handlePaymentSucceeded env existingCase tx).Sends RowWrite.SparesReceipts := by
  unfold handlePaymentSucceeded
  split
  · exact .done _
  · split_ifs
    · exact .done _
    · refine select_sends fun _ => select_sends fun _ => Program.Sends.bind ?_ fun _ => ?_
      · unfold markSucceeded
        split_ifs
        · exact .done _
        · exact .update (fun _ => rfl) (.done _) .fail
      · exact flush_sends (fun _ => rfl) (flush_sends (fun _ => rfl)
          (flush_sends (fun _ => rfl) (.done _)))

theorem createNewCase_sparesReceipts (customerId : UUID) (tx : UUID × Transaction) :
    (createNewCase env event drawn customerId tx).Sends RowWrite.SparesReceipts := by
  unfold createNewCase
  split
  · exact .fail _
  · refine Program.Sends.bind (.update (fun _ => rfl) (.done _) fun _ => .query fun s => ?_)
      fun inserted => ?_
    · dsimp only [Program.bind]
      split
      · exact .done _
      · exact .fail _
    · split
      · exact handleExistingCaseUpdate_sparesReceipts ..
      · exact select_sends fun _ => flush_sends (fun _ => rfl)
          (flush_sends (fun _ => rfl) (.done _))

theorem handleEvent_sparesReceipts (customerId : UUID) (tx : UUID × Transaction)
    (existingCase : Option (UUID × RecoveryCase)) :
    (handleEvent env event drawn customerId tx existingCase).Sends RowWrite.SparesReceipts := by
  unfold handleEvent
  split_ifs
  · exact handlePaymentSucceeded_sparesReceipts ..
  · split
    · exact handleExistingCaseUpdate_sparesReceipts ..
    · exact createNewCase_sparesReceipts ..

/-- The case engine writes to no receipt. -/
theorem processEvent_sparesReceipts :
    (processEvent env event drawn).Sends RowWrite.SparesReceipts := by
  unfold processEvent
  split_ifs
  · refine Program.Sends.bind ?_ fun customer => Program.Sends.bind ?_ fun tx =>
      Program.Sends.bind (findExistingCase_sends _) fun existingCase => ?_
    · exact .findOrInsert fun _ => rfl
    · exact .findOrInsert fun _ => rfl
    · exact handleEvent_sparesReceipts ..
  · exact .done _

end Concurrent

/-! ## A delivery before its receipt -/

namespace Concurrent

variable {drawn : Drawn} {row : ProviderWebhookEvent} {p q : Statements EventRecordResult}
  {s : Tables} {vs : List RowWrite} {l : Option UUID}

/-- The second look for a receipt, after its key was taken. -/
def rereading (row : ProviderWebhookEvent) (fault : Fault) : Statements EventRecordResult :=
  .query (fun _ => none) fun t =>
    match t.receipt row.provider row.externalEventId with
    | some existing => pure (WebhookEventRepository.compareReceipt existing row.payloadHash)
    | none => .fail fault

/-- The insert of a receipt under a savepoint. -/
def inserting (drawn : Drawn) (row : ProviderWebhookEvent) : Statements EventRecordResult :=
  .update (RowWrite.insertWebhookEvent drawn.webhookEventId row)
    (.done ⟨drawn.webhookEventId, true, false, "accepted", false⟩) (rereading row)

/-- The places on the way to a receipt. -/
inductive Looking (drawn : Drawn) (row : ProviderWebhookEvent) :
    Statements EventRecordResult → Prop
  | start : Looking drawn row (record drawn row)
  | inserting : Looking drawn row (inserting drawn row)
  | rereading (fault : Fault) : Looking drawn row (rereading row fault)
  | failed (fault : Fault) : Looking drawn row (.fail fault)
  | found (existing : UUID × ProviderWebhookEvent) :
    Looking drawn row (.done (WebhookEventRepository.compareReceipt existing row.payloadHash))

/-- The next statement writes nothing, or it inserts the receipt, which is not stored. -/
theorem Looking.move (h : Looking drawn row p) (hmove : Move s p [] l q vs) :
    Looking drawn row q ∧ vs = [] ∨ s.receipt row.provider row.externalEventId = none ∧
      vs = [RowWrite.insertWebhookEvent drawn.webhookEventId row] := by
  cases h with
  | start =>
    cases hmove with
    | query =>
      refine .inl ⟨?_, rfl⟩
      rw [view_nil]
      dsimp only [Program.bind]
      rcases s.receipt row.provider row.externalEventId with _ | existing
      · exact .inserting
      · exact .found existing
  | inserting =>
    cases hmove with
    | update h =>
      have hfree := RowWrite.unique_eq_none.mp h
      rw [view_nil, Option.isSome_eq_false_iff, Option.isNone_iff_eq_none] at hfree
      exact .inr ⟨hfree, rfl⟩
    | violated h => exact .inl ⟨.rereading _, rfl⟩
  | rereading fault =>
    cases hmove with
    | query =>
      refine .inl ⟨?_, rfl⟩
      rw [view_nil]
      dsimp only
      rcases s.receipt row.provider row.externalEventId with _ | existing
      · exact .failed fault
      · exact .found existing
  | failed fault => cases hmove
  | found existing => cases hmove

end Concurrent

namespace Deliveries

variable {ι : Type} {deliveries : Deliveries ι} {i : ι}

/-- What a delivery does with the answer of the receipts. -/
def answering (deliveries : Deliveries ι) (i : ι) (result : EventRecordResult) :
    Statements EventRecordResult := do
  let result ← (if result.conflict then
      .fail (.conflictingDuplicateEvent (deliveries.event i).externalEventId
        (deliveries.event i).provider)
    else pure result : Statements EventRecordResult)
  if result.duplicate then pure result
  else do
    let _ ← Concurrent.processEvent (deliveries.env i) (deliveries.event i) (deliveries.drawn i)
    Concurrent.markProcessed result.eventId
    pure result

theorem statements_invalid {fault : Fault}
    (h : EventValidator.validate (deliveries.env i) (deliveries.event i) = .error fault) :
    deliveries.statements i = .fail fault := by
  unfold statements Concurrent.ingestCanonicalEvent
  rw [h]

theorem statements_valid
    (h : EventValidator.validate (deliveries.env i) (deliveries.event i) = .ok ()) :
    deliveries.statements i =
      (Concurrent.record (deliveries.drawn i) (deliveries.receipt i) >>=
        deliveries.answering i) := by
  unfold statements Concurrent.ingestCanonicalEvent
  rw [h]
  exact Program.bind_assoc ..

/-- A stored receipt ends a delivery as a duplicate or as a conflict. -/
theorem answering_compareReceipt (deliveries : Deliveries ι) (i : ι)
    (existing : UUID × ProviderWebhookEvent) (payloadHash : String) :
    (∃ fault, deliveries.answering i
        (WebhookEventRepository.compareReceipt existing payloadHash) = .fail fault) ∨
      ∃ result, result.duplicate = true ∧ deliveries.answering i
        (WebhookEventRepository.compareReceipt existing payloadHash) = .done result := by
  unfold WebhookEventRepository.compareReceipt
  split_ifs
  · exact .inl ⟨_, rfl⟩
  · exact .inr ⟨_, rfl, rfl⟩

/-- The places of a delivery that has not inserted its receipt. -/
inductive Unrecorded (deliveries : Deliveries ι) (i : ι) : Statements EventRecordResult → Prop
  | looking {p : Statements EventRecordResult}
      (h : Concurrent.Looking (deliveries.drawn i) (deliveries.receipt i) p) :
    Unrecorded deliveries i (p >>= deliveries.answering i)
  | failed (fault : Fault) : Unrecorded deliveries i (.fail fault)

theorem Unrecorded.start : Unrecorded deliveries i (deliveries.statements i) := by
  rcases hvalid : EventValidator.validate (deliveries.env i) (deliveries.event i) with fault | ⟨⟩
  · rw [statements_invalid hvalid]
    exact .failed fault
  · rw [statements_valid hvalid]
    exact .looking .start

variable {s : Tables} {p q : Statements EventRecordResult} {vs : List RowWrite} {l : Option UUID}

/-- The next statement of such a delivery writes nothing, or it inserts the receipt, which is not
stored. -/
theorem Unrecorded.move (h : Unrecorded deliveries i p) (hmove : Move s p [] l q vs) :
    Unrecorded deliveries i q ∧ vs = [] ∨
      s.receipt (deliveries.receipt i).provider (deliveries.receipt i).externalEventId = none ∧
        vs = [deliveries.recorded i] := by
  cases h with
  | looking h =>
    rcases hmove.bind_cases with ⟨result, rfl⟩ | ⟨q', rfl, hmove'⟩
    · cases h with
      | found existing =>
        rw [Program.done_bind] at hmove
        rcases answering_compareReceipt deliveries i existing
          (deliveries.receipt i).payloadHash with ⟨fault, hanswer⟩ | ⟨result, -, hanswer⟩
        · rw [hanswer] at hmove
          cases hmove
        · rw [hanswer] at hmove
          cases hmove
    · rcases h.move hmove' with ⟨h', rfl⟩ | hinsert
      · exact .inl ⟨.looking h', rfl⟩
      · exact .inr hinsert
  | failed fault => cases hmove

/-- At its end it answers as a duplicate. -/
theorem Unrecorded.duplicate {result : EventRecordResult}
    (h : Unrecorded deliveries i (.done result)) : result.duplicate = true := by
  generalize hp : (Program.done result : Statements EventRecordResult) = p at h
  cases h with
  | looking h =>
    cases h with
    | start => cases hp
    | inserting => cases hp
    | rereading fault => cases hp
    | failed fault => cases hp
    | found existing =>
      rw [Program.done_bind] at hp
      rcases answering_compareReceipt deliveries i existing
        (deliveries.receipt i).payloadHash with ⟨fault, hanswer⟩ | ⟨result', hduplicate, hanswer⟩
      · rw [hanswer] at hp
        cases hp
      · rw [hanswer] at hp
        cases hp
        exact hduplicate
  | failed fault => cases hp

end Deliveries

/-! ## A delivery that runs alone -/

namespace Deliveries

variable {ι : Type} {deliveries : Deliveries ι} {i : ι} {db : Tables}
  {provider externalEventId : String} {result : EventRecordResult} {ws : List RowWrite}

/-- Where the receipt is not stored, it is inserted. -/
theorem record_run (hfree : db.receipt (deliveries.receipt i).provider
    (deliveries.receipt i).externalEventId = none) :
    (Concurrent.record (deliveries.drawn i) (deliveries.receipt i)).run db [] =
      .ok (deliveries.accepted i, [deliveries.recorded i]) := by
  have hunviolated : (deliveries.recorded i).violation db = none :=
    RowWrite.unique_eq_none.mpr (by rw [hfree]; rfl)
  have hinserted : (Concurrent.inserting (deliveries.drawn i) (deliveries.receipt i)).run db [] =
      .ok (deliveries.accepted i, [deliveries.recorded i]) := by
    unfold recorded at hunviolated
    simp only [Concurrent.inserting, Program.run, view_nil, hunviolated, List.nil_append]
    rfl
  rw [← hinserted]
  simp only [Concurrent.record, Concurrent.select, Program.query_bind, Program.run, view_nil, hfree]
  rfl

theorem answering_accepted : deliveries.answering i (deliveries.accepted i) = (do
    let _ ← Concurrent.processEvent (deliveries.env i) (deliveries.event i) (deliveries.drawn i)
    Concurrent.markProcessed (deliveries.drawn i).webhookEventId
    pure (deliveries.accepted i)) := by
  unfold answering accepted
  simp only [Bool.false_eq_true, if_false, Program.pure_eq, Program.done_bind]

/-- On rows without a receipt of the event, a delivery that comes to its end is accepted. -/
theorem accepted_of_run (hcarry : deliveries.Carry provider externalEventId)
    (hfree : db.receipt provider externalEventId = none)
    (hrun : (deliveries.statements i).run db [] = .ok (result, ws)) :
    deliveries.Accepted i db result ws := by
  have hreceipt : db.receipt (deliveries.receipt i).provider
      (deliveries.receipt i).externalEventId = none := by
    rw [← hfree, ← (hcarry i).1, ← (hcarry i).2]
    rfl
  rcases hvalid : EventValidator.validate (deliveries.env i) (deliveries.event i) with fault | ⟨⟩
  · rw [statements_invalid hvalid] at hrun
    cases hrun
  rw [statements_valid hvalid] at hrun
  obtain ⟨answer, us, hrecord, hanswer⟩ := Program.run_bind_eq_ok.mp hrun
  rw [record_run hreceipt] at hrecord
  cases hrecord
  rw [answering_accepted] at hanswer
  obtain ⟨outcome, us, hengine, hmark⟩ := Program.run_bind_eq_ok.mp hanswer
  cases hmark
  exact ⟨rfl, outcome, us, hengine, rfl⟩

/-- The receipt of an accepted delivery is stored and processed. -/
theorem Accepted.stored (h : deliveries.Accepted i db result ws)
    (hcarry : deliveries.Carry provider externalEventId)
    (hfree : db.receipt provider externalEventId = none) :
    (view db ws).receipt provider externalEventId =
      some ((deliveries.drawn i).webhookEventId,
        { deliveries.receipt i with processed := true }) := by
  obtain ⟨-, outcome, us, hrun, rfl⟩ := h
  obtain ⟨more, rfl, hspares⟩ := Concurrent.processEvent_sparesReceipts.run hrun
  have hevents : (view db ([deliveries.recorded i] ++ more)).webhookEvents =
      db.webhookEvents ++ [((deliveries.drawn i).webhookEventId, deliveries.receipt i)] := by
    rw [view_append, view_eq_of_forall Tables.webhookEvents hspares]
    rfl
  have hprocessed :
      (view db ([deliveries.recorded i] ++ more ++ [deliveries.processed i])).webhookEvents =
        rewriteRow (deliveries.drawn i).webhookEventId (fun e => { e with processed := true })
          (db.webhookEvents ++ [((deliveries.drawn i).webhookEventId, deliveries.receipt i)]) := by
    rw [view_snoc, ← hevents]
    rfl
  unfold Tables.receipt at hfree ⊢
  rw [hprocessed, find?_rewriteRow, List.find?_append, hfree, Option.none_or,
    List.find?_cons_of_pos]
  · simp
  · rw [← (hcarry i).1, ← (hcarry i).2]
    simp [receipt]
  · exact fun _ => rfl

end Deliveries

/-! ## All deliveries -/

namespace Deliveries

variable {ι : Type} {deliveries : Deliveries ι} {db : Tables} {provider externalEventId : String}
  {c c' : DeliveryRun ι}

/-- Where a delivery stands while none has committed: it has come here on the rows as they were,
and has written nothing or inserted its receipt. -/
def Underway (deliveries : Deliveries ι) (db : Tables) (i : ι) :
    ReadCommitted.Session Tables Fault RowLock UUID EventRecordResult → Prop
  | .running p ws => (deliveries.statements i).run db [] = p.run db ws ∧
      (deliveries.Unrecorded i p ∧ ws = [] ∨ deliveries.recorded i ∈ ws)
  | .committed _ _ => False
  | .aborted => True

/-- Where a delivery stands when the receipt of another one is stored. -/
def Preceded (deliveries : Deliveries ι) (i : ι) :
    ReadCommitted.Session Tables Fault RowLock UUID EventRecordResult → Prop
  | .running p ws => deliveries.Unrecorded i p ∧ ws = []
  | .committed result ws => result.duplicate = true ∧ ws = []
  | .aborted => True

/-- How far the deliveries have come: none has committed, one was accepted, or the event was
received before them. -/
inductive Progress (deliveries : Deliveries ι) (db : Tables) (provider externalEventId : String)
    (c : DeliveryRun ι) : Prop
  | pending (hfree : db.receipt provider externalEventId = none) (hdb : c.db = db)
      (hunderway : ∀ i, deliveries.Underway db i (c.session i))
  | one (hfree : db.receipt provider externalEventId = none) (first : ι)
      (result : EventRecordResult) (ws : List RowWrite)
      (hfirst : c.session first = .committed result ws)
      (haccepted : deliveries.Accepted first db result ws) (hdb : c.db = view db ws)
      (hpreceded : ∀ i, i ≠ first → deliveries.Preceded i (c.session i))
  | received (hstored : db.receipt provider externalEventId ≠ none) (hdb : c.db = db)
      (hpreceded : ∀ i, deliveries.Preceded i (c.session i))

theorem Progress.start :
    deliveries.Progress db provider externalEventId (.start db deliveries.statements) := by
  by_cases hfree : db.receipt provider externalEventId = none
  · exact .pending hfree rfl fun _ => ⟨rfl, .inl ⟨.start, rfl⟩⟩
  · exact .received hfree rfl fun _ => ⟨.start, rfl⟩

/-- A statement of a delivery while none has committed. -/
theorem Underway.move {i : ι} {p q : Statements EventRecordResult} {ws vs : List RowWrite}
    {l : Option UUID} (h : deliveries.Underway db i (.running p ws))
    (hmove : Move db p ws l q vs) : deliveries.Underway db i (.running q vs) := by
  obtain ⟨hrun, ⟨hunrecorded, rfl⟩ | hrecorded⟩ := h
  · refine ⟨hrun.trans hmove.run_eq, ?_⟩
    rcases hunrecorded.move hmove with hstill | ⟨-, rfl⟩
    · exact .inl hstill
    · exact .inr (List.mem_singleton_self _)
  · exact ⟨hrun.trans hmove.run_eq, .inr (hmove.grows.subset hrecorded)⟩

/-- When a delivery is accepted that has locked the event, no other one has written anything. -/
theorem Underway.preceded {i first : ι} (hcarry : deliveries.Carry provider externalEventId)
    (hexclusive : c.Exclusive) (h : deliveries.Underway db i (c.session i)) (hne : i ≠ first)
    {p : Statements EventRecordResult} {ws : List RowWrite}
    (hopen : c.session first = .running p ws) (hrecorded : deliveries.recorded first ∈ ws) :
    deliveries.Preceded i (c.session i) := by
  rcases hi : c.session i with ⟨q, us⟩ | ⟨result, us⟩ | _
  · rw [hi] at h
    obtain ⟨-, hunrecorded | hboth⟩ := h
    · exact hunrecorded
    · have hlock : (deliveries.recorded i).lock = (deliveries.recorded first).lock := by
        change RowLock.providerEvent _ _ = RowLock.providerEvent _ _
        rw [show (deliveries.receipt i).provider = provider from (hcarry i).1,
          show (deliveries.receipt i).externalEventId = externalEventId from (hcarry i).2,
          show (deliveries.receipt first).provider = provider from (hcarry first).1,
          show (deliveries.receipt first).externalEventId = externalEventId from (hcarry first).2]
      exact absurd hlock (hexclusive i first hne q us p ws hi hopen _ hboth _ hrecorded)
  · rw [hi] at h
    exact h.elim
  · trivial

/-- A statement of a delivery while the receipt is stored. -/
theorem Preceded.move {i : ι} {s : Tables} {p q : Statements EventRecordResult}
    {ws vs : List RowWrite} {l : Option UUID} (hcarry : deliveries.Carry provider externalEventId)
    (hstored : s.receipt provider externalEventId ≠ none)
    (h : deliveries.Preceded i (.running p ws)) (hmove : Move s p ws l q vs) :
    deliveries.Preceded i (.running q vs) := by
  obtain ⟨hunrecorded, rfl⟩ := h
  refine (hunrecorded.move hmove).resolve_right fun ⟨hnone, _⟩ => ?_
  rw [← (hcarry i).1, ← (hcarry i).2] at hstored
  exact hstored hnone

/-- At its end such a delivery has nothing to commit. -/
theorem Preceded.commit {i : ι} {result : EventRecordResult} {ws : List RowWrite}
    (h : deliveries.Preceded i (.running (.done result) ws)) :
    deliveries.Preceded i (.committed result ws) :=
  ⟨h.1.duplicate, h.2⟩

/-- A step of a delivery that the accepted one precedes. -/
theorem Progress.update [DecidableEq ι] {first i : ι} {result : EventRecordResult}
    {ws : List RowWrite} (hfree : db.receipt provider externalEventId = none)
    (hfirst : c.session first = .committed result ws)
    (haccepted : deliveries.Accepted first db result ws) (hdb : c.db = view db ws)
    (hpreceded : ∀ i, i ≠ first → deliveries.Preceded i (c.session i)) (hne : i ≠ first)
    {session : ReadCommitted.Session Tables Fault RowLock UUID EventRecordResult}
    (hsession : deliveries.Preceded i session) :
    deliveries.Progress db provider externalEventId
      ⟨c.db, Function.update c.session i session⟩ := by
  refine .one hfree first result ws ((Function.update_of_ne hne.symm ..).trans hfirst) haccepted
    hdb fun j hj => ?_
  dsimp only
  by_cases hji : j = i
  · subst hji
    rwa [Function.update_self]
  · rw [Function.update_of_ne hji]
    exact hpreceded j hj

/-- Every step of a delivery keeps this. -/
theorem Progress.step [DecidableEq ι] (hcarry : deliveries.Carry provider externalEventId)
    {e : ι × Event UUID} (h : deliveries.Progress db provider externalEventId c)
    (hexclusive : c.Exclusive) (hstep : Step c e c') :
    deliveries.Progress db provider externalEventId c' := by
  cases h with
  | pending hfree hdb hunderway =>
    cases hstep with
    | @move i p q ws vs l hopen _ hmove =>
      refine .pending hfree hdb ?_
      rw [Function.forall_update_iff]
      have hi := hunderway i
      rw [hopen] at hi
      rw [hdb] at hmove
      exact ⟨hi.move hmove, fun j _ => hunderway j⟩
    | @commit i result ws hopen =>
      have hi := hunderway i
      rw [hopen] at hi
      have haccepted := accepted_of_run hcarry hfree hi.1
      have hrecorded : deliveries.recorded i ∈ ws := by
        refine hi.2.resolve_left fun ⟨_, hnil⟩ => ?_
        obtain ⟨-, _, us, -, hws⟩ := haccepted
        simp [hnil] at hws
      refine .one hfree i result ws (Function.update_self ..) haccepted
        (congrArg (view · ws) hdb) fun j hne => ?_
      dsimp only
      rw [Function.update_of_ne hne]
      exact (hunderway j).preceded hcarry hexclusive hne hopen hrecorded
    | abort hopen =>
      refine .pending hfree hdb ?_
      rw [Function.forall_update_iff]
      exact ⟨trivial, fun j _ => hunderway j⟩
  | one hfree first result ws hfirst haccepted hdb hpreceded =>
    have hother : ∀ {i : ι} {p : Statements EventRecordResult} {us : List RowWrite},
        c.session i = .running p us → i ≠ first ∧ deliveries.Preceded i (.running p us) := by
      intro i p us hopen
      have hne : i ≠ first := by
        rintro rfl
        rw [hfirst] at hopen
        cases hopen
      exact ⟨hne, hopen ▸ hpreceded i hne⟩
    cases hstep with
    | move hopen _ hmove =>
      obtain ⟨hne, hpre⟩ := hother hopen
      have hstored : c.db.receipt provider externalEventId ≠ none := by
        rw [hdb, haccepted.stored hcarry hfree]
        exact Option.some_ne_none _
      exact .update hfree hfirst haccepted hdb hpreceded hne (hpre.move hcarry hstored hmove)
    | commit hopen =>
      obtain ⟨hne, hpre⟩ := hother hopen
      obtain ⟨hduplicate, rfl⟩ := hpre.commit
      exact .update hfree hfirst haccepted hdb hpreceded hne ⟨hduplicate, rfl⟩
    | abort hopen =>
      exact .update hfree hfirst haccepted hdb hpreceded (hother hopen).1 trivial
  | received hstored hdb hpreceded =>
    cases hstep with
    | @move i p q ws vs l hopen _ hmove =>
      refine .received hstored hdb ?_
      rw [Function.forall_update_iff]
      have hi := hpreceded i
      rw [hopen] at hi
      rw [← hdb] at hstored
      exact ⟨hi.move hcarry hstored hmove, fun j _ => hpreceded j⟩
    | @commit i result ws hopen =>
      have hi := hpreceded i
      rw [hopen] at hi
      obtain ⟨hduplicate, rfl⟩ := hi.commit
      refine .received hstored hdb ?_
      rw [Function.forall_update_iff]
      exact ⟨⟨hduplicate, rfl⟩, fun j _ => hpreceded j⟩
    | abort hopen =>
      refine .received hstored hdb ?_
      rw [Function.forall_update_iff]
      exact ⟨trivial, fun j _ => hpreceded j⟩

/-- However deliveries of one event are interleaved and wherever they are aborted: if any of them
commits, exactly one was accepted and ran the case engine, and the others that committed are
duplicates that have written nothing; and as long as none has committed, the rows are as they were
and a delivery is still accepted. If the event was received before, all of them are duplicates. -/
theorem delivered_exactly_once [DecidableEq ι] (deliveries : Deliveries ι)
    (hcarry : deliveries.Carry provider externalEventId) {trace : List (ι × Event UUID)}
    (h : Steps (.start db deliveries.statements) trace c) :
    (db.receipt provider externalEventId = none →
        ((∃ i result ws, c.session i = .committed result ws) →
          deliveries.AcceptedOnce db provider externalEventId c) ∧
        ((∀ i result ws, c.session i ≠ .committed result ws) → deliveries.StillAccepts db c)) ∧
      (db.receipt provider externalEventId ≠ none → OnlyDuplicates db c) := by
  have hprogress : c.Exclusive ∧ deliveries.Progress db provider externalEventId c :=
    h.invariant (P := fun c => c.Exclusive ∧ deliveries.Progress db provider externalEventId c)
      (fun _ _ _ hstep h => ⟨hstep.exclusive h.1, h.2.step hcarry h.1 hstep⟩)
      ⟨Config.start_exclusive _ _, .start⟩
  cases hprogress.2 with
  | pending hfree hdb hunderway =>
    have hnone : ∀ i result ws, c.session i ≠ .committed result ws := by
      intro i result ws hi
      have hstands := hunderway i
      rw [hi] at hstands
      exact hstands
    refine ⟨fun _ => ⟨fun ⟨i, result, ws, hi⟩ => absurd hi (hnone i result ws), fun _ => ⟨hdb, ?_⟩⟩,
      fun hstored => absurd hfree hstored⟩
    intro i p us hopen hidle result ws hrun
    refine ⟨accepted_of_run hcarry hfree hrun, ?_⟩
    have hstands := hunderway i
    rw [hopen] at hstands
    rw [hstands.1, ← hdb] at hrun
    obtain ⟨trace, -, hsteps⟩ := hidle.steps hopen hrun
    exact ⟨trace, _, hsteps, Function.update_self ..⟩
  | one hfree first result ws hfirst haccepted hdb hpreceded =>
    refine ⟨fun _ => ⟨fun _ => ⟨first, result, ws, hfirst, haccepted, hdb, ?_, ?_⟩, fun hnone =>
      absurd hfirst (hnone first result ws)⟩, fun hstored => absurd hfree hstored⟩
    · rw [hdb, haccepted.stored hcarry hfree]
      rfl
    · intro i hne result ws hi
      have hpre := hpreceded i hne
      rw [hi] at hpre
      exact hpre
  | received hstored hdb hpreceded =>
    refine ⟨fun hfree => absurd hfree hstored, fun _ => ⟨hdb, fun i result ws hi => ?_⟩⟩
    have hpre := hpreceded i
    rw [hi] at hpre
    exact hpre

end Deliveries

namespace Sample

/-- Tables without rows. -/
def emptyTables : Tables := ⟨[], [], [], [], [], []⟩

/-- Two deliveries of one failed payment. -/
def bothDeliveries : Deliveries Bool where
  env _ := env
  event _ := event "evt_1" "PAYMENT_FAILED"
  payloadHash _ := "hash"
  signatureVerified _ := true
  drawn i := if i then ⟨1, 2, 3, 4⟩ else ⟨5, 6, 7, 8⟩

end Sample

/-- One of two deliveries runs to its end while the other one waits. -/
theorem delivered_exactly_once_inTurn :
    ∃ (trace : List (Bool × Event UUID)) (c : DeliveryRun Bool),
      Steps (.start Sample.emptyTables Sample.bothDeliveries.statements) trace c ∧
        Sample.bothDeliveries.AcceptedOnce Sample.emptyTables "razorpay" "evt_1" c := by
  have hends : ((Sample.bothDeliveries.statements true).run Sample.emptyTables []).isOk = true := by
    decide +kernel
  rcases hrun : (Sample.bothDeliveries.statements true).run Sample.emptyTables [] with
    fault | ⟨result, ws⟩
  · rw [hrun] at hends
    cases hends
  have hlower : lower "razorpay" = "razorpay" := by decide
  have hidle : (Config.start Sample.emptyTables Sample.bothDeliveries.statements).Idle true := by
    intro j _ q us hj
    cases hj
    rfl
  obtain ⟨trace, -, hsteps⟩ := hidle.steps rfl hrun
  exact ⟨trace, _, hsteps, (Deliveries.delivered_exactly_once Sample.bothDeliveries
    (fun _ => ⟨hlower, rfl⟩) hsteps).1 (by decide) |>.1
      ⟨true, result, ws, rfl⟩⟩

end RevenueRescue
