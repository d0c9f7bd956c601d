import RevenueRescue.Properties.History
import RevenueRescue.Refinement.Lifecycle

/-!
# Events of one payment in any order

The events of a payment settle it in whatever order they arrive, unless a success arrives
before the first failure that can open a case. Then that failure meets a transaction that has
succeeded and no case to be stale for, and a case is opened all the same: the protection
against late failures sits in the update of a case, not where one is opened.
-/

namespace RevenueRescue

open Python EventToCaseEngine Payment

/-- Process an event in a transaction of its own. -/
def deliver (s : Store) (delivery : Env × CanonicalEventDTO) : Store :=
  (processEvent delivery.1 delivery.2).commit s

/-- No case of the payment is open. -/
def Payment.Settled (p : Payment) (s : Store) : Prop :=
  ∀ case ∈ s.recoveryCases, p.Concerns s case → case.state.isTerminal = true

/-- The event opens a case for a transaction that has succeeded already. -/
def OpensPaid (s : Store) (delivery : Env × CanonicalEventDTO) : Prop :=
  ∃ (caseId : UUID) (case : RecoveryCase) (txn : Transaction), s.recoveryCases[caseId]? = none ∧
    (deliver s delivery).recoveryCases[caseId]? = some case ∧
    s.transactions[case.triggerTransactionId]? = some txn ∧ txn.status = .SUCCEEDED

variable {p : Payment} {s : Store} {phase : Phase}

/-- The rows after a list of events are in the phase that the reports lead to. -/
theorem Payment.In.after (events : List (Env × CanonicalEventDTO))
    (hevents : ∀ delivery ∈ events, p.Reports delivery.2) (hlinked : Linked s)
    (hin : p.In s phase) :
    p.In (Run.after deliver s events) (phase.after (events.map fun d => reportOf d.2)) ∧
      Linked (Run.after deliver s events) := by
  induction events generalizing s phase with
  | nil => exact ⟨hin, hlinked⟩
  | cons delivery rest ih =>
    have hdelivered : Delivered delivery.1 delivery.2 s (deliver s delivery) := delivered _ _ _
    have hreports := hevents delivery List.mem_cons_self
    have hrest : ∀ d ∈ rest, p.Reports d.2 := fun d hd => hevents d (List.mem_cons_of_mem _ hd)
    have hlinked' : Linked (deliver s delivery) := hlinked.delivered hdelivered
    have hin' : p.In (deliver s delivery) (phase.next (reportOf delivery.2)) :=
      hin.step hreports hlinked hdelivered
    rw [List.map_cons, Phase.after, Run.after_cons, Run.after_cons]
    exact ih hrest hlinked' hin'

/-- The one case of a payment tells whether it is settled. -/
theorem Payment.In.settled_iff (hin : p.In s phase) :
    p.Settled s ↔ phase ∉ [Phase.exposed, .misopened] := by
  have hopen : ∀ {txId caseId case}, p.HasCase s txId caseId case →
      case.state.isTerminal = false → ¬p.Settled s := by
    intro txId caseId case hcase hopen hsettled
    have hterminal := hsettled case (List.mem_of_getElem? hcase.row) (.inl hcase.caseKey)
    rw [hopen] at hterminal
    cases hterminal
  cases hin with
  | untouched hfind hcases =>
    exact iff_of_true (fun case hcase h => absurd h (hcases case hcase)) (by decide)
  | paid hfind hstatus hcases =>
    exact iff_of_true (fun case hcase h => absurd h (hcases case hcase)) (by decide)
  | exposed hfind hstatus hcase hstate => exact iff_of_false (hopen hcase hstate) (by decide)
  | misopened hfind hstatus hcase hstate => exact iff_of_false (hopen hcase hstate) (by decide)
  | recovered hfind hcase hclosed =>
    refine iff_of_true (fun other hother h => ?_) (by decide)
    obtain ⟨id, hid⟩ := List.mem_iff_getElem?.mp hother
    obtain rfl := hcase.only id other hid h
    rw [hcase.row, Option.some.injEq] at hid
    rw [← hid]
    exact hclosed

/-- A case is opened for a transaction that succeeded exactly when a failure that can open one
meets a payment that is paid. -/
theorem Payment.In.opensPaid_iff (hin : p.In s phase) (hlinked : Linked s)
    {delivery : Env × CanonicalEventDTO} (h : p.Reports delivery.2) :
    OpensPaid s delivery ↔ phase = .paid ∧ reportOf delivery.2 = .opening := by
  have hdelivered : Delivered delivery.1 delivery.2 s (deliver s delivery) := delivered _ _ _
  generalize hafter : deliver s delivery = t at hdelivered
  unfold OpensPaid
  rw [hafter]
  constructor
  · rintro ⟨caseId, case, txn, habsent, hpresent, htxn, hstatus⟩
    have hgrown : t.recoveryCases.length ≠ s.recoveryCases.length := by
      intro hlength
      have hlt := (List.getElem?_eq_some_iff.mp hpresent).1
      rw [hlength] at hlt
      exact Nat.not_le_of_lt hlt (List.getElem?_eq_none_iff.mp habsent)
    cases hdelivered with
    | @opened risk htype hfailure hmatch hrisk =>
      have hopening : reportOf delivery.2 = .opening := by
        rcases riskOf_cases hfailure with ⟨hreport, -⟩ | ⟨-, fault, herror⟩
        · exact hreport
        · rw [hrisk] at herror
          cases herror
      have hmet : ∀ {txId caseId case}, ¬p.HasCase s txId caseId case := by
        intro txId caseId case hcase
        rw [h.matchedCase_some hcase] at hmatch
        cases hmatch
      cases hin with
      | untouched hfind _ =>
        have hrow : (s.recoveryCases ++ [newCase delivery.1 delivery.2 (customerOf s delivery.2)
            (transactionOf s delivery.2) risk])[caseId]? = some case := by
          simpa [EventToCaseEngine.opened] using hpresent
        rcases Table.getElem?_append_one hrow with hold | ⟨-, rfl⟩
        · rw [habsent] at hold
          cases hold
        · have hnone : s.transactions[transactionOf s delivery.2]? = none := by
            rw [h.transactionOf_eq, hfind]
            simp
          rw [newCase, hnone] at htxn
          cases htxn
      | paid _ _ _ => exact ⟨rfl, hopening⟩
      | exposed _ _ hcase _ => exact absurd hcase hmet
      | misopened _ _ hcase _ => exact absurd hcase hmet
      | recovered _ hcase _ => exact absurd hcase hmet
    | ignored _ => exact absurd rfl hgrown
    | unmatched _ _ => exact absurd (by simp) hgrown
    | settled _ _ _ => exact absurd (by simp) hgrown
    | resolved _ _ _ => exact absurd (by simp [EventToCaseEngine.resolved]) hgrown
    | updated _ _ _ _ _ _ => exact absurd (by simp [EventToCaseEngine.updated]) hgrown
    | uncounted _ _ _ => exact absurd rfl hgrown
    | unclassified _ _ _ => exact absurd rfl hgrown
    | refused _ _ _ => exact absurd rfl hgrown
  · rintro ⟨rfl, hopening⟩
    cases hin with
    | @paid txId txn hfind hstatus hcases =>
      have hmatch := h.matchedCase_none hlinked hcases
      rcases h.unmatched hlinked hmatch hdelivered with ⟨hreport, -⟩ | ⟨-, risk, rfl⟩ | ⟨hreport, -⟩
      · rw [hopening] at hreport
        cases hreport
      · have htxId : transactionOf s delivery.2 = txId := by
          rw [h.transactionOf_eq, hfind]
          rfl
        have hrow := (h.hasCase_opened delivery.1 hlinked hcases risk).row
        have htxn := (Table.find?_some hfind).1
        rw [← htxId] at htxn
        exact ⟨s.recoveryCases.length, _, txn, by simp, hrow, htxn, hstatus⟩
      · rw [hopening] at hreport
        cases hreport

/-- The events of a payment that was unknown settle it, without opening a case for it once it
succeeded, if and only if no success arrives before the first failure that can open a case. -/
theorem deliveries_settle_iff (p : Payment) {s : Store} (hlinked : Linked s)
    (hfind : p.find s = none) (hcases : ∀ case ∈ s.recoveryCases, ¬p.Concerns s case)
    (events : List (Env × CanonicalEventDTO))
    (hevents : ∀ delivery ∈ events, p.Reports delivery.2) :
    (((∃ delivery ∈ events, reportOf delivery.2 = .success) →
        p.Settled (Run.after deliver s events)) ∧
      ∀ before delivery later, events = before ++ delivery :: later →
        ¬OpensPaid (Run.after deliver s before) delivery) ↔
    ∀ before delivery later, events = before ++ delivery :: later →
      reportOf delivery.2 = .opening → (∀ earlier ∈ before, reportOf earlier.2 ≠ .opening) →
      ∀ earlier ∈ before, reportOf earlier.2 ≠ .success := by
  have hmem : ∀ (r : Report) (l : List (Env × CanonicalEventDTO)),
      r ∈ l.map (fun d => reportOf d.2) ↔ ∃ d ∈ l, reportOf d.2 = r := by
    intro r l
    exact List.mem_map
  -- the phase before each delivery of the list
  have hphase : ∀ before delivery later, events = before ++ delivery :: later →
      (OpensPaid (Run.after deliver s before) delivery ↔
        (∃ d ∈ before, reportOf d.2 = .success) ∧ (∀ d ∈ before, reportOf d.2 ≠ .opening) ∧
          reportOf delivery.2 = .opening) := by
    rintro before delivery later rfl
    have hbefore : ∀ d ∈ before, p.Reports d.2 := fun d hd => hevents d (List.mem_append_left _ hd)
    obtain ⟨hin, hstill⟩ := Payment.In.after before hbefore hlinked (.untouched hfind hcases)
    rw [hin.opensPaid_iff hstill (hevents delivery (by simp)), Phase.after_eq_paid_iff, hmem, hmem,
      and_assoc]
    simp only [not_exists, not_and, ne_eq]
  constructor
  · rintro ⟨-, hnever⟩ before delivery later hsplit hopening hfirst earlier hearlier hsuccess
    refine hnever before delivery later hsplit ((hphase before delivery later hsplit).mpr ?_)
    exact ⟨⟨earlier, hearlier, hsuccess⟩, hfirst, hopening⟩
  · intro hordered
    have hnever : ∀ before delivery later, events = before ++ delivery :: later →
        ¬OpensPaid (Run.after deliver s before) delivery := by
      intro before delivery later hsplit hopens
      obtain ⟨⟨earlier, hearlier, hsuccess⟩, hfirst, hopening⟩ :=
        (hphase before delivery later hsplit).mp hopens
      exact hordered before delivery later hsplit hopening hfirst earlier hearlier hsuccess
    refine ⟨fun hsuccess => ?_, hnever⟩
    obtain ⟨hin, -⟩ := Payment.In.after events hevents hlinked (.untouched hfind hcases)
    rw [hin.settled_iff, List.mem_pair]
    rintro (hexposed | hmisopened)
    · refine Phase.success_not_mem _ ?_ ((hmem .success events).mpr hsuccess)
      rw [hexposed]
      decide
    · -- the delivery that opened the case met a payment that was paid
      obtain ⟨reports, report, rest, hsplit, hbefore, hstep⟩ :=
        Run.exists_step (P := fun phase : Phase => phase = .misopened) _ (by decide) hmisopened
      have hpaid : ∀ (phase : Phase), phase ≠ .misopened → phase.next report = .misopened →
          phase = .paid ∧ report = .opening := by
        intro phase
        cases phase <;> cases report <;> decide
      obtain ⟨hphasePaid, rfl⟩ := hpaid _ hbefore hstep
      obtain ⟨before, tail, rfl, rfl, htail⟩ := List.map_eq_append_iff.mp hsplit
      obtain ⟨delivery, later, rfl, hopening, -⟩ := List.map_eq_cons_iff.mp htail
      obtain ⟨hsucceeded, hunopened⟩ := (Phase.after_eq_paid_iff _).mp hphasePaid
      refine hnever before delivery later rfl ((hphase before delivery later rfl).mpr ⟨?_, ?_, ?_⟩)
      · exact (hmem .success before).mp hsucceeded
      · exact fun d hd hopens => hunopened ((hmem .opening before).mpr ⟨d, hd, hopens⟩)
      · exact hopening

namespace Sample

def payment : Payment := ⟨"razorpay", "cust_1", "pay_1", by decide⟩

/-- A failure of the payment, as it is delivered. -/
def failed : Env × CanonicalEventDTO := (env, event "evt_1" "PAYMENT_FAILED")

def succeeded : Env × CanonicalEventDTO := (env, event "evt_2" "PAYMENT_SUCCEEDED")

theorem failed_reports : payment.Reports failed.2 :=
  ⟨rfl, rfl, rfl, rfl, rfl, rfl, .inl (by decide +kernel)⟩

theorem succeeded_reports : payment.Reports succeeded.2 :=
  ⟨rfl, rfl, rfl, rfl, rfl, rfl, .inr (by decide +kernel)⟩

end Sample

/-- In the order in which they happened a failure and a success settle the payment. -/
theorem deliveries_settle_in_order :
    Sample.payment.Settled (Run.after deliver Store.empty [Sample.failed, Sample.succeeded]) := by
  have hreports : ∀ delivery ∈ [Sample.failed, Sample.succeeded],
      Sample.payment.Reports delivery.2 := by
    simp [Sample.failed_reports, Sample.succeeded_reports]
  have hopening : reportOf Sample.failed.2 = .opening := by decide +kernel
  refine ((deliveries_settle_iff Sample.payment .empty rfl (fun _ h => by cases h) _ hreports).mpr
    ?_).1 ⟨Sample.succeeded, by simp, by decide +kernel⟩
  rintro (_ | ⟨first, before⟩) delivery later hsplit _ hfirst earlier hearlier
  · cases hearlier
  · rw [List.cons_append, List.cons.injEq] at hsplit
    rw [← hsplit.1] at hfirst
    exact absurd hopening (hfirst _ List.mem_cons_self)

/-- In the other order the validated events leave a case open on a transaction that succeeded. -/
theorem late_failure_opens_case :
    let deliveries := [Sample.succeeded, Sample.failed]
    let s := Run.after deliver Store.empty deliveries
    (∀ delivery ∈ deliveries, EventValidator.validate delivery.1 delivery.2 = .ok ()) ∧
      (∃ delivery ∈ deliveries, reportOf delivery.2 = .success) ∧ ¬Sample.payment.Settled s ∧
      OpensPaid (Run.after deliver Store.empty [Sample.succeeded]) Sample.failed := by
  have hsuccess : reportOf Sample.succeeded.2 = .success := by decide +kernel
  have hopening : reportOf Sample.failed.2 = .opening := by decide +kernel
  have huntouched : Sample.payment.In Store.empty .untouched := .untouched rfl fun _ h => by cases h
  obtain ⟨hpaid, hlinked⟩ := huntouched.after [Sample.succeeded]
    (by simp [Sample.succeeded_reports]) .empty
  obtain ⟨hmisopened, -⟩ := huntouched.after [Sample.succeeded, Sample.failed]
    (by simp [Sample.succeeded_reports, Sample.failed_reports]) .empty
  refine ⟨?_, ⟨Sample.succeeded, by simp, hsuccess⟩, ?_, ?_⟩
  · decide +kernel
  · rw [hmisopened.settled_iff, List.map_cons, List.map_cons, hsuccess, hopening]
    decide
  · rw [hpaid.opensPaid_iff hlinked Sample.failed_reports, List.map_cons, hsuccess]
    exact ⟨by decide, hopening⟩

end RevenueRescue
