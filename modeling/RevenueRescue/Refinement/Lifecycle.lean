import RevenueRescue.Base.Run
import RevenueRescue.Refinement.Effects

/-!
# The life of one payment

The events of one payment only move it through five phases, according to whether an event is
a success, a failure that can open a case, or a failure that is rolled back. The rows of the
database simulate this small machine.
-/

namespace RevenueRescue

open Python

/-- What the events of a payment have led to. -/
inductive Phase where
  /-- Nothing is stored about the payment. -/
  | untouched
  /-- It succeeded and no case was opened. -/
  | paid
  /-- It failed and its case is open. -/
  | exposed
  /-- It succeeded and then a case was opened for it. -/
  | misopened
  /-- Its case is closed. -/
  | recovered
  deriving DecidableEq, Repr

/-- What an event of the payment reports. -/
inductive Report where
  | success
  /-- A failure that can open a case. -/
  | opening
  /-- A failure whose customer tier is not text. -/
  | unreadable
  deriving DecidableEq, Repr

/-- The phase after a report. -/
def Phase.next : Phase → Report → Phase
  | .untouched, .success => .paid
  | .untouched, .opening => .exposed
  | .paid, .opening => .misopened
  | .exposed, .success | .misopened, .success => .recovered
  | phase, _ => phase

/-- The phase after a list of reports. -/
abbrev Phase.after : Phase → List Report → Phase := Run.after Phase.next

/-- As long as nothing opened a case the payment is paid or untouched. -/
theorem Phase.after_unopened (reports : List Report) (h : .opening ∉ reports) :
    Phase.untouched.after reports = if .success ∈ reports then .paid else .untouched := by
  have hpaid : ∀ rest : List Report, .opening ∉ rest → Phase.paid.after rest = .paid := by
    intro rest
    induction rest with
    | nil => exact fun _ => rfl
    | cons report rest ih =>
      intro hrest
      have hnext : Phase.paid.next report = .paid := by
        cases report with
        | opening => exact absurd List.mem_cons_self hrest
        | _ => rfl
      rw [Phase.after, Run.after_cons, hnext]
      exact ih fun hmem => hrest (List.mem_cons_of_mem _ hmem)
  induction reports with
  | nil => rfl
  | cons report rest ih =>
    have hrest : .opening ∉ rest := fun hmem => h (List.mem_cons_of_mem _ hmem)
    rw [Phase.after, Run.after_cons]
    cases report with
    | success =>
      rw [if_pos List.mem_cons_self]
      exact hpaid rest hrest
    | opening => exact absurd List.mem_cons_self h
    | unreadable =>
      have hmem : Report.success ∈ Report.unreadable :: rest ↔ Report.success ∈ rest := by simp
      simp only [hmem]
      exact ih hrest

/-- A payment that is paid has seen a success and nothing that opens a case. -/
theorem Phase.after_eq_paid_iff (reports : List Report) :
    Phase.untouched.after reports = .paid ↔ .success ∈ reports ∧ .opening ∉ reports := by
  constructor
  · intro h
    have hunopened : .opening ∉ reports := by
      intro hmem
      obtain ⟨before, later, rfl⟩ := List.append_of_mem hmem
      have hstays : ∀ (rest : List Report) (phase : Phase),
          phase ∈ [Phase.exposed, .misopened, .recovered] →
          phase.after rest ∈ [Phase.exposed, .misopened, .recovered] := by
        intro rest phase hphase
        refine Run.invariant (I := fun p : Phase => p ∈ [Phase.exposed, .misopened, .recovered])
          (fun p report hp => ?_) rest hphase
        revert hp
        cases p <;> cases report <;> decide
      have hopened : (Phase.untouched.after before).next .opening ∈
          [Phase.exposed, .misopened, .recovered] := by
        cases Phase.untouched.after before <;> decide
      rw [Phase.after, Run.after_append, Run.after_cons] at h
      have hlast := hstays later _ hopened
      rw [Phase.after, h] at hlast
      exact absurd hlast (by decide)
    refine ⟨?_, hunopened⟩
    rw [Phase.after_unopened reports hunopened] at h
    by_contra hnone
    rw [if_neg hnone] at h
    cases h
  · rintro ⟨hsuccess, hunopened⟩
    rw [Phase.after_unopened reports hunopened, if_pos hsuccess]

/-- A payment without a closed case that is not paid has seen no success. -/
theorem Phase.success_not_mem (reports : List Report)
    (h : Phase.untouched.after reports ∈ [Phase.untouched, .exposed]) : .success ∉ reports := by
  induction reports using List.reverseRecOn with
  | nil => exact List.not_mem_nil
  | append_singleton reports report ih =>
    have hback : ∀ (phase : Phase) (report : Report),
        phase.next report ∈ [Phase.untouched, .exposed] →
        phase ∈ [Phase.untouched, .exposed] ∧ Report.success ≠ report := by
      intro phase report
      cases phase <;> cases report <;> decide
    rw [Phase.after, Run.after_snoc] at h
    obtain ⟨hphase, hreport⟩ := hback _ _ h
    rw [List.mem_append, List.mem_singleton]
    exact fun hmem => hmem.elim (ih hphase) hreport

/-! ## The rows of a payment -/

/-- A payment, as the provider names it. -/
structure Payment where
  provider : String
  customerReference : String
  reference : String
  named : reference ≠ ""

namespace Payment

open EventToCaseEngine

variable {p : Payment} {s t : Store} {event : CanonicalEventDTO}

/-- The key of its case. -/
def caseKey (p : Payment) : String := "CASE-TX-" ++ p.provider ++ "-" ++ p.reference

/-- A failure or a success of the payment, without any other reference. -/
structure Reports (p : Payment) (event : CanonicalEventDTO) : Prop where
  provider : event.provider = p.provider
  customerReference : event.customerReference = p.customerReference
  paymentReference : event.paymentReference = some p.reference
  subscriptionReference : event.subscriptionReference = none
  invoiceReference : event.invoiceReference = none
  checkoutSessionId : event.checkoutSessionId = none
  type : cleanType event = CanonicalEventType.PAYMENT_FAILED.value ∨
    cleanType event = CanonicalEventType.PAYMENT_SUCCEEDED.value

/-- What an event of the payment reports; a tier is readable when it is falsy or text. -/
def reportOf (event : CanonicalEventDTO) : Report :=
  if cleanType event ∈ CASE_RESOLUTION_EVENTS then .success
  else if (Dict.get event.metadata "customer_tier").truthy then
    match Dict.get event.metadata "customer_tier" with
    | .str _ => .opening
    | _ => .unreadable
  else .opening

/-- The case is for the payment: by its key or by its trigger transaction. -/
def Concerns (p : Payment) (s : Store) (case : RecoveryCase) : Prop :=
  case.caseKey = p.caseKey ∨ ∃ txn, s.transactions[case.triggerTransactionId]? = some txn ∧
    txn.provider = p.provider ∧ txn.externalTransactionId = p.reference

/-- The stored transaction of the payment. -/
def find (p : Payment) (s : Store) : Option (UUID × Transaction) :=
  s.transactionByExternalId p.provider p.reference

/-- The rows refer to rows that exist. -/
structure Linked (s : Store) : Prop where
  triggers : ∀ case ∈ s.recoveryCases, case.triggerTransactionId < s.transactions.length
  transitions : ∀ row ∈ s.transitions, row.caseId < s.recoveryCases.length

/-- The one case of the payment. -/
structure HasCase (p : Payment) (s : Store) (txId caseId : UUID) (case : RecoveryCase) : Prop where
  row : s.recoveryCases[caseId]? = some case
  caseKey : case.caseKey = p.caseKey
  trigger : case.triggerTransactionId = txId
  only : ∀ (id : UUID) (other : RecoveryCase), s.recoveryCases[id]? = some other →
    p.Concerns s other → id = caseId

/-- What a phase says about the rows. -/
inductive In (p : Payment) (s : Store) : Phase → Prop
  | untouched (hfind : p.find s = none) (hcases : ∀ case ∈ s.recoveryCases, ¬p.Concerns s case) :
    In p s .untouched
  | paid {txId : UUID} {txn : Transaction} (hfind : p.find s = some (txId, txn))
      (hstatus : txn.status = .SUCCEEDED) (hcases : ∀ case ∈ s.recoveryCases, ¬p.Concerns s case) :
    In p s .paid
  | exposed {txId caseId : UUID} {txn : Transaction} {case : RecoveryCase}
      (hfind : p.find s = some (txId, txn)) (hstatus : txn.status ≠ .SUCCEEDED)
      (hcase : p.HasCase s txId caseId case) (hopen : case.state.isTerminal = false) :
    In p s .exposed
  | misopened {txId caseId : UUID} {txn : Transaction} {case : RecoveryCase}
      (hfind : p.find s = some (txId, txn)) (hstatus : txn.status = .SUCCEEDED)
      (hcase : p.HasCase s txId caseId case) (hopen : case.state.isTerminal = false) :
    In p s .misopened
  | recovered {txId caseId : UUID} {txn : Transaction} {case : RecoveryCase}
      (hfind : p.find s = some (txId, txn)) (hcase : p.HasCase s txId caseId case)
      (hclosed : case.state.isTerminal = true) :
    In p s .recovered

/-! ## What an event of the payment meets -/

theorem Reports.caseKey_eq (h : p.Reports event) : deriveCaseKey event = p.caseKey := by
  have hnamed := p.named
  unfold deriveCaseKey
  rw [h.subscriptionReference, h.invoiceReference, h.checkoutSessionId, h.paymentReference,
    h.provider]
  simp [truthy, Payment.caseKey, hnamed]

theorem Reports.transactionReference_eq (h : p.Reports event) :
    transactionReference event = p.reference := by
  have hnamed := p.named
  unfold transactionReference
  rw [h.paymentReference]
  simp [firstTruthy, hnamed]

theorem Reports.find_eq (h : p.Reports event) (s : Store) :
    s.transactionByExternalId event.provider (transactionReference event) = p.find s := by
  rw [h.provider, h.transactionReference_eq]
  rfl

theorem Reports.transactionOf_eq (h : p.Reports event) (s : Store) :
    transactionOf s event = ((p.find s).map Prod.fst).getD s.transactions.length := by
  unfold transactionOf
  rw [h.find_eq]

/-- The transactions an event of the payment is processed on. -/
theorem Reports.provisioned_transactions (h : p.Reports event) (s : Store) :
    (provisioned s event).transactions = if (p.find s).isSome then s.transactions
      else s.transactions ++ [newTransaction event (customerOf s event)] := by
  unfold provisioned withTransaction
  rw [h.find_eq]
  have hfind : p.find (withCustomer s event) = p.find s := by
    unfold find Store.transactionByExternalId
    rw [withCustomer_transactions]
  rw [hfind]
  split
  · exact withCustomer_transactions s event
  · dsimp only
    rw [withCustomer_transactions]

/-- An event of the payment without a case meets none. -/
theorem Reports.matchedCase_none (h : p.Reports event)
    (hlinked : Linked s) (hcases : ∀ case ∈ s.recoveryCases, ¬p.Concerns s case) :
    matchedCase s event = none := by
  unfold matchedCase findExistingCase
  have hkey : s.caseByKey (deriveCaseKey event) = none := by
    refine Table.find?_none.mpr fun case hcase => ?_
    rw [h.caseKey_eq]
    exact beq_eq_false_iff_ne.mpr fun heq => hcases case hcase (.inl heq)
  rw [hkey]
  refine Table.find?_none.mpr fun case hcase => beq_eq_false_iff_ne.mpr fun htrigger => ?_
  rw [h.transactionOf_eq] at htrigger
  rcases hfind : p.find s with _ | ⟨txId, txn⟩
  · rw [hfind] at htrigger
    exact Nat.ne_of_lt (hlinked.triggers case hcase) htrigger
  · rw [hfind] at htrigger
    obtain ⟨hrow, hmatch⟩ := Table.find?_some hfind
    simp only [Bool.and_eq_true, beq_iff_eq] at hmatch
    have htxId : case.triggerTransactionId = txId := htrigger
    rw [← htxId] at hrow
    exact hcases case hcase (.inr ⟨txn, hrow, hmatch.1, hmatch.2⟩)

/-- An event of the payment meets its case. -/
theorem Reports.matchedCase_some (h : p.Reports event) {txId caseId : UUID} {case : RecoveryCase}
    (hcase : p.HasCase s txId caseId case) : matchedCase s event = some (caseId, case) := by
  unfold matchedCase findExistingCase
  have hkey : s.caseByKey (deriveCaseKey event) = some (caseId, case) := by
    refine Table.find?_eq_some_iff.mpr ⟨hcase.row, ?_, fun id other hlt hother hsame => ?_⟩
    · rw [h.caseKey_eq]
      exact beq_iff_eq.mpr hcase.caseKey
    · rw [h.caseKey_eq] at hsame
      exact Nat.ne_of_lt hlt (hcase.only id other hother (.inl (beq_iff_eq.mp hsame)))
  rw [hkey]

theorem Reports.mem_creation (h : p.Reports event)
    (hfailure : cleanType event ∉ CASE_RESOLUTION_EVENTS) :
    cleanType event ∈ CASE_CREATION_ELIGIBLE_EVENTS := by
  rcases h.type with hfailed | hsucceeded
  · rw [hfailed]
    exact List.mem_cons_self
  · rw [hsucceeded] at hfailure
    exact absurd List.mem_cons_self hfailure

theorem Reports.eligible (h : p.Reports event) :
    cleanType event ∈ CASE_CREATION_ELIGIBLE_EVENTS ++ CASE_RESOLUTION_EVENTS := by
  rw [List.mem_append]
  by_cases hsuccess : cleanType event ∈ CASE_RESOLUTION_EVENTS
  · exact .inr hsuccess
  · exact .inl (h.mem_creation hsuccess)

theorem reportOf_eq_success_iff : reportOf event = .success ↔
    cleanType event ∈ CASE_RESOLUTION_EVENTS := by
  unfold reportOf
  by_cases h : cleanType event ∈ CASE_RESOLUTION_EVENTS
  · simp [h]
  · simp only [h, if_false, iff_false]
    split
    · split <;> simp
    · simp

/-- A failure can open a case when its risk can be classified. -/
theorem riskOf_cases (hfailure : cleanType event ∉ CASE_RESOLUTION_EVENTS) :
    (reportOf event = .opening ∧ ∃ risk, riskOf event = .ok risk) ∨
      reportOf event = .unreadable ∧ ∃ fault, riskOf event = .error fault := by
  unfold reportOf riskOf CaseRiskClassifier.classifyRisk CaseRiskClassifier.tier
  rw [if_neg hfailure]
  by_cases htruthy : (Dict.get event.metadata "customer_tier").truthy = true
  · rw [if_pos htruthy, if_pos htruthy]
    cases Dict.get event.metadata "customer_tier" with
    | str text =>
      refine .inl ⟨rfl, ?_⟩
      dsimp only
      split <;> exact ⟨_, rfl⟩
    | _ => exact .inr ⟨rfl, _, rfl⟩
  · rw [if_neg htruthy, if_neg htruthy]
    exact .inl ⟨rfl, _, rfl⟩

/-! ## Rows that refer to rows -/

theorem Linked.empty : Linked Store.empty :=
  ⟨by simp [Store.empty], by simp [Store.empty]⟩

/-- Where no case is lost, new rows refer to old ones and new transitions to cases, the rows
stay linked. -/
theorem Linked.extend (h : Linked s)
    (htransactions : s.transactions.length ≤ t.transactions.length)
    (hcases : s.recoveryCases.length ≤ t.recoveryCases.length)
    (htriggers : ∀ case ∈ t.recoveryCases,
      (∃ old ∈ s.recoveryCases, case.triggerTransactionId = old.triggerTransactionId) ∨
        case.triggerTransactionId < t.transactions.length)
    (htransitions : ∀ row ∈ t.transitions, row ∈ s.transitions ∨
      row.caseId < t.recoveryCases.length) : Linked t := by
  refine ⟨fun case hcase => ?_, fun row hrow => ?_⟩
  · rcases htriggers case hcase with ⟨old, hold, hsame⟩ | hlt
    · rw [hsame]
      exact Nat.lt_of_lt_of_le (h.triggers old hold) htransactions
    · exact hlt
  · rcases htransitions row hrow with hold | hlt
    · exact Nat.lt_of_lt_of_le (h.transitions row hold) hcases
    · exact hlt

theorem provisioned_transactions_le (s : Store) (event : CanonicalEventDTO) :
    s.transactions.length ≤ (provisioned s event).transactions.length := by
  unfold provisioned withTransaction withCustomer
  split <;> split <;> simp

theorem Linked.provisioned (h : Linked s) : Linked (provisioned s event) := by
  refine h.extend (provisioned_transactions_le s event) (by simp) (fun case hcase => ?_)
    fun row hrow => ?_
  · rw [provisioned_recoveryCases] at hcase
    exact .inl ⟨case, hcase, rfl⟩
  · rw [provisioned_transitions] at hrow
    exact .inl hrow

/-- Every event keeps the rows linked. -/
theorem Linked.delivered {env : Env} (h : Linked s) (hdelivered : Delivered env event s t) :
    Linked t := by
  have hprovisioned : Linked (EventToCaseEngine.provisioned s event) := h.provisioned
  have hsame : ∀ (caseId : UUID) (f : RecoveryCase → RecoveryCase),
      (∀ c, (f c).triggerTransactionId = c.triggerTransactionId) →
      ∀ case ∈ (EventToCaseEngine.provisioned s event).recoveryCases.modify caseId f,
        ∃ old ∈ (EventToCaseEngine.provisioned s event).recoveryCases,
          case.triggerTransactionId = old.triggerTransactionId := by
    intro caseId f hf
    refine Table.forall_modify (fun c hc => ⟨c, hc, rfl⟩) fun c hc _ => ?_
    exact ⟨c, List.mem_of_getElem? hc, hf c⟩
  cases hdelivered with
  | ignored _ => exact h
  | unmatched _ _ => exact hprovisioned
  | settled _ _ _ => exact hprovisioned
  | @resolved caseId case _ hmatch _ =>
    refine hprovisioned.extend (by simp [EventToCaseEngine.resolved])
      (by simp [EventToCaseEngine.resolved])
      (fun c hc => .inl (hsame caseId (resolveCase env) (fun _ => rfl) c hc)) ?_
    refine Table.forall_append_one (fun row hrow => .inl hrow) (.inr ?_)
    have hrow := getElem?_of_findExistingCase hmatch
    have hlt : caseId < s.recoveryCases.length := (List.getElem?_eq_some_iff.mp hrow).1
    simpa [EventToCaseEngine.resolved] using hlt
  | @updated caseId case count _ _ _ _ _ _ =>
    refine hprovisioned.extend (by simp [EventToCaseEngine.updated])
      (by simp [EventToCaseEngine.updated])
      (fun c hc => .inl (hsame caseId (updateCase env event count) (fun _ => rfl) c hc))
      fun row hrow => .inl hrow
  | uncounted _ _ _ => exact h
  | opened _ _ _ _ =>
    refine hprovisioned.extend (by simp [EventToCaseEngine.opened])
      (by simp [EventToCaseEngine.opened]) ?_ ?_
    · exact Table.forall_append_one (fun c hc => .inl ⟨c, hc, rfl⟩) (.inr (transactionOf_lt s event))
    · exact Table.forall_append_one (fun row hrow => .inl hrow)
        (.inr (by simp [EventToCaseEngine.opened]))
  | unclassified _ _ _ => exact h
  | refused _ _ _ => exact h

/-! ## The simulation -/

variable {env : Env} {txId caseId : UUID} {txn : Transaction} {case : RecoveryCase}

/-- A case that concerns the payment concerned it before the transactions grew. -/
theorem Concerns.of_append (new : Transaction) (hlinked : Linked s) (hcase : case ∈ s.recoveryCases)
    (htransactions : t.transactions = s.transactions ∨ t.transactions = s.transactions ++ [new])
    (h : p.Concerns t case) : p.Concerns s case := by
  refine h.imp_right fun ⟨txn, hrow, hmatch⟩ => ⟨txn, ?_, hmatch⟩
  rcases htransactions with hsame | hmore
  · rw [hsame] at hrow
    exact hrow
  · rw [hmore, List.getElem?_append_left (hlinked.triggers case hcase)] at hrow
    exact hrow

/-- What an event of a payment without a case does. -/
theorem Reports.unmatched (h : p.Reports event) (hlinked : Linked s)
    (hmatch : matchedCase s event = none) (hdelivered : Delivered env event s t) :
    (reportOf event = .success ∧ t = provisioned s event) ∨
      (reportOf event = .opening ∧ ∃ risk, t = opened env event (provisioned s event)
        (customerOf s event) (transactionOf s event) risk) ∨
      reportOf event = .unreadable ∧ t = s := by
  cases hdelivered with
  | ignored htype => exact absurd h.eligible htype
  | unmatched htype _ => exact .inl ⟨reportOf_eq_success_iff.mpr htype, rfl⟩
  | settled _ hsome _ => rw [hmatch] at hsome; cases hsome
  | resolved _ hsome _ => rw [hmatch] at hsome; cases hsome
  | updated _ _ hsome _ _ _ => rw [hmatch] at hsome; cases hsome
  | uncounted _ hsome _ => rw [hmatch] at hsome; cases hsome
  | @opened risk _ hfailure _ hrisk =>
    rcases riskOf_cases hfailure with ⟨hopening, -⟩ | ⟨-, fault, hfault⟩
    · exact .inr (.inl ⟨hopening, risk, rfl⟩)
    · rw [hrisk] at hfault
      cases hfault
  | @unclassified fault hfailure _ hrisk =>
    rcases riskOf_cases hfailure with ⟨-, risk, hok⟩ | ⟨hunreadable, -⟩
    · rw [hrisk] at hok
      cases hok
    · exact .inr (.inr ⟨hunreadable, rfl⟩)
  | refused _ _ htaken =>
    rw [List.contains_eq_mem, decide_eq_true_eq] at htaken
    obtain ⟨row, hrow, -⟩ := List.mem_map.mp htaken
    obtain ⟨hmem, hcaseId⟩ := List.mem_filter.mp hrow
    have hlt := hlinked.transitions row hmem
    rw [beq_iff_eq.mp hcaseId] at hlt
    exact absurd hlt (Nat.lt_irrefl _)

/-- The same case is the one of the payment while no row is added. -/
theorem HasCase.evolve (hevolved : Evolved s t)
    (htransactions : t.transactions.length = s.transactions.length)
    (hcases : t.recoveryCases.length = s.recoveryCases.length) {later : RecoveryCase}
    (hlater : t.recoveryCases[caseId]? = some later) (h : p.HasCase s txId caseId case) :
    p.HasCase t txId caseId later := by
  have hback : ∀ id other, t.recoveryCases[id]? = some other → p.Concerns t other → id = caseId := by
    intro id other hother hconcerns
    obtain ⟨old, hold, hkept⟩ := hevolved.recoveryCases.row_before hcases hother
    refine h.only id old hold ?_
    rcases hconcerns with hkey | ⟨txn, hrow, hprovider, hreference⟩
    · exact .inl (hkept.caseKey.symm.trans hkey)
    · rw [hkept.triggerTransactionId] at hrow
      obtain ⟨before, hbefore, hstep⟩ := hevolved.transactions.row_before htransactions hrow
      refine .inr ⟨before, hbefore, ?_, ?_⟩
      · exact hstep.provider.symm.trans hprovider
      · exact hstep.externalTransactionId.symm.trans hreference
  obtain ⟨after, hafter, hkept⟩ := hevolved.recoveryCases.getElem? h.row
  obtain rfl : after = later := Option.some.inj (hafter.symm.trans hlater)
  exact ⟨hlater, hkept.caseKey.trans h.caseKey, hkept.triggerTransactionId.trans h.trigger, hback⟩

/-- What an event of a payment with a case does: a success closes the case, and a failure
changes neither the status of the transaction nor the state of the case. -/
theorem Reports.matched (h : p.Reports event) (hfind : p.find s = some (txId, txn))
    (hcase : p.HasCase s txId caseId case) (hdelivered : Delivered env event s t) :
    ∃ later laterCase, p.find t = some (txId, later) ∧ p.HasCase t txId caseId laterCase ∧
      ((reportOf event = .success ∧ laterCase.state.isTerminal = true) ∨
        reportOf event ≠ .success ∧ later.status = txn.status ∧ laterCase.state = case.state) := by
  have hmatch : matchedCase s event = some (caseId, case) := h.matchedCase_some hcase
  have hprovisioned : (provisioned s event).transactions = s.transactions := by
    rw [h.provisioned_transactions, hfind]
    rfl
  have hfailure : cleanType event ∉ CASE_RESOLUTION_EVENTS → reportOf event ≠ .success :=
    fun hnot hsuccess => hnot (reportOf_eq_success_iff.mp hsuccess)
  have hevolved : Evolved s t := hdelivered.evolved
  have hsame : ∀ u : Store, u.transactions = s.transactions → p.find u = some (txId, txn) := by
    intro u hu
    unfold find Store.transactionByExternalId at hfind ⊢
    rw [hu]
    exact hfind
  have hmeets : ∀ id c, matchedCase s event = some (id, c) → id = caseId ∧ c = case := by
    intro id c hfound
    rw [hmatch, Option.some.injEq, Prod.mk.injEq] at hfound
    exact ⟨hfound.1.symm, hfound.2.symm⟩
  cases hdelivered with
  | ignored htype => exact absurd h.eligible htype
  | unmatched _ hnone => rw [hmatch] at hnone; cases hnone
  | @settled id c htype hsome hsettled =>
    obtain ⟨rfl, rfl⟩ := hmeets id c hsome
    have hkept : p.HasCase (provisioned s event) txId id c :=
      hcase.evolve hevolved (by rw [hprovisioned]) (by simp) (by simpa using hcase.row)
    refine ⟨txn, c, hsame _ hprovisioned, hkept, ?_⟩
    rcases hsettled with hterminal | ⟨hnot, -⟩
    · by_cases hsuccess : reportOf event = .success
      · exact .inl ⟨hsuccess, hterminal⟩
      · exact .inr ⟨hsuccess, rfl, rfl⟩
    · exact .inr ⟨hfailure hnot, rfl, rfl⟩
  | @resolved id c htype hsome hopen =>
    obtain ⟨rfl, rfl⟩ := hmeets id c hsome
    have hlength : (EventToCaseEngine.resolved env (provisioned s event) id c
        (transactionOf s event)).transactions.length = s.transactions.length := by
      simp [EventToCaseEngine.resolved, hprovisioned]
    obtain ⟨later, hlater, -⟩ := hevolved.transactions.find?
      (fun a b hab => by rw [hab.provider, hab.externalTransactionId]) hfind
    refine ⟨later, resolveCase env c, hlater, ?_, .inl ⟨reportOf_eq_success_iff.mpr htype, rfl⟩⟩
    exact hcase.evolve hevolved hlength (by simp [EventToCaseEngine.resolved])
      (by simp [EventToCaseEngine.resolved, hcase.row])
  | @updated id c count _ hnot hsome _ _ _ =>
    obtain ⟨rfl, rfl⟩ := hmeets id c hsome
    refine ⟨txn, updateCase env event count c, hsame _ hprovisioned, ?_,
      .inr ⟨hfailure hnot, rfl, rfl⟩⟩
    exact hcase.evolve hevolved (by simp [EventToCaseEngine.updated, hprovisioned])
      (by simp [EventToCaseEngine.updated]) (by simp [EventToCaseEngine.updated, hcase.row])
  | uncounted hnot _ _ => exact ⟨txn, case, hfind, hcase, .inr ⟨hfailure hnot, rfl, rfl⟩⟩
  | opened _ _ hnone _ => rw [hmatch] at hnone; cases hnone
  | unclassified _ hnone _ => rw [hmatch] at hnone; cases hnone
  | refused _ hnone _ => rw [hmatch] at hnone; cases hnone

/-- The transactions are the ones before, or those and the one of the event. -/
theorem Reports.provisioned_cases (h : p.Reports event) (s : Store) :
    ((p.find s).isSome = true ∧ (provisioned s event).transactions = s.transactions) ∨
      (p.find s = none ∧ (provisioned s event).transactions =
        s.transactions ++ [newTransaction event (customerOf s event)]) := by
  rw [h.provisioned_transactions]
  rcases hfind : p.find s with _ | found
  · exact .inr ⟨rfl, rfl⟩
  · exact .inl ⟨rfl, rfl⟩

/-- Provisioning opens no case. -/
theorem Reports.not_concerns (h : p.Reports event) (hlinked : Linked s)
    (hcases : ∀ case ∈ s.recoveryCases, ¬p.Concerns s case) :
    ∀ case ∈ s.recoveryCases, ¬p.Concerns (provisioned s event) case := by
  intro case hcase hconcerns
  refine hcases case hcase (hconcerns.of_append (newTransaction event (customerOf s event))
    hlinked hcase ?_)
  exact (h.provisioned_cases s).imp And.right And.right

/-- The case that a failure opens is the one of the payment. -/
theorem Reports.hasCase_opened (env : Env) (h : p.Reports event) (hlinked : Linked s)
    (hcases : ∀ case ∈ s.recoveryCases, ¬p.Concerns s case) (risk : RiskClassificationResult) :
    p.HasCase
      (opened env event (provisioned s event) (customerOf s event) (transactionOf s event) risk)
      (transactionOf s event) s.recoveryCases.length
      (newCase env event (customerOf s event) (transactionOf s event) risk) := by
  refine ⟨?_, h.caseKey_eq, rfl, fun id other hother hconcerns => ?_⟩
  · simp [EventToCaseEngine.opened]
  · have hrow : (s.recoveryCases ++ [newCase env event (customerOf s event) (transactionOf s event)
        risk])[id]? = some other := by
      simpa [EventToCaseEngine.opened] using hother
    rcases Table.getElem?_append_one hrow with hold | ⟨hlast, -⟩
    · exact absurd hconcerns (h.not_concerns hlinked hcases other (List.mem_of_getElem? hold))
    · exact hlast

theorem newTransaction_status (event : CanonicalEventDTO) (customerId : UUID) :
    (newTransaction event customerId).status =
      if reportOf event = .success then .SUCCEEDED else .FAILED := by
  unfold newTransaction
  dsimp only
  by_cases hsuccess : cleanType event ∈ CASE_RESOLUTION_EVENTS
  · rw [if_pos hsuccess, if_pos (reportOf_eq_success_iff.mpr hsuccess)]
  · rw [if_neg hsuccess, if_neg fun h => hsuccess (reportOf_eq_success_iff.mp h)]

theorem newCase_open (risk : RiskClassificationResult) (customerId : UUID) :
    (newCase env event customerId txId risk).state.isTerminal = false := by
  have hstate : (newCase env event customerId txId risk).state = .DETECTED := rfl
  rw [hstate]
  rfl

/-- The transaction that an event of an unknown payment brings is found afterwards. -/
theorem Reports.find_provisioned_new (h : p.Reports event) (hfind : p.find s = none) :
    p.find (provisioned s event) =
      some (s.transactions.length, newTransaction event (customerOf s event)) := by
  have htransactions := h.provisioned_transactions s
  rw [hfind, if_neg (by simp)] at htransactions
  have hprovider : (newTransaction event (customerOf s event)).provider = p.provider := h.provider
  have hreference : (newTransaction event (customerOf s event)).externalTransactionId =
      p.reference := h.transactionReference_eq
  unfold find Store.transactionByExternalId at hfind ⊢
  rw [htransactions]
  refine Table.find?_append_one hfind ?_
  rw [hprovider, hreference, beq_self_eq_true, beq_self_eq_true]
  rfl

/-- The transaction of a known payment stays as it is. -/
theorem Reports.find_provisioned (h : p.Reports event) (hfind : p.find s = some (txId, txn)) :
    p.find (provisioned s event) = some (txId, txn) := by
  have htransactions := h.provisioned_transactions s
  rw [hfind, Option.isSome_some, if_pos rfl] at htransactions
  unfold find Store.transactionByExternalId at hfind ⊢
  rw [htransactions]
  exact hfind

/-- The first event of a payment. -/
theorem Reports.step_untouched (h : p.Reports event) (hlinked : Linked s)
    (hfind : p.find s = none) (hcases : ∀ case ∈ s.recoveryCases, ¬p.Concerns s case)
    (hdelivered : Delivered env event s t) : p.In t (Phase.untouched.next (reportOf event)) := by
  have hnew := h.find_provisioned_new hfind
  have htxId : transactionOf s event = s.transactions.length := by
    rw [h.transactionOf_eq, hfind]
    rfl
  rcases h.unmatched hlinked (h.matchedCase_none hlinked hcases) hdelivered with
    ⟨hreport, rfl⟩ | ⟨hreport, risk, rfl⟩ | ⟨hreport, rfl⟩
  · rw [hreport]
    refine .paid hnew ?_ fun case hcase => ?_
    · rw [newTransaction_status, if_pos hreport]
    · rw [provisioned_recoveryCases] at hcase
      exact h.not_concerns hlinked hcases case hcase
  · rw [hreport]
    have hcase := h.hasCase_opened env hlinked hcases risk
    rw [htxId] at hcase ⊢
    refine .exposed hnew ?_ hcase (newCase_open ..)
    rw [newTransaction_status, hreport]
    decide
  · rw [hreport]
    exact .untouched hfind hcases

/-- A further event of a payment that succeeded without a case. -/
theorem Reports.step_paid (h : p.Reports event) (hlinked : Linked s)
    (hfind : p.find s = some (txId, txn)) (hstatus : txn.status = .SUCCEEDED)
    (hcases : ∀ case ∈ s.recoveryCases, ¬p.Concerns s case)
    (hdelivered : Delivered env event s t) : p.In t (Phase.paid.next (reportOf event)) := by
  have hkept := h.find_provisioned hfind
  have htxId : transactionOf s event = txId := by
    rw [h.transactionOf_eq, hfind]
    rfl
  rcases h.unmatched hlinked (h.matchedCase_none hlinked hcases) hdelivered with
    ⟨hreport, rfl⟩ | ⟨hreport, risk, rfl⟩ | ⟨hreport, rfl⟩
  · rw [hreport]
    refine .paid hkept hstatus fun case hcase => ?_
    rw [provisioned_recoveryCases] at hcase
    exact h.not_concerns hlinked hcases case hcase
  · rw [hreport]
    have hcase := h.hasCase_opened env hlinked hcases risk
    rw [htxId] at hcase ⊢
    exact .misopened hkept hstatus hcase (newCase_open ..)
  · rw [hreport]
    exact .paid hfind hstatus hcases

/-- The rows follow the phases of the payment. -/
theorem In.step {phase : Phase} (hin : p.In s phase) (h : p.Reports event) (hlinked : Linked s)
    (hdelivered : Delivered env event s t) : p.In t (phase.next (reportOf event)) := by
  cases hin with
  | untouched hfind hcases => exact h.step_untouched hlinked hfind hcases hdelivered
  | paid hfind hstatus hcases => exact h.step_paid hlinked hfind hstatus hcases hdelivered
  | exposed hfind hstatus hcase hopen =>
    obtain ⟨later, laterCase, hfind', hcase', hend⟩ := h.matched hfind hcase hdelivered
    rcases hend with ⟨hreport, hclosed⟩ | ⟨hreport, hsame, hstate⟩
    · rw [hreport]
      exact .recovered hfind' hcase' hclosed
    · have hnext : Phase.exposed.next (reportOf event) = .exposed := by
        revert hreport
        cases reportOf event <;> simp [Phase.next]
      rw [hnext]
      exact .exposed hfind' (by rw [hsame]; exact hstatus) hcase' (by rw [hstate]; exact hopen)
  | misopened hfind hstatus hcase hopen =>
    obtain ⟨later, laterCase, hfind', hcase', hend⟩ := h.matched hfind hcase hdelivered
    rcases hend with ⟨hreport, hclosed⟩ | ⟨hreport, hsame, hstate⟩
    · rw [hreport]
      exact .recovered hfind' hcase' hclosed
    · have hnext : Phase.misopened.next (reportOf event) = .misopened := by
        revert hreport
        cases reportOf event <;> simp [Phase.next]
      rw [hnext]
      exact .misopened hfind' (by rw [hsame]; exact hstatus) hcase' (by rw [hstate]; exact hopen)
  | recovered hfind hcase hclosed =>
    obtain ⟨later, laterCase, hfind', hcase', hend⟩ := h.matched hfind hcase hdelivered
    have hnext : Phase.recovered.next (reportOf event) = .recovered := by
      cases reportOf event <;> rfl
    rw [hnext]
    rcases hend with ⟨-, hclosed'⟩ | ⟨-, -, hstate⟩
    · exact .recovered hfind' hcase' hclosed'
    · exact .recovered hfind' hcase' (by rw [hstate]; exact hclosed)

end Payment

end RevenueRescue
