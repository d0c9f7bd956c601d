import Mathlib.Data.List.Sigma
import RevenueRescue.Cases.Listing
import RevenueRescue.Properties.History

/-!
# The pages of the case queue

The pages together should show every matching case once, and the reported total should count the
matching cases. The total counts what the database selects, so a risk tier must not remove any of
these; and the order by two columns leaves ties open, so none may lie across the border of two
pages.
-/

namespace RevenueRescue

open Python Pagination

namespace CaseRoutes

variable {db : Collation} {s : Store} {q : CaseQuery}

/-- A case of the tier that a query asks for. -/
def hasTier (riskTier : String) (row : CaseRow) : Bool :=
  match riskTierOf row.1 with
  | .ok tier => tier == lower (strip riskTier)
  | .error _ => false

/-- The cases that satisfy all conditions of a query. -/
def matching (db : Collation) (s : Store) (q : CaseQuery) : List CaseRow :=
  (selected db s q).filter fun row => q.riskTier.all fun riskTier => hasTier riskTier row

/-- Whichever order of ties the database chooses for each page, every answer reports the number of
matching cases as the total, and the answers for all pages list every matching case once. -/
def CompleteListing (db : Collation) (s : Store) (q : CaseQuery) : Prop :=
  ∀ arrangement : ℕ → List CaseRow,
    (∀ page, Arranged (sortKey db q) (selected db s q) (arrangement page)) →
    (∀ page, 1 ≤ page → ∀ answer, listCases db s q (arrangement page) page = .ok answer →
      answer.pagination.total = (matching db s q).length) ∧
    ∃ answers : ℕ → PaginatedResponse CaseSummaryItemDTO,
      (∀ page, 1 ≤ page → page ≤ totalPages db s q →
        listCases db s q (arrangement page) page = .ok (answers page)) ∧
      (((List.range (totalPages db s q)).flatMap fun i => (answers (i + 1)).items).map
        CaseSummaryItemDTO.id).Perm ((matching db s q).map Prod.snd)

/-- The risk tier removes none of the selected cases. -/
def TierIsSelected (db : Collation) (s : Store) (q : CaseQuery) : Prop :=
  ∀ riskTier ∈ q.riskTier, ∀ row ∈ selected db s q, hasTier riskTier row = true

theorem selected_nodup : (selected db s q).Nodup :=
  (List.Nodup.of_map _ (List.nodup_zipIdx_map_snd _)).filter _

theorem mem_selected {row : CaseRow} (h : row ∈ selected db s q) :
    s.recoveryCases[row.2]? = some row.1 :=
  List.mem_zipIdx_iff_getElem?.mp (List.mem_filter.mp h).1

/-- Rows of the table are determined by their primary keys. -/
theorem perm_of_ids {rows rows' : List CaseRow}
    (h : ∀ row ∈ rows, s.recoveryCases[row.2]? = some row.1)
    (h' : ∀ row ∈ rows', s.recoveryCases[row.2]? = some row.1)
    (hids : (rows.map Prod.snd).Perm (rows'.map Prod.snd)) : rows.Perm rows' := by
  have hlookup (rows : List CaseRow) (h : ∀ row ∈ rows, s.recoveryCases[row.2]? = some row.1) :
      (rows.map Prod.snd).filterMap (fun id => (s.recoveryCases[id]?).map fun case => (case, id)) =
        rows := by
    rw [List.filterMap_map]
    induction rows with
    | nil => rfl
    | cons row rows ih =>
      obtain ⟨hrow, hrows⟩ := List.forall_mem_cons.mp h
      rw [List.filterMap_cons_some (b := row), ih hrows]
      rw [Function.comp_apply, hrow, Option.map_some]
  rw [← hlookup rows h, ← hlookup rows' h']
  exact hids.filterMap _

/-- The number of pages is the rounded quotient for no cases too. -/
theorem totalPages_eq : totalPages db s q = pageCount q.size (selected db s q).length := by
  unfold totalPages
  dsimp only
  split
  · rfl
  · rename_i hnone
    rw [Nat.eq_zero_of_not_pos hnone, pageCount, Nat.zero_add,
      Nat.div_eq_of_lt (Nat.sub_one_lt (Nat.ne_of_gt q.size_pos))]

/-- A filter that all rows pass. -/
theorem postFilter_eq_self {riskTier : String} {rows : List CaseRow}
    (h : ∀ row ∈ rows, hasTier riskTier row = true) :
    postFilter (lower (strip riskTier)) rows = .ok rows := by
  induction rows with
  | nil => rfl
  | cons row rows ih =>
    obtain ⟨hrow, hrows⟩ := List.forall_mem_cons.mp h
    unfold postFilter
    unfold hasTier at hrow
    rcases htier : riskTierOf row.1 with fault | tier
    · rw [htier] at hrow
      exact absurd hrow Bool.false_ne_true
    · rw [htier] at hrow
      rw [ih hrows, eq_of_beq hrow]
      simp [bind, Except.bind, pure, Except.pure]

/-- The answer for a page whose rows all have the tier. -/
theorem listCases_of_tier (db : Collation) (s : Store) {arrangement : List CaseRow} {page : ℕ}
    (h : ∀ riskTier ∈ q.riskTier, ∀ row ∈ Pagination.page q.size (page - 1) arrangement,
      hasTier riskTier row = true) :
    ∃ answer, listCases db s q arrangement page = .ok answer ∧
      answer.items = (Pagination.page q.size (page - 1) arrangement).map
        (RecoveryCaseMapper.toSummaryItem s) ∧
      answer.pagination.total = (selected db s q).length := by
  unfold listCases
  dsimp only
  rcases htier : q.riskTier with - | riskTier
  · exact ⟨_, rfl, rfl, rfl⟩
  · dsimp only
    rw [postFilter_eq_self (h riskTier htier)]
    exact ⟨_, rfl, rfl, rfl⟩

/-- A page without rows is answered, and the total is the number of selected cases. -/
theorem total_eq_of_complete (h : CompleteListing db s q) :
    (selected db s q).length = (matching db s q).length := by
  obtain ⟨l, hl⟩ := exists_arranged (sortKey db q) (selected db s q)
  have hnone : Pagination.page q.size (l.length + 1 - 1) l = [] := by
    unfold Pagination.page
    rw [Nat.add_sub_cancel, List.drop_eq_nil_of_le (Nat.le_mul_of_pos_right _ q.size_pos),
      List.take_nil]
  have hpage : ∀ riskTier ∈ q.riskTier,
      ∀ row ∈ Pagination.page q.size (l.length + 1 - 1) l, hasTier riskTier row = true := by
    rw [hnone]
    exact fun _ _ => List.forall_mem_nil _
  obtain ⟨answer, hanswer, -, htotal⟩ := listCases_of_tier db s hpage
  rw [← htotal]
  exact (h (fun _ => l) fun _ => hl).1 (l.length + 1) (Nat.succ_pos _) answer hanswer

theorem tierIsSelected_of_complete (h : CompleteListing db s q) : TierIsSelected db s q := by
  intro riskTier hriskTier row hrow
  have hall := List.length_filter_eq_length_iff.mp (total_eq_of_complete h).symm row hrow
  rw [Option.mem_def.mp hriskTier] at hall
  exact hall

theorem TierIsSelected.matching_eq (h : TierIsSelected db s q) :
    matching db s q = selected db s q := by
  unfold matching
  rw [List.filter_eq_self]
  intro row hrow
  cases htier : q.riskTier with
  | none => rfl
  | some riskTier => exact h riskTier htier row hrow

/-- Where the tier removes nothing, the answer for a page shows the page. -/
theorem TierIsSelected.answer {arrangement : List CaseRow} (h : TierIsSelected db s q)
    (harranged : Arranged (sortKey db q) (selected db s q) arrangement) (page : ℕ) :
    ∃ answer, listCases db s q arrangement page = .ok answer ∧
      answer.items = (Pagination.page q.size (page - 1) arrangement).map
        (RecoveryCaseMapper.toSummaryItem s) ∧
      answer.pagination.total = (selected db s q).length := by
  apply listCases_of_tier
  intro riskTier hriskTier row hrow
  exact h riskTier hriskTier row
    (harranged.perm.mem_iff.mp (mem_of_mem_page hrow))

/-- The primary keys that the answers for all pages show. -/
theorem ids_of_items {n : ℕ} {answers : ℕ → PaginatedResponse CaseSummaryItemDTO}
    {arrangement : ℕ → List CaseRow}
    (h : ∀ i < n, (answers (i + 1)).items =
      (Pagination.page q.size i (arrangement i)).map (RecoveryCaseMapper.toSummaryItem s)) :
    ((List.range n).flatMap fun i => (answers (i + 1)).items).map CaseSummaryItemDTO.id =
      ((List.range n).flatMap fun i => Pagination.page q.size i (arrangement i)).map Prod.snd := by
  rw [List.map_flatMap, List.map_flatMap]
  apply List.flatMap_congr
  intro i hi
  rw [h i (List.mem_range.mp hi), List.map_map]
  rfl

/-- The pages of any arrangements are rows of the table. -/
theorem getElem?_of_pages {n : ℕ} {arrangement : ℕ → List CaseRow}
    (h : ∀ i, Arranged (sortKey db q) (selected db s q) (arrangement i)) {row : CaseRow}
    (hrow : row ∈ (List.range n).flatMap fun i => Pagination.page q.size i (arrangement i)) :
    s.recoveryCases[row.2]? = some row.1 := by
  obtain ⟨i, -, hpage⟩ := List.mem_flatMap.mp hrow
  exact mem_selected ((h i).perm.mem_iff.mp (mem_of_mem_page hpage))

theorem tiesFit_of_complete (h : CompleteListing db s q) :
    TiesFit (sortKey db q) q.size (selected db s q) := by
  have htier := tierIsSelected_of_complete h
  apply (complete_iff selected_nodup q.size_pos).mp
  intro arrangement harranged
  obtain ⟨-, answers, hanswers, hperm⟩ :=
    h (fun page => arrangement (page - 1)) fun page => harranged (page - 1)
  have hitems : ∀ i < totalPages db s q, (answers (i + 1)).items =
      (Pagination.page q.size i (arrangement i)).map (RecoveryCaseMapper.toSummaryItem s) := by
    intro i hi
    obtain ⟨answer, hanswer, hitems, -⟩ := htier.answer (harranged i) (i + 1)
    have hsame := hanswers (i + 1) (Nat.succ_pos i) hi
    rw [Nat.add_sub_cancel] at hsame
    obtain rfl := Except.ok.inj (hsame.symm.trans hanswer)
    exact hitems
  rw [htier.matching_eq, ids_of_items hitems, totalPages_eq] at hperm
  exact perm_of_ids (fun row => getElem?_of_pages harranged) (fun row => mem_selected) hperm

theorem TierIsSelected.complete (htier : TierIsSelected db s q)
    (hties : TiesFit (sortKey db q) q.size (selected db s q)) : CompleteListing db s q := by
  intro arrangement harranged
  have hpages := (complete_iff selected_nodup q.size_pos).mpr hties
    (fun i => arrangement (i + 1)) fun i => harranged (i + 1)
  choose answers hanswers hitems htotal using fun page => htier.answer (harranged page) page
  constructor
  · intro page _ answer hanswer
    obtain rfl := Except.ok.inj (hanswer.symm.trans (hanswers page))
    rw [htotal, htier.matching_eq]
  · refine ⟨answers, fun page _ _ => hanswers page, ?_⟩
    rw [ids_of_items fun i _ => hitems (i + 1), htier.matching_eq, totalPages_eq]
    exact hpages.map _

/-- The listing is complete exactly when the risk tier removes none of the selected cases and no
tie lies across the border of two pages. -/
theorem completeListing_iff (db : Collation) (s : Store) (q : CaseQuery) :
    CompleteListing db s q ↔
      TierIsSelected db s q ∧ TiesFit (sortKey db q) q.size (selected db s q) :=
  ⟨fun h => ⟨tierIsSelected_of_complete h, tiesFit_of_complete h⟩, fun h => h.1.complete h.2⟩

/-- Two cases of equal priority that were opened at one time, of high and of low risk. -/
def twoCases : Store :=
  let detected (triggerTransactionId : UUID) (key riskTier : String) : RecoveryCase :=
    { Sample.case .DETECTED with
      triggerTransactionId, caseKey := key, metadataJson := [("risk_tier", .str riskTier)] }
  { Store.empty with
    customers := [⟨"razorpay", "cust_1", none, .ACTIVE, []⟩]
    transactions := [Sample.transaction .FAILED,
      { Sample.transaction .FAILED with externalTransactionId := "pay_2" }]
    recoveryCases := [detected 0 "CASE-TX-razorpay-pay_1" "high",
      detected 1 "CASE-TX-razorpay-pay_2" "low"] }

/-- A database that compares by instant and without ASCII case. -/
def collation : Collation := ⟨like, Datetime.instant⟩

/-- The total counts a case of another tier, and pages of one case may both show the same one. -/
theorem twoCases_incomplete :
    ¬ CompleteListing collation twoCases { riskTier := some "high" } ∧
      ¬ CompleteListing collation twoCases { size := 1 } := by
  constructor
  · intro h
    have htotal : (selected collation twoCases { riskTier := some "high" }).length = 2 := by
      decide +kernel
    have hmatching : (matching collation twoCases { riskTier := some "high" }).length = 1 := by
      decide +kernel
    have heq := total_eq_of_complete h
    omega
  · intro h
    exact absurd (tiesFit_of_complete h) (by decide +kernel)

end CaseRoutes

end RevenueRescue
