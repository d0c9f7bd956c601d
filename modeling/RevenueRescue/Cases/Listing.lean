import Mathlib.Data.Prod.Lex
import RevenueRescue.Base.Pagination
import RevenueRescue.Base.Text
import RevenueRescue.Domain.Repositories

/-!
# The case queue

`list_cases` answers one page of the operator queue. The database selects, counts and sorts the
cases and cuts out the page; the risk tier is compared afterwards, with the rows of the page.

How `ILIKE` folds case, how timestamps compare and in which order rows come whose sort columns
agree is up to the database.
-/

namespace RevenueRescue

open Python

/-- The comparisons that the database makes. -/
structure Collation where
  ilike : String → String → Bool
  rank : Datetime → ℤ

/-- The query parameters other than the page, within the bounds that the route declares. -/
structure CaseQuery where
  state : Option String := none
  customerId : Option UUID := none
  priorityMin : Option ℤ := none
  priorityMax : Option ℤ := none
  riskTier : Option String := none
  search : Option String := none
  sortBy : String := "priority"
  sortOrder : String := "asc"
  size : ℕ := 20
  priorityMin_bounds : ∀ bound ∈ priorityMin, 1 ≤ bound ∧ bound ≤ 1000 := by simp
  priorityMax_bounds : ∀ bound ∈ priorityMax, 1 ≤ bound ∧ bound ≤ 1000 := by simp
  search_bounds : ∀ text ∈ search, 1 ≤ text.length ∧ text.length ≤ 100 := by simp
  size_pos : 1 ≤ size := by decide
  size_le : size ≤ 100 := by decide

structure CustomerSummaryDTO where
  id : UUID
  externalCustomerId : String
  status : CustomerStatus
  deriving DecidableEq, Repr

structure TransactionSummaryDTO where
  id : UUID
  externalTransactionId : String
  amountMinor : ℕ
  currency : String
  status : TransactionStatus
  failureCode : Option String
  occurredAt : Datetime
  deriving DecidableEq, Repr

structure CaseSummaryItemDTO where
  id : UUID
  caseKey : String
  customer : Option CustomerSummaryDTO
  triggerTransaction : Option TransactionSummaryDTO
  state : RecoveryCaseState
  priority : ℤ
  attemptsCount : ℕ
  openedAt : Datetime
  lastStateChangedAt : Datetime
  deriving DecidableEq, Repr

structure PaginationMetadata where
  total : ℕ
  page : ℕ
  size : ℕ
  pages : ℕ
  hasMore : Bool
  deriving DecidableEq, Repr

structure PaginatedResponse (Item : Type) where
  items : List Item
  pagination : PaginationMetadata
  deriving DecidableEq, Repr

/-- A case and its primary key. -/
abbrev CaseRow : Type := RecoveryCase × UUID

namespace RecoveryCaseMapper

/-- `RecoveryCaseMapper.to_summary_item`. -/
def toSummaryItem (s : Store) (row : CaseRow) : CaseSummaryItemDTO :=
  let entity := row.1
  { id := row.2
    caseKey := entity.caseKey
    customer := (s.customers[entity.customerId]?).map fun customer =>
      { id := entity.customerId
        externalCustomerId := customer.externalCustomerId
        status := customer.status }
    triggerTransaction := (s.transactions[entity.triggerTransactionId]?).map fun tx =>
      { id := entity.triggerTransactionId
        externalTransactionId := tx.externalTransactionId
        amountMinor := tx.amountMinor
        currency := tx.currency.code
        status := tx.status
        failureCode := none
        occurredAt := tx.occurredAt }
    state := entity.state
    priority := entity.priority
    attemptsCount := s.attempts.countP fun attempt => attempt.caseId == row.2
    openedAt := entity.openedAt
    lastStateChangedAt := entity.lastStateChangedAt }

end RecoveryCaseMapper

namespace CaseRoutes

variable (db : Collation) (s : Store) (q : CaseQuery)

/-- The condition on the state. A text that is no state selects `state IS NULL`, which no case is. -/
def hasState (text : String) (case : RecoveryCase) : Bool :=
  (RecoveryCaseState.ofValue (lower text)).any fun state => case.state == state

/-- The condition of a search. -/
def isFound (search : String) (case : RecoveryCase) : Bool :=
  let searchPattern := "%" ++ strip search ++ "%"
  db.ilike case.caseKey searchPattern ||
    (s.customers[case.customerId]?).any (fun customer =>
      db.ilike customer.externalCustomerId searchPattern) ||
    (s.transactions[case.triggerTransactionId]?).any fun tx =>
      db.ilike tx.externalTransactionId searchPattern

/-- The `WHERE` clause. -/
def selects (case : RecoveryCase) : Bool :=
  q.state.all (fun text => hasState text case) &&
    q.customerId.all (fun customerId => case.customerId == customerId) &&
    q.priorityMin.all (fun bound => bound ≤ case.priority) &&
    q.priorityMax.all (fun bound => case.priority ≤ bound) &&
    q.search.all fun search => isFound db s search case

/-- The cases that the database selects. -/
def selected : List CaseRow := s.recoveryCases.zipIdx.filter fun row => selects db s q row.1

/-- The `ORDER BY` clause; a descending column counts negative. -/
def sortKey (row : CaseRow) : ℤ ×ₗ ℤ :=
  let case := row.1
  let sortCol :=
    if q.sortBy = "opened_at" then db.rank case.openedAt
    else if q.sortBy = "last_state_changed_at" then db.rank case.lastStateChangedAt
    else case.priority
  if lower q.sortOrder = "desc" then toLex (-sortCol, -db.rank case.openedAt)
  else toLex (sortCol, -db.rank case.lastStateChangedAt)

/-- `(metadata_json or {}).get("risk_tier", "").lower()`. -/
def riskTierOf (case : RecoveryCase) : Except Fault String :=
  match Dict.getD case.metadataJson "risk_tier" (.str "") with
  | .str tier => .ok (lower tier)
  | _ => .error .attributeError

/-- The rows of a page whose risk tier is `cleanTier`. -/
def postFilter (cleanTier : String) : List CaseRow → Except Fault (List CaseRow)
  | [] => .ok []
  | row :: rest => do
    let tier ← riskTierOf row.1
    let kept ← postFilter cleanTier rest
    return if tier = cleanTier then row :: kept else kept

/-- The number of pages. -/
def totalPages : ℕ :=
  let total := (selected db s q).length
  if total > 0 then Pagination.pageCount q.size total else 0

/-- `list_cases` for a page, the first of which is page one, where `arrangement` is the order in
which the database has the selected cases. -/
def listCases (arrangement : List CaseRow) (page : ℕ) :
    Except Fault (PaginatedResponse CaseSummaryItemDTO) := do
  let entities := Pagination.page q.size (page - 1) arrangement
  let kept ←
    match q.riskTier with
    | none => .ok entities
    | some riskTier => postFilter (lower (strip riskTier)) entities
  return {
    items := kept.map (RecoveryCaseMapper.toSummaryItem s)
    pagination := {
      total := (selected db s q).length
      page
      size := q.size
      pages := totalPages db s q
      hasMore := page < totalPages db s q } }

end CaseRoutes

end RevenueRescue
