import RevenueRescue.Properties.Totality
import RevenueRescue.Refinement.Effects
import RevenueRescue.Refinement.Keys

/-!
# Column limits

The migrations bound the case key, the external id and the amount of a transaction. The validator
and the schema of the event bound its texts one by one, but the key and the external id are put
together from several of them, the billing period comes from the metadata, and nothing bounds the
amount. An event fits exactly when the parts of its key and of its external id leave room for each
other and its amount is that of an integer column.
-/

namespace RevenueRescue

open Python

/-- The limits of the transaction's columns. -/
structure Transaction.Fits (row : Transaction) : Prop where
  externalTransactionId : row.externalTransactionId.length ≤ 128
  amountMinor : row.amountMinor ≤ 2 ^ 31 - 1

/-- The limit of the case's column. -/
def RecoveryCase.Fits (row : RecoveryCase) : Prop := row.caseKey.length ≤ 200

/-- The rows that are new fit their columns. -/
structure NewRowsFit (s t : Store) : Prop where
  transactions : ∀ i row, s.transactions.length ≤ i → t.transactions[i]? = some row → row.Fits
  recoveryCases : ∀ i row, s.recoveryCases.length ≤ i → t.recoveryCases[i]? = some row → row.Fits

theorem NewRowsFit.refl (s : Store) : NewRowsFit s s := by
  constructor
  · intro i row hnew hrow
    rw [List.getElem?_eq_none hnew] at hrow
    cases hrow
  · intro i row hnew hrow
    rw [List.getElem?_eq_none hnew] at hrow
    cases hrow

/-- Rewriting rows without touching the bounded columns keeps them fitting. -/
theorem NewRowsFit.modify {s t u : Store} (h : NewRowsFit s t) {caseId txId : UUID}
    {f : RecoveryCase → RecoveryCase} {g : Transaction → Transaction}
    (hcases : u.recoveryCases = t.recoveryCases.modify caseId f)
    (htransactions : u.transactions = t.transactions.modify txId g)
    (hf : ∀ row, (f row).caseKey = row.caseKey)
    (hg : ∀ row, (g row).externalTransactionId = row.externalTransactionId ∧
      (g row).amountMinor = row.amountMinor) : NewRowsFit s u := by
  constructor
  · intro i row hnew hrow
    rw [htransactions, List.getElem?_modify] at hrow
    obtain ⟨before, hbefore, rfl⟩ := Option.map_eq_some_iff.mp hrow
    have hfits := h.transactions i before hnew hbefore
    split
    · exact ⟨(hg before).1 ▸ hfits.externalTransactionId, (hg before).2 ▸ hfits.amountMinor⟩
    · exact hfits
  · intro i row hnew hrow
    rw [hcases, List.getElem?_modify] at hrow
    obtain ⟨before, hbefore, rfl⟩ := Option.map_eq_some_iff.mp hrow
    have hfits := h.recoveryCases i before hnew hbefore
    split
    · exact (congrArg String.length (hf before)).trans_le hfits
    · exact hfits

/-- What the schema of the event admits as references. -/
structure CanonicalEventDTO.Admitted (event : CanonicalEventDTO) : Prop where
  payment : (event.paymentReference.getD "").length ≤ 128
  subscription : (event.subscriptionReference.getD "").length ≤ 128
  invoice : (event.invoiceReference.getD "").length ≤ 128
  checkout : (event.checkoutSessionId.getD "").length ≤ 128

namespace EventToCaseEngine

variable {event : CanonicalEventDTO} {env : Env} {s t : Store}

/-- The parts of the key leave room for each other. -/
def LeadingReference.Fits : LeadingReference → Prop
  | .subscription reference billingPeriod => reference.length + billingPeriod.length ≤ 190
  | .invoice reference => reference.length ≤ 191
  | .checkout reference => reference.length ≤ 191
  | .payment provider reference => provider.length + reference.length ≤ 191
  | .unreferenced provider externalEventId => provider.length + externalEventId.length ≤ 190

end EventToCaseEngine

namespace Sample

end Sample

namespace EventToCaseEngine

end EventToCaseEngine

end RevenueRescue
