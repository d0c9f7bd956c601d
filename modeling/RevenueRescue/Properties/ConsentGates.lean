import RevenueRescue.Properties.Retries
import RevenueRescue.Refinement.Rules

/-!
# The two consent gates

Consent is checked when the policy decides and again right before the action. The policy takes
the records of the one type that the action needs, for the merchant, and judges the record that
was granted last. The later check takes whichever granted record it meets first, of any merchant
and, for a reminder, of either channel. So it lets an action through that the policy would
refuse, as soon as the last record is not in force or is missing.
-/

namespace RevenueRescue

open Python WorkflowRevalidationService

namespace Sample

/-- An hour after the approval. -/
def later : Env := { env with now := ⟨noon.wall + 3600000000, some 0⟩ }

end Sample

end RevenueRescue
