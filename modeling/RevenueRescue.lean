import RevenueRescue.Base.ReadCommitted
import RevenueRescue.Concurrency.Requests
import RevenueRescue.Concurrency.Tables
import RevenueRescue.Properties.Approval
import RevenueRescue.Properties.AuditLog
import RevenueRescue.Properties.ClosingTimes
import RevenueRescue.Properties.Coherence
import RevenueRescue.Properties.ConsentGates
import RevenueRescue.Properties.Currencies
import RevenueRescue.Properties.Delivery
import RevenueRescue.Properties.Dispatch
import RevenueRescue.Properties.DispatchWindow
import RevenueRescue.Properties.Endpoints
import RevenueRescue.Properties.History
import RevenueRescue.Properties.Isolation
import RevenueRescue.Properties.LiveAuthority
import RevenueRescue.Properties.Matching
import RevenueRescue.Properties.Normalisation
import RevenueRescue.Properties.Order
import RevenueRescue.Properties.Recommendations
import RevenueRescue.Properties.Redelivery
import RevenueRescue.Properties.Replay
import RevenueRescue.Properties.Resolution
import RevenueRescue.Properties.Retries
import RevenueRescue.Properties.RetryEligibility
import RevenueRescue.Properties.Settlement
import RevenueRescue.Properties.Signatures
import RevenueRescue.Properties.Totality
import RevenueRescue.Properties.TransitionTable
import RevenueRescue.Properties.Transitions
import RevenueRescue.Properties.Uncertainty
import RevenueRescue.Properties.FailureCounts
import RevenueRescue.Refinement.Redaction
import RevenueRescue.Properties.CardData
import RevenueRescue.Concurrency.Evaluations
import RevenueRescue.Properties.ConcurrentEvaluations
import RevenueRescue.Properties.Outcomes
import RevenueRescue.Properties.Reconciliations
import RevenueRescue.Refinement.Batches
import RevenueRescue.Properties.Batches
import RevenueRescue.Base.Memo
import RevenueRescue.Concurrency.Adapter
import RevenueRescue.Properties.ConcurrentRetries
import RevenueRescue.Properties.ConcurrentDeliveries
import RevenueRescue.Refinement.Mutations
import RevenueRescue.Refinement.Overlaps
import RevenueRescue.Properties.ConcurrentCases
import RevenueRescue.Cases.Verification
import RevenueRescue.Properties.EventLedger
import RevenueRescue.Base.Paths
import RevenueRescue.Properties.RedactionLaw
import RevenueRescue.Properties.RetryRule
import RevenueRescue.Policy.Consents
import RevenueRescue.Properties.ConsentRule
import RevenueRescue.Properties.Timezones
import RevenueRescue.Base.Decimal
import RevenueRescue.Cases.Strategy
import RevenueRescue.Properties.Quota
import RevenueRescue.Properties.StrategySelection
import RevenueRescue.Policy.Safety
import RevenueRescue.Workflows.Agents
import RevenueRescue.Workflows.Tools
import RevenueRescue.Workflows.Vertical
import RevenueRescue.Refinement.Walks
import RevenueRescue.Properties.VerticalWorkflow
import RevenueRescue.Properties.Timeouts
import RevenueRescue.Properties.References
import RevenueRescue.Properties.DashboardEvidence
import RevenueRescue.Properties.Triage
import RevenueRescue.Policy.Resilience
import RevenueRescue.Properties.OrderReceipts
import RevenueRescue.Properties.Backoff
import RevenueRescue.Evaluation.Baselines
import RevenueRescue.Evaluation.Metrics
import RevenueRescue.Properties.HonestEvaluation
import RevenueRescue.Properties.ColumnLimits
import RevenueRescue.Base.Pagination
import RevenueRescue.Cases.Listing
import RevenueRescue.Properties.Listing
import RevenueRescue.Base.Hexadecimal
import RevenueRescue.Base.JsonText
import RevenueRescue.Properties.Credentials
import RevenueRescue.Properties.Fingerprints
import RevenueRescue.Properties.Privileges
import RevenueRescue.Properties.Accounts
import RevenueRescue.Properties.DecisionTable
import RevenueRescue.Refinement.Advice
import RevenueRescue.Properties.Accountability
import RevenueRescue.Properties.Provenance
import RevenueRescue.Properties.Interface
import RevenueRescue.Properties.ReadBack
import RevenueRescue.Properties.Previews
