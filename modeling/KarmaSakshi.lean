import KarmaSakshi.Domain.Approval
import KarmaSakshi.Domain.Attenuation
import KarmaSakshi.Domain.AttenuationOrder
import KarmaSakshi.Domain.AuditEvents
import KarmaSakshi.Domain.Canonical
import KarmaSakshi.Domain.CanonicalForm
import KarmaSakshi.Domain.CausalGraph
import KarmaSakshi.Domain.Duty
import KarmaSakshi.Domain.EnvelopeAttenuation
import KarmaSakshi.Domain.Manifest
import KarmaSakshi.Domain.Payload
import KarmaSakshi.Domain.PayloadIdentity
import KarmaSakshi.Domain.Plan
import KarmaSakshi.Domain.PolicyPayloads
import KarmaSakshi.Domain.Quorum
import KarmaSakshi.Domain.QuorumScenario
import KarmaSakshi.Domain.Saga
import KarmaSakshi.Domain.SagaShape
import KarmaSakshi.Domain.Substitution
import KarmaSakshi.Domain.Values
import KarmaSakshi.Domain.Verification
import KarmaSakshi.Domain.Witness
import KarmaSakshi.Engine.AncestorWalk
import KarmaSakshi.Engine.Answers
import KarmaSakshi.Engine.Calls
import KarmaSakshi.Engine.Commit
import KarmaSakshi.Engine.CommitBlame
import KarmaSakshi.Engine.CommitProtocol
import KarmaSakshi.Engine.CommitRun
import KarmaSakshi.Engine.DelegationChain
import KarmaSakshi.Engine.Deployment
import KarmaSakshi.Engine.Footprints
import KarmaSakshi.Engine.GateProtocol
import KarmaSakshi.Engine.Gates
import KarmaSakshi.Engine.Issuance
import KarmaSakshi.Engine.Journal
import KarmaSakshi.Engine.Lifecycle
import KarmaSakshi.Engine.OpenCompensation
import KarmaSakshi.Engine.Operations
import KarmaSakshi.Engine.Progress
import KarmaSakshi.Engine.Recovery
import KarmaSakshi.Engine.Reversal
import KarmaSakshi.Engine.Rollback
import KarmaSakshi.Engine.Saga
import KarmaSakshi.Engine.SagaScenario
import KarmaSakshi.Engine.SagaWrites
import KarmaSakshi.Engine.Scenario
import KarmaSakshi.Engine.Service
import KarmaSakshi.Engine.StaticGates
import KarmaSakshi.Engine.StepAuthorization
import KarmaSakshi.Engine.TransitionEnds
import KarmaSakshi.Engine.TransitionProtocol
import KarmaSakshi.Engine.WorkFrames
import KarmaSakshi.Evidence.Quality
import KarmaSakshi.Gateway.OrgIds
import KarmaSakshi.Gateway.RateLimits
import KarmaSakshi.Gateway.TenantDirectories
import KarmaSakshi.Guarantees.AdapterVerification
import KarmaSakshi.Guarantees.AncestorWalk
import KarmaSakshi.Guarantees.AssessmentLimits
import KarmaSakshi.Guarantees.Attenuation
import KarmaSakshi.Guarantees.AuditChain
import KarmaSakshi.Guarantees.AuditLog
import KarmaSakshi.Guarantees.Bootstrap
import KarmaSakshi.Guarantees.BudgetConservation
import KarmaSakshi.Guarantees.Canonical
import KarmaSakshi.Guarantees.CausalGraphs
import KarmaSakshi.Guarantees.CommitGates
import KarmaSakshi.Guarantees.CompensationParity
import KarmaSakshi.Guarantees.ConstraintNarrowing
import KarmaSakshi.Guarantees.DelegationChain
import KarmaSakshi.Guarantees.EnvelopeAttenuation
import KarmaSakshi.Guarantees.EnvelopePins
import KarmaSakshi.Guarantees.EnvelopeRefusals
import KarmaSakshi.Guarantees.EvidenceOrder
import KarmaSakshi.Guarantees.EvidencePacks
import KarmaSakshi.Guarantees.FailureMemory
import KarmaSakshi.Guarantees.Identifiers
import KarmaSakshi.Guarantees.LifecycleCheck
import KarmaSakshi.Guarantees.LifecycleSafety
import KarmaSakshi.Guarantees.Lineage
import KarmaSakshi.Guarantees.ManifestExpiry
import KarmaSakshi.Guarantees.Migrations
import KarmaSakshi.Guarantees.OrganizationIsolation
import KarmaSakshi.Guarantees.OutboxRefinement
import KarmaSakshi.Guarantees.PassportOutcomes
import KarmaSakshi.Guarantees.Passports
import KarmaSakshi.Guarantees.PaymentLedger
import KarmaSakshi.Guarantees.PolicyHashes
import KarmaSakshi.Guarantees.PolicyPayloads
import KarmaSakshi.Guarantees.Quorum
import KarmaSakshi.Guarantees.QuorumOrder
import KarmaSakshi.Guarantees.RateLimits
import KarmaSakshi.Guarantees.RefundRestart
import KarmaSakshi.Guarantees.Revocation
import KarmaSakshi.Guarantees.RiskMonotonicity
import KarmaSakshi.Guarantees.RowConcurrency
import KarmaSakshi.Guarantees.SagaCoverage
import KarmaSakshi.Guarantees.SagaOrder
import KarmaSakshi.Guarantees.SagaWalk
import KarmaSakshi.Guarantees.ScopeEnforcement
import KarmaSakshi.Guarantees.SelfApproval
import KarmaSakshi.Guarantees.Separation
import KarmaSakshi.Guarantees.SingleEffect
import KarmaSakshi.Guarantees.SingleUse
import KarmaSakshi.Guarantees.StepAuthorization
import KarmaSakshi.Guarantees.StoreEquivalence
import KarmaSakshi.Guarantees.Substitution
import KarmaSakshi.Guarantees.Tenancy
import KarmaSakshi.Guarantees.TenantDirectories
import KarmaSakshi.Guarantees.TransitionAtomicity
import KarmaSakshi.Guarantees.TrustedAdapters
import KarmaSakshi.Guarantees.WitnessOrder
import KarmaSakshi.Guarantees.WitnessRetraction
import KarmaSakshi.Integrations.AgentEval
import KarmaSakshi.Intelligence.Assessment
import KarmaSakshi.Intelligence.Outcomes
import KarmaSakshi.Intelligence.Policy
import KarmaSakshi.Library.Blame
import KarmaSakshi.Library.Conformance
import KarmaSakshi.Library.Execution
import KarmaSakshi.Library.Json
import KarmaSakshi.Library.JsonText
import KarmaSakshi.Library.Linearization
import KarmaSakshi.Library.Lines
import KarmaSakshi.Library.Paths
import KarmaSakshi.Library.Pattern
import KarmaSakshi.Library.Periods
import KarmaSakshi.Library.Pool
import KarmaSakshi.Library.Precedence
import KarmaSakshi.Library.Program
import KarmaSakshi.Library.Replay
import KarmaSakshi.Library.Selection
import KarmaSakshi.Library.Traversal
import KarmaSakshi.Library.Windows
import KarmaSakshi.Stores.Audit
import KarmaSakshi.Stores.Budget
import KarmaSakshi.Stores.Grants
import KarmaSakshi.Stores.Lifecycle
import KarmaSakshi.Stores.LifecycleCheck
import KarmaSakshi.Stores.Outbox
import KarmaSakshi.Stores.Registry
import KarmaSakshi.Stores.SQLiteOutbox
