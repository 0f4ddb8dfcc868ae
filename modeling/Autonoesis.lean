import Autonoesis.Application.Actions
import Autonoesis.Application.Capture
import Autonoesis.Application.Governed
import Autonoesis.Application.Effects
import Autonoesis.Application.Steps
import Autonoesis.Application.System
import Autonoesis.Application.Completion
import Autonoesis.Application.Stopped
import Autonoesis.Application.Threads
import Autonoesis.Runtime.Receipts
import Autonoesis.Persistence.Funds
import Autonoesis.Application.AuditChain
import Autonoesis.Application.Binding
import Autonoesis.Application.Candidates
import Autonoesis.Application.Isolation
import Autonoesis.Application.Packs
import Autonoesis.Application.Readback
import Autonoesis.Application.Releases
import Autonoesis.Application.Transactions
import Autonoesis.Base.Served
import Autonoesis.Base.Versioned
import Autonoesis.Persistence.AuditLog
import Autonoesis.Persistence.Keys
import Autonoesis.Persistence.Outcomes
import Autonoesis.Persistence.RunLimit
import Autonoesis.Worker.Activities
import Autonoesis.Worker.Approvals
import Autonoesis.Worker.Dispatch
import Autonoesis.Worker.Execution
import Autonoesis.Application.Dependencies
import Autonoesis.Application.Rollout
import Autonoesis.Application.Samples
import Autonoesis.Base.Codec
import Autonoesis.Base.Like
import Autonoesis.Domain.Columns
import Autonoesis.Domain.Identity
import Autonoesis.Persistence.Delegations
import Autonoesis.Persistence.KillSwitches
import Autonoesis.Persistence.Relay
import Autonoesis.Application.Breaches
import Autonoesis.Application.Decisions
import Autonoesis.Application.Evaluations
import Autonoesis.Application.PackHistories
import Autonoesis.Application.Tombstones
import Autonoesis.Application.Verdicts
import Autonoesis.Domain.Plans
import Autonoesis.Memory.Deletions
import Autonoesis.Pipeline.Guardrails
import Autonoesis.Base.Sorted
import Autonoesis.Persistence.ExecutionCodec
import Autonoesis.Persistence.PackRows
import Autonoesis.Persistence.PlanRows
import Autonoesis.Memory.Cascade
import Autonoesis.Base.Members
import Autonoesis.Context.Access
import Autonoesis.Context.Assembler
import Autonoesis.Context.Purpose
import Autonoesis.Context.Compressor
import Autonoesis.Base.Recursive
import Autonoesis.Evaluation.Graders
import Autonoesis.Evaluation.Harness
import Autonoesis.Evaluation.Verdict
import Autonoesis.Base.Wilson
import Autonoesis.Evaluation.Confidence
import Autonoesis.Evaluation.Trajectory
import Autonoesis.Domain.Parsing
import Autonoesis.Domain.Digests
import Autonoesis.Base.Hex
import Autonoesis.Base.Signatures
import Autonoesis.Application.Supply
import Autonoesis.Domain.Precedence
import Autonoesis.Base.Several
import Autonoesis.Context.Conflicts
import Autonoesis.Observability.Budgets
import Autonoesis.Observability.Projector
import Autonoesis.Persistence.Facts
import Autonoesis.Observability.Costs
import Autonoesis.Observability.SuccessRate
import Autonoesis.Persistence.Approvals
import Autonoesis.Observability.ApprovalLatency
import Autonoesis.Base.Marks
import Autonoesis.Runtime.Namespaces
import Autonoesis.Base.Lifecycle
import Autonoesis.Domain.Lifecycles
import Autonoesis.Persistence.GoalCodec
import Autonoesis.Persistence.ActionCodec
import Autonoesis.Persistence.EvidenceCodec
import Autonoesis.Persistence.ContextCodec
import Autonoesis.Persistence.EvolutionCodec
import Autonoesis.Persistence.TrialCodec
import Autonoesis.Base.Stored
import Autonoesis.Persistence.Codecs
import Autonoesis.Base.Rely
import Autonoesis.Worker.Reconciliation
import Autonoesis.Application.BreakGlass
import Autonoesis.Application.Routing
import Autonoesis.Base.Logged
import Autonoesis.Application.Accounting
import Autonoesis.Base.Fence
import Autonoesis.Worker.ReleaseExecution
import Autonoesis.Base.Allowance
import Autonoesis.Worker.CandidateEvaluation
