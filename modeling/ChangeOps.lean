import ChangeOps.Contracts.Canonical
import ChangeOps.Contracts.Models
import ChangeOps.Contracts.CanonicalText
import ChangeOps.Contracts.Instants
import ChangeOps.Contracts.Documents
import ChangeOps.TypescriptContracts.CanonicalJson
import ChangeOps.Lib.Dict
import ChangeOps.Lib.Assoc
import ChangeOps.Lib.Cursor
import ChangeOps.Lib.Documents
import ChangeOps.Lib.Fallible
import ChangeOps.Lib.Fnmatch
import ChangeOps.Lib.Interaction
import ChangeOps.Lib.Walks
import ChangeOps.Lib.Machine
import ChangeOps.Lib.Words
import ChangeOps.Lib.Prog
import ChangeOps.Lib.RelyGuarantee
import ChangeOps.Lib.Success
import ChangeOps.Lib.Pool
import ChangeOps.Lib.Schedule
import ChangeOps.Lib.Transaction
import ChangeOps.Lib.Journal
import ChangeOps.Lib.Apart
import ChangeOps.Lib.Possible
import ChangeOps.Errors
import ChangeOps.Persistence.Memory
import ChangeOps.Persistence.AuditTrail
import ChangeOps.Persistence.Firestore
import ChangeOps.Persistence.Adapters
import ChangeOps.Core.Runtime
import ChangeOps.Core.StateMachine
import ChangeOps.Core.TransitionRules
import ChangeOps.Core.TransitionLaw
import ChangeOps.Core.AuditLaw
import ChangeOps.Core.ServerClock
import ChangeOps.Core.Logging
import ChangeOps.ControlApi.Routes
import ChangeOps.ControlApi.Stream
import ChangeOps.ControlApi.Framing
import ChangeOps.Workflow.Models
import ChangeOps.Workflow.Repository
import ChangeOps.Workflow.Clients
import ChangeOps.Workflow.Engine
import ChangeOps.Workflow.Terminal
import ChangeOps.Workflow.Discipline
import ChangeOps.Workflow.EngineRules
import ChangeOps.Workflow.ResumeRules
import ChangeOps.Workflow.ProcessRules
import ChangeOps.Workflow.Snapshots
import ChangeOps.Workflow.PlanBinding
import ChangeOps.Sandbox.Systems
import ChangeOps.Policy.Engine
import ChangeOps.Policy.Scope
import ChangeOps.Policy.Decision
import ChangeOps.EventGateway.Repository
import ChangeOps.EventGateway.Identifiers
import ChangeOps.EventGateway.Ingest
import ChangeOps.EventGateway.Journal
import ChangeOps.EventGateway.InboxLaw
import ChangeOps.EventGateway.FirestoreRepository
import ChangeOps.ToolGateway.Models
import ChangeOps.ToolGateway.Repository
import ChangeOps.ToolGateway.Approvals
import ChangeOps.ToolGateway.Executions
import ChangeOps.ToolGateway.World
import ChangeOps.ToolGateway.Handler
import ChangeOps.ToolGateway.ApprovalHandlers
import ChangeOps.ToolGateway.HandlerRules
import ChangeOps.ToolGateway.Takeover
import ChangeOps.ToolGateway.Closing
import ChangeOps.ToolGateway.ApprovalAudit
import ChangeOps.ToolGateway.StaleChange
import ChangeOps.ToolGateway.Governed
import ChangeOps.ToolGateway.GovernanceAdapters
import ChangeOps.Workflow.Alone
import ChangeOps.Workflow.SandboxClient
import ChangeOps.EventGateway.RateLimit
import ChangeOps.ToolGateway.Quota
import ChangeOps.ToolGateway.ApprovedRecords
import ChangeOps.Workflow.Rollback
import ChangeOps.Workflow.Restart
import ChangeOps.Workflow.Delivery
import ChangeOps.Workflow.FirestoreRepository
import ChangeOps.Workflow.Intake
import ChangeOps.Workflow.Subscriber
import ChangeOps.Workflow.Dag
import ChangeOps.Workflow.Execution
import ChangeOps.Workflow.Outcome
import ChangeOps.AgentFleet.Planner
import ChangeOps.AgentFleet.Executable
import ChangeOps.AgentFleet.Impact
import ChangeOps.Admission.Models
import ChangeOps.Admission.Service
import ChangeOps.Admission.Stores
import ChangeOps.Admission.Records
import ChangeOps.Admission.Effects
import ChangeOps.Admission.View
import ChangeOps.Admission.History
import ChangeOps.Admission.Privilege
import ChangeOps.Admission.Enrolment
import ChangeOps.Admission.Workspaces
import ChangeOps.Admission.Invitations
import ChangeOps.Admission.Duties
import ChangeOps.Admission.Atomicity
import ChangeOps.Admission.Refusals
import ChangeOps.Admission.Listings
import ChangeOps.Sandbox.Models
import ChangeOps.Sandbox.Operations
import ChangeOps.Sandbox.Tenants
import ChangeOps.Sandbox.Isolation
import ChangeOps.Sandbox.Replays
import ChangeOps.Sandbox.Compensation
import ChangeOps.Sandbox.Refinement
import ChangeOps.AgentFleet.Screening
import ChangeOps.AgentFleet.MemoryEvidence
import ChangeOps.Authentication.Boundaries
import ChangeOps.Authentication.Base64
import ChangeOps.Authentication.JsonText
import ChangeOps.Authentication.Tokens
import ChangeOps.ControlTower.ServiceAuth
import ChangeOps.ControlTower.OperatorToken
import ChangeOps.ControlTower.ApprovalDecision
