import ChangeOps.Workflow.Repository
import ChangeOps.Core.StateMachine

/-!
# ChangeOps.Workflow — the services behind the clients

`changeops_workflow_coordinator/clients.py`. The fleet, the tool gateway and the three
sandboxes are other processes; `Services` is what they may do. A sandbox request is one
exchange with the remote state `E`; a tool execution takes several actions of the gateway,
between which others may act. A request that fails may still have had its effect.

`RemoteEvent`s are notes about the traffic, for the statements of the theorems only: nothing
reads them.
-/

namespace ChangeOps

/-- How a client call fails: with the client's `DependencyCallError`, or with anything that
the client does not map to it. -/
inductive RemoteError where
  | dependencyCall (code : String) (transient : Bool)
  | unmapped (text : String)
deriving DecidableEq, Repr

def RemoteError.toExn : RemoteError → Exn
  | .dependencyCall code transient => .dependencyCall code transient
  | .unmapped text => .other text

/-! ## Answers -/

/-- `FleetAnalysisResult`, as far as the coordinator reads it. -/
structure FleetAnalysisResult where
  draftPlan : RemediationPlan
  draftPlanHash : String

structure SnapshotRecord where
  snapshotId : String
  configurationHash : String

structure GatewayExecutionResult where
  executionId : String
  outputHash : String
  replayed : Bool

/-- `VerificationResult`: the verdict and the document that the audit event hashes. -/
structure VerificationResult where
  passed : Bool
  document : Json

/-- One exchange with the services: they see the change repository and their own state. -/
abbrev Exchange (E α : Type) := InMemoryChangeStateRepository → E → Except RemoteError α × E

/-- The services behind the clients. -/
structure Services (E : Type) where
  analyze : (changeId : String) → (event : ChangeEvent) → (requestId : String) →
    Exchange E FleetAnalysisResult
  createApproval : (approvalId : String) → (plan : RemediationPlan) → (expiresAt : Time) →
    (requestId : String) → Exchange E Unit
  execute : (intent : ToolIntent) → (approvalId : String) → (requestId : String) →
    Prog (InMemoryChangeStateRepository × E) RemoteError GatewayExecutionResult
  snapshot : (system : SystemId) → (tenantId requestId : String) → Exchange E SnapshotRecord
  restore : (system : SystemId) → (tenantId snapshotId requestId : String) → Exchange E Unit
  verify : (system : SystemId) → (tenantId expectedField requestId : String) →
    Exchange E VerificationResult
  configuration : (system : SystemId) → (tenantId requestId : String) → Exchange E Json

/-- `SandboxClient.system_for_step`. -/
def systemForStep (step : RemediationStep) : Except Exn SystemId :=
  if step.toolName = "crm.update_field_mapping" then .ok .crm
  else if step.toolName = "analytics.update_field_mapping" then .ok .analytics
  else if step.toolName = "support.update_lookup_field" then .ok .support
  else .error (.dependencyCall "UNSUPPORTED_PLAN_TOOL" false)

/-- The fields of the intent that `GatewayClient.execute` sends. -/
def toolIntent [Sha256] (workflowExecutionId : String) (plan : RemediationPlan)
    (step : RemediationStep) (requestedAt : Time) : ToolIntent where
  intentId := "intent_" ++ workflowExecutionId ++ "_" ++ step.stepId
  tenantId := plan.tenantId
  changeId := plan.changeId
  workflowExecutionId := workflowExecutionId
  planId := plan.planId
  planHash := calculatePlanHash plan
  stepId := step.stepId
  agentIdentity := step.agentId
  toolName := step.toolName
  action := "update"
  resource := step.resource
  arguments := step.arguments
  reason := "Execute the exact approved durable workflow step."
  evidenceRefs := plan.evidenceRefs
  idempotencyKey := step.idempotencyKey
  requestedAt := requestedAt

/-- `ToolIntent(...)`: the other texts are fixed, or the plan and the record have checked them. -/
def ToolIntent.modelValidate (intent : ToolIntent) : Except Exn ToolIntent := do
  let intentId ← nonEmptyStr intent.intentId
  return { intent with intentId := intentId }

/-! ## The coordinator's world -/

/-- What is worth noting about the traffic of a workflow with the services. -/
inductive RemoteEvent where
  | approvalRequested (approvalId : String)
  | executeCalled (workflow : WorkflowKey) (stepId : String)
  /-- The call for the step was answered with a transient error, and the policy allows another. -/
  | transientAnswer (workflow : WorkflowKey) (stepId : String)
  | snapshotCaptured (workflow : WorkflowKey) (stepId snapshotId snapshotHash : String)
  | verified (workflow : WorkflowKey) (stepId : String) (passed : Bool)
  | restoreCalled (workflow : WorkflowKey) (stepId : String)
deriving DecidableEq, Repr

/-- What the coordinator's runs share besides the changes. -/
structure Coordinator [Sha256] (E : Type) where
  workflows : InMemoryWorkflowRepository
  remote : E
  log : List RemoteEvent

section Actions

variable [Sha256] {E α : Type}

abbrev CoordinatorWorld (E : Type) := World (Coordinator E)

/-- `workflows.get(...)`. -/
def getWorkflow (tenantId changeId workflowExecutionId : String) :
    Action (Coordinator E) WorkflowExecutionRecord :=
  .atomic fun w => (w.rest.workflows.get tenantId changeId workflowExecutionId, w)

/-- A writing method of the workflow repository. -/
def onWorkflows (method : InMemoryWorkflowRepository →
    Except Exn α × InMemoryWorkflowRepository) : Action (Coordinator E) α :=
  .atomic fun w => ((method w.rest.workflows).1,
    { w with rest := { w.rest with workflows := (method w.rest.workflows).2 } })

/-- A request to a service, with the notes that its answer is worth. -/
def exchange (request : Exchange E α) (notes : Except RemoteError α → List RemoteEvent) :
    Action (Coordinator E) α :=
  .atomic fun w =>
    let answer := request w.changes w.rest.remote
    (answer.1.mapError RemoteError.toExn,
      { w with rest := { w.rest with remote := answer.2, log := w.rest.log ++ notes answer.1 } })

/-- A note. -/
def note (event : RemoteEvent) : Action (Coordinator E) Unit :=
  .atomic fun w => (.ok (), { w with rest := { w.rest with log := w.rest.log ++ [event] } })

/-- A program of a service, as it runs in the coordinator's world: it sees the changes but
writes its own state only. -/
def remotely : Prog (InMemoryChangeStateRepository × E) RemoteError α → Action (Coordinator E) α
  | .ret a => .ret a
  | .raise e => .raise e.toExn
  | .step u k => .step
      (fun w => { w with rest := { w.rest with remote := (u (w.changes, w.rest.remote)).2 } })
      fun w => remotely (k (w.changes, w.rest.remote))
  | .choice l r => .choice (remotely l) (remotely r)

end Actions

end ChangeOps
