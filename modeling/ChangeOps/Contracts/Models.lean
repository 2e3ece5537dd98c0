import ChangeOps.Contracts.Canonical

/-!
# ChangeOps.Contracts — the wire contracts

The records of `changeops_contracts/models.py`, with the enumerations they use. A record
whose pydantic model has an `after` validator carries the validated facts as fields, so a
record that the validator refuses cannot be built. Length limits on plain texts
(`NonEmptyStr`, `Reference`) are enforced where a text enters the system and are not
repeated here.
-/

namespace ChangeOps

/-- The first version of a record is a version. -/
theorem one_le_one : 1 ≤ 1 := Nat.le_refl 1

/-! ## Enumerations -/

inductive RiskLevel where
  | UNKNOWN | LOW | MEDIUM | HIGH | CRITICAL
deriving DecidableEq, Repr

def RiskLevel.value : RiskLevel → String
  | .UNKNOWN => "unknown"
  | .LOW => "low"
  | .MEDIUM => "medium"
  | .HIGH => "high"
  | .CRITICAL => "critical"

inductive ChangeEnvironment where
  | LOCAL | TEST | SANDBOX
deriving DecidableEq, Repr

def ChangeEnvironment.value : ChangeEnvironment → String
  | .LOCAL => "local"
  | .TEST => "test"
  | .SANDBOX => "sandbox"

/-- The states of a change. -/
inductive WorkflowState where
  | RECEIVED | SCREENING | BLOCKED | ANALYZING | PLAN_READY | AWAITING_APPROVAL | APPROVED
  | REJECTED | EXECUTING | VERIFYING | ROLLING_BACK | COMPLETED | FAILED | PARTIAL
  | CANCELLED | NEEDS_ATTENTION
deriving DecidableEq, Repr

def WorkflowState.value : WorkflowState → String
  | .RECEIVED => "RECEIVED"
  | .SCREENING => "SCREENING"
  | .BLOCKED => "BLOCKED"
  | .ANALYZING => "ANALYZING"
  | .PLAN_READY => "PLAN_READY"
  | .AWAITING_APPROVAL => "AWAITING_APPROVAL"
  | .APPROVED => "APPROVED"
  | .REJECTED => "REJECTED"
  | .EXECUTING => "EXECUTING"
  | .VERIFYING => "VERIFYING"
  | .ROLLING_BACK => "ROLLING_BACK"
  | .COMPLETED => "COMPLETED"
  | .FAILED => "FAILED"
  | .PARTIAL => "PARTIAL"
  | .CANCELLED => "CANCELLED"
  | .NEEDS_ATTENTION => "NEEDS_ATTENTION"

inductive PolicyEffect where
  | ALLOW | DENY | REQUIRE_APPROVAL | BLOCK_SECURITY | RATE_LIMIT | NEEDS_REVIEW
deriving DecidableEq, Repr

def PolicyEffect.value : PolicyEffect → String
  | .ALLOW => "ALLOW"
  | .DENY => "DENY"
  | .REQUIRE_APPROVAL => "REQUIRE_APPROVAL"
  | .BLOCK_SECURITY => "BLOCK_SECURITY"
  | .RATE_LIMIT => "RATE_LIMIT"
  | .NEEDS_REVIEW => "NEEDS_REVIEW"

inductive ApprovalDecision where
  | APPROVED | REJECTED
deriving DecidableEq, Repr

inductive UserRole where
  | CHANGE_REQUESTER | APPROVER | AUDITOR | PLATFORM_ADMIN
deriving DecidableEq, Repr

def UserRole.value : UserRole → String
  | .CHANGE_REQUESTER => "CHANGE_REQUESTER"
  | .APPROVER => "APPROVER"
  | .AUDITOR => "AUDITOR"
  | .PLATFORM_ADMIN => "PLATFORM_ADMIN"

inductive ActorType where
  | USER | AGENT | SERVICE | SYSTEM
deriving DecidableEq, Repr

inductive AuditStatus where
  | SUCCESS | REJECTED | FAILURE
deriving DecidableEq, Repr

def AuditStatus.value : AuditStatus → String
  | .SUCCESS => "success"
  | .REJECTED => "rejected"
  | .FAILURE => "failure"

/-! ## Events and changes -/

structure ChangeSource where
  type : String
  externalId : String
  url : String
deriving DecidableEq, Repr

def ChangeSource.modelDump (s : ChangeSource) : Json :=
  .obj [("type", .str s.type), ("external_id", .str s.externalId), ("url", .str s.url)]

structure ChangeSubject where
  systemId : String
  resourceType : String
  resourceId : String
deriving DecidableEq, Repr

structure ChangeDetails where
  summary : String
  oldVersion : String
  newVersion : String
  artifactRefs : List String
deriving DecidableEq, Repr

structure ChangeEvent where
  schemaVersion : String
  eventId : String
  tenantId : String
  eventType : String
  source : ChangeSource
  occurredAt : Time
  receivedAt : Time
  subject : ChangeSubject
  change : ChangeDetails
  correlationId : String
  traceId : String
deriving DecidableEq, Repr

def ChangeEvent.modelDump (e : ChangeEvent) : Json :=
  .obj [("schema_version", .str e.schemaVersion), ("event_id", .str e.eventId),
    ("tenant_id", .str e.tenantId), ("event_type", .str e.eventType),
    ("source", e.source.modelDump), ("occurred_at", e.occurredAt.toJson),
    ("received_at", e.receivedAt.toJson),
    ("subject", .obj [("system_id", .str e.subject.systemId),
      ("resource_type", .str e.subject.resourceType),
      ("resource_id", .str e.subject.resourceId)]),
    ("change", .obj [("summary", .str e.change.summary),
      ("old_version", .str e.change.oldVersion), ("new_version", .str e.change.newVersion),
      ("artifact_refs", .strs e.change.artifactRefs)]),
    ("correlation_id", .str e.correlationId), ("trace_id", .str e.traceId)]

/-- A change. The last three fields are `validate_state_and_timestamps` and `version >= 1`. -/
structure ChangeRecord where
  changeId : String
  tenantId : String
  eventId : String
  changeType : String
  title : String
  description : String
  source : ChangeSource
  environment : ChangeEnvironment
  status : WorkflowState
  riskLevel : RiskLevel
  currentPhase : WorkflowState
  workflowExecutionId : Option String
  planVersion : Nat
  planHash : Option String
  createdAt : Time
  updatedAt : Time
  createdBy : String
  version : Nat
  phase_eq : currentPhase = status
  created_le_updated : createdAt ≤ updatedAt
  version_pos : 1 ≤ version
deriving DecidableEq, Repr

def ChangeRecord.modelDump (c : ChangeRecord) : Json :=
  .obj [("change_id", .str c.changeId), ("tenant_id", .str c.tenantId),
    ("event_id", .str c.eventId), ("change_type", .str c.changeType), ("title", .str c.title),
    ("description", .str c.description), ("source", c.source.modelDump),
    ("environment", .str c.environment.value), ("status", .str c.status.value),
    ("risk_level", .str c.riskLevel.value), ("current_phase", .str c.currentPhase.value),
    ("workflow_execution_id", .optStr c.workflowExecutionId),
    ("plan_version", .int c.planVersion), ("plan_hash", .optStr c.planHash),
    ("created_at", c.createdAt.toJson), ("updated_at", c.updatedAt.toJson),
    ("created_by", .str c.createdBy), ("version", .int c.version)]

/-! ## Plans -/

structure RemediationStep where
  stepId : String
  order : Nat
  agentId : String
  toolName : String
  resource : String
  arguments : JsonObject
  dependsOn : List String
  riskLevel : RiskLevel
  requiresApproval : Bool
  idempotencyKey : String

def RemediationStep.modelDump (s : RemediationStep) : Json :=
  .obj [("step_id", .str s.stepId), ("order", .int s.order), ("agent_id", .str s.agentId),
    ("tool_name", .str s.toolName), ("resource", .str s.resource),
    ("arguments", s.arguments.toJson), ("depends_on", .strs s.dependsOn),
    ("risk_level", .str s.riskLevel.value), ("requires_approval", .bool s.requiresApproval),
    ("idempotency_key", .str s.idempotencyKey)]

/-- The first dependency that `validate_step_graph` refuses, with its message. -/
def dependencyError (steps : List RemediationStep) : Option String :=
  steps.findSome? fun step => step.dependsOn.findSome? fun dependencyId =>
    match steps.find? fun candidate => candidate.stepId = dependencyId with
    | none => some ("unknown step dependency: " ++ dependencyId)
    | some dependency =>
        if dependency.order ≥ step.order then
          some "step dependencies must precede the dependent step"
        else none

/-- `RemediationPlan.validate_step_graph`: unique step ids, orders `1 .. n`, and
dependencies on earlier steps of the plan only. -/
def validateStepGraph (steps : List RemediationStep) : Except String Unit :=
  if ¬ (steps.map (·.stepId)).Nodup then .error "plan step_id values must be unique"
  else if ¬ (steps.map (·.order)).Nodup then .error "plan step order values must be unique"
  else if ¬ (∀ n ∈ steps.map (·.order), 1 ≤ n ∧ n ≤ steps.length) then
    .error "plan step order values must be contiguous and start at 1"
  else match dependencyError steps with
    | some message => .error message
    | none => .ok ()

/-- A remediation plan; it exists only if its step graph is valid. -/
structure RemediationPlan where
  planId : String
  tenantId : String
  changeId : String
  version : Nat
  riskLevel : RiskLevel
  summary : String
  preconditions : List String
  steps : List RemediationStep
  verificationSteps : List String
  rollbackSteps : List String
  evidenceRefs : List String
  createdAt : Time
  version_pos : 1 ≤ version
  steps_ne_nil : steps ≠ []
  graph : validateStepGraph steps = .ok ()

def RemediationPlan.modelDump (p : RemediationPlan) : Json :=
  .obj [("plan_id", .str p.planId), ("tenant_id", .str p.tenantId),
    ("change_id", .str p.changeId), ("version", .int p.version),
    ("risk_level", .str p.riskLevel.value), ("summary", .str p.summary),
    ("preconditions", .strs p.preconditions),
    ("steps", .arr (p.steps.map (·.modelDump))),
    ("verification_steps", .strs p.verificationSteps),
    ("rollback_steps", .strs p.rollbackSteps), ("evidence_refs", .strs p.evidenceRefs),
    ("created_at", p.createdAt.toJson)]

/-- Bind an approval or tool intent to the exact remediation plan document. -/
def calculatePlanHash [Sha256] (plan : RemediationPlan) : String := sha256Digest plan.modelDump

namespace RemediationPlan

theorem nodup_stepIds (plan : RemediationPlan) : (plan.steps.map (·.stepId)).Nodup := by
  have h := plan.graph
  unfold validateStepGraph at h
  by_contra hne
  simp [hne] at h

theorem nodup_orders (plan : RemediationPlan) : (plan.steps.map (·.order)).Nodup := by
  have h := plan.graph
  unfold validateStepGraph at h
  by_contra hne
  simp [plan.nodup_stepIds, hne] at h

end RemediationPlan

/-! ## Intents, decisions, approvals and audit events -/

structure ToolIntent where
  intentId : String
  tenantId : String
  changeId : String
  workflowExecutionId : String
  planId : String
  planHash : String
  stepId : String
  agentIdentity : String
  toolName : String
  action : String
  resource : String
  arguments : JsonObject
  reason : String
  evidenceRefs : List String
  idempotencyKey : String
  requestedAt : Time

structure PolicyDecision where
  decisionId : String
  tenantId : String
  intentId : String
  effect : PolicyEffect
  computedRisk : RiskLevel
  approvalRequired : Bool
  approvalValid : Bool
  matchedPolicyIds : List String
  reasons : List String
  evaluatedAt : Time
deriving DecidableEq, Repr

def PolicyDecision.modelDump (d : PolicyDecision) : Json :=
  .obj [("decision_id", .str d.decisionId), ("tenant_id", .str d.tenantId),
    ("intent_id", .str d.intentId), ("effect", .str d.effect.value),
    ("computed_risk", .str d.computedRisk.value),
    ("approval_required", .bool d.approvalRequired), ("approval_valid", .bool d.approvalValid),
    ("matched_policy_ids", .strs d.matchedPolicyIds), ("reasons", .strs d.reasons),
    ("evaluated_at", d.evaluatedAt.toJson)]

/-- The roles that may decide an approval. -/
def holdsApproverRole (roles : List UserRole) : Bool :=
  roles.contains .APPROVER || roles.contains .PLATFORM_ADMIN

/-- A granted approval; the last fields are `validate_expiration`. -/
structure Approval where
  approvalId : String
  tenantId : String
  changeId : String
  planId : String
  planHash : String
  planVersion : Nat
  environment : ChangeEnvironment
  decision : ApprovalDecision
  scope : List String
  approvedBy : String
  approvedByRoles : List UserRole
  approvedAt : Time
  expiresAt : Time
  comment : String
  approved_lt_expires : approvedAt < expiresAt
  nodup_roles : approvedByRoles.Nodup
  approver_role : holdsApproverRole approvedByRoles = true
deriving DecidableEq

structure AuditEvent where
  auditEventId : String
  tenantId : String
  changeId : String
  traceId : String
  eventType : String
  actorType : ActorType
  actorId : String
  resource : String
  action : String
  decisionId : Option String
  inputHash : String
  outputHash : String
  status : AuditStatus
  redactedSummary : String
  createdAt : Time
deriving DecidableEq, Repr

/-! ## Derived identifiers -/

section Derived

variable [Sha256]

/-- The first 24 hexadecimal digits of a digest. -/
def shortDigest (document : Json) : String :=
  String.ofList (((sha256Digest document).toList.drop 7).take 24)

/-- The stable change identifier for an at-least-once source event. -/
def deriveChangeId (event : ChangeEvent) : String :=
  "chg_" ++ shortDigest (.obj [("event_id", .str event.eventId),
    ("source", .str event.source.type), ("tenant_id", .str event.tenantId)])

/-- The stable workflow identifier for an at-least-once source event. -/
def deriveWorkflowId (event : ChangeEvent) : String :=
  "wf_" ++ shortDigest (.obj [("correlation_id", .str event.correlationId),
    ("event_id", .str event.eventId), ("tenant_id", .str event.tenantId)])

end Derived

end ChangeOps
