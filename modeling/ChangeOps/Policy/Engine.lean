import ChangeOps.Contracts.Models
import ChangeOps.Lib.Dict
import ChangeOps.Lib.Fnmatch

/-!
# ChangeOps.Policy — the policy engine

The policy inputs (`changeops_policy_engine/models.py`), the closed tool registry
(`registry.py`) and `PolicyEngine.evaluate` (`engine.py`). Evaluation is a function of its
inputs, of the identifier of the decision and of the time. A registered resource pattern has
one place for the tenant; `format` pastes the tenant's text there as it is.
-/

namespace ChangeOps

/-! ## Inputs -/

inductive IdentityKind where
  | AGENT | SERVICE | USER
deriving DecidableEq, Repr

/-- An authenticated caller; the last fields are `validate_claims`. -/
structure VerifiedIdentity where
  subject : String
  tenantId : String
  kind : IdentityKind
  roles : List UserRole
  issuedAt : Time
  expiresAt : Time
  issued_lt_expires : issuedAt < expiresAt
  nodup_roles : roles.Nodup
  roles_of_user : kind = .USER ∨ roles = []

/-- A `resource_pattern`: the text before and after the place of the tenant id. -/
structure ResourcePattern where
  before : String
  after : String
deriving DecidableEq, Repr

/-- `resource_pattern.format(tenant_id=...)`. -/
def ResourcePattern.format (pattern : ResourcePattern) (tenantId : String) : String :=
  pattern.before ++ tenantId ++ pattern.after

structure ToolRegistration where
  toolName : String
  owningAgentId : String
  action : String
  resourcePattern : ResourcePattern
  riskLevel : RiskLevel
  mutating : Bool
  allowedEnvironments : List ChangeEnvironment
  policyIds : List String
deriving DecidableEq, Repr

/-! ## The default registry -/

def registration (toolName owningAgentId : String) (resourcePattern : ResourcePattern)
    (policyId : String) : ToolRegistration where
  toolName := toolName
  owningAgentId := owningAgentId
  action := "update"
  resourcePattern := resourcePattern
  riskLevel := .HIGH
  mutating := true
  allowedEnvironments := [.SANDBOX]
  policyIds := [policyId]

/-- `build_default_tool_registry()`. -/
def defaultTools : List ToolRegistration :=
  [registration "crm.update_field_mapping" "crm" ⟨"crm://tenant/", "/configuration/*"⟩
      "crm-sandbox-write-v1",
    registration "analytics.update_field_mapping" "analytics"
      ⟨"analytics://tenant/", "/configuration/*"⟩ "analytics-sandbox-write-v1",
    registration "support.update_lookup_field" "support" ⟨"support://tenant/", "/configuration/*"⟩
      "support-sandbox-write-v1"]

/-- `ToolRegistry.get`. -/
def getTool (tools : List ToolRegistration) (toolName : String) : Option ToolRegistration :=
  tools.find? fun tool => tool.toolName = toolName

/-! ## Evaluation -/

/-- `_RISK_ORDER`. -/
def RiskLevel.order : RiskLevel → Nat
  | .UNKNOWN => 0
  | .LOW => 1
  | .MEDIUM => 2
  | .HIGH => 3
  | .CRITICAL => 4

/-- `max((a, b), key=_RISK_ORDER.__getitem__)`: the first of the two unless the second is higher. -/
def RiskLevel.max (a b : RiskLevel) : RiskLevel := if a.order < b.order then b else a

/-- The arguments of `evaluate`. -/
structure PolicyInput where
  identity : VerifiedIdentity
  intent : ToolIntent
  change : ChangeRecord
  plan : RemediationPlan
  tool : ToolRegistration
  approval : Option Approval

/-- A message, if a check fails. -/
def failWhen (failed : Bool) (message : String) : List String := if failed then [message] else []

/-- The resource-scope check. -/
def resourceInScope (tool : ToolRegistration) (tenantId resource : String) : Bool :=
  Fnmatch.fnmatchcase resource (tool.resourcePattern.format tenantId)

/-- What the scope check reports. -/
def outsideScope : String := "Intent resource is outside the registered agent scope."

namespace PolicyInput

variable [Sha256]

/-- `_approval_valid`. -/
def approvalValid (input : PolicyInput) (evaluatedAt : Time) : Bool :=
  match input.approval with
  | none => false
  | some approval =>
      approval.decision = .APPROVED && approval.tenantId = input.intent.tenantId &&
        approval.changeId = input.intent.changeId &&
        (approval.planId = input.intent.planId && input.intent.planId = input.plan.planId) &&
        (approval.planHash = input.intent.planHash &&
          input.intent.planHash = calculatePlanHash input.plan) &&
        (approval.planVersion = input.plan.version && input.plan.version = input.change.planVersion) &&
        approval.environment = input.change.environment &&
        approval.scope.contains input.intent.stepId && evaluatedAt < approval.expiresAt &&
        approval.approvedAt ≤ evaluatedAt && holdsApproverRole approval.approvedByRoles &&
        approval.approvedBy != input.intent.agentIdentity

/-- The plan step that the intent names. -/
def step? (input : PolicyInput) : Option RemediationStep :=
  input.plan.steps.find? fun candidate => candidate.stepId = input.intent.stepId

def stepRisk (input : PolicyInput) : RiskLevel :=
  match input.step? with
  | none => .UNKNOWN
  | some step => step.riskLevel

def approvalRequired (input : PolicyInput) : Bool :=
  match input.step? with
  | none => input.tool.mutating
  | some step => step.requiresApproval || input.tool.mutating

def computedRisk (input : PolicyInput) : RiskLevel := input.tool.riskLevel.max input.stepRisk

/-- The checks of the caller, the change and the plan. -/
def scopeFailures (input : PolicyInput) (evaluatedAt : Time) : List String :=
  failWhen (input.identity.expiresAt ≤ evaluatedAt) "Authenticated identity is expired." ++
  failWhen (input.identity.kind ≠ .AGENT)
    "Only an authenticated agent may submit a tool intent." ++
  failWhen (input.identity.subject ≠ input.intent.agentIdentity)
    "Intent identity does not match the authenticated caller." ++
  failWhen (input.identity.tenantId ≠ input.intent.tenantId)
    "Intent tenant does not match the authenticated caller." ++
  failWhen (input.change.tenantId ≠ input.intent.tenantId ||
      input.change.changeId ≠ input.intent.changeId)
    "Intent does not match the authoritative change scope." ++
  failWhen (input.change.workflowExecutionId ≠ some input.intent.workflowExecutionId)
    "Intent does not match the active workflow execution." ++
  failWhen (input.change.status ≠ .EXECUTING) "Workflow state does not permit tool execution." ++
  failWhen (input.change.planVersion ≠ input.plan.version ||
      input.change.planHash ≠ some input.intent.planHash)
    "Intent does not match the authoritative change plan." ++
  failWhen (input.plan.tenantId ≠ input.intent.tenantId ||
      input.plan.changeId ≠ input.intent.changeId)
    "Plan does not match the intent scope." ++
  failWhen (input.plan.planId ≠ input.intent.planId ||
      calculatePlanHash input.plan ≠ input.intent.planHash)
    "Plan identifier or canonical hash does not match the intent."

/-- The checks of the selected plan step. -/
def stepFailures (input : PolicyInput) : List String :=
  match input.step? with
  | none => ["Intent step is not present in the approved plan."]
  | some step =>
      failWhen (step.agentId ≠ input.intent.agentIdentity)
        "Intent agent does not own the selected plan step." ++
      failWhen (step.toolName ≠ input.intent.toolName || step.toolName ≠ input.tool.toolName)
        "Intent tool does not match the selected plan step." ++
      failWhen (step.resource ≠ input.intent.resource)
        "Intent resource does not match the selected plan step." ++
      failWhen (!step.arguments.pyEq input.intent.arguments)
        "Intent arguments do not match the selected plan step." ++
      failWhen (step.idempotencyKey ≠ input.intent.idempotencyKey)
        "Intent idempotency key does not match the selected plan step."

/-- The checks of the registered tool. -/
def toolFailures (input : PolicyInput) : List String :=
  failWhen (input.tool.owningAgentId ≠ input.intent.agentIdentity)
    "Agent is not authorized for this registered tool." ++
  failWhen (input.tool.action ≠ input.intent.action)
    "Intent action does not match the registered tool action." ++
  failWhen (!resourceInScope input.tool input.intent.tenantId input.intent.resource) outsideScope ++
  failWhen (!input.tool.allowedEnvironments.contains input.change.environment)
    "Tool is not allowed in the authoritative change environment." ++
  failWhen (input.computedRisk = .CRITICAL) "Critical-risk mutations are disabled in this build."

/-- All failures, in the order in which the checks are made. -/
def failures (input : PolicyInput) (evaluatedAt : Time) : List String :=
  input.scopeFailures evaluatedAt ++ input.stepFailures ++ input.toolFailures ++
    failWhen (input.approvalRequired && !input.approvalValid evaluatedAt)
      "A current exact-plan approval is required for this step."

/-- The effect of an evaluation with failures. -/
def failedEffect (input : PolicyInput) (evaluatedAt : Time) : PolicyEffect :=
  if (!input.tool.allowedEnvironments.contains input.change.environment && input.tool.mutating) ||
      input.computedRisk = .CRITICAL then .BLOCK_SECURITY
  else if input.approvalRequired && !input.approvalValid evaluatedAt then .REQUIRE_APPROVAL
  else .DENY

/-- `PolicyEngine.evaluate`. -/
def evaluate (input : PolicyInput) (decisionId : String) (evaluatedAt : Time) : PolicyDecision where
  decisionId := decisionId
  tenantId := input.intent.tenantId
  intentId := input.intent.intentId
  effect := if input.failures evaluatedAt = [] then .ALLOW else input.failedEffect evaluatedAt
  computedRisk := input.computedRisk
  approvalRequired := input.approvalRequired
  approvalValid := input.approvalValid evaluatedAt
  matchedPolicyIds := input.tool.policyIds
  reasons :=
    if input.failures evaluatedAt = [] then
      ["Authenticated agent, tenant, tool, resource, workflow, and plan scope match.",
        "Exact-plan approval is current and covers the selected step."]
    else input.failures evaluatedAt
  evaluatedAt := evaluatedAt

/-- A decision is `ALLOW` exactly when no check fails. -/
theorem evaluate_allow_iff (input : PolicyInput) (decisionId : String) (evaluatedAt : Time) :
    (input.evaluate decisionId evaluatedAt).effect = .ALLOW ↔ input.failures evaluatedAt = [] := by
  unfold evaluate failedEffect
  dsimp only
  split_ifs <;> simp_all

end PolicyInput

end ChangeOps
