import ChangeOps.ToolGateway.World

/-!
# ChangeOps.ToolGateway — approval requests and decisions

`create_approval` and `decide_approval`, which `approve`, `reject` and `request_changes` call
(`changeops_tool_gateway/app.py`), as resumable programs. The answer of the coordinator to a
callback is a parameter of the gateway.
-/

namespace ChangeOps

/-- `ApprovalDecisionRequest`. -/
structure ApprovalDecisionRequest where
  expectedVersion : Nat
  comment : String

/-- A decision with its path. -/
structure DecisionRequest where
  identity : VerifiedIdentity
  approvalId : String
  target : ApprovalRequestStatus
  body : ApprovalDecisionRequest

structure CreationRequest where
  identity : VerifiedIdentity
  body : ApprovalCreateRequest

def ApprovalRequestStatus.value : ApprovalRequestStatus → String
  | .PENDING => "PENDING"
  | .APPROVED => "APPROVED"
  | .REJECTED => "REJECTED"
  | .CHANGES_REQUESTED => "CHANGES_REQUESTED"

/-- The type of the audit event of a decision. `PENDING` is the target of no route. -/
def ApprovalRequestStatus.eventType : ApprovalRequestStatus → String
  | .PENDING => ""
  | .APPROVED => "APPROVAL_GRANTED"
  | .REJECTED => "APPROVAL_REJECTED"
  | .CHANGES_REQUESTED => "APPROVAL_CHANGES_REQUESTED"

def ApprovalRequestRecord.modelDump (record : ApprovalRequestRecord) : Json :=
  .obj [("approval_id", .str record.approvalId), ("tenant_id", .str record.tenantId),
    ("change_id", .str record.changeId), ("plan_id", .str record.planId),
    ("plan_hash", .str record.planHash), ("plan_version", .int record.planVersion),
    ("environment", .str record.environment.value), ("scope", .strs record.scope),
    ("status", .str record.status.value), ("requested_by", .str record.requestedBy),
    ("requested_at", record.requestedAt.toJson), ("expires_at", record.expiresAt.toJson),
    ("decided_by", .optStr record.decidedBy),
    ("decided_by_roles", .strs (record.decidedByRoles.map UserRole.value)),
    ("decided_at", (record.decidedAt.map Time.toJson).getD .null),
    ("comment", .optStr record.comment), ("version", .int record.version)]

/-- `_require_roles`. -/
def requireRoles (identity : VerifiedIdentity) (roles : List UserRole) : Except GatewayExn Unit :=
  if identity.kind ≠ .USER ∨ ¬ identity.roles.any roles.contains then
    .error (.gateway notAuthorizedError)
  else .ok ()

/-- `governance.decide_approval`; a decision that is made or repeated is entered in the journal. -/
def decideAction (identity : VerifiedIdentity) (call : DecideCall) :
    GatewayAction ApprovalRequestRecord :=
  .atomic fun w =>
    let result := w.governance.decideApproval call
    match result.1 with
    | .ok record =>
        (.ok record, { w with
          governance := result.2
          deciders := ((call.tenantId, call.approvalId), identity) :: w.deciders })
    | .error error => (.error error, { w with governance := result.2 })

/-- `callback_notifier.notify`. -/
def notifyCallback (gateway : ToolGateway) (record : ApprovalRequestRecord) : GatewayAction Unit :=
  .atomic fun w => (gateway.notify w.callbacks record, { w with callbacks := w.callbacks + 1 })

variable [Sha256]

/-- `governance.create_approval_request`. -/
def createAction (record : ApprovalRequestRecord) (plan : RemediationPlan) :
    GatewayAction ApprovalRequestRecord :=
  .atomic fun w =>
    let result := w.governance.createApprovalRequest record plan
    (result.1, { w with governance := result.2 })

/-- `_approval_audit` and `governance.record_audit`. The approval's id is one that leaves room for the
two prefixes in the 512 characters of a text, as the ids of the coordinator do. -/
def auditApproval (gateway : ToolGateway) (identity : VerifiedIdentity)
    (record : ApprovalRequestRecord) (eventType summary : String) (now : Time) :
    GatewayAction Unit :=
  (gatewayUuid gateway).bind fun hex =>
  auditAction
    { auditEventId := "audit_" ++ hex
      tenantId := record.tenantId
      changeId := record.changeId
      traceId := "approval:" ++ record.approvalId
      eventType := eventType
      actorType := identity.kind.actorType
      actorId := identity.subject
      resource := "approvals/" ++ record.approvalId
      action := eventType.toLower
      decisionId := none
      inputHash := sha256Digest (.obj
        [("approval_id", .str record.approvalId), ("plan_hash", .str record.planHash),
          ("scope", .strs record.scope)])
      outputHash := sha256Digest record.modelDump
      status := .SUCCESS
      redactedSummary := summary
      createdAt := now }

def createApproval (gateway : ToolGateway) (request : CreationRequest) :
    GatewayAction ApprovalRequestRecord :=
  let body := request.body
  let identity := request.identity
  if identity.kind = .USER then
    .raise (.gateway (authorizationError
      "Only a workflow service or registered agent may request approval."))
  else if body.plan.tenantId ≠ identity.tenantId then .raise (.gateway notAuthorizedError)
  else
    (gatewayNow gateway).bind fun createdAt =>
    if hexpires : createdAt < body.expiresAt then
      if createdAt + Time.minutes 60 < body.expiresAt then
        .raise (.gateway (gatewayValidationError
          "Approval expiration must be within the next hour."))
      else
        (readChange identity.tenantId body.plan.changeId).bind fun change =>
        if change.status ≠ .AWAITING_APPROVAL then
          .raise (.gateway (gatewayConflictError "Change is not awaiting approval."))
        else if change.planVersion ≠ body.plan.version ∨
            change.planHash ≠ some (calculatePlanHash body.plan) ∨
            change.environment ≠ body.environment then
          .raise (.gateway (gatewayConflictError
            "Approval request does not match the authoritative change plan."))
        else
          (createAction (body.record identity.subject createdAt hexpires) body.plan).bind
            fun stored =>
          if stored.requestedAt = createdAt then
            (auditApproval gateway identity stored "APPROVAL_REQUESTED"
              "Exact-plan sandbox approval requested." createdAt).bind fun _ => .ret stored
          else .ret stored
    else .raise (.gateway (gatewayValidationError
      "Approval expiration must be within the next hour."))

/-- `decide_approval`. -/
def decideApprovalRequest (gateway : ToolGateway) (request : DecisionRequest) :
    GatewayAction ApprovalRequestRecord :=
  let identity := request.identity
  (Prog.ofExcept (requireRoles identity [.APPROVER, .PLATFORM_ADMIN]) : GatewayAction Unit).bind
    fun _ =>
  (gatewayNow gateway).bind fun timestamp =>
  (decideAction identity
    { tenantId := identity.tenantId
      approvalId := request.approvalId
      target := request.target
      expectedVersion := request.body.expectedVersion
      decidedBy := identity.subject
      decidedByRoles := identity.roles
      comment := request.body.comment
      decidedAt := timestamp }).bind fun record =>
  (auditApproval gateway identity record request.target.eventType
    ("Exact-plan sandbox approval decision: " ++ request.target.value ++ ".") timestamp).bind
      fun _ =>
  (notifyCallback gateway record).bind fun _ =>
  .ret record

end ChangeOps
