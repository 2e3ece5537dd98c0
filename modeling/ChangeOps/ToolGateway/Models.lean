import ChangeOps.Workflow.Models

/-!
# ChangeOps.ToolGateway — the records of the tool gateway

The approval requests and tool executions of `changeops_tool_gateway/models.py` and the errors
of `errors.py`. A record exists only if its `after` validator accepts it. Texts that enter a
record from outside are checked where they enter; a text that has been checked passes the check
again unchanged, so the other fields of a record are not checked again.
-/

namespace ChangeOps

/-! ## Errors -/

/-- A `GatewayError`. -/
structure GatewayError where
  code : String
  title : String
  detail : String
  statusCode : Nat
deriving DecidableEq, Repr

def authorizationError (detail : String) : GatewayError :=
  ⟨"AUTHORIZATION_DENIED", "Authorization denied", detail, 403⟩

def approvalRequiredError : GatewayError :=
  ⟨"APPROVAL_REQUIRED", "Approval required",
    "The requested tool action requires a current approval for the exact plan.", 409⟩

def gatewayNotFoundError (resource : String) : GatewayError :=
  ⟨"NOT_FOUND", "Resource not found", "The requested " ++ resource ++ " was not found.", 404⟩

/-- `GatewayConflictError(detail, code=code)`. -/
def conflictError (detail code : String) : GatewayError := ⟨code, "Conflict", detail, 409⟩

/-- `GatewayConflictError(detail)`. -/
def gatewayConflictError (detail : String) : GatewayError := conflictError detail "CONFLICT"

/-- What the gateway's code raises: a problem of its own, the failure of a tool adapter, or
another Python exception. -/
inductive GatewayExn where
  | gateway (error : GatewayError)
  | adapter (code detail : String) (transient : Bool)
  | raised (error : Exn)
deriving DecidableEq, Repr

/-! ## Approval requests -/

inductive ApprovalRequestStatus where
  | PENDING | APPROVED | REJECTED | CHANGES_REQUESTED
deriving DecidableEq, Repr

structure ApprovalRequestFields where
  approvalId : String
  tenantId : String
  changeId : String
  planId : String
  planHash : String
  planVersion : Nat
  environment : ChangeEnvironment
  scope : List String
  status : ApprovalRequestStatus
  requestedBy : String
  requestedAt : Time
  expiresAt : Time
  decidedBy : Option String := none
  decidedByRoles : List UserRole := []
  decidedAt : Option Time := none
  comment : Option String := none
  version : Nat
deriving DecidableEq

/-- What `validate_lifecycle` objects to, if it does. -/
def ApprovalRequestFields.lifecycleError (fields : ApprovalRequestFields) : Option String :=
  if fields.expiresAt ≤ fields.requestedAt then
    some "approval request expiration must be after creation"
  else if fields.status ≠ .PENDING ∧
      (fields.decidedBy = none ∨ fields.decidedAt = none ∨ fields.comment = none) then
    some "decided approval requests require decision metadata"
  else if fields.status = .PENDING ∧
      (fields.decidedBy ≠ none ∨ fields.decidedAt ≠ none ∨ fields.comment ≠ none) then
    some "pending approval requests cannot contain decision metadata"
  else if fields.status = .PENDING ∧ fields.decidedByRoles ≠ [] then
    some "pending approval requests cannot contain decision roles"
  else if fields.decidedAt.any (· < fields.requestedAt) then
    some "approval decision cannot precede its request"
  else none

/-- An approval request; the last field is `validate_lifecycle`. -/
structure ApprovalRequestRecord extends ApprovalRequestFields where
  decided_by_checked : nonEmptyStrOrNone decidedBy = .ok decidedBy
  comment_checked : nonEmptyStrOrNone comment = .ok comment
  lifecycle : toApprovalRequestFields.lifecycleError = none

theorem ApprovalRequestRecord.eq_of_fields {a b : ApprovalRequestRecord}
    (h : a.toApprovalRequestFields = b.toApprovalRequestFields) : a = b := by
  obtain ⟨fields, _, _, _⟩ := a
  obtain ⟨fields', _, _, _⟩ := b
  cases h
  rfl

/-- `ApprovalRequestRecord.model_validate`. -/
def ApprovalRequestFields.modelValidate (document : ApprovalRequestFields) :
    Except Exn ApprovalRequestRecord :=
  match hby : nonEmptyStrOrNone document.decidedBy with
  | .error e => .error e
  | .ok decidedBy =>
    match hcomment : nonEmptyStrOrNone document.comment with
    | .error e => .error e
    | .ok comment =>
      let fields := { document with decidedBy := decidedBy, comment := comment }
      match hlife : fields.lifecycleError with
      | some message => .error (.validationError message)
      | none =>
        .ok { fields with
          decided_by_checked := (nonEmptyStrOrNone_of_ok hby).2
          comment_checked := (nonEmptyStrOrNone_of_ok hcomment).2
          lifecycle := hlife }

/-- A document is accepted exactly when its texts and its lifecycle are; the record has its
fields, with the texts stripped. -/
theorem ApprovalRequestFields.modelValidate_eq_ok {document : ApprovalRequestFields}
    {record : ApprovalRequestRecord} :
    document.modelValidate = .ok record ↔
      ∃ decidedBy comment, nonEmptyStrOrNone document.decidedBy = .ok decidedBy ∧
        nonEmptyStrOrNone document.comment = .ok comment ∧
        record.toApprovalRequestFields =
          { document with decidedBy := decidedBy, comment := comment } := by
  unfold modelValidate
  constructor
  · intro h
    split at h
    · cases h
    next decidedBy hby =>
      split at h
      · cases h
      next comment hcomment =>
        dsimp only at h
        split at h
        · cases h
        next hlife =>
          cases h
          exact ⟨decidedBy, comment, hby, hcomment, rfl⟩
  · rintro ⟨decidedBy, comment, hby, hcomment, heq⟩
    split
    next e herror =>
      rw [hby] at herror
      cases herror
    next decidedBy' hby' =>
      rw [hby] at hby'
      cases hby'
      split
      next e herror =>
        rw [hcomment] at herror
        cases herror
      next comment' hcomment' =>
        rw [hcomment] at hcomment'
        cases hcomment'
        dsimp only
        split
        next message hmessage =>
          have hnone := record.lifecycle
          rw [heq, hmessage] at hnone
          cases hnone
        next hlife => exact congrArg Except.ok (ApprovalRequestRecord.eq_of_fields heq.symm)

/-- The body of `create_approval`; the last fields are `validate_scope`. -/
structure ApprovalCreateRequest where
  approvalId : String
  plan : RemediationPlan
  environment : ChangeEnvironment
  scope : List String
  expiresAt : Time
  scope_ne_nil : scope ≠ []
  scope_subset : scope ⊆ plan.steps.map (·.stepId)
  scope_nodup : scope.Nodup

/-- The record that `create_approval` makes of a request. -/
def ApprovalCreateRequest.record [Sha256] (body : ApprovalCreateRequest) (requestedBy : String)
    (createdAt : Time) (hexpires : createdAt < body.expiresAt) : ApprovalRequestRecord where
  approvalId := body.approvalId
  tenantId := body.plan.tenantId
  changeId := body.plan.changeId
  planId := body.plan.planId
  planHash := calculatePlanHash body.plan
  planVersion := body.plan.version
  environment := body.environment
  scope := body.scope
  status := .PENDING
  requestedBy := requestedBy
  requestedAt := createdAt
  expiresAt := body.expiresAt
  version := 1
  decided_by_checked := nonEmptyStrOrNone_none
  comment_checked := nonEmptyStrOrNone_none
  lifecycle := by simp [ApprovalRequestFields.lifecycleError, hexpires]

/-- `as_approval`: the approval of an approved request, validated as an `Approval`. -/
def ApprovalRequestRecord.asApproval (record : ApprovalRequestRecord) :
    Except GatewayExn (Option Approval) :=
  if record.status ≠ .APPROVED then .ok none
  else match record.decidedBy, record.decidedAt, record.comment with
    | some decidedBy, some decidedAt, some comment =>
        if record.decidedByRoles = [] then
          .error (.raised (.validationError "Tuple should have at least 1 item after validation, not 0"))
        else if hexpires : decidedAt < record.expiresAt then
          if hnodup : record.decidedByRoles.Nodup then
            if hrole : holdsApproverRole record.decidedByRoles = true then
              .ok (some
                { approvalId := record.approvalId
                  tenantId := record.tenantId
                  changeId := record.changeId
                  planId := record.planId
                  planHash := record.planHash
                  planVersion := record.planVersion
                  environment := record.environment
                  decision := .APPROVED
                  scope := record.scope
                  approvedBy := decidedBy
                  approvedByRoles := record.decidedByRoles
                  approvedAt := decidedAt
                  expiresAt := record.expiresAt
                  comment := comment
                  approved_lt_expires := hexpires
                  nodup_roles := hnodup
                  approver_role := hrole })
            else .error (.raised (.validationError
              "approval requires an APPROVER or PLATFORM_ADMIN role"))
          else .error (.raised (.validationError "approved_by_roles values must be unique"))
        else .error (.raised (.validationError
          "approval expiration must be after the decision time"))
    | _, _, _ => .error (.raised
        (.other "approved request is missing validated decision metadata"))

/-! ## Tool executions -/

inductive ToolExecutionStatus where
  | RESERVED | SUCCEEDED | FAILED
deriving DecidableEq, Repr

/-- The pattern of `Sha256Digest`: `sha256:` and 64 lower-case hexadecimal digits. -/
def isSha256Digest (text : String) : Bool :=
  text.toList.take 7 == "sha256:".toList && (text.toList.drop 7).length == 64 &&
    (text.toList.drop 7).all fun c => ('0' ≤ c && c ≤ '9') || ('a' ≤ c && c ≤ 'f')

/-- `Sha256Digest`. -/
def digestStr (text : String) : Except Exn String :=
  if isSha256Digest (stripWhitespace text) then .ok (stripWhitespace text)
  else .error (.validationError "String should match pattern '^sha256:[0-9a-f]\x7b64\x7d$'")

/-- A tool execution; the last fields are `validate_status_fields`. -/
structure ToolExecutionRecord where
  executionId : String
  tenantId : String
  changeId : String
  intentId : String
  idempotencyKey : String
  inputHash : String
  approvalId : Option String
  decisionId : String
  status : ToolExecutionStatus
  attemptCount : Nat
  output : Option JsonObject
  outputHash : Option String
  errorCode : Option String
  createdAt : Time
  updatedAt : Time
  attempt_pos : 1 ≤ attemptCount
  succeeded : status = .SUCCEEDED → output.isSome ∧ outputHash.isSome ∧ errorCode = none
  failed : status = .FAILED → errorCode.isSome
  reserved : status = .RESERVED → output = none ∧ outputHash = none ∧ errorCode = none

structure ExecutionReservation where
  record : ToolExecutionRecord
  replayed : Bool

/-- The first reservation of an action. -/
def newExecution (executionId inputHash : String) (intent : ToolIntent) (decisionId : String)
    (approvalId : Option String) (now : Time) : ToolExecutionRecord where
  executionId := executionId
  tenantId := intent.tenantId
  changeId := intent.changeId
  intentId := intent.intentId
  idempotencyKey := intent.idempotencyKey
  inputHash := inputHash
  approvalId := approvalId
  decisionId := decisionId
  status := .RESERVED
  attemptCount := 1
  output := none
  outputHash := none
  errorCode := none
  createdAt := now
  updatedAt := now
  attempt_pos := one_le_one
  succeeded h := by cases h
  failed h := by cases h
  reserved _ := ⟨rfl, rfl, rfl⟩

namespace ToolExecutionRecord

/-- The record of a further attempt. -/
def attemptedAgain (existing : ToolExecutionRecord) (intent : ToolIntent) (decisionId : String)
    (approvalId : Option String) (now : Time) : ToolExecutionRecord :=
  { existing with
    intentId := intent.intentId
    decisionId := decisionId
    approvalId := approvalId
    status := .RESERVED
    attemptCount := existing.attemptCount + 1
    output := none
    outputHash := none
    errorCode := none
    updatedAt := now
    attempt_pos := Nat.le_add_left 1 existing.attemptCount
    succeeded := fun h => by cases h
    failed := fun h => by cases h
    reserved := fun _ => ⟨rfl, rfl, rfl⟩ }

/-- The record of a completed attempt. -/
def completedWith (current : ToolExecutionRecord) (hreserved : current.status = .RESERVED)
    (output : JsonObject) (outputHash : String) (completedAt : Time) : ToolExecutionRecord :=
  { current with
    status := .SUCCEEDED
    output := some output
    outputHash := some outputHash
    updatedAt := completedAt
    succeeded := fun _ => ⟨rfl, rfl, (current.reserved hreserved).2.2⟩
    failed := fun h => by cases h
    reserved := fun h => by cases h }

/-- The record of a failed attempt. -/
def failedWith (current : ToolExecutionRecord) (errorCode : String) (failedAt : Time) :
    ToolExecutionRecord :=
  { current with
    status := .FAILED
    errorCode := some errorCode
    updatedAt := failedAt
    succeeded := fun h => by cases h
    failed := fun _ => rfl
    reserved := fun h => by cases h }

end ToolExecutionRecord

end ChangeOps
