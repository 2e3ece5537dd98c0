import ChangeOps.ToolGateway.World

/-!
# ChangeOps.ToolGateway — the execution of a tool intent

`evaluate_and_execute` (`changeops_tool_gateway/app.py`) with the quota manager (`quota.py`) and
the HTTP executor (`executor.py`), as a resumable program.
-/

namespace ChangeOps

/-! ## Arguments and results of the tools -/

/-- The pattern of a field name: a letter or `_`, then at most 63 letters, digits and `_`. -/
def isFieldName (text : String) : Bool :=
  match text.toList with
  | [] => false
  | first :: rest =>
      isNameStart first && rest.length ≤ 63 && rest.all fun c => isNameStart c || isAsciiDigit c
where
  isNameStart (c : Char) : Bool :=
    ('A' ≤ c && c ≤ 'Z') || ('a' ≤ c && c ≤ 'z') || c = '_'
  isAsciiDigit (c : Char) : Bool := '0' ≤ c && c ≤ '9'

structure FieldPatchArguments where
  oldField : String
  newField : String
  old_ne_new : oldField ≠ newField

/-- A field of `FieldPatchArguments`. -/
def fieldName? : Option Json → Option String
  | some (.str text) =>
      if isFieldName (stripWhitespace text) then some (stripWhitespace text) else none
  | _ => none

/-- `FieldPatchArguments.model_validate`: the two fields, no others, and they differ. -/
def FieldPatchArguments.modelValidate? (arguments : JsonObject) : Option FieldPatchArguments :=
  if arguments.fields.all fun field => field.1 = "old_field" || field.1 = "new_field" then
    match fieldName? (arguments.get? "old_field"), fieldName? (arguments.get? "new_field") with
    | some oldField, some newField =>
        if hne : oldField ≠ newField then some ⟨oldField, newField, hne⟩ else none
    | _, _ => none
  else none

/-! ## The executor -/

/-- `HttpToolExecutor._SERVICE_BY_TOOL`. -/
def serviceByTool : List (String × String) :=
  [("crm.update_field_mapping", "crm"), ("analytics.update_field_mapping", "analytics"),
    ("support.update_lookup_field", "support")]

/-- `validate_arguments`. -/
def validateArguments (intent : ToolIntent) : Except GatewayError FieldPatchArguments :=
  if (serviceByTool.lookup intent.toolName).isNone then
    .error (gatewayValidationError "No argument schema is registered for this tool.")
  else match FieldPatchArguments.modelValidate? intent.arguments with
    | none =>
        .error (gatewayValidationError "Tool arguments failed registered schema validation.")
    | some arguments => .ok arguments

/-- `execute`, from the answer on. -/
def patchResult (intent : ToolIntent) (arguments : FieldPatchArguments) :
    PatchAnswer → Except GatewayExn JsonObject
  | .response statusCode document =>
      if 400 ≤ statusCode then
        let transient : Bool := 500 ≤ statusCode || statusCode = 429
        .error (.adapter (if transient then "TRANSIENT" else "PERMANENT")
          "The registered sandbox tool rejected the request." transient)
      else match document with
        | none =>
            .error (.adapter "VALIDATION"
              "The registered sandbox tool returned an invalid response." false)
        | some result =>
            if result.before ≠ arguments.oldField ∨ result.after ≠ arguments.newField ∨
                result.idempotencyKey ≠ intent.idempotencyKey then
              .error (.adapter "VALIDATION"
                "The registered sandbox tool returned an out-of-scope result." false)
            else .ok result.modelDump
  | .unavailable =>
      .error (.adapter "TRANSIENT" "The registered sandbox tool is temporarily unavailable." true)
  | .failed error => .error (.raised error)

/-! ## Requests -/

/-- An authenticated request with its `X-Request-ID`. -/
structure ExecutionRequest where
  identity : VerifiedIdentity
  intent : ToolIntent
  approvalId : Option String
  requestId : String

/-- `GatewayExecutionResult`, in full. -/
structure ToolExecutionResult where
  executionId : String
  decision : PolicyDecision
  output : JsonObject
  outputHash : String
  replayed : Bool

/-! ## Actions -/

/-- `ToolQuotaManager.acquire`, up to the `yield`. -/
def acquireQuota (gateway : ToolGateway) (key : String × String) : GatewayAction Unit :=
  .atomic fun w =>
    let active := w.active.getD key 0
    if gateway.maximumConcurrentPerTool ≤ active then (.error (.gateway rateLimitedError), w)
    else (.ok (), { w with active := w.active.set key (active + 1) })

/-- The `finally` of `ToolQuotaManager.acquire`. `_active` is a `defaultdict`, so an entry that is
deleted reads as zero. -/
def releaseQuota (key : String × String) : GatewayAction Unit :=
  .atomic fun w => (.ok (), { w with active := w.active.set key (w.active.getD key 0 - 1) })

/-- `async with quotas.acquire(...)`. -/
def withQuota {α : Type} (gateway : ToolGateway) (key : String × String) (body : GatewayAction α) :
    GatewayAction α :=
  (acquireQuota gateway key).bind fun _ =>
  body.andThen fun outcome =>
  (releaseQuota key).bind fun _ =>
  .ofExcept outcome

variable [Sha256]

/-- `governance.reserve_execution`; a grant is entered in the journal. -/
def reserveAction (request : Nat) (call : ReserveCall) : GatewayAction ExecutionReservation :=
  .atomic fun w =>
    let result := w.governance.reserveExecution call
    match result.1 with
    | .ok reservation =>
        (.ok reservation, { w with
          governance := result.2
          log :=
            if reservation.replayed then w.log
            else .granted request (call.intent.tenantId, reservation.record.executionId)
              reservation.record.attemptCount :: w.log
          reservations :=
            if reservation.replayed then w.reservations else (request, call.now) :: w.reservations })
    | .error error => (.error error, { w with governance := result.2 })

omit [Sha256] in
/-- `governance.complete_execution` and `governance.fail_execution`, by the request that holds the
reservation `held`; a success is entered in the journal. -/
def reportAction (request : Nat) (intent : ToolIntent) (held : ToolExecutionRecord)
    (report : ExecutionReport) : GatewayAction ToolExecutionRecord :=
  .atomic fun w =>
    let result := w.governance.reportExecution intent.tenantId intent.changeId held.executionId report
    match result.1 with
    | .ok record =>
        (.ok record, { w with
          governance := result.2
          log := .reported request (intent.tenantId, held.executionId) held.attemptCount
            record.attemptCount :: w.log })
    | .error error => (.error error, { w with governance := result.2 })

omit [Sha256] in
/-- `changes.get` for the policy; from here on the request goes by what it has read. -/
def readChangeFor (id : Nat) (tenantId changeId : String) : GatewayAction ChangeRecord :=
  .atomic fun w =>
    ((w.changes.get tenantId changeId).mapError .raised, { w with reading := id :: w.reading })

omit [Sha256] in
/-- The call of a sandbox system. -/
def callTool (id : Nat) : GatewayAction Nat :=
  .atomic fun w => (.ok w.patches, { w with
    patches := w.patches + 1
    reading := w.reading.filter (· ≠ id) })

omit [Sha256] in
/-- `executor.execute`: the call of the sandbox system, and later its answer. -/
def executeTool (gateway : ToolGateway) (id : Nat) (request : ExecutionRequest)
    (registration : ToolRegistration) (arguments : FieldPatchArguments) :
    GatewayAction JsonObject :=
  match serviceByTool.lookup registration.toolName with
  | none => .raise (.gateway (gatewayValidationError "Tool has no bounded execution adapter."))
  | some service =>
      (callTool id).bind fun call =>
      .atomic fun w =>
        (patchResult request.intent arguments (gateway.patch call
          { service := service
            tenantId := request.intent.tenantId
            requestId := request.requestId
            oldField := arguments.oldField
            newField := arguments.newField
            idempotencyKey := request.intent.idempotencyKey
            changeId := request.intent.changeId
            planHash := request.intent.planHash }), w)

/-! ## The handler -/

/-- `_semantic_input_hash`. -/
def semanticInputHash (intent : ToolIntent) : String :=
  sha256Digest (.obj
    [("tenant_id", .str intent.tenantId), ("change_id", .str intent.changeId),
      ("workflow_execution_id", .str intent.workflowExecutionId), ("plan_id", .str intent.planId),
      ("plan_hash", .str intent.planHash), ("step_id", .str intent.stepId),
      ("agent_identity", .str intent.agentIdentity), ("tool_name", .str intent.toolName),
      ("action", .str intent.action), ("resource", .str intent.resource),
      ("arguments", intent.arguments.toJson), ("idempotency_key", .str intent.idempotencyKey)])

/-- `_tool_audit` and `governance.record_audit`. -/
def auditTool (gateway : ToolGateway) (request : ExecutionRequest) (eventType : String)
    (decision : PolicyDecision) (output : Json) (status : AuditStatus) (summary : String)
    (now : Time) : GatewayAction Unit :=
  (gatewayUuid gateway).bind fun hex =>
  auditAction
    { auditEventId := "audit_" ++ hex
      tenantId := request.intent.tenantId
      changeId := request.intent.changeId
      traceId := request.intent.workflowExecutionId
      eventType := eventType
      actorType := request.identity.kind.actorType
      actorId := request.identity.subject
      resource := request.intent.resource
      action := request.intent.action
      decisionId := some decision.decisionId
      inputHash := semanticInputHash request.intent
      outputHash := sha256Digest output
      status := status
      redactedSummary := summary
      createdAt := now }

/-- A decision that is made before the policy is asked: it is audited, and the request refused. -/
def refuse (gateway : ToolGateway) (request : ExecutionRequest) (eventType summary : String)
    (error : GatewayError) (decision : String → Time → PolicyDecision) :
    GatewayAction ToolExecutionResult :=
  (gatewayUuid gateway).bind fun hex =>
  (gatewayNow gateway).bind fun evaluatedAt =>
  let decision := decision ("decision_" ++ hex) evaluatedAt
  (auditTool gateway request eventType decision decision.modelDump .REJECTED summary
    evaluatedAt).bind fun _ =>
  .raise (.gateway error)

omit [Sha256] in
/-- The decision about a tool that is not registered. -/
def unregisteredDecision (intent : ToolIntent) (decisionId : String) (evaluatedAt : Time) :
    PolicyDecision where
  decisionId := decisionId
  tenantId := intent.tenantId
  intentId := intent.intentId
  effect := .DENY
  computedRisk := .UNKNOWN
  approvalRequired := false
  approvalValid := false
  matchedPolicyIds := []
  reasons := ["Tool is not registered."]
  evaluatedAt := evaluatedAt

omit [Sha256] in
/-- The decision about arguments that do not fit the tool's schema. -/
def blockedDecision (intent : ToolIntent) (registration : ToolRegistration) (decisionId : String)
    (evaluatedAt : Time) : PolicyDecision where
  decisionId := decisionId
  tenantId := intent.tenantId
  intentId := intent.intentId
  effect := .BLOCK_SECURITY
  computedRisk := registration.riskLevel
  approvalRequired := registration.mutating
  approvalValid := false
  matchedPolicyIds := registration.policyIds
  reasons := ["Tool arguments failed the registered schema."]
  evaluatedAt := evaluatedAt

omit [Sha256] in
/-- What is done about a decision: only an allowed action goes on. -/
def enforce {α : Type} (decision : PolicyDecision) (result : α) : GatewayAction α :=
  if decision.effect = .REQUIRE_APPROVAL then .raise (.gateway approvalRequiredError)
  else if decision.effect ≠ .ALLOW then .raise (.gateway policyDeniedError)
  else .ret result

/-- The policy decision about the change that was read, and its audit. -/
def evaluatePolicy (gateway : ToolGateway) (request : ExecutionRequest)
    (registration : ToolRegistration) (change : ChangeRecord) :
    GatewayAction (PolicyDecision × Option Approval) :=
  let intent := request.intent
  (readGovernance (·.getPlan request.identity.tenantId intent.changeId intent.planId)).bind fun plan =>
  (match request.approvalId with
    | none => .ret none
    | some approvalId =>
        (readGovernance (·.getApprovalRequest request.identity.tenantId approvalId)).bind fun record =>
        .ofExcept record.asApproval : GatewayAction (Option Approval)).bind fun approval =>
  (gatewayNow gateway).bind fun evaluatedAt =>
  (gatewayUuid gateway).bind fun hex =>
  let decision := PolicyInput.evaluate
    { identity := request.identity
      intent := intent
      change := change
      plan := plan
      tool := registration
      approval := approval } ("decision_" ++ hex) evaluatedAt
  let allowed : Bool := decision.effect = .ALLOW
  (auditTool gateway request (if allowed then "TOOL_POLICY_ALLOWED" else "TOOL_POLICY_DENIED")
    decision decision.modelDump (if allowed then .SUCCESS else .REJECTED)
    (if allowed then "Deterministic tool policy allowed the exact-plan action."
      else "Deterministic tool policy denied the action.") evaluatedAt).bind fun _ =>
  enforce decision (decision, approval)

/-- A stored result is returned again. -/
def replay (gateway : ToolGateway) (request : ExecutionRequest) (decision : PolicyDecision)
    (record : ToolExecutionRecord) : GatewayAction ToolExecutionResult :=
  match record.status, record.output, record.outputHash with
  | .SUCCEEDED, some output, some outputHash =>
      (gatewayNow gateway).bind fun now =>
      (auditTool gateway request "TOOL_EXECUTION_REPLAYED" decision output.toJson .SUCCESS
        "Existing idempotent tool result returned without another mutation." now).bind fun _ =>
      .ret ⟨record.executionId, decision, output, outputHash, true⟩
  | _, _, _ => .raise (.raised (.other
      "replayed execution is missing its validated successful result"))

/-- How the block under the quota ends, if it does not raise: with a stored result, with the
output of the tool, or with the failure of the tool's adapter. -/
inductive QuotaOutcome where
  | replayed (result : ToolExecutionResult)
  | executed (held : ToolExecutionRecord) (output : JsonObject)
  | adapterFailed (held : ToolExecutionRecord) (code detail : String) (transient : Bool)

/-- The block under the quota. Only the executor raises a `ToolAdapterError`, so there is a
reservation whenever the handler of that exception runs. -/
def reserveAndExecute (gateway : ToolGateway) (id : Nat) (request : ExecutionRequest)
    (registration : ToolRegistration) (arguments : FieldPatchArguments) (decision : PolicyDecision)
    (approval : Option Approval) : GatewayAction QuotaOutcome :=
  (gatewayNow gateway).bind fun now =>
  (reserveAction id
    { intent := request.intent
      decision := decision
      approval := approval
      inputHash := semanticInputHash request.intent
      now := now }).bind fun reservation =>
  if reservation.replayed then
    (replay gateway request decision reservation.record).bind fun result => .ret (.replayed result)
  else
    (executeTool gateway id request registration arguments).andThen fun
      | .ok output => .ret (.executed reservation.record output)
      | .error (.adapter code detail transient) =>
          .ret (.adapterFailed reservation.record code detail transient)
      | .error error => .raise error

/-- The reports on an execution: the failure of the adapter, or the output. -/
def reportOutcome (gateway : ToolGateway) (id : Nat) (request : ExecutionRequest)
    (decision : PolicyDecision) : QuotaOutcome → GatewayAction ToolExecutionResult
  | .replayed result => .ret result
  | .adapterFailed held code detail transient =>
      (gatewayNow gateway).bind fun failedAt =>
      (reportAction id request.intent held (.failed code failedAt)).bind fun _ =>
      (auditTool gateway request "TOOL_EXECUTION_FAILED" decision
        (.obj [("error_code", .str code)]) .FAILURE "Registered sandbox tool execution failed."
        failedAt).bind fun _ =>
      .raise (.adapter code detail transient)
  | .executed held output =>
      (gatewayNow gateway).bind fun completedAt =>
      (reportAction id request.intent held
        (.completed output (sha256Digest output.toJson) completedAt)).bind fun completed =>
      (auditTool gateway request "TOOL_EXECUTION_SUCCEEDED" decision output.toJson .SUCCESS
        "Approved typed sandbox tool action completed." completed.updatedAt).bind fun _ =>
      match completed.output, completed.outputHash with
      | some output, some outputHash =>
          .ret ⟨completed.executionId, decision, output, outputHash, false⟩
      | _, _ => .raise (.raised (.other "completed execution is missing its validated result"))

/-- `evaluate_and_execute`; `id` tells requests apart. -/
def evaluateAndExecute (gateway : ToolGateway) (id : Nat) (request : ExecutionRequest) :
    GatewayAction ToolExecutionResult :=
  let intent := request.intent
  if request.identity.kind ≠ .AGENT then
    .raise (.gateway (authorizationError "Only authenticated agents may submit tool intents."))
  else if request.identity.tenantId ≠ intent.tenantId then .raise (.gateway notAuthorizedError)
  else match getTool gateway.registry intent.toolName with
    | none =>
        refuse gateway request "TOOL_INTENT_DENIED" "Unregistered tool intent denied."
          policyDeniedError (unregisteredDecision intent)
    | some registration =>
        match validateArguments intent with
        | .error error =>
            refuse gateway request "TOOL_ARGUMENTS_BLOCKED" "Out-of-schema tool arguments blocked."
              error (blockedDecision intent registration)
        | .ok arguments =>
            (readChangeFor id request.identity.tenantId intent.changeId).bind fun change =>
            (evaluatePolicy gateway request registration change).bind fun (decision, approval) =>
            (withQuota gateway (intent.tenantId, intent.toolName)
              (reserveAndExecute gateway id request registration arguments decision
                approval)).bind fun outcome =>
            reportOutcome gateway id request decision outcome

end ChangeOps
