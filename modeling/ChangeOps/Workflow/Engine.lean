import ChangeOps.Workflow.Clients

/-!
# ChangeOps.Workflow — the workflow engine

`WorkflowEngine` (`changeops_workflow_coordinator/engine.py`): `process_event` takes a change
event from its first delivery to the approval pause, `resume_approval` takes the decision and
executes, verifies and, if need be, rolls back the approved plan.

The methods are translated one by one, in the order of the source, as resumable programs:
every `await` of a repository or of a service is a point where other runs may act.
`asyncio.sleep` between two attempts has no effect on any state and is left out; computing how
long to sleep may raise.
-/

namespace ChangeOps

/-- `RetryPolicy`. The lengths of its delays, positive floats, are left out. -/
structure RetryPolicy where
  maximumAttempts : Nat
  maximumAttempts_pos : 1 ≤ maximumAttempts

/-- `delay`, without the seconds: `2 ** (attempt - 1)` is multiplied by a float, and from
`2 ** 1024` on an integer does not fit one. -/
def RetryPolicy.delay (_ : RetryPolicy) (attempt : Nat) : Except Exn Unit :=
  if attempt < 1 then .error (.valueError "attempt must be positive")
  else if 1024 < attempt then .error (.other "int too large to convert to float")
  else .ok ()

/-- The collaborators of a `WorkflowEngine`. -/
structure WorkflowEngine (E : Type) where
  services : Services E
  retry : RetryPolicy
  rt : Runtime

/-- The callback is about the approval and the plan of the record. -/
structure CallbackMatches [Sha256] (callback : ApprovalCallbackRequest)
    (record : WorkflowExecutionRecord) : Prop where
  tenantId : callback.tenantId = record.tenantId
  changeId : callback.changeId = record.changeId
  approvalId : record.approvalId = some callback.approvalId
  planHash : record.planHash = some callback.planHash
  planVersion : record.plan.map (·.version) = some callback.planVersion

namespace WorkflowEngine

variable [Sha256] {E : Type} (engine : WorkflowEngine E)

abbrev Run (E α : Type) := Action (Coordinator E) α

/-! ## Records, audits and transitions -/

/-- `f"req_{uuid4().hex}"`. -/
def requestId : Run E String := do
  let hex ← uuid4Hex engine.rt
  return "req_" ++ hex

/-- The arguments of `_audit`; both documents are dictionaries or models. -/
structure AuditNote where
  eventType : String
  action : String
  inputDocument : Json
  outputDocument : Json
  status : AuditStatus
  summary : String

/-- `_audit`. The resource fits its 512 characters as long as the workflow id has at most 502; a
derived id has fewer. -/
def audit (record : WorkflowExecutionRecord) (entry : AuditNote) : Run E AuditEvent := do
  let hex ← uuid4Hex engine.rt
  let createdAt ← now engine.rt
  return {
    auditEventId := "audit_" ++ hex
    tenantId := record.tenantId
    changeId := record.changeId
    traceId := record.traceId
    eventType := entry.eventType
    actorType := .SERVICE
    actorId := "workflow-coordinator"
    resource := "workflows/" ++ record.workflowExecutionId
    action := entry.action
    decisionId := none
    inputHash := sha256Digest entry.inputDocument
    outputHash := sha256Digest entry.outputDocument
    status := entry.status
    redactedSummary := entry.summary
    createdAt := createdAt }

/-- `_record_audit`. -/
def recordAudit (record : WorkflowExecutionRecord) (entry : AuditNote) : Run E Unit := do
  let event ← engine.audit record entry
  onChanges (InMemoryChangeStateRepository.recordAudit event)

/-- `_require_plan`. -/
def requirePlan (record : WorkflowExecutionRecord) : Run E RemediationPlan :=
  match record.plan with
  | none => .raise (.workflowPermanent "PLAN_MISSING")
  | some plan => .ret plan

/-- The document of an update. -/
def revise (record : WorkflowExecutionRecord) (updates : WorkflowFields → WorkflowFields)
    (updatedAt : Time) : WorkflowFields :=
  { updates record.toWorkflowFields with updatedAt := updatedAt, version := record.version + 1 }

/-- `_update_record`. -/
def updateRecord (record : WorkflowExecutionRecord) (updates : WorkflowFields → WorkflowFields) :
    Run E WorkflowExecutionRecord := do
  let updatedAt ← now engine.rt
  let updated ← Prog.ofExcept (revise record updates updatedAt).modelValidate
  onWorkflows (InMemoryWorkflowRepository.update updated record.version)

/-- `_set_runtime_status`. -/
def setRuntimeStatus (record : WorkflowExecutionRecord) (status : WorkflowRuntimeStatus)
    (lastErrorCode : Option String) : Run E WorkflowExecutionRecord :=
  if record.status = status ∧ record.lastErrorCode = lastErrorCode then .ret record
  else engine.updateRecord record fun fields =>
    { fields with status := status, lastErrorCode := lastErrorCode }

/-- `_terminal`. -/
def terminal (record : WorkflowExecutionRecord) (status : WorkflowRuntimeStatus)
    (errorCode : Option String) : Run E WorkflowExecutionRecord :=
  if record.status = status ∧ record.completedAt.isSome then .ret record
  else do
    let completedAt ← now engine.rt
    engine.updateRecord record fun fields =>
      { fields with status := status, lastErrorCode := errorCode, completedAt := some completedAt }

/-- The call of the transition service that `_transition` makes. -/
def transitionCall (record : WorkflowExecutionRecord) (target : WorkflowState)
    (expectedVersion : Nat) (recordUpdates : RecordUpdates) : TransitionCall where
  tenantId := record.tenantId
  changeId := record.changeId
  target := target
  expectedVersion := expectedVersion
  traceId := record.traceId
  actorType := .SERVICE
  actorId := "workflow-coordinator"
  recordUpdates := recordUpdates

/-- `_transition`: the expected version is that of the change read just before. -/
def transition (record : WorkflowExecutionRecord) (target : WorkflowState)
    (recordUpdates : RecordUpdates) : Run E ChangeRecord := do
  let current ← getChange record.tenantId record.changeId
  ChangeOps.transition engine.rt (transitionCall record target current.version recordUpdates)

/-- `if change.status in sources: change = await self._transition(record, target, ...)`. -/
def transitionFrom (sources : List WorkflowState) (record : WorkflowExecutionRecord)
    (change : ChangeRecord) (target : WorkflowState) (recordUpdates : RecordUpdates) :
    Run E ChangeRecord :=
  if change.status ∈ sources then engine.transition record target recordUpdates else .ret change

/-- `_dead_letter`. -/
def deadLetter (record : WorkflowExecutionRecord) (errorCode : String) :
    Run E WorkflowExecutionRecord := do
  let finished ← engine.terminal record .DEAD_LETTERED (some errorCode)
  let createdAt ← now engine.rt
  let checkedCode ← Prog.ofExcept (nonEmptyStr errorCode)
  let _ ← onWorkflows (InMemoryWorkflowRepository.recordDeadLetter {
    deadLetterId := "dlq_" ++ record.workflowExecutionId
    tenantId := record.tenantId
    eventId := record.eventId
    workflowExecutionId := record.workflowExecutionId
    errorCode := checkedCode
    inputHash := sha256Digest record.event.modelDump
    createdAt := createdAt })
  return finished

/-! ## From an event to the approval pause -/

/-- The change that `_ensure_change` would add. -/
def receivedChange (record : WorkflowExecutionRecord) (timestamp : Time) : ChangeRecord where
  changeId := record.changeId
  tenantId := record.tenantId
  eventId := record.eventId
  changeType := record.event.eventType
  title := record.event.change.summary
  description := record.event.change.summary
  source := record.event.source
  environment := .SANDBOX
  status := .RECEIVED
  riskLevel := .UNKNOWN
  currentPhase := .RECEIVED
  workflowExecutionId := none
  planVersion := 0
  planHash := none
  createdAt := timestamp
  updatedAt := timestamp
  createdBy := "event-gateway"
  version := 1
  phase_eq := rfl
  created_le_updated := Nat.le_refl timestamp
  version_pos := one_le_one

/-- `_ensure_change`, once the change is found missing. -/
def createChange (record : WorkflowExecutionRecord) : Run E ChangeRecord := do
  let timestamp ← now engine.rt
  let change := receivedChange record timestamp
  let event ← engine.audit record {
    eventType := "CHANGE_RECEIVED"
    action := "create_change"
    inputDocument := .obj [("event_id", .str record.event.eventId)]
    outputDocument := change.modelDump
    status := .SUCCESS
    summary := "Authenticated change event accepted for durable processing." }
  (do
    onChanges (InMemoryChangeStateRepository.addWithAudit change event)
    return change).tryCatch fun
      | .changeAlreadyExists _ _ => do
          let existing ← getChange record.tenantId record.changeId
          if existing.eventId ≠ record.eventId then
            .raise (.workflowPermanent "CHANGE_ID_COLLISION")
          else return existing
      | e => .raise e

/-- `_ensure_change`. -/
def ensureChange (record : WorkflowExecutionRecord) : Run E ChangeRecord :=
  (getChange record.tenantId record.changeId).tryCatch fun
    | .changeNotFound _ _ => engine.createChange record
    | e => .raise e

/-- The record of a first delivery. -/
def receivedFields (event : ChangeEvent) (timestamp : Time) : WorkflowFields where
  workflowExecutionId := deriveWorkflowId event
  tenantId := event.tenantId
  changeId := deriveChangeId event
  eventId := event.eventId
  traceId := event.traceId
  event := event
  status := .RECEIVED
  deliveryAttempts := 1
  startedAt := timestamp
  updatedAt := timestamp
  version := 1

/-- The statuses on which a redelivered event returns the record as it is. -/
def returnsEarly : WorkflowRuntimeStatus → Bool
  | .WAITING_APPROVAL | .EXECUTING | .VERIFYING | .ROLLING_BACK | .COMPLETED | .FAILED
  | .NEEDS_ATTENTION | .DEAD_LETTERED => true
  | .RECEIVED | .ANALYZING => false

/-- The tasks of a plan that nothing has been done about. -/
def pendingTask (timestamp : Time) (step : RemediationStep) (system : SystemId) :
    WorkflowTaskRecord where
  stepId := step.stepId
  systemId := system
  status := .PENDING
  attemptCount := 0
  updatedAt := timestamp
  error_code_checked := nonEmptyStrOrNone_none
  snapshot_paired := rfl
  evidence := nofun
  failure_code := nofun

/-- The tasks of a plan; the first step with an unknown tool raises. -/
def pendingTasks (timestamp : Time) (steps : List RemediationStep) :
    Except Exn (List WorkflowTaskRecord) :=
  steps.mapM fun step => do
    let system ← systemForStep step
    return pendingTask timestamp step system

/-- `process_event` after a failed analysis. -/
def analysisFailed (record : WorkflowExecutionRecord) (event : ChangeEvent) :
    Exn → Run E WorkflowExecutionRecord
  | .dependencyCall code transient =>
      if code = "PROMPT_INJECTION_BLOCKED" then do
        engine.recordAudit record {
          eventType := "SECURITY_PROMPT_INJECTION_BLOCKED"
          action := "screen_change_content"
          inputDocument := .obj [("event_hash", .str (sha256Digest event.modelDump))]
          outputDocument := .obj [("decision", .str "blocked"), ("code", .str code)]
          status := .REJECTED
          summary := "Security screening blocked untrusted change content before " ++
            "agent or tool execution." }
        let _ ← engine.transition record .BLOCKED {}
        engine.terminal record .FAILED (some code)
      else if transient then .raise (.workflowTransient code)
      else engine.deadLetter record code
  | e => .raise e

/-- `process_event` after a successful analysis: bind the plan to the record. The result is
the record with its plan, or the dead-lettered record with which the run ends. -/
def bindPlan (record : WorkflowExecutionRecord) (analysis : FleetAnalysisResult) :
    Run E (WorkflowExecutionRecord ⊕ WorkflowExecutionRecord) := do
  let change ← getChange record.tenantId record.changeId
  let _ ← engine.transitionFrom [.SCREENING] record change .ANALYZING {}
  let plan := analysis.draftPlan
  if plan.tenantId ≠ record.tenantId ∨ plan.changeId ≠ record.changeId ∨
      analysis.draftPlanHash ≠ calculatePlanHash plan then
    let finished ← engine.deadLetter record "INVALID_FLEET_PLAN"
    return .inr finished
  else do
    let taskTimestamp ← now engine.rt
    let tasks ← Prog.ofExcept (pendingTasks taskTimestamp plan.steps)
    let issuedAt ← now engine.rt
    let bound ← engine.updateRecord record fun fields =>
      { fields with
        plan := some plan
        planHash := some (calculatePlanHash plan)
        tasks := tasks
        approvalId := some ("approval_" ++ record.workflowExecutionId)
        approvalExpiresAt := some (issuedAt + Time.minutes 30) }
    return .inl bound

/-- `process_event` from a record with a plan: lead the change to `AWAITING_APPROVAL` and
request the approval. -/
def awaitApproval (record : WorkflowExecutionRecord) : Run E WorkflowExecutionRecord := do
  let plan ← requirePlan record
  let change ← getChange record.tenantId record.changeId
  let change ← engine.transitionFrom [.SCREENING] record change .ANALYZING {}
  let change ← engine.transitionFrom [.ANALYZING] record change .PLAN_READY
    { planVersion := some plan.version
      planHash := some (some (calculatePlanHash plan))
      riskLevel := some plan.riskLevel }
  let change ← engine.transitionFrom [.PLAN_READY] record change .AWAITING_APPROVAL {}
  if change.status ≠ .AWAITING_APPROVAL then
    .raise (.workflowPermanent "CHANGE_NOT_AWAITING_APPROVAL")
  else match record.approvalId, record.approvalExpiresAt with
    | some approvalId, some expiresAt =>
        (do
          let requestId ← engine.requestId
          exchange (engine.services.createApproval approvalId plan expiresAt requestId)
            fun _ => [.approvalRequested approvalId]).andThen fun
          | .ok () => engine.setRuntimeStatus record .WAITING_APPROVAL none
          | .error (.dependencyCall code transient) =>
              if transient then .raise (.workflowTransient code)
              else engine.deadLetter record code
          | .error e => .raise e
    | _, _ => .raise (.workflowPermanent "APPROVAL_METADATA_MISSING")

/-- `process_event` from an active record on. -/
def processRecord (event : ChangeEvent) (record : WorkflowExecutionRecord) :
    Run E WorkflowExecutionRecord := do
  if event.eventType ≠ "api.contract.changed" then
    engine.deadLetter record "UNSUPPORTED_EVENT_TYPE"
  else do
    let _ ← engine.ensureChange record
    let record ← engine.setRuntimeStatus record .ANALYZING none
    let change ← getChange record.tenantId record.changeId
    let _ ← engine.transitionFrom [.RECEIVED] record change .SCREENING
      { workflowExecutionId := some (some record.workflowExecutionId) }
    match record.plan with
    | some _ => engine.awaitApproval record
    | none =>
        (do
          let requestId ← engine.requestId
          exchange (engine.services.analyze record.changeId event requestId)
            fun _ => []).andThen fun
          | .error e => engine.analysisFailed record event e
          | .ok analysis => do
              match ← engine.bindPlan record analysis with
              | .inr finished => return finished
              | .inl bound => engine.awaitApproval bound

/-- The first part of `process_event`: `inr` is its early return, `inl` the record to go on
with. -/
def openWorkflow (event : ChangeEvent) (timestamp : Time) :
    Run E (WorkflowExecutionRecord ⊕ WorkflowExecutionRecord) :=
  Prog.tryCatch (do
    let record ← getWorkflow event.tenantId (deriveChangeId event) (deriveWorkflowId event)
    if returnsEarly record.status then return .inr record
    else do
      let record ← engine.updateRecord record fun fields =>
        { fields with deliveryAttempts := record.deliveryAttempts + 1 }
      return .inl record) fun
    | .workflowNotFound => do
        let record ← Prog.ofExcept (receivedFields event timestamp).modelValidate
        let record ← onWorkflows (InMemoryWorkflowRepository.createOrGet record)
        return .inl record
    | e => .raise e

/-- Create or resume one workflow for an at-least-once event delivery. -/
def processEvent (event : ChangeEvent) : Run E WorkflowExecutionRecord := do
  let timestamp ← now engine.rt
  match ← engine.openWorkflow event timestamp with
  | .inr record => return record
  | .inl record => engine.processRecord event record

/-! ## Execution -/

/-- `by_step`, the tasks of a record by step id. -/
def byStep (tasks : List WorkflowTaskRecord) : Dict String WorkflowTaskRecord :=
  tasks.foldl (fun d task => d.set task.stepId task) .empty

/-- `tuple(by_step[task.step_id] for task in record.tasks)`. -/
def mergeTasks (tasks : List WorkflowTaskRecord) (byStep : Dict String WorkflowTaskRecord) :
    List WorkflowTaskRecord :=
  tasks.map fun task => byStep.getD task.stepId task

/-- `steps[step_id]`. -/
def stepById (plan : RemediationPlan) (stepId : String) : Run E RemediationStep :=
  match plan.steps.find? fun step => step.stepId = stepId with
  | some step => .ret step
  | none => .raise (.other ("KeyError: " ++ stepId))

/-- One sandbox snapshot. -/
def captureSnapshot (record : WorkflowExecutionRecord) (task : WorkflowTaskRecord) :
    Run E SnapshotRecord := do
  let requestId ← engine.requestId
  exchange (engine.services.snapshot task.systemId record.tenantId requestId) fun
    | .ok snapshot => [.snapshotCaptured record.key task.stepId
        snapshot.snapshotId snapshot.configurationHash]
    | .error _ => []

/-- The body of the loop over the captured snapshots. -/
def storeSnapshot (record : WorkflowExecutionRecord) (tasks : Dict String WorkflowTaskRecord)
    (captured : WorkflowTaskRecord × Except Exn SnapshotRecord) :
    Run E (Dict String WorkflowTaskRecord) :=
  match captured with
  | (_, .error (.dependencyCall code true)) => .raise (.workflowTransient code)
  | (_, .error _) => .raise (.workflowPermanent "SNAPSHOT_CAPTURE_FAILED")
  | (task, .ok snapshot) => do
      let updatedAt ← now engine.rt
      let updated ← Prog.ofExcept (TaskFields.modelValidate
        { task.toTaskFields with
          snapshotId := some snapshot.snapshotId
          snapshotHash := some snapshot.configurationHash
          updatedAt := updatedAt })
      engine.recordAudit record {
        eventType := "WORKFLOW_SNAPSHOT_CAPTURED"
        action := "capture_snapshot"
        inputDocument := .obj [("step_id", .str task.stepId),
          ("system_id", .str task.systemId.value)]
        outputDocument := .obj [("snapshot_id", .str snapshot.snapshotId),
          ("snapshot_hash", .str snapshot.configurationHash)]
        status := .SUCCESS
        summary := "Pre-write " ++ task.systemId.value ++ " snapshot captured and hashed." }
      return tasks.set task.stepId updated

/-- `_capture_snapshots`. -/
def captureSnapshots (record : WorkflowExecutionRecord) : Run E WorkflowExecutionRecord := do
  let missing := record.tasks.filter fun task => task.snapshotId.isNone
  if missing = [] then return record
  else do
    let snapshots ← Prog.gather (missing.map (engine.captureSnapshot record))
    let tasks ← Prog.foldlP (engine.storeSnapshot record) (byStep record.tasks)
      (missing.zip snapshots)
    engine.updateRecord record fun fields =>
      { fields with tasks := mergeTasks record.tasks tasks }

/-- One attempt of `_execute_task`: the body of the `try`. -/
def attemptTask (record : WorkflowExecutionRecord) (plan : RemediationPlan)
    (approvalId : String) (task : WorkflowTaskRecord) (step : RemediationStep) (attempt : Nat) :
    Run E WorkflowTaskRecord := do
  let requestedAt ← now engine.rt
  let requestId ← engine.requestId
  note (.executeCalled record.key step.stepId)
  let intent ← Prog.ofExcept
    (toolIntent record.workflowExecutionId plan step requestedAt).modelValidate
  let result ← remotely (engine.services.execute intent approvalId requestId)
  engine.recordAudit record {
    eventType := "WORKFLOW_STEP_SUCCEEDED"
    action := "execute_plan_step"
    inputDocument := .obj [("attempt", .int attempt), ("step_id", .str step.stepId)]
    outputDocument := .obj [("execution_id", .str result.executionId),
      ("output_hash", .str result.outputHash), ("replayed", .bool result.replayed)]
    status := .SUCCESS
    summary := "Approved " ++ task.systemId.value ++ " workflow step completed." }
  let updatedAt ← now engine.rt
  Prog.ofExcept (TaskFields.modelValidate
    { task.toTaskFields with
      status := .SUCCEEDED
      attemptCount := attempt
      executionId := some result.executionId
      outputHash := some result.outputHash
      errorCode := none
      updatedAt := updatedAt })

/-- The audit event of a retry. -/
def scheduleRetry (record : WorkflowExecutionRecord) (task : WorkflowTaskRecord)
    (step : RemediationStep) (attempt : Nat) (code : String) : Run E Unit :=
  engine.recordAudit record {
    eventType := "WORKFLOW_STEP_RETRY_SCHEDULED"
    action := "retry_plan_step"
    inputDocument := .obj [("attempt", .int attempt), ("error_code", .str code),
      ("step_id", .str step.stepId)]
    outputDocument := .obj [("next_attempt", .int (attempt + 1))]
    status := .FAILURE
    summary := "Transient " ++ task.systemId.value ++ " failure scheduled for bounded retry." }

/-- The task whose attempts are exhausted. -/
def failTask (record : WorkflowExecutionRecord) (task : WorkflowTaskRecord)
    (step : RemediationStep) (attempt : Nat) (code : String) : Run E WorkflowTaskRecord := do
  engine.recordAudit record {
    eventType := "WORKFLOW_STEP_FAILED"
    action := "execute_plan_step"
    inputDocument := .obj [("attempt", .int attempt), ("step_id", .str step.stepId)]
    outputDocument := .obj [("error_code", .str code)]
    status := .FAILURE
    summary := task.systemId.value ++ " workflow step exhausted its allowed attempts." }
  let updatedAt ← now engine.rt
  Prog.ofExcept (TaskFields.modelValidate
    { task.toTaskFields with
      status := .FAILED
      attemptCount := attempt
      errorCode := some code
      updatedAt := updatedAt })

/-- `_execute_task` from the next attempt on. `retries` is the number of attempts that the
policy still allows after this one: `should_retry` is `transient` and `retries ≠ 0`. -/
def executeAttempts (record : WorkflowExecutionRecord) (plan : RemediationPlan)
    (approvalId : String) (task : WorkflowTaskRecord) (step : RemediationStep) :
    (retries attempt : Nat) → Run E WorkflowTaskRecord
  | 0, attempt =>
      (engine.attemptTask record plan approvalId task step attempt).tryCatch fun
        | .dependencyCall code _ => engine.failTask record task step attempt code
        | e => .raise e
  | retries + 1, attempt =>
      (engine.attemptTask record plan approvalId task step attempt).tryCatch fun
        | .dependencyCall code true => do
            note (.transientAnswer record.key step.stepId)
            engine.scheduleRetry record task step attempt code
            Prog.ofExcept (engine.retry.delay attempt)
            executeAttempts record plan approvalId task step retries (attempt + 1)
        | .dependencyCall code false => engine.failTask record task step attempt code
        | e => .raise e

/-- `_execute_task`. -/
def executeTask (record : WorkflowExecutionRecord) (task : WorkflowTaskRecord)
    (step : RemediationStep) : Run E WorkflowTaskRecord := do
  let plan ← requirePlan record
  match record.approvalId with
  | none => .raise (.workflowPermanent "APPROVAL_ID_MISSING")
  | some approvalId =>
      engine.executeAttempts record plan approvalId task step
        (engine.retry.maximumAttempts - (task.attemptCount + 1)) (task.attemptCount + 1)

/-- The tasks of a dictionary with a status, in its order. -/
def withStatus (tasks : Dict String WorkflowTaskRecord) (status : WorkflowTaskStatus) :
    List WorkflowTaskRecord :=
  (tasks.entries.map Prod.snd).filter fun task => task.status = status

/-- The pending tasks all of whose dependencies have succeeded. -/
def readyTasks (plan : RemediationPlan) (tasks : Dict String WorkflowTaskRecord) :
    List WorkflowTaskRecord :=
  let succeeded := (withStatus tasks .SUCCEEDED).map (·.stepId)
  (withStatus tasks .PENDING).filter fun task =>
    match plan.steps.find? fun step => step.stepId = task.stepId with
    | some step => step.dependsOn.all fun dependency => succeeded.contains dependency
    | none => false

/-- The error code of the first failed task of a wave. -/
def firstFailure (results : List WorkflowTaskRecord) : Option String :=
  (results.find? fun task => task.status = .FAILED).bind (·.errorCode)

/-- One round of the loop of `_execute_dag`; `next` is the next round. -/
def executeWave (plan : RemediationPlan)
    (next : WorkflowExecutionRecord → Dict String WorkflowTaskRecord →
      Run E WorkflowExecutionRecord)
    (record : WorkflowExecutionRecord) (tasks : Dict String WorkflowTaskRecord) :
    Run E WorkflowExecutionRecord :=
  if withStatus tasks .PENDING = [] then .ret record
  else
    let ready := readyTasks plan tasks
    if ready = [] then .raise (.workflowPermanent "DAG_PROGRESS_BLOCKED")
    else do
      let results ← Prog.gatherAll (ready.map fun task => do
        let step ← stepById plan task.stepId
        engine.executeTask record task step)
      let tasks := results.foldl (fun d task => d.set task.stepId task) tasks
      let record ← engine.updateRecord record fun fields =>
        { fields with
          tasks := mergeTasks record.tasks tasks
          lastErrorCode := firstFailure results }
      if results.any fun task => task.status = .FAILED then return record
      else next record tasks

/-- The loop of `_execute_dag`. Every wave decides at least one pending task, so there are
never more waves than tasks. -/
def executeWaves (plan : RemediationPlan) : (waves : Nat) → WorkflowExecutionRecord →
    Dict String WorkflowTaskRecord → Run E WorkflowExecutionRecord
  | 0 => engine.executeWave plan fun _ _ => .raise (.other "more waves than tasks")
  | waves + 1 => engine.executeWave plan (executeWaves plan waves)

/-- `_execute_dag`. -/
def executeDag (record : WorkflowExecutionRecord) : Run E WorkflowExecutionRecord := do
  let plan ← requirePlan record
  engine.executeWaves plan record.tasks.length record (byStep record.tasks)

/-! ## Verification -/

/-- One attempt of `_verify_task`: the body of the `try`. -/
def attemptVerify (record : WorkflowExecutionRecord) (task : WorkflowTaskRecord)
    (expected : String) : Run E Bool := do
  let requestId ← engine.requestId
  let result ← exchange
    (engine.services.verify task.systemId record.tenantId expected requestId) fun
      | .ok result => [.verified record.key task.stepId result.passed]
      | .error _ => []
  engine.recordAudit record {
    eventType := if result.passed then "WORKFLOW_VERIFICATION_SUCCEEDED"
      else "WORKFLOW_VERIFICATION_FAILED"
    action := "verify_system"
    inputDocument := .obj [("expected_field", .str expected),
      ("system_id", .str task.systemId.value)]
    outputDocument := result.document
    status := if result.passed then .SUCCESS else .FAILURE
    summary := "Independent " ++ task.systemId.value ++ " verification completed." }
  return result.passed

/-- `_verify_task` from the next attempt on; `retries` as in `executeAttempts`. -/
def verifyAttempts (record : WorkflowExecutionRecord) (task : WorkflowTaskRecord)
    (expected : String) : (retries attempt : Nat) → Run E Bool
  | 0, _ => engine.attemptVerify record task expected
  | retries + 1, attempt =>
      (engine.attemptVerify record task expected).tryCatch fun
        | .dependencyCall _ true => do
            Prog.ofExcept (engine.retry.delay attempt)
            verifyAttempts record task expected retries (attempt + 1)
        | e => .raise e

/-- `_verify_task`. -/
def verifyTask (record : WorkflowExecutionRecord) (plan : RemediationPlan)
    (task : WorkflowTaskRecord) : Run E Bool := do
  let step ← stepById plan task.stepId
  match step.arguments.get? "new_field" with
  | some (.str expected) =>
      engine.verifyAttempts record task expected (engine.retry.maximumAttempts - 1) 1
  | _ => .raise (.dependencyCall "VERIFICATION_ARGUMENT_MISSING" false)

/-- The first objection to the verification results, in task order. -/
def verificationError : List (WorkflowTaskRecord × Except Exn Bool) → Option String
  | [] => none
  | (_, .error (.dependencyCall code _)) :: _ => some code
  | (_, .error _) :: _ => some "VERIFY_FAILED"
  | (task, .ok false) :: _ => some (task.systemId.upper ++ "_VERIFICATION_FAILED")
  | (_, .ok true) :: rest => verificationError rest

/-- `_verify`. -/
def verify (record : WorkflowExecutionRecord) : Run E (Option String) := do
  let plan ← requirePlan record
  let results ← Prog.gather (record.tasks.map (engine.verifyTask record plan))
  return verificationError (record.tasks.zip results)

/-! ## Compensation -/

/-- `order[step_id]`; every task has a step. -/
def stepOrder (plan : RemediationPlan) (stepId : String) : Nat :=
  ((plan.steps.find? fun step => step.stepId = stepId).map (·.order)).getD 0

/-- The tasks in decreasing order of their steps. -/
def rollbackOrder (plan : RemediationPlan) (tasks : List WorkflowTaskRecord) :
    List WorkflowTaskRecord :=
  tasks.insertionSort fun a b => stepOrder plan b.stepId ≤ stepOrder plan a.stepId

/-- The task with a rollback status and an error code. -/
def settleTask (task : WorkflowTaskRecord) (status : WorkflowTaskStatus)
    (errorCode : Option String) : Run E WorkflowTaskRecord := do
  let updatedAt ← now engine.rt
  Prog.ofExcept (TaskFields.modelValidate
    { task.toTaskFields with status := status, errorCode := errorCode, updatedAt := updatedAt })

/-- Restore a snapshot and compare the configuration hash; the body of the `try`. -/
def restoreTask (record : WorkflowExecutionRecord) (task : WorkflowTaskRecord)
    (snapshotId snapshotHash : String) : Run E WorkflowTaskRecord := do
  let restoreId ← engine.requestId
  exchange (engine.services.restore task.systemId record.tenantId snapshotId restoreId)
    fun _ => [.restoreCalled record.key task.stepId]
  let configurationId ← engine.requestId
  let document ← exchange
    (engine.services.configuration task.systemId record.tenantId configurationId) fun _ => []
  let restoredHash := sha256Digest document
  if restoredHash ≠ snapshotHash then .raise (.dependencyCall "RESTORE_HASH_MISMATCH" false)
  else do
    let restored ← engine.settleTask task .ROLLED_BACK none
    engine.recordAudit record {
      eventType := "WORKFLOW_ROLLBACK_SUCCEEDED"
      action := "restore_snapshot"
      inputDocument := .obj [("snapshot_id", .str snapshotId),
        ("system_id", .str task.systemId.value)]
      outputDocument := .obj [("configuration_hash", .str restoredHash)]
      status := .SUCCESS
      summary := task.systemId.value ++ " snapshot restored and hash verified." }
    return restored

/-- One round of the compensation loop: the merged tasks, and whether a rollback failed. -/
def rollbackTask (record : WorkflowExecutionRecord)
    (state : Dict String WorkflowTaskRecord × Bool) (task : WorkflowTaskRecord) :
    Run E (Dict String WorkflowTaskRecord × Bool) :=
  match task.snapshotId, task.snapshotHash with
  | some snapshotId, some snapshotHash =>
      (do
        let restored ← engine.restoreTask record task snapshotId snapshotHash
        return (state.1.set task.stepId restored, state.2)).tryCatch fun
      | .dependencyCall code _ => do
          let failed ← engine.settleTask task .ROLLBACK_FAILED (some code)
          engine.recordAudit record {
            eventType := "WORKFLOW_ROLLBACK_FAILED"
            action := "restore_snapshot"
            inputDocument := .obj [("system_id", .str task.systemId.value)]
            outputDocument := .obj [("error_code", .str code)]
            status := .FAILURE
            summary := task.systemId.value ++ " rollback requires operator attention." }
          return (state.1.set task.stepId failed, true)
      | e => .raise e
  | _, _ => do
      let failed ← engine.settleTask task .ROLLBACK_FAILED (some "SNAPSHOT_MISSING")
      return (state.1.set task.stepId failed, true)

/-- `_rollback`. -/
def rollback (record : WorkflowExecutionRecord) (originalError : String) :
    Run E WorkflowExecutionRecord := do
  let change ← getChange record.tenantId record.changeId
  let _ ← engine.transitionFrom [.EXECUTING, .VERIFYING] record change .ROLLING_BACK {}
  let record ← engine.setRuntimeStatus record .ROLLING_BACK (some originalError)
  let plan ← requirePlan record
  -- the merged tasks, and whether a rollback failed
  let outcome ← Prog.foldlP (engine.rollbackTask record)
    (byStep record.tasks, false) (rollbackOrder plan record.tasks)
  let record ← engine.updateRecord record fun fields =>
    { fields with tasks := mergeTasks record.tasks outcome.1 }
  let _ ← engine.transition record (if outcome.2 then .NEEDS_ATTENTION else .FAILED) {}
  engine.terminal record (if outcome.2 then .NEEDS_ATTENTION else .FAILED) (some originalError)

/-! ## From the decision to the end -/

/-- `resume_approval` for an approved plan whose change is executing: execute, verify,
compensate. -/
def executeApproved (record : WorkflowExecutionRecord) : Run E WorkflowExecutionRecord := do
  let record ← engine.setRuntimeStatus record .EXECUTING none
  let record ← engine.captureSnapshots record
  let record ← engine.executeDag record
  if record.tasks.any fun task => task.status = .FAILED then
    engine.rollback record (record.lastErrorCode.getD "TOOL_EXECUTION_FAILED")
  else do
    let _ ← engine.transition record .VERIFYING {}
    let record ← engine.setRuntimeStatus record .VERIFYING none
    match ← engine.verify record with
    | some verificationError => engine.rollback record verificationError
    | none => do
        let _ ← engine.transition record .COMPLETED {}
        engine.terminal record .COMPLETED none

/-- `resume_approval` for a callback that matches the record, by its decision. -/
def applyDecision (callback : ApprovalCallbackRequest) (change : ChangeRecord)
    (record : WorkflowExecutionRecord) : Run E WorkflowExecutionRecord :=
  match callback.status with
  | .REJECTED => do
      let _ ← engine.transitionFrom [.AWAITING_APPROVAL] record change .REJECTED {}
      engine.terminal record .FAILED (some "APPROVAL_REJECTED")
  | .CHANGES_REQUESTED => do
      let change ← engine.transitionFrom [.AWAITING_APPROVAL] record change .REJECTED {}
      let _ ← engine.transitionFrom [.REJECTED] record change .ANALYZING {}
      engine.setRuntimeStatus record .ANALYZING (some "APPROVAL_CHANGES_REQUESTED")
  | .APPROVED => do
      let change ← engine.transitionFrom [.AWAITING_APPROVAL] record change .APPROVED {}
      let change ← engine.transitionFrom [.APPROVED] record change .EXECUTING {}
      if change.status ≠ .EXECUTING then .raise (.workflowPermanent "CHANGE_NOT_EXECUTABLE")
      else engine.executeApproved record

/-- `resume_approval`. -/
def resumeApproval (callback : ApprovalCallbackRequest) : Run E WorkflowExecutionRecord := do
  let change ← getChange callback.tenantId callback.changeId
  match change.workflowExecutionId with
  | none => .raise (.workflowPermanent "WORKFLOW_ID_MISSING")
  | some workflowExecutionId => do
      let record ← getWorkflow callback.tenantId callback.changeId workflowExecutionId
      if record.status = .COMPLETED ∨ record.status = .FAILED ∨
          record.status = .NEEDS_ATTENTION then return record
      else do
        let plan ← requirePlan record
        if record.approvalId ≠ some callback.approvalId ∨
            record.planHash ≠ some callback.planHash ∨ plan.version ≠ callback.planVersion then
          .raise (.workflowPermanent "APPROVAL_CALLBACK_SCOPE_MISMATCH")
        else engine.applyDecision callback change record

end WorkflowEngine

end ChangeOps
