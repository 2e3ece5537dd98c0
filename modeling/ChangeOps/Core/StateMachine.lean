import ChangeOps.Core.Runtime

/-!
# ChangeOps.Core — audited state transitions

`changeops_core/state_machine.py`: the transition graph and
`StateTransitionService.transition`, which reads a change, checks the edge on what it has
read, and commits with the version its caller expects.
-/

namespace ChangeOps

/-! ## The graph -/

/-- `_ALLOWED_TRANSITIONS`. -/
def allowedTargets : WorkflowState → List WorkflowState
  | .RECEIVED => [.SCREENING, .CANCELLED, .FAILED]
  | .SCREENING => [.BLOCKED, .ANALYZING, .CANCELLED, .FAILED, .NEEDS_ATTENTION]
  | .BLOCKED => [.SCREENING, .CANCELLED, .NEEDS_ATTENTION]
  | .ANALYZING => [.PLAN_READY, .BLOCKED, .CANCELLED, .FAILED, .NEEDS_ATTENTION]
  | .PLAN_READY => [.AWAITING_APPROVAL, .EXECUTING, .ANALYZING, .CANCELLED, .NEEDS_ATTENTION]
  | .AWAITING_APPROVAL => [.APPROVED, .REJECTED, .CANCELLED, .NEEDS_ATTENTION]
  | .APPROVED => [.EXECUTING, .CANCELLED, .NEEDS_ATTENTION]
  | .REJECTED => [.ANALYZING, .CANCELLED]
  | .EXECUTING => [.VERIFYING, .ROLLING_BACK, .FAILED, .PARTIAL, .NEEDS_ATTENTION]
  | .VERIFYING => [.COMPLETED, .ROLLING_BACK, .FAILED, .PARTIAL, .NEEDS_ATTENTION]
  | .ROLLING_BACK => [.FAILED, .PARTIAL, .CANCELLED, .NEEDS_ATTENTION]
  | .NEEDS_ATTENTION => [.SCREENING, .ANALYZING, .AWAITING_APPROVAL, .EXECUTING, .VERIFYING,
      .ROLLING_BACK, .FAILED, .CANCELLED]
  | .COMPLETED => []
  | .FAILED => []
  | .PARTIAL => []
  | .CANCELLED => []

def canTransition (current target : WorkflowState) : Bool :=
  (allowedTargets current).contains target

/-- The states without a way out. -/
def WorkflowState.isTerminal : WorkflowState → Bool
  | .COMPLETED | .FAILED | .PARTIAL | .CANCELLED => true
  | _ => false

theorem canTransition_of_isTerminal {current : WorkflowState} (target : WorkflowState)
    (h : current.isTerminal = true) : canTransition current target = false := by
  cases current <;> first | rfl | cases h

/-! ## The call -/

/-- `record_updates`: the four fields a transition may set, and the names of any others. -/
structure RecordUpdates where
  workflowExecutionId : Option (Option String) := none
  planVersion : Option Nat := none
  planHash : Option (Option String) := none
  riskLevel : Option RiskLevel := none
  unsupported : List String := []

/-- The updates as the dictionary that enters the input hash. -/
def RecordUpdates.modelDump (u : RecordUpdates) : Json :=
  .obj ((u.workflowExecutionId.map fun v => ("workflow_execution_id", Json.optStr v)).toList ++
    (u.planVersion.map fun v => ("plan_version", Json.int v)).toList ++
    (u.planHash.map fun v => ("plan_hash", Json.optStr v)).toList ++
    (u.riskLevel.map fun v => ("risk_level", Json.str v.value)).toList)

/-- The arguments of `StateTransitionService.transition`. -/
structure TransitionCall where
  tenantId : String
  changeId : String
  target : WorkflowState
  expectedVersion : Nat
  traceId : String
  actorType : ActorType
  actorId : String
  recordUpdates : RecordUpdates := {}

namespace TransitionCall

def key (call : TransitionCall) : String × String := (call.tenantId, call.changeId)

/-- The document the call would store, computed from the record it has read. -/
def updated (call : TransitionCall) (current : ChangeRecord) (transitionedAt : Time)
    (h : ¬ transitionedAt < current.updatedAt) : ChangeRecord :=
  { current with
    workflowExecutionId :=
      call.recordUpdates.workflowExecutionId.getD current.workflowExecutionId
    planVersion := call.recordUpdates.planVersion.getD current.planVersion
    planHash := call.recordUpdates.planHash.getD current.planHash
    riskLevel := call.recordUpdates.riskLevel.getD current.riskLevel
    status := call.target
    currentPhase := call.target
    updatedAt := transitionedAt
    version := call.expectedVersion + 1
    phase_eq := rfl
    created_le_updated := Nat.le_trans current.created_le_updated (Nat.le_of_not_lt h)
    version_pos := Nat.le_add_left _ _ }

section Audit

variable [Sha256]

def inputHash (call : TransitionCall) (current : ChangeRecord) : String :=
  sha256Digest (.obj [("change_id", .str call.changeId), ("current", .str current.status.value),
    ("expected_version", .int call.expectedVersion),
    ("record_updates", call.recordUpdates.modelDump), ("target", .str call.target.value),
    ("tenant_id", .str call.tenantId)])

/-- `_build_audit_event`, once its identifier is drawn and its texts have passed their checks. The
texts of a workflow's calls do: its change id is derived, and its record has checked the others. -/
def auditEvent (call : TransitionCall) (current : ChangeRecord) (auditEventId : String)
    (outputHash : String) (status : AuditStatus) (createdAt : Time) : AuditEvent where
  auditEventId := auditEventId
  tenantId := current.tenantId
  changeId := current.changeId
  traceId := call.traceId
  eventType := "WORKFLOW_STATE_TRANSITION_" ++
    (if status = .SUCCESS then "SUCCEEDED" else "REJECTED")
  actorType := call.actorType
  actorId := call.actorId
  resource := "changes/" ++ current.changeId
  action := "transition_state"
  decisionId := none
  inputHash := call.inputHash current
  outputHash := outputHash
  status := status
  redactedSummary := "Workflow transition " ++ current.status.value ++ " to " ++
    call.target.value ++ " " ++ status.value ++ "."
  createdAt := createdAt

/-- The audit event of a commit that lost the race: the success event, rewritten. -/
def conflictEvent (call : TransitionCall) (current : ChangeRecord) (auditEvent : AuditEvent)
    (expectedVersion actualVersion : Nat) : AuditEvent :=
  { auditEvent with
    eventType := "WORKFLOW_STATE_TRANSITION_REJECTED"
    outputHash := sha256Digest (.obj [("actual_version", .int actualVersion),
      ("expected_version", .int expectedVersion),
      ("reason", .str "optimistic_concurrency_conflict")])
    status := .REJECTED
    redactedSummary := "Workflow transition " ++ current.status.value ++ " to " ++
      call.target.value ++ " rejected." }

end Audit

end TransitionCall

/-! ## The service -/

section Service

variable [Sha256] {X : Type}

/-- `_build_audit_event`. -/
def buildAuditEvent (rt : Runtime) (call : TransitionCall) (current : ChangeRecord)
    (outputHash : String) (status : AuditStatus) (createdAt : Time) : Action X AuditEvent := do
  let hex ← uuid4Hex rt
  return call.auditEvent current ("audit_" ++ hex) outputHash status createdAt

/-- The edge is not in the graph: audit the refusal, then raise. -/
def rejectTransition (rt : Runtime) (call : TransitionCall) (current : ChangeRecord)
    (transitionedAt : Time) : Action X ChangeRecord := do
  let auditEvent ← buildAuditEvent rt call current
    (sha256Digest (.obj [("reason", .str "invalid_transition")])) .REJECTED transitionedAt
  onChanges (InMemoryChangeStateRepository.recordAudit auditEvent)
  .raise (.invalidStateTransition current.status call.target auditEvent.auditEventId)

/-- The edge is in the graph: commit with the caller's version; a lost race is audited. -/
def commitUpdated (rt : Runtime) (call : TransitionCall) (current updated : ChangeRecord)
    (transitionedAt : Time) : Action X ChangeRecord := do
  let auditEvent ← buildAuditEvent rt call current (sha256Digest updated.modelDump) .SUCCESS
    transitionedAt
  (onChanges (InMemoryChangeStateRepository.commitTransition updated auditEvent
      call.expectedVersion)).tryCatch fun
    | .optimisticConcurrency changeId expectedVersion actualVersion => do
        onChanges (InMemoryChangeStateRepository.recordAudit
          (call.conflictEvent current auditEvent expectedVersion actualVersion))
        .raise (.optimisticConcurrency changeId expectedVersion actualVersion)
    | e => .raise e
  return updated

/-- `StateTransitionService.transition`, once it has read the change. -/
def transitionRead (rt : Runtime) (call : TransitionCall) (current : ChangeRecord) :
    Action X ChangeRecord := do
  let transitionedAt ← now rt
  if h : transitionedAt < current.updatedAt then
    .raise (.valueError "State transition clock cannot move updated_at backwards.")
  else if call.recordUpdates.unsupported ≠ [] then
    .raise (.valueError ("Unsupported transition record updates: " ++
      ", ".intercalate (call.recordUpdates.unsupported.insertionSort (· ≤ ·))))
  else if canTransition current.status call.target then
    commitUpdated rt call current (call.updated current transitionedAt h) transitionedAt
  else
    rejectTransition rt call current transitionedAt

/-- `StateTransitionService.transition`. -/
def transition (rt : Runtime) (call : TransitionCall) : Action X ChangeRecord := do
  let current ← getChange call.tenantId call.changeId
  transitionRead rt call current

end Service

end ChangeOps
