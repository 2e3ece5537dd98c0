import Mathlib.Data.List.DropRight
import ChangeOps.Errors

/-!
# ChangeOps.Workflow — the durable records of the coordinator

`changeops_workflow_coordinator/models.py`. A pydantic model is split in two: the plain
fields of the document (`TaskFields`, `WorkflowFields`) and the record that
`model_validate` returns, which extends the fields with what the `after` validator has
established. The engine never edits a record; it edits the fields and validates them again.

Texts that enter a record from outside are error codes, so `NonEmptyStr` is spelled out for
them: blanks are stripped and between 1 and 512 characters must be left.
-/

namespace ChangeOps

/-! ## Enumerations -/

inductive WorkflowRuntimeStatus where
  | RECEIVED | ANALYZING | WAITING_APPROVAL | EXECUTING | VERIFYING | ROLLING_BACK
  | COMPLETED | FAILED | NEEDS_ATTENTION | DEAD_LETTERED
deriving DecidableEq, Repr

/-- The statuses that `validate_lifecycle` calls terminal. -/
def WorkflowRuntimeStatus.isTerminal : WorkflowRuntimeStatus → Bool
  | .COMPLETED | .FAILED | .NEEDS_ATTENTION | .DEAD_LETTERED => true
  | _ => false

theorem WorkflowRuntimeStatus.isTerminal_iff {status : WorkflowRuntimeStatus} :
    status.isTerminal = true ↔ status = .COMPLETED ∨ status = .FAILED ∨
      status = .NEEDS_ATTENTION ∨ status = .DEAD_LETTERED := by
  cases status <;> simp [isTerminal]

inductive WorkflowTaskStatus where
  | PENDING | RUNNING | SUCCEEDED | FAILED | ROLLED_BACK | ROLLBACK_FAILED
deriving DecidableEq, Repr

inductive SystemId where
  | crm | analytics | support
deriving DecidableEq, Repr

def SystemId.value : SystemId → String
  | .crm => "crm"
  | .analytics => "analytics"
  | .support => "support"

/-- `system_id.upper()`. -/
def SystemId.upper : SystemId → String
  | .crm => "CRM"
  | .analytics => "ANALYTICS"
  | .support => "SUPPORT"

/-! ## Non-empty texts -/

/-- The code points of Unicode's `White_Space`, which `str_strip_whitespace` removes. -/
def isWhiteSpace (c : Char) : Bool :=
  (9 ≤ c.toNat && c.toNat ≤ 13) || c.toNat == 32 || c.toNat == 0x85 || c.toNat == 0xA0 ||
    c.toNat == 0x1680 || (0x2000 ≤ c.toNat && c.toNat ≤ 0x200A) || c.toNat == 0x2028 ||
    c.toNat == 0x2029 || c.toNat == 0x202F || c.toNat == 0x205F || c.toNat == 0x3000

@[irreducible] def stripWhitespace (text : String) : String :=
  String.ofList ((text.toList.dropWhile isWhiteSpace).rdropWhile isWhiteSpace)

/-- `NonEmptyStr`. -/
def nonEmptyStr (text : String) : Except Exn String :=
  let stripped := stripWhitespace text
  if stripped.length < 1 then
    .error (.validationError "String should have at least 1 character")
  else if 512 < stripped.length then
    .error (.validationError "String should have at most 512 characters")
  else .ok stripped

theorem nonEmptyStr_cases (text : String) : (∃ stripped, nonEmptyStr text = .ok stripped) ∨
    ∃ message, nonEmptyStr text = .error (.validationError message) := by
  unfold nonEmptyStr
  dsimp only
  split_ifs
  · exact .inr ⟨_, rfl⟩
  · exact .inr ⟨_, rfl⟩
  · exact .inl ⟨_, rfl⟩

/-- `NonEmptyStr | None`. -/
def nonEmptyStrOrNone : Option String → Except Exn (Option String)
  | none => .ok none
  | some text => (nonEmptyStr text).map some

theorem nonEmptyStrOrNone_none : nonEmptyStrOrNone none = .ok none := rfl

theorem stripWhitespace_idem (text : String) :
    stripWhitespace (stripWhitespace text) = stripWhitespace text := by
  unfold stripWhitespace
  rw [String.toList_ofList]
  generalize hfront : text.toList.dropWhile isWhiteSpace = front
  have hdrop : (front.rdropWhile isWhiteSpace).dropWhile isWhiteSpace =
      front.rdropWhile isWhiteSpace := by
    cases hback : front.rdropWhile isWhiteSpace with
    | nil => rfl
    | cons c rest =>
      -- the first character that is left is the first one after the leading blanks
      obtain ⟨tail, htail⟩ := List.rdropWhile_prefix isWhiteSpace front
      rw [hback, List.cons_append] at htail
      have hhead : isWhiteSpace c = false := by
        have hne : text.toList.dropWhile isWhiteSpace ≠ [] := by
          rw [hfront, ← htail]
          exact List.cons_ne_nil _ _
        have := List.head_dropWhile_not isWhiteSpace hne
        simp only [hfront, ← htail, List.head_cons] at this
        exact this
      rw [List.dropWhile_cons, hhead]
      rfl
  rw [hdrop, List.rdropWhile_idempotent]

/-- A text that has passed the check passes it again, unchanged. -/
theorem nonEmptyStr_of_ok {text stripped : String} (h : nonEmptyStr text = .ok stripped) :
    stripped = stripWhitespace text ∧ nonEmptyStr stripped = .ok stripped := by
  unfold nonEmptyStr at h
  dsimp only at h
  split_ifs at h with hmin hmax
  cases h
  refine ⟨rfl, ?_⟩
  unfold nonEmptyStr
  simp only [stripWhitespace_idem]
  rw [if_neg hmin, if_neg hmax]

theorem nonEmptyStrOrNone_of_ok {text stripped : Option String}
    (h : nonEmptyStrOrNone text = .ok stripped) :
    stripped = text.map stripWhitespace ∧ nonEmptyStrOrNone stripped = .ok stripped := by
  cases text with
  | none =>
    cases h
    exact ⟨rfl, rfl⟩
  | some text =>
    simp only [nonEmptyStrOrNone] at h
    cases hcheck : nonEmptyStr text with
    | error e =>
      rw [hcheck] at h
      cases h
    | ok checked =>
      rw [hcheck] at h
      cases h
      obtain ⟨heq, hagain⟩ := nonEmptyStr_of_ok hcheck
      exact ⟨congrArg some heq, by simp only [nonEmptyStrOrNone, hagain]; rfl⟩

/-! ## Tasks -/

structure TaskFields where
  stepId : String
  systemId : SystemId
  status : WorkflowTaskStatus
  attemptCount : Nat
  snapshotId : Option String := none
  snapshotHash : Option String := none
  executionId : Option String := none
  outputHash : Option String := none
  errorCode : Option String := none
  updatedAt : Time
deriving DecidableEq

/-- A task; the last fields are `validate_artifacts`. -/
structure WorkflowTaskRecord extends TaskFields where
  error_code_checked : nonEmptyStrOrNone errorCode = .ok errorCode
  snapshot_paired : snapshotId.isSome = snapshotHash.isSome
  evidence : status = .SUCCEEDED → executionId.isSome ∧ outputHash.isSome
  failure_code : status = .FAILED ∨ status = .ROLLBACK_FAILED → errorCode.isSome
deriving DecidableEq

/-- `WorkflowTaskRecord.model_validate`. -/
def TaskFields.modelValidate (fields : TaskFields) : Except Exn WorkflowTaskRecord :=
  match hcode : nonEmptyStrOrNone fields.errorCode with
  | .error e => .error e
  | .ok errorCode =>
    if hs : fields.snapshotId.isSome = fields.snapshotHash.isSome then
      if he : fields.status = .SUCCEEDED → fields.executionId.isSome ∧ fields.outputHash.isSome then
        if hf : fields.status = .FAILED ∨ fields.status = .ROLLBACK_FAILED → errorCode.isSome then
          .ok { fields with
            errorCode := errorCode, error_code_checked := (nonEmptyStrOrNone_of_ok hcode).2
            snapshot_paired := hs, evidence := he, failure_code := hf }
        else .error (.validationError "failed workflow tasks require an error code")
      else .error (.validationError "successful workflow tasks require execution evidence")
    else .error (.validationError "snapshot identifier and hash must be stored together")

/-- A validated task has the fields of the document; only the error code is stripped. -/
theorem TaskFields.modelValidate_of_ok {fields : TaskFields} {task : WorkflowTaskRecord}
    (h : fields.modelValidate = .ok task) :
    task.toTaskFields = { fields with errorCode := fields.errorCode.map stripWhitespace } := by
  unfold modelValidate at h
  split at h
  · cases h
  · next errorCode hcode =>
    split_ifs at h
    cases h
    simp only [(nonEmptyStrOrNone_of_ok hcode).1]

/-! ## Workflow executions -/

structure WorkflowFields where
  workflowExecutionId : String
  tenantId : String
  changeId : String
  eventId : String
  traceId : String
  event : ChangeEvent
  status : WorkflowRuntimeStatus
  deliveryAttempts : Nat
  plan : Option RemediationPlan := none
  planHash : Option String := none
  approvalId : Option String := none
  approvalExpiresAt : Option Time := none
  tasks : List WorkflowTaskRecord := []
  lastErrorCode : Option String := none
  startedAt : Time
  updatedAt : Time
  completedAt : Option Time := none
  version : Nat

def WorkflowFields.stepIds (fields : WorkflowFields) : List String := fields.tasks.map (·.stepId)

section Records

variable [Sha256]

/-- The part of `validate_lifecycle` about the plan. -/
def PlanMatches (fields : WorkflowFields) : Option RemediationPlan → Prop
  | none => fields.tasks = []
  | some plan => plan.tenantId = fields.tenantId ∧ plan.changeId = fields.changeId ∧
      fields.planHash = some (calculatePlanHash plan) ∧
      fields.stepIds ⊆ plan.steps.map (·.stepId) ∧ plan.steps.map (·.stepId) ⊆ fields.stepIds

/-- A workflow execution; the last fields are `validate_lifecycle`. -/
structure WorkflowExecutionRecord extends WorkflowFields where
  error_code_checked : nonEmptyStrOrNone lastErrorCode = .ok lastErrorCode
  event_scope : event.tenantId = tenantId ∧ event.eventId = eventId
  started_le_updated : startedAt ≤ updatedAt
  plan_paired : plan.isSome = planHash.isSome
  plan_matches : PlanMatches toWorkflowFields plan
  terminal_iff : status.isTerminal = completedAt.isSome

/-- What `validate_lifecycle` has to say about the plan, if it objects. -/
def planError (fields : WorkflowFields) : Option String :=
  match fields.plan with
  | none => if fields.tasks.isEmpty then none
      else some "workflow tasks cannot exist before a plan"
  | some plan =>
      if plan.tenantId ≠ fields.tenantId ∨ plan.changeId ≠ fields.changeId ∨
          some (calculatePlanHash plan) ≠ fields.planHash then
        some "workflow plan scope or hash is invalid"
      else if fields.stepIds ⊆ plan.steps.map (·.stepId) ∧
          plan.steps.map (·.stepId) ⊆ fields.stepIds then none
      else some "workflow tasks must match every plan step"

theorem planMatches_of_planError {fields : WorkflowFields} (h : planError fields = none) :
    PlanMatches fields fields.plan := by
  unfold planError at h
  cases hplan : fields.plan with
  | none =>
    rw [hplan] at h
    simp only [ite_eq_left_iff, reduceCtorEq, imp_false, not_not] at h
    exact List.isEmpty_iff.mp h
  | some plan =>
    rw [hplan] at h
    dsimp only at h
    split_ifs at h with hscope hsteps
    push Not at hscope
    exact ⟨hscope.1, hscope.2.1, hscope.2.2.symm, hsteps.1, hsteps.2⟩

/-- `WorkflowExecutionRecord.model_validate`. -/
def WorkflowFields.modelValidate (document : WorkflowFields) :
    Except Exn WorkflowExecutionRecord :=
  match hcode : nonEmptyStrOrNone document.lastErrorCode with
  | .error e => .error e
  | .ok lastErrorCode =>
    let fields := { document with lastErrorCode := lastErrorCode }
    if hscope : fields.event.tenantId = fields.tenantId ∧ fields.event.eventId = fields.eventId then
      if hupdated : fields.startedAt ≤ fields.updatedAt then
        if hpaired : fields.plan.isSome = fields.planHash.isSome then
          match hplan : planError fields with
          | some message => .error (.validationError message)
          | none =>
            if hterminal : fields.status.isTerminal = fields.completedAt.isSome then
              .ok { fields with
                error_code_checked := (nonEmptyStrOrNone_of_ok hcode).2
                event_scope := hscope, started_le_updated := hupdated, plan_paired := hpaired
                plan_matches := planMatches_of_planError hplan, terminal_iff := hterminal }
            else .error (.validationError "terminal workflow status and completed_at must agree")
        else .error (.validationError "workflow plan and hash must be stored together")
      else .error (.validationError "workflow updated_at cannot precede started_at")
    else .error (.validationError "workflow event scope must match the workflow record")

/-- A validated workflow has the fields of the document; only the error code is stripped. -/
theorem WorkflowFields.modelValidate_of_ok {document : WorkflowFields}
    {record : WorkflowExecutionRecord} (h : document.modelValidate = .ok record) :
    record.toWorkflowFields =
      { document with lastErrorCode := document.lastErrorCode.map stripWhitespace } := by
  unfold modelValidate at h
  split at h
  · cases h
  · next lastErrorCode hcode =>
    dsimp only at h
    split_ifs at h
    · split at h
      · cases h
      · cases h
        simp only [(nonEmptyStrOrNone_of_ok hcode).1]
    · split at h <;> cases h

end Records

inductive CallbackStatus where
  | APPROVED | REJECTED | CHANGES_REQUESTED
deriving DecidableEq, Repr

structure ApprovalCallbackRequest where
  tenantId : String
  changeId : String
  approvalId : String
  planHash : String
  planVersion : Nat
  status : CallbackStatus
  decidedAt : Time
deriving DecidableEq

structure DeadLetterRecord where
  deadLetterId : String
  tenantId : String
  eventId : String
  workflowExecutionId : String
  errorCode : String
  inputHash : String
  createdAt : Time
deriving DecidableEq

end ChangeOps
