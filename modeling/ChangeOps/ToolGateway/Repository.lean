import ChangeOps.Lib.Dict
import ChangeOps.ToolGateway.Models

/-!
# ChangeOps.ToolGateway — the governance repository

`InMemoryGovernanceRepository` (`changeops_tool_gateway/repository.py`): plans, approval requests,
tool executions and the audit trail. Every method holds the lock for its whole body, so each is
one atomic function of the store: it returns or raises, and leaves a new store.
-/

namespace ChangeOps

/-! ## Python's `==` on plans -/

/-- `==` on plan steps; the arguments are dictionaries. -/
def RemediationStep.pyEq (a b : RemediationStep) : Bool :=
  a.stepId == b.stepId && a.order == b.order && a.agentId == b.agentId &&
    a.toolName == b.toolName && a.resource == b.resource && a.arguments.pyEq b.arguments &&
    a.dependsOn == b.dependsOn && a.riskLevel == b.riskLevel &&
    a.requiresApproval == b.requiresApproval && a.idempotencyKey == b.idempotencyKey

def stepsPyEq : List RemediationStep → List RemediationStep → Bool
  | [], [] => true
  | a :: as, b :: bs => a.pyEq b && stepsPyEq as bs
  | _, _ => false

/-- `==` on plans. -/
def RemediationPlan.pyEq (a b : RemediationPlan) : Bool :=
  a.planId == b.planId && a.tenantId == b.tenantId && a.changeId == b.changeId &&
    a.version == b.version && a.riskLevel == b.riskLevel && a.summary == b.summary &&
    a.preconditions == b.preconditions && stepsPyEq a.steps b.steps &&
    a.verificationSteps == b.verificationSteps && a.rollbackSteps == b.rollbackSteps &&
    a.evidenceRefs == b.evidenceRefs && a.createdAt == b.createdAt

/-! ## The store -/

structure GovernanceRepository where
  plans : Dict (String × String × String) RemediationPlan
  approvals : Dict (String × String) ApprovalRequestRecord
  approvalTenants : Dict String (List String)
  executions : Dict (String × String) ToolExecutionRecord
  executionIds : Dict (String × String) String
  audit : Dict (String × String) AuditEvent

/-- `set.add` on the tenants of an approval id. -/
def addTenant (tenants : List String) (tenantId : String) : List String :=
  if tenantId ∈ tenants then tenants else tenants ++ [tenantId]

/-- The immutable approval scope, as the docstring has it: every field but the creation time. -/
def sameApprovalRequest (current candidate : ApprovalRequestRecord) : Bool :=
  { current.toApprovalRequestFields with requestedAt := 0 } =
    { candidate.toApprovalRequestFields with requestedAt := 0 }

/-- A call of `decide_approval`. -/
structure DecideCall where
  tenantId : String
  approvalId : String
  target : ApprovalRequestStatus
  expectedVersion : Nat
  decidedBy : String
  decidedByRoles : List UserRole
  comment : String
  decidedAt : Time

/-- Only the exact retry of a decision that is already stored. -/
def sameApprovalDecision (current : ApprovalRequestRecord) (call : DecideCall) : Bool :=
  current.status = call.target && current.version = call.expectedVersion + 1 &&
    current.decidedBy = some call.decidedBy && current.decidedByRoles = call.decidedByRoles &&
    current.comment = some call.comment

/-- The document that `decide_approval` validates. -/
def ApprovalRequestRecord.decidedDocument (current : ApprovalRequestRecord) (call : DecideCall) :
    ApprovalRequestFields :=
  { current.toApprovalRequestFields with
    status := call.target
    decidedBy := some call.decidedBy
    decidedByRoles := call.decidedByRoles
    decidedAt := some call.decidedAt
    comment := some call.comment
    version := current.version + 1 }

/-- A call of `reserve_execution`. -/
structure ReserveCall where
  intent : ToolIntent
  decision : PolicyDecision
  approval : Option Approval
  inputHash : String
  now : Time

/-- The tenant and idempotency key that a reservation is for. -/
def ReserveCall.key (call : ReserveCall) : String × String :=
  (call.intent.tenantId, call.intent.idempotencyKey)

def ReserveCall.approvalId (call : ReserveCall) : Option String :=
  call.approval.map Approval.approvalId

namespace GovernanceRepository

/-- `InMemoryGovernanceRepository()`. -/
def empty : GovernanceRepository := ⟨.empty, .empty, .empty, .empty, .empty, .empty⟩

variable [Sha256]

def createApprovalRequest (record : ApprovalRequestRecord) (plan : RemediationPlan)
    (repo : GovernanceRepository) : Except GatewayExn ApprovalRequestRecord × GovernanceRepository :=
  let planKey := (plan.tenantId, plan.changeId, plan.planId)
  let approvalKey := (record.tenantId, record.approvalId)
  let existingPlan := repo.plans.get? planKey
  if calculatePlanHash plan ≠ record.planHash then
    (.error (.gateway (gatewayConflictError "Approval request plan hash is not canonical.")), repo)
  else if existingPlan.any fun existing => calculatePlanHash existing ≠ record.planHash then
    (.error (.gateway (gatewayConflictError
      "A different plan already uses this plan identifier.")), repo)
  else match repo.approvals.get? approvalKey with
    | some existing =>
        if existingPlan.any (·.pyEq plan) && sameApprovalRequest existing record then
          (.ok existing, repo)
        else
          (.error (.gateway (gatewayConflictError "Approval request identifier already exists.")),
            repo)
    | none =>
        (.ok record, { repo with
          plans := repo.plans.set planKey plan
          approvals := repo.approvals.set approvalKey record
          approvalTenants := repo.approvalTenants.set record.approvalId
            (addTenant (repo.approvalTenants.getD record.approvalId []) record.tenantId) })

def getPlan (repo : GovernanceRepository) (tenantId changeId planId : String) :
    Except GatewayExn RemediationPlan :=
  match repo.plans.get? (tenantId, changeId, planId) with
  | some plan => .ok plan
  | none => .error (.gateway (gatewayNotFoundError "plan"))

def getApprovalRequest (repo : GovernanceRepository) (tenantId approvalId : String) :
    Except GatewayExn ApprovalRequestRecord :=
  match repo.approvals.get? (tenantId, approvalId) with
  | some record => .ok record
  | none => .error (.gateway (gatewayNotFoundError "approval"))

def decideApproval (call : DecideCall) (repo : GovernanceRepository) :
    Except GatewayExn ApprovalRequestRecord × GovernanceRepository :=
  match repo.getApprovalRequest call.tenantId call.approvalId with
  | .error e => (.error e, repo)
  | .ok current =>
      if current.status ≠ .PENDING then
        if sameApprovalDecision current call then (.ok current, repo)
        else
          (.error (.gateway (gatewayConflictError
            "Approval request already has a final decision.")), repo)
      else if current.version ≠ call.expectedVersion then
        (.error (.gateway (conflictError "Approval request version is stale." "VERSION_CONFLICT")),
          repo)
      else if current.expiresAt ≤ call.decidedAt then
        (.error (.gateway (conflictError "Approval request has expired." "APPROVAL_EXPIRED")), repo)
      else if current.requestedBy = call.decidedBy then
        (.error (.gateway (authorizationError
          "Separation of duties prevents the plan requester from approving it.")), repo)
      else match (current.decidedDocument call).modelValidate with
        | .error e => (.error (.raised e), repo)
        | .ok updated =>
            (.ok updated, { repo with
              approvals := repo.approvals.set (call.tenantId, call.approvalId) updated })

/-- The approval that a reservation needs is stored as it was given, current, and for this step
and plan. -/
def checkApproval (call : ReserveCall) (repo : GovernanceRepository) : Except GatewayExn Unit :=
  if call.decision.approvalRequired then
    match call.approval with
    | none => .error (.gateway approvalRequiredError)
    | some approval => do
        let current ← repo.getApprovalRequest call.intent.tenantId approval.approvalId
        match ← current.asApproval with
        | none => throw (.gateway approvalRequiredError)
        | some stored =>
            if stored ≠ approval ∨ stored.expiresAt ≤ call.now then
              throw (.gateway approvalRequiredError)
            if call.intent.stepId ∉ stored.scope ∨ stored.planHash ≠ call.intent.planHash then
              throw (.gateway approvalRequiredError)
  else .ok ()

/-- The execution id of an idempotency key. -/
def executionId (key : String × String) : String :=
  "execution_" ++ shortDigest (.obj [("tenant_id", .str key.1), ("key", .str key.2)])

/-- The part of `reserve_execution` after the approval check. -/
def reserveChecked (call : ReserveCall) (repo : GovernanceRepository) :
    Except GatewayExn ExecutionReservation × GovernanceRepository :=
  match repo.executionIds.get? call.key with
  | some existingId =>
      match repo.executions.get? (call.intent.tenantId, existingId) with
      | none => (.error (.raised (.other "KeyError")), repo)
      | some existing =>
          if existing.inputHash ≠ call.inputHash then
            (.error (.gateway (conflictError
              "Idempotency key was already used for a different tool action."
              "IDEMPOTENCY_CONFLICT")), repo)
          else if existing.status = .SUCCEEDED then (.ok ⟨existing, true⟩, repo)
          else if existing.status = .RESERVED ∧ call.now < existing.updatedAt + Time.minutes 2 then
            (.error (.gateway (conflictError
              "The idempotent tool action is already in progress." "EXECUTION_IN_PROGRESS")), repo)
          else
            let reserved := existing.attemptedAgain call.intent call.decision.decisionId
              call.approvalId call.now
            (.ok ⟨reserved, false⟩, { repo with
              executions := repo.executions.set (call.intent.tenantId, existingId) reserved })
  | none =>
      match digestStr call.inputHash with
      | .error e => (.error (.raised e), repo)
      | .ok inputHash =>
          let executionId := executionId call.key
          let record := newExecution executionId inputHash call.intent call.decision.decisionId
            call.approvalId call.now
          (.ok ⟨record, false⟩, { repo with
            executions := repo.executions.set (call.intent.tenantId, executionId) record
            executionIds := repo.executionIds.set call.key executionId })

def reserveExecution (call : ReserveCall) (repo : GovernanceRepository) :
    Except GatewayExn ExecutionReservation × GovernanceRepository :=
  match repo.checkApproval call with
  | .error e => (.error e, repo)
  | .ok () => repo.reserveChecked call

end GovernanceRepository

/-- What `complete_execution` and `fail_execution` report about an execution. -/
inductive ExecutionReport where
  | completed (output : JsonObject) (outputHash : String) (completedAt : Time)
  | failed (errorCode : String) (failedAt : Time)

/-- The record of a reserved execution after a report. -/
def ToolExecutionRecord.reported (current : ToolExecutionRecord)
    (hreserved : current.status = .RESERVED) : ExecutionReport → Except Exn ToolExecutionRecord
  | .completed output outputHash completedAt =>
      (digestStr outputHash).map fun outputHash =>
        current.completedWith hreserved output outputHash completedAt
  | .failed errorCode failedAt =>
      (nonEmptyStr errorCode).map fun errorCode => current.failedWith errorCode failedAt

namespace GovernanceRepository

/-- `complete_execution` and `fail_execution`: the execution must be stored for the change and
reserved. -/
def reportExecution (tenantId changeId executionId : String) (report : ExecutionReport)
    (repo : GovernanceRepository) : Except GatewayExn ToolExecutionRecord × GovernanceRepository :=
  match repo.executions.get? (tenantId, executionId) with
  | none => (.error (.gateway (gatewayNotFoundError "tool execution")), repo)
  | some current =>
      if current.changeId ≠ changeId then
        (.error (.gateway (gatewayNotFoundError "tool execution")), repo)
      else if hreserved : current.status = .RESERVED then
        match current.reported hreserved report with
        | .error e => (.error (.raised e), repo)
        | .ok updated =>
            (.ok updated, { repo with
              executions := repo.executions.set (tenantId, executionId) updated })
      else (.error (.gateway (gatewayConflictError "Tool execution is not reserved.")), repo)

def completeExecution (tenantId changeId executionId : String) (output : JsonObject)
    (outputHash : String) (completedAt : Time) :
    GovernanceRepository → Except GatewayExn ToolExecutionRecord × GovernanceRepository :=
  reportExecution tenantId changeId executionId (.completed output outputHash completedAt)

def failExecution (tenantId changeId executionId errorCode : String) (failedAt : Time) :
    GovernanceRepository → Except GatewayExn ToolExecutionRecord × GovernanceRepository :=
  reportExecution tenantId changeId executionId (.failed errorCode failedAt)

def recordAudit (event : AuditEvent) (repo : GovernanceRepository) :
    Except GatewayExn Unit × GovernanceRepository :=
  if (repo.audit.get? (event.tenantId, event.auditEventId)).isSome then
    (.error (.gateway (gatewayConflictError "Audit event identifier already exists.")), repo)
  else (.ok (), { repo with audit := repo.audit.set (event.tenantId, event.auditEventId) event })

/-! ## What the methods can do -/

section Cases

variable [Sha256]

/-- Raise; or return the stored request that this one repeats; or store the request and its plan. -/
theorem createApprovalRequest_cases (record : ApprovalRequestRecord) (plan : RemediationPlan)
    (repo : GovernanceRepository) :
    (∃ e, repo.createApprovalRequest record plan = (.error e, repo)) ∨
      (∃ existingPlan existing, calculatePlanHash plan = record.planHash ∧
        repo.plans.get? (plan.tenantId, plan.changeId, plan.planId) = some existingPlan ∧
        calculatePlanHash existingPlan = record.planHash ∧ existingPlan.pyEq plan = true ∧
        repo.approvals.get? (record.tenantId, record.approvalId) = some existing ∧
        sameApprovalRequest existing record = true ∧
        repo.createApprovalRequest record plan = (.ok existing, repo)) ∨
      (∃ tenants, calculatePlanHash plan = record.planHash ∧
        (∀ existingPlan, repo.plans.get? (plan.tenantId, plan.changeId, plan.planId) =
          some existingPlan → calculatePlanHash existingPlan = record.planHash) ∧
        repo.approvals.get? (record.tenantId, record.approvalId) = none ∧
        repo.createApprovalRequest record plan = (.ok record, { repo with
          plans := repo.plans.set (plan.tenantId, plan.changeId, plan.planId) plan
          approvals := repo.approvals.set (record.tenantId, record.approvalId) record
          approvalTenants := tenants })) := by
  unfold createApprovalRequest
  dsimp only
  split_ifs with hhash hplan
  · exact Or.inl ⟨_, rfl⟩
  · exact Or.inl ⟨_, rfl⟩
  · have hhash := of_not_not hhash
    simp only [Option.any_eq_true, decide_eq_true_eq, not_exists, not_and, not_not] at hplan
    cases hget : repo.approvals.get? (record.tenantId, record.approvalId) with
    | some existing =>
      dsimp only
      split_ifs with hsame
      · rw [Bool.and_eq_true, Option.any_eq_true] at hsame
        obtain ⟨⟨existingPlan, hexisting, heq⟩, hsame⟩ := hsame
        exact Or.inr (Or.inl ⟨existingPlan, existing, hhash, hexisting,
          hplan existingPlan hexisting, heq, rfl, hsame, rfl⟩)
      · exact Or.inl ⟨_, rfl⟩
    | none => exact Or.inr (Or.inr ⟨_, hhash, hplan, rfl, rfl⟩)

omit [Sha256] in
/-- Raise; or return the stored decision that this one repeats; or store the first decision. -/
theorem decideApproval_cases (call : DecideCall) (repo : GovernanceRepository) :
    (∃ e, repo.decideApproval call = (.error e, repo)) ∨
      (∃ current, repo.approvals.get? (call.tenantId, call.approvalId) = some current ∧
        current.status ≠ .PENDING ∧ sameApprovalDecision current call = true ∧
        repo.decideApproval call = (.ok current, repo)) ∨
      (∃ current updated, repo.approvals.get? (call.tenantId, call.approvalId) = some current ∧
        current.status = .PENDING ∧ current.version = call.expectedVersion ∧
        call.decidedAt < current.expiresAt ∧ current.requestedBy ≠ call.decidedBy ∧
        (current.decidedDocument call).modelValidate = .ok updated ∧
        repo.decideApproval call = (.ok updated, { repo with
          approvals := repo.approvals.set (call.tenantId, call.approvalId) updated })) := by
  unfold decideApproval getApprovalRequest
  cases hget : repo.approvals.get? (call.tenantId, call.approvalId) with
  | none => exact Or.inl ⟨_, rfl⟩
  | some current =>
    dsimp only
    split_ifs with hstatus hsame hversion hexpired hself
    · exact Or.inr (Or.inl ⟨current, rfl, hstatus, hsame, rfl⟩)
    · exact Or.inl ⟨_, rfl⟩
    · exact Or.inl ⟨_, rfl⟩
    · exact Or.inl ⟨_, rfl⟩
    · exact Or.inl ⟨_, rfl⟩
    · cases hvalid : (current.decidedDocument call).modelValidate with
      | error e => exact Or.inl ⟨_, rfl⟩
      | ok updated =>
        exact Or.inr (Or.inr ⟨current, updated, rfl, of_not_not hstatus, of_not_not hversion,
          Nat.lt_of_not_le hexpired, hself, hvalid, rfl⟩)

/-- Raise; or return the stored result; or take over an attempt that failed or is old; or reserve
the action for the first time. -/
theorem reserveExecution_cases (call : ReserveCall) (repo : GovernanceRepository) :
    (∃ e, repo.reserveExecution call = (.error e, repo)) ∨
      (∃ id existing, repo.checkApproval call = .ok () ∧
        repo.executionIds.get? call.key = some id ∧
        repo.executions.get? (call.intent.tenantId, id) = some existing ∧
        existing.inputHash = call.inputHash ∧ existing.status = .SUCCEEDED ∧
        repo.reserveExecution call = (.ok ⟨existing, true⟩, repo)) ∨
      (∃ id existing, repo.executionIds.get? call.key = some id ∧
        repo.executions.get? (call.intent.tenantId, id) = some existing ∧
        existing.inputHash = call.inputHash ∧ existing.status ≠ .SUCCEEDED ∧
        (existing.status = .RESERVED → existing.updatedAt + Time.minutes 2 ≤ call.now) ∧
        repo.reserveExecution call =
          (.ok ⟨existing.attemptedAgain call.intent call.decision.decisionId call.approvalId
            call.now, false⟩, { repo with
            executions := repo.executions.set (call.intent.tenantId, id)
              (existing.attemptedAgain call.intent call.decision.decisionId call.approvalId
                call.now) })) ∨
      (∃ inputHash, repo.executionIds.get? call.key = none ∧ digestStr call.inputHash = .ok inputHash ∧
        repo.reserveExecution call =
          (.ok ⟨newExecution (executionId call.key) inputHash call.intent call.decision.decisionId
            call.approvalId call.now, false⟩, { repo with
            executions := repo.executions.set (call.intent.tenantId, executionId call.key)
              (newExecution (executionId call.key) inputHash call.intent call.decision.decisionId
                call.approvalId call.now)
            executionIds := repo.executionIds.set call.key (executionId call.key) })) := by
  unfold reserveExecution
  cases hcheck : repo.checkApproval call with
  | error e => exact Or.inl ⟨e, rfl⟩
  | ok u =>
    dsimp only
    unfold reserveChecked
    cases hid : repo.executionIds.get? call.key with
    | none =>
      dsimp only
      cases hdigest : digestStr call.inputHash with
      | error e => exact Or.inl ⟨_, rfl⟩
      | ok inputHash => exact Or.inr (Or.inr (Or.inr ⟨inputHash, rfl, rfl, rfl⟩))
    | some id =>
      dsimp only
      cases hget : repo.executions.get? (call.intent.tenantId, id) with
      | none => exact Or.inl ⟨_, rfl⟩
      | some existing =>
        dsimp only
        split_ifs with hhash hsucceeded hprogress
        · exact Or.inl ⟨_, rfl⟩
        · exact Or.inr (Or.inl ⟨id, existing, rfl, rfl, hget, of_not_not hhash, hsucceeded, rfl⟩)
        · exact Or.inl ⟨_, rfl⟩
        · refine Or.inr (Or.inr (Or.inl ⟨id, existing, rfl, hget, of_not_not hhash, hsucceeded,
            fun hreserved => ?_, rfl⟩))
          exact Nat.le_of_not_lt fun hlt => hprogress ⟨hreserved, hlt⟩

omit [Sha256] in
/-- Raise; or store the result of a reserved execution. -/
theorem reportExecution_cases (tenantId changeId executionId : String) (report : ExecutionReport)
    (repo : GovernanceRepository) :
    (∃ e, repo.reportExecution tenantId changeId executionId report = (.error e, repo)) ∨
      (∃ current hreserved updated,
        repo.executions.get? (tenantId, executionId) = some current ∧ current.changeId = changeId ∧
        current.reported hreserved report = .ok updated ∧
        repo.reportExecution tenantId changeId executionId report = (.ok updated, { repo with
          executions := repo.executions.set (tenantId, executionId) updated })) := by
  unfold reportExecution
  cases hget : repo.executions.get? (tenantId, executionId) with
  | none => exact Or.inl ⟨_, rfl⟩
  | some current =>
    dsimp only
    split_ifs with hchange hreserved
    · exact Or.inl ⟨_, rfl⟩
    · cases hreported : current.reported hreserved report with
      | error e => exact Or.inl ⟨_, rfl⟩
      | ok updated =>
        exact Or.inr ⟨current, hreserved, updated, rfl, of_not_not hchange, hreported, rfl⟩
    · exact Or.inl ⟨_, rfl⟩

omit [Sha256] in
/-- Raise; or append the event. -/
theorem recordAudit_cases (event : AuditEvent) (repo : GovernanceRepository) :
    (∃ e, repo.recordAudit event = (.error e, repo)) ∨
      repo.recordAudit event = (.ok (), { repo with
        audit := repo.audit.set (event.tenantId, event.auditEventId) event }) := by
  unfold recordAudit
  split_ifs
  · exact Or.inl ⟨_, rfl⟩
  · exact Or.inr rfl

/-- Reservations, reports and audit events leave plans and approval requests alone. -/
theorem governed_reserveExecution (call : ReserveCall) (repo : GovernanceRepository) :
    (repo.reserveExecution call).2.plans = repo.plans ∧
      (repo.reserveExecution call).2.approvals = repo.approvals := by
  rcases reserveExecution_cases call repo with ⟨e, heq⟩ | ⟨_, _, -, -, -, -, -, heq⟩ |
    ⟨_, _, -, -, -, -, -, heq⟩ | ⟨_, -, -, heq⟩ <;> rw [heq] <;> exact ⟨rfl, rfl⟩

omit [Sha256] in
theorem governed_reportExecution (tenantId changeId executionId : String) (report : ExecutionReport)
    (repo : GovernanceRepository) :
    (repo.reportExecution tenantId changeId executionId report).2.plans = repo.plans ∧
      (repo.reportExecution tenantId changeId executionId report).2.approvals = repo.approvals := by
  rcases reportExecution_cases tenantId changeId executionId report repo with
    ⟨e, heq⟩ | ⟨_, _, _, -, -, -, heq⟩ <;> rw [heq] <;> exact ⟨rfl, rfl⟩

omit [Sha256] in
theorem governed_recordAudit (event : AuditEvent) (repo : GovernanceRepository) :
    (repo.recordAudit event).2.plans = repo.plans ∧
      (repo.recordAudit event).2.approvals = repo.approvals := by
  rcases recordAudit_cases event repo with ⟨e, heq⟩ | heq <;> rw [heq] <;> exact ⟨rfl, rfl⟩

end Cases

end GovernanceRepository

/-! ## Sequences of calls -/

/-- A call of a method that writes. -/
inductive GovernanceCall where
  | createApprovalRequest (record : ApprovalRequestRecord) (plan : RemediationPlan)
  | decideApproval (call : DecideCall)
  | reserveExecution (call : ReserveCall)
  | reportExecution (tenantId changeId executionId : String) (report : ExecutionReport)
  | recordAudit (event : AuditEvent)

/-- The store after a call. -/
def GovernanceCall.apply [Sha256] (repo : GovernanceRepository) :
    GovernanceCall → GovernanceRepository
  | .createApprovalRequest record plan => (repo.createApprovalRequest record plan).2
  | .decideApproval call => (repo.decideApproval call).2
  | .reserveExecution call => (repo.reserveExecution call).2
  | .reportExecution tenantId changeId executionId report =>
      (repo.reportExecution tenantId changeId executionId report).2
  | .recordAudit event => (repo.recordAudit event).2

/-- The store after a sequence of calls. -/
def GovernanceRepository.after [Sha256] (repo : GovernanceRepository)
    (calls : List GovernanceCall) : GovernanceRepository :=
  calls.foldl GovernanceCall.apply repo

namespace GovernanceRepository

variable [Sha256]

@[simp] theorem after_nil (repo : GovernanceRepository) : repo.after [] = repo := rfl

@[simp] theorem after_cons (repo : GovernanceRepository) (call : GovernanceCall)
    (calls : List GovernanceCall) : repo.after (call :: calls) = (call.apply repo).after calls := rfl

end GovernanceRepository

end ChangeOps
