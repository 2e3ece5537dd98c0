import ChangeOps.Persistence.Firestore
import ChangeOps.ToolGateway.Repository

/-!
# ChangeOps.ToolGateway — the Firestore governance repository

`FirestoreGovernanceRepository` (`changeops_tool_gateway/firestore_repository.py`). Plans, approvals,
tool executions and audit events lie under their change; approvals and audit events once more in an
index of the tenant, executions once more under the digest of their idempotency key. Each method is
one transaction: it reads, and then raises or writes all of its documents.

`SERVER_TIMESTAMP` is modelled as in the change repository: `server` says what the server writes in
place of the caller's time. A record whose validation depends on no time that the server supplies is
read as the record it is; an approval request is validated again when it is read. Every document is
taken to be one that Firestore stores: no array stands directly in an array, and integers fit 64 bits.
-/

namespace ChangeOps

/-- `_document_id`. -/
def documentId (value fieldName : String) : Except GatewayExn String :=
  if isDocumentId value then .ok value
  else .error (.gateway (gatewayConflictError (fieldName ++ " is not a valid document identifier.")))

theorem documentId_of_valid {value : String} (h : isDocumentId value = true) (fieldName : String) :
    documentId value fieldName = .ok value := by
  simp [documentId, h]

/-! ## References -/

/-- `_change_reference`. -/
def governanceChange (tenantId changeId : String) : Except GatewayExn (String × String) := do
  let tenantId ← documentId tenantId "tenant_id"
  let changeId ← documentId changeId "change_id"
  return (tenantId, changeId)

/-- A document in a collection of a change. -/
def inChange (tenantId changeId value fieldName : String) :
    Except GatewayExn ((String × String) × String) := do
  let change ← governanceChange tenantId changeId
  let value ← documentId value fieldName
  return (change, value)

/-- A document in a collection of a tenant. -/
def inTenant (tenantId value fieldName : String) : Except GatewayExn (String × String) := do
  let tenantId ← documentId tenantId "tenant_id"
  let value ← documentId value fieldName
  return (tenantId, value)

def planReference (tenantId changeId planId : String) := inChange tenantId changeId planId "plan_id"

def approvalReference (tenantId changeId approvalId : String) :=
  inChange tenantId changeId approvalId "approval_id"

def approvalIndexReference (tenantId approvalId : String) :=
  inTenant tenantId approvalId "approval_id"

def executionReference (tenantId changeId executionId : String) :=
  inChange tenantId changeId executionId "execution_id"

def idempotencyReference (tenantId digest : String) := inTenant tenantId digest "idempotency_digest"

def governanceAuditReference (tenantId changeId auditEventId : String) :=
  inChange tenantId changeId auditEventId "audit_event_id"

def governanceAuditIndexReference (tenantId auditEventId : String) :=
  inTenant tenantId auditEventId "audit_event_id"

theorem inTenant_of_valid {tenantId value : String} (htenant : isDocumentId tenantId = true)
    (hvalue : isDocumentId value = true) (fieldName : String) :
    inTenant tenantId value fieldName = .ok (tenantId, value) := by
  simp [inTenant, documentId_of_valid, htenant, hvalue, bind, Except.bind, pure, Except.pure]

theorem inChange_of_valid {tenantId changeId value : String} (htenant : isDocumentId tenantId = true)
    (hchange : isDocumentId changeId = true) (hvalue : isDocumentId value = true)
    (fieldName : String) :
    inChange tenantId changeId value fieldName = .ok ((tenantId, changeId), value) := by
  simp [inChange, governanceChange, documentId_of_valid, htenant, hchange, hvalue, bind, Except.bind,
    pure, Except.pure]

/-! ## Documents -/

/-- `_approval_document`, as the server stores it. -/
def approvalDocument (record : ApprovalRequestRecord) (serverRequestedAt : Bool)
    (server : Time → Time) : ApprovalRequestFields :=
  { record.toApprovalRequestFields with
    requestedAt := if serverRequestedAt then server record.requestedAt else record.requestedAt
    decidedAt := record.decidedAt.map server }

/-- `_execution_document`, as the server stores it. -/
def executionDocument (record : ToolExecutionRecord) (server : Time → Time) : ToolExecutionRecord :=
  { record with updatedAt := server record.updatedAt }

/-- `_from_snapshot(snapshot, ApprovalRequestRecord)`. -/
def readApproval (document : ApprovalRequestFields) : Except GatewayExn ApprovalRequestRecord :=
  document.modelValidate.mapError .raised

/-- The digest of an idempotency key, without its namespace: `digest[7:]`. -/
def idempotencyDigest [Sha256] (key : String × String) : String :=
  String.ofList ((sha256Digest (.obj [("tenant_id", .str key.1), ("key", .str key.2)])).toList.drop 7)

/-! ## The repository -/

/-- The collections, each document under its parent and its name. -/
structure FirestoreGovernanceRepository where
  plans : Dict ((String × String) × String) RemediationPlan
  approvals : Dict ((String × String) × String) ApprovalRequestFields
  approvalIndex : Dict (String × String) ApprovalRequestFields
  executions : Dict ((String × String) × String) ToolExecutionRecord
  idempotencyKeys : Dict (String × String) ToolExecutionRecord
  audit : Dict ((String × String) × String) AuditEvent
  auditIndex : Dict (String × String) AuditEvent

namespace FirestoreGovernanceRepository

/-- A database without documents. -/
def empty : FirestoreGovernanceRepository := ⟨.empty, .empty, .empty, .empty, .empty, .empty, .empty⟩

/-- A transaction raises and writes nothing, or returns with everything written. -/
def transact {α : Type} (repo : FirestoreGovernanceRepository)
    (body : Except GatewayExn (α × FirestoreGovernanceRepository)) :
    Except GatewayExn α × FirestoreGovernanceRepository :=
  match body with
  | .error e => (.error e, repo)
  | .ok (result, written) => (.ok result, written)

/-- A `RuntimeError` of the adapter. -/
def inconsistent (message : String) : GatewayExn := .raised (.other message)

section Methods

variable [Sha256]

/-- `create_approval_request`. The transaction creates documents only where it has read that there
are none. -/
def createApprovalRequest (record : ApprovalRequestRecord) (plan : RemediationPlan)
    (server : Time → Time) (repo : FirestoreGovernanceRepository) :
    Except GatewayExn ApprovalRequestRecord × FirestoreGovernanceRepository :=
  repo.transact do
    if calculatePlanHash plan ≠ record.planHash then
      throw (.gateway (gatewayConflictError "Approval request plan hash is not canonical."))
    let planReference ← planReference plan.tenantId plan.changeId plan.planId
    let approvalReference ← approvalReference record.tenantId record.changeId record.approvalId
    let indexReference ← approvalIndexReference record.tenantId record.approvalId
    let existingPlan := repo.plans.get? planReference
    if existingPlan.any fun existing => calculatePlanHash existing ≠ record.planHash then
      throw (.gateway (gatewayConflictError "A different plan already uses this plan identifier."))
    match repo.approvals.get? approvalReference, repo.approvalIndex.get? indexReference with
    | none, none =>
        let document := approvalDocument record true server
        return (record, { repo with
          plans := if existingPlan.isSome then repo.plans else repo.plans.set planReference plan
          approvals := repo.approvals.set approvalReference document
          approvalIndex := repo.approvalIndex.set indexReference document })
    | some document, some indexed =>
        let existingApproval ← readApproval document
        let indexedApproval ← readApproval indexed
        if existingApproval.toApprovalRequestFields ≠ indexedApproval.toApprovalRequestFields then
          throw (inconsistent "Approval index diverged from the authoritative record.")
        if existingPlan.any (·.pyEq plan) && sameApprovalRequest existingApproval record then
          return (existingApproval, repo)
        throw (.gateway (gatewayConflictError "Approval request identifier already exists."))
    | _, _ => throw (inconsistent "Approval request indexes are inconsistent.")

def getPlan (repo : FirestoreGovernanceRepository) (tenantId changeId planId : String) :
    Except GatewayExn RemediationPlan := do
  let reference ← planReference tenantId changeId planId
  match repo.plans.get? reference with
  | some plan => .ok plan
  | none => .error (.gateway (gatewayNotFoundError "plan"))

def getApprovalRequest (repo : FirestoreGovernanceRepository) (tenantId approvalId : String) :
    Except GatewayExn ApprovalRequestRecord := do
  let reference ← approvalIndexReference tenantId approvalId
  match repo.approvalIndex.get? reference with
  | some document => readApproval document
  | none => .error (.gateway (gatewayNotFoundError "approval"))

def decideApproval (call : DecideCall) (server : Time → Time)
    (repo : FirestoreGovernanceRepository) :
    Except GatewayExn ApprovalRequestRecord × FirestoreGovernanceRepository :=
  repo.transact do
    let indexReference ← approvalIndexReference call.tenantId call.approvalId
    match repo.approvalIndex.get? indexReference with
    | none => throw (.gateway (gatewayNotFoundError "approval"))
    | some indexedDocument =>
      let indexed ← readApproval indexedDocument
      let reference ← approvalReference call.tenantId indexed.changeId call.approvalId
      match repo.approvals.get? reference with
      | none => throw (inconsistent "Approval index points to a missing authoritative record.")
      | some document =>
        let current ← readApproval document
        if current.toApprovalRequestFields ≠ indexed.toApprovalRequestFields then
          throw (inconsistent "Approval index diverged from the authoritative record.")
        if current.status ≠ .PENDING then
          if sameApprovalDecision current call then return (current, repo)
          throw (.gateway (gatewayConflictError "Approval request already has a final decision."))
        if current.version ≠ call.expectedVersion then
          throw (.gateway (conflictError "Approval request version is stale." "VERSION_CONFLICT"))
        if current.expiresAt ≤ call.decidedAt then
          throw (.gateway (conflictError "Approval request has expired." "APPROVAL_EXPIRED"))
        if current.requestedBy = call.decidedBy then
          throw (.gateway (authorizationError
            "Separation of duties prevents the plan requester from approving it."))
        let updated ← readApproval (current.decidedDocument call)
        return (updated, { repo with
          approvals := repo.approvals.set reference (approvalDocument updated false server)
          approvalIndex := repo.approvalIndex.set indexReference
            (approvalDocument updated false server) })

/-- The approval that a reservation needs, as the transaction checks it. -/
def checkApproval (call : ReserveCall) (reference : Option ((String × String) × String))
    (repo : FirestoreGovernanceRepository) : Except GatewayExn Unit :=
  if call.decision.approvalRequired then
    match call.approval, reference with
    | some approval, some reference =>
        match repo.approvals.get? reference with
        | none => .error (.gateway approvalRequiredError)
        | some document => do
            let record ← readApproval document
            match ← record.asApproval with
            | none => throw (.gateway approvalRequiredError)
            | some current =>
                if current ≠ approval ∨ current.expiresAt ≤ call.now ∨
                    call.intent.stepId ∉ current.scope ∨
                    current.planHash ≠ call.intent.planHash then
                  throw (.gateway approvalRequiredError)
    | _, _ => .error (.gateway approvalRequiredError)
  else .ok ()

/-- The record that a reservation stores, or returns again, from what is stored under the
idempotency key. -/
def reservedRecord (call : ReserveCall) :
    Option ToolExecutionRecord → Except GatewayExn ExecutionReservation
  | some existing =>
      if existing.inputHash ≠ call.inputHash then
        .error (.gateway (conflictError
          "Idempotency key was already used for a different tool action." "IDEMPOTENCY_CONFLICT"))
      else if existing.status = .SUCCEEDED then .ok ⟨existing, true⟩
      else if existing.status = .RESERVED ∧ call.now < existing.updatedAt + Time.minutes 2 then
        .error (.gateway (conflictError
          "The idempotent tool action is already in progress." "EXECUTION_IN_PROGRESS"))
      else .ok ⟨existing.attemptedAgain call.intent call.decision.decisionId call.approvalId
        call.now, false⟩
  | none =>
      match digestStr call.inputHash with
      | .error e => .error (.raised e)
      | .ok inputHash =>
          .ok ⟨newExecution (GovernanceRepository.executionId call.key) inputHash call.intent
            call.decision.decisionId call.approvalId call.now, false⟩

/-- `reserve_execution`. -/
def reserveExecution (call : ReserveCall) (server : Time → Time)
    (repo : FirestoreGovernanceRepository) :
    Except GatewayExn ExecutionReservation × FirestoreGovernanceRepository :=
  repo.transact do
    let idempotencyReference ← idempotencyReference call.intent.tenantId (idempotencyDigest call.key)
    let executionReference ← executionReference call.intent.tenantId call.intent.changeId
      (GovernanceRepository.executionId call.key)
    let reference ← call.approvalId.mapM fun approvalId =>
      approvalReference call.intent.tenantId call.intent.changeId approvalId
    checkApproval call reference repo
    let reservation ← reservedRecord call (repo.idempotencyKeys.get? idempotencyReference)
    if reservation.replayed then return (reservation, repo)
    let document := executionDocument reservation.record server
    return (reservation, { repo with
      executions := repo.executions.set executionReference document
      idempotencyKeys := repo.idempotencyKeys.set idempotencyReference document })

/-- `_finish_execution`, for `complete_execution` and `fail_execution`. -/
def reportExecution (tenantId changeId executionId : String) (report : ExecutionReport)
    (server : Time → Time) (repo : FirestoreGovernanceRepository) :
    Except GatewayExn ToolExecutionRecord × FirestoreGovernanceRepository :=
  repo.transact do
    let reference ← executionReference tenantId changeId executionId
    match repo.executions.get? reference with
    | none => throw (.gateway (gatewayNotFoundError "tool execution"))
    | some current =>
      if hreserved : current.status = .RESERVED then
        let updated ← (current.reported hreserved report).mapError .raised
        let idempotencyReference ← idempotencyReference tenantId
          (idempotencyDigest (tenantId, current.idempotencyKey))
        let document := executionDocument updated server
        return (updated, { repo with
          executions := repo.executions.set reference document
          idempotencyKeys := repo.idempotencyKeys.set idempotencyReference document })
      else throw (.gateway (gatewayConflictError "Tool execution is not reserved."))

omit [Sha256] in
/-- `record_audit`. -/
def recordAudit (event : AuditEvent) (server : Time → Time) (repo : FirestoreGovernanceRepository) :
    Except GatewayExn Unit × FirestoreGovernanceRepository :=
  repo.transact do
    let reference ← governanceAuditReference event.tenantId event.changeId event.auditEventId
    let indexReference ← governanceAuditIndexReference event.tenantId event.auditEventId
    if (repo.audit.get? reference).isSome then
      throw (.gateway (gatewayConflictError "Audit event identifier already exists."))
    let document := auditDocument event server
    match repo.audit.create reference document, repo.auditIndex.create indexReference document with
    | some audit, some auditIndex => return ((), { repo with audit := audit, auditIndex := auditIndex })
    | _, _ => throw (inconsistent "AlreadyExists")

end Methods

/-! ### Queries -/

def listApprovalRequests (repo : FirestoreGovernanceRepository) (tenantId : String) (limit : Nat) :
    Except GatewayExn (List ApprovalRequestRecord) := do
  let tenantId ← documentId tenantId "tenant_id"
  let documents := (Documents.descending ApprovalRequestFields.requestedAt
    (Documents.collection repo.approvalIndex tenantId)).take limit
  documents.mapM fun document => readApproval document.2

def listAudit (repo : FirestoreGovernanceRepository) (tenantId : String) (limit : Nat) :
    Except GatewayExn (List AuditEvent) := do
  let tenantId ← documentId tenantId "tenant_id"
  let documents := (Documents.descending AuditEvent.createdAt
    (Documents.collection repo.auditIndex tenantId)).take limit
  return documents.map Prod.snd

end FirestoreGovernanceRepository

end ChangeOps
