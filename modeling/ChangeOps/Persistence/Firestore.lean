import ChangeOps.Lib.Documents
import ChangeOps.Persistence.AuditTrail

/-!
# ChangeOps.Persistence — the Firestore change repository

`FirestoreChangeStateRepository` (`changeops_persistence/firestore.py`). The documents of a tenant
lie at `changes/{change}`, `changes/{change}/audit/{event}` and `audit_index/{event}`; a collection
is a dictionary from its parent and a name to a document. Each method ends in at most one commit,
and a commit writes all of its documents or none.

`SERVER_TIMESTAMP` asks the server for the time of a field. A writing method therefore takes
`server`, which says what the server writes in place of the time that the caller's record has. The
integers of a record, its versions, are taken to fit the 64 bits that Firestore stores.
-/

namespace ChangeOps

/-! ## Document identifiers -/

def isDocumentIdChar (c : Char) : Bool := c.isAlphanum || c == '.' || c == '_' || c == ':' || c == '-'

/-- `_DOCUMENT_ID`. -/
def isDocumentId (value : String) : Bool :=
  match value.toList with
  | [] => false
  | first :: rest => first.isAlphanum && decide (rest.length ≤ 511) && rest.all isDocumentIdChar

/-- `_validate_document_id`. -/
def validateDocumentId (value fieldName : String) : Except Exn String :=
  if isDocumentId value then .ok value
  else .error (.other (fieldName ++ " is not a valid Firestore document identifier."))

theorem validateDocumentId_of_valid {value : String} (h : isDocumentId value = true)
    (fieldName : String) : validateDocumentId value fieldName = .ok value := by
  simp [validateDocumentId, h]

/-! ## Documents -/

/-- The document of a change: the fields of the record, which nothing has validated yet. -/
structure ChangeDocument where
  changeId : String
  tenantId : String
  eventId : String
  changeType : String
  title : String
  description : String
  source : ChangeSource
  environment : ChangeEnvironment
  status : WorkflowState
  riskLevel : RiskLevel
  currentPhase : WorkflowState
  workflowExecutionId : Option String
  planVersion : Nat
  planHash : Option String
  createdAt : Time
  updatedAt : Time
  createdBy : String
  version : Nat
deriving DecidableEq

/-- `_change_document`, as the server stores it. -/
def changeDocument (change : ChangeRecord) (serverCreatedAt : Bool) (server : Time → Time) :
    ChangeDocument where
  changeId := change.changeId
  tenantId := change.tenantId
  eventId := change.eventId
  changeType := change.changeType
  title := change.title
  description := change.description
  source := change.source
  environment := change.environment
  status := change.status
  riskLevel := change.riskLevel
  currentPhase := change.currentPhase
  workflowExecutionId := change.workflowExecutionId
  planVersion := change.planVersion
  planHash := change.planHash
  createdAt := if serverCreatedAt then server change.createdAt else change.createdAt
  updatedAt := server change.updatedAt
  createdBy := change.createdBy
  version := change.version

/-- `_change_from_snapshot`: `ChangeRecord.model_validate` on the stored document. -/
def ChangeDocument.modelValidate (document : ChangeDocument) : Except Exn ChangeRecord :=
  if hversion : 1 ≤ document.version then
    if hphase : document.currentPhase = document.status then
      if htimes : document.createdAt ≤ document.updatedAt then
        .ok
          { changeId := document.changeId
            tenantId := document.tenantId
            eventId := document.eventId
            changeType := document.changeType
            title := document.title
            description := document.description
            source := document.source
            environment := document.environment
            status := document.status
            riskLevel := document.riskLevel
            currentPhase := document.currentPhase
            workflowExecutionId := document.workflowExecutionId
            planVersion := document.planVersion
            planHash := document.planHash
            createdAt := document.createdAt
            updatedAt := document.updatedAt
            createdBy := document.createdBy
            version := document.version
            phase_eq := hphase
            created_le_updated := htimes
            version_pos := hversion }
      else .error (.validationError "updated_at cannot be earlier than created_at")
    else .error (.validationError "current_phase must match status")
  else .error (.validationError "Input should be greater than or equal to 1")

/-- A change reads back with the times that the server has stored. -/
theorem ChangeDocument.modelValidate_changeDocument {change : ChangeRecord} {serverCreatedAt : Bool}
    {server : Time → Time}
    (h : (if serverCreatedAt then server change.createdAt else change.createdAt) ≤
      server change.updatedAt) :
    (changeDocument change serverCreatedAt server).modelValidate = .ok
      { change with
        createdAt := if serverCreatedAt then server change.createdAt else change.createdAt
        updatedAt := server change.updatedAt
        created_le_updated := h } := by
  have hversion : 1 ≤ (changeDocument change serverCreatedAt server).version := change.version_pos
  have hphase : (changeDocument change serverCreatedAt server).currentPhase =
      (changeDocument change serverCreatedAt server).status := change.phase_eq
  have htimes : (changeDocument change serverCreatedAt server).createdAt ≤
      (changeDocument change serverCreatedAt server).updatedAt := h
  unfold modelValidate
  rw [dif_pos hversion, dif_pos hphase, dif_pos htimes]
  rfl

/-- `_audit_document`, as the server stores it. An audit event has nothing to validate that a
stored one could have lost, so a document of the trail is read as the event it is. -/
def auditDocument (auditEvent : AuditEvent) (server : Time → Time) : AuditEvent :=
  { auditEvent with createdAt := server auditEvent.createdAt }

/-! ## The repository -/

/-- The collections: `changes` and `audit_index` of a tenant, `audit` of a change. -/
structure FirestoreChangeStateRepository where
  changes : Dict (String × String) ChangeDocument
  audit : Dict ((String × String) × String) AuditEvent
  auditIndex : Dict (String × String) AuditEvent

namespace FirestoreChangeStateRepository

open InMemoryChangeStateRepository (bind_eq_ok)

/-- A database without documents. -/
def empty : FirestoreChangeStateRepository := ⟨.empty, .empty, .empty⟩

/-- `_change_reference`. -/
def changeReference (tenantId changeId : String) : Except Exn (String × String) := do
  let tenantId ← validateDocumentId tenantId "tenant_id"
  let changeId ← validateDocumentId changeId "change_id"
  return (tenantId, changeId)

/-- `_audit_reference`. -/
def auditReference (tenantId changeId auditEventId : String) :
    Except Exn ((String × String) × String) := do
  let auditEventId ← validateDocumentId auditEventId "audit_event_id"
  let collection ← changeReference tenantId changeId
  return (collection, auditEventId)

/-- `_audit_index_reference`. -/
def auditIndexReference (tenantId auditEventId : String) : Except Exn (String × String) := do
  let tenantId ← validateDocumentId tenantId "tenant_id"
  let auditEventId ← validateDocumentId auditEventId "audit_event_id"
  return (tenantId, auditEventId)

section References

variable {tenantId changeId auditEventId : String} (htenant : isDocumentId tenantId = true)
  (hchange : isDocumentId changeId = true) (hevent : isDocumentId auditEventId = true)
include htenant

include hchange in
theorem changeReference_of_valid : changeReference tenantId changeId = .ok (tenantId, changeId) := by
  simp [changeReference, validateDocumentId_of_valid, htenant, hchange, bind, Except.bind, pure,
    Except.pure]

include hchange hevent in
theorem auditReference_of_valid : auditReference tenantId changeId auditEventId =
    .ok ((tenantId, changeId), auditEventId) := by
  simp [auditReference, changeReference_of_valid htenant hchange, validateDocumentId_of_valid, hevent,
    bind, Except.bind, pure, Except.pure]

include hevent in
theorem auditIndexReference_of_valid :
    auditIndexReference tenantId auditEventId = .ok (tenantId, auditEventId) := by
  simp [auditIndexReference, validateDocumentId_of_valid, htenant, hevent, bind, Except.bind, pure,
    Except.pure]

end References

/-- What the client raises when a commit creates a document that exists. -/
def alreadyExists : Exn := .other "AlreadyExists"

/-- A method that raises, or commits. -/
def commit (repo : FirestoreChangeStateRepository)
    (writes : Except Exn FirestoreChangeStateRepository) :
    Except Exn Unit × FirestoreChangeStateRepository :=
  match writes with
  | .error e => (.error e, repo)
  | .ok written => (.ok (), written)

/-- The writes that end every audited transaction: both copies of the event. -/
def createAudit (repo : FirestoreChangeStateRepository) (auditReference : (String × String) × String)
    (indexReference : String × String) (document : AuditEvent) :
    Except Exn FirestoreChangeStateRepository :=
  match repo.audit.create auditReference document, repo.auditIndex.create indexReference document with
  | some audit, some auditIndex => .ok { repo with audit := audit, auditIndex := auditIndex }
  | _, _ => .error alreadyExists

theorem createAudit_of_new (repo : FirestoreChangeStateRepository)
    {auditReference : (String × String) × String} {indexReference : String × String}
    (haudit : repo.audit.get? auditReference = none)
    (hindex : repo.auditIndex.get? indexReference = none) (document : AuditEvent) :
    repo.createAudit auditReference indexReference document = .ok { repo with
      audit := repo.audit.set auditReference document
      auditIndex := repo.auditIndex.set indexReference document } := by
  unfold createAudit
  rw [Dict.create_of_none document haudit, Dict.create_of_none document hindex]

def add (change : ChangeRecord) (server : Time → Time) (repo : FirestoreChangeStateRepository) :
    Except Exn Unit × FirestoreChangeStateRepository :=
  repo.commit do
    let reference ← changeReference change.tenantId change.changeId
    match repo.changes.create reference (changeDocument change true server) with
    | some changes => return { repo with changes := changes }
    | none => throw (.changeAlreadyExists change.tenantId change.changeId)

/-- `_validate_audit_scope`. -/
def validateAuditScope (change : ChangeRecord) (auditEvent : AuditEvent) : Except Exn Unit :=
  if auditEvent.tenantId ≠ change.tenantId ∨ auditEvent.changeId ≠ change.changeId then
    .error (.tenantScopeViolation auditEvent.tenantId auditEvent.changeId)
  else .ok ()

/-- The check that the transactions make of the audit document they have read. -/
def ensureNewAudit (repo : FirestoreChangeStateRepository)
    (auditReference : (String × String) × String) (auditEvent : AuditEvent) : Except Exn Unit :=
  if (repo.audit.get? auditReference).isSome then
    .error (.auditEventAlreadyExists auditEvent.tenantId auditEvent.auditEventId)
  else .ok ()

def addWithAudit (change : ChangeRecord) (auditEvent : AuditEvent) (server : Time → Time)
    (repo : FirestoreChangeStateRepository) : Except Exn Unit × FirestoreChangeStateRepository :=
  repo.commit do
    validateAuditScope change auditEvent
    let changeReference ← changeReference change.tenantId change.changeId
    let auditReference ← auditReference change.tenantId change.changeId auditEvent.auditEventId
    let indexReference ← auditIndexReference change.tenantId auditEvent.auditEventId
    if (repo.changes.get? changeReference).isSome then
      throw (.changeAlreadyExists change.tenantId change.changeId)
    repo.ensureNewAudit auditReference auditEvent
    match repo.changes.create changeReference (changeDocument change true server) with
    | some changes =>
        createAudit { repo with changes := changes } auditReference indexReference
          (auditDocument auditEvent server)
    | none => throw alreadyExists

/-- The change that a transaction has read, if it exists. -/
def snapshot (repo : FirestoreChangeStateRepository) (tenantId changeId : String) :
    Except Exn ChangeDocument :=
  match repo.changes.get? (tenantId, changeId) with
  | some document => .ok document
  | none => .error (.changeNotFound tenantId changeId)

def get (repo : FirestoreChangeStateRepository) (tenantId changeId : String) :
    Except Exn ChangeRecord := do
  let (tenantId, changeId) ← changeReference tenantId changeId
  let document ← repo.snapshot tenantId changeId
  document.modelValidate

/-- The compare-and-set of the transaction. -/
def commitTransition (change : ChangeRecord) (auditEvent : AuditEvent) (expectedVersion : Nat)
    (server : Time → Time) (repo : FirestoreChangeStateRepository) :
    Except Exn Unit × FirestoreChangeStateRepository :=
  repo.commit do
    validateAuditScope change auditEvent
    let changeReference ← changeReference change.tenantId change.changeId
    let auditReference ← auditReference change.tenantId change.changeId auditEvent.auditEventId
    let indexReference ← auditIndexReference change.tenantId auditEvent.auditEventId
    let currentSnapshot ← repo.snapshot change.tenantId change.changeId
    repo.ensureNewAudit auditReference auditEvent
    let current ← currentSnapshot.modelValidate
    if current.version ≠ expectedVersion then
      throw (.optimisticConcurrency change.changeId expectedVersion current.version)
    if change.version ≠ expectedVersion + 1 then
      throw (.optimisticConcurrency change.changeId (expectedVersion + 1) change.version)
    createAudit
      { repo with changes := repo.changes.set changeReference (changeDocument change false server) }
      auditReference indexReference (auditDocument auditEvent server)

def recordAudit (auditEvent : AuditEvent) (server : Time → Time)
    (repo : FirestoreChangeStateRepository) : Except Exn Unit × FirestoreChangeStateRepository :=
  repo.commit do
    let _ ← changeReference auditEvent.tenantId auditEvent.changeId
    let auditReference ← auditReference auditEvent.tenantId auditEvent.changeId
      auditEvent.auditEventId
    let indexReference ← auditIndexReference auditEvent.tenantId auditEvent.auditEventId
    let _ ← repo.snapshot auditEvent.tenantId auditEvent.changeId
    repo.ensureNewAudit auditReference auditEvent
    createAudit repo auditReference indexReference (auditDocument auditEvent server)

/-! ### What a commit writes -/

theorem changes_createAudit {repo written : FirestoreChangeStateRepository}
    {auditReference : (String × String) × String} {indexReference : String × String}
    {document : AuditEvent}
    (h : repo.createAudit auditReference indexReference document = .ok written) :
    written.changes = repo.changes := by
  unfold createAudit at h
  split at h
  · cases h
    rfl
  · cases h

/-- Both copies of the audit are as they were, or one new event is in both. -/
inductive AuditWrite (repo repo' : FirestoreChangeStateRepository) : Prop where
  | none (haudit : repo'.audit = repo.audit) (hindex : repo'.auditIndex = repo.auditIndex)
  | event (tenantId changeId auditEventId : String) (document : AuditEvent)
      (hnew : repo.audit.get? ((tenantId, changeId), auditEventId) = .none)
      (hnewIndex : repo.auditIndex.get? (tenantId, auditEventId) = .none)
      (haudit : repo'.audit = repo.audit.set ((tenantId, changeId), auditEventId) document)
      (hindex : repo'.auditIndex = repo.auditIndex.set (tenantId, auditEventId) document)

theorem AuditWrite.of_createAudit {repo base written : FirestoreChangeStateRepository}
    {tenantId changeId auditEventId : String} {document : AuditEvent}
    (h : base.createAudit ((tenantId, changeId), auditEventId) (tenantId, auditEventId) document =
      .ok written) (haudit : base.audit = repo.audit) (hindex : base.auditIndex = repo.auditIndex) :
    AuditWrite repo written := by
  unfold createAudit at h
  split at h
  next audit auditIndex hcreate hcreateIndex =>
    obtain ⟨hnew, rfl⟩ := Dict.create_eq_some hcreate
    obtain ⟨hnewIndex, rfl⟩ := Dict.create_eq_some hcreateIndex
    cases h
    rw [haudit] at hnew
    rw [hindex] at hnewIndex
    exact .event tenantId changeId auditEventId document hnew hnewIndex
      (congrArg (Dict.set · _ document) haudit) (congrArg (Dict.set · _ document) hindex)
  next => cases h

theorem changeReference_of_ok {tenantId changeId : String} {reference : String × String}
    (h : changeReference tenantId changeId = .ok reference) : reference = (tenantId, changeId) := by
  unfold changeReference validateDocumentId at h
  split_ifs at h <;> cases h
  rfl

theorem auditReference_of_ok {tenantId changeId auditEventId : String}
    {reference : (String × String) × String}
    (h : auditReference tenantId changeId auditEventId = .ok reference) :
    reference = ((tenantId, changeId), auditEventId) := by
  unfold auditReference changeReference validateDocumentId at h
  split_ifs at h <;> cases h
  rfl

theorem auditIndexReference_of_ok {tenantId auditEventId : String} {reference : String × String}
    (h : auditIndexReference tenantId auditEventId = .ok reference) :
    reference = (tenantId, auditEventId) := by
  unfold auditIndexReference validateDocumentId at h
  split_ifs at h <;> cases h
  rfl

/-- A commit that is refused leaves the audit alone. -/
theorem AuditWrite.of_commit {repo : FirestoreChangeStateRepository}
    {writes : Except Exn FirestoreChangeStateRepository}
    (h : ∀ written, writes = .ok written → AuditWrite repo written) :
    AuditWrite repo (repo.commit writes).2 := by
  cases writes with
  | error e => exact .none rfl rfl
  | ok written => exact h written rfl

section Methods

variable (store : FirestoreChangeStateRepository) (server : Time → Time)

theorem auditWrite_add (change : ChangeRecord) : AuditWrite store (store.add change server).2 := by
  apply AuditWrite.of_commit
  intro written h
  obtain ⟨reference, -, h⟩ := bind_eq_ok h
  split at h
  · cases h
    exact .none rfl rfl
  · cases h

theorem auditWrite_addWithAudit (change : ChangeRecord) (event : AuditEvent) :
    AuditWrite store (store.addWithAudit change event server).2 := by
  apply AuditWrite.of_commit
  intro written h
  obtain ⟨_, -, h⟩ := bind_eq_ok h
  obtain ⟨reference, -, h⟩ := bind_eq_ok h
  obtain ⟨auditReference, haudit, h⟩ := bind_eq_ok h
  obtain ⟨indexReference, hindex, h⟩ := bind_eq_ok h
  rw [auditReference_of_ok haudit, auditIndexReference_of_ok hindex] at h
  split_ifs at h
  · obtain ⟨_, hthrow, -⟩ := bind_eq_ok h
    cases hthrow
  obtain ⟨_, -, h⟩ := bind_eq_ok h
  split at h
  · exact .of_createAudit h rfl rfl
  · cases h

theorem auditWrite_commitTransition (change : ChangeRecord) (event : AuditEvent)
    (expectedVersion : Nat) :
    AuditWrite store (store.commitTransition change event expectedVersion server).2 := by
  apply AuditWrite.of_commit
  intro written h
  obtain ⟨_, -, h⟩ := bind_eq_ok h
  obtain ⟨reference, -, h⟩ := bind_eq_ok h
  obtain ⟨auditReference, haudit, h⟩ := bind_eq_ok h
  obtain ⟨indexReference, hindex, h⟩ := bind_eq_ok h
  rw [auditReference_of_ok haudit, auditIndexReference_of_ok hindex] at h
  obtain ⟨snapshot, -, h⟩ := bind_eq_ok h
  obtain ⟨_, -, h⟩ := bind_eq_ok h
  obtain ⟨current, -, h⟩ := bind_eq_ok h
  dsimp only at h
  split at h
  · obtain ⟨_, hthrow, -⟩ := bind_eq_ok h
    cases hthrow
  split at h
  · obtain ⟨_, hthrow, -⟩ := bind_eq_ok h
    cases hthrow
  · exact .of_createAudit h rfl rfl

theorem auditWrite_recordAudit (event : AuditEvent) :
    AuditWrite store (store.recordAudit event server).2 := by
  apply AuditWrite.of_commit
  intro written h
  obtain ⟨reference, -, h⟩ := bind_eq_ok h
  obtain ⟨auditReference, haudit, h⟩ := bind_eq_ok h
  obtain ⟨indexReference, hindex, h⟩ := bind_eq_ok h
  rw [auditReference_of_ok haudit, auditIndexReference_of_ok hindex] at h
  obtain ⟨snapshot, -, h⟩ := bind_eq_ok h
  obtain ⟨_, -, h⟩ := bind_eq_ok h
  exact .of_createAudit h rfl rfl

/-- What `record_audit` writes besides the audit: nothing. -/
theorem changes_recordAudit (event : AuditEvent) :
    (store.recordAudit event server).2.changes = store.changes := by
  unfold recordAudit commit
  split
  next => rfl
  next written h =>
    obtain ⟨_, -, h⟩ := bind_eq_ok h
    obtain ⟨_, -, h⟩ := bind_eq_ok h
    obtain ⟨_, -, h⟩ := bind_eq_ok h
    obtain ⟨_, -, h⟩ := bind_eq_ok h
    obtain ⟨_, -, h⟩ := bind_eq_ok h
    exact changes_createAudit h

/-- A transition is refused and changes nothing, or it replaces the document of the change. -/
theorem changes_commitTransition (change : ChangeRecord) (event : AuditEvent)
    (expectedVersion : Nat) :
    (∃ e, store.commitTransition change event expectedVersion server = (.error e, store)) ∨
      ∃ written, store.commitTransition change event expectedVersion server = (.ok (), written) ∧
        written.changes = store.changes.set (change.tenantId, change.changeId)
          (changeDocument change false server) := by
  unfold commitTransition commit
  split
  next e _ => exact Or.inl ⟨e, rfl⟩
  next written h =>
    refine Or.inr ⟨written, rfl, ?_⟩
    obtain ⟨_, -, h⟩ := bind_eq_ok h
    obtain ⟨reference, hreference, h⟩ := bind_eq_ok h
    obtain ⟨_, -, h⟩ := bind_eq_ok h
    obtain ⟨_, -, h⟩ := bind_eq_ok h
    obtain ⟨_, -, h⟩ := bind_eq_ok h
    obtain ⟨_, -, h⟩ := bind_eq_ok h
    obtain ⟨_, -, h⟩ := bind_eq_ok h
    rw [changeReference_of_ok hreference] at h
    dsimp only at h
    split at h
    · obtain ⟨_, hthrow, -⟩ := bind_eq_ok h
      cases hthrow
    split at h
    · obtain ⟨_, hthrow, -⟩ := bind_eq_ok h
      cases hthrow
    · exact changes_createAudit h

end Methods

/-! ### Queries -/

def listChanges (repo : FirestoreChangeStateRepository) (tenantId : String) (limit : Nat) :
    Except Exn (List ChangeRecord) := do
  let tenantId ← validateDocumentId tenantId "tenant_id"
  let documents := (Documents.descending ChangeDocument.updatedAt
    (Documents.collection repo.changes tenantId)).take limit
  documents.mapM fun document => document.2.modelValidate

def listAuditAfter (repo : FirestoreChangeStateRepository) (tenantId changeId : String)
    (afterEventId : Option String) (limit : Nat) : Except Exn (List AuditEvent) := do
  let _ ← repo.get tenantId changeId
  let collection ← changeReference tenantId changeId
  let query := Documents.ascending AuditEvent.createdAt (Documents.collection repo.audit collection)
  match afterEventId with
  | none => return (query.take limit).map Prod.snd
  | some afterEventId =>
      let reference ← auditReference tenantId changeId afterEventId
      match repo.audit.get? reference with
      | none => throw (.other "AuditCursorNotFoundError")
      | some cursor =>
          let query := Documents.startAfter AuditEvent.createdAt (afterEventId, cursor) query
          return (query.take limit).map Prod.snd

def listAudit (repo : FirestoreChangeStateRepository) (tenantId changeId : String) :
    Except Exn (List AuditEvent) :=
  repo.listAuditAfter tenantId changeId none 10000

def listTenantAudit (repo : FirestoreChangeStateRepository) (tenantId : String) (limit : Nat) :
    Except Exn (List AuditEvent) := do
  let tenantId ← validateDocumentId tenantId "tenant_id"
  let documents := (Documents.descending AuditEvent.createdAt
    (Documents.collection repo.auditIndex tenantId)).take limit
  return documents.map Prod.snd

end FirestoreChangeStateRepository

end ChangeOps
