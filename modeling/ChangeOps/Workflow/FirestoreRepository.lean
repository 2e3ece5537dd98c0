import ChangeOps.Lib.Documents
import ChangeOps.Persistence.Firestore
import ChangeOps.Workflow.Alone
import ChangeOps.Workflow.Terminal

/-!
# ChangeOps.Workflow — the Firestore workflow repository

`FirestoreWorkflowRepository` (`changeops_workflow_coordinator/firestore_repository.py`) beside
`InMemoryWorkflowRepository`, which the coordinator's model runs on. A workflow lies at
`changes/{change}/workflows/{workflow}` of its tenant, a dead letter at `dead_letters/{id}`.

The server puts the time of the commit in place of `SERVER_TIMESTAMP`, so a stored workflow has other
times than the one that was handed in. `stamped` is that document. The two repositories answer a
sequence of calls alike up to these times; the server's clock must not go back, or the documents
would no longer validate. Every document is taken to be one that Firestore stores: no array stands
directly in an array, and integers fit 64 bits.
-/

namespace ChangeOps

/-! ## Documents -/

/-- `_document_id`. -/
def workflowDocumentId (value field : String) : Except Exn String :=
  if isDocumentId value then .ok value
  else .error (.valueError ("Invalid Firestore " ++ field ++ " document identifier."))

theorem workflowDocumentId_of_valid {value : String} (h : isDocumentId value = true)
    (field : String) : workflowDocumentId value field = .ok value := by
  simp [workflowDocumentId, h]

/-- `_reference`. -/
def workflowReference (tenantId changeId workflowId : String) :
    Except Exn ((String × String) × String) := do
  let tenantId ← workflowDocumentId tenantId "tenant_id"
  let changeId ← workflowDocumentId changeId "change_id"
  let workflowId ← workflowDocumentId workflowId "workflow_execution_id"
  return ((tenantId, changeId), workflowId)

/-- `_dead_letter_reference`. -/
def deadLetterReference (tenantId deadLetterId : String) : Except Exn (String × String) := do
  let tenantId ← workflowDocumentId tenantId "tenant_id"
  let deadLetterId ← workflowDocumentId deadLetterId "dead_letter_id"
  return (tenantId, deadLetterId)

theorem workflowReference_of_valid {tenantId changeId workflowId : String}
    (htenant : isDocumentId tenantId = true) (hchange : isDocumentId changeId = true)
    (hworkflow : isDocumentId workflowId = true) :
    workflowReference tenantId changeId workflowId = .ok ((tenantId, changeId), workflowId) := by
  simp [workflowReference, workflowDocumentId_of_valid, htenant, hchange, hworkflow, bind,
    Except.bind, pure, Except.pure]

theorem deadLetterReference_of_valid {tenantId deadLetterId : String}
    (htenant : isDocumentId tenantId = true) (hid : isDocumentId deadLetterId = true) :
    deadLetterReference tenantId deadLetterId = .ok (tenantId, deadLetterId) := by
  simp [deadLetterReference, workflowDocumentId_of_valid, htenant, hid, bind, Except.bind, pure,
    Except.pure]

/-- A workflow document with the times that the server writes. -/
def WorkflowFields.stamped (fields : WorkflowFields) (startedAt updatedAt : Time) : WorkflowFields :=
  { fields with startedAt := startedAt, updatedAt := updatedAt }

/-! ## The repository -/

/-- The collections: workflows of a change, dead letters of a tenant. -/
structure FirestoreWorkflowRepository where
  workflows : Dict ((String × String) × String) WorkflowFields
  deadLetters : Dict (String × String) DeadLetterRecord

namespace FirestoreWorkflowRepository

/-- A database without documents. -/
def empty : FirestoreWorkflowRepository := ⟨.empty, .empty⟩

/-- A transaction raises and writes nothing, or returns with everything written. -/
def transact {α : Type} (repo : FirestoreWorkflowRepository)
    (body : Except Exn (α × FirestoreWorkflowRepository)) :
    Except Exn α × FirestoreWorkflowRepository :=
  match body with
  | .error e => (.error e, repo)
  | .ok (result, written) => (.ok result, written)

section Methods

variable [Sha256]

/-- `create_or_get`; `server` is the time of the commit. -/
def createOrGet (record : WorkflowExecutionRecord) (server : Time)
    (repo : FirestoreWorkflowRepository) :
    Except Exn WorkflowExecutionRecord × FirestoreWorkflowRepository :=
  repo.transact do
    let reference ← workflowReference record.tenantId record.changeId record.workflowExecutionId
    match repo.workflows.get? reference with
    | some document =>
        let existing ← document.modelValidate
        if existing.eventId ≠ record.eventId then
          throw (.workflowConflict "Workflow identifier collision.")
        return (existing, repo)
    | none =>
        return (record, { repo with
          workflows := repo.workflows.set reference (record.stamped server server) })

def get (repo : FirestoreWorkflowRepository) (tenantId changeId workflowExecutionId : String) :
    Except Exn WorkflowExecutionRecord := do
  let reference ← workflowReference tenantId changeId workflowExecutionId
  match repo.workflows.get? reference with
  | some document => document.modelValidate
  | none => throw .workflowNotFound

/-- `update`: the stored start is kept, whatever the record says. -/
def update (record : WorkflowExecutionRecord) (expectedVersion : Nat) (server : Time)
    (repo : FirestoreWorkflowRepository) :
    Except Exn WorkflowExecutionRecord × FirestoreWorkflowRepository :=
  repo.transact do
    let reference ← workflowReference record.tenantId record.changeId record.workflowExecutionId
    match repo.workflows.get? reference with
    | some document =>
        let current ← document.modelValidate
        if current.version ≠ expectedVersion ∨ record.version ≠ expectedVersion + 1 then
          throw (.workflowConflict "The workflow version is stale.")
        return (record, { repo with
          workflows := repo.workflows.set reference (record.stamped current.startedAt server) })
    | none => throw .workflowNotFound

end Methods

/-- `record_dead_letter`. -/
def recordDeadLetter (record : DeadLetterRecord) (server : Time)
    (repo : FirestoreWorkflowRepository) :
    Except Exn DeadLetterRecord × FirestoreWorkflowRepository :=
  repo.transact do
    let reference ← deadLetterReference record.tenantId record.deadLetterId
    match repo.deadLetters.get? reference with
    | some existing =>
        if existing.inputHash ≠ record.inputHash then
          throw (.workflowConflict "Dead-letter identifier collision.")
        return (existing, repo)
    | none =>
        return (record, { repo with
          deadLetters := repo.deadLetters.set reference { record with createdAt := server } })

/-- `order_by("created_at", direction=DESCENDING)`, the first `limit` of them. -/
def listDeadLetters (repo : FirestoreWorkflowRepository) (tenantId : String) (limit : Nat) :
    Except Exn (List DeadLetterRecord) := do
  let tenantId ← workflowDocumentId tenantId "tenant_id"
  return ((Documents.descending DeadLetterRecord.createdAt
    (Documents.collection repo.deadLetters tenantId)).take limit).map Prod.snd

end FirestoreWorkflowRepository

/-! ## Listings of the in-memory repository -/

/-- `key=lambda item: (item.created_at, item.dead_letter_id), reverse=True`. -/
def deadLetterGe (a b : DeadLetterRecord) : Prop :=
  b.createdAt < a.createdAt ∨ (b.createdAt = a.createdAt ∧ b.deadLetterId ≤ a.deadLetterId)

instance : DecidableRel deadLetterGe := fun a b =>
  inferInstanceAs (Decidable (b.createdAt < a.createdAt ∨
    (b.createdAt = a.createdAt ∧ b.deadLetterId ≤ a.deadLetterId)))

section Agreement

variable [Sha256]

namespace InMemoryWorkflowRepository

/-- The dead letters of a tenant, in the order of the dictionary. -/
def deadLettersOf (repo : InMemoryWorkflowRepository) (tenantId : String) : List DeadLetterRecord :=
  (repo.deadLetters.entries.filter fun entry => entry.1.1 = tenantId).map Prod.snd

def listDeadLetters (repo : InMemoryWorkflowRepository) (tenantId : String) (limit : Nat) :
    List DeadLetterRecord :=
  ((repo.deadLettersOf tenantId).insertionSort deadLetterGe).take limit

theorem deadLettersOf_eq (repo : InMemoryWorkflowRepository) (tenantId : String) :
    repo.deadLettersOf tenantId =
      (Documents.collection repo.deadLetters tenantId).map Prod.snd := by
  rw [Documents.collection, List.map_map]
  rfl

end InMemoryWorkflowRepository

/-! ## The contract -/

/-- A call of `WorkflowRepository`. -/
inductive WorkflowOperation where
  | createOrGet (record : WorkflowExecutionRecord)
  | get (tenantId changeId workflowExecutionId : String)
  | update (record : WorkflowExecutionRecord) (expectedVersion : Nat)
  | recordDeadLetter (record : DeadLetterRecord)
  | listDeadLetters (tenantId : String) (limit : Nat)

/-- What a call returns. -/
inductive WorkflowAnswer where
  | workflow (fields : WorkflowFields)
  | deadLetter (record : DeadLetterRecord)
  | deadLetters (records : List DeadLetterRecord)

/-- A dead letter without the time that the server supplies. -/
def DeadLetterRecord.timeless (record : DeadLetterRecord) : DeadLetterRecord :=
  { record with createdAt := 0 }

/-- An answer without the times that the server supplies. -/
def WorkflowAnswer.timeless : WorkflowAnswer → WorkflowAnswer
  | .workflow fields => .workflow (fields.stamped 0 0)
  | .deadLetter record => .deadLetter record.timeless
  | .deadLetters records => .deadLetters (records.map DeadLetterRecord.timeless)

/-- What a method answers and leaves, with its result as an answer. -/
def workflowAnswered {α σ : Type} (answer : α → WorkflowAnswer) (outcome : Except Exn α × σ) :
    Except Exn WorkflowAnswer × σ :=
  (outcome.1.map answer, outcome.2)

namespace WorkflowOperation

def onMemory (repo : InMemoryWorkflowRepository) :
    WorkflowOperation → Except Exn WorkflowAnswer × InMemoryWorkflowRepository
  | .createOrGet record => workflowAnswered (.workflow ·.toWorkflowFields) (repo.createOrGet record)
  | .get tenantId changeId workflowId =>
      workflowAnswered (.workflow ·.toWorkflowFields) (repo.get tenantId changeId workflowId, repo)
  | .update record expectedVersion =>
      workflowAnswered (.workflow ·.toWorkflowFields) (repo.update record expectedVersion)
  | .recordDeadLetter record => workflowAnswered .deadLetter (repo.recordDeadLetter record)
  | .listDeadLetters tenantId limit =>
      workflowAnswered .deadLetters (.ok (repo.listDeadLetters tenantId limit), repo)

def onFirestore (server : Time) (repo : FirestoreWorkflowRepository) :
    WorkflowOperation → Except Exn WorkflowAnswer × FirestoreWorkflowRepository
  | .createOrGet record =>
      workflowAnswered (.workflow ·.toWorkflowFields) (repo.createOrGet record server)
  | .get tenantId changeId workflowId =>
      workflowAnswered (.workflow ·.toWorkflowFields) (repo.get tenantId changeId workflowId, repo)
  | .update record expectedVersion =>
      workflowAnswered (.workflow ·.toWorkflowFields) (repo.update record expectedVersion server)
  | .recordDeadLetter record => workflowAnswered .deadLetter (repo.recordDeadLetter record server)
  | .listDeadLetters tenantId limit =>
      workflowAnswered .deadLetters (repo.listDeadLetters tenantId limit, repo)

/-- The identifiers that the database adapter builds document paths from. -/
def documentIds : WorkflowOperation → List String
  | .createOrGet record => [record.tenantId, record.changeId, record.workflowExecutionId]
  | .get tenantId changeId workflowId => [tenantId, changeId, workflowId]
  | .update record _ => [record.tenantId, record.changeId, record.workflowExecutionId]
  | .recordDeadLetter record => [record.tenantId, record.deadLetterId]
  | .listDeadLetters tenantId _ => [tenantId]

/-- The dead letter that a call records, with the time of its commit. -/
def recorded? (server : Time) : WorkflowOperation → Option (DeadLetterRecord × Time)
  | .recordDeadLetter record => some (record, server)
  | _ => none

end WorkflowOperation

/-- Two dead letters of one tenant that the caller's clock and the server's put in one order. -/
def SameOrder (a b : DeadLetterRecord × Time) : Prop :=
  a.1.tenantId = b.1.tenantId → a.1.deadLetterId ≠ b.1.deadLetterId →
    (a.1.createdAt < b.1.createdAt ↔ a.2 < b.2) ∧ (b.1.createdAt < a.1.createdAt ↔ b.2 < a.2)

omit [Sha256] in
theorem SameOrder.symm {a b : DeadLetterRecord × Time} (h : SameOrder a b) : SameOrder b a := by
  intro htenant hid
  exact (h htenant.symm (Ne.symm hid)).symm

/-! ## Corresponding stores -/

/-- The stored document of a workflow: the workflow with server times that validate. -/
inductive StampedCopy (present : Time) : Option WorkflowExecutionRecord → Option WorkflowFields → Prop
  | absent : StampedCopy present none none
  | stored (record : WorkflowExecutionRecord) {startedAt updatedAt : Time}
      (hstarted : startedAt ≤ updatedAt) (hupdated : updatedAt ≤ present) :
      StampedCopy present (some record) (some (record.stamped startedAt updatedAt))

/-- A workflow with server times reads back as itself with these times. -/
theorem WorkflowExecutionRecord.modelValidate_stamped (record : WorkflowExecutionRecord)
    {startedAt updatedAt : Time} (h : startedAt ≤ updatedAt) :
    ∃ stored, (record.stamped startedAt updatedAt).modelValidate = .ok stored ∧
      stored.toWorkflowFields = record.stamped startedAt updatedAt := by
  have hplan : PlanMatches (record.stamped startedAt updatedAt)
      (record.stamped startedAt updatedAt).plan := by
    have hmatches := record.plan_matches
    show PlanMatches (record.stamped startedAt updatedAt) record.plan
    cases hrecord : record.plan with
    | none =>
      rw [hrecord] at hmatches
      exact hmatches
    | some plan =>
      rw [hrecord] at hmatches
      exact hmatches
  obtain ⟨stored, hstored⟩ : ∃ stored, (record.stamped startedAt updatedAt).modelValidate =
      .ok stored :=
    WorkflowFields.modelValidate_ok record.error_code_checked record.event_scope h
      record.plan_paired hplan record.terminal_iff
  refine ⟨stored, hstored, ?_⟩
  -- the error code has been stripped before
  rw [WorkflowFields.modelValidate_of_ok hstored]
  have hcode : record.lastErrorCode = record.lastErrorCode.map stripWhitespace :=
    (nonEmptyStrOrNone_of_ok record.error_code_checked).1
  show { record.stamped startedAt updatedAt with
    lastErrorCode := record.lastErrorCode.map stripWhitespace } = record.stamped startedAt updatedAt
  rw [← hcode]
  rfl

/-- The database holds what the dictionaries hold, up to the times of the server. `later` are the
dead letters that the calls to come record. -/
structure WorkflowMirrors (present : Time) (later : List (DeadLetterRecord × Time))
    (repo : InMemoryWorkflowRepository) (store : FirestoreWorkflowRepository) : Prop where
  workflows : ∀ tenantId changeId workflowId,
    StampedCopy present (repo.stored? (tenantId, changeId, workflowId))
      (store.workflows.get? ((tenantId, changeId), workflowId))
  deadLetters : ∀ key, (store.deadLetters.get? key).map DeadLetterRecord.timeless =
    (repo.deadLetters.get? key).map DeadLetterRecord.timeless
  deadLetter_keyed : ∀ key record, repo.deadLetters.get? key = some record →
    (record.tenantId, record.deadLetterId) = key
  ordered : ∀ key key' record document record' document',
    repo.deadLetters.get? key = some record → store.deadLetters.get? key = some document →
    repo.deadLetters.get? key' = some record' → store.deadLetters.get? key' = some document' →
    SameOrder (record, document.createdAt) (record', document'.createdAt)
  later : ∀ key record document, repo.deadLetters.get? key = some record →
    store.deadLetters.get? key = some document → ∀ new ∈ later,
      SameOrder (record, document.createdAt) new

/-- A call answers alike on both repositories, up to the times, and leaves corresponding stores. -/
structure WorkflowAlike (present : Time) (later : List (DeadLetterRecord × Time))
    (memory : Except Exn WorkflowAnswer × InMemoryWorkflowRepository)
    (firestore : Except Exn WorkflowAnswer × FirestoreWorkflowRepository) : Prop where
  result : memory.1.map WorkflowAnswer.timeless = firestore.1.map WorkflowAnswer.timeless
  stores : WorkflowMirrors present later memory.2 firestore.2

theorem StampedCopy.mono {present present' : Time} {record? : Option WorkflowExecutionRecord}
    {document? : Option WorkflowFields} (h : StampedCopy present record? document?)
    (hle : present ≤ present') : StampedCopy present' record? document? := by
  cases h with
  | absent => exact .absent
  | stored record hstarted hupdated => exact .stored record hstarted (Nat.le_trans hupdated hle)

namespace WorkflowMirrors

variable {present server : Time} {later : List (DeadLetterRecord × Time)}
  {repo : InMemoryWorkflowRepository} {store : FirestoreWorkflowRepository}

theorem empty (later : List (DeadLetterRecord × Time)) :
    WorkflowMirrors present later .empty .empty where
  workflows _ _ _ := .absent
  deadLetters _ := rfl
  deadLetter_keyed _ _ h := by cases h
  ordered _ _ _ _ _ _ h := by cases h
  later _ _ _ h := by cases h

/-- Time passes. -/
theorem mono (h : WorkflowMirrors present later repo store) (hle : present ≤ server) :
    WorkflowMirrors server later repo store :=
  { h with workflows := fun tenantId changeId workflowId =>
      (h.workflows tenantId changeId workflowId).mono hle }

/-- A workflow is written. -/
theorem put (h : WorkflowMirrors present later repo store) (record : WorkflowExecutionRecord)
    {startedAt updatedAt : Time} (hstarted : startedAt ≤ updatedAt) (hupdated : updatedAt ≤ present) :
    WorkflowMirrors present later (repo.put record) { store with
      workflows := store.workflows.set ((record.tenantId, record.changeId), record.workflowExecutionId)
        (record.stamped startedAt updatedAt) } where
  workflows := by
    intro tenantId changeId workflowId
    by_cases hkey : (tenantId, changeId, workflowId) = record.key
    · rw [hkey, InMemoryWorkflowRepository.stored?_put_self]
      cases hkey
      rw [Dict.get?_set_self]
      exact .stored record hstarted hupdated
    · have hpath : ((tenantId, changeId), workflowId) ≠
          ((record.tenantId, record.changeId), record.workflowExecutionId) := by
        intro heq
        cases heq
        exact hkey rfl
      rw [InMemoryWorkflowRepository.stored?_put_ne repo hkey, Dict.get?_set_ne _ _ hpath]
      exact h.workflows tenantId changeId workflowId
  deadLetters := h.deadLetters
  deadLetter_keyed := h.deadLetter_keyed
  ordered := h.ordered
  later := h.later

/-- What both repositories have of a workflow. -/
theorem read (h : WorkflowMirrors present later repo store) (tenantId changeId workflowId : String) :
    (repo.stored? (tenantId, changeId, workflowId) = none ∧
      store.workflows.get? ((tenantId, changeId), workflowId) = none) ∨
    ∃ record startedAt updatedAt stored, repo.stored? (tenantId, changeId, workflowId) = some record ∧
      store.workflows.get? ((tenantId, changeId), workflowId) =
        some (record.stamped startedAt updatedAt) ∧
      startedAt ≤ present ∧ (record.stamped startedAt updatedAt).modelValidate = .ok stored ∧
      stored.toWorkflowFields = record.stamped startedAt updatedAt := by
  have hcopy := h.workflows tenantId changeId workflowId
  generalize repo.stored? (tenantId, changeId, workflowId) = record? at hcopy
  generalize store.workflows.get? ((tenantId, changeId), workflowId) = document? at hcopy
  cases hcopy with
  | absent => exact .inl ⟨rfl, rfl⟩
  | stored record hstarted hupdated =>
    obtain ⟨stored, hvalid, hfields⟩ := record.modelValidate_stamped hstarted
    exact .inr ⟨record, _, _, stored, rfl, rfl, Nat.le_trans hstarted hupdated, hvalid, hfields⟩

/-! ### The methods -/

/-- A copy with other times is the same answer. -/
theorem workflow_timeless {record stored : WorkflowExecutionRecord} {startedAt updatedAt : Time}
    (h : stored.toWorkflowFields = record.stamped startedAt updatedAt) :
    (Except.ok (WorkflowAnswer.workflow record.toWorkflowFields).timeless :
      Except Exn WorkflowAnswer) =
      .ok (WorkflowAnswer.workflow stored.toWorkflowFields).timeless := by
  rw [h]
  rfl

theorem createOrGet (h : WorkflowMirrors server later repo store) (record : WorkflowExecutionRecord)
    (hvalid : ∀ id ∈ (WorkflowOperation.createOrGet record).documentIds, isDocumentId id = true) :
    WorkflowAlike server later ((WorkflowOperation.createOrGet record).onMemory repo)
      ((WorkflowOperation.createOrGet record).onFirestore server store) := by
  simp only [WorkflowOperation.documentIds, List.forall_mem_cons] at hvalid
  have hreference := workflowReference_of_valid hvalid.1 hvalid.2.1 hvalid.2.2.1
  simp only [WorkflowOperation.onMemory, WorkflowOperation.onFirestore, workflowAnswered,
    InMemoryWorkflowRepository.createOrGet, FirestoreWorkflowRepository.createOrGet, hreference, bind,
    Except.bind]
  rcases h.read record.tenantId record.changeId record.workflowExecutionId with
    ⟨hmemory, hstore⟩ | ⟨existing, startedAt, updatedAt, stored, hmemory, hstore, -, hread, hfields⟩
  · have hkey : repo.stored? record.key = none := hmemory
    simp only [hkey, hstore]
    exact ⟨rfl, h.put record (Nat.le_refl server) (Nat.le_refl server)⟩
  · have hkey : repo.stored? record.key = some existing := hmemory
    have hevent : stored.eventId = existing.eventId := by rw [hfields]; rfl
    simp only [hkey, hstore, hread, hevent]
    by_cases hsame : existing.eventId = record.eventId
    · rw [if_neg (not_not_intro hsame), if_neg (not_not_intro hsame)]
      exact ⟨workflow_timeless hfields, h⟩
    · rw [if_pos hsame, if_pos hsame]
      exact ⟨rfl, h⟩

theorem get (h : WorkflowMirrors server later repo store) (tenantId changeId workflowId : String)
    (hvalid : ∀ id ∈ (WorkflowOperation.get tenantId changeId workflowId).documentIds,
      isDocumentId id = true) :
    WorkflowAlike server later ((WorkflowOperation.get tenantId changeId workflowId).onMemory repo)
      ((WorkflowOperation.get tenantId changeId workflowId).onFirestore server store) := by
  simp only [WorkflowOperation.documentIds, List.forall_mem_cons] at hvalid
  have hreference := workflowReference_of_valid hvalid.1 hvalid.2.1 hvalid.2.2.1
  simp only [WorkflowOperation.onMemory, WorkflowOperation.onFirestore, workflowAnswered,
    InMemoryWorkflowRepository.get, FirestoreWorkflowRepository.get, hreference, bind, Except.bind]
  rcases h.read tenantId changeId workflowId with
    ⟨hmemory, hstore⟩ | ⟨record, startedAt, updatedAt, stored, hmemory, hstore, -, hread, hfields⟩
  · simp only [hmemory, hstore]
    exact ⟨rfl, h⟩
  · simp only [hmemory, hstore, hread]
    exact ⟨workflow_timeless hfields, h⟩

theorem update (h : WorkflowMirrors server later repo store) (record : WorkflowExecutionRecord)
    (expectedVersion : Nat)
    (hvalid : ∀ id ∈ (WorkflowOperation.update record expectedVersion).documentIds,
      isDocumentId id = true) :
    WorkflowAlike server later ((WorkflowOperation.update record expectedVersion).onMemory repo)
      ((WorkflowOperation.update record expectedVersion).onFirestore server store) := by
  simp only [WorkflowOperation.documentIds, List.forall_mem_cons] at hvalid
  have hreference := workflowReference_of_valid hvalid.1 hvalid.2.1 hvalid.2.2.1
  simp only [WorkflowOperation.onMemory, WorkflowOperation.onFirestore, workflowAnswered,
    InMemoryWorkflowRepository.update, FirestoreWorkflowRepository.update, hreference, bind,
    Except.bind]
  rcases h.read record.tenantId record.changeId record.workflowExecutionId with
    ⟨hmemory, hstore⟩ | ⟨current, startedAt, updatedAt, stored, hmemory, hstore, hpast, hread, hfields⟩
  · have hkey : repo.stored? record.key = none := hmemory
    simp only [hkey, hstore]
    exact ⟨rfl, h⟩
  · have hkey : repo.stored? record.key = some current := hmemory
    have hversion : stored.version = current.version := by rw [hfields]; rfl
    have hstarted : stored.startedAt = startedAt := by rw [hfields]; rfl
    simp only [hkey, hstore, hread, hversion, hstarted]
    by_cases hstale : current.version ≠ expectedVersion ∨ record.version ≠ expectedVersion + 1
    · rw [if_pos hstale, if_pos hstale]
      exact ⟨rfl, h⟩
    · rw [if_neg hstale, if_neg hstale]
      exact ⟨rfl, h.put record hpast (Nat.le_refl server)⟩

/-- The stored copy of a dead letter, which has another time. -/
theorem deadLetter_cases (h : WorkflowMirrors present later repo store) (key : String × String) :
    (repo.deadLetters.get? key = none ∧ store.deadLetters.get? key = none) ∨
    ∃ record document, repo.deadLetters.get? key = some record ∧
      store.deadLetters.get? key = some document ∧ document.timeless = record.timeless := by
  have htimeless := h.deadLetters key
  cases hmemory : repo.deadLetters.get? key with
  | none =>
    rw [hmemory, Option.map_none, Option.map_eq_none_iff] at htimeless
    exact .inl ⟨rfl, htimeless⟩
  | some record =>
    rw [hmemory, Option.map_some, Option.map_eq_some_iff] at htimeless
    obtain ⟨document, hstore, heq⟩ := htimeless
    exact .inr ⟨record, document, rfl, hstore, heq⟩

theorem recordDeadLetter {record : DeadLetterRecord}
    (h : WorkflowMirrors server ((record, server) :: later) repo store)
    (hlater : ∀ new ∈ later, SameOrder (record, server) new)
    (hvalid : ∀ id ∈ (WorkflowOperation.recordDeadLetter record).documentIds,
      isDocumentId id = true) :
    WorkflowAlike server later ((WorkflowOperation.recordDeadLetter record).onMemory repo)
      ((WorkflowOperation.recordDeadLetter record).onFirestore server store) := by
  simp only [WorkflowOperation.documentIds, List.forall_mem_cons] at hvalid
  have hreference := deadLetterReference_of_valid hvalid.1 hvalid.2.1
  have hweak : WorkflowMirrors server later repo store :=
    { h with later := fun key stored document hmemory hstore new hmem =>
        h.later key stored document hmemory hstore new (List.mem_cons_of_mem _ hmem) }
  simp only [WorkflowOperation.onMemory, WorkflowOperation.onFirestore, workflowAnswered,
    InMemoryWorkflowRepository.recordDeadLetter, FirestoreWorkflowRepository.recordDeadLetter,
    hreference, bind, Except.bind]
  rcases h.deadLetter_cases (record.tenantId, record.deadLetterId) with
    ⟨hmemory, hstore⟩ | ⟨existing, document, hmemory, hstore, hcopy⟩
  · simp only [hmemory, hstore]
    refine ⟨rfl, ?_⟩
    -- the new dead letter keeps its order with those that are stored and those to come
    have hwritten : ∀ {key stored document},
        (repo.deadLetters.set (record.tenantId, record.deadLetterId) record).get? key = some stored →
        (store.deadLetters.set (record.tenantId, record.deadLetterId)
          { record with createdAt := server }).get? key = some document →
        (stored = record ∧ document.createdAt = server ∧
          key = (record.tenantId, record.deadLetterId)) ∨
        (repo.deadLetters.get? key = some stored ∧ store.deadLetters.get? key = some document) := by
      intro key stored document hstored hdocument
      rw [Dict.get?_set] at hstored hdocument
      split_ifs at hstored hdocument with hkey
      · cases hstored
        cases hdocument
        exact .inl ⟨rfl, rfl, hkey⟩
      · exact .inr ⟨hstored, hdocument⟩
    exact
      { workflows := hweak.workflows
        deadLetters := by
          intro key
          show ((store.deadLetters.set _ _).get? key).map _ = ((repo.deadLetters.set _ _).get? key).map _
          rw [Dict.get?_set, Dict.get?_set]
          split_ifs
          · rfl
          · exact h.deadLetters key
        deadLetter_keyed := by
          intro key stored hstored
          rw [Dict.get?_set] at hstored
          split_ifs at hstored with hkey
          · cases hstored
            exact hkey.symm
          · exact h.deadLetter_keyed key stored hstored
        ordered := by
          intro key key' stored document stored' document' hs hd hs' hd'
          rcases hwritten hs hd with ⟨rfl, htime, -⟩ | ⟨hold, hold'⟩
          · rcases hwritten hs' hd' with ⟨rfl, -, -⟩ | ⟨hold, hold'⟩
            · exact fun _ hid => absurd rfl hid
            · rw [htime]
              exact (h.later _ _ _ hold hold' _ List.mem_cons_self).symm
          · rcases hwritten hs' hd' with ⟨rfl, htime, -⟩ | ⟨hother, hother'⟩
            · rw [htime]
              exact h.later _ _ _ hold hold' _ List.mem_cons_self
            · exact h.ordered _ _ _ _ _ _ hold hold' hother hother'
        later := by
          intro key stored document hs hd new hmem
          rcases hwritten hs hd with ⟨rfl, htime, -⟩ | ⟨hold, hold'⟩
          · rw [htime]
            exact hlater new hmem
          · exact hweak.later key stored document hold hold' new hmem }
  · have hsameHash : document.timeless.inputHash = existing.timeless.inputHash := by rw [hcopy]
    have hhash : document.inputHash = existing.inputHash := hsameHash
    simp only [hmemory, hstore, hhash]
    by_cases hsame : existing.inputHash = record.inputHash
    · rw [if_neg (not_not_intro hsame), if_neg (not_not_intro hsame)]
      exact ⟨congrArg (fun letter => Except.ok (WorkflowAnswer.deadLetter letter)) hcopy.symm, hweak⟩
    · rw [if_pos hsame, if_pos hsame]
      exact ⟨rfl, hweak⟩

/-- Both list the dead letters of a tenant in one order. -/
theorem listDeadLetters (h : WorkflowMirrors server later repo store) (tenantId : String) (limit : Nat)
    (hvalid : ∀ id ∈ (WorkflowOperation.listDeadLetters tenantId limit).documentIds,
      isDocumentId id = true) :
    WorkflowAlike server later ((WorkflowOperation.listDeadLetters tenantId limit).onMemory repo)
      ((WorkflowOperation.listDeadLetters tenantId limit).onFirestore server store) := by
  simp only [WorkflowOperation.documentIds, List.forall_mem_cons] at hvalid
  have htenant : workflowDocumentId tenantId "tenant_id" = .ok tenantId :=
    workflowDocumentId_of_valid hvalid.1 _
  let letters := Documents.collection repo.deadLetters tenantId
  let copy : String × DeadLetterRecord → String × DeadLetterRecord := fun entry =>
    (entry.1, (store.deadLetters.get? (tenantId, entry.1)).getD entry.2)
  -- what the database has in place of a dead letter
  have hcopy : ∀ entry ∈ letters, repo.deadLetters.get? (tenantId, entry.1) = some entry.2 ∧
      store.deadLetters.get? (tenantId, entry.1) = some (copy entry).2 ∧
      (copy entry).2.timeless = entry.2.timeless := by
    intro entry hmem
    have hmemory := Documents.mem_collection.mp hmem
    rcases h.deadLetter_cases (tenantId, entry.1) with ⟨hnone, -⟩ | ⟨record, document, hm, hs, heq⟩
    · rw [hmemory] at hnone
      cases hnone
    · rw [hmemory] at hm
      cases hm
      have hdocument : (copy entry).2 = document := by
        show (store.deadLetters.get? (tenantId, entry.1)).getD entry.2 = document
        rw [hs, Option.getD_some]
      rw [hdocument]
      exact ⟨hmemory, hs, heq⟩
  have hperm : (Documents.collection store.deadLetters tenantId).Perm (letters.map copy) := by
    apply Documents.collection_perm
    · rw [List.map_map]
      exact Documents.nodup_names repo.deadLetters tenantId
    · intro name document
      rw [List.mem_map]
      constructor
      · rintro ⟨entry, hmem, heq⟩
        cases heq
        exact (hcopy entry hmem).2.1
      · intro hget
        rcases h.deadLetter_cases (tenantId, name) with ⟨-, hnone⟩ | ⟨record, document', hm, hs, -⟩
        · rw [hget] at hnone
          cases hnone
        · have hmem : (name, record) ∈ letters := Documents.mem_collection.mpr hm
          refine ⟨(name, record), hmem, ?_⟩
          have hstored := (hcopy _ hmem).2.1
          rw [hget] at hstored
          exact Prod.ext rfl (Option.some.inj hstored).symm
  have hle : ∀ a ∈ letters, ∀ b ∈ letters, deadLetterGe a.2 b.2 ↔
      Documents.fieldGe DeadLetterRecord.createdAt (copy a) (copy b) := by
    intro a ha b hb
    obtain ⟨hma, hsa, -⟩ := hcopy a ha
    obtain ⟨hmb, hsb, -⟩ := hcopy b hb
    have hka := h.deadLetter_keyed _ _ hma
    have hkb := h.deadLetter_keyed _ _ hmb
    simp only [Prod.mk.injEq] at hka hkb
    unfold deadLetterGe Documents.fieldGe Documents.fieldLe
    rw [hka.2, hkb.2]
    by_cases hname : a.1 = b.1
    · rw [hname, hmb] at hma
      rw [hname, hsb] at hsa
      rw [← Option.some.inj hma, ← Option.some.inj hsa]
      simp [copy, hname]
    · have horder := h.ordered _ _ _ _ _ _ hma hsa hmb hsb (hka.1.trans hkb.1.symm)
        (fun heq => hname (by rw [← hka.2, ← hkb.2]; exact heq))
      dsimp only at horder
      have hlt : b.2.createdAt < a.2.createdAt ↔ (copy b).2.createdAt < (copy a).2.createdAt :=
        horder.2
      have heq : b.2.createdAt = a.2.createdAt ↔ (copy b).2.createdAt = (copy a).2.createdAt := by
        rw [le_antisymm_iff, le_antisymm_iff, ← not_lt, ← not_lt, ← not_lt, ← not_lt, hlt]
        exact and_congr_left fun _ => not_congr horder.1
      exact or_congr hlt (and_congr_left fun _ => heq)
  have hsorted := Documents.query_eq (Documents.fieldGe DeadLetterRecord.createdAt)
    (fun a b : String × DeadLetterRecord => deadLetterGe a.2 b.2)
    (fun hab hba => Documents.name_eq_of_fieldLe hba hab) copy hle hperm
  have hmemory : repo.listDeadLetters tenantId limit =
      ((letters.insertionSort fun a b => deadLetterGe a.2 b.2).take limit).map Prod.snd := by
    rw [InMemoryWorkflowRepository.listDeadLetters, InMemoryWorkflowRepository.deadLettersOf_eq,
      List.map_take, List.map_insertionSort _ deadLetterGe Prod.snd letters fun _ _ _ _ => Iff.rfl]
  simp only [WorkflowOperation.onMemory, WorkflowOperation.onFirestore, workflowAnswered,
    FirestoreWorkflowRepository.listDeadLetters, htenant, Documents.descending, hsorted, bind,
    Except.bind, pure, Except.pure]
  refine ⟨congrArg (fun letters => Except.ok (WorkflowAnswer.deadLetters letters)) ?_, h⟩
  rw [hmemory, ← List.map_take, List.map_map, List.map_map, List.map_map]
  apply List.map_congr_left
  intro entry hmem
  exact (hcopy entry ((List.mem_insertionSort _).mp (List.mem_of_mem_take hmem))).2.2.symm

/-- **One call.** Corresponding stores answer alike, up to the times of the server, and stay
corresponding stores. -/
theorem step {operation : WorkflowOperation}
    (h : WorkflowMirrors present ((operation.recorded? server).toList ++ later) repo store)
    (hclock : present ≤ server)
    (hlater : ∀ recorded ∈ operation.recorded? server, ∀ new ∈ later, SameOrder recorded new)
    (hvalid : ∀ id ∈ operation.documentIds, isDocumentId id = true) :
    WorkflowAlike server later (operation.onMemory repo) (operation.onFirestore server store) := by
  have hnow := h.mono hclock
  cases operation with
  | createOrGet record => exact hnow.createOrGet record hvalid
  | get tenantId changeId workflowId => exact hnow.get tenantId changeId workflowId hvalid
  | update record expectedVersion => exact hnow.update record expectedVersion hvalid
  | recordDeadLetter record => exact hnow.recordDeadLetter (hlater _ rfl) hvalid
  | listDeadLetters tenantId limit => exact hnow.listDeadLetters tenantId limit hvalid

end WorkflowMirrors

/-! ## Histories of a document -/

/-- What can happen to a stored workflow: its start stays, and its version says how far it is. -/
structure WorkflowFields.Continues (document document' : WorkflowFields) : Prop where
  startedAt : document'.startedAt = document.startedAt
  version : document.version ≤ document'.version
  same : document'.version = document.version → document' = document

omit [Sha256] in
theorem WorkflowFields.Continues.refl (document : WorkflowFields) : document.Continues document :=
  ⟨rfl, Nat.le_refl _, fun _ => rfl⟩

omit [Sha256] in
theorem WorkflowFields.Continues.trans {a b c : WorkflowFields} (hab : a.Continues b)
    (hbc : b.Continues c) : a.Continues c where
  startedAt := hbc.startedAt.trans hab.startedAt
  version := Nat.le_trans hab.version hbc.version
  same heq := by
    have hb : b.version = a.version :=
      Nat.le_antisymm (Nat.le_trans hbc.version (Nat.le_of_eq heq)) hab.version
    rw [hbc.same (heq.trans hb.symm), hab.same hb]

/-- A call leaves each stored workflow, or continues it. -/
theorem WorkflowOperation.continues (operation : WorkflowOperation) (server : Time)
    {store : FirestoreWorkflowRepository} {reference : (String × String) × String}
    {document : WorkflowFields} (h : store.workflows.get? reference = some document) :
    ∃ document', (operation.onFirestore server store).2.workflows.get? reference = some document' ∧
      document.Continues document' := by
  have hsame : ∃ document', store.workflows.get? reference = some document' ∧
      document.Continues document' := ⟨document, h, .refl document⟩
  cases operation with
  | get | listDeadLetters => exact hsame
  | recordDeadLetter record =>
    simp only [onFirestore, workflowAnswered, FirestoreWorkflowRepository.recordDeadLetter]
    cases deadLetterReference record.tenantId record.deadLetterId with
    | error e => exact hsame
    | ok path =>
      simp only [bind, Except.bind]
      split
      · split_ifs
        · exact hsame
        · exact hsame
      · exact hsame
  | createOrGet record =>
    simp only [onFirestore, workflowAnswered, FirestoreWorkflowRepository.createOrGet]
    cases workflowReference record.tenantId record.changeId record.workflowExecutionId with
    | error e => exact hsame
    | ok path =>
      simp only [bind, Except.bind]
      cases hget : store.workflows.get? path with
      | some existing =>
        dsimp only
        cases existing.modelValidate with
        | error e => exact hsame
        | ok stored =>
          dsimp only
          split_ifs
          · exact hsame
          · exact hsame
      | none =>
        refine ⟨document, ?_, .refl document⟩
        have hne : reference ≠ path := by
          rintro rfl
          rw [h] at hget
          cases hget
        exact (Dict.get?_set_ne _ _ hne).trans h
  | update record expectedVersion =>
    simp only [onFirestore, workflowAnswered, FirestoreWorkflowRepository.update]
    cases workflowReference record.tenantId record.changeId record.workflowExecutionId with
    | error e => exact hsame
    | ok path =>
      simp only [bind, Except.bind]
      cases hget : store.workflows.get? path with
      | none => exact hsame
      | some existing =>
        dsimp only
        cases hread : existing.modelValidate with
        | error e => exact hsame
        | ok current =>
          dsimp only
          split_ifs with hstale
          · exact hsame
          · by_cases hpath : reference = path
            · -- the version goes up by one, and the start is that of the stored document
              rw [← hpath, h] at hget
              cases hget
              have hcurrent := WorkflowFields.modelValidate_of_ok hread
              have hversion : current.version = document.version := by rw [hcurrent]
              have hstarted : current.startedAt = document.startedAt := by rw [hcurrent]
              push Not at hstale
              have hnext : record.version = document.version + 1 := by
                rw [hstale.2, ← hstale.1, hversion]
              refine ⟨record.stamped current.startedAt server, ?_, hstarted, ?_, ?_⟩
              · rw [hpath]
                exact Dict.get?_set_self _ _ _
              · exact hnext ▸ Nat.le_succ _
              · intro heq
                exact absurd (hnext.symm.trans heq) (Nat.succ_ne_self _)
            · exact ⟨document, (Dict.get?_set_ne _ _ hpath).trans h, .refl document⟩

/-! ## Sequences of calls -/

/-- A call, and the time at which the server commits it. -/
structure StampedOperation where
  operation : WorkflowOperation
  server : Time

def workflowsOnMemory (repo : InMemoryWorkflowRepository) :
    List StampedOperation → List (Except Exn WorkflowAnswer)
  | [] => []
  | stamped :: run =>
      (stamped.operation.onMemory repo).1 ::
        workflowsOnMemory (stamped.operation.onMemory repo).2 run

def workflowsOnFirestore (store : FirestoreWorkflowRepository) :
    List StampedOperation → List (Except Exn WorkflowAnswer)
  | [] => []
  | stamped :: run =>
      (stamped.operation.onFirestore stamped.server store).1 ::
        workflowsOnFirestore (stamped.operation.onFirestore stamped.server store).2 run

/-- The database after a sequence of calls. -/
def FirestoreWorkflowRepository.after (store : FirestoreWorkflowRepository)
    (run : List StampedOperation) : FirestoreWorkflowRepository :=
  run.foldl (fun store stamped => (stamped.operation.onFirestore stamped.server store).2) store

/-- The dead letters that a sequence of calls records. -/
def recordedBy (run : List StampedOperation) : List (DeadLetterRecord × Time) :=
  run.filterMap fun stamped => stamped.operation.recorded? stamped.server

/-- Document ids that are valid, a server whose clock does not go back, and dead letters that both
clocks put in one order. -/
structure WorkflowRunPromised (run : List StampedOperation) : Prop where
  valid : ∀ stamped ∈ run, ∀ id ∈ stamped.operation.documentIds, isDocumentId id = true
  clock : run.Pairwise fun a b => a.server ≤ b.server
  order : (recordedBy run).Pairwise SameOrder

/-- Corresponding stores answer every promised sequence alike. -/
theorem WorkflowMirrors.answers {present : Time} {run : List StampedOperation}
    {repo : InMemoryWorkflowRepository} {store : FirestoreWorkflowRepository}
    (h : WorkflowMirrors present (recordedBy run) repo store) (hpromised : WorkflowRunPromised run)
    (hpresent : ∀ stamped ∈ run, present ≤ stamped.server) :
    (workflowsOnMemory repo run).map (·.map WorkflowAnswer.timeless) =
      (workflowsOnFirestore store run).map (·.map WorkflowAnswer.timeless) := by
  induction run generalizing present repo store with
  | nil => rfl
  | cons stamped run ih =>
    obtain ⟨hvalid, hclock, horder⟩ := hpromised
    rw [List.forall_mem_cons] at hvalid hpresent
    rw [List.pairwise_cons] at hclock
    have hrecorded : recordedBy (stamped :: run) =
        (stamped.operation.recorded? stamped.server).toList ++ recordedBy run := by
      unfold recordedBy
      rw [List.filterMap_cons]
      cases stamped.operation.recorded? stamped.server <;> rfl
    rw [hrecorded] at h horder
    rw [List.pairwise_append] at horder
    have hstep := h.step hpresent.1
      (fun recorded hmem new hnew => horder.2.2 recorded (Option.mem_toList.mpr hmem) new hnew)
      hvalid.1
    simp only [workflowsOnMemory, workflowsOnFirestore, List.map_cons, hstep.result]
    rw [ih hstep.stores ⟨hvalid.2, hclock.2, horder.2.1⟩ hclock.1]

theorem FirestoreWorkflowRepository.continues_after {store : FirestoreWorkflowRepository}
    {reference : (String × String) × String} {document : WorkflowFields}
    (h : store.workflows.get? reference = some document) (run : List StampedOperation) :
    ∃ document', (store.after run).workflows.get? reference = some document' ∧
      document.Continues document' := by
  induction run generalizing store document with
  | nil => exact ⟨document, h, .refl document⟩
  | cons stamped run ih =>
    obtain ⟨next, hnext, hcontinues⟩ := stamped.operation.continues stamped.server h
    obtain ⟨last, hlast, hcontinues'⟩ := ih hnext
    exact ⟨last, hlast, hcontinues.trans hcontinues'⟩

/-- **One contract for workflows.** Up to the times that the server supplies, both repositories
answer a sequence of calls alike: workflows, conflicts of versions and identifiers, and dead letters
with their order. Whatever the calls are, a stored workflow keeps its start, its version never goes
down, and one version is one document. -/
theorem workflowRepositories_agree (run : List StampedOperation) :
    (WorkflowRunPromised run →
      (workflowsOnMemory .empty run).map (·.map WorkflowAnswer.timeless) =
        (workflowsOnFirestore .empty run).map (·.map WorkflowAnswer.timeless)) ∧
    ∀ earlier later, run = earlier ++ later → ∀ reference document,
      (FirestoreWorkflowRepository.empty.after earlier).workflows.get? reference = some document →
      ∃ document', (FirestoreWorkflowRepository.empty.after run).workflows.get? reference =
        some document' ∧ document.Continues document' := by
  constructor
  · intro hpromised
    exact (WorkflowMirrors.empty (recordedBy run)).answers hpromised fun _ _ => Nat.zero_le _
  · rintro earlier later rfl reference document hget
    obtain ⟨document', hafter, hcontinues⟩ :=
      FirestoreWorkflowRepository.continues_after hget later
    refine ⟨document', ?_, hcontinues⟩
    rw [FirestoreWorkflowRepository.after, List.foldl_append]
    exact hafter

end Agreement

namespace WorkflowRepositoryDemo

scoped instance digests : Sha256 := .hashlib

/-- A workflow that has been analysed `version - 1` times. -/
def record (version : Nat) (startedAt updatedAt : Time) (h : startedAt ≤ updatedAt) :
    WorkflowExecutionRecord where
  workflowExecutionId := "wfe_001"
  tenantId := "tenant_demo"
  changeId := "chg_001"
  eventId := "evt_002"
  traceId := "trace_001"
  event := { Demo.event with eventId := "evt_002" }
  status := .ANALYZING
  deliveryAttempts := 1
  plan := none
  tasks := []
  startedAt := startedAt
  updatedAt := updatedAt
  version := version
  error_code_checked := rfl
  event_scope := ⟨rfl, rfl⟩
  started_le_updated := h
  plan_paired := rfl
  plan_matches := rfl
  terminal_iff := rfl

def deadLetter (id : String) (createdAt : Time) : DeadLetterRecord :=
  ⟨id, "tenant_demo", "evt_002", "wfe_001", "PLAN_INVALID", "sha256:0", createdAt⟩

/-- The server is five ticks ahead; the second update says that the workflow started later. -/
def run : List StampedOperation :=
  [⟨.createOrGet (record 1 21 21 (Nat.le_refl 21)), 26⟩,
    ⟨.update (record 2 21 23 (by decide)) 1, 28⟩,
    ⟨.update (record 3 24 24 (Nat.le_refl 24)) 2, 29⟩, ⟨.update (record 3 21 24 (by decide)) 2, 29⟩,
    ⟨.recordDeadLetter (deadLetter "dlq_002" 25), 30⟩,
    ⟨.recordDeadLetter (deadLetter "dlq_001" 25), 30⟩,
    ⟨.recordDeadLetter (deadLetter "dlq_003" 27), 32⟩,
    ⟨.get "tenant_demo" "chg_001" "wfe_001", 33⟩, ⟨.listDeadLetters "tenant_demo" 2, 33⟩]

theorem run_promised : WorkflowRunPromised run where
  valid := by decide +kernel
  clock := by decide +kernel
  order := by
    have hrecorded : recordedBy run = [(deadLetter "dlq_002" 25, 30), (deadLetter "dlq_001" 25, 30),
      (deadLetter "dlq_003" 27, 32)] := rfl
    rw [hrecorded]
    simp [SameOrder, deadLetter]

end WorkflowRepositoryDemo

open scoped WorkflowRepositoryDemo in
open WorkflowRepositoryDemo in
/-- A stale update, an update that moves the start, and dead letters with equal times. -/
theorem workflowRepositories_agree_skewed :
    (workflowsOnMemory .empty run).map (·.map WorkflowAnswer.timeless) =
      (workflowsOnFirestore .empty run).map (·.map WorkflowAnswer.timeless) :=
  (workflowRepositories_agree run).1 run_promised

end ChangeOps
