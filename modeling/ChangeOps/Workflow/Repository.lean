import ChangeOps.Workflow.Models
import ChangeOps.Lib.Dict

/-!
# ChangeOps.Workflow — the in-memory workflow repository

`InMemoryWorkflowRepository` (`changeops_workflow_coordinator/repository.py`). As in the
change repository, every method holds the lock for its whole body and is one atomic
function of the stored maps.
-/

namespace ChangeOps

/-- Tenant, change and workflow execution. -/
abbrev WorkflowKey := String × String × String

def WorkflowFields.key (fields : WorkflowFields) : WorkflowKey :=
  (fields.tenantId, fields.changeId, fields.workflowExecutionId)

variable [Sha256]

abbrev WorkflowExecutionRecord.key (record : WorkflowExecutionRecord) : WorkflowKey :=
  record.toWorkflowFields.key

/-- The repository: workflows and dead letters. A workflow is stored under its own key. -/
structure InMemoryWorkflowRepository where
  workflows : Dict WorkflowKey WorkflowExecutionRecord
  deadLetters : Dict (String × String) DeadLetterRecord
  keyed : ∀ key record, workflows.get? key = some record → record.key = key

namespace InMemoryWorkflowRepository

def empty : InMemoryWorkflowRepository := ⟨.empty, .empty, by simp⟩

/-- The workflow stored under a key. -/
def stored? (repo : InMemoryWorkflowRepository) (key : WorkflowKey) :
    Option WorkflowExecutionRecord :=
  repo.workflows.get? key

def put (repo : InMemoryWorkflowRepository) (record : WorkflowExecutionRecord) :
    InMemoryWorkflowRepository :=
  { repo with
    workflows := repo.workflows.set record.key record
    keyed := by
      intro key record' h
      rw [Dict.get?_set] at h
      split_ifs at h with hk
      · cases h
        exact hk.symm
      · exact repo.keyed key record' h }

def createOrGet (record : WorkflowExecutionRecord) (repo : InMemoryWorkflowRepository) :
    Except Exn WorkflowExecutionRecord × InMemoryWorkflowRepository :=
  match repo.stored? record.key with
  | some existing =>
      if existing.eventId ≠ record.eventId then
        (.error (.workflowConflict "Workflow identifier collision."), repo)
      else (.ok existing, repo)
  | none => (.ok record, repo.put record)

def get (repo : InMemoryWorkflowRepository) (tenantId changeId workflowExecutionId : String) :
    Except Exn WorkflowExecutionRecord :=
  match repo.stored? (tenantId, changeId, workflowExecutionId) with
  | some record => .ok record
  | none => .error .workflowNotFound

/-- The compare-and-set on the version of the stored workflow. -/
def update (record : WorkflowExecutionRecord) (expectedVersion : Nat)
    (repo : InMemoryWorkflowRepository) :
    Except Exn WorkflowExecutionRecord × InMemoryWorkflowRepository :=
  match repo.stored? record.key with
  | none => (.error .workflowNotFound, repo)
  | some current =>
      if current.version ≠ expectedVersion ∨ record.version ≠ expectedVersion + 1 then
        (.error (.workflowConflict "The workflow version is stale."), repo)
      else (.ok record, repo.put record)

def recordDeadLetter (record : DeadLetterRecord) (repo : InMemoryWorkflowRepository) :
    Except Exn DeadLetterRecord × InMemoryWorkflowRepository :=
  let key := (record.tenantId, record.deadLetterId)
  match repo.deadLetters.get? key with
  | some existing =>
      if existing.inputHash ≠ record.inputHash then
        (.error (.workflowConflict "Dead-letter identifier collision."), repo)
      else (.ok existing, repo)
  | none => (.ok record, { repo with deadLetters := repo.deadLetters.set key record })

/-! ## What the methods store -/

@[simp] theorem stored?_put_self (repo : InMemoryWorkflowRepository)
    (record : WorkflowExecutionRecord) : (repo.put record).stored? record.key = some record :=
  Dict.get?_set_self _ _ _

theorem stored?_put_ne (repo : InMemoryWorkflowRepository) {record : WorkflowExecutionRecord}
    {key : WorkflowKey} (h : key ≠ record.key) :
    (repo.put record).stored? key = repo.stored? key :=
  Dict.get?_set_ne _ _ h

/-- What is stored after a workflow is put: itself under its key, the rest as before. -/
theorem stored?_put_cases (repo : InMemoryWorkflowRepository)
    {record stored : WorkflowExecutionRecord} {key : WorkflowKey}
    (h : (repo.put record).stored? key = some stored) :
    (key = record.key ∧ stored = record) ∨ (key ≠ record.key ∧ repo.stored? key = some stored) := by
  by_cases hk : key = record.key
  · subst hk
    rw [stored?_put_self] at h
    exact .inl ⟨rfl, (Option.some.inj h).symm⟩
  · rw [stored?_put_ne repo hk] at h
    exact .inr ⟨hk, h⟩

theorem key_of_stored {repo : InMemoryWorkflowRepository} {key : WorkflowKey}
    {record : WorkflowExecutionRecord} (h : repo.stored? key = some record) : record.key = key :=
  repo.keyed key record h

theorem get_eq_ok {repo : InMemoryWorkflowRepository} {tenantId changeId workflowId : String}
    {record : WorkflowExecutionRecord} :
    repo.get tenantId changeId workflowId = .ok record ↔
      repo.stored? (tenantId, changeId, workflowId) = some record := by
  unfold get
  cases repo.stored? (tenantId, changeId, workflowId) <;> simp

/-- What `update` can do: raise and change nothing, or replace the stored workflow, whose
version is the expected one. -/
theorem update_cases (record : WorkflowExecutionRecord) (expectedVersion : Nat)
    (repo : InMemoryWorkflowRepository) :
    (∃ e, update record expectedVersion repo = (.error e, repo)) ∨
      (∃ current, repo.stored? record.key = some current ∧ current.version = expectedVersion ∧
        record.version = expectedVersion + 1 ∧
        update record expectedVersion repo = (.ok record, repo.put record)) := by
  unfold update
  cases hstored : repo.stored? record.key with
  | none => exact .inl ⟨_, rfl⟩
  | some current =>
    by_cases hstale : current.version ≠ expectedVersion ∨ record.version ≠ expectedVersion + 1
    · exact .inl ⟨.workflowConflict "The workflow version is stale.", by simp [hstale]⟩
    · refine .inr ⟨current, rfl, ?_⟩
      have hversions := hstale
      push Not at hversions
      exact ⟨hversions.1, hversions.2, by simp only [hstale, if_false]⟩

/-- What `create_or_get` can do: raise, return what is stored, or store a new workflow. -/
theorem createOrGet_cases (record : WorkflowExecutionRecord) (repo : InMemoryWorkflowRepository) :
    (∃ e, createOrGet record repo = (.error e, repo)) ∨
      (∃ existing, repo.stored? record.key = some existing ∧
        createOrGet record repo = (.ok existing, repo)) ∨
      (repo.stored? record.key = none ∧ createOrGet record repo = (.ok record, repo.put record)) := by
  unfold createOrGet
  cases hstored : repo.stored? record.key with
  | none => exact .inr (.inr ⟨rfl, rfl⟩)
  | some existing =>
    by_cases hevent : existing.eventId = record.eventId
    · exact .inr (.inl ⟨existing, rfl, by simp [hevent]⟩)
    · exact .inl ⟨.workflowConflict "Workflow identifier collision.", by simp [hevent]⟩

@[simp] theorem stored?_recordDeadLetter (record : DeadLetterRecord)
    (repo : InMemoryWorkflowRepository) :
    (recordDeadLetter record repo).2.stored? = repo.stored? := by
  unfold recordDeadLetter
  dsimp only
  split
  · split_ifs <;> rfl
  · rfl

end InMemoryWorkflowRepository

end ChangeOps
