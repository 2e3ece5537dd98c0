import ChangeOps.Errors
import ChangeOps.Lib.Dict

/-!
# ChangeOps.Persistence — the in-memory change repository

`InMemoryChangeStateRepository` (`changeops_persistence/memory.py`). Every public method
holds the repository's lock for its whole body, so each is one atomic function of the
stored maps: it returns or raises, and leaves a new store.
-/

namespace ChangeOps

/-- The repository: the changes, the tenants that own a change id, and the audit trail.
A change is stored under its own tenant and id. -/
structure InMemoryChangeStateRepository where
  changes : Dict (String × String) ChangeRecord
  tenantsByChangeId : Dict String (List String)
  audit : Dict (String × String) AuditEvent
  auditIdsByChange : Dict (String × String) (List String)
  keyed : ∀ key change, changes.get? key = some change → (change.tenantId, change.changeId) = key

namespace InMemoryChangeStateRepository

/-- `InMemoryChangeStateRepository()`. -/
def empty : InMemoryChangeStateRepository where
  changes := .empty
  tenantsByChangeId := .empty
  audit := .empty
  auditIdsByChange := .empty
  keyed := by simp

instance : Inhabited InMemoryChangeStateRepository := ⟨empty⟩

/-- The change stored under a key. -/
def stored? (repo : InMemoryChangeStateRepository) (key : String × String) :
    Option ChangeRecord :=
  repo.changes.get? key

/-- `_get_unlocked`. -/
def get (repo : InMemoryChangeStateRepository) (tenantId changeId : String) :
    Except Exn ChangeRecord :=
  match repo.stored? (tenantId, changeId) with
  | some change => .ok change
  | none =>
      if (repo.tenantsByChangeId.getD changeId []).isEmpty then
        .error (.changeNotFound tenantId changeId)
      else .error (.tenantScopeViolation tenantId changeId)

/-- `_changes[key] = change`. -/
def put (repo : InMemoryChangeStateRepository) (change : ChangeRecord) :
    InMemoryChangeStateRepository :=
  { repo with
    changes := repo.changes.set (change.tenantId, change.changeId) change
    keyed := by
      intro key change' h
      rw [Dict.get?_set] at h
      split_ifs at h with hk
      · cases h
        exact hk.symm
      · exact repo.keyed key change' h }

/-- `_tenants_by_change_id[change.change_id].add(change.tenant_id)`. -/
def claimId (repo : InMemoryChangeStateRepository) (change : ChangeRecord) :
    InMemoryChangeStateRepository :=
  let tenants := repo.tenantsByChangeId.getD change.changeId []
  { repo with
    tenantsByChangeId := repo.tenantsByChangeId.set change.changeId
      (if change.tenantId ∈ tenants then tenants else tenants ++ [change.tenantId]) }

/-- `_append_audit_unlocked`. -/
def appendAudit (repo : InMemoryChangeStateRepository) (auditEvent : AuditEvent) :
    InMemoryChangeStateRepository :=
  let key := (auditEvent.tenantId, auditEvent.changeId)
  { repo with
    audit := repo.audit.set (auditEvent.tenantId, auditEvent.auditEventId) auditEvent
    auditIdsByChange := repo.auditIdsByChange.set key
      (repo.auditIdsByChange.getD key [] ++ [auditEvent.auditEventId]) }

/-- `_validate_audit_scope`. -/
def validateAuditScope (change : ChangeRecord) (auditEvent : AuditEvent) : Except Exn Unit :=
  if auditEvent.tenantId ≠ change.tenantId ∨ auditEvent.changeId ≠ change.changeId then
    .error (.tenantScopeViolation auditEvent.tenantId auditEvent.changeId)
  else .ok ()

/-- `_ensure_new_audit_id`. -/
def ensureNewAuditId (repo : InMemoryChangeStateRepository) (auditEvent : AuditEvent) :
    Except Exn Unit :=
  if (repo.audit.get? (auditEvent.tenantId, auditEvent.auditEventId)).isSome then
    .error (.auditEventAlreadyExists auditEvent.tenantId auditEvent.auditEventId)
  else .ok ()

/-- A method whose checks either raise and leave the repository alone, or pass and let
`write` replace it. -/
def guarded (repo : InMemoryChangeStateRepository) (checks : Except Exn Unit)
    (write : InMemoryChangeStateRepository → InMemoryChangeStateRepository) :
    Except Exn Unit × InMemoryChangeStateRepository :=
  match checks with
  | .error e => (.error e, repo)
  | .ok () => (.ok (), write repo)

def add (change : ChangeRecord) (repo : InMemoryChangeStateRepository) :
    Except Exn Unit × InMemoryChangeStateRepository :=
  repo.guarded
    (if (repo.stored? (change.tenantId, change.changeId)).isSome then
      .error (.changeAlreadyExists change.tenantId change.changeId)
    else .ok ())
    fun repo => (repo.put change).claimId change

def addWithAudit (change : ChangeRecord) (auditEvent : AuditEvent)
    (repo : InMemoryChangeStateRepository) : Except Exn Unit × InMemoryChangeStateRepository :=
  repo.guarded
    (do
      if (repo.stored? (change.tenantId, change.changeId)).isSome then
        throw (.changeAlreadyExists change.tenantId change.changeId)
      validateAuditScope change auditEvent
      repo.ensureNewAuditId auditEvent)
    fun repo => ((repo.put change).claimId change).appendAudit auditEvent

/-- The compare-and-set: the stored version must be the one the caller expects. -/
def commitTransition (change : ChangeRecord) (auditEvent : AuditEvent) (expectedVersion : Nat)
    (repo : InMemoryChangeStateRepository) : Except Exn Unit × InMemoryChangeStateRepository :=
  repo.guarded
    (do
      let current ← repo.get change.tenantId change.changeId
      validateAuditScope change auditEvent
      repo.ensureNewAuditId auditEvent
      if current.version ≠ expectedVersion then
        throw (.optimisticConcurrency change.changeId expectedVersion current.version)
      if change.version ≠ expectedVersion + 1 then
        throw (.optimisticConcurrency change.changeId (expectedVersion + 1) change.version))
    fun repo => (repo.put change).appendAudit auditEvent

def recordAudit (auditEvent : AuditEvent) (repo : InMemoryChangeStateRepository) :
    Except Exn Unit × InMemoryChangeStateRepository :=
  repo.guarded
    (do
      let _ ← repo.get auditEvent.tenantId auditEvent.changeId
      repo.ensureNewAuditId auditEvent)
    fun repo => repo.appendAudit auditEvent

/-! ## What the methods store -/

@[simp] theorem stored?_empty (key : String × String) : empty.stored? key = none := rfl

@[simp] theorem stored?_put_self (repo : InMemoryChangeStateRepository) (change : ChangeRecord) :
    (repo.put change).stored? (change.tenantId, change.changeId) = some change :=
  Dict.get?_set_self _ _ _

theorem stored?_put_ne (repo : InMemoryChangeStateRepository) {change : ChangeRecord}
    {key : String × String} (h : key ≠ (change.tenantId, change.changeId)) :
    (repo.put change).stored? key = repo.stored? key :=
  Dict.get?_set_ne _ _ h

@[simp] theorem stored?_claimId (repo : InMemoryChangeStateRepository) (change : ChangeRecord) :
    (repo.claimId change).stored? = repo.stored? := rfl

@[simp] theorem stored?_appendAudit (repo : InMemoryChangeStateRepository) (event : AuditEvent) :
    (repo.appendAudit event).stored? = repo.stored? := rfl

@[simp] theorem audit_put (repo : InMemoryChangeStateRepository) (change : ChangeRecord) :
    (repo.put change).audit = repo.audit := rfl

@[simp] theorem audit_claimId (repo : InMemoryChangeStateRepository) (change : ChangeRecord) :
    (repo.claimId change).audit = repo.audit := rfl

@[simp] theorem audit_appendAudit (repo : InMemoryChangeStateRepository) (event : AuditEvent) :
    (repo.appendAudit event).audit =
      repo.audit.set (event.tenantId, event.auditEventId) event := rfl

/-- A stored change is stored under its own tenant and id. -/
theorem key_of_stored {repo : InMemoryChangeStateRepository} {key : String × String}
    {change : ChangeRecord} (h : repo.stored? key = some change) :
    (change.tenantId, change.changeId) = key :=
  repo.keyed key change h

theorem get_eq_ok {repo : InMemoryChangeStateRepository} {tenantId changeId : String}
    {change : ChangeRecord} :
    repo.get tenantId changeId = .ok change ↔ repo.stored? (tenantId, changeId) = some change := by
  unfold get
  cases repo.stored? (tenantId, changeId) with
  | some stored => simp
  | none => split_ifs <;> simp

/-- A guarded method either raises and changes nothing, or its checks passed. -/
theorem guarded_cases (repo : InMemoryChangeStateRepository) (checks : Except Exn Unit)
    (write : InMemoryChangeStateRepository → InMemoryChangeStateRepository) :
    (∃ e, checks = .error e ∧ repo.guarded checks write = (.error e, repo)) ∨
      (checks = .ok () ∧ repo.guarded checks write = (.ok (), write repo)) := by
  cases checks with
  | error e => exact .inl ⟨e, rfl, rfl⟩
  | ok u => exact .inr ⟨rfl, rfl⟩

/-- What `commit_transition` can do: raise and change nothing, or replace the stored change,
whose version is the expected one, by a change of the next version. -/
theorem commitTransition_cases (change : ChangeRecord) (auditEvent : AuditEvent)
    (expectedVersion : Nat) (repo : InMemoryChangeStateRepository) :
    (∃ e, commitTransition change auditEvent expectedVersion repo = (.error e, repo)) ∨
      (∃ current, repo.stored? (change.tenantId, change.changeId) = some current ∧
        current.version = expectedVersion ∧ change.version = expectedVersion + 1 ∧
        commitTransition change auditEvent expectedVersion repo =
          (.ok (), (repo.put change).appendAudit auditEvent)) := by
  unfold commitTransition
  rcases guarded_cases repo _ fun repo => (repo.put change).appendAudit auditEvent with
    ⟨e, -, heq⟩ | ⟨hchecks, heq⟩
  · exact .inl ⟨e, heq⟩
  · refine .inr ?_
    rw [heq]
    cases hget : repo.get change.tenantId change.changeId with
    | error e =>
      rw [hget] at hchecks
      cases hchecks
    | ok current =>
      refine ⟨current, get_eq_ok.mp hget, ?_⟩
      rw [hget] at hchecks
      simp only [bind, Except.bind, pure, Except.pure, throw, throwThe, MonadExceptOf.throw] at hchecks
      cases hscope : validateAuditScope change auditEvent with
      | error e => simp [hscope] at hchecks
      | ok u =>
        cases hnew : repo.ensureNewAuditId auditEvent with
        | error e => simp [hscope, hnew] at hchecks
        | ok u' =>
          simp only [hscope, hnew] at hchecks
          split_ifs at hchecks with h₁ h₂
          exact ⟨of_not_not h₁, of_not_not h₂, rfl⟩

/-- What `add_with_audit` can do: raise and change nothing, or add the change, which was not
stored before. -/
theorem addWithAudit_cases (change : ChangeRecord) (auditEvent : AuditEvent)
    (repo : InMemoryChangeStateRepository) :
    (∃ e, addWithAudit change auditEvent repo = (.error e, repo)) ∨
      (repo.stored? (change.tenantId, change.changeId) = none ∧
        addWithAudit change auditEvent repo =
          (.ok (), ((repo.put change).claimId change).appendAudit auditEvent)) := by
  unfold addWithAudit
  cases hstored : repo.stored? (change.tenantId, change.changeId) with
  | some existing => exact .inl ⟨_, rfl⟩
  | none =>
    rcases guarded_cases repo _ (fun repo => ((repo.put change).claimId change).appendAudit auditEvent)
      with ⟨e, -, heq⟩ | ⟨-, heq⟩
    · exact .inl ⟨e, heq⟩
    · exact .inr ⟨rfl, heq⟩

@[simp] theorem stored?_recordAudit (auditEvent : AuditEvent)
    (repo : InMemoryChangeStateRepository) :
    (recordAudit auditEvent repo).2.stored? = repo.stored? := by
  unfold recordAudit
  rcases guarded_cases repo _ fun repo => repo.appendAudit auditEvent with
    ⟨e, -, heq⟩ | ⟨-, heq⟩ <;> rw [heq]
  exact stored?_appendAudit repo auditEvent

end InMemoryChangeStateRepository

end ChangeOps
