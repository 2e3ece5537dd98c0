import ChangeOps.Lib.Dict
import ChangeOps.Contracts.Canonical

/-!
# ChangeOps.Sandbox — tenant-scoped configurations with snapshots

`ConfigurationStore` (`changeops_sandbox/store.py`): one synthetic system, one configuration
for each tenant. A snapshot keeps the configuration with the digest of its document, a patch
replaces one field, a restore puts a snapshot back.

The store is generic in the configuration model, as in the source. A model is frozen and
`model_validate` of its own dump returns it, so a snapshot keeps the model itself.
-/

namespace ChangeOps

/-- A configuration model with the field that the store may patch. -/
class SystemConfiguration (C : Type) where
  modelDump : C → Json
  field : C → String
  /-- The model with the field replaced and, where it has one, the schema version raised. -/
  withField : C → String → C

inductive SandboxError where
  | snapshotNotFound (snapshotId : String)
  | tenantScope
  | patchConflict (expected actual : String)
  | transientSandbox
deriving DecidableEq, Repr

structure StoredSnapshot (C : Type) where
  snapshotId : String
  configuration : C
  configurationHash : String

structure FieldPatchRequest where
  oldField : String
  newField : String
  idempotencyKey : String

structure PatchResult where
  before : String
  after : String
  idempotencyKey : String
  configurationHash : String
  replayed : Bool

structure ConfigurationStore (C : Type) where
  seed : C
  configurations : Dict String C := .empty
  snapshots : Dict (String × String) (StoredSnapshot C) := .empty
  snapshotTenants : Dict String String := .empty
  executions : Dict (String × String) PatchResult := .empty
  transientFailures : Dict String Nat := .empty

namespace ConfigurationStore

variable {C : Type} (store : ConfigurationStore C)

/-- `_get_unlocked`, without the copy of the seed that it may store. -/
def get (tenantId : String) : C := store.configurations.getD tenantId store.seed

/-- `_get_unlocked`: the seed is stored when a tenant is first seen. -/
def ensure (tenantId : String) : ConfigurationStore C :=
  { store with configurations := store.configurations.set tenantId (store.get tenantId) }

variable [Sha256] [SystemConfiguration C]

open SystemConfiguration

def snapshot (snapshotId tenantId : String) : StoredSnapshot C × ConfigurationStore C :=
  let configuration := store.get tenantId
  let taken : StoredSnapshot C :=
    ⟨snapshotId, configuration, sha256Digest (modelDump configuration)⟩
  (taken, { store.ensure tenantId with
    snapshots := store.snapshots.set (tenantId, snapshotId) taken
    snapshotTenants := store.snapshotTenants.set snapshotId tenantId })

/-- `apply`: an idempotency key that is known is replayed, an injected failure is consumed. -/
def apply (tenantId : String) (request : FieldPatchRequest) :
    Except SandboxError PatchResult × ConfigurationStore C :=
  match store.executions.get? (tenantId, request.idempotencyKey) with
  | some prior => (.ok { prior with replayed := true }, store)
  | none =>
    let remainingFailures := store.transientFailures.getD tenantId 0
    if remainingFailures ≠ 0 then
      (.error .transientSandbox,
        { store with transientFailures := store.transientFailures.set tenantId (remainingFailures - 1) })
    else
      let current := field (store.get tenantId)
      if current ≠ request.oldField then
        (.error (.patchConflict request.oldField current), store.ensure tenantId)
      else
        let updated := withField (store.get tenantId) request.newField
        let result : PatchResult :=
          ⟨current, request.newField, request.idempotencyKey, sha256Digest (modelDump updated), false⟩
        (.ok result, { store with
          configurations := store.configurations.set tenantId updated
          executions := store.executions.set (tenantId, request.idempotencyKey) result })

omit [Sha256] [SystemConfiguration C] in
def restore (tenantId snapshotId : String) : Except SandboxError Unit × ConfigurationStore C :=
  match store.snapshots.get? (tenantId, snapshotId) with
  | none =>
      if (store.snapshotTenants.get? snapshotId).isSome then (.error .tenantScope, store)
      else (.error (.snapshotNotFound snapshotId), store)
  | some snapshot =>
      (.ok (), { store with
        configurations := store.configurations.set tenantId snapshot.configuration })

/-! ## What the operations do to the configurations -/

omit [Sha256] [SystemConfiguration C] in
theorem get_set (tenantId tenantId' : String) (configuration : C) :
    { store with configurations := store.configurations.set tenantId configuration }.get tenantId' =
      if tenantId' = tenantId then configuration else store.get tenantId' := by
  unfold get Dict.getD
  rw [Dict.get?_set]
  split_ifs <;> rfl

omit [Sha256] [SystemConfiguration C] in
/-- Storing the seed of a tenant that was not seen before is invisible. -/
theorem get_ensure (tenantId tenantId' : String) :
    (store.ensure tenantId).get tenantId' = store.get tenantId' := by
  unfold ensure
  rw [get_set]
  split_ifs with h
  · rw [h]
  · rfl

end ConfigurationStore

end ChangeOps
