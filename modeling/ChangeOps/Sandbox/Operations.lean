import ChangeOps.Sandbox.Models
import ChangeOps.Lib.Machine

/-!
# ChangeOps.Sandbox — the operations of the stores

`ConfigurationStore` and `CatalogStore` (`changeops_sandbox/store.py`), with every table and every
operation, on documents. The lock makes each operation one step of a store. The identifier and the
time of a snapshot are drawn outside and come with the operation.
-/

namespace ChangeOps.Sandbox

/-! ## Requests and answers -/

/-- What the stores raise. -/
inductive StoreError where
  | snapshotNotFound (snapshotId : String)
  | tenantScope
  | patchConflict (expected actual : String)
  | contractVersionNotFound (version : String)
  | transientSandbox
  /-- Raised by a model or a conversion, and not by the store. -/
  | exception (error : Exn)
deriving DecidableEq, Repr

structure FieldPatchRequest where
  oldField : NonEmptyStr
  newField : NonEmptyStr
  idempotencyKey : NonEmptyStr
  changeId : NonEmptyStr
  planHash : Digest

structure PatchPreview where
  systemId : String
  fieldName : String
  before : String
  after : String
  wouldChange : Bool
deriving DecidableEq, Repr

structure PatchResult where
  systemId : String
  fieldName : String
  before : String
  after : String
  idempotencyKey : String
  configurationHash : String
  replayed : Bool
deriving DecidableEq, Repr

structure SnapshotRecord where
  snapshotId : String
  tenantId : String
  systemId : String
  configuration : Fields
  configurationHash : String
  createdAt : Time

structure RestoreResult where
  systemId : String
  snapshotId : String
  configurationHash : String
  restored : Bool
deriving DecidableEq, Repr

structure ResetResult where
  tenantId : String
  reset : Bool
deriving DecidableEq, Repr

structure CatalogActivationRequest where
  version : NonEmptyStr
  idempotencyKey : NonEmptyStr
  changeId : NonEmptyStr
  planHash : Digest

structure CatalogActivationResult where
  activeContract : ApiContract
  idempotencyKey : String
  replayed : Bool

/-! ## Tables by tenant -/

section Tables

variable {ν : Type}

/-- The entries of the other tenants. -/
def withoutTenant (table : Dict (TenantId × String) ν) (tenantId : TenantId) :
    Dict (TenantId × String) ν :=
  table.filter fun key => decide (key.1 ≠ tenantId)

/-- The names under which a tenant has entries. -/
def namesOf (table : Dict (TenantId × String) ν) (tenantId : TenantId) : List String :=
  (table.entries.filter fun entry => decide (entry.1.1 = tenantId)).map fun entry => entry.1.2

/-- The names of a tenant taken out of its table, one by one. -/
def popAll (table : Dict (TenantId × String) ν) (tenantId : TenantId) (names : List String) :
    Dict (TenantId × String) ν :=
  (names.map (tenantId, ·)).foldl Dict.erase table

theorem get?_withoutTenant (table : Dict (TenantId × String) ν) (tenantId : TenantId)
    (key : TenantId × String) :
    (withoutTenant table tenantId).get? key = if key.1 = tenantId then none else table.get? key := by
  rw [withoutTenant, Dict.get?_filter]
  by_cases h : key.1 = tenantId
  · rw [if_pos h, if_neg (by simp [h])]
  · rw [if_neg h, if_pos (by simp [h])]

theorem mem_namesOf {table : Dict (TenantId × String) ν} {tenantId : TenantId} {name : String}
    {value : ν} (h : table.get? (tenantId, name) = some value) : name ∈ namesOf table tenantId :=
  List.mem_map.mpr ⟨((tenantId, name), value),
    List.mem_filter.mpr ⟨Dict.mem_of_get? h, decide_eq_true rfl⟩, rfl⟩

/-- When its names are taken out, a tenant has no entry, and the others have theirs. -/
theorem get?_popAll (table : Dict (TenantId × String) ν) (tenantId : TenantId)
    (key : TenantId × String) : (popAll table tenantId (namesOf table tenantId)).get? key =
      if key.1 = tenantId then none else table.get? key := by
  obtain ⟨owner, name⟩ := key
  rw [popAll, Dict.get?_erase_all]
  by_cases h : owner = tenantId
  · subst h
    rw [if_pos rfl]
    cases hget : table.get? (owner, name) with
    | none => exact ite_self none
    | some value => exact if_pos (List.mem_map.mpr ⟨name, mem_namesOf hget, rfl⟩)
  · have hnot : (owner, name) ∉ (namesOf table tenantId).map (tenantId, ·) := by
      intro hmem
      obtain ⟨name', -, heq⟩ := List.mem_map.mp hmem
      exact h (congrArg Prod.fst heq).symm
    rw [if_neg hnot, if_neg h]

end Tables

/-! ## One configuration for each tenant -/

/-- A configuration within its bounds. -/
abbrev Checked (C : Type) [ConfigModel C] := { c : C // ConfigModel.Checked c }

structure ConfigurationStore (C : Type) [ConfigModel C] where
  seed : Checked C
  configurations : Dict TenantId (Checked C) := .empty
  snapshots : Dict (TenantId × String) SnapshotRecord := .empty
  snapshotTenants : Dict String TenantId := .empty
  executions : Dict (TenantId × String) PatchResult := .empty
  transientFailures : Dict TenantId Nat := .empty
  verificationFailures : Dict TenantId Nat := .empty

namespace ConfigurationStore

/-- `__init__`. -/
def new {C : Type} [ConfigModel C] (seed : Checked C) : ConfigurationStore C := { seed := seed }

variable {C : Type} [ConfigModel C] {α : Type} (store : ConfigurationStore C)

open SystemConfiguration ConfigModel

def copySeed : Except Exn (Checked C) := modelValidate (fields store.seed.1)

/-- `_get_unlocked`: the configuration of a tenant, and a copy of the seed when it has none yet. -/
def getUnlocked (tenantId : TenantId) : Except StoreError (Checked C) × ConfigurationStore C :=
  match store.configurations.get? tenantId with
  | some configuration => (.ok configuration, store)
  | none =>
    match store.copySeed with
    | .error error => (.error (.exception error), store)
    | .ok configuration =>
        (.ok configuration,
          { store with configurations := store.configurations.set tenantId configuration })

/-- An operation that begins with `_get_unlocked`. -/
def withConfiguration (tenantId : TenantId)
    (body : Checked C → ConfigurationStore C → Except StoreError α × ConfigurationStore C) :
    Except StoreError α × ConfigurationStore C :=
  match store.getUnlocked tenantId with
  | (.error error, store) => (.error error, store)
  | (.ok configuration, store) => body configuration store

def get (tenantId : TenantId) : Except StoreError (Checked C) × ConfigurationStore C :=
  store.getUnlocked tenantId

def snapshot [Sha256] (snapshotId : String) (createdAt : Time) (tenantId : TenantId) :
    Except StoreError SnapshotRecord × ConfigurationStore C :=
  store.withConfiguration tenantId fun configuration store =>
    let document := fields configuration.1
    let snapshot : SnapshotRecord := ⟨snapshotId, tenantId.1, systemId configuration.1, document,
      sha256Digest (.obj document), createdAt⟩
    (.ok snapshot, { store with
      snapshots := store.snapshots.set (tenantId, snapshotId) snapshot
      snapshotTenants := store.snapshotTenants.set snapshotId tenantId })

def dryRun (tenantId : TenantId) (request : FieldPatchRequest) :
    Except StoreError PatchPreview × ConfigurationStore C :=
  store.withConfiguration tenantId fun configuration store =>
    let current := field configuration.1
    if current ≠ request.oldField.1 then
      (.error (.patchConflict request.oldField.1 current), store)
    else
      (.ok ⟨systemId configuration.1, fieldName C, current, request.newField.1,
        decide (current ≠ request.newField.1)⟩, store)

def apply [Sha256] (tenantId : TenantId) (request : FieldPatchRequest) :
    Except StoreError PatchResult × ConfigurationStore C :=
  match store.executions.get? (tenantId, request.idempotencyKey.1) with
  | some prior => (.ok { prior with replayed := true }, store)
  | none =>
    let remainingFailures := store.transientFailures.getD tenantId 0
    if remainingFailures ≠ 0 then
      (.error .transientSandbox,
        { store with transientFailures := store.transientFailures.set tenantId (remainingFailures - 1) })
    else
      store.withConfiguration tenantId fun configuration store =>
        let current := field configuration.1
        if current ≠ request.oldField.1 then
          (.error (.patchConflict request.oldField.1 current), store)
        else
          match (patchDocument (fieldName C) request.newField.1 (fields configuration.1)).bind
              modelValidate with
          | .error error => (.error (.exception error), store)
          | .ok updated =>
            let result : PatchResult := ⟨systemId updated.1, fieldName C, current, request.newField.1,
              request.idempotencyKey.1, sha256Digest (.obj (fields updated.1)), false⟩
            (.ok result, { store with
              configurations := store.configurations.set tenantId updated
              executions := store.executions.set (tenantId, request.idempotencyKey.1) result })

def restore (tenantId : TenantId) (snapshotId : String) :
    Except StoreError RestoreResult × ConfigurationStore C :=
  match store.snapshots.get? (tenantId, snapshotId) with
  | none =>
      if (store.snapshotTenants.get? snapshotId).isSome then (.error .tenantScope, store)
      else (.error (.snapshotNotFound snapshotId), store)
  | some snapshot =>
    match (modelValidate snapshot.configuration : Except Exn (Checked C)) with
    | .error error => (.error (.exception error), store)
    | .ok restored =>
        (.ok ⟨snapshot.systemId, snapshotId, snapshot.configurationHash, true⟩,
          { store with configurations := store.configurations.set tenantId restored })

def injectTransientFailures (tenantId : TenantId) (count : Nat) : Nat × ConfigurationStore C :=
  (count, { store with transientFailures := store.transientFailures.set tenantId count })

def injectVerificationFailures (tenantId : TenantId) (count : Nat) : Nat × ConfigurationStore C :=
  (count, { store with verificationFailures := store.verificationFailures.set tenantId count })

def consumeVerificationFailure (tenantId : TenantId) : Bool × ConfigurationStore C :=
  let remaining := store.verificationFailures.getD tenantId 0
  if remaining = 0 then (false, store)
  else if remaining = 1 then
    (true, { store with verificationFailures := store.verificationFailures.erase tenantId })
  else
    (true, { store with
      verificationFailures := store.verificationFailures.set tenantId (remaining - 1) })

def reset (tenantId : TenantId) : Except StoreError ResetResult × ConfigurationStore C :=
  match store.copySeed with
  | .error error => (.error (.exception error), store)
  | .ok configuration =>
    (.ok ⟨tenantId.1, true⟩, { store with
      configurations := store.configurations.set tenantId configuration
      transientFailures := store.transientFailures.erase tenantId
      verificationFailures := store.verificationFailures.erase tenantId
      executions := withoutTenant store.executions tenantId
      snapshots := popAll store.snapshots tenantId (namesOf store.snapshots tenantId)
      snapshotTenants := (namesOf store.snapshots tenantId).foldl Dict.erase store.snapshotTenants })

end ConfigurationStore

/-- An operation of a tenant on its configuration. -/
inductive Operation where
  | get
  | snapshot (snapshotId : String) (createdAt : Time)
  | dryRun (request : FieldPatchRequest)
  | apply (request : FieldPatchRequest)
  | restore (snapshotId : String)
  | injectTransientFailures (count : Nat)
  | injectVerificationFailures (count : Nat)
  | consumeVerificationFailure
  | reset

inductive Answer (C : Type) [ConfigModel C] where
  | configuration (configuration : Checked C)
  | snapshot (snapshot : SnapshotRecord)
  | preview (preview : PatchPreview)
  | patch (result : PatchResult)
  | restored (result : RestoreResult)
  | failures (remaining : Nat)
  | consumed (failed : Bool)
  | reset (result : ResetResult)

/-- One operation on the store. -/
def ConfigurationStore.step {C : Type} [ConfigModel C] [Sha256] (store : ConfigurationStore C)
    (call : TenantId × Operation) : Except StoreError (Answer C) × ConfigurationStore C :=
  match call.2 with
  | .get => (store.get call.1).map (Except.map .configuration) id
  | .snapshot snapshotId createdAt =>
      (store.snapshot snapshotId createdAt call.1).map (Except.map .snapshot) id
  | .dryRun request => (store.dryRun call.1 request).map (Except.map .preview) id
  | .apply request => (store.apply call.1 request).map (Except.map .patch) id
  | .restore snapshotId => (store.restore call.1 snapshotId).map (Except.map .restored) id
  | .injectTransientFailures count =>
      (store.injectTransientFailures call.1 count).map (fun n => .ok (.failures n)) id
  | .injectVerificationFailures count =>
      (store.injectVerificationFailures call.1 count).map (fun n => .ok (.failures n)) id
  | .consumeVerificationFailure =>
      (store.consumeVerificationFailure call.1).map (fun b => .ok (.consumed b)) id
  | .reset => (store.reset call.1).map (Except.map .reset) id

/-! ## The contract that is active for each tenant -/

structure CatalogStore where
  seed : CatalogSeed
  activeVersions : Dict TenantId String := .empty
  snapshots : Dict (TenantId × String) SnapshotRecord := .empty
  snapshotTenants : Dict String TenantId := .empty
  executions : Dict (TenantId × String) CatalogActivationResult := .empty

namespace CatalogStore

/-- `__init__`. -/
def new (seed : CatalogSeed) : CatalogStore := { seed := seed }

variable (store : CatalogStore)

def contractForVersion (version : String) : Except StoreError ApiContract :=
  match store.seed.contracts.find? fun candidate => decide (candidate.version.1 = version) with
  | some contract => .ok contract
  | none => .error (.contractVersionNotFound version)

def activeVersion (tenantId : TenantId) : String :=
  store.activeVersions.getD tenantId store.seed.activeVersion.1

def activeContract (tenantId : TenantId) : Except StoreError ApiContract :=
  store.contractForVersion (store.activeVersion tenantId)

def dependencies : Option String → List DependencyEdge
  | none => store.seed.dependencies
  | some source => store.seed.dependencies.filter fun edge => decide (edge.source.1 = source)

def snapshot [Sha256] (snapshotId : String) (createdAt : Time) (tenantId : TenantId) :
    Except StoreError SnapshotRecord × CatalogStore :=
  match store.activeContract tenantId with
  | .error error => (.error error, store)
  | .ok contract =>
    let document := contract.fields
    let snapshot : SnapshotRecord := ⟨snapshotId, tenantId.1, "customer-api", document,
      sha256Digest (.obj document), createdAt⟩
    (.ok snapshot, { store with
      snapshots := store.snapshots.set (tenantId, snapshotId) snapshot
      snapshotTenants := store.snapshotTenants.set snapshotId tenantId })

def activate (tenantId : TenantId) (request : CatalogActivationRequest) :
    Except StoreError CatalogActivationResult × CatalogStore :=
  match store.executions.get? (tenantId, request.idempotencyKey.1) with
  | some prior => (.ok { prior with replayed := true }, store)
  | none =>
    match store.contractForVersion request.version.1 with
    | .error error => (.error error, store)
    | .ok contract =>
      let result : CatalogActivationResult := ⟨contract, request.idempotencyKey.1, false⟩
      (.ok result, { store with
        activeVersions := store.activeVersions.set tenantId contract.version.1
        executions := store.executions.set (tenantId, request.idempotencyKey.1) result })

def restore (tenantId : TenantId) (snapshotId : String) :
    Except StoreError RestoreResult × CatalogStore :=
  match store.snapshots.get? (tenantId, snapshotId) with
  | none =>
      if (store.snapshotTenants.get? snapshotId).isSome then (.error .tenantScope, store)
      else (.error (.snapshotNotFound snapshotId), store)
  | some snapshot =>
    match ApiContract.modelValidate snapshot.configuration with
    | .error error => (.error (.exception error), store)
    | .ok contract =>
        (.ok ⟨"customer-api", snapshotId, snapshot.configurationHash, true⟩,
          { store with activeVersions := store.activeVersions.set tenantId contract.version.1 })

def reset (tenantId : TenantId) : ResetResult × CatalogStore :=
  (⟨tenantId.1, true⟩, { store with
    activeVersions := store.activeVersions.set tenantId store.seed.activeVersion.1
    executions := withoutTenant store.executions tenantId
    snapshots := popAll store.snapshots tenantId (namesOf store.snapshots tenantId)
    snapshotTenants := (namesOf store.snapshots tenantId).foldl Dict.erase store.snapshotTenants })

end CatalogStore

/-- An operation of a tenant on the catalog. -/
inductive CatalogOperation where
  | activeContract
  | contractVersion (version : String)
  | dependencies (source : Option String)
  | snapshot (snapshotId : String) (createdAt : Time)
  | activate (request : CatalogActivationRequest)
  | restore (snapshotId : String)
  | reset

inductive CatalogAnswer where
  | contract (contract : ApiContract)
  | dependencies (edges : List DependencyEdge)
  | snapshot (snapshot : SnapshotRecord)
  | activation (result : CatalogActivationResult)
  | restored (result : RestoreResult)
  | reset (result : ResetResult)

/-- One operation on the catalog. -/
def CatalogStore.step [Sha256] (store : CatalogStore) (call : TenantId × CatalogOperation) :
    Except StoreError CatalogAnswer × CatalogStore :=
  match call.2 with
  | .activeContract => ((store.activeContract call.1).map .contract, store)
  | .contractVersion version => ((store.contractForVersion version).map .contract, store)
  | .dependencies source => (.ok (.dependencies (store.dependencies source)), store)
  | .snapshot snapshotId createdAt =>
      (store.snapshot snapshotId createdAt call.1).map (Except.map .snapshot) id
  | .activate request => (store.activate call.1 request).map (Except.map .activation) id
  | .restore snapshotId => (store.restore call.1 snapshotId).map (Except.map .restored) id
  | .reset => (store.reset call.1).map (fun result => .ok (.reset result)) id

end ChangeOps.Sandbox
