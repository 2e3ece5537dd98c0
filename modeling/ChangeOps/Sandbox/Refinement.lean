import ChangeOps.Sandbox.Compensation

/-!
# ChangeOps.Sandbox — the store of documents refines the store of models

In `ChangeOps.ConfigurationStore` a snapshot keeps the configuration itself. The store of the sandbox
keeps a document and validates it again; `Refines` says that nobody can tell.
-/

namespace ChangeOps.Sandbox

open SystemConfiguration ConfigModel

/-- The request as the store of models reads it. -/
def FieldPatchRequest.forget (request : FieldPatchRequest) : ChangeOps.FieldPatchRequest :=
  ⟨request.oldField.1, request.newField.1, request.idempotencyKey.1⟩

@[simp] theorem FieldPatchRequest.forget_oldField (request : FieldPatchRequest) :
    request.forget.oldField = request.oldField.1 := rfl

@[simp] theorem FieldPatchRequest.forget_newField (request : FieldPatchRequest) :
    request.forget.newField = request.newField.1 := rfl

@[simp] theorem FieldPatchRequest.forget_idempotencyKey (request : FieldPatchRequest) :
    request.forget.idempotencyKey = request.idempotencyKey.1 := rfl

/-- The result as the store of models gives it. -/
def PatchResult.forget (result : PatchResult) : ChangeOps.PatchResult :=
  ⟨result.before, result.after, result.idempotencyKey, result.configurationHash, result.replayed⟩

/-- The error as the store of models raises it. -/
def StoreError.forget : StoreError → Option SandboxError
  | .snapshotNotFound snapshotId => some (.snapshotNotFound snapshotId)
  | .tenantScope => some .tenantScope
  | .patchConflict expected actual => some (.patchConflict expected actual)
  | .transientSandbox => some .transientSandbox
  | .contractVersionNotFound _ => none
  | .exception _ => none

/-- The same answer, in the words of both stores. -/
inductive SameResult {α β : Type} (forget : α → β) : Except StoreError α → Except SandboxError β → Prop
  where
  | ok (answer : α) : SameResult forget (.ok answer) (.ok (forget answer))
  | error {raised : StoreError} {error : SandboxError} (h : raised.forget = some error) :
      SameResult forget (.error raised) (.error error)

/-- A snapshot that keeps the document of the configuration. -/
structure SameSnapshot {C : Type} [ConfigModel C] (record : SnapshotRecord)
    (stored : StoredSnapshot C) : Prop where
  checked : ConfigModel.Checked stored.configuration
  snapshotId : record.snapshotId = stored.snapshotId
  document : record.configuration = fields stored.configuration
  hash : record.configurationHash = stored.configurationHash

/-- The two stores hold the same for every tenant. -/
structure Refines {C : Type} [ConfigModel C] (store : ConfigurationStore C)
    (models : ChangeOps.ConfigurationStore C) : Prop where
  current : ∀ tenantId : TenantId, models.get tenantId.1 = (store.current tenantId).1
  snapshots : ∀ (tenantId : TenantId) (snapshotId : String),
    Option.Rel SameSnapshot (store.snapshots.get? (tenantId, snapshotId))
      (models.snapshots.get? (tenantId.1, snapshotId))
  snapshotTenants : ∀ snapshotId, (models.snapshotTenants.get? snapshotId).isSome =
    (store.snapshotTenants.get? snapshotId).isSome
  executions : ∀ (tenantId : TenantId) (key : String), models.executions.get? (tenantId.1, key) =
    (store.executions.get? (tenantId, key)).map PatchResult.forget
  transientFailures : ∀ tenantId : TenantId,
    models.transientFailures.getD tenantId.1 0 = store.transientFailures.getD tenantId 0

/-- Keys of tenants stay different as keys of texts. -/
theorem key_ne {tenantId tenantId' : TenantId} {key key' : String}
    (h : (tenantId', key') ≠ (tenantId, key)) : (tenantId'.1, key') ≠ (tenantId.1, key) := by
  intro heq
  rw [Prod.mk.injEq] at heq
  exact h (Prod.ext (Subtype.ext heq.1) heq.2)

namespace Refines

variable {C : Type} [ConfigModel C] {store : ConfigurationStore C}
  {models : ChangeOps.ConfigurationStore C}

theorem new (seed : Checked C) : Refines (.new seed) { seed := seed.1 } where
  current _ := rfl
  snapshots _ _ := .none
  snapshotTenants _ := rfl
  executions _ _ := rfl
  transientFailures _ := rfl

/-- Reading a configuration. -/
theorem seen (h : Refines store models) (tenantId : TenantId) :
    Refines (store.seen tenantId) (models.ensure tenantId.1) := by
  obtain ⟨configurations, heq, hcurrent⟩ := store.seen_eq tenantId
  rw [heq]
  exact ⟨fun tenantId' => by
      rw [ChangeOps.ConfigurationStore.get_ensure, h.current]
      exact congrArg Subtype.val (hcurrent tenantId').symm,
    h.snapshots, h.snapshotTenants, h.executions, h.transientFailures⟩

/-- A new configuration of a tenant, in both stores. -/
theorem configure (h : Refines store models) (tenantId : TenantId) (configuration : Checked C) :
    Refines { store with configurations := store.configurations.set tenantId configuration }
      { models with configurations := models.configurations.set tenantId.1 configuration.1 } where
  current tenantId' := by
    rw [ChangeOps.ConfigurationStore.get_set]
    show _ = ((store.configurations.set tenantId configuration).getD tenantId' store.seed).1
    rw [Dict.getD_set]
    by_cases htenant : tenantId' = tenantId
    · rw [if_pos (congrArg Subtype.val htenant), if_pos htenant]
    · rw [if_neg fun heq => htenant (Subtype.ext heq), if_neg htenant]
      exact h.current tenantId'
  snapshots := h.snapshots
  snapshotTenants := h.snapshotTenants
  executions := h.executions
  transientFailures := h.transientFailures

theorem snapshot [Sha256] (h : Refines store models) (tenantId : TenantId) (snapshotId : String)
    (createdAt : Time) :
    ∃ record store', store.snapshot snapshotId createdAt tenantId = (.ok record, store') ∧
      SameSnapshot record (models.snapshot snapshotId tenantId.1).1 ∧
      Refines store' (models.snapshot snapshotId tenantId.1).2 := by
  have hseen := h.seen tenantId
  have hcurrent := h.current tenantId
  have hsame : SameSnapshot ((store.view tenantId).taken snapshotId createdAt tenantId)
      (models.snapshot snapshotId tenantId.1).1 := by
    refine ⟨?_, rfl, ?_, ?_⟩
    · show ConfigModel.Checked (models.get tenantId.1)
      rw [hcurrent]
      exact (store.current tenantId).2
    · show fields (store.current tenantId).1 = fields (models.get tenantId.1)
      rw [hcurrent]
    · show sha256Digest (.obj (fields (store.current tenantId).1)) =
        sha256Digest (modelDump (models.get tenantId.1))
      rw [hcurrent, modelDump_eq]
  unfold ConfigurationStore.snapshot
  rw [ConfigurationStore.withConfiguration_eq]
  refine ⟨_, _, rfl, hsame, hseen.current, fun tenantId' snapshotId' => ?_, fun snapshotId' => ?_,
    hseen.executions, hseen.transientFailures⟩
  · show Option.Rel SameSnapshot (((store.seen tenantId).snapshots.set (tenantId, snapshotId) _).get?
      (tenantId', snapshotId')) ((models.snapshots.set (tenantId.1, snapshotId) _).get? _)
    rw [Dict.get?_set, Dict.get?_set]
    by_cases hkey : (tenantId', snapshotId') = (tenantId, snapshotId)
    · cases hkey
      rw [if_pos rfl, if_pos rfl]
      exact .some hsame
    · rw [if_neg hkey, if_neg (key_ne hkey)]
      exact hseen.snapshots tenantId' snapshotId'
  · show ((models.snapshotTenants.set snapshotId tenantId.1).get? snapshotId').isSome =
      (((store.seen tenantId).snapshotTenants.set snapshotId tenantId).get? snapshotId').isSome
    rw [Dict.get?_set, Dict.get?_set]
    split_ifs
    · rfl
    · exact hseen.snapshotTenants snapshotId'

/-- A patch that is carried out, in both stores. -/
theorem execute [Sha256] (h : Refines store models) (tenantId : TenantId)
    (request : FieldPatchRequest) :
    SameResult PatchResult.forget (.ok ((store.view tenantId).outcome request))
        (.ok ⟨field (store.current tenantId).1, request.newField.1, request.idempotencyKey.1,
          sha256Digest (modelDump (withField (store.current tenantId).1 request.newField.1)), false⟩) ∧
      Refines { store.seen tenantId with
          configurations := (store.seen tenantId).configurations.set tenantId
            (patched (store.current tenantId) request.newField)
          executions := (store.seen tenantId).executions.set (tenantId, request.idempotencyKey.1)
            ((store.view tenantId).outcome request) }
        { models with
          configurations := models.configurations.set tenantId.1
            (withField (store.current tenantId).1 request.newField.1)
          executions := models.executions.set (tenantId.1, request.idempotencyKey.1)
            ⟨field (store.current tenantId).1, request.newField.1, request.idempotencyKey.1,
              sha256Digest (modelDump (withField (store.current tenantId).1 request.newField.1)),
              false⟩ } := by
  have hresult : ((store.view tenantId).outcome request).forget =
      ⟨field (store.current tenantId).1, request.newField.1, request.idempotencyKey.1,
        sha256Digest (modelDump (withField (store.current tenantId).1 request.newField.1)), false⟩ := by
    rw [modelDump_eq]
    rfl
  refine ⟨hresult ▸ .ok _, ?_⟩
  have hconfigured := h.configure tenantId (patched (store.current tenantId) request.newField)
  obtain ⟨configurations, heq, hcurrent⟩ := store.seen_eq tenantId
  rw [heq]
  refine ⟨fun tenantId' => (hconfigured.current tenantId').trans ?_, h.snapshots, h.snapshotTenants,
    fun tenantId' key => ?_, h.transientFailures⟩
  · show ((store.configurations.set tenantId _).getD tenantId' store.seed).1 =
      ((configurations.set tenantId _).getD tenantId' store.seed).1
    rw [Dict.getD_set, Dict.getD_set, hcurrent]
    rfl
  · show (models.executions.set (tenantId.1, request.idempotencyKey.1) _).get? (tenantId'.1, key) =
      ((store.executions.set (tenantId, request.idempotencyKey.1) _).get? (tenantId', key)).map _
    rw [Dict.get?_set, Dict.get?_set]
    by_cases hkey : (tenantId', key) = (tenantId, request.idempotencyKey.1)
    · cases hkey
      rw [if_pos rfl, if_pos rfl, Option.map_some, hresult]
    · rw [if_neg hkey, if_neg (key_ne hkey)]
      exact h.executions tenantId' key

theorem apply [Sha256] (h : Refines store models) (tenantId : TenantId)
    (request : FieldPatchRequest) :
    SameResult PatchResult.forget (store.apply tenantId request).1
        (models.apply tenantId.1 request.forget).1 ∧
      Refines (store.apply tenantId request).2 (models.apply tenantId.1 request.forget).2 := by
  have hexecutions := h.executions tenantId request.idempotencyKey.1
  have hcurrent := h.current tenantId
  have hfailures := h.transientFailures tenantId
  unfold ConfigurationStore.apply ChangeOps.ConfigurationStore.apply
  simp only [FieldPatchRequest.forget_idempotencyKey, FieldPatchRequest.forget_oldField,
    FieldPatchRequest.forget_newField, hexecutions, hfailures, hcurrent]
  cases store.executions.get? (tenantId, request.idempotencyKey.1) with
  | some prior => exact ⟨.ok _, h⟩
  | none =>
    dsimp only [Option.map_none]
    by_cases hremaining : store.transientFailures.getD tenantId 0 ≠ 0
    · rw [if_pos hremaining, if_pos hremaining]
      refine ⟨.error rfl, h.current, h.snapshots, h.snapshotTenants, h.executions,
        fun tenantId' => ?_⟩
      rw [Dict.getD_set, Dict.getD_set]
      by_cases htenant : tenantId' = tenantId
      · rw [if_pos htenant, if_pos (congrArg Subtype.val htenant)]
      · rw [if_neg htenant, if_neg fun heq => htenant (Subtype.ext heq)]
        exact h.transientFailures tenantId'
    · rw [if_neg hremaining, if_neg hremaining, ConfigurationStore.withConfiguration_eq]
      by_cases hfield : field (store.current tenantId).1 ≠ request.oldField.1
      · rw [if_pos hfield, if_pos hfield]
        exact ⟨.error rfl, h.seen tenantId⟩
      · rw [if_neg hfield, if_neg hfield, patchDocument_patched]
        exact h.execute tenantId request

theorem restore (h : Refines store models) (tenantId : TenantId) (snapshotId : String) :
    SameResult (fun _ : RestoreResult => ()) (store.restore tenantId snapshotId).1
        (models.restore tenantId.1 snapshotId).1 ∧
      Refines (store.restore tenantId snapshotId).2 (models.restore tenantId.1 snapshotId).2 := by
  have hsnapshot := h.snapshots tenantId snapshotId
  unfold ChangeOps.ConfigurationStore.restore
  cases hget : store.snapshots.get? (tenantId, snapshotId) with
  | none =>
    rw [hget] at hsnapshot
    generalize models.snapshots.get? (tenantId.1, snapshotId) = stored at hsnapshot ⊢
    cases hsnapshot
    unfold ConfigurationStore.restore
    rw [hget]
    dsimp only
    rw [h.snapshotTenants]
    split_ifs
    · exact ⟨.error rfl, h⟩
    · exact ⟨.error rfl, h⟩
  | some record =>
    rw [hget] at hsnapshot
    generalize models.snapshots.get? (tenantId.1, snapshotId) = stored at hsnapshot ⊢
    cases hsnapshot with
    | @some _ stored hsame =>
      let configuration : Checked C := ⟨stored.configuration, hsame.checked⟩
      have hdocument : record.configuration = fields configuration.1 := hsame.document
      rw [ConfigurationStore.restore_of_snapshot hget hdocument]
      exact ⟨.ok _, h.configure tenantId configuration⟩

end Refines

end ChangeOps.Sandbox
