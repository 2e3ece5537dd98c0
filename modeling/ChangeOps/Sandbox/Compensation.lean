import ChangeOps.Sandbox.Replays

/-!
# ChangeOps.Sandbox — compensation by snapshots

What the coordinator relies on when it rolls a change back. A snapshot goes through a JSON document
and back through the model, the catalog keeps a version and not a contract; still a restore gives
the configuration of the snapshot, after any run of calls that neither reset the tenant nor take
the snapshot again under its identifier. A call that raises leaves what a rollback needs, and a key
changes the configuration once.
-/

namespace ChangeOps.Sandbox

open Machine SystemConfiguration ConfigModel

/-! ## Configurations -/

/-- The operation neither resets the tenant nor takes a snapshot under this identifier. -/
def Operation.KeepsSnapshot (snapshotId : String) (operation : Operation) : Prop :=
  operation ≠ .reset ∧ ∀ createdAt, operation ≠ .snapshot snapshotId createdAt

section Configurations

variable {C : Type} [ConfigModel C] [Sha256]

theorem View.snapshots_step {view : View C} {seed : Checked C} {tenantId : TenantId}
    {snapshotId : String} {operation : Operation} (hkeeps : operation.KeepsSnapshot snapshotId) :
    (view.step seed tenantId operation).2.snapshots snapshotId = view.snapshots snapshotId := by
  cases operation with
  | reset => exact absurd rfl hkeeps.1
  | snapshot name createdAt =>
    have hne : snapshotId ≠ name := by
      rintro rfl
      exact hkeeps.2 createdAt rfl
    exact Function.update_of_ne hne _ _
  | apply request =>
    show (view.apply request).2.snapshots snapshotId = _
    unfold apply
    cases view.executions request.idempotencyKey.1 with
    | some prior => rfl
    | none =>
      dsimp only
      split_ifs <;> rfl
  | restore name =>
    show (view.restore name).2.snapshots snapshotId = _
    obtain ⟨configuration, heq⟩ := view.restore_eq name
    rw [heq]
  | _ => rfl

namespace ConfigurationStore

omit [Sha256] in
theorem get_eq (store : ConfigurationStore C) (tenantId : TenantId) :
    (store.get tenantId).1 = .ok (store.current tenantId) :=
  congrArg Prod.fst (store.getUnlocked_eq tenantId)

theorem snapshots_final {store : ConfigurationStore C} {tenantId : TenantId} {snapshotId : String}
    {snapshot : SnapshotRecord} (hsnapshot : store.snapshots.get? (tenantId, snapshotId) = some snapshot)
    {calls : List (TenantId × Operation)}
    (hkeeps : ∀ call ∈ calls, call.1 = tenantId → call.2.KeepsSnapshot snapshotId) :
    (final ConfigurationStore.step store calls).snapshots.get? (tenantId, snapshotId) =
      some snapshot := by
  refine final_induction ConfigurationStore.step
    (I := fun s => (s.view tenantId).snapshots snapshotId = some snapshot)
    (fun s call hcall hs => ?_) hkeeps hsnapshot
  by_cases htenant : tenantId = call.1
  · subst htenant
    have hown : (s.step call).2.view call.1 = _ := (s.serves_step call.1 call.2).own
    rw [hown, View.snapshots_step (hcall rfl)]
    exact hs
  · have hothers : (s.step call).2.view tenantId = s.view tenantId :=
      (s.serves_step call.1 call.2).others tenantId htenant
    rw [hothers]
    exact hs

omit [Sha256] in
/-- A restore from the document of a configuration. -/
theorem restore_of_snapshot {store : ConfigurationStore C} {tenantId : TenantId}
    {snapshotId : String} {snapshot : SnapshotRecord} {configuration : Checked C}
    (hsnapshot : store.snapshots.get? (tenantId, snapshotId) = some snapshot)
    (hdocument : snapshot.configuration = fields configuration.1) :
    store.restore tenantId snapshotId =
      (.ok ⟨snapshot.systemId, snapshotId, snapshot.configurationHash, true⟩,
        { store with configurations := store.configurations.set tenantId configuration }) := by
  unfold restore
  rw [hsnapshot]
  dsimp only
  rw [hdocument, modelValidate_fields]

omit [Sha256] in
/-- A restore, and the same restore again. -/
theorem restore_twice {store : ConfigurationStore C} {tenantId : TenantId}
    {snapshotId : String} {snapshot : SnapshotRecord} {configuration : Checked C}
    (hsnapshot : store.snapshots.get? (tenantId, snapshotId) = some snapshot)
    (hdocument : snapshot.configuration = fields configuration.1) :
    ∃ restored result, store.restore tenantId snapshotId = (.ok result, restored) ∧
      result.configurationHash = snapshot.configurationHash ∧
      restored.current tenantId = configuration ∧
      restored.restore tenantId snapshotId = (.ok result, restored) := by
  refine ⟨_, _, restore_of_snapshot hsnapshot hdocument, rfl, ?_, ?_⟩
  · show (store.configurations.set tenantId configuration).getD tenantId store.seed = configuration
    rw [Dict.getD_set, if_pos rfl]
  · generalize hrestored : ({ store with
      configurations := store.configurations.set tenantId configuration } : ConfigurationStore C) =
        restored
    have hkept : restored.snapshots.get? (tenantId, snapshotId) = some snapshot := by
      rw [← hrestored]
      exact hsnapshot
    rw [restore_of_snapshot hkept hdocument, ← hrestored]
    simp only [Dict.set_set]

/-- A patch that raises leaves the configurations, the snapshots and the executions. -/
theorem apply_error {store : ConfigurationStore C} {tenantId : TenantId}
    {request : FieldPatchRequest} {error : StoreError}
    (herror : (store.apply tenantId request).1 = .error error) :
    (∀ tenantId', (store.apply tenantId request).2.current tenantId' = store.current tenantId') ∧
      (store.apply tenantId request).2.snapshots = store.snapshots ∧
      (store.apply tenantId request).2.executions = store.executions := by
  unfold apply at herror ⊢
  cases hprior : store.executions.get? (tenantId, request.idempotencyKey.1) with
  | some prior =>
    rw [hprior] at herror
    cases herror
  | none =>
    rw [hprior] at herror
    dsimp only at herror ⊢
    by_cases hfailures : store.transientFailures.getD tenantId 0 ≠ 0
    · rw [if_pos hfailures]
      exact ⟨fun _ => rfl, rfl, rfl⟩
    · rw [if_neg hfailures, withConfiguration_eq] at herror ⊢
      by_cases hfield : field (store.current tenantId).1 ≠ request.oldField.1
      · rw [if_pos hfield]
        obtain ⟨configurations, heq, hcurrent⟩ := store.seen_eq tenantId
        rw [heq]
        exact ⟨hcurrent, rfl, rfl⟩
      · -- the document of a patch is a valid configuration, so nothing is raised here
        rw [if_neg hfield, patchDocument_patched] at herror
        cases herror

/-- A patch that changes the configuration of its tenant is executed, under a new key. -/
theorem executed_of_current_ne {store : ConfigurationStore C} {tenantId : TenantId}
    {request : FieldPatchRequest}
    (hchanged : (store.apply tenantId request).2.current tenantId ≠ store.current tenantId) :
    store.executions.get? (tenantId, request.idempotencyKey.1) = none ∧
      ∃ result, patchResult (store.step (tenantId, .apply request)).1 = some result := by
  constructor
  · cases hprior : store.executions.get? (tenantId, request.idempotencyKey.1) with
    | none => rfl
    | some prior =>
      unfold apply at hchanged
      rw [hprior] at hchanged
      exact absurd rfl hchanged
  · cases hanswer : (store.apply tenantId request).1 with
    | error error => exact absurd ((apply_error hanswer).1 tenantId) hchanged
    | ok result =>
      refine ⟨result, ?_⟩
      show patchResult ((store.apply tenantId request).1.map Answer.patch) = some result
      rw [hanswer]
      rfl

/-- What a rollback needs of a store. -/
structure Compensates (C : Type) [ConfigModel C] : Prop where
  /-- A restore gives the configuration and the digest of the snapshot, and a second one nothing new. -/
  restores : ∀ (store : ConfigurationStore C) (tenantId : TenantId) (snapshotId : String)
    (createdAt : Time) (calls : List (TenantId × Operation)),
    (∀ call ∈ calls, call.1 = tenantId → call.2.KeepsSnapshot snapshotId) →
    ∃ restored result,
      (final ConfigurationStore.step (store.snapshot snapshotId createdAt tenantId).2 calls).restore
        tenantId snapshotId = (.ok result, restored) ∧
      result.configurationHash = sha256Digest (.obj (fields (store.current tenantId).1)) ∧
      restored.current tenantId = store.current tenantId ∧
      restored.restore tenantId snapshotId = (.ok result, restored)
  /-- A patch that raises leaves the configurations, the snapshots and the executions. -/
  raises : ∀ (store : ConfigurationStore C) (tenantId : TenantId) (request : FieldPatchRequest)
    (error : StoreError), (store.apply tenantId request).1 = .error error →
    (∀ tenantId', (store.apply tenantId request).2.current tenantId' = store.current tenantId') ∧
      (store.apply tenantId request).2.snapshots = store.snapshots ∧
      (store.apply tenantId request).2.executions = store.executions
  /-- After a patch that changed the configuration, and until the next reset, no patch of the tenant
      under the same key changes anything. -/
  once : ∀ (store : ConfigurationStore C) (tenantId : TenantId) (request request' : FieldPatchRequest)
    (calls : List (TenantId × Operation)), request'.idempotencyKey = request.idempotencyKey →
    (store.apply tenantId request).2.current tenantId ≠ store.current tenantId →
    (∀ call ∈ calls, call.1 = tenantId → call.2 ≠ .reset) →
    ((final ConfigurationStore.step (store.apply tenantId request).2 calls).apply tenantId
      request').2 = final ConfigurationStore.step (store.apply tenantId request).2 calls

theorem compensates : Compensates C where
  restores store tenantId snapshotId createdAt calls hkeeps := by
    have htaken : sharing.Serves store tenantId none (store.snapshot snapshotId createdAt tenantId) _ :=
      store.serves_snapshot tenantId snapshotId createdAt
    have hsnapshot : (store.snapshot snapshotId createdAt tenantId).2.snapshots.get?
        (tenantId, snapshotId) = some ((store.view tenantId).taken snapshotId createdAt tenantId) :=
      (congrFun (congrArg View.snapshots htaken.own) snapshotId).trans (Function.update_self _ _ _)
    exact restore_twice (snapshots_final hsnapshot hkeeps) rfl
  raises _ _ _ _ := apply_error
  once store tenantId request request' calls hkey hchanged hresets := by
    obtain ⟨hnew, result, hresult⟩ := executed_of_current_ne hchanged
    have hclear : ∀ call ∈ calls, ∀ cleared, patchUse call = .clear cleared →
        cleared (tenantId, request.idempotencyKey.1) = false := by
      intro call hcall cleared huse
      obtain ⟨caller, operation⟩ := call
      cases operation with
      | reset =>
        cases huse
        exact decide_eq_false fun heq => hresets _ hcall heq.symm rfl
      | _ => cases huse
    have huse : patchUse (tenantId, .apply request') =
        .call (tenantId, request.idempotencyKey.1) request' := by
      show Use.call (tenantId, request'.idempotencyKey.1) request' = _
      rw [hkey]
    have honce : ConfigurationStore.step (final ConfigurationStore.step store
        ((tenantId, .apply request) :: calls)) (tenantId, .apply request') = _ :=
      replays.once rfl huse hresult hnew hclear
    exact congrArg Prod.snd honce

end ConfigurationStore

end Configurations

/-! ## The catalog -/

/-- The operation neither resets the tenant nor takes a snapshot under this identifier. -/
def CatalogOperation.KeepsSnapshot (snapshotId : String) (operation : CatalogOperation) : Prop :=
  operation ≠ .reset ∧ ∀ createdAt, operation ≠ .snapshot snapshotId createdAt

/-- A contract is found again under its own version. -/
theorem CatalogSeed.contractForVersion_version {seed : CatalogSeed} {version : String}
    {contract : ApiContract} (h : seed.contractForVersion version = .ok contract) :
    contract.version.1 = version := by
  unfold contractForVersion at h
  cases hfind : seed.contracts.find? fun candidate => decide (candidate.version.1 = version) with
  | none =>
    rw [hfind] at h
    cases h
  | some found =>
    rw [hfind] at h
    cases h
    simpa using List.find?_some hfind

section Catalog

variable [Sha256]

theorem CatalogView.snapshots_step {view : CatalogView} {seed : CatalogSeed} {tenantId : TenantId}
    {snapshotId : String} {operation : CatalogOperation}
    (hkeeps : operation.KeepsSnapshot snapshotId) :
    (view.step seed tenantId operation).2.snapshots snapshotId = view.snapshots snapshotId := by
  cases operation with
  | reset => exact absurd rfl hkeeps.1
  | snapshot name createdAt =>
    have hne : snapshotId ≠ name := by
      rintro rfl
      exact hkeeps.2 createdAt rfl
    show (view.snapshot seed name createdAt tenantId).2.snapshots snapshotId = _
    obtain ⟨snapshots, heq, hothers⟩ := view.snapshot_eq seed name createdAt tenantId
    rw [heq]
    exact hothers snapshotId hne
  | activate request =>
    show (view.activate seed request).2.snapshots snapshotId = _
    unfold activate
    cases view.executions request.idempotencyKey.1 with
    | some prior => rfl
    | none =>
      dsimp only
      cases seed.contractForVersion request.version.1 <;> rfl
  | restore name =>
    show (view.restore name).2.snapshots snapshotId = _
    obtain ⟨version, heq⟩ := view.restore_eq name
    rw [heq]
  | _ => rfl

namespace CatalogStore

theorem seed_final (store : CatalogStore) (calls : List (TenantId × CatalogOperation)) :
    (final CatalogStore.step store calls).seed = store.seed := by
  refine final_induction CatalogStore.step (I := fun s => s.seed = store.seed)
    (fun s call (_ : True) hs => ?_) (fun _ _ => trivial) rfl
  exact ((s.serves_step call.1 call.2).seed).trans hs

theorem snapshots_final {store : CatalogStore} {tenantId : TenantId} {snapshotId : String}
    {snapshot : SnapshotRecord} (hsnapshot : store.snapshots.get? (tenantId, snapshotId) = some snapshot)
    {calls : List (TenantId × CatalogOperation)}
    (hkeeps : ∀ call ∈ calls, call.1 = tenantId → call.2.KeepsSnapshot snapshotId) :
    (final CatalogStore.step store calls).snapshots.get? (tenantId, snapshotId) = some snapshot := by
  refine final_induction CatalogStore.step
    (I := fun s => (s.view tenantId).snapshots snapshotId = some snapshot)
    (fun s call hcall hs => ?_) hkeeps hsnapshot
  by_cases htenant : tenantId = call.1
  · subst htenant
    have hown : (s.step call).2.view call.1 = _ := (s.serves_step call.1 call.2).own
    rw [hown, CatalogView.snapshots_step (hcall rfl)]
    exact hs
  · have hothers : (s.step call).2.view tenantId = s.view tenantId :=
      (s.serves_step call.1 call.2).others tenantId htenant
    rw [hothers]
    exact hs

omit [Sha256] in
/-- A restore from the document of a contract. -/
theorem restore_of_snapshot {store : CatalogStore} {tenantId : TenantId} {snapshotId : String}
    {snapshot : SnapshotRecord} {contract : ApiContract}
    (hsnapshot : store.snapshots.get? (tenantId, snapshotId) = some snapshot)
    (hdocument : snapshot.configuration = contract.fields) :
    store.restore tenantId snapshotId =
      (.ok ⟨"customer-api", snapshotId, snapshot.configurationHash, true⟩,
        { store with activeVersions := store.activeVersions.set tenantId contract.version.1 }) := by
  unfold restore
  rw [hsnapshot]
  dsimp only
  rw [hdocument, ApiContract.modelValidate_fields]

omit [Sha256] in
/-- A restore, and the same restore again. -/
theorem restore_twice {store : CatalogStore} {tenantId : TenantId} {snapshotId version : String}
    {snapshot : SnapshotRecord} {contract : ApiContract}
    (hsnapshot : store.snapshots.get? (tenantId, snapshotId) = some snapshot)
    (hdocument : snapshot.configuration = contract.fields)
    (hcontract : store.contractForVersion version = .ok contract) :
    ∃ restored result, store.restore tenantId snapshotId = (.ok result, restored) ∧
      result.configurationHash = snapshot.configurationHash ∧
      restored.activeContract tenantId = .ok contract ∧
      restored.restore tenantId snapshotId = (.ok result, restored) := by
  refine ⟨_, _, restore_of_snapshot hsnapshot hdocument, rfl, ?_, ?_⟩
  · -- the catalog keeps the version, and the contract is the first one of its version
    show store.contractForVersion
      ((store.activeVersions.set tenantId contract.version.1).getD tenantId _) = .ok contract
    rw [Dict.getD_set, if_pos rfl, CatalogSeed.contractForVersion_version hcontract, hcontract]
  · generalize hrestored : ({ store with
      activeVersions := store.activeVersions.set tenantId contract.version.1 } : CatalogStore) =
        restored
    have hkept : restored.snapshots.get? (tenantId, snapshotId) = some snapshot := by
      rw [← hrestored]
      exact hsnapshot
    rw [restore_of_snapshot hkept hdocument, ← hrestored]
    simp only [Dict.set_set]

omit [Sha256] in
/-- An activation that raises leaves the catalog. -/
theorem activate_error {store : CatalogStore} {tenantId : TenantId}
    {request : CatalogActivationRequest} {error : StoreError}
    (herror : (store.activate tenantId request).1 = .error error) :
    (store.activate tenantId request).2 = store := by
  unfold activate at herror ⊢
  cases hprior : store.executions.get? (tenantId, request.idempotencyKey.1) with
  | some prior => rfl
  | none =>
    rw [hprior] at herror
    dsimp only at herror ⊢
    cases hcontract : store.contractForVersion request.version.1 with
    | error raised => rfl
    | ok contract =>
      rw [hcontract] at herror
      cases herror

/-- An activation that changes the contract of its tenant is executed, under a new key. -/
theorem executed_of_activeContract_ne {store : CatalogStore} {tenantId : TenantId}
    {request : CatalogActivationRequest}
    (hchanged : (store.activate tenantId request).2.activeContract tenantId ≠
      store.activeContract tenantId) :
    store.executions.get? (tenantId, request.idempotencyKey.1) = none ∧
      ∃ result, activationResult (store.step (tenantId, .activate request)).1 = some result := by
  constructor
  · cases hprior : store.executions.get? (tenantId, request.idempotencyKey.1) with
    | none => rfl
    | some prior =>
      unfold activate at hchanged
      rw [hprior] at hchanged
      exact absurd rfl hchanged
  · cases hanswer : (store.activate tenantId request).1 with
    | error error =>
      rw [activate_error hanswer] at hchanged
      exact absurd rfl hchanged
    | ok result =>
      refine ⟨result, ?_⟩
      show activationResult ((store.activate tenantId request).1.map .activation) = some result
      rw [hanswer]
      rfl

/-- What a rollback needs of the catalog. -/
structure Compensates : Prop where
  /-- A restore gives the contract and the digest of the snapshot, and a second one nothing new. -/
  restores : ∀ (store : CatalogStore) (tenantId : TenantId) (snapshotId : String)
    (createdAt : Time) (calls : List (TenantId × CatalogOperation)) (snapshot : SnapshotRecord),
    (store.snapshot snapshotId createdAt tenantId).1 = .ok snapshot →
    (∀ call ∈ calls, call.1 = tenantId → call.2.KeepsSnapshot snapshotId) →
    ∃ restored result contract,
      (final CatalogStore.step (store.snapshot snapshotId createdAt tenantId).2 calls).restore
        tenantId snapshotId = (.ok result, restored) ∧
      store.activeContract tenantId = .ok contract ∧
      result.configurationHash = sha256Digest (.obj contract.fields) ∧
      restored.activeContract tenantId = .ok contract ∧
      restored.restore tenantId snapshotId = (.ok result, restored)
  /-- An activation that raises leaves the catalog. -/
  raises : ∀ (store : CatalogStore) (tenantId : TenantId) (request : CatalogActivationRequest)
    (error : StoreError), (store.activate tenantId request).1 = .error error →
    (store.activate tenantId request).2 = store
  /-- After an activation that changed the contract, and until the next reset, no activation of the
      tenant under the same key changes anything. -/
  once : ∀ (store : CatalogStore) (tenantId : TenantId) (request request' : CatalogActivationRequest)
    (calls : List (TenantId × CatalogOperation)), request'.idempotencyKey = request.idempotencyKey →
    (store.activate tenantId request).2.activeContract tenantId ≠ store.activeContract tenantId →
    (∀ call ∈ calls, call.1 = tenantId → call.2 ≠ .reset) →
    ((final CatalogStore.step (store.activate tenantId request).2 calls).activate tenantId
      request').2 = final CatalogStore.step (store.activate tenantId request).2 calls

theorem compensates : Compensates where
  restores store tenantId snapshotId createdAt calls snapshot htaken hkeeps := by
    cases hcontract : store.activeContract tenantId with
    | error error =>
      unfold CatalogStore.snapshot at htaken
      rw [hcontract] at htaken
      cases htaken
    | ok contract =>
      have hstored : ∃ taken, taken.configuration = contract.fields ∧
          taken.configurationHash = sha256Digest (.obj contract.fields) ∧
          (store.snapshot snapshotId createdAt tenantId).2.snapshots.get? (tenantId, snapshotId) =
            some taken := by
        unfold CatalogStore.snapshot
        rw [hcontract]
        exact ⟨_, rfl, rfl, Dict.get?_set_self _ _ _⟩
      obtain ⟨taken, hdocument, hhash, hget⟩ := hstored
      have hseed : (store.snapshot snapshotId createdAt tenantId).2.seed = store.seed := by
        have hserves : sharing.Serves store tenantId none
            (store.snapshot snapshotId createdAt tenantId) _ :=
          store.serves_snapshot tenantId snapshotId createdAt
        exact hserves.seed
      have hlater : (final CatalogStore.step (store.snapshot snapshotId createdAt tenantId).2
          calls).contractForVersion (store.activeVersion tenantId) = .ok contract := by
        rw [contractForVersion_seed, seed_final, hseed]
        exact hcontract
      obtain ⟨restored, result, hrestore, hresult, hactive, hagain⟩ :=
        restore_twice (snapshots_final hget hkeeps) hdocument hlater
      exact ⟨restored, result, contract, hrestore, rfl, hresult.trans hhash, hactive, hagain⟩
  raises _ _ _ _ := activate_error
  once store tenantId request request' calls hkey hchanged hresets := by
    obtain ⟨hnew, result, hresult⟩ := executed_of_activeContract_ne hchanged
    have hclear : ∀ call ∈ calls, ∀ cleared, activationUse call = .clear cleared →
        cleared (tenantId, request.idempotencyKey.1) = false := by
      intro call hcall cleared huse
      obtain ⟨caller, operation⟩ := call
      cases operation with
      | reset =>
        cases huse
        exact decide_eq_false fun heq => hresets _ hcall heq.symm rfl
      | _ => cases huse
    have huse : activationUse (tenantId, .activate request') =
        .call (tenantId, request.idempotencyKey.1) request' := by
      show Use.call (tenantId, request'.idempotencyKey.1) request' = _
      rw [hkey]
    have honce : CatalogStore.step (final CatalogStore.step store
        ((tenantId, .activate request) :: calls)) (tenantId, .activate request') = _ :=
      replays.once rfl huse hresult hnew hclear
    exact congrArg Prod.snd honce

end CatalogStore

/-- **The stores compensate**: in any state, a snapshot can be restored after any calls but a reset;
    a call that raises leaves what was there; a key changes the configuration once. -/
theorem stores_compensate :
    (∀ (C : Type) [ConfigModel C], ConfigurationStore.Compensates C) ∧ CatalogStore.Compensates :=
  ⟨fun _ _ => ConfigurationStore.compensates, CatalogStore.compensates⟩

end Catalog

end ChangeOps.Sandbox
