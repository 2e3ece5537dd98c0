import ChangeOps.Sandbox.Operations

/-!
# ChangeOps.Sandbox — what a store is for one tenant

A tenant sees a configuration, its own snapshots, its own executions and the failures that were
injected for it. `View.step` says what an operation does to that, without the tables of the store;
`ConfigurationStore.step_view` and `CatalogStore.step_view` are the proofs that the stores do the
same, and leave what the other tenants see.

The one thing that a tenant learns about the others is which of the two errors a restore without a
snapshot raises (`Agrees`).
-/

namespace ChangeOps.Sandbox

open SystemConfiguration ConfigModel

/-- The errors of a restore for which the tenant has no snapshot. -/
def NotFound (snapshotId : String) (error : StoreError) : Prop :=
  error = .tenantScope ∨ error = .snapshotNotFound snapshotId

/-- The same answer, except that a restore without a snapshot may raise either of its errors. -/
inductive Agrees {α : Type} (restored : Option String) : Except StoreError α → Except StoreError α → Prop
  where
  | same (answer : Except StoreError α) : Agrees restored answer answer
  | notFound {snapshotId : String} {error error' : StoreError} (hrestored : restored = some snapshotId)
      (herror : NotFound snapshotId error) (herror' : NotFound snapshotId error') :
      Agrees restored (.error error) (.error error')

theorem Agrees.symm {α : Type} {restored : Option String} {answer answer' : Except StoreError α}
    (h : Agrees restored answer answer') : Agrees restored answer' answer := by
  cases h with
  | same => exact .same _
  | notFound hrestored herror herror' => exact .notFound hrestored herror' herror

theorem Agrees.trans {α : Type} {restored : Option String} {a b c : Except StoreError α}
    (h : Agrees restored a b) (h' : Agrees restored b c) : Agrees restored a c := by
  cases h with
  | same => exact h'
  | notFound hrestored herror herror' =>
    cases h' with
    | same => exact .notFound hrestored herror herror'
    | notFound hrestored' _ herror'' =>
      obtain rfl := Option.some.inj (hrestored.symm.trans hrestored')
      exact .notFound hrestored herror herror''

/-! ## Stores that are shared -/

/-- What each tenant sees of a store, and what no call changes. -/
structure Sharing (σ V S : Type) where
  view : σ → TenantId → V
  seed : σ → S

namespace Sharing

variable {σ V S α β : Type} (sharing : Sharing σ V S)

/-- A call of a tenant that does to its view what the tenant expects, and nothing to the others. -/
structure Serves (store : σ) (tenantId : TenantId) (restored : Option String)
    (result : Except StoreError α × σ) (shown : Except StoreError α × V) : Prop where
  seed : sharing.seed result.2 = sharing.seed store
  answer : Agrees restored result.1 shown.1
  own : sharing.view result.2 tenantId = shown.2
  others : ∀ tenantId', tenantId' ≠ tenantId →
    sharing.view result.2 tenantId' = sharing.view store tenantId'

variable {sharing} {store : σ} {tenantId : TenantId} {restored : Option String}

theorem Serves.map {result : Except StoreError α × σ} {shown : Except StoreError α × V}
    (h : sharing.Serves store tenantId restored result shown) (f : α → β) :
    sharing.Serves store tenantId restored (result.map (Except.map f) id)
      (shown.map (Except.map f) id) where
  seed := h.seed
  own := h.own
  others := h.others
  answer := by
    obtain ⟨answer, store'⟩ := result
    obtain ⟨answer', view'⟩ := shown
    cases h.answer with
    | same => exact .same _
    | notFound hrestored herror herror' => exact .notFound hrestored herror herror'

/-- A call without an effect. -/
theorem Serves.rest (answer : Except StoreError α) :
    sharing.Serves store tenantId restored (answer, store) (answer, sharing.view store tenantId) :=
  ⟨rfl, .same _, rfl, fun _ _ => rfl⟩

/-- The tenant that a call is for, and the others. -/
theorem Serves.of_view {answer : Except StoreError α} {store' : σ} {answer' : Except StoreError α}
    {shown : V} (hseed : sharing.seed store' = sharing.seed store)
    (hanswer : Agrees restored answer answer')
    (hview : ∀ tenantId', sharing.view store' tenantId' =
      if tenantId' = tenantId then shown else sharing.view store tenantId') :
    sharing.Serves store tenantId restored (answer, store') (answer', shown) where
  seed := hseed
  answer := hanswer
  own := (hview tenantId).trans (if_pos rfl)
  others tenantId' hne := (hview tenantId').trans (if_neg hne)

/-- **A store that serves its tenants keeps them apart.** -/
theorem unwinding {ω : Type} {step : σ → TenantId × ω → Except StoreError α × σ}
    {expected : V → S → TenantId → ω → Except StoreError α × V} {restored? : ω → Option String}
    (h : ∀ store tenantId operation, sharing.Serves store tenantId (restored? operation)
      (step store (tenantId, operation))
      (expected (sharing.view store tenantId) (sharing.seed store) tenantId operation))
    (observer : TenantId) :
    Machine.Unwinding step Prod.fst observer
      (fun s t => sharing.seed s = sharing.seed t ∧ sharing.view s observer = sharing.view t observer)
      (fun call => Agrees (restored? call.2)) where
  refl _ := ⟨rfl, rfl⟩
  others {s t call} hne halike := by
    obtain ⟨tenantId, operation⟩ := call
    have hs := h s tenantId operation
    have ht := h t tenantId operation
    exact ⟨⟨hs.seed.trans halike.1, (hs.others _ (Ne.symm hne)).trans halike.2⟩,
      halike.1.trans ht.seed.symm, halike.2.trans (ht.others _ (Ne.symm hne)).symm⟩
  own {s t call} howner halike := by
    obtain ⟨tenantId, operation⟩ := call
    subst howner
    have hs := h s tenantId operation
    have ht := h t tenantId operation
    have hexpected : expected (sharing.view s tenantId) (sharing.seed s) tenantId operation =
        expected (sharing.view t tenantId) (sharing.seed t) tenantId operation := by
      rw [halike.1, halike.2]
    exact ⟨hs.answer.trans (hexpected ▸ ht.answer.symm), hs.seed.trans (halike.1.trans ht.seed.symm),
      hs.own.trans (hexpected ▸ ht.own.symm)⟩

end Sharing

/-! ## Configurations -/

section Patch

variable {C : Type} [ConfigModel C]

theorem checked_withField (c : Checked C) (newField : NonEmptyStr) :
    ConfigModel.Checked (withField c.1 newField.1) := by
  obtain ⟨updated, heq, -⟩ := modelValidate_patched c newField
  exact heq ▸ updated.2

/-- The configuration with its field replaced. -/
def patched (c : Checked C) (newField : NonEmptyStr) : Checked C :=
  ⟨withField c.1 newField.1, checked_withField c newField⟩

theorem patchDocument_patched (c : Checked C) (newField : NonEmptyStr) :
    (patchDocument (fieldName C) newField.1 (fields c.1)).bind modelValidate =
      .ok (patched c newField) := by
  obtain ⟨updated, heq, hpatched⟩ := modelValidate_patched c newField
  rw [hpatched]
  exact congrArg Except.ok (Subtype.ext heq)

end Patch

/-- What a tenant sees of a configuration store. -/
structure View (C : Type) [ConfigModel C] where
  configuration : Checked C
  snapshots : String → Option SnapshotRecord
  executions : String → Option PatchResult
  transientFailures : Nat
  verificationFailures : Nat

namespace View

variable {C : Type} [ConfigModel C] (view : View C)

/-- A new tenant. -/
def new (seed : Checked C) : View C := ⟨seed, fun _ => none, fun _ => none, 0, 0⟩

/-- The snapshot of what the tenant sees. -/
def taken [Sha256] (snapshotId : String) (createdAt : Time) (tenantId : TenantId) : SnapshotRecord :=
  ⟨snapshotId, tenantId.1, systemId view.configuration.1, fields view.configuration.1,
    sha256Digest (.obj (fields view.configuration.1)), createdAt⟩

/-- The result of a patch. -/
def outcome [Sha256] (request : FieldPatchRequest) : PatchResult :=
  let updated := patched view.configuration request.newField
  ⟨systemId updated.1, fieldName C, field view.configuration.1, request.newField.1,
    request.idempotencyKey.1, sha256Digest (.obj (fields updated.1)), false⟩

def apply [Sha256] (request : FieldPatchRequest) : Except StoreError PatchResult × View C :=
  match view.executions request.idempotencyKey.1 with
  | some prior => (.ok { prior with replayed := true }, view)
  | none =>
    if view.transientFailures ≠ 0 then
      (.error .transientSandbox, { view with transientFailures := view.transientFailures - 1 })
    else if field view.configuration.1 ≠ request.oldField.1 then
      (.error (.patchConflict request.oldField.1 (field view.configuration.1)), view)
    else
      (.ok (view.outcome request), { view with
        configuration := patched view.configuration request.newField
        executions :=
          Function.update view.executions request.idempotencyKey.1 (some (view.outcome request)) })

def dryRun (request : FieldPatchRequest) : Except StoreError PatchPreview :=
  let current := field view.configuration.1
  if current ≠ request.oldField.1 then .error (.patchConflict request.oldField.1 current)
  else .ok ⟨systemId view.configuration.1, fieldName C, current, request.newField.1,
    decide (current ≠ request.newField.1)⟩

def restore (snapshotId : String) : Except StoreError RestoreResult × View C :=
  match view.snapshots snapshotId with
  | none => (.error (.snapshotNotFound snapshotId), view)
  | some snapshot =>
    match (modelValidate snapshot.configuration : Except Exn (Checked C)) with
    | .error error => (.error (.exception error), view)
    | .ok restored =>
        (.ok ⟨snapshot.systemId, snapshotId, snapshot.configurationHash, true⟩,
          { view with configuration := restored })

/-- One operation of the tenant, in a store with this seed. -/
def step [Sha256] (seed : Checked C) (tenantId : TenantId) :
    Operation → Except StoreError (Answer C) × View C
  | .get => (.ok (.configuration view.configuration), view)
  | .snapshot snapshotId createdAt =>
      let snapshot := view.taken snapshotId createdAt tenantId
      (.ok (.snapshot snapshot),
        { view with snapshots := Function.update view.snapshots snapshotId (some snapshot) })
  | .dryRun request => ((view.dryRun request).map .preview, view)
  | .apply request => (view.apply request).map (Except.map .patch) id
  | .restore snapshotId => (view.restore snapshotId).map (Except.map .restored) id
  | .injectTransientFailures count => (.ok (.failures count), { view with transientFailures := count })
  | .injectVerificationFailures count =>
      (.ok (.failures count), { view with verificationFailures := count })
  | .consumeVerificationFailure =>
      (.ok (.consumed (decide (view.verificationFailures ≠ 0))),
        { view with verificationFailures := view.verificationFailures - 1 })
  | .reset => (.ok (.reset ⟨tenantId.1, true⟩), new seed)

end View

/-- The snapshot that an operation restores. -/
def Operation.restored? : Operation → Option String
  | .restore snapshotId => some snapshotId
  | _ => none

namespace ConfigurationStore

variable {C : Type} [ConfigModel C] (store : ConfigurationStore C)

/-- The configuration of a tenant: the seed, before it has its own. -/
def current (tenantId : TenantId) : Checked C := store.configurations.getD tenantId store.seed

/-- What a tenant sees. -/
def view (tenantId : TenantId) : View C where
  configuration := store.current tenantId
  snapshots snapshotId := store.snapshots.get? (tenantId, snapshotId)
  executions key := store.executions.get? (tenantId, key)
  transientFailures := store.transientFailures.getD tenantId 0
  verificationFailures := store.verificationFailures.getD tenantId 0

/-- The store, with a configuration of its own for a tenant. -/
def seen (tenantId : TenantId) : ConfigurationStore C := (store.getUnlocked tenantId).2

theorem copySeed_eq : store.copySeed = .ok store.seed := modelValidate_fields store.seed

theorem getUnlocked_eq (tenantId : TenantId) :
    store.getUnlocked tenantId = (.ok (store.current tenantId), store.seen tenantId) := by
  unfold seen getUnlocked current Dict.getD
  cases store.configurations.get? tenantId with
  | some configuration => rfl
  | none => simp only [copySeed_eq, Option.getD_none]

theorem withConfiguration_eq {α : Type} (tenantId : TenantId)
    (body : Checked C → ConfigurationStore C → Except StoreError α × ConfigurationStore C) :
    store.withConfiguration tenantId body = body (store.current tenantId) (store.seen tenantId) := by
  rw [withConfiguration, getUnlocked_eq]

/-- Only the table of the configurations is new, and nobody sees that. -/
theorem seen_eq (tenantId : TenantId) : ∃ configurations,
    store.seen tenantId = { store with configurations := configurations } ∧
      ∀ tenantId', configurations.getD tenantId' store.seed = store.current tenantId' := by
  unfold seen getUnlocked
  cases hget : store.configurations.get? tenantId with
  | some configuration => exact ⟨store.configurations, rfl, fun _ => rfl⟩
  | none =>
    refine ⟨store.configurations.set tenantId store.seed, ?_, fun tenantId' => ?_⟩
    · rw [copySeed_eq]
    · unfold current Dict.getD
      rw [Dict.get?_set]
      split_ifs with h
      · rw [h, hget]
        rfl
      · rfl

@[simp] theorem seed_seen (tenantId : TenantId) : (store.seen tenantId).seed = store.seed := by
  obtain ⟨configurations, heq, -⟩ := store.seen_eq tenantId
  rw [heq]

@[simp] theorem view_seen (tenantId tenantId' : TenantId) :
    (store.seen tenantId).view tenantId' = store.view tenantId' := by
  obtain ⟨configurations, heq, hcurrent⟩ := store.seen_eq tenantId
  rw [heq]
  unfold view
  congr 1
  exact hcurrent tenantId'

/-- What the tenants see of a configuration store. -/
def sharing : Sharing (ConfigurationStore C) (View C) (Checked C) := ⟨view, seed⟩

variable {store} {α : Type} {tenantId : TenantId} {restored : Option String}

/-- A call that reads the configuration. -/
theorem serves_read (answer : Except StoreError α) :
    sharing.Serves store tenantId restored (answer, store.seen tenantId)
      (answer, store.view tenantId) :=
  ⟨store.seed_seen tenantId, .same _, store.view_seen tenantId tenantId,
    fun tenantId' _ => store.view_seen tenantId tenantId'⟩

/-- A new configuration. -/
theorem view_configure (configuration : Checked C) (tenantId' : TenantId) :
    ({ store with configurations := store.configurations.set tenantId configuration } :
      ConfigurationStore C).view tenantId' =
      if tenantId' = tenantId then { store.view tenantId' with configuration := configuration }
      else store.view tenantId' := by
  unfold view current
  simp only [Dict.getD_set]
  split_ifs <;> rfl

theorem view_keepSnapshot (snapshotId : String) (snapshot : SnapshotRecord)
    (snapshotTenants : Dict String TenantId) (tenantId' : TenantId) :
    ({ store with
        snapshots := store.snapshots.set (tenantId, snapshotId) snapshot
        snapshotTenants := snapshotTenants } : ConfigurationStore C).view tenantId' =
      if tenantId' = tenantId then { store.view tenantId' with
        snapshots := Function.update (store.view tenantId').snapshots snapshotId (some snapshot) }
      else store.view tenantId' := by
  unfold view current
  split_ifs with h
  · subst h
    congr 1
    funext name
    simp only [Dict.get?_set, Function.update_apply, Prod.mk.injEq, true_and]
  · congr 1
    funext name
    simp only [Dict.get?_set, Prod.mk.injEq, h, false_and, if_false]

theorem view_execute (configuration : Checked C) (key : String) (result : PatchResult)
    (tenantId' : TenantId) :
    ({ store with
        configurations := store.configurations.set tenantId configuration
        executions := store.executions.set (tenantId, key) result } :
      ConfigurationStore C).view tenantId' =
      if tenantId' = tenantId then { store.view tenantId' with
        configuration := configuration
        executions := Function.update (store.view tenantId').executions key (some result) }
      else store.view tenantId' := by
  unfold view current
  split_ifs with h
  · subst h
    congr 1
    · simp only [Dict.getD_set, if_true]
    · funext name
      simp only [Dict.get?_set, Function.update_apply, Prod.mk.injEq, true_and]
  · congr 1
    · simp only [Dict.getD_set, h, if_false]
    · funext name
      simp only [Dict.get?_set, Prod.mk.injEq, h, false_and, if_false]

theorem view_transient (count : Nat) (tenantId' : TenantId) :
    ({ store with transientFailures := store.transientFailures.set tenantId count } :
      ConfigurationStore C).view tenantId' =
      if tenantId' = tenantId then { store.view tenantId' with transientFailures := count }
      else store.view tenantId' := by
  unfold view current
  simp only [Dict.getD_set]
  split_ifs <;> rfl

/-! ### The operations -/

variable (store tenantId) [Sha256]

theorem serves_snapshot (snapshotId : String) (createdAt : Time) :
    sharing.Serves store tenantId restored (store.snapshot snapshotId createdAt tenantId)
      (.ok ((store.view tenantId).taken snapshotId createdAt tenantId), { store.view tenantId with
        snapshots := Function.update (store.view tenantId).snapshots snapshotId
          (some ((store.view tenantId).taken snapshotId createdAt tenantId)) }) := by
  unfold snapshot
  rw [withConfiguration_eq]
  refine .of_view (store.seed_seen tenantId) (.same _) fun tenantId' => ?_
  change ConfigurationStore.view _ tenantId' = _
  rw [view_keepSnapshot, view_seen]
  split_ifs with h
  · rw [h]
    rfl
  · rfl

omit [Sha256] in
theorem serves_dryRun (request : FieldPatchRequest) :
    sharing.Serves store tenantId restored (store.dryRun tenantId request)
      ((store.view tenantId).dryRun request, store.view tenantId) := by
  unfold dryRun
  rw [withConfiguration_eq]
  unfold View.dryRun
  by_cases hcurrent : field (store.current tenantId).1 ≠ request.oldField.1
  · rw [if_pos hcurrent]
    have hview : field (store.view tenantId).configuration.1 ≠ request.oldField.1 := hcurrent
    simp only [hview, ne_eq, not_false_iff, if_true]
    exact serves_read _
  · rw [if_neg hcurrent]
    have hview : ¬ field (store.view tenantId).configuration.1 ≠ request.oldField.1 := hcurrent
    simp only [hview, if_false]
    exact serves_read _

theorem serves_apply (request : FieldPatchRequest) :
    sharing.Serves store tenantId restored (store.apply tenantId request)
      ((store.view tenantId).apply request) := by
  have hexecutions : (store.view tenantId).executions request.idempotencyKey.1 =
      store.executions.get? (tenantId, request.idempotencyKey.1) := rfl
  have htransient : (store.view tenantId).transientFailures =
      store.transientFailures.getD tenantId 0 := rfl
  have hcurrent : (store.view tenantId).configuration = store.current tenantId := rfl
  unfold apply View.apply
  rw [hexecutions]
  cases store.executions.get? (tenantId, request.idempotencyKey.1) with
  | some prior => exact .rest _
  | none =>
    dsimp only
    rw [htransient]
    by_cases hfailures : store.transientFailures.getD tenantId 0 ≠ 0
    · rw [if_pos hfailures, if_pos hfailures]
      refine .of_view rfl (.same _) fun tenantId' => ?_
      change ConfigurationStore.view _ tenantId' = _
      rw [view_transient]
      split_ifs with h
      · rw [h]
      · rfl
    · rw [if_neg hfailures, if_neg hfailures, withConfiguration_eq, hcurrent]
      by_cases hfield : field (store.current tenantId).1 ≠ request.oldField.1
      · rw [if_pos hfield, if_pos hfield]
        exact serves_read _
      · rw [if_neg hfield, if_neg hfield, patchDocument_patched]
        refine .of_view (store.seed_seen tenantId) (.same _) fun tenantId' => ?_
        change ConfigurationStore.view _ tenantId' = _
        rw [view_execute, view_seen]
        split_ifs with h
        · rw [h]
          rfl
        · rfl

omit [Sha256] in
theorem serves_restore (snapshotId : String) :
    sharing.Serves store tenantId (some snapshotId) (store.restore tenantId snapshotId)
      ((store.view tenantId).restore snapshotId) := by
  have hsnapshots : (store.view tenantId).snapshots snapshotId =
      store.snapshots.get? (tenantId, snapshotId) := rfl
  unfold restore View.restore
  rw [hsnapshots]
  cases store.snapshots.get? (tenantId, snapshotId) with
  | none =>
    dsimp only
    split_ifs
    · exact ⟨rfl, .notFound rfl (.inl rfl) (.inr rfl), rfl, fun _ _ => rfl⟩
    · exact .rest _
  | some snapshot =>
    dsimp only
    cases (modelValidate snapshot.configuration : Except Exn (Checked C)) with
    | error error => exact .rest _
    | ok restored =>
      refine .of_view rfl (.same _) fun tenantId' => ?_
      change ConfigurationStore.view _ tenantId' = _
      rw [view_configure]
      split_ifs with h
      · rw [h]
      · rfl

omit [Sha256] in
theorem serves_injectTransientFailures (count : Nat) :
    sharing.Serves store tenantId restored
      ((.ok count : Except StoreError Nat), (store.injectTransientFailures tenantId count).2)
      (.ok count, { store.view tenantId with transientFailures := count }) := by
  refine .of_view rfl (.same _) fun tenantId' => ?_
  change ConfigurationStore.view _ tenantId' = _
  rw [injectTransientFailures, view_transient]
  split_ifs with h
  · rw [h]
  · rfl

omit [Sha256] in
/-- A new table of verification failures. -/
theorem view_verification {table : Dict TenantId Nat} {count : Nat}
    (hown : table.getD tenantId 0 = count)
    (hothers : ∀ tenantId', tenantId' ≠ tenantId →
      table.getD tenantId' 0 = store.verificationFailures.getD tenantId' 0) (tenantId' : TenantId) :
    ({ store with verificationFailures := table } : ConfigurationStore C).view tenantId' =
      if tenantId' = tenantId then { store.view tenantId with verificationFailures := count }
      else store.view tenantId' := by
  unfold view current
  split_ifs with h
  · subst h
    rw [← hown]
  · rw [hothers tenantId' h]

omit [Sha256] in
theorem serves_injectVerificationFailures (count : Nat) :
    sharing.Serves store tenantId restored
      ((.ok count : Except StoreError Nat), (store.injectVerificationFailures tenantId count).2)
      (.ok count, { store.view tenantId with verificationFailures := count }) :=
  .of_view rfl (.same _) (store.view_verification tenantId (by simp [Dict.getD_set])
    fun tenantId' h => by simp [Dict.getD_set, h])

omit [Sha256] in
theorem serves_consumeVerificationFailure :
    sharing.Serves store tenantId restored
      ((.ok (store.consumeVerificationFailure tenantId).1 : Except StoreError Bool),
        (store.consumeVerificationFailure tenantId).2)
      (.ok (decide ((store.view tenantId).verificationFailures ≠ 0)), { store.view tenantId with
        verificationFailures := (store.view tenantId).verificationFailures - 1 }) := by
  have hremaining : (store.view tenantId).verificationFailures =
      store.verificationFailures.getD tenantId 0 := rfl
  rw [hremaining]
  unfold consumeVerificationFailure
  generalize hcount : store.verificationFailures.getD tenantId 0 = remaining
  by_cases hzero : remaining = 0
  · subst hzero
    exact .of_view rfl (.same _) (store.view_verification tenantId hcount fun _ _ => rfl)
  · have hconsumed : decide (remaining ≠ 0) = true := decide_eq_true hzero
    rw [hconsumed, if_neg hzero]
    by_cases hone : remaining = 1
    · rw [if_pos hone]
      subst hone
      exact .of_view rfl (.same _) (store.view_verification tenantId (by simp [Dict.getD_erase])
        fun tenantId' h => by simp [Dict.getD_erase, h])
    · rw [if_neg hone]
      exact .of_view rfl (.same _) (store.view_verification tenantId (by simp [Dict.getD_set])
        fun tenantId' h => by simp [Dict.getD_set, h])

omit [Sha256] in
theorem serves_reset :
    sharing.Serves store tenantId restored (store.reset tenantId)
      (.ok ⟨tenantId.1, true⟩, View.new store.seed) := by
  unfold reset
  rw [copySeed_eq]
  refine .of_view rfl (.same _) fun tenantId' => ?_
  change ConfigurationStore.view _ tenantId' = if _ then _ else store.view tenantId'
  unfold view current
  simp only [Dict.getD_set, Dict.getD_erase, get?_withoutTenant, get?_popAll]
  split_ifs with h <;> rfl

/-- **A store is for each tenant what `View.step` says.** -/
theorem serves_step (operation : Operation) :
    sharing.Serves store tenantId operation.restored? (store.step (tenantId, operation))
      ((store.view tenantId).step store.seed tenantId operation) := by
  cases operation with
  | get =>
    have hget : store.get tenantId = (.ok (store.current tenantId), store.seen tenantId) :=
      store.getUnlocked_eq tenantId
    have hread : sharing.Serves store tenantId none (store.get tenantId)
        (.ok (store.current tenantId), store.view tenantId) := hget ▸ serves_read _
    exact hread.map Answer.configuration
  | snapshot snapshotId createdAt =>
    exact (store.serves_snapshot tenantId snapshotId createdAt).map Answer.snapshot
  | dryRun request => exact (store.serves_dryRun tenantId request).map Answer.preview
  | apply request => exact (store.serves_apply tenantId request).map Answer.patch
  | restore snapshotId => exact (store.serves_restore tenantId snapshotId).map Answer.restored
  | injectTransientFailures count =>
    exact (store.serves_injectTransientFailures tenantId count).map Answer.failures
  | injectVerificationFailures count =>
    exact (store.serves_injectVerificationFailures tenantId count).map Answer.failures
  | consumeVerificationFailure =>
    exact (store.serves_consumeVerificationFailure tenantId).map Answer.consumed
  | reset => exact (store.serves_reset tenantId).map Answer.reset

end ConfigurationStore

/-! ## The catalog -/

/-- What a tenant sees of the catalog. -/
structure CatalogView where
  activeVersion : String
  snapshots : String → Option SnapshotRecord
  executions : String → Option CatalogActivationResult

/-- The contracts of the catalog: the first one of a version. -/
def CatalogSeed.contractForVersion (seed : CatalogSeed) (version : String) :
    Except StoreError ApiContract :=
  match seed.contracts.find? fun candidate => decide (candidate.version.1 = version) with
  | some contract => .ok contract
  | none => .error (.contractVersionNotFound version)

namespace CatalogView

variable (view : CatalogView) (seed : CatalogSeed)

def new : CatalogView := ⟨seed.activeVersion.1, fun _ => none, fun _ => none⟩

def snapshot [Sha256] (snapshotId : String) (createdAt : Time) (tenantId : TenantId) :
    Except StoreError SnapshotRecord × CatalogView :=
  match seed.contractForVersion view.activeVersion with
  | .error error => (.error error, view)
  | .ok contract =>
    let snapshot : SnapshotRecord := ⟨snapshotId, tenantId.1, "customer-api", contract.fields,
      sha256Digest (.obj contract.fields), createdAt⟩
    (.ok snapshot,
      { view with snapshots := Function.update view.snapshots snapshotId (some snapshot) })

def activate (request : CatalogActivationRequest) :
    Except StoreError CatalogActivationResult × CatalogView :=
  match view.executions request.idempotencyKey.1 with
  | some prior => (.ok { prior with replayed := true }, view)
  | none =>
    match seed.contractForVersion request.version.1 with
    | .error error => (.error error, view)
    | .ok contract =>
      let result : CatalogActivationResult := ⟨contract, request.idempotencyKey.1, false⟩
      (.ok result, { view with
        activeVersion := contract.version.1
        executions := Function.update view.executions request.idempotencyKey.1 (some result) })

def restore (snapshotId : String) : Except StoreError RestoreResult × CatalogView :=
  match view.snapshots snapshotId with
  | none => (.error (.snapshotNotFound snapshotId), view)
  | some snapshot =>
    match ApiContract.modelValidate snapshot.configuration with
    | .error error => (.error (.exception error), view)
    | .ok contract =>
        (.ok ⟨"customer-api", snapshotId, snapshot.configurationHash, true⟩,
          { view with activeVersion := contract.version.1 })

/-- One operation of the tenant, in a catalog with this seed. -/
def step [Sha256] (tenantId : TenantId) :
    CatalogOperation → Except StoreError CatalogAnswer × CatalogView
  | .activeContract => ((seed.contractForVersion view.activeVersion).map .contract, view)
  | .contractVersion version => ((seed.contractForVersion version).map .contract, view)
  | .dependencies source => (.ok (.dependencies ((CatalogStore.new seed).dependencies source)), view)
  | .snapshot snapshotId createdAt =>
      (view.snapshot seed snapshotId createdAt tenantId).map (Except.map .snapshot) id
  | .activate request => (view.activate seed request).map (Except.map .activation) id
  | .restore snapshotId => (view.restore snapshotId).map (Except.map .restored) id
  | .reset => (.ok (.reset ⟨tenantId.1, true⟩), new seed)

end CatalogView

/-- The snapshot that an operation restores. -/
def CatalogOperation.restored? : CatalogOperation → Option String
  | .restore snapshotId => some snapshotId
  | _ => none

namespace CatalogStore

variable (store : CatalogStore)

/-- What a tenant sees. -/
def view (tenantId : TenantId) : CatalogView where
  activeVersion := store.activeVersion tenantId
  snapshots snapshotId := store.snapshots.get? (tenantId, snapshotId)
  executions key := store.executions.get? (tenantId, key)

theorem contractForVersion_seed (version : String) :
    store.contractForVersion version = store.seed.contractForVersion version := rfl

/-- What the tenants see of the catalog. -/
def sharing : Sharing CatalogStore CatalogView CatalogSeed := ⟨view, seed⟩

variable {store} {tenantId : TenantId} {restored : Option String}

theorem view_activate (version key : String) (result : CatalogActivationResult)
    (tenantId' : TenantId) :
    ({ store with
        activeVersions := store.activeVersions.set tenantId version
        executions := store.executions.set (tenantId, key) result } : CatalogStore).view tenantId' =
      if tenantId' = tenantId then { store.view tenantId with
        activeVersion := version
        executions := Function.update (store.view tenantId).executions key (some result) }
      else store.view tenantId' := by
  unfold view activeVersion
  split_ifs with h
  · subst h
    congr 1
    · simp only [Dict.getD_set, if_true]
    · funext name
      simp only [Dict.get?_set, Function.update_apply, Prod.mk.injEq, true_and]
  · congr 1
    · simp only [Dict.getD_set, h, if_false]
    · funext name
      simp only [Dict.get?_set, Prod.mk.injEq, h, false_and, if_false]

theorem view_keepSnapshot (snapshotId : String) (snapshot : SnapshotRecord)
    (snapshotTenants : Dict String TenantId) (tenantId' : TenantId) :
    ({ store with
        snapshots := store.snapshots.set (tenantId, snapshotId) snapshot
        snapshotTenants := snapshotTenants } : CatalogStore).view tenantId' =
      if tenantId' = tenantId then { store.view tenantId with
        snapshots := Function.update (store.view tenantId).snapshots snapshotId (some snapshot) }
      else store.view tenantId' := by
  unfold view activeVersion
  split_ifs with h
  · subst h
    congr 1
    funext name
    simp only [Dict.get?_set, Function.update_apply, Prod.mk.injEq, true_and]
  · congr 1
    funext name
    simp only [Dict.get?_set, Prod.mk.injEq, h, false_and, if_false]

theorem view_activeVersion (version : String) (tenantId' : TenantId) :
    ({ store with activeVersions := store.activeVersions.set tenantId version } :
      CatalogStore).view tenantId' =
      if tenantId' = tenantId then { store.view tenantId with activeVersion := version }
      else store.view tenantId' := by
  unfold view activeVersion
  simp only [Dict.getD_set]
  split_ifs with h
  · rw [h]
  · rfl

/-! ### The operations -/

variable (store tenantId)

theorem serves_snapshot [Sha256] (snapshotId : String) (createdAt : Time) :
    sharing.Serves store tenantId restored (store.snapshot snapshotId createdAt tenantId)
      ((store.view tenantId).snapshot store.seed snapshotId createdAt tenantId) := by
  have hactive : store.activeContract tenantId =
      store.seed.contractForVersion (store.view tenantId).activeVersion := rfl
  unfold snapshot CatalogView.snapshot
  rw [hactive]
  cases store.seed.contractForVersion (store.view tenantId).activeVersion with
  | error error => exact .rest _
  | ok contract => exact .of_view rfl (.same _) (view_keepSnapshot snapshotId _ _)

theorem serves_activate (request : CatalogActivationRequest) :
    sharing.Serves store tenantId restored (store.activate tenantId request)
      ((store.view tenantId).activate store.seed request) := by
  have hexecutions : (store.view tenantId).executions request.idempotencyKey.1 =
      store.executions.get? (tenantId, request.idempotencyKey.1) := rfl
  unfold activate CatalogView.activate
  rw [hexecutions, contractForVersion_seed]
  cases store.executions.get? (tenantId, request.idempotencyKey.1) with
  | some prior => exact .rest _
  | none =>
    dsimp only
    cases store.seed.contractForVersion request.version.1 with
    | error error => exact .rest _
    | ok contract => exact .of_view rfl (.same _) (view_activate contract.version.1 _ _)

theorem serves_restore (snapshotId : String) :
    sharing.Serves store tenantId (some snapshotId) (store.restore tenantId snapshotId)
      ((store.view tenantId).restore snapshotId) := by
  have hsnapshots : (store.view tenantId).snapshots snapshotId =
      store.snapshots.get? (tenantId, snapshotId) := rfl
  unfold restore CatalogView.restore
  rw [hsnapshots]
  cases store.snapshots.get? (tenantId, snapshotId) with
  | none =>
    dsimp only
    split_ifs
    · exact ⟨rfl, .notFound rfl (.inl rfl) (.inr rfl), rfl, fun _ _ => rfl⟩
    · exact .rest _
  | some snapshot =>
    dsimp only
    cases ApiContract.modelValidate snapshot.configuration with
    | error error => exact .rest _
    | ok contract => exact .of_view rfl (.same _) (view_activeVersion contract.version.1)

theorem serves_reset :
    sharing.Serves store tenantId restored
      ((.ok (store.reset tenantId).1 : Except StoreError ResetResult), (store.reset tenantId).2)
      (.ok ⟨tenantId.1, true⟩, CatalogView.new store.seed) := by
  unfold reset
  refine .of_view rfl (.same _) fun tenantId' => ?_
  change CatalogStore.view _ tenantId' = if _ then _ else store.view tenantId'
  unfold view activeVersion
  simp only [Dict.getD_set, get?_withoutTenant, get?_popAll]
  split_ifs with h <;> rfl

/-- **The catalog is for each tenant what `CatalogView.step` says.** -/
theorem serves_step [Sha256] (operation : CatalogOperation) :
    sharing.Serves store tenantId operation.restored? (store.step (tenantId, operation))
      ((store.view tenantId).step store.seed tenantId operation) := by
  cases operation with
  | activeContract => exact .rest _
  | contractVersion version => exact .rest _
  | dependencies source => exact .rest _
  | snapshot snapshotId createdAt =>
    exact (store.serves_snapshot tenantId snapshotId createdAt).map CatalogAnswer.snapshot
  | activate request => exact (store.serves_activate tenantId request).map CatalogAnswer.activation
  | restore snapshotId =>
    exact (store.serves_restore tenantId snapshotId).map CatalogAnswer.restored
  | reset => exact (store.serves_reset tenantId).map CatalogAnswer.reset

end CatalogStore

end ChangeOps.Sandbox
