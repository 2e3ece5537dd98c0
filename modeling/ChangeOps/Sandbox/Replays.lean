import ChangeOps.Sandbox.Isolation

/-!
# ChangeOps.Sandbox — what an idempotency key is bound to

The tables of executions hold results and not requests. A key that a tenant has used is answered
with the result it has, whatever the request asks for: the store keeps a key to the request that
was executed under it only as long as nobody uses the key for another request
(`keysBound_iff_sameRequests`).
-/

namespace ChangeOps.Sandbox

open Machine

/-! ## Keys and requests -/

section Keys

variable {σ ω α κ θ ρ : Type} [DecidableEq κ] (step : σ → ω → Except StoreError α × σ)
  (use : ω → Use κ θ) (result : Except StoreError α → Option ρ) (replayed : ρ → α)

/-- In every run: a key that was executed since it was last cleared gives the earlier result to the
    request that was executed, and an error to any other one; the store stays as it is. -/
def KeysBound (s : σ) (operations : List ω) : Prop :=
  ∀ before operation after key request executedRequest executedResult,
    operations = before ++ operation :: after → use operation = .call key request →
    executed use result key (history step s before) = some (executedRequest, executedResult) →
      (request = executedRequest →
        (step (final step s before) operation).1 = .ok (replayed executedResult)) ∧
      (request ≠ executedRequest →
        ∃ error, (step (final step s before) operation).1 = .error error) ∧
      (step (final step s before) operation).2 = final step s before

/-- In every run: a key that was executed since it was last cleared comes with the request that was
    executed. -/
def SameRequests (s : σ) (operations : List ω) : Prop :=
  ∀ before operation after key request executedRequest executedResult,
    operations = before ++ operation :: after → use operation = .call key request →
    executed use result key (history step s before) = some (executedRequest, executedResult) →
      request = executedRequest

variable {step use result replayed} {table : σ → κ → Option ρ}

/-- A table of results binds a key to its request as long as the callers do. -/
theorem keysBound_iff (h : Replays step use table result fun r => .ok (replayed r)) {s : σ}
    (hempty : ∀ key, table s key = none) (operations : List ω) :
    KeysBound step use result replayed s operations ↔ SameRequests step use result s operations := by
  have hreplay : ∀ before operation key request executedRequest executedResult,
      use operation = .call key request →
      executed use result key (history step s before) = some (executedRequest, executedResult) →
      step (final step s before) operation = (.ok (replayed executedResult), final step s before) := by
    intro before operation key request executedRequest executedResult huse hexecuted
    have htable := h.bound (hempty key) before
    rw [hexecuted] at htable
    exact h.known huse htable.symm
  constructor
  · intro hbound before operation after key request executedRequest executedResult hsplit huse hexecuted
    by_contra hne
    obtain ⟨error, herror⟩ :=
      (hbound before operation after key request _ _ hsplit huse hexecuted).2.1 hne
    rw [hreplay before operation key request _ _ huse hexecuted] at herror
    cases herror
  · intro hsame before operation after key request executedRequest executedResult hsplit huse hexecuted
    have hrequest := hsame before operation after key request _ _ hsplit huse hexecuted
    rw [hreplay before operation key request _ _ huse hexecuted]
    exact ⟨fun _ => rfl, fun hne => absurd hrequest hne, rfl⟩

end Keys

theorem Agrees.eq {α : Type} {answer answer' : Except StoreError α} (h : Agrees none answer answer') :
    answer = answer' := by
  cases h with
  | same => rfl
  | notFound hrestored => cases hrestored

/-! ## The table of the patches -/

/-- A patch uses a key of its tenant, a reset clears the keys of its tenant. -/
def patchUse (call : TenantId × Operation) : Use (TenantId × String) FieldPatchRequest :=
  match call.2 with
  | .apply request => .call (call.1, request.idempotencyKey.1) request
  | .reset => .clear fun key => decide (key.1 = call.1)
  | _ => .other

/-- The result of a patch. -/
def patchResult {C : Type} [ConfigModel C] : Except StoreError (Answer C) → Option PatchResult
  | .ok (.patch result) => some result
  | _ => none

/-- An earlier result, once more. -/
def patchReplayed {C : Type} [ConfigModel C] (result : PatchResult) : Answer C :=
  .patch { result with replayed := true }

section Patches

variable {C : Type} [ConfigModel C] [Sha256]

/-- What a patch enters under its key. -/
theorem View.executions_apply (view : View C) {request : FieldPatchRequest}
    (hnew : view.executions request.idempotencyKey.1 = none) :
    (view.apply request).2.executions = Function.update view.executions request.idempotencyKey.1
      (patchResult ((view.apply request).1.map (Answer.patch (C := C)))) := by
  have hself : view.executions =
      Function.update view.executions request.idempotencyKey.1 none := by
    rw [← hnew, Function.update_eq_self]
  unfold apply
  rw [hnew]
  dsimp only
  by_cases hfailures : view.transientFailures ≠ 0
  · rw [if_pos hfailures]
    exact hself
  · rw [if_neg hfailures]
    by_cases hfield : SystemConfiguration.field view.configuration.1 ≠ request.oldField.1
    · rw [if_pos hfield]
      exact hself
    · rw [if_neg hfield]
      rfl

omit [Sha256] in
/-- A restore reaches the configuration only. -/
theorem View.restore_eq (view : View C) (snapshotId : String) :
    ∃ configuration, (view.restore snapshotId).2 = { view with configuration := configuration } := by
  unfold restore
  split
  · exact ⟨view.configuration, rfl⟩
  · split
    · exact ⟨view.configuration, rfl⟩
    · exact ⟨_, rfl⟩

theorem View.executions_step_other {view : View C} {seed : Checked C} {tenantId : TenantId}
    {operation : Operation} (hother : patchUse (tenantId, operation) = .other) :
    (view.step seed tenantId operation).2.executions = view.executions := by
  cases operation with
  | apply request => cases hother
  | reset => cases hother
  | restore snapshotId =>
    show (view.restore snapshotId).2.executions = view.executions
    obtain ⟨configuration, heq⟩ := view.restore_eq snapshotId
    rw [heq]
  | _ => rfl

namespace ConfigurationStore

theorem executions_others {store : ConfigurationStore C} {call : TenantId × Operation}
    {key : TenantId × String} (hne : key.1 ≠ call.1) :
    (store.step call).2.executions.get? key = store.executions.get? key :=
  congrFun (congrArg View.executions ((store.serves_step call.1 call.2).others key.1 hne)) key.2

theorem executions_own (store : ConfigurationStore C) (call : TenantId × Operation) (key : String) :
    (store.step call).2.executions.get? (call.1, key) =
      ((store.view call.1).step store.seed call.1 call.2).2.executions key :=
  congrFun (congrArg View.executions (store.serves_step call.1 call.2).own) key

/-- **The executions of a store are the results of its patches.** -/
theorem replays : Replays (ConfigurationStore.step (C := C)) patchUse
    (fun store => store.executions.get?) patchResult fun result => .ok (patchReplayed (C := C) result) where
  known {store call key request prior} huse hknown := by
    obtain ⟨tenantId, operation⟩ := call
    cases operation with
    | apply request =>
      cases huse
      show (store.apply tenantId request).map (Except.map Answer.patch) id = _
      unfold apply
      rw [hknown]
      rfl
    | _ => cases huse
  new {store call key request} huse hnew key' := by
    obtain ⟨tenantId, operation⟩ := call
    cases operation with
    | apply request =>
      cases huse
      by_cases htenant : key'.1 = tenantId
      · obtain ⟨owner, name⟩ := key'
        cases htenant
        have hanswer := (store.serves_step owner (.apply request)).answer.eq
        rw [executions_own, hanswer]
        have hentered : ((store.view owner).apply request).2.executions name = _ :=
          congrFun ((store.view owner).executions_apply hnew) name
        rw [Function.update_apply] at hentered
        simp only [Prod.mk.injEq, true_and]
        exact hentered
      · have hkey : key' ≠ (tenantId, request.idempotencyKey.1) :=
          fun heq => htenant (congrArg Prod.fst heq)
        rw [if_neg hkey]
        exact executions_others htenant
    | _ => cases huse
  clear {store call cleared} huse key := by
    obtain ⟨tenantId, operation⟩ := call
    cases operation with
    | reset =>
      cases huse
      by_cases htenant : key.1 = tenantId
      · obtain ⟨owner, name⟩ := key
        cases htenant
        rw [executions_own, if_pos (decide_eq_true rfl)]
        rfl
      · rw [if_neg (by simpa using htenant)]
        exact executions_others htenant
    | _ => cases huse
  other {store call} huse := by
    funext key
    by_cases htenant : key.1 = call.1
    · obtain ⟨owner, name⟩ := key
      cases htenant
      rw [executions_own, View.executions_step_other huse]
      rfl
    · exact executions_others htenant

end ConfigurationStore

end Patches

/-! ## The table of the activations -/

/-- An activation uses a key of its tenant, a reset clears the keys of its tenant. -/
def activationUse (call : TenantId × CatalogOperation) :
    Use (TenantId × String) CatalogActivationRequest :=
  match call.2 with
  | .activate request => .call (call.1, request.idempotencyKey.1) request
  | .reset => .clear fun key => decide (key.1 = call.1)
  | _ => .other

/-- The result of an activation. -/
def activationResult : Except StoreError CatalogAnswer → Option CatalogActivationResult
  | .ok (.activation result) => some result
  | _ => none

/-- An earlier result, once more. -/
def activationReplayed (result : CatalogActivationResult) : CatalogAnswer :=
  .activation { result with replayed := true }

theorem CatalogView.executions_activate (view : CatalogView) {seed : CatalogSeed}
    {request : CatalogActivationRequest}
    (hnew : view.executions request.idempotencyKey.1 = none) :
    (view.activate seed request).2.executions =
      Function.update view.executions request.idempotencyKey.1
        (activationResult ((view.activate seed request).1.map .activation)) := by
  unfold activate
  rw [hnew]
  dsimp only
  cases seed.contractForVersion request.version.1 with
  | error error =>
    show view.executions = Function.update view.executions request.idempotencyKey.1 none
    rw [← hnew, Function.update_eq_self]
  | ok contract => rfl

/-- A restore reaches the active version only. -/
theorem CatalogView.restore_eq (view : CatalogView) (snapshotId : String) :
    ∃ version, (view.restore snapshotId).2 = { view with activeVersion := version } := by
  unfold restore
  split
  · exact ⟨view.activeVersion, rfl⟩
  · split
    · exact ⟨view.activeVersion, rfl⟩
    · exact ⟨_, rfl⟩

/-- A snapshot reaches the snapshots only. -/
theorem CatalogView.snapshot_eq [Sha256] (view : CatalogView) (seed : CatalogSeed)
    (snapshotId : String) (createdAt : Time) (tenantId : TenantId) :
    ∃ snapshots,
      (view.snapshot seed snapshotId createdAt tenantId).2 = { view with snapshots := snapshots } ∧
        ∀ name, name ≠ snapshotId → snapshots name = view.snapshots name := by
  unfold snapshot
  split
  · exact ⟨view.snapshots, rfl, fun _ _ => rfl⟩
  · exact ⟨_, rfl, fun name hne => Function.update_of_ne hne _ _⟩

theorem CatalogView.executions_step_other [Sha256] {view : CatalogView} {seed : CatalogSeed}
    {tenantId : TenantId} {operation : CatalogOperation}
    (hother : activationUse (tenantId, operation) = .other) :
    (view.step seed tenantId operation).2.executions = view.executions := by
  cases operation with
  | activate request => cases hother
  | reset => cases hother
  | restore snapshotId =>
    show (view.restore snapshotId).2.executions = view.executions
    obtain ⟨version, heq⟩ := view.restore_eq snapshotId
    rw [heq]
  | snapshot snapshotId createdAt =>
    show (view.snapshot seed snapshotId createdAt tenantId).2.executions = view.executions
    obtain ⟨snapshots, heq, -⟩ := view.snapshot_eq seed snapshotId createdAt tenantId
    rw [heq]
  | _ => rfl

namespace CatalogStore

variable [Sha256]

theorem executions_others {store : CatalogStore} {call : TenantId × CatalogOperation}
    {key : TenantId × String} (hne : key.1 ≠ call.1) :
    (store.step call).2.executions.get? key = store.executions.get? key :=
  congrFun (congrArg CatalogView.executions ((store.serves_step call.1 call.2).others key.1 hne)) key.2

theorem executions_own (store : CatalogStore) (call : TenantId × CatalogOperation) (key : String) :
    (store.step call).2.executions.get? (call.1, key) =
      ((store.view call.1).step store.seed call.1 call.2).2.executions key :=
  congrFun (congrArg CatalogView.executions (store.serves_step call.1 call.2).own) key

/-- **The executions of the catalog are the results of its activations.** -/
theorem replays : Replays CatalogStore.step activationUse (fun store => store.executions.get?)
    activationResult fun result => .ok (activationReplayed result) where
  known {store call key request prior} huse hknown := by
    obtain ⟨tenantId, operation⟩ := call
    cases operation with
    | activate request =>
      cases huse
      show (store.activate tenantId request).map (Except.map CatalogAnswer.activation) id = _
      unfold activate
      rw [hknown]
      rfl
    | _ => cases huse
  new {store call key request} huse hnew key' := by
    obtain ⟨tenantId, operation⟩ := call
    cases operation with
    | activate request =>
      cases huse
      by_cases htenant : key'.1 = tenantId
      · obtain ⟨owner, name⟩ := key'
        cases htenant
        have hanswer := (store.serves_step owner (.activate request)).answer.eq
        rw [executions_own, hanswer]
        have hentered : ((store.view owner).activate store.seed request).2.executions name = _ :=
          congrFun ((store.view owner).executions_activate hnew) name
        rw [Function.update_apply] at hentered
        simp only [Prod.mk.injEq, true_and]
        exact hentered
      · have hkey : key' ≠ (tenantId, request.idempotencyKey.1) :=
          fun heq => htenant (congrArg Prod.fst heq)
        rw [if_neg hkey]
        exact executions_others htenant
    | _ => cases huse
  clear {store call cleared} huse key := by
    obtain ⟨tenantId, operation⟩ := call
    cases operation with
    | reset =>
      cases huse
      by_cases htenant : key.1 = tenantId
      · obtain ⟨owner, name⟩ := key
        cases htenant
        rw [executions_own, if_pos (decide_eq_true rfl)]
        rfl
      · rw [if_neg (by simpa using htenant)]
        exact executions_others htenant
    | _ => cases huse
  other {store call} huse := by
    funext key
    by_cases htenant : key.1 = call.1
    · obtain ⟨owner, name⟩ := key
      cases htenant
      rw [executions_own, CatalogView.executions_step_other huse]
      rfl
    · exact executions_others htenant

end CatalogStore

/-- **A key is bound to its request exactly as long as the callers keep to it**: on a store of
    configurations as on the catalog, in every run from a new store, a key that a tenant has used
    since its last reset gives the earlier result to the same request and fails for another one,
    if and only if it is never used for another one. -/
theorem keysBound_iff_sameRequests [Sha256] :
    (∀ (C : Type) [ConfigModel C] (seed : Checked C) (calls : List (TenantId × Operation)),
      KeysBound ConfigurationStore.step patchUse patchResult (patchReplayed (C := C)) (.new seed)
          calls ↔
        SameRequests (ConfigurationStore.step (C := C)) patchUse patchResult (.new seed) calls) ∧
    ∀ (seed : CatalogSeed) (calls : List (TenantId × CatalogOperation)),
      KeysBound CatalogStore.step activationUse activationResult activationReplayed (.new seed)
          calls ↔
        SameRequests CatalogStore.step activationUse activationResult (.new seed) calls :=
  ⟨fun _ _ _ calls => keysBound_iff ConfigurationStore.replays (fun _ => rfl) calls,
    fun _ calls => keysBound_iff CatalogStore.replays (fun _ => rfl) calls⟩

namespace Demo

theorem digestStr_plan : digestStr ("sha256:" ++ String.ofList (List.replicate 64 '0')) =
    .ok ("sha256:" ++ String.ofList (List.replicate 64 '0')) := by
  unfold digestStr stripWhitespace
  decide

/-- A patch of the source field under the key `execution_1`. -/
def patchTo (newField : NonEmptyStr) : FieldPatchRequest where
  oldField := ⟨"customer_id", nonEmptyStr_texts _ (by decide)⟩
  newField := newField
  idempotencyKey := ⟨"execution_1", nonEmptyStr_texts _ (by decide)⟩
  changeId := ⟨"chg_001", nonEmptyStr_texts _ (by decide)⟩
  planHash := ⟨_, digestStr_plan⟩

def firstPatch : FieldPatchRequest := patchTo ⟨"customer_uuid", nonEmptyStr_texts _ (by decide)⟩

def otherPatch : FieldPatchRequest := patchTo ⟨"customer_key", nonEmptyStr_texts _ (by decide)⟩

theorem step_firstPatch :
    patchResult ((ConfigurationStore.new crmSeed).step (tenantA, .apply firstPatch)).1 =
      some ((View.new crmSeed).outcome firstPatch) := by
  have hanswer := ((ConfigurationStore.new crmSeed).serves_step tenantA (.apply firstPatch)).answer.eq
  rw [hanswer]
  rfl

end Demo

open scoped Sandbox.Demo in
open Sandbox.Demo in
/-- One key, for a patch to `customer_uuid` and then for one to `customer_key`: the second one is
    answered with success. -/
theorem not_keysBound_otherPatch :
    ¬ ∀ (C : Type) [ConfigModel C] (seed : Checked C) (calls : List (TenantId × Operation)),
      KeysBound ConfigurationStore.step patchUse patchResult (patchReplayed (C := C)) (.new seed)
        calls := by
  intro h
  have hexecuted : executed patchUse patchResult (tenantA, firstPatch.idempotencyKey.1)
      (history ConfigurationStore.step (.new crmSeed) [(tenantA, .apply firstPatch)]) =
        some (firstPatch, (View.new crmSeed).outcome firstPatch) := by
    simp only [executed, history, List.foldl_cons, List.foldl_nil]
    unfold enter event patchUse
    dsimp only
    rw [if_pos rfl, step_firstPatch]
    rfl
  obtain ⟨-, hfails, -⟩ := h CrmConfiguration crmSeed
    [(tenantA, .apply firstPatch), (tenantA, .apply otherPatch)] [(tenantA, .apply firstPatch)]
    (tenantA, .apply otherPatch) [] _ otherPatch _ _ rfl rfl hexecuted
  have hne : otherPatch ≠ firstPatch := fun heq =>
    absurd (congrArg (fun request => request.newField.1) heq) (by decide)
  obtain ⟨error, herror⟩ := hfails hne
  have hknown : Option.map Prod.snd (executed patchUse patchResult
      (tenantA, firstPatch.idempotencyKey.1)
      (history ConfigurationStore.step (.new crmSeed) [(tenantA, .apply firstPatch)])) =
        (final ConfigurationStore.step (.new crmSeed) [(tenantA, .apply firstPatch)]).executions.get?
          (tenantA, otherPatch.idempotencyKey.1) := ConfigurationStore.replays.bound rfl _
  rw [hexecuted] at hknown
  have hstep : ConfigurationStore.step _ (tenantA, .apply otherPatch) = _ :=
    ConfigurationStore.replays.known rfl hknown.symm
  rw [hstep] at herror
  cases herror

end ChangeOps.Sandbox
