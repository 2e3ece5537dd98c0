import ChangeOps.Workflow.Execution
import ChangeOps.Workflow.Restart

/-!
# ChangeOps.Workflow — what the end of an approved plan means

A run of `resume_approval` on an approved plan ends with the plan completed, compensated, or in need
of attention. `approved_outcome` says that the end which the record and its change show is what
happened to the systems (`ExecutionEnd`).
-/

namespace ChangeOps

open InMemoryChangeStateRepository WorkflowEngine

/-! ## Compensation -/

section Compensation

variable [Sha256] {E : Type}

/-- The snapshot of a task was restored, and the configuration that was read back is the one that
was captured. -/
inductive Restores (services : Services E) (tenantId : String) (task : WorkflowTaskRecord) :
    E → E → Prop where
  | intro {snapshotId snapshotHash restoreId configurationId : String} {document : Json}
      {changes changes' : InMemoryChangeStateRepository} {e e₁ e₂ : E}
      (hid : task.snapshotId = some snapshotId) (hhash : task.snapshotHash = some snapshotHash)
      (hrestored : services.restore task.systemId tenantId snapshotId restoreId changes e = (.ok (), e₁))
      (hread : services.configuration task.systemId tenantId configurationId changes' e₁ =
        (.ok document, e₂))
      (hsame : sha256Digest document = snapshotHash) : Restores services tenantId task e e₂

/-- The compensation of a task failed: it has no snapshot, a request failed, or what was read back
is not what was captured. -/
inductive RestoreFails (services : Services E) (tenantId : String) (task : WorkflowTaskRecord) :
    E → E → Prop where
  | noSnapshot {e : E} (hid : task.snapshotId = none) : RestoreFails services tenantId task e e
  | restore {snapshotId restoreId : String} {error : RemoteError}
      {changes : InMemoryChangeStateRepository} {e e₁ : E} (hid : task.snapshotId = some snapshotId)
      (hrefused : services.restore task.systemId tenantId snapshotId restoreId changes e =
        (.error error, e₁)) : RestoreFails services tenantId task e e₁
  | configuration {snapshotId restoreId configurationId : String} {error : RemoteError}
      {changes changes' : InMemoryChangeStateRepository} {e e₁ e₂ : E}
      (hid : task.snapshotId = some snapshotId)
      (hrestored : services.restore task.systemId tenantId snapshotId restoreId changes e = (.ok (), e₁))
      (hunread : services.configuration task.systemId tenantId configurationId changes' e₁ =
        (.error error, e₂)) : RestoreFails services tenantId task e e₂
  | mismatch {snapshotId snapshotHash restoreId configurationId : String} {document : Json}
      {changes changes' : InMemoryChangeStateRepository} {e e₁ e₂ : E}
      (hid : task.snapshotId = some snapshotId) (hhash : task.snapshotHash = some snapshotHash)
      (hrestored : services.restore task.systemId tenantId snapshotId restoreId changes e = (.ok (), e₁))
      (hread : services.configuration task.systemId tenantId configurationId changes' e₁ =
        (.ok document, e₂))
      (hother : sha256Digest document ≠ snapshotHash) : RestoreFails services tenantId task e e₂

/-- A task is compensated, or its compensation fails, and it is stored as such. -/
inductive Compensated (services : Services E) (tenantId : String) (task task' : WorkflowTaskRecord)
    (e e' : E) : Prop where
  | restored (hstep : task'.stepId = task.stepId) (hstatus : task'.status = .ROLLED_BACK)
      (h : Restores services tenantId task e e')
  | failed (hstep : task'.stepId = task.stepId) (hstatus : task'.status = .ROLLBACK_FAILED)
      (h : RestoreFails services tenantId task e e')

theorem Compensated.stepId {services : Services E} {tenantId : String}
    {task task' : WorkflowTaskRecord} {e e' : E} (h : Compensated services tenantId task task' e e') :
    task'.stepId = task.stepId := by
  cases h with
  | restored hstep _ _ => exact hstep
  | failed hstep _ _ => exact hstep

/-- One task after the other, each from where the last has left the systems. -/
inductive CompensatedAll (services : Services E) (tenantId : String) :
    List WorkflowTaskRecord → List WorkflowTaskRecord → E → E → Prop where
  | nil {e : E} : CompensatedAll services tenantId [] [] e e
  | snoc {tasks tasks' : List WorkflowTaskRecord} {task task' : WorkflowTaskRecord} {e e₁ e₂ : E}
      (before : CompensatedAll services tenantId tasks tasks' e e₁)
      (last : Compensated services tenantId task task' e₁ e₂) :
      CompensatedAll services tenantId (tasks ++ [task]) (tasks' ++ [task']) e e₂

theorem CompensatedAll.forall₂ {services : Services E} {tenantId : String}
    {tasks tasks' : List WorkflowTaskRecord} {e e' : E}
    (h : CompensatedAll services tenantId tasks tasks' e e') :
    List.Forall₂ (fun task task' => ∃ e e', Compensated services tenantId task task' e e')
      tasks tasks' := by
  induction h with
  | nil => exact .nil
  | snoc _ last ih => exact List.rel_append ih (.cons ⟨_, _, last⟩ .nil)

/-- The repository refuses an audit event, but never as a failed call. -/
theorem recordAudit_returns (engine : WorkflowEngine E) (record : WorkflowExecutionRecord)
    (entry : AuditNote) : (engine.recordAudit record entry).Returns fun r =>
      ∀ code transient, r ≠ .error (.dependencyCall code transient) := by
  have hread (rt : Runtime) : (now rt : WorkflowEngine.Run E Time).Returns fun r => ∃ a, r = .ok a :=
    .atomic fun _ => ⟨_, rfl⟩
  have hdraw (rt : Runtime) : (uuid4Hex rt : WorkflowEngine.Run E String).Returns
      fun r => ∃ a, r = .ok a := .atomic fun _ => ⟨_, rfl⟩
  refine .seq (P := fun r => ∃ event, r = .ok event) ?_ (fun event _ => .atomic fun w => ?_) ?_
  · refine .seq (hdraw engine.rt) (fun hex _ => ?_) fun e herror => by cases herror.choose_spec
    refine .seq (hread engine.rt) (fun createdAt _ => ⟨_, rfl⟩) fun e herror => by
      cases herror.choose_spec
  · intro code transient hraised
    simp only [InMemoryChangeStateRepository.recordAudit, guarded, InMemoryChangeStateRepository.get,
      ensureNewAuditId, bind, Except.bind] at hraised
    grind
  · rintro e ⟨event, hok⟩
    cases hok

section Rules

variable {engine : WorkflowEngine E} {record : WorkflowExecutionRecord} {scene : Scene E}
  {s : CoordinatorWorld E}

theorem Sees.audits {Q : Except Exn Unit → CoordinatorWorld E → Prop} {entry : AuditNote}
    (h : Sees record scene s) (hok : ∀ t, Sees record scene t → Q (.ok ()) t)
    (herr : ∀ e t, (∀ code transient, e ≠ .dependencyCall code transient) → Q (.error e) t) :
    Prog.RG .alone (fun _ _ => True) Q (engine.recordAudit record entry) s := by
  have haudit : Prog.RG .alone (fun _ _ => True) (fun r t => r = .ok () → Sees record scene t)
      (engine.recordAudit record entry) s :=
    h.alone_recordAudit False.elim False.elim (fun _ => trivial) (fun t ht _ => ht)
      fun _ _ _ _ hok => by cases hok
  refine (haudit.returns (recordAudit_returns engine record entry)).mono fun r t hr => ?_
  obtain ⟨hsees, hreturns⟩ := hr
  cases r with
  | ok u => exact hok t (hsees rfl)
  | error e => exact herr e t fun code transient he => hreturns code transient (he ▸ rfl)

theorem Sees.settleTask {Q : Except Exn WorkflowTaskRecord → CoordinatorWorld E → Prop}
    {task : WorkflowTaskRecord} {status : WorkflowTaskStatus} {code : Option String}
    (h : Sees record scene s)
    (hok : ∀ task' t, task'.stepId = task.stepId → task'.status = status → Sees record scene t →
      Q (.ok task') t)
    (herr : (∃ updatedAt e, TaskFields.modelValidate { task.toTaskFields with
      status := status, errorCode := code, updatedAt := updatedAt } = .error e) →
      ∀ e t, Q (.error e) t) :
    Prog.RG .alone (fun _ _ => True) Q (engine.settleTask task status code) s := by
  refine (Prog.RG.alone_bind _ _ _).mpr (h.alone_now engine.rt (fun _ => trivial) fun t ht _ => ?_)
  refine (Prog.RG.alone_ofExcept _ _).mpr ?_
  cases hsettled : TaskFields.modelValidate { task.toTaskFields with
      status := status, errorCode := code, updatedAt := engine.rt.clock s.tick } with
  | error e => exact herr ⟨_, e, hsettled⟩ e t
  | ok task' =>
    have hfields := TaskFields.modelValidate_of_ok hsettled
    exact hok task' t (by rw [hfields]) (by rw [hfields]) ht

/-- The body of the `try`: the snapshot is restored and read back, or a call has failed. -/
theorem Sees.restoreTask {Q : Except Exn WorkflowTaskRecord → CoordinatorWorld E → Prop}
    {task : WorkflowTaskRecord} {snapshotId snapshotHash : String} (h : Sees record scene s)
    (hid : task.snapshotId = some snapshotId) (hhash : task.snapshotHash = some snapshotHash)
    (hok : ∀ task' e' t, Restores engine.services record.tenantId task scene.remote e' →
      task'.stepId = task.stepId → task'.status = .ROLLED_BACK →
      Sees record (scene.later e' [.restoreCalled record.key task.stepId]) t → Q (.ok task') t)
    (hfails : ∀ e e' t, RestoreFails engine.services record.tenantId task scene.remote e' →
      Sees record (scene.later e' [.restoreCalled record.key task.stepId]) t → Q (.error e) t)
    (herr : ∀ e t, (∀ code transient, e ≠ .dependencyCall code transient) → Q (.error e) t) :
    Prog.RG .alone (fun _ _ => True) Q (engine.restoreTask record task snapshotId snapshotHash) s := by
  unfold WorkflowEngine.restoreTask
  refine (Prog.RG.alone_bind _ _ _).mpr (h.alone_requestId (fun _ => trivial) fun restoreId t ht => ?_)
  refine (Prog.RG.alone_bind _ _ _).mpr (ht.alone_exchange (fun _ _ => trivial) fun t₁ ht₁ => ?_)
  cases hrestored : engine.services.restore task.systemId record.tenantId snapshotId restoreId
    t.changes scene.remote with
  | mk answer e₁ =>
    rw [hrestored] at ht₁
    cases answer with
    | error error => exact hfails _ e₁ t₁ (.restore hid hrestored) ht₁
    | ok u =>
      dsimp only [Except.mapError]
      refine (Prog.RG.alone_bind _ _ _).mpr
        (ht₁.alone_requestId (fun _ => trivial) fun configurationId t' ht' => ?_)
      refine (Prog.RG.alone_bind _ _ _).mpr (ht'.alone_exchange (fun _ _ => trivial) fun t₂ ht₂ => ?_)
      rw [List.append_nil] at ht₂
      dsimp only at ht₂ ⊢
      cases hread : engine.services.configuration task.systemId record.tenantId configurationId
        t'.changes e₁ with
      | mk answer e₂ =>
        rw [hread] at ht₂
        cases answer with
        | error error => exact hfails _ e₂ t₂ (.configuration hid hrestored hread) ht₂
        | ok document =>
          dsimp only [Except.mapError]
          split_ifs with hmismatch
          · exact (Prog.RG.alone_raise _ _).mpr
              (hfails _ e₂ t₂ (.mismatch hid hhash hrestored hread hmismatch) ht₂)
          · rw [not_not] at hmismatch
            have hrestores := Restores.intro hid hhash hrestored hread hmismatch
            refine (Prog.RG.alone_bind _ _ _).mpr (Sees.settleTask ht₂
              (fun task' t hstep hstatus ht => ?_) fun hinvalid => ?_)
            · refine (Prog.RG.alone_bind _ _ _).mpr (Sees.audits ht (fun t ht => ?_) herr)
              exact (Prog.RG.alone_ret _ _).mpr (hok task' e₂ t hrestores hstep hstatus ht)
            · -- a task can always be stored as rolled back
              obtain ⟨updatedAt, e, hinvalid⟩ := hinvalid
              obtain ⟨task', hvalid⟩ := exists_rolledBack task updatedAt
              rw [hvalid] at hinvalid
              cases hinvalid

/-- The scene after the compensation of a task. -/
def Scene.afterTask (scene : Scene E) (record : WorkflowExecutionRecord) (task : WorkflowTaskRecord)
    (e' : E) : Scene E :=
  scene.later e' (restoreNotes record.key task)

/-- **One round of the compensation loop**, if it does not raise. -/
theorem Sees.rollbackTask {state : Dict String WorkflowTaskRecord × Bool} {task : WorkflowTaskRecord}
    (h : Sees record scene s) :
    (engine.rollbackTask record state task).Yields (fun state' t => ∃ task' e',
      Compensated engine.services record.tenantId task task' scene.remote e' ∧
      state' = (state.1.set task.stepId task', state.2 || decide (task'.status = .ROLLBACK_FAILED)) ∧
      Sees record (scene.afterTask record task e') t) s := by
  unfold WorkflowEngine.rollbackTask
  split
  · next snapshotId snapshotHash hid hhash =>
    have hnotes : restoreNotes record.key task = [.restoreCalled record.key task.stepId] := by
      rw [restoreNotes, hid]
      rfl
    have hscene (e' : E) : scene.afterTask record task e' =
        scene.later e' [.restoreCalled record.key task.stepId] := by rw [Scene.afterTask, hnotes]
    refine (Prog.RG.alone_tryCatch _ _ _).mpr ((Prog.RG.alone_bind _ _ _).mpr ?_)
    refine Sees.restoreTask h hid hhash (fun task' e' t hrestores hstep hstatus ht => ?_)
      (fun e e' t hfails ht => ?_) fun e t hother => ?_
    · refine (Prog.RG.alone_ret _ _).mpr ?_
      rintro _ ⟨⟩
      refine ⟨task', e', .restored hstep hstatus hrestores, ?_, hscene e' ▸ ht⟩
      rw [hstatus]
      simp
    · dsimp only
      split
      · next code transient =>
        refine (Prog.RG.alone_bind _ _ _).mpr (Sees.settleTask ht (fun task' t hstep hstatus ht => ?_)
          fun _ _ _ _ hok => by cases hok)
        refine (Prog.RG.alone_bind _ _ _).mpr (Sees.audits ht (fun t ht => ?_)
          fun _ _ _ _ hok => by cases hok)
        refine (Prog.RG.alone_ret _ _).mpr ?_
        rintro _ ⟨⟩
        refine ⟨task', e', .failed hstep hstatus hfails, ?_, hscene e' ▸ ht⟩
        rw [hstatus]
        simp
      · exact Prog.Yields.raise _
    · dsimp only
      split
      · next code transient => exact absurd rfl (hother code transient)
      · exact Prog.Yields.raise _
  · next hmissing =>
    have hnone : task.snapshotId = none := by
      cases hid : task.snapshotId with
      | none => rfl
      | some snapshotId =>
        obtain ⟨snapshotHash, hhash⟩ := Option.isSome_iff_exists.mp
          (task.snapshot_paired ▸ hid ▸ rfl : task.snapshotHash.isSome = true)
        exact (hmissing _ _ hid hhash).elim
    refine (Prog.RG.alone_bind _ _ _).mpr (Sees.settleTask h (fun task' t hstep hstatus ht => ?_)
      fun _ _ _ _ hok => by cases hok)
    refine (Prog.RG.alone_ret _ _).mpr ?_
    rintro _ ⟨⟩
    have hscene : scene.afterTask record task scene.remote = scene := by
      simp [Scene.afterTask, Scene.later, restoreNotes, hnone]
    refine ⟨task', scene.remote, .failed hstep hstatus (.noSnapshot hnone), ?_, hscene.symm ▸ ht⟩
    rw [hstatus]
    simp

/-- **The compensation loop**, if it does not raise: every task was compensated or failed to be, one
after the other. -/
theorem Sees.rollbackTasks {d : Dict String WorkflowTaskRecord} {order : List WorkflowTaskRecord}
    (h : Sees record scene s) :
    (Prog.foldlP (engine.rollbackTask record) (d, false) order).Yields (fun state t => ∃ tasks e',
      CompensatedAll engine.services record.tenantId order tasks scene.remote e' ∧
      state.1 = tasks.foldl (fun d task => d.set task.stepId task) d ∧
      state.2 = tasks.any (fun task => task.status = .ROLLBACK_FAILED) ∧
      Sees record (scene.later e' (order.flatMap (restoreNotes record.key))) t) s := by
  refine .foldlP (I := fun (state : Dict String WorkflowTaskRecord × Bool) done t => ∃ tasks e',
    CompensatedAll engine.services record.tenantId done tasks scene.remote e' ∧
    state.1 = tasks.foldl (fun d task => d.set task.stepId task) d ∧
    state.2 = tasks.any (fun task => task.status = .ROLLBACK_FAILED) ∧
    Sees record (scene.later e' (done.flatMap (restoreNotes record.key))) t) ?_ ?_
  · rintro state before task after t - ⟨tasks, e₁, hbefore, hdict, hflag, ht⟩
    refine (Sees.rollbackTask ht).mono ?_
    rintro _ t ⟨task', e₂, hlast, rfl, ht⟩
    refine ⟨tasks ++ [task'], e₂, .snoc hbefore hlast, ?_, ?_, ?_⟩
    · rw [List.foldl_append, hdict, ← hlast.stepId]
      rfl
    · rw [List.any_append, hflag]
      simp
    · have hscene : (scene.later e₁ (before.flatMap (restoreNotes record.key))).afterTask record task e₂ =
          scene.later e₂ ((before ++ [task]).flatMap (restoreNotes record.key)) := by
        simp [Scene.afterTask, Scene.later]
      exact hscene ▸ ht
  · refine ⟨[], scene.remote, .nil, rfl, rfl, ?_⟩
    have hscene : scene.later scene.remote [] = scene := by simp [Scene.later]
    exact hscene.symm ▸ h

/-! ### The order of the restores -/

omit [Sha256] in
theorem stepOrder_eq {plan : RemediationPlan} {step : RemediationStep} (h : step ∈ plan.steps) :
    stepOrder plan step.stepId = step.order := by
  unfold stepOrder
  cases hfind : plan.steps.find? fun other => other.stepId = step.stepId with
  | none =>
    have hnone := List.find?_eq_none.mp hfind step h
    exact absurd (decide_eq_true rfl) hnone
  | some other =>
    have hid : other.stepId = step.stepId := by simpa using List.find?_some hfind
    rw [List.inj_on_of_nodup_map plan.nodup_stepIds (List.mem_of_find?_eq_some hfind) h hid]
    rfl

omit [Sha256] in
/-- The steps of a plan have different orders. -/
theorem stepOrder_inj {plan : RemediationPlan} {a b : String} (ha : a ∈ plan.steps.map (·.stepId))
    (hb : b ∈ plan.steps.map (·.stepId)) (heq : stepOrder plan a = stepOrder plan b) : a = b := by
  obtain ⟨step, hstep, rfl⟩ := List.mem_map.mp ha
  obtain ⟨other, hother, rfl⟩ := List.mem_map.mp hb
  rw [stepOrder_eq hstep, stepOrder_eq hother] at heq
  rw [List.inj_on_of_nodup_map plan.nodup_orders hstep hother heq]

omit [Sha256] in
/-- **Compensation goes backwards**: the orders of the steps decrease strictly. -/
theorem pairwise_rollbackOrder {plan : RemediationPlan} {tasks : List WorkflowTaskRecord}
    (hsteps : tasks.map (·.stepId) ⊆ plan.steps.map (·.stepId))
    (hdistinct : (tasks.map (·.stepId)).Nodup) :
    (rollbackOrder plan tasks).Pairwise fun a b =>
      stepOrder plan b.stepId < stepOrder plan a.stepId := by
  have hperm : (rollbackOrder plan tasks).Perm tasks := List.perm_insertionSort _ _
  have hsorted : (rollbackOrder plan tasks).Pairwise fun a b =>
      stepOrder plan b.stepId ≤ stepOrder plan a.stepId := by
    have htotal : Std.Total fun a b : WorkflowTaskRecord =>
        stepOrder plan b.stepId ≤ stepOrder plan a.stepId := ⟨fun a b => Nat.le_total _ _⟩
    have htrans : IsTrans WorkflowTaskRecord fun a b =>
        stepOrder plan b.stepId ≤ stepOrder plan a.stepId := ⟨fun a b c hab hbc => hbc.trans hab⟩
    exact List.pairwise_insertionSort _ tasks
  have hdiffer : (rollbackOrder plan tasks).Pairwise fun a b => a.stepId ≠ b.stepId :=
    List.pairwise_map.mp ((hperm.map _).nodup_iff.mpr hdistinct)
  refine (hsorted.and hdiffer).imp_of_mem fun {a b} ha hb h => lt_of_le_of_ne h.1 fun heq => h.2 ?_
  have hmem {task : WorkflowTaskRecord} (h : task ∈ rollbackOrder plan tasks) :
      task.stepId ∈ plan.steps.map (·.stepId) := hsteps (List.mem_map_of_mem (hperm.mem_iff.mp h))
  exact stepOrder_inj (hmem ha) (hmem hb) heq.symm

/-! ### The whole rollback -/

/-- How a rollback ends: the tasks were compensated in strictly decreasing order of their steps, each
from where the last has left the systems; they are stored as that has settled them; and the record and
its change have failed, or need attention if a compensation has failed. -/
structure RollbackEnd (services : Services E) (plan : RemediationPlan)
    (record : WorkflowExecutionRecord) (scene : Scene E) (final : WorkflowExecutionRecord)
    (order settled : List WorkflowTaskRecord) (e' : E) (w : CoordinatorWorld E) : Prop where
  key : final.key = record.key
  perm : order.Perm record.tasks
  decreasing : order.Pairwise fun a b => stepOrder plan b.stepId < stepOrder plan a.stepId
  compensated : CompensatedAll services record.tenantId order settled scene.remote e'
  tasks : final.tasks.Perm settled
  status : final.status =
    if settled.any fun task => task.status = .ROLLBACK_FAILED then .NEEDS_ATTENTION else .FAILED
  sees : ∃ change, change.status =
      (if settled.any fun task => task.status = .ROLLBACK_FAILED then .NEEDS_ATTENTION else .FAILED) ∧
    Sees final { scene.later e' (order.flatMap (restoreNotes record.key)) with change := some change } w

omit [Sha256] in
/-- A dictionary that holds what the tasks are followed by merges that back. -/
theorem mergeTasks_eq {tasks settled : List WorkflowTaskRecord} {d : Dict String WorkflowTaskRecord}
    (h : List.Forall₂ (fun task task' => task'.stepId = task.stepId) tasks settled)
    (hget : ∀ task ∈ settled, d.get? task.stepId = some task) : mergeTasks tasks d = settled := by
  induction h with
  | nil => rfl
  | @cons task task' tasks settled hhead _ ih =>
    have hrest := ih fun task hmem => hget task (List.mem_cons_of_mem _ hmem)
    have hfirst : d.getD task.stepId task = task' := by
      rw [Dict.getD, ← hhead, hget task' List.mem_cons_self]
      rfl
    rw [mergeTasks] at hrest ⊢
    rw [List.map_cons, hrest, hfirst]

omit [Sha256] in
/-- The tasks that are merged back are the settled ones. -/
theorem mergeTasks_perm {tasks order settled : List WorkflowTaskRecord}
    {d : Dict String WorkflowTaskRecord} (hperm : order.Perm tasks)
    (h : List.Forall₂ (fun task task' => task'.stepId = task.stepId) order settled)
    (hdistinct : (tasks.map (·.stepId)).Nodup) :
    (mergeTasks tasks (settled.foldl (fun d task => d.set task.stepId task) d)).Perm settled := by
  have hids : (settled.map (·.stepId)).Nodup := by
    rw [stepIds_of_forall₂ h fun _ _ hstep => hstep]
    exact (hperm.map _).nodup_iff.mpr hdistinct
  have hmerged := mergeTasks_eq h fun task hmem => get?_foldl_set_of_mem (d := d) hids hmem
  exact (hperm.symm.map _).trans (List.Perm.of_eq hmerged)

/-- **The rule of `_rollback`**, whatever the stores and the sandboxes answer. -/
theorem Sees.rollback {plan : RemediationPlan} {change : ChangeRecord} {originalError : String}
    (h : Sees record scene s) (hchange : scene.change = some change)
    (hplan : record.plan = some plan) (hdistinct : record.stepIds.Nodup) :
    (engine.rollback record originalError).Yields (fun final t => ∃ order settled e',
      RollbackEnd engine.services plan record scene final order settled e' t) s := by
  unfold WorkflowEngine.rollback
  refine .bind (Sees.getChange h hchange) ?_
  rintro _ t ⟨rfl, ht⟩
  refine .bind (Sees.transitionFrom ht hchange) fun moved t ht => ?_
  refine .bind (Sees.setRuntimeStatus ht) ?_
  rintro rolling t ⟨hrolling, ht⟩
  refine .bind (Sees.requirePlan ht (hrolling.plan.trans hplan)) ?_
  rintro _ t ⟨rfl, ht⟩
  refine .bind (Sees.rollbackTasks ht) ?_
  rintro ⟨d, failed⟩ t ⟨settled, e', hall, hdict, hflag, ht⟩
  dsimp only at hdict hflag ⊢
  refine .bind (Sees.updateRecord ht rfl) ?_
  rintro updated t ⟨hupdated, ht⟩
  refine .bind (Sees.transition ht rfl) ?_
  rintro ended t ⟨hended, ht⟩
  have hstatus : updated.status = .ROLLING_BACK := by
    obtain ⟨updatedAt, hfields⟩ := hupdated.fields
    rw [hfields]
    exact hrolling.status
  have hterminal : (if failed then .NEEDS_ATTENTION else .FAILED : WorkflowRuntimeStatus).isTerminal = true ∧
      updated.status ≠ (if failed then .NEEDS_ATTENTION else .FAILED) := by
    rw [hstatus]
    cases failed <;> decide
  refine (Sees.terminal ht hterminal.1 hterminal.2).mono ?_
  rintro final t ⟨hfinal, ht⟩
  have htasks : rolling.tasks = record.tasks := hrolling.tasks
  have hkey : rolling.key = record.key := hrolling.key
  have htenant : rolling.tenantId = record.tenantId := (Prod.mk.inj hkey).1
  have hperm : (rollbackOrder plan rolling.tasks).Perm rolling.tasks := List.perm_insertionSort _ _
  have hdistinct' : (rolling.tasks.map (·.stepId)).Nodup := by
    rw [htasks]
    exact hdistinct
  have hmerged := mergeTasks_perm (d := byStep rolling.tasks) hperm
    (hall.forall₂.imp fun task task' ⟨_, _, hcompensated⟩ => hcompensated.stepId) hdistinct'
  rw [← hdict] at hmerged
  rw [htenant] at hall
  rw [hkey] at ht
  refine ⟨_, settled, e', hfinal.key.trans (hupdated.key.trans hkey), htasks ▸ hperm, ?_, hall, ?_, ?_,
    ended, ?_, ht⟩
  · rw [htasks]
    have hmatches := record.plan_matches
    rw [hplan] at hmatches
    exact pairwise_rollbackOrder hmatches.2.2.2.1 hdistinct
  · rw [hfinal.tasks, hupdated.tasks]
    exact hmerged
  · rw [hfinal.status, hflag]
  · rw [hended, hflag]

end Rules

end Compensation

/-! ## From the decision to the end -/

section Outcome

variable [Sha256] {E : Type} {engine : WorkflowEngine E} {plan : RemediationPlan}
  {record final : WorkflowExecutionRecord} {scene : Scene E} {s w w' : CoordinatorWorld E}

/-- A world in which an approved plan is executed, from its first snapshot or from where an earlier
run has left it: nothing has been compensated. -/
structure Approved (callback : ApprovalCallbackRequest) (plan : RemediationPlan)
    (record : WorkflowExecutionRecord) (w : CoordinatorWorld E) : Prop where
  decision : callback.status = .APPROVED
  scope : callback.tenantId = record.tenantId ∧ callback.changeId = record.changeId
  workflow : w.workflow? record.key = some record
  change : ∃ change, w.changes.stored? (record.tenantId, record.changeId) = some change ∧
    change.workflowExecutionId = some record.workflowExecutionId
  unfinished : record.status ≠ .COMPLETED ∧ record.status ≠ .FAILED ∧ record.status ≠ .NEEDS_ATTENTION
  plan : record.plan = some plan
  distinct : record.stepIds.Nodup
  tasks : ∀ task ∈ record.tasks, task.status = .PENDING ∨ task.status = .SUCCEEDED ∨ task.status = .FAILED

/-- The workflow and its change have come to these ends, with these notes on the way. -/
structure EndsAs (w w' : CoordinatorWorld E) (record final : WorkflowExecutionRecord)
    (status : WorkflowRuntimeStatus) (state : WorkflowState) (notes : List RemoteEvent) : Prop where
  workflow : w'.workflow? record.key = some final
  status : final.status = status
  change : ∃ change, w'.changes.stored? (record.tenantId, record.changeId) = some change ∧
    change.status = state
  log : w'.rest.log = w.rest.log ++ notes

/-- The tasks were compensated in strictly decreasing order of their steps, each from where the last
has left the systems, and are stored as that has settled them. -/
structure Backwards (services : Services E) (plan : RemediationPlan)
    (record final : WorkflowExecutionRecord) (order settled : List WorkflowTaskRecord) (e e' : E) :
    Prop where
  steps : (order.map (·.stepId)).Perm record.stepIds
  decreasing : order.Pairwise fun a b => stepOrder plan b.stepId < stepOrder plan a.stepId
  compensated : CompensatedAll services record.tenantId order settled e e'
  tasks : final.tasks.Perm settled

/-- What the end of an approved plan means. -/
inductive ExecutionEnd (services : Services E) (plan : RemediationPlan)
    (record final : WorkflowExecutionRecord) (w w' : CoordinatorWorld E) : Prop where
  /-- All steps have succeeded, all verifications have passed since, and nothing was restored. -/
  | completed (notes : List RemoteEvent) (h : EndsAs w w' record final .COMPLETED .COMPLETED notes)
      (hkept : ∀ note ∈ notes, note.isRestore = false)
      (htasks : ∀ task ∈ final.tasks, task.status = .SUCCEEDED)
      (hverified : ∀ task ∈ final.tasks, .verified record.key task.stepId true ∈ notes)
  /-- Every task was compensated. -/
  | failed (notes : List RemoteEvent) (order settled : List WorkflowTaskRecord) (e : E)
      (h : EndsAs w w' record final .FAILED .FAILED
        (notes ++ order.flatMap (restoreNotes record.key)))
      (hkept : ∀ note ∈ notes, note.isRestore = false)
      (hback : Backwards services plan record final order settled e w'.rest.remote)
      (htasks : ∀ task ∈ final.tasks, task.status = .ROLLED_BACK)
  /-- Some compensation has failed, the others were still tried. -/
  | needsAttention (notes : List RemoteEvent) (order settled : List WorkflowTaskRecord) (e : E)
      (h : EndsAs w w' record final .NEEDS_ATTENTION .NEEDS_ATTENTION
        (notes ++ order.flatMap (restoreNotes record.key)))
      (hkept : ∀ note ∈ notes, note.isRestore = false)
      (hback : Backwards services plan record final order settled e w'.rest.remote)
      (htasks : ∃ task ∈ final.tasks, task.status = .ROLLBACK_FAILED)

/-- What the run sees at the end, as the world shows it. -/
theorem Sees.endsAs {status : WorkflowRuntimeStatus} {state : WorkflowState} {change : ChangeRecord}
    {notes : List RemoteEvent} (h : Sees final scene w') (hkey : final.key = record.key)
    (hstatus : final.status = status) (hchange : scene.change = some change)
    (hstate : change.status = state) (hlog : scene.log = w.rest.log ++ notes) :
    EndsAs w w' record final status state notes := by
  obtain ⟨htenant, hchangeId, -⟩ := Prod.mk.inj hkey |>.imp id Prod.mk.inj
  refine ⟨hkey ▸ h.workflow, hstatus, ⟨change, ?_, hstate⟩, h.log.trans hlog⟩
  rw [← htenant, ← hchangeId]
  exact h.change.trans hchange

/-- A rollback, after whatever the run has done before. -/
theorem RollbackEnd.executionEnd {rolled : WorkflowExecutionRecord} {order settled : List WorkflowTaskRecord}
    {e' : E} {notes : List RemoteEvent}
    (h : RollbackEnd engine.services plan rolled scene final order settled e' w')
    (hkey : rolled.key = record.key) (hsteps : rolled.stepIds.Perm record.stepIds)
    (hlog : scene.log = w.rest.log ++ notes) (hkept : ∀ note ∈ notes, note.isRestore = false) :
    ExecutionEnd engine.services plan record final w w' := by
  obtain ⟨change, hstate, hsees⟩ := h.sees
  have hremote : e' = w'.rest.remote := hsees.remote.symm
  have htenant : rolled.tenantId = record.tenantId := (Prod.mk.inj hkey).1
  have hback : Backwards engine.services plan record final order settled scene.remote w'.rest.remote :=
    ⟨(h.perm.map _).trans hsteps, h.decreasing, hremote ▸ htenant ▸ h.compensated, h.tasks⟩
  have hlog' : scene.log ++ order.flatMap (restoreNotes rolled.key) =
      w.rest.log ++ (notes ++ order.flatMap (restoreNotes record.key)) := by
    rw [hlog, hkey, List.append_assoc]
  have hends := hsees.endsAs (h.key.trans hkey) h.status rfl hstate hlog'
  by_cases hfailed : (settled.any fun task => task.status = .ROLLBACK_FAILED) = true
  · rw [if_pos hfailed, if_pos hfailed] at hends
    obtain ⟨task, hmem, hstatus⟩ := List.any_eq_true.mp hfailed
    exact .needsAttention notes order settled scene.remote hends hkept hback
      ⟨task, h.tasks.mem_iff.mpr hmem, of_decide_eq_true hstatus⟩
  · rw [if_neg hfailed, if_neg hfailed] at hends
    refine .failed notes order settled scene.remote hends hkept hback fun task hmem => ?_
    have hsettled := h.tasks.mem_iff.mp hmem
    obtain ⟨_, _, _, _, hcompensated⟩ := exists_of_mem_forall₂ h.compensated.forall₂ hsettled
    cases hcompensated with
    | restored _ hstatus _ => exact hstatus
    | failed _ hstatus _ =>
      exact absurd (List.any_eq_true.mpr ⟨task, hsettled, decide_eq_true hstatus⟩) hfailed

/-- Two records of one plan have the same steps. -/
theorem stepIds_perm {other : WorkflowExecutionRecord} (hplan : record.plan = some plan)
    (hplan' : other.plan = some plan) (hdistinct : record.stepIds.Nodup)
    (hdistinct' : other.stepIds.Nodup) : record.stepIds.Perm other.stepIds := by
  have hmatches := record.plan_matches
  have hmatches' := other.plan_matches
  rw [hplan] at hmatches
  rw [hplan'] at hmatches'
  refine (List.perm_ext_iff_of_nodup hdistinct hdistinct').mpr fun stepId => ⟨fun h => ?_, fun h => ?_⟩
  · exact hmatches'.2.2.2.2 (hmatches.2.2.2.1 h)
  · exact hmatches.2.2.2.2 (hmatches'.2.2.2.1 h)

/-- **The rule of an approved plan** whose change is executing. -/
theorem Sees.executeApproved {change : ChangeRecord} (h : Sees record scene s)
    (hchange : scene.change = some change) (hlog : scene.log = w.rest.log)
    (hplan : record.plan = some plan) (hdistinct : record.stepIds.Nodup)
    (htasks : ∀ task ∈ record.tasks,
      task.status = .PENDING ∨ task.status = .SUCCEEDED ∨ task.status = .FAILED) :
    (engine.executeApproved record).Yields (fun final w' =>
      ExecutionEnd engine.services plan record final w w') s := by
  unfold WorkflowEngine.executeApproved
  refine .bind (Sees.setRuntimeStatus h) ?_
  rintro running t ⟨hrunning, ht⟩
  have hopen : OpenRun plan running := by
    refine ⟨hrunning.plan.trans hplan, ?_, hrunning.status, ?_⟩
    · rw [WorkflowFields.stepIds, hrunning.tasks]
      exact hdistinct
    · rw [hrunning.tasks]
      exact htasks
  refine .bind (Sees.captureSnapshots ht hopen) fun captured t hcaptured => ?_
  obtain ⟨hkey, hopen, remote, notes, hkept, ht⟩ := hcaptured
  refine .bind (Sees.executeDag ht hopen) fun executed t hexecuted => ?_
  obtain ⟨⟨hkey', hopen, remote', notes', hkept', ht⟩, hended⟩ := hexecuted
  rw [Scene.later_later] at ht
  have hsame : executed.key = record.key := hkey'.trans (hkey.trans hrunning.key)
  have hsteps := stepIds_perm hopen.plan hplan hopen.distinct hdistinct
  have hkept := List.forall_mem_append.mpr ⟨hkept, hkept'⟩
  split_ifs with hfailed
  · -- a step has failed
    refine (Sees.rollback ht hchange hopen.plan hopen.distinct).mono ?_
    rintro final w' ⟨order, settled, e', hend⟩
    exact hend.executionEnd hsame hsteps (by rw [← hlog]; rfl) hkept
  refine .bind (Sees.transition ht hchange) ?_
  rintro moved t ⟨-, ht⟩
  refine .bind (Sees.setRuntimeStatus ht) ?_
  rintro verifying t ⟨hverifying, ht⟩
  have hplan' : verifying.plan = some plan := hverifying.plan.trans hopen.plan
  have hids : verifying.stepIds = executed.stepIds := by
    rw [WorkflowFields.stepIds, hverifying.tasks]
    rfl
  have hsame' : verifying.key = record.key := hverifying.key.trans hsame
  refine .bind (Sees.verify ht hplan') ?_
  rintro objection t ⟨remote'', notes'', hkept'', ht, hverified⟩
  have hkept := List.forall_mem_append.mpr ⟨hkept, hkept''⟩
  have hlog' : ({ scene.later remote' (notes ++ notes') with change := some moved }.later remote''
      notes'').log = w.rest.log ++ (notes ++ notes' ++ notes'') := by
    simp [Scene.later, hlog]
  cases objection with
  | some verificationError =>
    refine (Sees.rollback ht rfl hplan' (hids ▸ hopen.distinct)).mono ?_
    rintro final w' ⟨order, settled, e', hend⟩
    exact hend.executionEnd hsame' (hids ▸ hsteps) hlog' hkept
  | none =>
    refine .bind (Sees.transition ht rfl) ?_
    rintro ended t ⟨hended', ht⟩
    have hnew : verifying.status ≠ .COMPLETED := by
      rw [hverifying.status]
      decide
    refine (Sees.terminal ht rfl hnew).mono ?_
    rintro final w' ⟨hfinal, ht⟩
    have htasks : final.tasks = executed.tasks := hfinal.tasks.trans hverifying.tasks
    refine .completed (notes ++ notes' ++ notes'')
      (ht.endsAs (hfinal.key.trans hsame') hfinal.status rfl hended' hlog') hkept ?_ ?_
    · -- the waves have ended without a failure, so nothing is pending
      rw [htasks]
      intro task hmem
      rcases hended with hany | hnone
      · exact absurd hany hfailed
      · rcases hopen.tasks task hmem with hpending | hsucceeded | hbad
        · exact absurd hpending (hnone task hmem)
        · exact hsucceeded
        · exact absurd (List.any_eq_true.mpr ⟨task, hmem, decide_eq_true hbad⟩) hfailed
    · intro task hmem
      rw [hfinal.tasks] at hmem
      rw [← hsame']
      exact List.mem_append_right _ (hverified rfl task hmem)

/-- **What the end of an approved plan means.** Whatever the stores, the gateway and the sandboxes
answer, a run of `resume_approval` that nobody disturbs and that returns has completed the plan,
compensated all of it, or asks for attention because some compensation has failed, and the record and
its change say which. -/
theorem approved_outcome {callback : ApprovalCallbackRequest} (h : Approved callback plan record w)
    (hrun : Prog.Runs (engine.resumeApproval callback) w (.ok final) w') :
    ExecutionEnd engine.services plan record final w w' := by
  obtain ⟨change, hstored, hworkflowId⟩ := h.change
  have hsees : Sees record ⟨some change, w.rest.remote, w.rest.log, w.rest.workflows.deadLetters⟩ w :=
    ⟨False.elim, h.workflow, hstored, rfl, rfl, rfl⟩
  refine Prog.Yields.of_runs (P := fun final w' =>
    ExecutionEnd engine.services plan record final w w') ?_ hrun
  unfold WorkflowEngine.resumeApproval
  rw [h.scope.1, h.scope.2]
  refine .bind (hsees.getChange rfl) ?_
  rintro read s ⟨hread, hs⟩
  rw [hread, hworkflowId]
  refine .bind hs.getWorkflow ?_
  rintro _ s ⟨rfl, hs⟩
  rw [if_neg (by simpa only [not_or] using h.unfinished)]
  refine .bind (hs.requirePlan h.plan) ?_
  rintro _ s ⟨rfl, hs⟩
  split_ifs with hmismatch
  · exact .raise _
  unfold WorkflowEngine.applyDecision
  rw [h.decision]
  refine .bind (hs.transitionFrom rfl) fun approved s hs => ?_
  refine .bind (hs.transitionFrom rfl) fun executing s hs => ?_
  split_ifs with hstatus
  · exact .raise _
  · exact hs.executeApproved rfl rfl h.plan h.distinct h.tasks

end Outcome

namespace Demo

theorem approved_stopped : Approved (callback .APPROVED) plan stoppedRecord stopped where
  decision := rfl
  scope := ⟨rfl, rfl⟩
  workflow := stoppedAfterFailure_stopped.stored
  change := ⟨changeIn .EXECUTING, stored?_put_self _ _, rfl⟩
  unfinished := by decide
  plan := rfl
  distinct := stoppedAfterFailure_stopped.distinct
  tasks task hmem := by
    rw [List.mem_singleton.mp hmem]
    exact .inr (.inr rfl)

end Demo

open Demo in
/-- The demonstration workflow, with a step that has failed. -/
theorem approved_outcome_stopped : ∃ final w',
    Prog.Runs ((rollbackEngine restoredBody).resumeApproval (callback .APPROVED)) stopped
      (.ok final) w' ∧
    ExecutionEnd (rollbackEngine restoredBody).services Demo.plan stoppedRecord final stopped w' := by
  have hsettled : ∀ v ∈ verdicts (sandboxes restoredBody) stoppedRecord.tenantId
      (rollbackOrder Demo.plan stoppedRecord.tasks) stopped.rest.remote, v.2 ≠ .escaped := by
    decide +kernel
  have hdecided : ∀ task ∈ stoppedRecord.tasks, task.status ≠ .PENDING := by decide
  have hreturns : Prog.RG .alone Compensates (fun r _ => ∃ final, r = .ok final)
      ((rollbackEngine restoredBody).resumeApproval (callback .APPROVED)) stopped := by
    refine alone_restart rfl (usesSandboxClient_rollbackServices restoredBody)
      stoppedAfterFailure_stopped ⟨rfl, rfl, rfl, rfl, rfl⟩ rfl rfl hdecided
      (fun final _ _ _ => ⟨final, rfl⟩) ?_
    rintro ⟨v, hmem, hescaped⟩
    exact absurd hescaped (hsettled v hmem)
  obtain ⟨outcome, w', hrun⟩ := Prog.exists_runs
    ((rollbackEngine restoredBody).resumeApproval (callback .APPROVED)) stopped
  obtain ⟨final, rfl⟩ := hreturns.of_runs hrun
  exact ⟨final, w', hrun, approved_outcome approved_stopped hrun⟩

end ChangeOps
