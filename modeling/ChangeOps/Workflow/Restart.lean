import ChangeOps.Lib.Possible
import ChangeOps.Workflow.Rollback

/-!
# ChangeOps.Workflow — a restart after a failed wave

`_execute_dag` stores a wave with a failed task and leaves its loop; the rollback comes next. If
the coordinator stops in between, the next approval callback enters the loop again, with the task
statuses that are stored. The loop does not ask whether a task has failed before it starts a
wave, so what the restarted run does depends on whether a task is still pending.
-/

namespace ChangeOps

open InMemoryChangeStateRepository WorkflowEngine

section Restart

variable [Sha256] {E : Type}

/-! ## The restart -/

/-- The coordinator has stopped after `_execute_dag` stored a failed wave and before the rollback
moved the change. -/
structure StoppedAfterFailure (rt : LawfulRuntime) (record : WorkflowExecutionRecord)
    (w : CoordinatorWorld E) : Prop where
  healthy : Healthy rt w
  stored : w.workflow? record.key = some record
  status : record.status = .EXECUTING
  failed : ∃ task ∈ record.tasks, task.status = .FAILED
  captured : ∀ task ∈ record.tasks, task.snapshotId.isSome = true
  change : ∃ change, w.changes.stored? (record.tenantId, record.changeId) = some change ∧
    change.status = .EXECUTING ∧ change.workflowExecutionId = some record.workflowExecutionId
  distinct : record.stepIds.Nodup

/-- What is expected of the restarted run: wherever it is, it has called the gateway no further
and has not moved the change to `VERIFYING`; and it ends with the tasks rolled back. -/
structure OnlyCompensates (engine : WorkflowEngine E) (http : SandboxHttp E)
    (callback : ApprovalCallbackRequest) (record : WorkflowExecutionRecord) (plan : RemediationPlan)
    (w : CoordinatorWorld E) : Prop where
  safe : ∀ p w', Prog.Reaches (engine.resumeApproval callback) w p w' →
    w'.rest.log.filter RemoteEvent.isCall = w.rest.log.filter RemoteEvent.isCall ∧
      ∀ change, w'.changes.stored? (record.tenantId, record.changeId) = some change →
        change.status ≠ .VERIFYING
  ends : ∀ outcome w', Prog.Runs (engine.resumeApproval callback) w outcome w' →
    ∃ final, outcome = .ok final ∧ final.status.isTerminal = true ∧
      RolledBack (rollbackOrder plan record.tasks)
        (verdicts http record.tenantId (rollbackOrder plan record.tasks) w.rest.remote)
        w w' record final

variable {rt : LawfulRuntime} {engine : WorkflowEngine E} {http : SandboxHttp E}
  {record : WorkflowExecutionRecord} {scene : Scene E} {s : CoordinatorWorld E}
  {callback : ApprovalCallbackRequest} {plan : RemediationPlan} {change : ChangeRecord}
  {G : CoordinatorWorld E → CoordinatorWorld E → Prop}

/-- The wave loop, entered once. -/
theorem executeWaves_eq (engine : WorkflowEngine E) (plan : RemediationPlan) (waves : Nat) :
    ∃ next, ∀ (record : WorkflowExecutionRecord) (tasks : Dict String WorkflowTaskRecord),
    engine.executeWaves plan waves record tasks = engine.executeWave plan next record tasks := by
  cases waves with
  | zero => exact ⟨_, fun _ _ => rfl⟩
  | succ waves => exact ⟨_, fun _ _ => rfl⟩

/-- A matching approval of a change that is being executed: the run reads both records and
executes the plan again. -/
theorem reads_resumeExecuting (engine : WorkflowEngine E) (h : Stands True rt record scene s)
    (hcallback : CallbackMatches callback record) (happroved : callback.status = .APPROVED)
    (hplan : record.plan = some plan) (hrecord : record.status = .EXECUTING)
    (hchange : scene.change = some change) (hstatus : change.status = .EXECUTING)
    (hid : change.workflowExecutionId = some record.workflowExecutionId) :
    Prog.Reads s (engine.resumeApproval callback) (engine.executeApproved record) := by
  have hversion : plan.version = callback.planVersion := by
    have hmatches := hcallback.planVersion
    rw [hplan] at hmatches
    exact Option.some.inj hmatches
  have hgetChange : s.changes.get record.tenantId record.changeId = .ok change :=
    get_eq_ok.mpr (h.change.trans hchange)
  have hget : s.rest.workflows.get record.tenantId record.changeId record.workflowExecutionId =
      .ok record := InMemoryWorkflowRepository.get_eq_ok.mpr h.workflow
  unfold resumeApproval
  rw [hcallback.tenantId, hcallback.changeId]
  refine Prog.Reads.atomic_bind (by rw [hgetChange]) ?_
  rw [hid]
  refine Prog.Reads.atomic_bind (by rw [hget]) ?_
  rw [if_neg (by rw [hrecord]; decide), requirePlan, hplan]
  show Prog.Reads s (if record.approvalId ≠ some callback.approvalId ∨
    record.planHash ≠ some callback.planHash ∨ plan.version ≠ callback.planVersion then _ else _) _
  rw [if_neg (by simp [hcallback.approvalId, hcallback.planHash, hversion])]
  -- the change has been moved to `EXECUTING` before
  rw [applyDecision, happroved]
  dsimp only
  rw [transitionFrom, if_neg (by rw [hstatus]; decide)]
  show Prog.Reads s (Prog.bind (engine.transitionFrom [.APPROVED] record change .EXECUTING {}) _) _
  rw [transitionFrom, if_neg (by rw [hstatus]; decide)]
  show Prog.Reads s (if change.status ≠ .EXECUTING then _ else _) _
  rw [if_neg (by rw [hstatus]; decide)]
  exact .refl _

/-- Every snapshot is there: none is captured. -/
theorem captureSnapshots_captured
    (hcaptured : ∀ task ∈ record.tasks, task.snapshotId.isSome = true) :
    engine.captureSnapshots record = .ret record := by
  have hmissing : record.tasks.filter (fun task => task.snapshotId.isNone) = [] := by
    rw [List.filter_eq_nil_iff]
    intro task hmem
    have hsome := hcaptured task hmem
    rw [Option.isSome_iff_ne_none] at hsome
    simpa using hsome
  unfold captureSnapshots
  dsimp only
  rw [if_pos hmissing]
  rfl

/-- The way into the loop. -/
theorem alone_enterWaves {Q : Except Exn WorkflowExecutionRecord → CoordinatorWorld E → Prop}
    (h : Stands True rt record scene s) (hrt : engine.rt = rt.toRuntime)
    (hrecord : record.status = .EXECUTING) (hG : ∀ {t t'}, Quiet t t' → G t t')
    (hput : ∀ record' t, G t (t.putWorkflow record'))
    (hQ : ∀ record' t, Restated record .EXECUTING none record' →
      Stands True rt record' scene t → Q (.ok record') t) :
    Prog.RG .alone G Q (engine.setRuntimeStatus record .EXECUTING none) s := by
  refine h.alone_setRuntimeStatus (fun _ => hrt) (fun _ => ⟨none, rfl⟩) (fun _ => ?_) hG
    (fun record' t _ _ => hput record' t) (fun record' t => hQ record' t)
    fun hH => absurd trivial hH
  rw [← record.terminal_iff, hrecord]

/-- Every task is decided: the loop is left at once, and the rollback follows. -/
theorem alone_decidedWaves {Q : Except Exn WorkflowExecutionRecord → CoordinatorWorld E → Prop}
    (hplan : record.plan = some plan) (hdistinct : record.stepIds.Nodup)
    (hdecided : ∀ task ∈ record.tasks, task.status ≠ .PENDING)
    (hnext : Q (.ok record) s) : Prog.RG .alone G Q (engine.executeDag record) s := by
  have hnone : withStatus (byStep record.tasks) .PENDING = [] := by
    rw [List.eq_nil_iff_forall_not_mem]
    intro task hmem
    obtain ⟨htask, hpending⟩ := ((tasksByStep_byStep hdistinct).mem_withStatus).mp hmem
    exact hdecided task htask hpending
  obtain ⟨next, hwaves⟩ := executeWaves_eq engine plan record.tasks.length
  unfold executeDag requirePlan
  rw [hplan]
  refine (Prog.RG.alone_bind _ _ _).mpr ((Prog.RG.alone_ret _ _).mpr ?_)
  dsimp only
  rw [hwaves, executeWave, if_pos hnone]
  exact (Prog.RG.alone_ret _ _).mpr hnext

/-- A pending task without a ready one: the loop raises. -/
theorem alone_blockedWaves {Q : Except Exn WorkflowExecutionRecord → CoordinatorWorld E → Prop}
    (hplan : record.plan = some plan)
    (hpending : withStatus (byStep record.tasks) .PENDING ≠ [])
    (hready : readyTasks plan (byStep record.tasks) = []) (hQ : ∀ e, Q (.error e) s) :
    Prog.RG .alone G Q (engine.executeDag record) s := by
  obtain ⟨next, hwaves⟩ := executeWaves_eq engine plan record.tasks.length
  unfold executeDag requirePlan
  rw [hplan]
  refine (Prog.RG.alone_bind _ _ _).mpr ((Prog.RG.alone_ret _ _).mpr ?_)
  dsimp only
  rw [hwaves, executeWave, if_neg hpending]
  dsimp only
  rw [if_pos hready]
  exact (Prog.RG.alone_raise _ _).mpr (hQ _)

/-- The first attempt for a task gets to its call of the gateway. -/
theorem can_executeTask (engine : WorkflowEngine E) (task : WorkflowTaskRecord)
    (step : RemediationStep) {approvalId : String}
    (h : Stands True rt record scene s) (hplan : record.plan = some plan)
    (happroval : record.approvalId = some approvalId) :
    Prog.Can (fun t => t.rest.log = scene.log ++ [.executeCalled record.key step.stepId])
      (engine.executeTask record task step) s := by
  have hattempt : ∀ attempt, Prog.Can
      (fun t => t.rest.log = scene.log ++ [.executeCalled record.key step.stepId])
      (engine.attemptTask record plan approvalId task step attempt) s := by
    intro attempt
    unfold attemptTask
    refine Prog.Can.of_bind (h.alone_now engine.rt (G := fun _ _ => True) (fun _ => trivial)
      fun t ht _ => ?_)
    refine Prog.Can.of_bind (ht.alone_requestId (G := fun _ _ => True) (fun _ => trivial)
      fun requestId t ht => ?_)
    refine Prog.Can.atomic_bind (.here ?_)
    show t.rest.log ++ _ = _
    rw [ht.log]
  unfold executeTask requirePlan
  rw [hplan, happroval]
  show Prog.Can _ (engine.executeAttempts record plan approvalId task step
    (engine.retry.maximumAttempts - (task.attemptCount + 1)) (task.attemptCount + 1)) s
  cases engine.retry.maximumAttempts - (task.attemptCount + 1) with
  | zero => exact (hattempt _).tryCatch _
  | succ retries => exact (hattempt _).tryCatch _

/-- A ready task: the loop gets to a call of the gateway. -/
theorem can_readyWaves {approvalId : String} (h : Stands True rt record scene s)
    (hplan : record.plan = some plan) (happroval : record.approvalId = some approvalId)
    (hready : readyTasks plan (byStep record.tasks) ≠ []) :
    Prog.Can (fun t => ∃ stepId, t.rest.log = scene.log ++ [.executeCalled record.key stepId])
      (engine.executeDag record) s := by
  have hpending : withStatus (byStep record.tasks) .PENDING ≠ [] := by
    intro hnil
    apply hready
    rw [readyTasks, hnil]
    rfl
  obtain ⟨next, hwaves⟩ := executeWaves_eq engine plan record.tasks.length
  obtain ⟨task, rest, hhead⟩ := List.exists_cons_of_ne_nil hready
  -- a ready task has a step
  have hstep : ∃ step, plan.steps.find? (fun step => step.stepId = task.stepId) = some step := by
    have hmem : task ∈ readyTasks plan (byStep record.tasks) := hhead ▸ List.mem_cons_self
    have hdeps := (List.mem_filter.mp hmem).2
    cases hfind : plan.steps.find? (fun step => step.stepId = task.stepId) with
    | some step => exact ⟨step, rfl⟩
    | none =>
      rw [hfind] at hdeps
      cases hdeps
  obtain ⟨step, hfind⟩ := hstep
  unfold executeDag requirePlan
  rw [hplan]
  show Prog.Can _ (engine.executeWaves plan record.tasks.length record (byStep record.tasks)) s
  rw [hwaves, executeWave, if_neg hpending]
  dsimp only
  rw [if_neg hready, hhead, List.map_cons]
  refine Prog.Can.bind (Prog.Can.gatherAll_head ?_ _) _
  rw [stepById, hfind]
  show Prog.Can _ (engine.executeTask record task step) s
  obtain ⟨p, t, hreach, hlog⟩ := can_executeTask engine task step h hplan happroval
  exact ⟨p, t, hreach, step.stepId, hlog⟩

/-! ## The restarted run -/

theorem StoppedAfterFailure.stands {w : CoordinatorWorld E} (hw : StoppedAfterFailure rt record w)
    (hchange : w.changes.stored? (record.tenantId, record.changeId) = some change) :
    Stands True rt record
      ⟨some change, w.rest.remote, w.rest.log, w.rest.workflows.deadLetters⟩ w :=
  ⟨fun _ => hw.healthy, hw.stored, hchange, rfl, rfl, rfl⟩

/-- With every task decided, the restarted run is a rollback. -/
theorem alone_restart {w : CoordinatorWorld E}
    {Q : Except Exn WorkflowExecutionRecord → CoordinatorWorld E → Prop}
    (hrt : engine.rt = rt.toRuntime) (huses : engine.services.UsesSandboxClient http)
    (hw : StoppedAfterFailure rt record w) (hcallback : CallbackMatches callback record)
    (happroved : callback.status = .APPROVED) (hplan : record.plan = some plan)
    (hdecided : ∀ task ∈ record.tasks, task.status ≠ .PENDING)
    (hok : ∀ final w',
      (∀ v ∈ verdicts http record.tenantId (rollbackOrder plan record.tasks) w.rest.remote,
        v.2 ≠ .escaped) →
      RolledBack (rollbackOrder plan record.tasks)
        (verdicts http record.tenantId (rollbackOrder plan record.tasks) w.rest.remote)
        w w' record final → Q (.ok final) w')
    (hescaped : (∃ v ∈ verdicts http record.tenantId (rollbackOrder plan record.tasks)
      w.rest.remote, v.2 = .escaped) → ∀ e w', Q (.error e) w') :
    Prog.RG .alone Compensates Q (engine.resumeApproval callback) w := by
  obtain ⟨change, hchange, hstatus, hid⟩ := hw.change
  have hstands := hw.stands hchange
  refine Prog.RG.of_reads (reads_resumeExecuting _ hstands hcallback happroved hplan hw.status rfl
    hstatus hid) (.quiet (Quiet.refl w)) ?_
  unfold executeApproved
  refine (Prog.RG.alone_bind _ _ _).mpr (alone_enterWaves hstands hrt hw.status .quiet
    (fun record' t => .stored record' rfl) fun record' t hrestated ht => ?_)
  have htenant : record'.tenantId = record.tenantId := congrArg Prod.fst hrestated.key
  have hsteps : record'.stepIds = record.stepIds := by
    rw [WorkflowFields.stepIds, hrestated.tasks]
    rfl
  dsimp only
  rw [captureSnapshots_captured (by rw [hrestated.tasks]; exact hw.captured)]
  refine (Prog.RG.alone_bind _ _ _).mpr ((Prog.RG.alone_ret _ _).mpr ?_)
  refine (Prog.RG.alone_bind _ _ _).mpr (alone_decidedWaves (hrestated.plan.trans hplan) ?_ ?_ ?_)
  · rw [hsteps]
    exact hw.distinct
  · rw [hrestated.tasks]
    exact hdecided
  · have hfailed : record'.tasks.any (fun task => decide (task.status = .FAILED)) = true := by
      obtain ⟨task, hmem, hstatus⟩ := hw.failed
      rw [hrestated.tasks]
      exact List.any_eq_true.mpr ⟨task, hmem, decide_eq_true hstatus⟩
    have hcode : record'.lastErrorCode = none := hrestated.lastErrorCode
    have hkey : record'.key = record.key := hrestated.key
    dsimp only
    rw [if_pos hfailed, hcode, Option.getD_none]
    refine alone_rollback ht hrt huses rfl (Or.inl hstatus) ?_ ?_ (hrestated.plan.trans hplan)
      (fun final change' remote t _ hnone hfinalKey htasks hfinal hchange' ht => ?_) ?_ ?_
    · rw [hrestated.status]
      rfl
    · rw [hsteps]
      exact hw.distinct
    · rw [htenant, hrestated.tasks] at hnone htasks hfinal hchange'
      have hstored := ht.workflow
      have hfinalChange := ht.change
      have hlog := ht.log
      have hsame : final.key = record.key := hfinalKey.trans hkey
      have hchangeKey : (final.tenantId, final.changeId) = (record.tenantId, record.changeId) := by
        obtain ⟨htenant, hrest⟩ := Prod.mk.inj hsame
        rw [htenant, (Prod.mk.inj hrest).1]
      rw [hsame] at hstored
      rw [hchangeKey] at hfinalChange
      rw [hrestated.tasks, hkey] at hlog
      exact hok final t hnone ⟨hstored, htasks, hlog, hfinal, change', hfinalChange, hchange'⟩
    · intro hbad
      cases (show (nonEmptyStr "TOOL_EXECUTION_FAILED").isOk = true by decide +kernel).symm.trans hbad
    · intro hlater
      rw [htenant, hrestated.tasks] at hlater
      exact hescaped hlater

theorem RolledBack.isTerminal {order : List WorkflowTaskRecord}
    {decided : List (WorkflowTaskRecord × Verdict)} {w w' : CoordinatorWorld E}
    {final : WorkflowExecutionRecord} (h : RolledBack order decided w w' record final) :
    final.status.isTerminal = true := by
  rw [h.status]
  split_ifs <;> rfl

/-- An action of a rollback calls no gateway and does not move a change to `VERIFYING`. -/
theorem Compensates.safe {w w' : CoordinatorWorld E} {key : String × String}
    (h : Compensates w w')
    (hw : ∀ change, w.changes.stored? key = some change → change.status ≠ .VERIFYING) :
    w'.rest.log.filter RemoteEvent.isCall = w.rest.log.filter RemoteEvent.isCall ∧
      ∀ change, w'.changes.stored? key = some change → change.status ≠ .VERIFYING := by
  cases h with
  | noted events hnoted hcalls =>
    have hnil : events.filter RemoteEvent.isCall = [] := by
      rw [List.filter_eq_nil_iff]
      intro event hmem
      rw [hcalls event hmem]
      exact Bool.false_ne_true
    refine ⟨?_, fun change hchange => hw change ?_⟩
    · rw [hnoted.log, List.filter_append, hnil, List.append_nil]
    · rw [← hnoted.changes]
      exact hchange
  | stored record hput =>
    subst hput
    exact ⟨rfl, hw⟩
  | committed change event hcommit hstatus =>
    subst hcommit
    refine ⟨rfl, fun change' hchange' => ?_⟩
    by_cases hkey : key = (change.tenantId, change.changeId)
    · subst hkey
      rw [World.stored?_commit_self] at hchange'
      cases hchange'
      rcases hstatus with h | h | h <;> rw [h] <;> decide
    · rw [World.stored?_commit_ne _ _ hkey] at hchange'
      exact hw change' hchange'

/-- A pending task: the restarted run calls the gateway, or it raises. -/
theorem restart_pending (engine : WorkflowEngine E) (http : SandboxHttp E) {w : CoordinatorWorld E} (hrt : engine.rt = rt.toRuntime)
    (hw : StoppedAfterFailure rt record w) (hcallback : CallbackMatches callback record)
    (happroved : callback.status = .APPROVED) (hplan : record.plan = some plan)
    (hpending : ∃ task ∈ record.tasks, task.status = .PENDING) :
    ¬ OnlyCompensates engine http callback record plan w := by
  intro hcompensates
  obtain ⟨change, hchange, hstatus, hid⟩ := hw.change
  have hstands := hw.stands hchange
  have hreads := reads_resumeExecuting engine hstands hcallback happroved hplan hw.status
    rfl hstatus hid
  have hdict : withStatus (byStep record.tasks) .PENDING ≠ [] := by
    obtain ⟨task, hmem, htask⟩ := hpending
    exact List.ne_nil_of_mem (((tasksByStep_byStep hw.distinct).mem_withStatus).mpr ⟨hmem, htask⟩)
  by_cases hready : readyTasks plan (byStep record.tasks) = []
  · -- no task is ready: the loop raises, and nothing catches it
    obtain ⟨outcome, w', hrun⟩ := Prog.exists_runs (engine.resumeApproval callback) w
    have hraises : Prog.RG .alone (fun _ _ => True) (fun r _ => ∃ e, r = .error e)
        (engine.resumeApproval callback) w := by
      refine Prog.RG.of_reads hreads trivial ?_
      unfold executeApproved
      refine (Prog.RG.alone_bind _ _ _).mpr (alone_enterWaves hstands hrt hw.status
        (fun _ => trivial) (fun _ _ => trivial) fun record' t hrestated ht => ?_)
      dsimp only
      rw [captureSnapshots_captured (by rw [hrestated.tasks]; exact hw.captured)]
      refine (Prog.RG.alone_bind _ _ _).mpr ((Prog.RG.alone_ret _ _).mpr ?_)
      refine (Prog.RG.alone_bind _ _ _).mpr (alone_blockedWaves (hrestated.plan.trans hplan) ?_ ?_
        fun e => ⟨e, rfl⟩)
      · rw [hrestated.tasks]
        exact hdict
      · rw [hrestated.tasks]
        exact hready
    obtain ⟨e, he⟩ := hraises.of_runs hrun
    obtain ⟨final, hfinal, -⟩ := hcompensates.ends outcome w' hrun
    rw [he] at hfinal
    cases hfinal
  · -- a ready task is executed
    obtain ⟨approvalId, happroval⟩ : ∃ approvalId, record.approvalId = some approvalId :=
      ⟨_, hcallback.approvalId⟩
    have hcan : Prog.Can (fun t => ∃ stepId, t.rest.log = w.rest.log ++
        [.executeCalled record.key stepId]) (engine.resumeApproval callback) w := by
      refine Prog.Can.of_reads hreads ?_
      unfold executeApproved
      refine Prog.Can.of_bind (alone_enterWaves (G := fun _ _ => True) hstands hrt hw.status
        (fun _ => trivial) (fun _ _ => trivial) fun record' t hrestated ht => ?_)
      have hkey : record'.key = record.key := hrestated.key
      dsimp only
      rw [captureSnapshots_captured (by rw [hrestated.tasks]; exact hw.captured)]
      show Prog.Can _ ((engine.executeDag record').bind _) t
      refine Prog.Can.bind ?_ _
      rw [← hkey]
      refine can_readyWaves ht (hrestated.plan.trans hplan)
        (hrestated.approvalId.trans happroval) ?_
      rw [hrestated.tasks]
      exact hready
    obtain ⟨p, w', hreach, stepId, hlog⟩ := hcan
    have hsame := (hcompensates.safe p w' hreach).1
    rw [hlog, List.filter_append] at hsame
    have hlength := congrArg List.length hsame
    simp [RemoteEvent.isCall] at hlength

/-- **Restart after a failed wave.** The restarted run calls the gateway no further, leaves the
change out of `VERIFYING` and ends with the tasks rolled back, if and only if no task is pending
and nothing escapes from the rollback. -/
theorem restart_compensates_iff (rt : LawfulRuntime) (engine : WorkflowEngine E)
    (http : SandboxHttp E) (callback : ApprovalCallbackRequest) (record : WorkflowExecutionRecord)
    (plan : RemediationPlan) (w : CoordinatorWorld E) (hrt : engine.rt = rt.toRuntime)
    (huses : engine.services.UsesSandboxClient http) (hw : StoppedAfterFailure rt record w)
    (hcallback : CallbackMatches callback record) (happroved : callback.status = .APPROVED)
    (hplan : record.plan = some plan) :
    OnlyCompensates engine http callback record plan w ↔
      (∀ task ∈ record.tasks, task.status ≠ .PENDING) ∧
        ∀ v ∈ verdicts http record.tenantId (rollbackOrder plan record.tasks) w.rest.remote,
          v.2 ≠ .escaped := by
  constructor
  · intro hcompensates
    have hdecided : ∀ task ∈ record.tasks, task.status ≠ .PENDING := by
      intro task hmem hpending
      exact restart_pending engine http hrt hw hcallback happroved hplan ⟨task, hmem, hpending⟩ hcompensates
    refine ⟨hdecided, fun v hmem hescaped => ?_⟩
    obtain ⟨outcome, w', hrun⟩ := Prog.exists_runs (engine.resumeApproval callback) w
    obtain ⟨final, rfl, -⟩ := hcompensates.ends outcome w' hrun
    obtain ⟨e, he⟩ := (alone_restart (Q := fun r _ => ∃ e, r = .error e) hrt huses hw hcallback
      happroved hplan hdecided (fun _ _ hnone _ => absurd hescaped (hnone v hmem))
      fun _ e _ => ⟨e, rfl⟩).of_runs hrun
    cases he
  · rintro ⟨hdecided, hnone⟩
    have hrestart := alone_restart (Q := fun r w' => ∃ final, r = .ok final ∧
        final.status.isTerminal = true ∧ RolledBack (rollbackOrder plan record.tasks)
          (verdicts http record.tenantId (rollbackOrder plan record.tasks) w.rest.remote)
          w w' record final) hrt huses hw hcallback happroved hplan hdecided
      (fun final w' _ hrolled => ⟨final, rfl, hrolled.isTerminal, hrolled⟩)
      fun hlater => by
        obtain ⟨v, hmem, hescaped⟩ := hlater
        exact absurd hescaped (hnone v hmem)
    refine ⟨fun p w' hreach => ?_, fun outcome w' hrun => hrestart.of_runs hrun⟩
    refine (hrestart.of_reaches (I := fun t =>
      t.rest.log.filter RemoteEvent.isCall = w.rest.log.filter RemoteEvent.isCall ∧
        ∀ change, t.changes.stored? (record.tenantId, record.changeId) = some change →
          change.status ≠ .VERIFYING) ?_ ⟨rfl, ?_⟩ hreach).2
    · intro a b ha hstep
      obtain ⟨hcalls, hchange⟩ := hstep.safe ha.2
      exact ⟨hcalls.trans ha.1, hchange⟩
    · intro change hchange
      obtain ⟨stored, hstored, hstatus, -⟩ := hw.change
      rw [hstored] at hchange
      cases hchange
      rw [hstatus]
      decide

end Restart

namespace Demo

theorem stoppedAfterFailure_stopped : StoppedAfterFailure lawfulRuntime stoppedRecord stopped where
  healthy := healthy_worldWith rfl _
  stored := InMemoryWorkflowRepository.stored?_put_self _ _
  status := rfl
  failed := ⟨failedTask, List.mem_singleton_self _, rfl⟩
  captured task hmem := by
    rw [List.mem_singleton.mp hmem]
    rfl
  change := ⟨changeIn .EXECUTING, InMemoryChangeStateRepository.stored?_put_self _ _, rfl, rfl⟩
  distinct := List.nodup_singleton _

/-- A plan whose third step waits for the second one only. -/
def wavePlan : RemediationPlan :=
  { plan with
    steps := [step,
      { step with
        stepId := "step_analytics", order := 2, toolName := "analytics.update_field_mapping"
        idempotencyKey := "key_analytics" },
      { step with
        stepId := "step_support", order := 3, toolName := "support.update_lookup_field"
        dependsOn := ["step_analytics"], idempotencyKey := "key_support" }]
    steps_ne_nil := List.cons_ne_nil _ _
    graph := by decide }

theorem pending_failure_code :
    WorkflowTaskStatus.PENDING = .FAILED ∨ WorkflowTaskStatus.PENDING = .ROLLBACK_FAILED →
      (none : Option String).isSome = true := by
  rintro (h | h) <;> cases h

/-- The first wave is stored: one step has failed, one has succeeded. -/
def waveTasks : List WorkflowTaskRecord :=
  [failedTask,
    { failedTask with
      stepId := "step_analytics", systemId := .analytics, status := .SUCCEEDED
      executionId := some "exec_001", outputHash := some "sha256:out", errorCode := none
      error_code_checked := nonEmptyStrOrNone_none
      evidence := fun _ => ⟨rfl, rfl⟩
      failure_code := fun h => by rcases h with h | h <;> cases h },
    { failedTask with
      stepId := "step_support", systemId := .support, status := .PENDING, attemptCount := 0
      errorCode := none
      error_code_checked := nonEmptyStrOrNone_none
      evidence := fun h => by cases h
      failure_code := pending_failure_code }]

def waveRecord : WorkflowExecutionRecord :=
  { stoppedRecord with
    plan := some wavePlan
    planHash := some (calculatePlanHash wavePlan)
    tasks := waveTasks
    plan_paired := rfl
    plan_matches := ⟨rfl, rfl, rfl, List.Subset.refl ["step_crm", "step_analytics", "step_support"],
      List.Subset.refl ["step_crm", "step_analytics", "step_support"]⟩ }

def waveCallback : ApprovalCallbackRequest :=
  { callback .APPROVED with planHash := calculatePlanHash wavePlan }

end Demo

open Demo in
/-- The demonstration workflow has no other task. -/
theorem restart_compensates_stopped :
    OnlyCompensates (rollbackEngine restoredBody) (sandboxes restoredBody) (callback .APPROVED)
      stoppedRecord Demo.plan stopped := by
  refine (restart_compensates_iff lawfulRuntime (rollbackEngine restoredBody)
    (sandboxes restoredBody) (callback .APPROVED) stoppedRecord Demo.plan stopped rfl
    (usesSandboxClient_rollbackServices _) stoppedAfterFailure_stopped ⟨rfl, rfl, rfl, rfl, rfl⟩ rfl
    rfl).mpr ⟨?_, ?_⟩
  · intro task hmem
    rw [List.mem_singleton.mp hmem]
    decide
  · decide +kernel

open Demo in
/-- With a step that is still pending, the restarted run executes it. -/
theorem not_restart_compensates :
    ¬ ∀ [Sha256] (rt : LawfulRuntime) (engine : WorkflowEngine Unit) (http : SandboxHttp Unit)
      (callback : ApprovalCallbackRequest) (record : WorkflowExecutionRecord)
      (plan : RemediationPlan) (w : CoordinatorWorld Unit), engine.rt = rt.toRuntime →
      engine.services.UsesSandboxClient http → StoppedAfterFailure rt record w →
      CallbackMatches callback record → callback.status = .APPROVED → record.plan = some plan →
      (∀ v ∈ verdicts http record.tenantId (rollbackOrder plan record.tasks) w.rest.remote,
        v.2 ≠ .escaped) → OnlyCompensates engine http callback record plan w := by
  intro h
  have hw : StoppedAfterFailure lawfulRuntime waveRecord (worldWith waveRecord .EXECUTING) := by
    exact ⟨healthy_worldWith rfl _, InMemoryWorkflowRepository.stored?_put_self _ _, rfl,
      ⟨failedTask, List.mem_cons_self, rfl⟩, by decide,
      ⟨changeIn .EXECUTING, InMemoryChangeStateRepository.stored?_put_self _ _, rfl, rfl⟩, by decide⟩
  have hcallback : CallbackMatches waveCallback waveRecord := ⟨rfl, rfl, rfl, rfl, rfl⟩
  refine restart_pending (rollbackEngine restoredBody) (sandboxes restoredBody) rfl hw
    hcallback rfl rfl (by decide) ?_
  refine h lawfulRuntime _ _ _ waveRecord wavePlan _ rfl (usesSandboxClient_rollbackServices _) hw
    hcallback rfl rfl ?_
  decide +kernel

end ChangeOps
