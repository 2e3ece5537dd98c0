import ChangeOps.Workflow.EngineRules

/-!
# ChangeOps.Workflow — a run of `resume_approval` among others

The rules of `EngineRules` are chained along the methods of the engine, from the snapshots
to the last transition. The tasks of a record travel in a dictionary by step id and are
merged back into the record's order; `TasksFrom` says that each of them still comes from the
record's own task of that step.
-/

namespace ChangeOps

open InMemoryChangeStateRepository WorkflowEngine

/-! ## Tasks by step -/

/-- Every task of the dictionary comes, by `rel`, from the task of its step. -/
def TasksFrom (rel : WorkflowTaskRecord → WorkflowTaskRecord → Prop)
    (tasks : List WorkflowTaskRecord) (d : Dict String WorkflowTaskRecord) : Prop :=
  ∀ id task, d.get? id = some task → ∃ origin ∈ tasks, origin.stepId = id ∧ rel origin task

section TasksFrom

variable {rel : WorkflowTaskRecord → WorkflowTaskRecord → Prop} {tasks : List WorkflowTaskRecord}
  {d : Dict String WorkflowTaskRecord}

theorem TasksFrom.set (h : TasksFrom rel tasks d) {origin task : WorkflowTaskRecord}
    (hmem : origin ∈ tasks) (hrel : rel origin task) :
    TasksFrom rel tasks (d.set origin.stepId task) := by
  intro id stored hstored
  rw [Dict.get?_set] at hstored
  split_ifs at hstored with hid
  · cases hstored
    exact ⟨origin, hmem, hid.symm, hrel⟩
  · exact h id stored hstored

theorem TasksFrom.mono {rel' : WorkflowTaskRecord → WorkflowTaskRecord → Prop}
    (h : TasksFrom rel tasks d) (himp : ∀ a b, rel a b → rel' a b) : TasksFrom rel' tasks d := by
  intro id task htask
  obtain ⟨origin, hmem, hid, hrel⟩ := h id task htask
  exact ⟨origin, hmem, hid, himp _ _ hrel⟩

/-- Setting the results of a wave. -/
theorem TasksFrom.foldl_set (results : List WorkflowTaskRecord)
    (h : TasksFrom rel tasks d)
    (hresults : ∀ task ∈ results, ∃ origin ∈ tasks, origin.stepId = task.stepId ∧ rel origin task) :
    TasksFrom rel tasks (results.foldl (fun d task => d.set task.stepId task) d) := by
  induction results generalizing d with
  | nil => exact h
  | cons task results ih =>
    obtain ⟨origin, hmem, hid, hrel⟩ := hresults task List.mem_cons_self
    refine ih ?_ fun task' hmem' => hresults task' (List.mem_cons_of_mem _ hmem')
    show TasksFrom rel tasks (d.set task.stepId task)
    rw [← hid]
    exact h.set hmem hrel

theorem tasksFrom_byStep (hrefl : ∀ task, rel task task) : TasksFrom rel tasks (byStep tasks) :=
  TasksFrom.foldl_set tasks (fun _ _ h => nomatch h) fun task hmem => ⟨task, hmem, rfl, hrefl task⟩

/-- Merging back: each task of the record is followed by the one that comes from it. -/
theorem TasksFrom.merge (h : TasksFrom rel tasks d) (hrefl : ∀ task, rel task task)
    (hnodup : (tasks.map (·.stepId)).Nodup) : List.Forall₂ rel tasks (mergeTasks tasks d) := by
  rw [mergeTasks, List.forall₂_map_right_iff, List.forall₂_same]
  intro task hmem
  unfold Dict.getD
  cases hget : d.get? task.stepId with
  | none => exact hrefl task
  | some task' =>
    obtain ⟨origin, hmem', hid, hrel⟩ := h task.stepId task' hget
    -- the steps are distinct, so the task it comes from is this one
    rw [← List.inj_on_of_nodup_map hnodup hmem' hmem hid]
    exact hrel

/-- After merging, the tasks of the dictionary are the record's own. -/
theorem TasksFrom.rebase (h : TasksFrom rel tasks d) (hstep : ∀ a b, rel a b → b.stepId = a.stepId) :
    TasksFrom SameSnapshot (mergeTasks tasks d) d := by
  intro id task hget
  obtain ⟨origin, hmem, hid, hrel⟩ := h id task hget
  refine ⟨task, List.mem_map.mpr ⟨origin, hmem, ?_⟩, (hstep _ _ hrel).trans hid, .refl task⟩
  rw [hid, Dict.getD, hget]
  rfl

/-- A task that the dictionary lists is stored under its step. -/
theorem mem_withStatus {status : WorkflowTaskStatus} {task : WorkflowTaskRecord}
    (hmem : task ∈ withStatus d status) : ∃ id, d.get? id = some task := by
  obtain ⟨hmem, -⟩ := List.mem_filter.mp hmem
  obtain ⟨⟨id, task'⟩, hentry, rfl⟩ := List.mem_map.mp hmem
  exact ⟨id, Dict.get?_of_mem hentry⟩

theorem mem_readyTasks {plan : RemediationPlan} {task : WorkflowTaskRecord}
    (hmem : task ∈ readyTasks plan d) : ∃ id, d.get? id = some task :=
  mem_withStatus (List.mem_filter.mp hmem).1

end TasksFrom

/-- The dictionary holds these tasks, each under its step. -/
structure TasksByStep (tasks : List WorkflowTaskRecord) (d : Dict String WorkflowTaskRecord) : Prop where
  get : ∀ task ∈ tasks, d.get? task.stepId = some task
  mem : ∀ {id task}, d.get? id = some task → task ∈ tasks ∧ task.stepId = id

section TasksByStep

variable {tasks results : List WorkflowTaskRecord} {d : Dict String WorkflowTaskRecord}
  {task : WorkflowTaskRecord}

theorem get?_foldl_set_of_notMem {id : String} (h : id ∉ results.map (·.stepId)) :
    (results.foldl (fun d task => d.set task.stepId task) d).get? id = d.get? id := by
  induction results generalizing d with
  | nil => rfl
  | cons result results ih =>
    rw [List.map_cons, List.mem_cons, not_or] at h
    rw [List.foldl_cons, ih h.2, Dict.get?_set_ne _ _ h.1]

theorem get?_foldl_set_of_mem (hnodup : (results.map (·.stepId)).Nodup) (h : task ∈ results) :
    (results.foldl (fun d task => d.set task.stepId task) d).get? task.stepId = some task := by
  induction results generalizing d with
  | nil => cases h
  | cons result results ih =>
    rw [List.map_cons, List.nodup_cons] at hnodup
    rw [List.foldl_cons]
    rcases List.mem_cons.mp h with rfl | h
    · rw [get?_foldl_set_of_notMem hnodup.1, Dict.get?_set_self]
    · exact ih hnodup.2 h

theorem tasksByStep_byStep (hnodup : (tasks.map (·.stepId)).Nodup) :
    TasksByStep tasks (byStep tasks) := by
  refine ⟨fun task h => get?_foldl_set_of_mem hnodup h, ?_⟩
  intro id task hget
  by_cases hid : id ∈ tasks.map (·.stepId)
  · obtain ⟨origin, hmem, rfl⟩ := List.mem_map.mp hid
    rw [byStep, get?_foldl_set_of_mem hnodup hmem] at hget
    cases hget
    exact ⟨hmem, rfl⟩
  · rw [byStep, get?_foldl_set_of_notMem hid] at hget
    cases hget

theorem TasksByStep.mem_withStatus (h : TasksByStep tasks d) {status : WorkflowTaskStatus} :
    task ∈ withStatus d status ↔ task ∈ tasks ∧ task.status = status := by
  unfold withStatus
  rw [List.mem_filter, List.mem_map, decide_eq_true_eq]
  constructor
  · rintro ⟨⟨⟨id, task'⟩, hentry, rfl⟩, hstatus⟩
    exact ⟨(h.mem (Dict.get?_of_mem hentry)).1, hstatus⟩
  · rintro ⟨hmem, hstatus⟩
    exact ⟨⟨(task.stepId, task), Dict.mem_of_get? (h.get task hmem), rfl⟩, hstatus⟩

end TasksByStep

variable [Sha256] {E : Type} {α : Type} {focus : Option ChangeEvent}
  {authorised : ChangeEvent → CoordinatorWorld E → Prop} {engine : WorkflowEngine E}
  {record : WorkflowExecutionRecord} {s : CoordinatorWorld E} {P : CoordinatorWorld E → Prop}

theorem works_ret {a : α} (hP : Lasting focus P) (hs : P s) :
    Works focus authorised (fun r t => P t ∧ r = .ok a) (.ret a) s :=
  fun t ht => ⟨hP s t hs ht, rfl⟩

theorem works_ofExcept {r : Except Exn α} (hP : Lasting focus P) (hs : P s) :
    Works focus authorised (fun r' t => P t ∧ r' = r) (Prog.ofExcept r) s :=
  Prog.RG.ofExcept fun t ht => ⟨hP s t hs ht, rfl⟩

theorem works_requirePlan (hP : Lasting focus P) (hs : P s) :
    Works focus authorised (fun r t => P t ∧ ∀ plan, r = .ok plan → record.plan = some plan)
      (requirePlan record) s := by
  unfold requirePlan
  cases hplan : record.plan with
  | none => exact fun t ht => raised (hP s t hs ht)
  | some plan =>
    refine fun t ht => ⟨hP s t hs ht, ?_⟩
    rintro _ ⟨⟩
    rfl

/-- The steps of a record with a plan are distinct: what is stored now still has them. -/
theorem Holding.nodup {w : CoordinatorWorld E} (h : Holding focus record w)
    (hplan : record.plan.isSome) : record.stepIds.Nodup := by
  obtain ⟨hc, stored, hstored, hext⟩ := h
  rw [WorkflowFields.stepIds, ← stepIds_of_keepsSnapshot (hext.tasks hplan)]
  exact hc.tasks _ _ hstored

/-! ## Capturing the snapshots -/

/-- What `_capture_snapshots` makes of a task: the task, or, if it has no snapshot, the task
with one that was captured. -/
def Captures (log : List RemoteEvent) (key : WorkflowKey) (task task' : WorkflowTaskRecord) : Prop :=
  task' = task ∨ (task.snapshotId = none ∧ task'.stepId = task.stepId ∧
    ∃ snapshotId snapshotHash, task'.snapshotId = some snapshotId ∧
      task'.snapshotHash = some snapshotHash ∧
      .snapshotCaptured key task.stepId snapshotId snapshotHash ∈ log)

omit [Sha256] in
theorem Captures.keeps {log : List RemoteEvent} {key : WorkflowKey}
    {task task' : WorkflowTaskRecord} (h : Captures log key task task') :
    KeepsSnapshot task task' := by
  rcases h with rfl | ⟨hnone, hstep, -⟩
  · exact .refl _
  · refine ⟨hstep, fun hsome => ?_⟩
    rw [hnone] at hsome
    cases hsome

omit [Sha256] in
theorem Captures.mono {log log' : List RemoteEvent} {key : WorkflowKey}
    {task task' : WorkflowTaskRecord} (h : Captures log key task task') (hlog : log <+: log') :
    Captures log' key task task' := by
  rcases h with rfl | ⟨hnone, hstep, snapshotId, snapshotHash, hid, hhash, hmem⟩
  · exact .inl rfl
  · exact .inr ⟨hnone, hstep, snapshotId, snapshotHash, hid, hhash, hlog.subset hmem⟩

/-- An answer of the snapshot service is noted when it is one. -/
def NotedSnapshot (key : WorkflowKey) (captured : WorkflowTaskRecord × Except Exn SnapshotRecord)
    (w : CoordinatorWorld E) : Prop :=
  ∀ snapshot, captured.2 = .ok snapshot → .snapshotCaptured key captured.1.stepId
    snapshot.snapshotId snapshot.configurationHash ∈ w.rest.log

theorem lasting_notedSnapshot (key : WorkflowKey)
    (captured : WorkflowTaskRecord × Except Exn SnapshotRecord) :
    Lasting (E := E) focus (NotedSnapshot key captured) :=
  fun _ _ h he snapshot heq => he.log.subset (h snapshot heq)

theorem works_captureSnapshot {task : WorkflowTaskRecord} (hP : Lasting focus P) (hs : P s) :
    Works focus authorised (fun r t => P t ∧ NotedSnapshot record.key (task, r) t)
      (engine.captureSnapshot record task) s := by
  refine (works_requestId hP hs).bind (fun requestId t ht => ?_)
    fun e t ht => raised ht
  refine (works_exchange ?_ hP ht).mono ?_
  · rintro (e | snapshot) event hmem
    · cases hmem
    · cases List.mem_singleton.mp hmem
      rfl
  · rintro r t ⟨hPt, answer, rfl, hnotes⟩
    refine ⟨hPt, fun snapshot heq => ?_⟩
    cases answer with
    | error e => cases heq
    | ok answered =>
      cases heq
      exact hnotes _ (List.mem_singleton.mpr rfl)

theorem works_storeSnapshot {tasks : Dict String WorkflowTaskRecord}
    {captured : WorkflowTaskRecord × Except Exn SnapshotRecord} (hP : Lasting focus P) (hs : P s)
    (hmissing : captured.1.snapshotId = none)
    (hnoted : NotedSnapshot record.key captured s) :
    Works focus authorised (fun r t => P t ∧ ∀ tasks', r = .ok tasks' → ∃ task',
        tasks' = tasks.set captured.1.stepId task' ∧ task'.snapshotId.isSome ∧
        Captures t.rest.log record.key captured.1 task')
      (engine.storeSnapshot record tasks captured) s := by
  obtain ⟨task, outcome⟩ := captured
  match outcome with
  | .error e =>
    have hraise : ∃ e', engine.storeSnapshot record tasks (task, .error e) = .raise e' := by
      unfold storeSnapshot
      split
      · exact ⟨_, rfl⟩
      · exact ⟨_, rfl⟩
      · next heq => cases heq
    obtain ⟨e', heq⟩ := hraise
    rw [heq]
    exact fun t ht => raised (hP _ _ hs ht)
  | .ok snapshot =>
    have hboth := hP.and (lasting_notedSnapshot record.key (task, Except.ok snapshot))
    refine (works_now engine.rt hboth ⟨hs, hnoted⟩).bind (fun updatedAt t ht => ?_)
      fun e t ht => raised ht.1
    refine (works_ofExcept hboth ht).bind (fun updated t ht => ?_)
      fun e t ht => raised ht.1.1
    obtain ⟨ht, hvalid⟩ := ht
    have hfields := TaskFields.modelValidate_of_ok hvalid.symm
    refine (works_recordAudit hboth ht).bind (fun _ t ht t' ht' => ?_)
      fun e t ht => raised ht.1
    obtain ⟨hPt, hnoted⟩ := hboth _ _ ht ht'
    refine ⟨hPt, ?_⟩
    rintro _ ⟨⟩
    refine ⟨updated, rfl, by rw [hfields]; rfl, .inr ⟨hmissing, by rw [hfields], ?_⟩⟩
    exact ⟨_, _, by rw [hfields], by rw [hfields], hnoted snapshot rfl⟩

/-- The captured snapshots, as far as they have been stored in the dictionary. -/
structure Capturing (record : WorkflowExecutionRecord) (tasks : Dict String WorkflowTaskRecord)
    (stored : List (WorkflowTaskRecord × Except Exn SnapshotRecord)) (log : List RemoteEvent) :
    Prop where
  tasksFrom : TasksFrom (Captures log record.key) record.tasks tasks
  stored : ∀ captured ∈ stored, ∃ task, tasks.get? captured.1.stepId = some task ∧
    task.snapshotId.isSome

theorem Capturing.mono {tasks : Dict String WorkflowTaskRecord}
    {stored : List (WorkflowTaskRecord × Except Exn SnapshotRecord)} {log log' : List RemoteEvent}
    (h : Capturing record tasks stored log) (hlog : log <+: log') :
    Capturing record tasks stored log' :=
  ⟨h.tasksFrom.mono fun _ _ hc => hc.mono hlog, h.stored⟩

theorem Capturing.set {tasks : Dict String WorkflowTaskRecord}
    {stored : List (WorkflowTaskRecord × Except Exn SnapshotRecord)} {log : List RemoteEvent}
    {captured : WorkflowTaskRecord × Except Exn SnapshotRecord} {task : WorkflowTaskRecord}
    (h : Capturing record tasks stored log) (hmem : captured.1 ∈ record.tasks)
    (hsome : task.snapshotId.isSome) (hcaptures : Captures log record.key captured.1 task) :
    Capturing record (tasks.set captured.1.stepId task) (stored ++ [captured]) log := by
  refine ⟨h.tasksFrom.set hmem hcaptures, fun earlier hearlier => ?_⟩
  rw [Dict.get?_set]
  split_ifs with hstep
  · exact ⟨task, rfl, hsome⟩
  · rcases List.mem_append.mp hearlier with hold | hnew
    · exact h.stored earlier hold
    · exact absurd (congrArg (·.1.stepId) (List.mem_singleton.mp hnew)) hstep

/-- When the snapshots of all the missing tasks are stored, no merged task lacks one. -/
theorem Capturing.hasSnapshots {tasks : Dict String WorkflowTaskRecord}
    {stored : List (WorkflowTaskRecord × Except Exn SnapshotRecord)} {log : List RemoteEvent}
    (h : Capturing record tasks stored log) (hnodup : record.stepIds.Nodup)
    (hall : ∀ task ∈ record.tasks, task.snapshotId = none → ∃ captured ∈ stored, captured.1 = task) :
    ∀ task ∈ mergeTasks record.tasks tasks, task.snapshotId.isSome := by
  intro merged hmerged
  obtain ⟨task, hmem, rfl⟩ := List.mem_map.mp hmerged
  cases hid : task.snapshotId with
  | none =>
    obtain ⟨captured, hcaptured, rfl⟩ := hall task hmem hid
    obtain ⟨task', hget, hsome⟩ := h.stored captured hcaptured
    rw [Dict.getD, hget]
    exact hsome
  | some snapshotId =>
    rw [Dict.getD]
    cases hget : tasks.get? task.stepId with
    | none =>
      rw [Option.getD_none, hid]
      rfl
    | some task' =>
      obtain ⟨origin, horigin, hstep, hcaptures⟩ := h.tasksFrom _ _ hget
      rw [List.inj_on_of_nodup_map hnodup horigin hmem hstep] at hcaptures
      rw [Option.getD_some, (hcaptures.keeps.2 (by rw [hid]; rfl)).1, hid]
      rfl

/-- The merged tasks were captured in time: a task is missing, so nobody has called the
gateway for this workflow yet. -/
theorem Capturing.captured {tasks : Dict String WorkflowTaskRecord}
    {stored : List (WorkflowTaskRecord × Except Exn SnapshotRecord)} {w : CoordinatorWorld E}
    (h : Capturing record tasks stored w.rest.log) (hc : Consistent focus w)
    (hrecord : w.workflow? record.key = some record)
    (hmissing : ∃ task ∈ record.tasks, task.snapshotId = none) :
    SnapshotsCaptured w.rest.log record.key (mergeTasks record.tasks tasks) := by
  have huncalled : ∀ step, .executeCalled record.key step ∉ w.rest.log := by
    intro step hcalled
    obtain ⟨stored', hstored', -, hall⟩ := hc.snapshots.called _ _ hcalled
    rw [hrecord] at hstored'
    cases hstored'
    obtain ⟨task, hmem, hnone⟩ := hmissing
    have hsome := hall task hmem
    rw [hnone] at hsome
    cases hsome
  have hmerged := h.tasksFrom.merge (fun task => .inl rfl) (hc.tasks _ _ hrecord)
  intro task' hmem snapshotId snapshotHash hid hhash
  obtain ⟨task, htask, hcaptures⟩ := exists_of_mem_forall₂ hmerged hmem
  rcases hcaptures with rfl | ⟨-, hstep, id, hash, hid', hhash', hnoted⟩
  · exact hc.snapshots.captured _ _ hrecord _ htask snapshotId snapshotHash hid hhash
  · rw [hid'] at hid
    rw [hhash'] at hhash
    cases hid
    cases hhash
    rw [hstep]
    exact ⟨w.rest.log, [], by simp, hnoted, huncalled⟩

/-- The loop over the captured snapshots. -/
theorem works_storeSnapshots
    {captured : List (WorkflowTaskRecord × Except Exn SnapshotRecord)} (hP : Lasting focus P)
    (hs : P s) (hmissing : ∀ c ∈ captured, c.1 ∈ record.tasks ∧ c.1.snapshotId = none)
    (hnoted : ∀ c ∈ captured, NotedSnapshot record.key c s) :
    Works focus authorised (fun r t => P t ∧ ∀ tasks, r = .ok tasks →
        Capturing record tasks captured t.rest.log)
      (Prog.foldlP (engine.storeSnapshot record) (byStep record.tasks) captured) s := by
  have hnotes : Lasting focus fun t => P t ∧ ∀ c ∈ captured, NotedSnapshot record.key c t :=
    fun t t' ht he => ⟨hP _ _ ht.1 he, fun c hc => lasting_notedSnapshot _ c _ _ (ht.2 c hc) he⟩
  refine Prog.RG.foldlP (I := fun tasks stored t =>
    (P t ∧ ∀ c ∈ captured, NotedSnapshot record.key c t) ∧
      Capturing record tasks stored t.rest.log) ?_ ?_ ?_ ⟨⟨hs, hnoted⟩, ?_⟩
  · exact fun tasks stored t t' ht he => ⟨hnotes _ _ ht.1 he, ht.2.mono he.log⟩
  · intro tasks stored c after t hsplit ht
    have hc : c ∈ captured := by simp [hsplit]
    have hlasting : Lasting focus fun t' => (P t' ∧ ∀ c ∈ captured, NotedSnapshot record.key c t') ∧
        Capturing record tasks stored t'.rest.log :=
      fun t t' ht he => ⟨hnotes _ _ ht.1 he, ht.2.mono he.log⟩
    refine (works_storeSnapshot hlasting ht (hmissing c hc).2 (ht.1.2 c hc)).mono ?_
    rintro (e | tasks') t' ⟨ht', hok⟩
    · exact raised ht'.1.1
    · obtain ⟨task', rfl, hsome, hcaptures⟩ := hok tasks' rfl
      exact ⟨ht'.1, ht'.2.set (hmissing c hc).1 hsome hcaptures⟩
  · rintro tasks t ⟨ht, hcapturing⟩
    refine ⟨ht.1, ?_⟩
    rintro _ ⟨⟩
    exact hcapturing
  · exact ⟨tasksFrom_byStep fun task => .inl rfl, fun _ h => nomatch h⟩

/-- Storing the record with the captured snapshots. -/
theorem works_updateCaptured {tasks : Dict String WorkflowTaskRecord}
    {captured : List (WorkflowTaskRecord × Except Exn SnapshotRecord)} (hP : Lasting focus P)
    (hs : P s) (hheld : Holding focus record s) (hplan : record.plan.isSome)
    (hmissing : ∃ task ∈ record.tasks, task.snapshotId = none)
    (hcapturing : Capturing record tasks captured s.rest.log)
    (hall : ∀ task ∈ record.tasks, task.snapshotId = none → ∃ c ∈ captured, c.1 = task) :
    Works focus authorised (fun r t => P t ∧ ∀ updated, r = .ok updated →
        Holding focus updated t ∧ Extends record updated ∧ HasSnapshots updated)
      (engine.updateRecord record fun fields =>
        { fields with tasks := mergeTasks record.tasks tasks }) s := by
  have hlasting : Lasting focus fun t => P t ∧ Capturing record tasks captured t.rest.log :=
    fun t t' ht he => ⟨hP _ _ ht.1 he, ht.2.mono he.log⟩
  refine (works_updateRecord hlasting ⟨hs, hcapturing⟩ hheld rfl ?_ ?_).mono ?_
  · intro hnodup
    have htasks := (hcapturing.tasksFrom.mono fun _ _ h => h.keeps).merge .refl hnodup
    refine ⟨fun _ => ⟨rfl, rfl⟩, fun _ => htasks, ?_⟩
    rw [WorkflowFields.stepIds, stepIds_of_keepsSnapshot htasks]
    exact hnodup
  · exact fun t ht hc hrecord => ht.2.captured hc hrecord hmissing
  · rintro r t ⟨ht, hok⟩
    refine ⟨ht.1, fun updated heq => ?_⟩
    obtain ⟨hheld', hupdated, hext⟩ := hok updated heq
    refine ⟨hheld', hext, ?_⟩
    unfold HasSnapshots
    rw [hupdated.tasks]
    exact hcapturing.hasSnapshots (hheld.nodup hplan) hall

/-- **The rule of `_capture_snapshots`.** -/
theorem works_captureSnapshots (hP : Lasting focus P) (hs : P s) (hheld : Holding focus record s)
    (hplan : record.plan.isSome) :
    Works focus authorised (fun r t => P t ∧ ∀ updated, r = .ok updated →
        Holding focus updated t ∧ Extends record updated ∧ HasSnapshots updated)
      (engine.captureSnapshots record) s := by
  unfold captureSnapshots
  have hboth := hP.and (lasting_holding focus record)
  have hmem : ∀ task, task ∈ record.tasks.filter (fun task => task.snapshotId.isNone) ↔
      task ∈ record.tasks ∧ task.snapshotId = none := by
    simp [List.mem_filter]
  dsimp only
  split_ifs with hall
  · refine (works_ret hboth ⟨hs, hheld⟩).mono ?_
    rintro r t ⟨ht, rfl⟩
    refine ⟨ht.1, ?_⟩
    rintro _ ⟨⟩
    refine ⟨ht.2, .refl record, fun task htask => ?_⟩
    cases hid : task.snapshotId with
    | some snapshotId => rfl
    | none =>
      have := (hmem task).mpr ⟨htask, hid⟩
      rw [hall] at this
      cases this
  · obtain ⟨first, hfirst⟩ := List.exists_mem_of_ne_nil _ hall
    have hmissing : ∃ task ∈ record.tasks, task.snapshotId = none :=
      ⟨first, (hmem first).mp hfirst⟩
    have hcapture : ∀ task ∈ record.tasks.filter (fun task => task.snapshotId.isNone),
        Works focus authorised (fun r t => (P t ∧ Holding focus record t) ∧
          NotedSnapshot record.key (task, r) t) (engine.captureSnapshot record task) s :=
      fun task _ => works_captureSnapshot hboth ⟨hs, hheld⟩
    have hGR : ∀ a b, WorksWithin focus authorised a b → Evolves focus a b := fun _ _ h => h.evolves
    refine ((Prog.RG.gather hGR hcapture).path hGR).bind ?_ fun e t ht => ?_
    · rintro outcomes t ⟨⟨_, heq, hnoted⟩, hst⟩
      cases heq
      obtain ⟨hlength, hnoted⟩ := List.forall₂_iff_zip.mp hnoted
      refine (works_storeSnapshots hboth (hboth _ _ ⟨hs, hheld⟩ hst) (fun c hc => ?_)
        fun c hc => (hnoted hc).2).bind (fun tasks t ht => ?_) fun e t ht => ?_
      · exact (hmem c.1).mp (List.of_mem_zip hc).1
      · obtain ⟨⟨hPt, hheld⟩, hcapturing⟩ := ht
        refine works_updateCaptured hP hPt hheld hplan hmissing (hcapturing tasks rfl) ?_
        intro task htask hnone
        have hin := (hmem task).mpr ⟨htask, hnone⟩
        rw [← List.map_fst_zip hlength.le] at hin
        obtain ⟨c, hc, rfl⟩ := List.mem_map.mp hin
        exact ⟨c, hc, rfl⟩
      · exact raised ht.1.1
    · obtain ⟨⟨_, heq, -⟩, -⟩ := ht
      cases heq

/-! ## Executing the plan -/

/-- A run holds the record with its plan and its snapshots: it may call the gateway. -/
structure Ready (focus : Option ChangeEvent) (record : WorkflowExecutionRecord)
    (w : CoordinatorWorld E) : Prop where
  held : Holding focus record w
  plan : record.plan.isSome
  snapshots : HasSnapshots record

theorem lasting_ready (focus : Option ChangeEvent) (record : WorkflowExecutionRecord) :
    Lasting (E := E) focus (Ready focus record) :=
  fun t t' h he => ⟨lasting_holding focus record t t' h.held he, h.plan, h.snapshots⟩

/-- A record that extends a ready one is ready too. -/
theorem Ready.next {record' : WorkflowExecutionRecord} {w : CoordinatorWorld E}
    (h : Ready focus record w) (hheld : Holding focus record' w) (hext : Extends record record') :
    Ready focus record' w := by
  refine ⟨hheld, ?_, hext.hasSnapshots h.plan h.snapshots⟩
  rw [(hext.plan h.plan).1]
  exact h.plan

/-- The gateway call of a ready run. -/
theorem works_noteExecute {step : String} (hP : Lasting focus P)
    (hready : ∀ t, P t → Ready focus record t) (hs : P s) :
    Works focus authorised (fun _ t => P t) (note (.executeCalled record.key step)) s := by
  refine Prog.RG.atomic fun t ht => ?_
  have hPt := hP _ _ hs ht
  obtain ⟨⟨-, stored, hstored, hext⟩, hplan, hsnapshots⟩ := hready t hPt
  have hevolves : Evolves focus t { t with rest := { t.rest with
      log := t.rest.log ++ [.executeCalled record.key step] } } := by
    refine evolves_of_noted ⟨rfl, rfl, rfl⟩ fun key step' hmem => ?_
    cases List.mem_singleton.mp hmem
    -- what is stored extends the held record, so it has the snapshots too
    refine ⟨stored, hstored, ?_, hext.hasSnapshots hplan hsnapshots⟩
    rw [(hext.plan hplan).1]
    exact hplan
  exact ⟨worksWithin_of_evolves hevolves rfl, fun t' ht' => hP _ _ (hP _ _ hPt hevolves) ht'⟩

section ExecuteTask

variable {plan : RemediationPlan} {approvalId : String} {task : WorkflowTaskRecord}
  {step : RemediationStep}

/-- Validating the document of a task that keeps its snapshot. -/
theorem works_validateTask {fields : TaskFields} (hP : Lasting focus P) (hs : P s)
    (hstep : fields.stepId = task.stepId) (hid : fields.snapshotId = task.snapshotId)
    (hhash : fields.snapshotHash = task.snapshotHash) :
    Works focus authorised (fun r t => P t ∧ ∀ task', r = .ok task' → SameSnapshot task task')
      (Prog.ofExcept fields.modelValidate) s := by
  refine (works_ofExcept hP hs).mono ?_
  rintro r t ⟨ht, hr⟩
  refine ⟨ht, fun task' hok => ?_⟩
  have hfields := TaskFields.modelValidate_of_ok (hr.symm.trans hok)
  rw [SameSnapshot, hfields]
  exact ⟨hstep, hid, hhash⟩

theorem works_attemptTask {attempt : Nat} (hP : Lasting focus P)
    (hready : ∀ t, P t → Ready focus record t) (hs : P s) :
    Works focus authorised (fun r t => P t ∧ ∀ task', r = .ok task' → SameSnapshot task task')
      (engine.attemptTask record plan approvalId task step attempt) s := by
  refine (works_now engine.rt hP hs).bind (fun requestedAt t ht => ?_) fun e t ht => raised ht
  refine (works_requestId hP ht).bind (fun requestId t ht => ?_) fun e t ht => raised ht
  refine (works_noteExecute hP hready ht).bind (fun _ t ht => ?_) fun e t ht => raised ht
  refine (works_ofExcept hP ht).bind (fun intent t ht => ?_) fun e t ht => raised ht.1
  refine (works_remotely _ hP ht.1).bind (fun result t ht => ?_) fun e t ht => raised ht
  refine (works_recordAudit hP ht).bind (fun _ t ht => ?_) fun e t ht => raised ht
  refine (works_now engine.rt hP ht).bind (fun updatedAt t ht => ?_) fun e t ht => raised ht
  exact works_validateTask hP ht rfl rfl rfl

theorem works_failTask {attempt : Nat} {code : String} (hP : Lasting focus P) (hs : P s) :
    Works focus authorised (fun r t => P t ∧ ∀ task', r = .ok task' → SameSnapshot task task')
      (engine.failTask record task step attempt code) s := by
  refine (works_recordAudit hP hs).bind (fun _ t ht => ?_) fun e t ht => raised ht
  refine (works_now engine.rt hP ht).bind (fun updatedAt t ht => ?_)
    fun e t ht => raised ht
  exact works_validateTask hP ht rfl rfl rfl

theorem works_executeAttempts (hP : Lasting focus P) (hready : ∀ t, P t → Ready focus record t)
    {retries attempt : Nat} (hs : P s) :
    Works focus authorised (fun r t => P t ∧ ∀ task', r = .ok task' → SameSnapshot task task')
      (engine.executeAttempts record plan approvalId task step retries attempt) s := by
  induction retries generalizing attempt s with
  | zero =>
    refine (works_attemptTask hP hready hs).tryCatch (fun _ _ h => h) fun e t ht => ?_
    split
    · exact works_failTask hP ht.1
    · exact fun t' ht' => raised (hP _ _ ht.1 ht')
  | succ retries ih =>
    refine (works_attemptTask hP hready hs).tryCatch (fun _ _ h => h) fun e t ht => ?_
    split
    · refine (works_note rfl hP ht.1).bind (fun _ t ht => ?_) fun e t ht => raised ht
      refine (works_recordAudit hP ht).bind (fun _ t ht => ?_) fun e t ht => raised ht
      exact (works_ofExcept hP ht).bind (fun _ t ht => ih ht.1) fun e t ht => raised ht.1
    · exact works_failTask hP ht.1
    · exact fun t' ht' => raised (hP _ _ ht.1 ht')

theorem works_executeTask (hP : Lasting focus P) (hready : ∀ t, P t → Ready focus record t)
    (hs : P s) :
    Works focus authorised (fun r t => P t ∧ ∀ task', r = .ok task' → SameSnapshot task task')
      (engine.executeTask record task step) s := by
  refine (works_requirePlan hP hs).bind (fun plan t ht => ?_)
    fun e t ht => raised ht.1
  cases record.approvalId with
  | none => exact fun t' ht' => raised (hP _ _ ht.1 ht')
  | some approvalId => exact works_executeAttempts hP hready ht.1

end ExecuteTask

theorem works_stepById {plan : RemediationPlan} {stepId : String} (hP : Lasting focus P)
    (hs : P s) : Works focus authorised (fun _ t => P t) (stepById plan stepId) s := by
  unfold stepById
  split <;> exact fun t ht => hP _ _ hs ht

/-- The tasks of a wave, side by side. -/
theorem works_executeReady {plan : RemediationPlan} {ready : List WorkflowTaskRecord}
    (hP : Lasting focus P) (hready : ∀ t, P t → Ready focus record t) (hs : P s) :
    Works focus authorised (fun r t => P t ∧ ∀ results, r = .ok results →
        List.Forall₂ SameSnapshot ready results)
      (Prog.gatherAll (ready.map fun task => do
        let step ← stepById plan task.stepId
        engine.executeTask record task step)) s := by
  have hGR : ∀ a b, WorksWithin focus authorised a b → Evolves focus a b := fun _ _ h => h.evolves
  have htask : ∀ task ∈ ready, Works focus authorised
      (fun r t => P t ∧ ∀ task', r = .ok task' → SameSnapshot task task')
      (do let step ← stepById plan task.stepId
          engine.executeTask record task step) s := by
    intro task _
    refine (works_stepById hP hs).bind (fun step t ht => ?_) fun e t ht => raised ht
    exact works_executeTask hP hready ht
  refine ((Prog.RG.gatherAll hGR htask).path hGR).mono ?_
  rintro r t ⟨hok, hst⟩
  refine ⟨hP _ _ hs hst, fun results heq => ?_⟩
  exact (hok results heq).imp fun task task' h => h.2 task' rfl

/-- One round of `_execute_dag`, given the rule of the rounds after it. -/
theorem works_executeWave {plan : RemediationPlan}
    {next : WorkflowExecutionRecord → Dict String WorkflowTaskRecord →
      WorkflowEngine.Run E WorkflowExecutionRecord}
    (hP : Lasting focus P)
    (hnext : ∀ record tasks s, P s → Ready focus record s →
      TasksFrom SameSnapshot record.tasks tasks →
      Works focus authorised (fun r t => P t ∧ ∀ updated, r = .ok updated →
        Ready focus updated t ∧ Extends record updated) (next record tasks) s)
    {tasks : Dict String WorkflowTaskRecord} (hs : P s) (hready : Ready focus record s)
    (hfrom : TasksFrom SameSnapshot record.tasks tasks) :
    Works focus authorised (fun r t => P t ∧ ∀ updated, r = .ok updated →
        Ready focus updated t ∧ Extends record updated)
      (engine.executeWave plan next record tasks) s := by
  have hboth := hP.and (lasting_ready focus record)
  unfold executeWave
  dsimp only
  split_ifs with hpending hblocked
  · refine (works_ret hboth ⟨hs, hready⟩).mono ?_
    rintro r t ⟨ht, rfl⟩
    refine ⟨ht.1, ?_⟩
    rintro _ ⟨⟩
    exact ⟨ht.2, .refl record⟩
  · exact fun t ht => raised (hP _ _ hs ht)
  · refine (works_executeReady hboth (fun _ h => h.2) ⟨hs, hready⟩).bind (fun results t ht => ?_)
      fun e t ht => raised ht.1.1
    obtain ⟨⟨hPt, hready⟩, hresults⟩ := ht
    replace hresults := hresults results rfl
    -- each result comes from a task of the record
    have hfrom' : TasksFrom SameSnapshot record.tasks
        (results.foldl (fun d task => d.set task.stepId task) tasks) := by
      refine hfrom.foldl_set results fun task' hmem' => ?_
      obtain ⟨task, hmem, hsame⟩ := exists_of_mem_forall₂ hresults hmem'
      obtain ⟨id, hget⟩ := mem_readyTasks hmem
      obtain ⟨origin, horigin, -, hsame'⟩ := hfrom id task hget
      exact ⟨origin, horigin, (hsame'.trans hsame).1.symm, hsame'.trans hsame⟩
    refine (works_rewrite hboth ⟨hPt, hready⟩ hready.held rfl fun hnodup => ?_).bind
      (fun updated t ht => ?_) fun e t ht => raised ht.1.1
    · exact ⟨rfl, rfl, hfrom'.merge .refl hnodup⟩
    · obtain ⟨⟨hPt, hready⟩, hok⟩ := ht
      obtain ⟨hheld', hupdated, hext⟩ := hok updated rfl
      have hready' := hready.next hheld' hext
      split_ifs with hfailed
      · refine (works_ret (hP.and (lasting_ready focus updated)) ⟨hPt, hready'⟩).mono ?_
        rintro r t ⟨ht, rfl⟩
        refine ⟨ht.1, ?_⟩
        rintro _ ⟨⟩
        exact ⟨ht.2, hext⟩
      · refine (hnext updated _ t hPt hready' ?_).mono ?_
        · rw [hupdated.tasks]
          exact hfrom'.rebase fun _ _ h => h.1
        · rintro r t ⟨hPt, hok⟩
          refine ⟨hPt, fun last heq => ?_⟩
          obtain ⟨hready'', hext'⟩ := hok last heq
          exact ⟨hready'', hext.trans hext'⟩

theorem works_executeWaves {plan : RemediationPlan} (hP : Lasting focus P) {waves : Nat}
    {tasks : Dict String WorkflowTaskRecord} (hs : P s) (hready : Ready focus record s)
    (hfrom : TasksFrom SameSnapshot record.tasks tasks) :
    Works focus authorised (fun r t => P t ∧ ∀ updated, r = .ok updated →
        Ready focus updated t ∧ Extends record updated)
      (engine.executeWaves plan waves record tasks) s := by
  induction waves generalizing record tasks s with
  | zero =>
    refine works_executeWave hP (fun record tasks s hs _ _ => ?_) hs hready hfrom
    exact fun t ht => raised (hP _ _ hs ht)
  | succ waves ih =>
    exact works_executeWave hP (fun record tasks s hs hready hfrom => ih hs hready hfrom)
      hs hready hfrom

theorem works_executeDag (hP : Lasting focus P) (hs : P s) (hready : Ready focus record s) :
    Works focus authorised (fun r t => P t ∧ ∀ updated, r = .ok updated →
        Ready focus updated t ∧ Extends record updated) (engine.executeDag record) s := by
  refine (works_requirePlan (hP.and (lasting_ready focus record)) ⟨hs, hready⟩).bind
    (fun plan t ht => ?_) fun e t ht => raised ht.1.1
  exact works_executeWaves hP ht.1.1 ht.1.2 (tasksFrom_byStep .refl)

/-! ## Verification and compensation -/

theorem works_attemptVerify {task : WorkflowTaskRecord} {expected : String}
    (hP : Lasting focus P) (hs : P s) :
    Works focus authorised (fun _ t => P t) (engine.attemptVerify record task expected) s := by
  refine (works_requestId hP hs).bind (fun requestId t ht => ?_) fun e t ht => ht
  refine (works_exchange ?_ hP ht).bind (fun result t ht => ?_) fun e t ht => ht.1
  · rintro (e | result) event hmem
    · cases hmem
    · cases List.mem_singleton.mp hmem
      rfl
  · refine (works_recordAudit hP ht.1).bind (fun _ t ht => ?_) fun e t ht => ht
    exact fun t' ht' => hP _ _ ht ht'

theorem works_verifyAttempts {task : WorkflowTaskRecord} {expected : String}
    {retries attempt : Nat} (hP : Lasting focus P) (hs : P s) :
    Works focus authorised (fun _ t => P t)
      (engine.verifyAttempts record task expected retries attempt) s := by
  induction retries generalizing attempt s with
  | zero => exact works_attemptVerify hP hs
  | succ retries ih =>
    refine (works_attemptVerify hP hs).tryCatch (fun _ _ h => h) fun e t ht => ?_
    split
    · exact (works_ofExcept hP ht).bind (fun _ t ht => ih ht.1) fun e t ht => ht.1
    · exact fun t' ht' => hP _ _ ht ht'

theorem works_verifyTask {plan : RemediationPlan} {task : WorkflowTaskRecord}
    (hP : Lasting focus P) (hs : P s) :
    Works focus authorised (fun _ t => P t) (engine.verifyTask record plan task) s := by
  refine (works_stepById hP hs).bind (fun step t ht => ?_) fun e t ht => ht
  split
  · exact works_verifyAttempts hP ht
  · exact fun t' ht' => hP _ _ ht ht'

theorem works_verify (hP : Lasting focus P) (hs : P s) :
    Works focus authorised (fun _ t => P t) (engine.verify record) s := by
  have hGR : ∀ a b, WorksWithin focus authorised a b → Evolves focus a b := fun _ _ h => h.evolves
  refine (works_requirePlan hP hs).bind (fun plan t ht => ?_) fun e t ht => ht.1
  have hverify : ∀ task ∈ record.tasks, Works focus authorised (fun _ t => P t)
      (engine.verifyTask record plan task) t := fun task _ => works_verifyTask hP ht.1
  refine ((Prog.RG.gather hGR hverify).path hGR).bind (fun results t' ht' => ?_)
    fun e t' ht' => hP _ _ ht.1 ht'.2
  exact fun t'' ht'' => hP _ _ (hP _ _ ht.1 ht'.2) ht''

theorem works_settleTask {task : WorkflowTaskRecord} {status : WorkflowTaskStatus}
    {code : Option String} (hP : Lasting focus P) (hs : P s) :
    Works focus authorised (fun r t => P t ∧ ∀ task', r = .ok task' → SameSnapshot task task')
      (engine.settleTask task status code) s := by
  refine (works_now engine.rt hP hs).bind (fun updatedAt t ht => ?_) fun e t ht => raised ht
  exact works_validateTask hP ht rfl rfl rfl

theorem works_restoreTask {task : WorkflowTaskRecord} {snapshotId snapshotHash : String}
    (hP : Lasting focus P) (hs : P s) :
    Works focus authorised (fun r t => P t ∧ ∀ task', r = .ok task' → SameSnapshot task task')
      (engine.restoreTask record task snapshotId snapshotHash) s := by
  refine (works_requestId hP hs).bind (fun restoreId t ht => ?_) fun e t ht => raised ht
  refine (works_exchange ?_ hP ht).bind (fun _ t ht => ?_) fun e t ht => raised ht.1
  · intro answer event hmem
    cases List.mem_singleton.mp hmem
    rfl
  refine (works_requestId hP ht.1).bind (fun configurationId t ht => ?_) fun e t ht => raised ht
  refine (works_exchange (by simp) hP ht).bind (fun document t ht => ?_) fun e t ht => raised ht.1
  dsimp only
  split_ifs
  · exact fun t' ht' => raised (hP _ _ ht.1 ht')
  · refine (works_settleTask hP ht.1).bind (fun restored t ht => ?_) fun e t ht => raised ht.1
    have hsame := ht.2 restored rfl
    refine (works_recordAudit hP ht.1).bind (fun _ t ht t' ht' => ⟨hP _ _ ht ht', ?_⟩)
      fun e t ht => raised ht
    rintro _ ⟨⟩
    exact hsame

/-- A round of the compensation loop keeps the tasks with their snapshots. -/
theorem works_rollbackTask {state : Dict String WorkflowTaskRecord × Bool}
    {task : WorkflowTaskRecord} (hP : Lasting focus P) (hs : P s) (hmem : task ∈ record.tasks)
    (hfrom : TasksFrom SameSnapshot record.tasks state.1) :
    Works focus authorised (fun r t => P t ∧ ∀ state', r = .ok state' →
        TasksFrom SameSnapshot record.tasks state'.1)
      (engine.rollbackTask record state task) s := by
  unfold rollbackTask
  split
  · next snapshotId snapshotHash _ _ =>
    have hrestore : Works focus authorised (fun r t => P t ∧ ∀ state', r = .ok state' →
        TasksFrom SameSnapshot record.tasks state'.1) (do
          let restored ← engine.restoreTask record task snapshotId snapshotHash
          return (state.1.set task.stepId restored, state.2)) s := by
      refine (works_restoreTask hP hs).bind (fun restored t ht t' ht' => ⟨hP _ _ ht.1 ht', ?_⟩)
        fun e t ht => raised ht.1
      rintro _ ⟨⟩
      exact hfrom.set hmem (ht.2 restored rfl)
    refine hrestore.tryCatch (fun _ _ h => h) fun e t ht => ?_
    split
    · refine (works_settleTask hP ht.1).bind (fun failed t ht => ?_) fun e t ht => raised ht.1
      have hsame := ht.2 failed rfl
      refine (works_recordAudit hP ht.1).bind (fun _ t ht t' ht' => ⟨hP _ _ ht ht', ?_⟩)
        fun e t ht => raised ht
      rintro _ ⟨⟩
      exact hfrom.set hmem hsame
    · exact fun t' ht' => raised (hP _ _ ht.1 ht')
  · refine (works_settleTask hP hs).bind (fun failed t ht t' ht' => ⟨hP _ _ ht.1 ht', ?_⟩)
      fun e t ht => raised ht.1
    rintro _ ⟨⟩
    exact hfrom.set hmem (ht.2 failed rfl)

omit [Sha256] in
theorem mem_rollbackOrder {plan : RemediationPlan} {task : WorkflowTaskRecord}
    {tasks : List WorkflowTaskRecord} : task ∈ rollbackOrder plan tasks ↔ task ∈ tasks :=
  (List.perm_insertionSort _ tasks).mem_iff

theorem works_rollbackTasks {plan : RemediationPlan} (hP : Lasting focus P) (hs : P s) :
    Works focus authorised (fun r t => P t ∧ ∀ state, r = .ok state →
        TasksFrom SameSnapshot record.tasks state.1)
      (Prog.foldlP (engine.rollbackTask record) (byStep record.tasks, false)
        (rollbackOrder plan record.tasks)) s := by
  refine Prog.RG.foldlP
    (I := fun state _ t => P t ∧ TasksFrom SameSnapshot record.tasks state.1) ?_ ?_ ?_
    ⟨hs, tasksFrom_byStep .refl⟩
  · exact fun state _ t t' ht he => ⟨hP _ _ ht.1 he, ht.2⟩
  · intro state before task after t hsplit ht
    have hmem : task ∈ record.tasks := by
      rw [← @mem_rollbackOrder plan, hsplit]
      exact List.mem_append_right _ List.mem_cons_self
    refine (works_rollbackTask hP ht.1 hmem ht.2).mono ?_
    rintro (e | state') t' ⟨hPt, hok⟩
    · exact raised hPt
    · exact ⟨hPt, hok state' rfl⟩
  · rintro state t ⟨hPt, hfrom⟩
    refine ⟨hPt, ?_⟩
    rintro _ ⟨⟩
    exact hfrom

/-- A run that executes an approved plan: it is ready, and the change carries the plan. -/
structure Underway (focus : Option ChangeEvent) (record : WorkflowExecutionRecord)
    (w : CoordinatorWorld E) : Prop where
  ready : Ready focus record w
  bound : BoundFor focus record w

theorem lasting_underway (focus : Option ChangeEvent) (record : WorkflowExecutionRecord) :
    Lasting (E := E) focus (Underway focus record) :=
  fun t t' h he => ⟨lasting_ready focus record t t' h.ready he,
    lasting_boundFor focus record t t' h.bound he⟩

theorem BoundFor.of_key {record' : WorkflowExecutionRecord} {w : CoordinatorWorld E}
    (h : BoundFor focus record w) (hkey : record'.key = record.key) : BoundFor focus record' w := by
  obtain ⟨htenant, hchange, -⟩ := Prod.mk.inj hkey |>.imp id Prod.mk.inj
  intro event hmem hevent
  refine h event hmem (hevent.trans ?_)
  rw [htenant, hchange]

theorem Underway.next {record' : WorkflowExecutionRecord} {w : CoordinatorWorld E}
    (h : Underway focus record w) (hheld : Holding focus record' w) (hext : Extends record record') :
    Underway focus record' w :=
  ⟨h.ready.next hheld hext, h.bound.of_key hext.key⟩

/-- A transition of a run that executes, to any state but `EXECUTING`. -/
theorem works_transitionUnderway {target : WorkflowState} (htarget : target ≠ .EXECUTING)
    (hs : Underway focus record s) :
    Works focus authorised (fun r t => ∀ updated, r = .ok updated → Underway focus record t)
      (engine.transition record target {}) s := by
  refine (works_transitionPlain (lasting_underway focus record) hs ?_ ?_ ?_).mono ?_
  · exact fun t _ ht _ _ => .inr ht.bound
  · exact fun heq => absurd heq htarget
  · exact fun t ht => ht.ready.held.consistent
  · exact fun r t hok updated heq => (hok updated heq).1

/-- An update of a run that executes leads to the next record. -/
theorem Underway.of_succeed {r : Except Exn WorkflowExecutionRecord} {t : CoordinatorWorld E}
    (h : Underway focus record t ∧ ∀ updated, r = .ok updated →
      Holding focus updated t ∧ Successor record updated) :
    ∀ updated, r = .ok updated → Underway focus updated t :=
  fun updated heq => h.1.next (h.2 updated heq).1 (h.2 updated heq).2.extends_

theorem works_rollback {originalError : String} (hs : Underway focus record s) :
    Works focus authorised (fun _ _ => True) (engine.rollback record originalError) s := by
  have hunderway := lasting_underway (E := E) focus
  have hread : Works focus authorised (fun _ t => Underway focus record t)
      (getChange record.tenantId record.changeId) s :=
    works_quiet (fun t => Quiet.refl t) (hunderway record) hs
  refine hread.bind (fun change t ht => ?_) fun _ _ _ => trivial
  have hrolling : Works focus authorised
      (fun r t => ∀ updated, r = .ok updated → Underway focus record t)
      (engine.transitionFrom [.EXECUTING, .VERIFYING] record change .ROLLING_BACK {}) t := by
    unfold transitionFrom
    split_ifs
    · exact works_transitionUnderway (by decide) ht
    · exact fun t' ht' _ _ => hunderway record _ _ ht ht'
  refine hrolling.bind (fun change' t ht => ?_) fun _ _ _ => trivial
  refine (works_setRuntimeStatus (hunderway record) (ht _ rfl) (ht _ rfl).ready.held).bind
    (fun record₁ t ht => ?_) fun _ _ _ => trivial
  replace ht := Underway.of_succeed ht _ rfl
  refine (works_requirePlan (hunderway record₁) ht).bind (fun plan t ht => ?_) fun _ _ _ => trivial
  refine (works_rollbackTasks (hunderway record₁) ht.1).bind (fun state t ht => ?_)
    fun _ _ _ => trivial
  refine (works_rewrite (hunderway record₁) ht.1 ht.1.ready.held rfl fun hnodup =>
    ⟨rfl, rfl, (ht.2 state rfl).merge .refl hnodup⟩).bind (fun record₂ t ht => ?_)
    fun _ _ _ => trivial
  obtain ⟨hheld, -, hext⟩ := ht.2 record₂ rfl
  replace ht := ht.1.next hheld hext
  refine (works_transitionUnderway ?_ ht).bind (fun change'' t ht => ?_) fun _ _ _ => trivial
  · split_ifs <;> decide
  · exact (works_terminal (hunderway record₂) (ht _ rfl) (ht _ rfl).ready.held).mono
      fun _ _ _ => trivial

/-! ## The decision -/

theorem works_executeApproved (hheld : Holding focus record s) (hplan : record.plan.isSome)
    (hbound : BoundFor focus record s) :
    Works focus authorised (fun _ _ => True) (engine.executeApproved record) s := by
  have hb := lasting_boundFor (E := E) focus record
  have hunderway := lasting_underway (E := E) focus
  refine (works_setRuntimeStatus hb hbound hheld).bind (fun record₁ t ht => ?_) fun _ _ _ => trivial
  obtain ⟨hheld₁, hnext⟩ := ht.2 record₁ rfl
  have hplan₁ : record₁.plan.isSome := by rw [hnext.plan]; exact hplan
  refine (works_captureSnapshots hb ht.1 hheld₁ hplan₁).bind (fun record₂ t ht => ?_)
    fun _ _ _ => trivial
  obtain ⟨hheld₂, hext, hsnapshots⟩ := ht.2 record₂ rfl
  have hstart : Underway focus record₂ t := by
    refine ⟨⟨hheld₂, ?_, hsnapshots⟩, ht.1.of_key (hext.key.trans hnext.extends_.key)⟩
    rw [(hext.plan hplan₁).1]
    exact hplan₁
  refine (works_executeDag (hunderway record₂) hstart hstart.ready).bind (fun record₃ t ht => ?_)
    fun _ _ _ => trivial
  obtain ⟨hready, hext⟩ := ht.2 record₃ rfl
  replace ht := ht.1.next hready.held hext
  split_ifs
  · exact works_rollback ht
  · refine (works_transitionUnderway (by decide) ht).bind (fun change t ht => ?_) fun _ _ _ => trivial
    refine (works_setRuntimeStatus (hunderway record₃) (ht _ rfl) (ht _ rfl).ready.held).bind
      (fun record₄ t ht => ?_) fun _ _ _ => trivial
    replace ht := Underway.of_succeed ht _ rfl
    refine (works_verify (hunderway record₄) ht).bind (fun error t ht => ?_) fun _ _ _ => trivial
    cases error with
    | some error => exact works_rollback ht
    | none =>
      refine (works_transitionUnderway (by decide) ht).bind (fun change t ht => ?_)
        fun _ _ _ => trivial
      exact (works_terminal (hunderway record₄) (ht _ rfl) (ht _ rfl).ready.held).mono
        fun _ _ _ => trivial

/-- The state in which a callback may have the change of the event executed: it is an
approval, and its approval and plan are those of the workflow and of the change. -/
def Authorises (callback : ApprovalCallbackRequest) (event : ChangeEvent)
    (w : CoordinatorWorld E) : Prop :=
  callback.status = .APPROVED ∧ ∃ change record, w.changes.stored? (changeKey event) = some change ∧
    w.workflow? (workflowKey event) = some record ∧ CallbackMatches callback record ∧
    change.planHash = some callback.planHash ∧ change.planVersion = callback.planVersion

/-- A callback matches what a matching record is extended to: same plan, same approval. -/
theorem CallbackMatches.extends {callback : ApprovalCallbackRequest}
    {record' : WorkflowExecutionRecord} (h : CallbackMatches callback record)
    (hext : Extends record record') : CallbackMatches callback record' := by
  obtain ⟨plan, hplan, hversion⟩ := Option.map_eq_some_iff.mp h.planVersion
  obtain ⟨hplan', happroval⟩ := hext.plan (by rw [hplan]; rfl)
  obtain ⟨htenant, hchangeId, -⟩ := Prod.mk.inj hext.key |>.imp id Prod.mk.inj
  have hhash : record'.planHash = record.planHash := by
    have hmatches := record.plan_matches
    have hmatches' := record'.plan_matches
    rw [hplan] at hmatches
    rw [hplan', hplan] at hmatches'
    rw [hmatches.2.2.1, hmatches'.2.2.1]
  exact ⟨h.tenantId.trans htenant.symm, h.changeId.trans hchangeId.symm,
    happroval.trans h.approvalId, hhash.trans h.planHash, by rw [hplan', h.planVersion]⟩

/-- An approval that matches the workflow matches the change that is bound to it. -/
theorem authorises_of_bound {callback : ApprovalCallbackRequest} {event : ChangeEvent}
    {w : CoordinatorWorld E} (hstatus : callback.status = .APPROVED)
    (hmatches : CallbackMatches callback record)
    (hseen : ∃ stored, w.workflow? (workflowKey event) = some stored ∧ Extends record stored)
    (hbound : PlanBound event w) : Authorises callback event w := by
  obtain ⟨stored, hstored, hext⟩ := hseen
  obtain ⟨change, bound, plan, hchange, hbound, hplan, hhash, hversion⟩ := hbound
  rw [hstored] at hbound
  cases hbound
  have hmatches' := hmatches.extends hext
  refine ⟨hstatus, change, stored, hchange, hstored, hmatches', ?_, ?_⟩
  · have hplanMatches := stored.plan_matches
    rw [hplan] at hplanMatches
    rw [hhash, ← hplanMatches.2.2.1, hmatches'.planHash]
  · have hplanVersion := hmatches'.planVersion
    rw [hplan] at hplanVersion
    exact hversion.trans (Option.some.inj hplanVersion)

/-- The run has read a record that matches the callback, and knows whether the change that it
has read was bound. -/
structure Matched (focus : Option ChangeEvent) (callback : ApprovalCallbackRequest)
    (record : WorkflowExecutionRecord) (change : ChangeRecord) (w : CoordinatorWorld E) : Prop where
  held : Holding focus record w
  callback : CallbackMatches callback record
  bound : change.status.isBound = true → BoundFor focus record w
  workflow : Belongs focus record

section Decision

variable {callback : ApprovalCallbackRequest} {change : ChangeRecord}

theorem lasting_matched (focus : Option ChangeEvent) (callback : ApprovalCallbackRequest)
    (record : WorkflowExecutionRecord) (change : ChangeRecord) :
    Lasting (E := E) focus (Matched focus callback record change) :=
  fun t t' h he => ⟨lasting_holding focus record t t' h.held he, h.callback,
    fun hb => lasting_boundFor focus record t t' (h.bound hb) he, h.workflow⟩

theorem Matched.plan_isSome {w : CoordinatorWorld E} (h : Matched focus callback record change w) :
    record.plan.isSome := by
  obtain ⟨plan, hplan, -⟩ := Option.map_eq_some_iff.mp h.callback.planVersion
  rw [hplan]
  rfl

/-- The matching record and the bound change authorise an approval. -/
theorem Matched.authorises {w : CoordinatorWorld E} (h : Matched focus callback record change w)
    (hstatus : callback.status = .APPROVED) (hbound : BoundFor focus record w) :
    ∀ event ∈ focus, changeKey event = (record.tenantId, record.changeId) →
      Authorises callback event w := by
  intro event hmem hevent
  refine authorises_of_bound hstatus h.callback ?_ (hbound event hmem hevent)
  rw [h.workflow event hmem hevent]
  exact h.held.seen

theorem works_transitionMatched {sources : List WorkflowState} (target : WorkflowState)
    (htarget : target.isBound = true → target = .APPROVED ∨ target = .EXECUTING)
    (hstatus : target = .EXECUTING → callback.status = .APPROVED)
    (hs : Matched focus callback record change s) :
    Works focus (Authorises callback)
      (fun r t => ∀ updated, r = .ok updated → Matched focus callback record updated t)
      (engine.transitionFrom sources record change target {}) s := by
  have hlasting := lasting_matched (E := E) focus callback record change
  unfold transitionFrom
  split_ifs
  · refine (works_transitionPlain hlasting hs ?_ ?_ ?_).mono ?_
    · intro t replaced _ hedge htargetBound
      refine .inl (isBound_of_canTransition ?_ hedge)
      rcases htarget htargetBound with h | h
      · exact .inl h
      · exact .inr (.inl h)
    · exact fun heq t ht hbound => ht.authorises (hstatus heq) hbound
    · exact fun t ht => ht.held.consistent
    · intro r t hok updated heq
      obtain ⟨ht, hupdated, hbound⟩ := hok updated heq
      exact ⟨ht.held, ht.callback, fun h => hbound (hupdated ▸ h), ht.workflow⟩
  · intro t ht updated heq
    cases heq
    exact hlasting _ _ hs ht

theorem works_applyDecision (hs : Matched focus callback record change s) :
    Works focus (Authorises callback) (fun _ _ => True)
      (engine.applyDecision callback change record) s := by
  have hlasting := lasting_matched (E := E) focus callback record
  unfold applyDecision
  split
  · refine (works_transitionMatched .REJECTED (by decide) nofun hs).bind (fun change' t ht => ?_)
      fun _ _ _ => trivial
    exact (works_terminal (hlasting change') (ht _ rfl) (ht _ rfl).held).mono fun _ _ _ => trivial
  · refine (works_transitionMatched .REJECTED (by decide) nofun hs).bind (fun change' t ht => ?_)
      fun _ _ _ => trivial
    refine (works_transitionMatched .ANALYZING (by decide) nofun (ht _ rfl)).bind (fun change'' t ht => ?_)
      fun _ _ _ => trivial
    exact (works_setRuntimeStatus (hlasting change'') (ht _ rfl) (ht _ rfl).held).mono
      fun _ _ _ => trivial
  · next hstatus =>
    refine (works_transitionMatched .APPROVED (by decide) nofun hs).bind (fun change' t ht => ?_)
      fun _ _ _ => trivial
    refine (works_transitionMatched .EXECUTING (by decide) (fun _ => hstatus) (ht _ rfl)).bind
      (fun change'' t ht => ?_) fun _ _ _ => trivial
    split_ifs with hexecuting
    · exact fun _ _ => trivial
    · -- the change is executing, as read or as committed: its plan is bound
      rw [not_not] at hexecuting
      have hmatched := ht _ rfl
      exact works_executeApproved hmatched.held hmatched.plan_isSome
        (hmatched.bound (by rw [hexecuting]; rfl))

/-- The first read of `resume_approval`. -/
theorem works_readChange {tenantId changeId : String} (hs : Consistent focus s) :
    Works focus authorised (fun r t => Consistent focus t ∧
      ∀ change, r = .ok change → ∀ event ∈ focus, changeKey event = (tenantId, changeId) →
        (change.workflowExecutionId = none ∨
          change.workflowExecutionId = some (deriveWorkflowId event)) ∧
        (change.status.isBound = true → PlanBound event t))
      (getChange tenantId changeId) s := by
  refine Prog.RG.atomic fun t ht => ⟨worksWithin_of_quiet (Quiet.refl t).noted, fun t' ht' => ?_⟩
  have hc := ht.consistent hs
  refine ⟨ht'.consistent hc, fun change hget event hmem hkey => ?_⟩
  have hstored := get_eq_ok.mp hget
  rw [← hkey] at hstored
  have hbinding := hc.binding event hmem
  exact ⟨hbinding.workflowId change hstored,
    fun hbound => ht'.bound event hmem (hbinding.bound change hstored hbound)⟩

/-- The second read, which may rely on what the first one has seen. -/
theorem works_readWorkflow {tenantId changeId workflowId : String} {p : Prop}
    (hs : Consistent focus s)
    (hbound : p → ∀ event ∈ focus, changeKey event = (tenantId, changeId) → PlanBound event s) :
    Works focus authorised (fun r t => ∀ record, r = .ok record →
        Holding focus record t ∧ record.key = (tenantId, changeId, workflowId) ∧
        (p → BoundFor focus record t))
      (getWorkflow tenantId changeId workflowId) s := by
  refine Prog.RG.atomic fun t ht => ⟨worksWithin_of_quiet (Quiet.refl t).noted,
    fun t' ht' record hget => ?_⟩
  have hstored := InMemoryWorkflowRepository.get_eq_ok.mp hget
  have hkey := InMemoryWorkflowRepository.key_of_stored hstored
  obtain ⟨htenant, hchangeId, -⟩ := Prod.mk.inj hkey |>.imp id Prod.mk.inj
  rw [← hkey] at hstored
  have hheld : Holding focus record t := ⟨ht.consistent hs, record, hstored, .refl record⟩
  refine ⟨lasting_holding focus record _ _ hheld ht', hkey, fun hp event hmem hevent => ?_⟩
  rw [htenant, hchangeId] at hevent
  exact ht'.bound event hmem (ht.bound event hmem (hbound hp event hmem hevent))

/-- **A run of `resume_approval`**, started in any consistent state. -/
theorem works_resumeApproval (hs : Consistent focus s) :
    Works focus (Authorises callback) (fun _ _ => True) (engine.resumeApproval callback) s := by
  refine (works_readChange hs).bind (fun change t ht => ?_) fun _ _ _ => trivial
  obtain ⟨hc, hchange⟩ := ht
  replace hchange := hchange change rfl
  split
  · exact fun _ _ => trivial
  · next workflowId hid =>
    refine (works_readWorkflow hc fun hbound event hmem hevent =>
      (hchange event hmem hevent).2 hbound).bind (fun record t ht => ?_) fun _ _ _ => trivial
    obtain ⟨hheld, hkey, hbound⟩ := ht record rfl
    obtain ⟨htenant, hchangeId, hworkflowId⟩ := Prod.mk.inj hkey |>.imp id Prod.mk.inj
    split_ifs with hterminal
    · exact fun _ _ => trivial
    · refine (works_requirePlan (lasting_holding focus record) hheld).path
        (fun _ _ h => WorksWithin.evolves h) |>.bind (fun plan t' ht' => ?_) fun _ _ _ => trivial
      obtain ⟨⟨hheld, hplan⟩, hst⟩ := ht'
      replace hplan := hplan plan rfl
      split_ifs with hmismatch
      · exact fun _ _ => trivial
      · push Not at hmismatch
        obtain ⟨happroval, hhash, hversion⟩ := hmismatch
        refine works_applyDecision ⟨hheld, ⟨htenant.symm, hchangeId.symm, happroval, hhash, ?_⟩, ?_, ?_⟩
        · rw [hplan]
          exact congrArg some hversion
        · exact fun h => lasting_boundFor focus record _ _ (hbound h) hst
        · intro event hmem hevent
          have hevent' := hevent
          rw [htenant, hchangeId] at hevent'
          have hnamed := (hchange event hmem hevent').1
          rw [hid] at hnamed
          rcases hnamed with h | h
          · cases h
          · obtain ⟨htenant', hchangeId'⟩ := Prod.mk.inj hevent'
            rw [hkey, Option.some.inj h]
            unfold workflowKey
            rw [htenant', hchangeId']

end Decision

end ChangeOps
