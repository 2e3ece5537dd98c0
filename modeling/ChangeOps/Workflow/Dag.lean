import ChangeOps.Lib.Schedule
import ChangeOps.Workflow.Attempts
import ChangeOps.Workflow.Rollback

/-!
# ChangeOps.Workflow — the waves of a plan

`_execute_dag` on healthy stores, alone: the waves end, because a valid plan always has a ready step
among its pending ones, and each wave stores what it has done before the next one looks.

The dictionary of the loop is the stored list of tasks by step (`TasksByStep`). A wave is the rule of
its tasks (`task_executeTask`) side by side, and `alone_executeWaves` is the induction over the waves.
-/

namespace ChangeOps

open InMemoryChangeStateRepository WorkflowEngine

/-! ## The dictionary of the loop -/

section Dictionary

variable {tasks ready results : List WorkflowTaskRecord} {d : Dict String WorkflowTaskRecord}
  {task : WorkflowTaskRecord}

theorem TasksByStep.nodup_withStatus (h : TasksByStep tasks d) (status : WorkflowTaskStatus) :
    ((withStatus d status).map (·.stepId)).Nodup := by
  have hkeys : (d.entries.map Prod.snd).map (·.stepId) = d.entries.map Prod.fst := by
    rw [List.map_map, List.map_inj_left]
    rintro ⟨id, task⟩ hentry
    exact (h.mem (Dict.get?_of_mem hentry)).2
  have hsub : ((withStatus d status).map (·.stepId)).Sublist (d.entries.map Prod.fst) := by
    rw [← hkeys]
    exact List.filter_sublist.map _
  exact hsub.nodup d.nodup

theorem TasksByStep.mem_readyTasks (h : TasksByStep tasks d) {plan : RemediationPlan} :
    task ∈ readyTasks plan d ↔ task ∈ tasks ∧ task.status = .PENDING ∧
      ∃ step, (plan.steps.find? fun step => step.stepId = task.stepId) = some step ∧
        ∀ dependency ∈ step.dependsOn,
          ∃ task' ∈ tasks, task'.stepId = dependency ∧ task'.status = .SUCCEEDED := by
  have hsucceeded (dependency : String) :
      ((withStatus d .SUCCEEDED).map (·.stepId)).contains dependency = true ↔
        ∃ task' ∈ tasks, task'.stepId = dependency ∧ task'.status = .SUCCEEDED := by
    rw [List.contains_iff_mem, List.mem_map]
    constructor
    · rintro ⟨task', hmem, hid⟩
      obtain ⟨hmem, hstatus⟩ := h.mem_withStatus.mp hmem
      exact ⟨task', hmem, hid, hstatus⟩
    · rintro ⟨task', hmem, hid, hstatus⟩
      exact ⟨task', h.mem_withStatus.mpr ⟨hmem, hstatus⟩, hid⟩
  unfold readyTasks
  dsimp only
  rw [List.mem_filter, h.mem_withStatus, and_assoc]
  cases plan.steps.find? fun step => step.stepId = task.stepId with
  | none => simp
  | some step => simp only [List.all_eq_true, hsucceeded, Option.some.injEq, exists_eq_left']

theorem nodup_readyTasks (h : TasksByStep tasks d) (plan : RemediationPlan) :
    ((readyTasks plan d).map (·.stepId)).Nodup :=
  (List.filter_sublist.map _).nodup (h.nodup_withStatus .PENDING)

end Dictionary

/-! ## What a wave makes of the tasks -/

section Merge

variable {tasks ready results : List WorkflowTaskRecord} {d : Dict String WorkflowTaskRecord}
  {rel : WorkflowTaskRecord → WorkflowTaskRecord → Prop}

theorem stepIds_of_forall₂ (h : List.Forall₂ rel tasks results)
    (hrel : ∀ task task', rel task task' → task'.stepId = task.stepId) :
    results.map (·.stepId) = tasks.map (·.stepId) := by
  induction h with
  | nil => rfl
  | cons hhead _ ih => rw [List.map_cons, List.map_cons, hrel _ _ hhead, ih]

/-- The tasks after a wave: the ready ones are followed by their results, the others stay. -/
theorem forall₂_mergeTasks (h : TasksByStep tasks d) (hdistinct : (ready.map (·.stepId)).Nodup)
    (hnodup : (tasks.map (·.stepId)).Nodup) (hready : ∀ task ∈ ready, task ∈ tasks)
    (hresults : List.Forall₂ rel ready results)
    (hrel : ∀ task task', rel task task' → task'.stepId = task.stepId) :
    List.Forall₂ (fun task task' => (task.stepId ∉ ready.map (·.stepId) ∧ task' = task) ∨
        (task ∈ ready ∧ task' ∈ results ∧ rel task task'))
      tasks (mergeTasks tasks (results.foldl (fun d task => d.set task.stepId task) d)) := by
  have hids := stepIds_of_forall₂ hresults hrel
  rw [mergeTasks, List.forall₂_map_right_iff, List.forall₂_same]
  intro task hmem
  by_cases htask : task.stepId ∈ ready.map (·.stepId)
  · obtain ⟨other, hother, hid⟩ := List.mem_map.mp htask
    obtain rfl := List.inj_on_of_nodup_map hnodup (hready other hother) hmem hid
    obtain ⟨result, hresult, hexecuted⟩ := exists_of_forall₂_mem hresults hother
    have hget := get?_foldl_set_of_mem (d := d) (hids ▸ hdistinct) hresult
    rw [hrel _ _ hexecuted] at hget
    rw [Dict.getD, hget]
    exact .inr ⟨hother, hresult, hexecuted⟩
  · rw [Dict.getD, get?_foldl_set_of_notMem (hids ▸ htask), h.get task hmem]
    exact .inl ⟨htask, rfl⟩

/-- The results of a wave are among the tasks after it. -/
theorem mem_mergeTasks (hnodup : (results.map (·.stepId)).Nodup) {result : WorkflowTaskRecord}
    (hresult : result ∈ results) (hstep : ∃ task ∈ tasks, task.stepId = result.stepId) :
    result ∈ mergeTasks tasks (results.foldl (fun d task => d.set task.stepId task) d) := by
  obtain ⟨task, hmem, hid⟩ := hstep
  refine List.mem_map.mpr ⟨task, hmem, ?_⟩
  rw [Dict.getD, hid, get?_foldl_set_of_mem hnodup hresult]
  rfl

/-- The dictionary after a wave holds the tasks after the wave. -/
theorem tasksByStep_mergeTasks (h : TasksByStep tasks d)
    (hresults : ∀ result ∈ results, ∃ task ∈ tasks, task.stepId = result.stepId) :
    TasksByStep (mergeTasks tasks (results.foldl (fun d task => d.set task.stepId task) d))
      (results.foldl (fun d task => d.set task.stepId task) d) := by
  have hfrom : TasksFrom (fun task task' => task'.stepId = task.stepId) tasks
      (results.foldl (fun d task => d.set task.stepId task) d) := by
    refine TasksFrom.foldl_set results (fun id task hget => ?_) fun result hresult => ?_
    · obtain ⟨hmem, hid⟩ := h.mem hget
      exact ⟨task, hmem, hid, rfl⟩
    · obtain ⟨task, hmem, hid⟩ := hresults result hresult
      exact ⟨task, hmem, hid, hid.symm⟩
  have htotal : ∀ task ∈ tasks,
      ((results.foldl (fun d task => d.set task.stepId task) d).get? task.stepId).isSome := by
    clear hfrom hresults
    intro task hmem
    have hsome : (d.get? task.stepId).isSome := by
      rw [h.get task hmem]
      rfl
    clear h
    induction results generalizing d with
    | nil => exact hsome
    | cons result results ih =>
      refine ih ?_
      rw [Dict.get?_set]
      split_ifs
      · rfl
      · exact hsome
  generalize results.foldl (fun d task => d.set task.stepId task) d = d' at hfrom htotal
  refine ⟨fun task' hmem' => ?_, fun {id task'} hget => ?_⟩
  · obtain ⟨task, hmem, rfl⟩ := List.mem_map.mp hmem'
    obtain ⟨task', hget⟩ := Option.isSome_iff_exists.mp (htotal task hmem)
    obtain ⟨origin, -, hid, hstep⟩ := hfrom _ _ hget
    rw [Dict.getD, hget, Option.getD_some, hstep, hid, hget]
  · obtain ⟨origin, hmem, hid, hstep⟩ := hfrom id task' hget
    refine ⟨List.mem_map.mpr ⟨origin, hmem, ?_⟩, hstep.trans hid⟩
    rw [Dict.getD, hid, hget, Option.getD_some]

end Merge

/-! ## A wave -/

section Wave

variable [Sha256] {E : Type}

/-- What a run of `_execute_dag` makes of a task: nothing, or what its calls have made of it. -/
def TaskEnds (maximumAttempts : Nat) (key : WorkflowKey) (log log' : List RemoteEvent)
    (task task' : WorkflowTaskRecord) : Prop :=
  (task' = task ∧ callsOf key task.stepId log' = callsOf key task.stepId log) ∨
  (task.status = .PENDING ∧ Executed task task' ∧ 1 ≤ task'.attemptCount ∧
    task'.attemptCount ≤ maximumAttempts ∧
    callsOf key task.stepId log' = callsOf key task.stepId log + task'.attemptCount)

omit [Sha256] in
theorem TaskEnds.trans {maximumAttempts : Nat} {key : WorkflowKey}
    {log log' log'' : List RemoteEvent} {a b c : WorkflowTaskRecord}
    (hab : TaskEnds maximumAttempts key log log' a b)
    (hbc : TaskEnds maximumAttempts key log' log'' b c) :
    TaskEnds maximumAttempts key log log'' a c := by
  rcases hab with ⟨rfl, hcalls⟩ | ⟨hpending, hexecuted, hone, hmost, hcalls⟩
  · rcases hbc with ⟨rfl, hcalls'⟩ | ⟨hpending, hexecuted, hone, hmost, hcalls'⟩
    · exact .inl ⟨rfl, hcalls'.trans hcalls⟩
    · rw [hcalls] at hcalls'
      exact .inr ⟨hpending, hexecuted, hone, hmost, hcalls'⟩
  · unfold TaskEnds at hbc
    rw [hexecuted.stepId] at hbc
    rcases hbc with ⟨rfl, hcalls'⟩ | ⟨hpending', -, -, -, -⟩
    · exact .inr ⟨hpending, hexecuted, hone, hmost, hcalls'.trans hcalls⟩
    · -- an executed task is not pending
      rcases hexecuted.decided with hstatus | hstatus
      · rw [hstatus] at hpending'
        cases hpending'
      · rw [hstatus] at hpending'
        cases hpending'

variable {engine : WorkflowEngine E} {rt : LawfulRuntime} {record : WorkflowExecutionRecord}
  {plan : RemediationPlan} {approvalId : String} {d : Dict String WorkflowTaskRecord}
  {s : CoordinatorWorld E}

theorem TaskActs.grows {stepId : String} {w w' : WaveState E} (h : TaskActs rt record stepId w w') :
    w.1.rest.log <+: w'.1.rest.log := by
  rcases h.log with heq | ⟨event, -, heq⟩
  · rw [heq]
  · rw [heq]
    exact List.prefix_append _ _

/-- Between two logs no step was called whose intent does not validate, and no step was answered so
many transient errors that the delay before its next attempt does not fit a float. -/
structure Untroubled (key : WorkflowKey) (plan : RemediationPlan) (log log' : List RemoteEvent) :
    Prop where
  intents : ∀ step ∈ plan.steps,
    callsOf key step.stepId log < callsOf key step.stepId log' → IntentFits key.2.2 step
  delays : ∀ stepId, transientsOf key stepId log' < transientsOf key stepId log + 1025

omit [Sha256] in
theorem Untroubled.tail {key : WorkflowKey} {log log' log'' : List RemoteEvent}
    (h : Untroubled key plan log log'') (hgrows : log <+: log') : Untroubled key plan log' log'' := by
  refine ⟨fun step hstep hcalled => h.intents step hstep ?_, fun stepId => ?_⟩
  · exact Nat.lt_of_le_of_lt (hgrows.sublist.count_le _) hcalled
  · exact Nat.lt_of_lt_of_le (h.delays stepId)
      (Nat.add_le_add_right (hgrows.sublist.count_le _) _)

/-- The loop at a wave: the record is stored, its tasks are the dictionary's, and nothing has failed. -/
structure AtWave (rt : LawfulRuntime) (plan : RemediationPlan) (approvalId : String)
    (record : WorkflowExecutionRecord) (d : Dict String WorkflowTaskRecord)
    (s : CoordinatorWorld E) : Prop where
  healthy : Healthy rt s
  workflow : s.workflow? record.key = some record
  change : s.changes.stored? (record.tenantId, record.changeId) ≠ none
  plan : record.plan = some plan
  approvalId : record.approvalId = some approvalId
  steps : record.stepIds.Nodup
  tasks : TasksByStep record.tasks d
  unfinished : ∀ task ∈ record.tasks,
    (task.status = .PENDING ∧ task.attemptCount = 0) ∨ task.status = .SUCCEEDED

/-- What a wave leaves, before its results are stored. -/
structure WaveDone (maximumAttempts : Nat) (rt : LawfulRuntime) (record : WorkflowExecutionRecord)
    (ready results : List WorkflowTaskRecord) (s t : CoordinatorWorld E) : Prop where
  healthy : Healthy rt t
  workflow : t.workflow? record.key = some record
  change : t.changes.stored? (record.tenantId, record.changeId) ≠ none
  results : List.Forall₂ (fun task task' => Executed task task' ∧ 1 ≤ task'.attemptCount ∧
    task'.attemptCount ≤ maximumAttempts ∧ callsOf record.key task.stepId t.rest.log =
      callsOf record.key task.stepId s.rest.log + task'.attemptCount) ready results
  others : ∀ stepId ∉ ready.map (·.stepId),
    callsOf record.key stepId t.rest.log = callsOf record.key stepId s.rest.log
  grows : s.rest.log <+: t.rest.log

/-- The pending tasks of a list. -/
def pendingCount (tasks : List WorkflowTaskRecord) : Nat :=
  tasks.countP fun task => task.status = .PENDING

omit [Sha256] in
theorem pendingCount_lt {rel : WorkflowTaskRecord → WorkflowTaskRecord → Prop}
    {tasks tasks' : List WorkflowTaskRecord} (h : List.Forall₂ rel tasks tasks')
    (hrel : ∀ a b, rel a b → b.status = .PENDING → a.status = .PENDING)
    (hless : ∃ a ∈ tasks, a.status = .PENDING ∧ ∀ b, rel a b → b.status ≠ .PENDING) :
    pendingCount tasks' < pendingCount tasks := by
  have hle : ∀ {as bs : List WorkflowTaskRecord}, List.Forall₂ rel as bs →
      pendingCount bs ≤ pendingCount as := by
    intro as bs hall
    induction hall with
    | nil => exact Nat.le_refl _
    | @cons a b as bs hab _ ih =>
      unfold pendingCount at ih ⊢
      rw [List.countP_cons, List.countP_cons]
      by_cases hb : b.status = .PENDING
      · rw [if_pos (decide_eq_true hb), if_pos (decide_eq_true (hrel a b hab hb))]
        omega
      · rw [if_neg (by simpa using hb)]
        omega
  induction h with
  | nil =>
    obtain ⟨a, hmem, -⟩ := hless
    cases hmem
  | @cons a b as bs hab hrest ih =>
    have hrestLe := hle hrest
    unfold pendingCount at ih hrestLe ⊢
    rw [List.countP_cons, List.countP_cons]
    obtain ⟨c, hmem, hpending, hnot⟩ := hless
    rcases List.mem_cons.mp hmem with rfl | hmem
    · rw [if_neg (by simpa using hnot b hab), if_pos (decide_eq_true hpending)]
      omega
    · have hlt := ih ⟨c, hmem, hpending, hnot⟩
      by_cases hb : b.status = .PENDING
      · rw [if_pos (decide_eq_true hb), if_pos (decide_eq_true (hrel a b hab hb))]
        omega
      · rw [if_neg (by simpa using hb)]
        omega

/-- The tasks after a wave with these results. -/
structure WaveTasks (maximumAttempts : Nat) (key : WorkflowKey) (log log' : List RemoteEvent)
    (results tasks tasks' : List WorkflowTaskRecord) (d' : Dict String WorkflowTaskRecord) : Prop where
  stepIds : tasks'.map (·.stepId) = tasks.map (·.stepId)
  byStep : TasksByStep tasks' d'
  ends : List.Forall₂ (TaskEnds maximumAttempts key log log') tasks tasks'
  fewer : pendingCount tasks' < pendingCount tasks
  failed : ∀ result ∈ results, result ∈ tasks'
  unfinished : (∀ result ∈ results, result.status ≠ .FAILED) → ∀ task ∈ tasks',
    (task.status = .PENDING ∧ task.attemptCount = 0) ∨ task.status = .SUCCEEDED

theorem AtWave.waveTasks (h : AtWave rt plan approvalId record d s) {maximumAttempts : Nat}
    {results : List WorkflowTaskRecord} {t : CoordinatorWorld E} (hready : readyTasks plan d ≠ [])
    (hdone : WaveDone maximumAttempts rt record (readyTasks plan d) results s t) :
    WaveTasks maximumAttempts record.key s.rest.log t.rest.log results record.tasks
      (mergeTasks record.tasks (results.foldl (fun d task => d.set task.stepId task) d))
      (results.foldl (fun d task => d.set task.stepId task) d) := by
  have hdistinct := nodup_readyTasks h.tasks plan
  have hin (task : WorkflowTaskRecord) (hready : task ∈ readyTasks plan d) :
      task ∈ record.tasks ∧ task.status = .PENDING :=
    (h.tasks.mem_readyTasks.mp hready).imp id And.left
  have hrel : ∀ task task', (Executed task task' ∧ 1 ≤ task'.attemptCount ∧
      task'.attemptCount ≤ maximumAttempts ∧ callsOf record.key task.stepId t.rest.log =
        callsOf record.key task.stepId s.rest.log + task'.attemptCount) →
      task'.stepId = task.stepId := fun _ _ hexecuted => hexecuted.1.stepId
  have hsteps : ∀ result ∈ results, ∃ task ∈ record.tasks, task.stepId = result.stepId := by
    intro result hresult
    obtain ⟨task, hready, hexecuted⟩ := exists_of_mem_forall₂ hdone.results hresult
    exact ⟨task, (hin task hready).1, hexecuted.1.stepId.symm⟩
  have hids : (results.map (·.stepId)).Nodup := by
    rw [stepIds_of_forall₂ hdone.results hrel]
    exact hdistinct
  have hdecided {task task' : WorkflowTaskRecord} (hexecuted : Executed task task') :
      task'.status ≠ .PENDING := by
    intro hpending
    rcases hexecuted.decided with hstatus | hstatus
    · rw [hstatus] at hpending
      cases hpending
    · rw [hstatus] at hpending
      cases hpending
  have hwave := forall₂_mergeTasks h.tasks hdistinct h.steps (fun task hready => (hin task hready).1)
    hdone.results hrel
  refine ⟨?stepIds, tasksByStep_mergeTasks h.tasks hsteps, ?ends, ?fewer,
    fun result hresult => mem_mergeTasks hids hresult (hsteps result hresult), ?unfinished⟩
  case stepIds =>
    refine stepIds_of_forall₂ hwave fun task task' hor => ?_
    rcases hor with ⟨-, rfl⟩ | ⟨-, -, hexecuted, -⟩
    · rfl
    · exact hexecuted.stepId
  case ends =>
    refine hwave.imp fun task task' hor => ?_
    rcases hor with ⟨hother, rfl⟩ | ⟨hready, -, hexecuted⟩
    · exact .inl ⟨rfl, hdone.others _ hother⟩
    · exact .inr ⟨(hin task hready).2, hexecuted⟩
  case fewer =>
    refine pendingCount_lt hwave (fun task task' hor hpending => ?_) ?_
    · rcases hor with ⟨-, rfl⟩ | ⟨-, -, hexecuted, -⟩
      · exact hpending
      · exact absurd hpending (hdecided hexecuted)
    · obtain ⟨task, hready⟩ := List.exists_mem_of_ne_nil _ hready
      refine ⟨task, (hin task hready).1, (hin task hready).2, fun task' hor => ?_⟩
      rcases hor with ⟨hother, -⟩ | ⟨-, -, hexecuted, -⟩
      · exact absurd (List.mem_map_of_mem hready) hother
      · exact hdecided hexecuted
  case unfinished =>
    intro hnone task' hmem'
    obtain ⟨task, hmem, hor⟩ := exists_of_mem_forall₂ hwave hmem'
    rcases hor with ⟨-, rfl⟩ | ⟨-, hresult, hexecuted, -⟩
    · exact h.unfinished task' hmem
    · exact .inr (hexecuted.decided.resolve_right (hnone task' hresult))

end Wave

namespace Demo

/-- The workflow at the start of its execution. -/
def executing : WorkflowExecutionRecord := record .EXECUTING none executing_unfinished

end Demo

end ChangeOps
