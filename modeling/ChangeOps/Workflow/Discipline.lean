import Mathlib.Data.List.Infix
import ChangeOps.Workflow.Engine
import ChangeOps.Core.TransitionLaw

/-!
# ChangeOps.Workflow — what concurrent runs of the engine respect

Any number of runs of `process_event` and `resume_approval` share the two repositories. This
module says what each of their actions respects, whoever else acts: the relation `evolves`,
which is the rely of every run and part of its guarantee.

* A stored change only advances, a stored workflow is only *extended*: once its plan is set,
  the plan, the approval and the tasks' snapshots stay.
* `SnapshotsFirst`: whoever calls the gateway finds a snapshot stored for every task, and each
  stored snapshot was captured before the first call.
* `PlanBinding`, for one event that is singled out: a change that may be executed carries the
  hash and the version of the plan in its workflow.
-/

namespace ChangeOps

open InMemoryChangeStateRepository

/-! ## Workflows are extended -/

theorem exists_of_mem_forall₂ {α β : Type} {r : α → β → Prop} {as : List α} {bs : List β} {b : β}
    (h : List.Forall₂ r as bs) (hb : b ∈ bs) : ∃ a ∈ as, r a b := by
  induction h with
  | nil => cases hb
  | @cons a b' as bs hhead _ ih =>
    rcases List.mem_cons.mp hb with rfl | htail
    · exact ⟨a, List.mem_cons_self, hhead⟩
    · obtain ⟨a', hmem, hr⟩ := ih htail
      exact ⟨a', List.mem_cons_of_mem _ hmem, hr⟩

theorem exists_of_forall₂_mem {α β : Type} {r : α → β → Prop} {as : List α} {bs : List β} {a : α}
    (h : List.Forall₂ r as bs) (ha : a ∈ as) : ∃ b ∈ bs, r a b :=
  exists_of_mem_forall₂ h.flip ha

/-- Two relations along a list compose where their members do. -/
theorem forall₂_comp {α β γ : Type} {r : α → β → Prop} {r' : β → γ → Prop} {r'' : α → γ → Prop}
    {as : List α} {bs : List β} {cs : List γ} (hab : List.Forall₂ r as bs)
    (hbc : List.Forall₂ r' bs cs) (h : ∀ a b c, r a b → r' b c → r'' a c) :
    List.Forall₂ r'' as cs := by
  induction hab generalizing cs with
  | nil =>
    cases hbc
    exact .nil
  | cons hhead _ ih =>
    cases hbc with
    | cons hhead' htail' => exact .cons (h _ _ _ hhead hhead') (ih htail')

/-- A task that is updated keeps its step and the snapshot that it has. -/
def KeepsSnapshot (task task' : WorkflowTaskRecord) : Prop :=
  task'.stepId = task.stepId ∧ (task.snapshotId.isSome →
    task'.snapshotId = task.snapshotId ∧ task'.snapshotHash = task.snapshotHash)

theorem KeepsSnapshot.refl (task : WorkflowTaskRecord) : KeepsSnapshot task task :=
  ⟨rfl, fun _ => ⟨rfl, rfl⟩⟩

theorem KeepsSnapshot.trans {a b c : WorkflowTaskRecord} (hab : KeepsSnapshot a b)
    (hbc : KeepsSnapshot b c) : KeepsSnapshot a c := by
  refine ⟨hbc.1.trans hab.1, fun h => ?_⟩
  obtain ⟨hid, hhash⟩ := hab.2 h
  obtain ⟨hid', hhash'⟩ := hbc.2 (hid ▸ h)
  exact ⟨hid'.trans hid, hhash'.trans hhash⟩

theorem forall₂_keepsSnapshot_refl (tasks : List WorkflowTaskRecord) :
    List.Forall₂ KeepsSnapshot tasks tasks :=
  List.forall₂_same.mpr fun task _ => .refl task

theorem forall₂_keepsSnapshot_trans {as bs cs : List WorkflowTaskRecord}
    (hab : List.Forall₂ KeepsSnapshot as bs) (hbc : List.Forall₂ KeepsSnapshot bs cs) :
    List.Forall₂ KeepsSnapshot as cs :=
  forall₂_comp hab hbc fun _ _ _ => KeepsSnapshot.trans

theorem stepIds_of_keepsSnapshot {tasks tasks' : List WorkflowTaskRecord}
    (h : List.Forall₂ KeepsSnapshot tasks tasks') :
    tasks'.map (·.stepId) = tasks.map (·.stepId) := by
  induction h with
  | nil => rfl
  | cons hhead _ ih => rw [List.map_cons, List.map_cons, ih, hhead.1]

/-- A task that is rewritten with the snapshot that it has. -/
def SameSnapshot (task task' : WorkflowTaskRecord) : Prop :=
  task'.stepId = task.stepId ∧ task'.snapshotId = task.snapshotId ∧
    task'.snapshotHash = task.snapshotHash

theorem SameSnapshot.refl (task : WorkflowTaskRecord) : SameSnapshot task task := ⟨rfl, rfl, rfl⟩

theorem SameSnapshot.trans {a b c : WorkflowTaskRecord} (hab : SameSnapshot a b)
    (hbc : SameSnapshot b c) : SameSnapshot a c :=
  ⟨hbc.1.trans hab.1, hbc.2.1.trans hab.2.1, hbc.2.2.trans hab.2.2⟩

theorem SameSnapshot.keeps {task task' : WorkflowTaskRecord} (h : SameSnapshot task task') :
    KeepsSnapshot task task' :=
  ⟨h.1, fun _ => h.2⟩

/-- The snapshot was captured, and before the first gateway call of its workflow. -/
def CapturedFirst (log : List RemoteEvent) (key : WorkflowKey)
    (stepId snapshotId snapshotHash : String) : Prop :=
  ∃ before after, log = before ++ after ∧
    .snapshotCaptured key stepId snapshotId snapshotHash ∈ before ∧
    ∀ step, .executeCalled key step ∉ before

theorem CapturedFirst.mono {log log' : List RemoteEvent} {key : WorkflowKey}
    {stepId snapshotId snapshotHash : String} (h : CapturedFirst log key stepId snapshotId snapshotHash)
    (hlog : log <+: log') : CapturedFirst log' key stepId snapshotId snapshotHash := by
  obtain ⟨before, after, rfl, hmem, hnone⟩ := h
  obtain ⟨more, rfl⟩ := hlog
  exact ⟨before, after ++ more, by simp, hmem, hnone⟩

/-- All the snapshots of the tasks were captured in time. -/
def SnapshotsCaptured (log : List RemoteEvent) (key : WorkflowKey)
    (tasks : List WorkflowTaskRecord) : Prop :=
  ∀ task ∈ tasks, ∀ snapshotId snapshotHash, task.snapshotId = some snapshotId →
    task.snapshotHash = some snapshotHash →
    CapturedFirst log key task.stepId snapshotId snapshotHash

variable [Sha256] {E : Type}

/-- The workflow stored under a key. -/
abbrev World.workflow? (w : CoordinatorWorld E) (key : WorkflowKey) :
    Option WorkflowExecutionRecord :=
  w.rest.workflows.stored? key

/-- What updates do to a stored workflow. -/
structure Extends (record record' : WorkflowExecutionRecord) : Prop where
  key : record'.key = record.key
  newer : record' = record ∨ record.version < record'.version
  plan : record.plan.isSome →
    record'.plan = record.plan ∧ record'.approvalId = record.approvalId
  tasks : record.plan.isSome → List.Forall₂ KeepsSnapshot record.tasks record'.tasks

theorem Extends.refl (record : WorkflowExecutionRecord) : Extends record record :=
  ⟨rfl, .inl rfl, fun _ => ⟨rfl, rfl⟩, fun _ => forall₂_keepsSnapshot_refl _⟩

theorem Extends.trans {a b c : WorkflowExecutionRecord} (hab : Extends a b) (hbc : Extends b c) :
    Extends a c := by
  refine ⟨hbc.key.trans hab.key, ?_, fun h => ?_, fun h => ?_⟩
  · rcases hab.newer with rfl | hlt
    · exact hbc.newer
    · rcases hbc.newer with rfl | hlt'
      · exact .inr hlt
      · exact .inr (Nat.lt_trans hlt hlt')
  · obtain ⟨hplan, happroval⟩ := hab.plan h
    obtain ⟨hplan', happroval'⟩ := hbc.plan (hplan ▸ h)
    exact ⟨hplan'.trans hplan, happroval'.trans happroval⟩
  · have hb : b.plan.isSome := (hab.plan h).1 ▸ h
    exact forall₂_keepsSnapshot_trans (hab.tasks h) (hbc.tasks hb)

/-- A stored workflow of the same version is the record itself. -/
theorem Extends.eq_of_version {record record' : WorkflowExecutionRecord}
    (h : Extends record record') (hversion : record'.version = record.version) :
    record' = record := by
  rcases h.newer with heq | hlt
  · exact heq
  · omega

/-- Every task has its snapshot. -/
def HasSnapshots (record : WorkflowExecutionRecord) : Prop :=
  ∀ task ∈ record.tasks, task.snapshotId.isSome

theorem Extends.hasSnapshots {record record' : WorkflowExecutionRecord}
    (h : Extends record record') (hplan : record.plan.isSome) (hs : HasSnapshots record) :
    HasSnapshots record' := by
  intro task' hmem
  obtain ⟨i, hi, rfl⟩ := List.getElem_of_mem hmem
  have hlen := (h.tasks hplan).length_eq
  have hkeep := (List.forall₂_iff_get.mp (h.tasks hplan)).2 i (by omega) hi
  have hsome := hs _ (List.getElem_mem (by omega : i < record.tasks.length))
  have heq := (hkeep.2 hsome).1
  rw [List.get_eq_getElem] at heq
  rw [heq]
  exact hsome

/-! ## Snapshots before calls -/

structure SnapshotsFirst (w : CoordinatorWorld E) : Prop where
  captured : ∀ key record, w.workflow? key = some record →
    SnapshotsCaptured w.rest.log key record.tasks
  called : ∀ key step, .executeCalled key step ∈ w.rest.log →
    ∃ record, w.workflow? key = some record ∧ record.plan.isSome ∧ HasSnapshots record

/-- No workflow has two tasks for one step. -/
def DistinctTasks (w : CoordinatorWorld E) : Prop :=
  ∀ key record, w.workflow? key = some record → record.stepIds.Nodup

/-! ## One change and the plan of its workflow -/

/-- The key of the change of an event. -/
def changeKey (event : ChangeEvent) : String × String := (event.tenantId, deriveChangeId event)

/-- The key of the workflow of an event. -/
def workflowKey (event : ChangeEvent) : WorkflowKey :=
  (event.tenantId, deriveChangeId event, deriveWorkflowId event)

/-- The change carries the hash and the version of the plan in its workflow. -/
def PlanBound (event : ChangeEvent) (w : CoordinatorWorld E) : Prop :=
  ∃ change record plan, w.changes.stored? (changeKey event) = some change ∧
    w.workflow? (workflowKey event) = some record ∧ record.plan = some plan ∧
    change.planHash = some (calculatePlanHash plan) ∧ change.planVersion = plan.version

/-- The states from which, or as which, a change is executed. -/
def WorkflowState.isBound : WorkflowState → Bool
  | .PLAN_READY | .AWAITING_APPROVAL | .APPROVED | .EXECUTING | .NEEDS_ATTENTION => true
  | _ => false

structure PlanBinding (event : ChangeEvent) (w : CoordinatorWorld E) : Prop where
  workflowId : ∀ change, w.changes.stored? (changeKey event) = some change →
    change.workflowExecutionId = none ∨
      change.workflowExecutionId = some (deriveWorkflowId event)
  bound : ∀ change, w.changes.stored? (changeKey event) = some change →
    change.status.isBound = true → PlanBound event w

/-! ## The relation -/

/-- The invariant of the coordinator; `focus` is the event that is singled out, if any. -/
structure Consistent (focus : Option ChangeEvent) (w : CoordinatorWorld E) : Prop where
  tasks : DistinctTasks w
  snapshots : SnapshotsFirst w
  binding : ∀ event ∈ focus, PlanBinding event w

/-- What any action of any run respects. -/
structure Evolves (focus : Option ChangeEvent) (w w' : CoordinatorWorld E) : Prop where
  changes : ∀ key, Advances (w.changes.stored? key) (w'.changes.stored? key)
  workflows : ∀ key record, w.workflow? key = some record →
    ∃ record', w'.workflow? key = some record' ∧ Extends record record'
  log : w.rest.log <+: w'.rest.log
  consistent : Consistent focus w → Consistent focus w'
  bound : ∀ event ∈ focus, PlanBound event w → PlanBound event w'

/-- The rely of the runs. -/
def evolves (focus : Option ChangeEvent) : Rely (CoordinatorWorld E) where
  rel := Evolves focus
  refl w := {
    changes := fun key => .refl _
    workflows := fun key record h => ⟨record, h, .refl record⟩
    log := List.prefix_rfl
    consistent := id
    bound := fun _ _ => id }
  trans h h' := {
    changes := fun key => (h.changes key).trans (h'.changes key)
    workflows := fun key record hstored => by
      obtain ⟨record', hstored', hext⟩ := h.workflows key record hstored
      obtain ⟨record'', hstored'', hext'⟩ := h'.workflows key record' hstored'
      exact ⟨record'', hstored'', hext.trans hext'⟩
    log := h.log.trans h'.log
    consistent := fun hc => h'.consistent (h.consistent hc)
    bound := fun event hmem hb => h'.bound event hmem (h.bound event hmem hb) }

/-- The guarantee of a run: it evolves the world, and it moves the change of the focused
event to `EXECUTING` only in a state where it is `authorised` to. -/
structure WorksWithin (focus : Option ChangeEvent)
    (authorised : ChangeEvent → CoordinatorWorld E → Prop) (w w' : CoordinatorWorld E) : Prop where
  evolves : Evolves focus w w'
  executing : ∀ event ∈ focus, ∀ change change',
    w.changes.stored? (changeKey event) = some change →
    w'.changes.stored? (changeKey event) = some change' → change' ≠ change →
    change'.status = .EXECUTING → authorised event w

/-! ## Actions that store nothing -/

/-- The stored changes and workflows stay; `events` are noted. -/
structure Noted (events : List RemoteEvent) (w w' : CoordinatorWorld E) : Prop where
  changes : w'.changes.stored? = w.changes.stored?
  workflows : w'.rest.workflows.stored? = w.rest.workflows.stored?
  log : w'.rest.log = w.rest.log ++ events

theorem Quiet.noted {w w' : CoordinatorWorld E} (h : Quiet w w') : Noted [] w w' :=
  ⟨h.stored, by rw [h.rest], by rw [h.rest, List.append_nil]⟩

/-- A gateway call may be noted when the workflow has all its snapshots. -/
theorem evolves_of_noted {focus : Option ChangeEvent} {events : List RemoteEvent}
    {w w' : CoordinatorWorld E} (h : Noted events w w')
    (hcalled : ∀ key step, .executeCalled key step ∈ events →
      ∃ record, w.workflow? key = some record ∧ record.plan.isSome ∧ HasSnapshots record) :
    Evolves focus w w' := by
  have hbound : ∀ event, PlanBound event w ↔ PlanBound event w' := by
    intro event
    simp only [PlanBound, World.workflow?, h.changes, h.workflows]
  have hlog : w.rest.log <+: w'.rest.log := ⟨events, h.log.symm⟩
  refine ⟨fun key => by rw [h.changes]; exact .refl _, fun key record hstored => ?_, hlog, ?_,
    fun event _ => (hbound event).mp⟩
  · exact ⟨record, by rw [World.workflow?, h.workflows]; exact hstored, .refl record⟩
  · rintro ⟨htasks, hsnapshots, hbinding⟩
    refine ⟨?_, ⟨?_, ?_⟩, ?_⟩
    · intro key record hstored
      rw [World.workflow?, h.workflows] at hstored
      exact htasks key record hstored
    · intro key record hstored task hmem snapshotId snapshotHash hid hhash
      rw [World.workflow?, h.workflows] at hstored
      exact (hsnapshots.captured key record hstored task hmem snapshotId snapshotHash hid hhash).mono
        hlog
    · intro key step hmem
      rw [World.workflow?, h.workflows]
      rw [h.log] at hmem
      rcases List.mem_append.mp hmem with hold | hnew
      · exact hsnapshots.called key step hold
      · exact hcalled key step hnew
    · intro event hmem
      obtain ⟨hid, hb⟩ := hbinding event hmem
      refine ⟨fun change hstored => ?_, fun change hstored hstatus => ?_⟩
      · rw [h.changes] at hstored
        exact hid change hstored
      · rw [h.changes] at hstored
        exact (hbound event).mp (hb change hstored hstatus)

theorem worksWithin_of_evolves {focus : Option ChangeEvent}
    {authorised : ChangeEvent → CoordinatorWorld E → Prop} {w w' : CoordinatorWorld E}
    (h : Evolves focus w w') (hchanges : w'.changes.stored? = w.changes.stored?) :
    WorksWithin focus authorised w w' := by
  refine ⟨h, fun event _ change change' hold hnew hne _ => ?_⟩
  rw [hchanges, hold] at hnew
  exact absurd (Option.some.inj hnew).symm hne

/-- The notes that no snapshot is needed for. -/
def RemoteEvent.isCall : RemoteEvent → Bool
  | .executeCalled _ _ => true
  | _ => false

theorem worksWithin_of_noted {focus : Option ChangeEvent}
    {authorised : ChangeEvent → CoordinatorWorld E → Prop} {events : List RemoteEvent}
    {w w' : CoordinatorWorld E} (h : Noted events w w')
    (hharmless : ∀ event ∈ events, event.isCall = false) : WorksWithin focus authorised w w' := by
  refine worksWithin_of_evolves (evolves_of_noted h fun key step hmem => ?_) h.changes
  cases hharmless _ hmem

theorem worksWithin_of_quiet {focus : Option ChangeEvent}
    {authorised : ChangeEvent → CoordinatorWorld E → Prop} {w w' : CoordinatorWorld E}
    (h : Noted [] w w') : WorksWithin focus authorised w w' :=
  worksWithin_of_noted h (by simp)

/-! ## Updates of a workflow -/

/-- The world with a workflow stored. -/
def World.putWorkflow (w : CoordinatorWorld E) (record : WorkflowExecutionRecord) :
    CoordinatorWorld E :=
  { w with rest := { w.rest with workflows := w.rest.workflows.put record } }

@[simp] theorem World.workflow?_putWorkflow_self (w : CoordinatorWorld E)
    (record : WorkflowExecutionRecord) :
    (w.putWorkflow record).workflow? record.key = some record :=
  InMemoryWorkflowRepository.stored?_put_self _ _

theorem World.workflow?_putWorkflow_ne (w : CoordinatorWorld E)
    {record : WorkflowExecutionRecord} {key : WorkflowKey} (h : key ≠ record.key) :
    (w.putWorkflow record).workflow? key = w.workflow? key :=
  InMemoryWorkflowRepository.stored?_put_ne _ h

theorem planBound_putWorkflow {event : ChangeEvent} {w : CoordinatorWorld E}
    {record : WorkflowExecutionRecord}
    (hextends : ∀ current, w.workflow? record.key = some current → Extends current record)
    (h : PlanBound event w) : PlanBound event (w.putWorkflow record) := by
  obtain ⟨change, stored, plan, hchange, hstored, hplan, hhash, hversion⟩ := h
  by_cases hk : workflowKey event = record.key
  · rw [hk] at hstored
    have hkept := ((hextends stored hstored).plan (by rw [hplan]; rfl)).1
    exact ⟨change, record, plan, hchange, by rw [hk]; exact w.workflow?_putWorkflow_self record,
      hkept.trans hplan, hhash, hversion⟩
  · exact ⟨change, stored, plan, hchange,
      (w.workflow?_putWorkflow_ne hk).trans hstored, hplan, hhash, hversion⟩

/-- An update that extends what it replaces, and whose snapshots were captured in time. -/
theorem evolves_putWorkflow {focus : Option ChangeEvent} {w : CoordinatorWorld E}
    {record : WorkflowExecutionRecord}
    (hextends : ∀ current, w.workflow? record.key = some current → Extends current record)
    (hdistinct : Consistent focus w → record.stepIds.Nodup)
    (hcaptured : Consistent focus w → SnapshotsCaptured w.rest.log record.key record.tasks) :
    Evolves focus w (w.putWorkflow record) := by
  refine ⟨fun key => .refl _, ?_, List.prefix_rfl, ?_,
    fun event _ => planBound_putWorkflow hextends⟩
  · intro key stored hstored
    by_cases hk : key = record.key
    · subst hk
      exact ⟨record, w.workflow?_putWorkflow_self record, hextends stored hstored⟩
    · exact ⟨stored, (w.workflow?_putWorkflow_ne hk).trans hstored, .refl stored⟩
  · intro hc
    refine ⟨?_, ⟨?_, ?_⟩, ?_⟩
    · intro key stored hstored
      rcases w.rest.workflows.stored?_put_cases hstored with ⟨-, rfl⟩ | ⟨-, hold⟩
      · exact hdistinct hc
      · exact hc.tasks key stored hold
    · intro key stored hstored
      rcases w.rest.workflows.stored?_put_cases hstored with ⟨rfl, rfl⟩ | ⟨-, hold⟩
      · exact hcaptured hc
      · exact hc.snapshots.captured key stored hold
    · intro key step hmem
      obtain ⟨stored, hstored, hplan, hall⟩ := hc.snapshots.called key step hmem
      by_cases hk : key = record.key
      · subst hk
        have hext := hextends stored hstored
        refine ⟨record, w.workflow?_putWorkflow_self record, ?_, hext.hasSnapshots hplan hall⟩
        rw [(hext.plan hplan).1]
        exact hplan
      · exact ⟨stored, (w.workflow?_putWorkflow_ne hk).trans hstored, hplan, hall⟩
    · intro event hmem
      exact ⟨(hc.binding event hmem).workflowId, fun change hstored hstatus =>
        planBound_putWorkflow hextends ((hc.binding event hmem).bound change hstored hstatus)⟩

/-! ## Commits and additions of a change -/

/-- A lawful commit. If it is about the change of the focused event, the change must keep
naming the workflow, its plan must stay bound, and it must be bound where that matters. -/
theorem evolves_commit {focus : Option ChangeEvent} {w : CoordinatorWorld E}
    {replaced updated : ChangeRecord} {auditEvent : AuditEvent}
    (hstored : w.changes.stored? (updated.tenantId, updated.changeId) = some replaced)
    (hadvances : Advances (some replaced) (some updated))
    (hid : Consistent focus w → ∀ event ∈ focus,
      changeKey event = (updated.tenantId, updated.changeId) →
      updated.workflowExecutionId = none ∨
        updated.workflowExecutionId = some (deriveWorkflowId event))
    (hbound : ∀ event ∈ focus, changeKey event = (updated.tenantId, updated.changeId) →
      PlanBound event w → PlanBound event (w.commit updated auditEvent))
    (hstatus : Consistent focus w → ∀ event ∈ focus,
      changeKey event = (updated.tenantId, updated.changeId) → updated.status.isBound = true →
      PlanBound event (w.commit updated auditEvent)) :
    Evolves focus w (w.commit updated auditEvent) := by
  have hkeeps : ∀ event ∈ focus, PlanBound event w →
      PlanBound event (w.commit updated auditEvent) := by
    intro event hmem hb
    by_cases hk : changeKey event = (updated.tenantId, updated.changeId)
    · exact hbound event hmem hk hb
    · obtain ⟨change, record, plan, hchange, hrest⟩ := hb
      exact ⟨change, record, plan, (w.stored?_commit_ne auditEvent hk).trans hchange, hrest⟩
  refine ⟨?_, fun key record h => ⟨record, h, .refl record⟩, List.prefix_rfl, ?_, hkeeps⟩
  · intro key
    by_cases hk : key = (updated.tenantId, updated.changeId)
    · subst hk
      rw [hstored, World.stored?_commit_self]
      exact hadvances
    · rw [World.stored?_commit_ne w auditEvent hk]
      exact .refl _
  · intro hc
    refine ⟨hc.tasks, ⟨hc.snapshots.captured, hc.snapshots.called⟩, fun event hmem => ?_⟩
    by_cases hk : changeKey event = (updated.tenantId, updated.changeId)
    · refine ⟨fun change h => ?_, fun change h hb => ?_⟩ <;>
        rw [hk, World.stored?_commit_self] at h <;> cases h
      · exact hid hc event hmem hk
      · exact hstatus hc event hmem hk hb
    · refine ⟨fun change h => ?_, fun change h hb => ?_⟩ <;>
        rw [World.stored?_commit_ne w auditEvent hk] at h
      · exact (hc.binding event hmem).workflowId change h
      · exact hkeeps event hmem ((hc.binding event hmem).bound change h hb)

/-- A new change, which is not in a state that needs a plan. -/
theorem evolves_add {focus : Option ChangeEvent} {w : CoordinatorWorld E} {change : ChangeRecord}
    {auditEvent : AuditEvent}
    (hnone : w.changes.stored? (change.tenantId, change.changeId) = none)
    (hid : change.workflowExecutionId = none) (hstatus : change.status.isBound = false) :
    Evolves focus w
      { w with changes := ((w.changes.put change).claimId change).appendAudit auditEvent } := by
  have hself : ((w.changes.put change).claimId change).stored?
      (change.tenantId, change.changeId) = some change := stored?_put_self _ _
  have hother : ∀ key, key ≠ (change.tenantId, change.changeId) →
      ((w.changes.put change).claimId change).stored? key = w.changes.stored? key :=
    fun key hk => stored?_put_ne _ hk
  have hkeeps : ∀ event ∈ focus, PlanBound event w → PlanBound event
      { w with changes := ((w.changes.put change).claimId change).appendAudit auditEvent } := by
    rintro event - ⟨stored, record, plan, hchange, hrest⟩
    by_cases hk : changeKey event = (change.tenantId, change.changeId)
    · rw [hk, hnone] at hchange
      cases hchange
    · exact ⟨stored, record, plan, (hother _ hk).trans hchange, hrest⟩
  refine ⟨?_, fun key record h => ⟨record, h, .refl record⟩, List.prefix_rfl, ?_, hkeeps⟩
  · intro key
    by_cases hk : key = (change.tenantId, change.changeId)
    · subst hk
      rw [hnone]
      trivial
    · rw [show (((w.changes.put change).claimId change).appendAudit auditEvent).stored? key =
        w.changes.stored? key from hother key hk]
      exact .refl _
  · intro hc
    refine ⟨hc.tasks, ⟨hc.snapshots.captured, hc.snapshots.called⟩, fun event hmem => ?_⟩
    by_cases hk : changeKey event = (change.tenantId, change.changeId)
    · refine ⟨fun stored h => ?_, fun stored h hb => ?_⟩ <;>
        obtain rfl := Option.some.inj (hself.symm.trans (hk ▸ h))
      · exact .inl hid
      · rw [hstatus] at hb
        cases hb
    · refine ⟨fun stored h => ?_, fun stored h hb => ?_⟩ <;>
        replace h := (hother _ hk).symm.trans h
      · exact (hc.binding event hmem).workflowId stored h
      · exact hkeeps event hmem ((hc.binding event hmem).bound stored h hb)

end ChangeOps
